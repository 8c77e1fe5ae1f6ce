import OpteeTest.AesWords

/-! # The key schedules

`rijndaelSetupEncrypt` writes the words of the key expansion; `rijndaelSetupDecrypt` reverses
the round keys and passes the inner ones through the inverse MixColumn transform. -/
namespace AesKeySchedule

open ByteMemory TeeApi AesSpec AesTables AesImpl AesWords

variable {A : Arch} {K : KeySize} {key : List UInt8} {rk : Memory (U32 A)} {n : ℕ}

theorem keyExpansion_key {i : ℕ} (h : i < K.words) :
    keyExpansion K key i = .ofBytes key (4 * i) := by
  rw [keyExpansion, if_pos h]

theorem keyExpansion_rotated (key : List UInt8) {i : ℕ} (h : K.words ≤ i) (h0 : i % K.words = 0) :
    keyExpansion K key i = keyExpansion K key (i - K.words) ^^^
      (subWord (rotWord (keyExpansion K key (i - 1))) ^^^ AesSpec.rcon (i / K.words)) := by
  rw [keyExpansion, if_neg (Nat.not_lt.mpr h)]
  simp only [h0, if_true]

theorem keyExpansion_substituted (key : List UInt8) {i : ℕ} (h : K.words ≤ i)
    (h4 : 6 < K.words ∧ i % K.words = 4) : keyExpansion K key i =
      keyExpansion K key (i - K.words) ^^^ subWord (keyExpansion K key (i - 1)) := by
  have h0 : i % K.words ≠ 0 := by omega
  rw [keyExpansion, if_neg (Nat.not_lt.mpr h)]
  dsimp only
  rw [if_neg h0, if_pos h4]

def Plain (K : KeySize) (i : ℕ) : Prop :=
  K.words ≤ i ∧ i % K.words ≠ 0 ∧ ¬ (6 < K.words ∧ i % K.words = 4)

theorem keyExpansion_plain (key : List UInt8) {i : ℕ} (h : Plain K i) : keyExpansion K key i =
    keyExpansion K key (i - K.words) ^^^ keyExpansion K key (i - 1) := by
  rw [keyExpansion, if_neg (Nat.not_lt.mpr h.1)]
  simp only [h.2.1, h.2.2, if_false]

def Holds (K : KeySize) (key : List UInt8) (n : ℕ) (rk : Memory (U32 A)) : Prop :=
  ∀ j < n, rk j = word (keyExpansion K key j)

theorem Holds.extend {l : List (U32 A)} {m : ℕ} (h : Holds K key n rk) (hm : m = n)
    (hl : l = (List.range l.length).map fun j => word (keyExpansion K key (n + j))) :
    Holds K key (n + l.length) (copyIn rk m l) := by
  subst hm
  intro j hj
  by_cases hjm : j < m
  · rw [copyIn_before rk l hjm]
    exact h j hjm
  · obtain ⟨d, rfl⟩ := Nat.exists_eq_add_of_le (Nat.not_lt.mp hjm)
    have hd : d < l.length := by omega
    rw [copyIn_inside rk hd]
    have hget := List.getElem_of_eq hl hd
    rw [hget, List.getElem_map, List.getElem_range]

/-- Four words starting at `m`, of which the last three are plain. -/
theorem fourWords_eq {p m : ℕ} {temp : Word} (h : Holds K key n rk) (hm : m = p + K.words)
    (hn : p + 3 < n)
    (hfirst : keyExpansion K key m = keyExpansion K key p ^^^ temp)
    (h₁ : Plain K (m + 1)) (h₂ : Plain K (m + 2)) (h₃ : Plain K (m + 3)) :
    fourWords rk p (word temp) =
      (List.range 4).map fun j => word (keyExpansion K key (m + j)) := by
  have hw₁ := keyExpansion_plain key h₁
  have hw₂ := keyExpansion_plain key h₂
  have hw₃ := keyExpansion_plain key h₃
  have hb₁ : m + 1 - K.words = p + 1 := by omega
  have hb₂ : m + 2 - K.words = p + 2 := by omega
  have hb₃ : m + 3 - K.words = p + 3 := by omega
  rw [hb₁, Nat.add_sub_cancel] at hw₁
  rw [hb₂] at hw₂
  rw [hb₃] at hw₃
  rw [fourWords, h p (by omega), h (p + 1) (by omega), h (p + 2) (by omega), h (p + 3) hn]
  simp only [← word_xor, ← hfirst]
  have hs₁ : keyExpansion K key (p + 1) ^^^ keyExpansion K key m = keyExpansion K key (m + 1) :=
    hw₁.symm
  have hs₂ : keyExpansion K key (p + 2) ^^^ keyExpansion K key (m + 1) =
      keyExpansion K key (m + 2) := hw₂.symm
  have hs₃ : keyExpansion K key (p + 3) ^^^ keyExpansion K key (m + 2) =
      keyExpansion K key (m + 3) := hw₃.symm
  simp only [hs₁, hs₂, hs₃]
  rfl

theorem rcon_eq : ∀ i < 10, (AesImpl.rcon.getD i 0) = number (AesSpec.rcon (i + 1)) := by
  decide +kernel

theorem rotatedTemp_eq (w : Word) {i : ℕ} (hi : i < 10) :
    rotatedTemp (word w : U32 A) i = word (subWord (rotWord w) ^^^ AesSpec.rcon (i + 1)) := by
  rw [rotatedTemp, byte2_word, byte1_word, byte0_word, byte3_word, te4_row, rcon_eq i hi, word_xor]
  rfl

theorem substitutedTemp_eq (w : Word) : substitutedTemp (word w : U32 A) = word (subWord w) := by
  rw [substitutedTemp, byte3_word, byte2_word, byte1_word, byte0_word, te4_row]

/-- The four words at the head of an iteration, whatever the key size. -/
theorem Holds.firstWords {p i : ℕ} (h : Holds K key (p + K.words) rk) (hp : p = K.words * i)
    (hi : i < 10) : Holds K key (p + K.words + 4) (copyIn rk (p + K.words)
      (fourWords rk p (rotatedTemp (rk (p + K.words - 1)) i))) := by
  have hge := K.words_ge
  have hmul : p + K.words = K.words * (i + 1) := by rw [hp, Nat.mul_succ]
  have hmod : (p + K.words) % K.words = 0 := by rw [hmul, Nat.mul_mod_right]
  have hdiv : (p + K.words) / K.words = i + 1 := by
    rw [hmul, Nat.mul_div_cancel_left _ (by omega)]
  have hfirst := keyExpansion_rotated key (i := p + K.words) (by omega) hmod
  rw [Nat.add_sub_cancel, hdiv] at hfirst
  have hplain (j : ℕ) (hj : 1 ≤ j) (hj4 : j < 4) : Plain K (p + K.words + j) := by
    have hmodj : (p + K.words + j) % K.words = j := by
      rw [hmul, Nat.mul_add_mod, Nat.mod_eq_of_lt (by omega)]
    unfold Plain
    omega
  rw [h (p + K.words - 1) (by omega), rotatedTemp_eq _ hi]
  exact h.extend rfl (fourWords_eq h rfl (by omega) hfirst (hplain 1 (by omega) (by omega))
    (hplain 2 (by omega) (by omega)) (hplain 3 (by omega) (by omega)))

theorem expand128_holds (rk : Memory (U32 A)) (p : ℕ) (i : Fin 10) (hp : p = 4 * i)
    (h : Holds .aes128 key (p + 4) rk) : Holds .aes128 key 44 (expand128 rk p i) := by
  fun_induction expand128 rk p i with
  | case1 rk p i rk' hi =>
    have hfirst := h.firstWords hp i.isLt
    have hend : p + KeySize.aes128.words + 4 = 44 := by
      simp only [KeySize.words]
      omega
    rw [hend] at hfirst
    exact hfirst
  | case2 rk p i rk' hi ih => exact ih (by dsimp only; omega) (h.firstWords hp i.isLt)

theorem expand192_holds (rk : Memory (U32 A)) (p : ℕ) (i : Fin 8) (hp : p = 6 * i)
    (h : Holds .aes192 key (p + 6) rk) : Holds .aes192 key 52 (expand192 rk p i) := by
  fun_induction expand192 rk p i with
  | case1 rk p i rk' hi =>
    have hfirst := h.firstWords hp (by omega)
    have hend : p + KeySize.aes192.words + 4 = 52 := by
      simp only [KeySize.words]
      omega
    rw [hend] at hfirst
    exact hfirst
  | case2 rk p i rk' hi w10 w11 ih =>
    have hfirst : Holds .aes192 key (p + 10) rk' := h.firstWords hp (by omega)
    have hplain (j : ℕ) (hj : 4 ≤ j) (hj6 : j < 6) : Plain .aes192 (p + 6 + j) := by
      simp only [Plain, KeySize.words]
      omega
    have h₁₀ : w10 = word (keyExpansion .aes192 key (p + 10)) := by
      rw [keyExpansion_plain key (hplain 4 (by omega) (by omega)), word_xor]
      exact congrArg₂ (· ^^^ ·) (hfirst (p + 4) (by omega)) (hfirst (p + 9) (by omega))
    have h₁₁ : w11 = word (keyExpansion .aes192 key (p + 11)) := by
      rw [keyExpansion_plain key (hplain 5 (by omega) (by omega)), word_xor]
      exact congrArg₂ (· ^^^ ·) (hfirst (p + 5) (by omega)) h₁₀
    have hrest : [w10, w11] = (List.range 2).map fun j =>
        word (keyExpansion .aes192 key (p + 10 + j)) := by
      rw [h₁₀, h₁₁]
      rfl
    exact ih (by dsimp only; omega) (hfirst.extend rfl hrest)

theorem expand256_holds (rk : Memory (U32 A)) (p : ℕ) (i : Fin 7) (hp : p = 8 * i)
    (h : Holds .aes256 key (p + 8) rk) : Holds .aes256 key 60 (expand256 rk p i) := by
  fun_induction expand256 rk p i with
  | case1 rk p i rk' hi =>
    have hfirst := h.firstWords hp (by omega)
    have hend : p + KeySize.aes256.words + 4 = 60 := by
      simp only [KeySize.words]
      omega
    rw [hend] at hfirst
    exact hfirst
  | case2 rk p i rk' hi rk'' ih =>
    have hfirst : Holds .aes256 key (p + 12) rk' := h.firstWords hp (by omega)
    have hsub : 6 < KeySize.aes256.words ∧ (p + 12) % KeySize.aes256.words = 4 := by
      simp only [KeySize.words]
      omega
    have hplain (j : ℕ) (hj : 5 ≤ j) (hj8 : j < 8) : Plain .aes256 (p + 8 + j) := by
      simp only [Plain, KeySize.words]
      omega
    have htemp := keyExpansion_substituted (K := .aes256) key (i := p + 12)
      (by simp only [KeySize.words]; omega) hsub
    have hrk : rk' (p + 11) = word (keyExpansion .aes256 key (p + 11)) := hfirst _ (by omega)
    have hfour := fourWords_eq (p := p + 4) (m := p + 12) hfirst rfl (by omega) htemp
      (hplain 5 (by omega) (by omega)) (hplain 6 (by omega) (by omega))
      (hplain 7 (by omega) (by omega))
    refine ih (by dsimp only; omega) ?_
    rw [← substitutedTemp_eq, Nat.add_sub_assoc (by omega : 1 ≤ 12), ← hrk] at hfour
    exact hfirst.extend rfl hfour

def keyBits : KeySize → ℤ
  | .aes128 => 128
  | .aes192 => 192
  | .aes256 => 256

def keyBytes (K : KeySize) (key : Memory UInt8) : List UInt8 := slice key 0 (4 * K.words)

theorem getu32_key (key : Memory UInt8) {j : ℕ} (h : j < K.words) :
    (getu32 key (4 * j) : U32 A) = word (keyExpansion K (keyBytes K key) j) := by
  have hget (i : ℕ) (hi : i < 4 * K.words) : (keyBytes K key).getD i 0 = key i := by
    rw [List.getD_eq_getElem _ _ (by simpa [keyBytes] using hi)]
    simp [keyBytes]
  rw [getu32_eq, keyExpansion_key h, Word.ofBytes, hget _ (by omega), hget _ (by omega),
    hget _ (by omega), hget _ (by omega)]

theorem Holds.load {key : Memory UInt8} (h : Holds K (keyBytes K key) n rk) {l : List (U32 A)}
    (hl : l = (List.range l.length).map fun j => getu32 key (4 * (n + j)))
    (hn : n + l.length ≤ K.words) : Holds K (keyBytes K key) (n + l.length) (copyIn rk n l) := by
  refine h.extend rfl ?_
  rw [hl, List.length_map, List.length_range]
  refine List.map_congr_left fun j hj => ?_
  have hj' := List.mem_range.mp hj
  exact getu32_key key (by omega)

theorem setupEncrypt_rounds (rk : Memory (U32 A)) (key : Memory UInt8) :
    (rijndaelSetupEncrypt rk key (keyBits K)).1 = K.rounds := by
  cases K <;> rfl

/-- The encryption schedule is the key expansion, whatever `rk` held before. -/
theorem setupEncrypt_holds (rk : Memory (U32 A)) (key : Memory UInt8) :
    Holds K (keyBytes K key) (4 * (K.rounds + 1)) (rijndaelSetupEncrypt rk key (keyBits K)).2 := by
  have hfour : Holds K (keyBytes K key) 4
      (copyIn rk 0 [getu32 key 0, getu32 key 4, getu32 key 8, getu32 key 12]) :=
    Holds.load (n := 0) (l := [getu32 key 0, getu32 key 4, getu32 key 8, getu32 key 12])
      (fun j hj => absurd hj (Nat.not_lt_zero j)) rfl K.words_ge
  cases K with
  | aes128 => exact expand128_holds _ 0 0 rfl hfour
  | aes192 =>
    exact expand192_holds _ 0 0 rfl
      (hfour.load (l := [getu32 key 16, getu32 key 20]) rfl (Nat.le_refl 6))
  | aes256 =>
    have hsix := hfour.load (l := [getu32 key 16, getu32 key 20]) rfl (show 4 + 2 ≤ 8 by decide)
    exact expand256_holds _ 0 0 rfl
      (hsix.load (l := [getu32 key 24, getu32 key 28]) rfl (Nat.le_refl 8))

theorem setupEncrypt_keys (rk : Memory (U32 A)) (key : Memory UInt8) {r : ℕ}
    (hr : r ≤ K.rounds) :
    keyWords (rijndaelSetupEncrypt rk key (keyBits K)).2 (4 * r) =
      words (roundKey K (keyBytes K key) r) := by
  have h := setupEncrypt_holds (K := K) rk key
  rw [keyWords, h (4 * r) (by omega), h (4 * r + 1) (by omega), h (4 * r + 2) (by omega),
    h (4 * r + 3) (by omega)]
  rfl

theorem copyIn_one (v : U32 A) (i x : ℕ) : copyIn rk i [v] x = if x = i then v else rk x := by
  rcases Nat.lt_trichotomy x i with h | h | h
  · rw [copyIn_before rk _ h, if_neg (by omega)]
  · rw [if_pos h, h]
    exact copyIn_inside (i := 0) rk (show 0 < [v].length by simp)
  · have hlen : [v].length = 1 := rfl
    rw [copyIn_after rk (by omega), if_neg (by omega)]

/-- The memory when the first `c` words at `i` and at `j` have changed places. -/
def swapped (rk : Memory (U32 A)) (i j c : ℕ) : Memory (U32 A) := fun x =>
  if i ≤ x ∧ x < i + c then rk (x + j - i) else if j ≤ x ∧ x < j + c then rk (x + i - j) else rk x

theorem swapped_zero (rk : Memory (U32 A)) (i j : ℕ) : swapped rk i j 0 = rk := by
  funext x
  rw [swapped, if_neg (by omega), if_neg (by omega)]

theorem swapped_succ (rk : Memory (U32 A)) {i j c : ℕ} (h : i + c < j) :
    copyIn (copyIn (swapped rk i j c) (i + c) [swapped rk i j c (j + c)]) (j + c)
      [swapped rk i j c (i + c)] = swapped rk i j (c + 1) := by
  have hi : swapped rk i j c (i + c) = rk (i + c) := by
    rw [swapped, if_neg (by omega), if_neg (by omega)]
  have hj : swapped rk i j c (j + c) = rk (j + c) := by
    rw [swapped, if_neg (by omega), if_neg (by omega)]
  funext x
  rw [hi, hj, copyIn_one, copyIn_one]
  unfold swapped
  split_ifs <;> first | omega | exact congrArg rk (by omega)

/-- Round keys `i, …, j` change places; offsets inside a round key stay. -/
theorem swapLoop_eq (rk : Memory (U32 A)) (i j : ℕ) (hi : i % 4 = 0) (hj : j % 4 = 0)
    (x : ℕ) : swapLoop rk i j x =
      if i ≤ x ∧ x < j + 4 then rk (i + j - x / 4 * 4 + x % 4) else rk x := by
  fun_induction swapLoop rk i j with
  | case1 rk i j hij rk₁ rk₂ rk₃ rk₄ ih =>
    have h₁ : rk₁ = swapped rk i j 1 := by
      rw [← swapped_succ rk (by omega), swapped_zero]
      rfl
    have h₂ : rk₂ = swapped rk i j 2 := by
      rw [← swapped_succ rk (by omega), ← h₁]
    have h₃ : rk₃ = swapped rk i j 3 := by
      rw [← swapped_succ rk (by omega), ← h₂]
    have h₄ : rk₄ = swapped rk i j 4 := by
      rw [← swapped_succ rk (by omega), ← h₃]
    rw [ih (by omega) (by omega), h₄]
    unfold swapped
    split_ifs <;> first | omega | exact congrArg rk (by omega)
  | case2 rk i j hij =>
    split_ifs with h
    · exact congrArg rk (by omega)
    · rfl

theorem mixLoop_eq (rk : Memory (U32 A)) (p i nrounds x : ℕ) : mixLoop rk p i nrounds x =
    if p + 4 ≤ x ∧ x < p + 4 + 4 * (nrounds - i) then invMixWord (rk x) else rk x := by
  fun_induction mixLoop rk p i nrounds with
  | case1 rk p i hi p' rk₁ rk₂ rk₃ rk₄ ih =>
    have hrow : rk₄ = fun x => if p' ≤ x ∧ x < p' + 4 then invMixWord (rk x) else rk x := by
      funext y
      simp only [rk₄, rk₃, rk₂, rk₁, copyIn_one]
      split_ifs <;> first | omega | simp_all
    rw [ih, hrow]
    dsimp only
    split_ifs <;> first | omega | rfl
  | case2 rk p i hi => rw [if_neg (by omega)]

def decryptionKey (K : KeySize) (key : List UInt8) (r : ℕ) : State :=
  if 0 < r ∧ r < K.rounds then invMixColumns (roundKey K key (K.rounds - r))
  else roundKey K key (K.rounds - r)

theorem setupDecrypt_rounds (rk : Memory (U32 A)) (key : Memory UInt8) :
    (rijndaelSetupDecrypt rk key (keyBits K)).1 = K.rounds :=
  setupEncrypt_rounds rk key

theorem setupDecrypt_word (rk : Memory (U32 A)) (key : Memory UInt8) {r c : ℕ}
    (hr : r ≤ K.rounds) (hc : c < 4) : (rijndaelSetupDecrypt rk key (keyBits K)).2 (4 * r + c) =
      let w := keyExpansion K (keyBytes K key) (4 * (K.rounds - r) + c)
      word (if 0 < r ∧ r < K.rounds then invMixColumn w else w) := by
  have hrounds := setupEncrypt_rounds (K := K) rk key
  have hholds := setupEncrypt_holds (K := K) rk key
  have hsplit : (rijndaelSetupDecrypt rk key (keyBits K)).2 =
      mixLoop (swapLoop (rijndaelSetupEncrypt rk key (keyBits K)).2 0 (4 * K.rounds)) 0 1
        K.rounds := by
    rw [← hrounds]
    rfl
  have hindex : 0 + 4 * K.rounds - (4 * r + c) / 4 * 4 + (4 * r + c) % 4 =
      4 * (K.rounds - r) + c := by omega
  have hswap : swapLoop (rijndaelSetupEncrypt rk key (keyBits K)).2 0 (4 * K.rounds) (4 * r + c) =
      word (keyExpansion K (keyBytes K key) (4 * (K.rounds - r) + c)) := by
    rw [swapLoop_eq _ _ _ rfl (Nat.mul_mod_right 4 _), if_pos (by omega), hindex,
      hholds _ (by omega)]
  rw [hsplit, mixLoop_eq, hswap]
  dsimp only
  by_cases h : 0 < r ∧ r < K.rounds
  · rw [if_pos (by omega), if_pos h, invMixWord_word]
  · rw [if_neg (by omega), if_neg h]

theorem setupDecrypt_keys (rk : Memory (U32 A)) (key : Memory UInt8) {r : ℕ}
    (hr : r ≤ K.rounds) : keyWords (rijndaelSetupDecrypt rk key (keyBits K)).2 (4 * r) =
      words (decryptionKey K (keyBytes K key) r) := by
  have h₀ := setupDecrypt_word rk key hr (c := 0) (by omega)
  rw [Nat.add_zero] at h₀
  rw [keyWords, h₀, setupDecrypt_word rk key hr (by omega), setupDecrypt_word rk key hr (by omega),
    setupDecrypt_word rk key hr (by omega)]
  unfold decryptionKey words
  split_ifs <;> rfl

/-- The decryption schedule belongs to the equivalent inverse cipher. -/
theorem decryptionKey_inverse (K : KeySize) (key : List UInt8) :
    layers.InverseKeys (K.rounds - 1) (roundKey K key) (decryptionKey K key) := by
  have hpos : K.rounds - 1 + 1 = K.rounds := by cases K <;> rfl
  constructor
  · rw [hpos, decryptionKey, if_neg (by omega), Nat.sub_zero]
  · intro i hi
    have hindex : K.rounds - (i + 1) = K.rounds - 1 - i := by omega
    rw [decryptionKey, if_pos (by omega), hindex]
    rfl
  · rw [hpos, decryptionKey, if_neg (by omega), Nat.sub_self]

end AesKeySchedule
