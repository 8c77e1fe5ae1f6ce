import OpteeTest.Sha2Impl
import OpteeTest.Sha2Spec
import Mathlib.Tactic.IntervalCases

/-! # The block loop computes the standard compression function -/
namespace Sha2Compression

open BigEndian Sha2Impl

theorem primes_length : Sha2Spec.primes.length = 64 := by
  decide +kernel

theorem sha256K_table : sha256K = Sha2Spec.primes.map Sha2Spec.cubeRootWord := by
  decide +kernel

theorem sha256H0_table :
    sha256H0 = (Sha2Spec.primes.take 8).map Sha2Spec.squareRootWord := by
  decide +kernel

theorem sha224H0_table :
    sha224H0 = ((Sha2Spec.primes.drop 8).take 8).map Sha2Spec.squareRootSecondWord := by
  decide +kernel

theorem sha256K_eq {t : ℕ} (ht : t < 64) : sha256K.getD t 0 = Sha2Spec.roundConstant t := by
  have hlen : t < Sha2Spec.primes.length := by rwa [primes_length]
  rw [sha256K_table, Sha2Spec.roundConstant, List.getD_eq_getElem _ _ hlen,
    List.getD_eq_getElem _ _ (by rwa [List.length_map]), List.getElem_map]

theorem sha256H0_eq (i : Fin 8) : sha256H0.getD i 0 = Sha2Spec.initialHash256.get i := by
  have hlen : i.val < Sha2Spec.primes.length := by rw [primes_length]; omega
  change _ = Sha2Spec.initialHash256[i]
  simp [sha256H0_table, Sha2Spec.initialHash256, hlen]

theorem sha224H0_eq (i : Fin 8) : sha224H0.getD i 0 = Sha2Spec.initialHash224.get i := by
  have hlen : i.val + 8 < Sha2Spec.primes.length := by rw [primes_length]; omega
  change _ = Sha2Spec.initialHash224[i]
  simp [sha224H0_table, Sha2Spec.initialHash224, hlen, Nat.add_comm 8]

theorem shiftByte_toNat (b : UInt8) {k : UInt32} (hk : k.toNat ≤ 24) :
    (b.toUInt32 <<< k).toNat = b.toNat <<< k.toNat := by
  have hb := b.toNat_lt
  have hpow : 2 ^ k.toNat ≤ 2 ^ 24 := Nat.pow_le_pow_right (by decide) hk
  have hlt : b.toNat * 2 ^ k.toNat < 2 ^ 32 := by
    calc b.toNat * 2 ^ k.toNat ≤ 255 * 2 ^ 24 := Nat.mul_le_mul (by omega) hpow
      _ < 2 ^ 32 := by decide
  rw [UInt32.toNat_shiftLeft, UInt8.toNat_toUInt32, Nat.mod_eq_of_lt (by omega : k.toNat < 32),
    Nat.shiftLeft_eq, Nat.mod_eq_of_lt hlt]

theorem pack32_eq (str : ℕ → UInt8) (off : ℕ) :
    pack32 str off = UInt32.ofNat (be32 (str off).toNat (str (off + 1)).toNat
      (str (off + 2)).toNat (str (off + 3)).toNat) := by
  have h₀ := (str off).toNat_lt
  have h₁ := (str (off + 1)).toNat_lt
  have h₂ := (str (off + 2)).toNat_lt
  have h₃ := (str (off + 3)).toNat_lt
  apply UInt32.toNat_inj.mp
  rw [UInt32.toNat_ofNat_of_lt' (be32_lt h₀ h₁ h₂ h₃), ← or_eq_be32 h₁ h₂ h₃, pack32,
    UInt32.toNat_or, UInt32.toNat_or, UInt32.toNat_or, shiftByte_toNat _ (by decide),
    shiftByte_toNat _ (by decide), shiftByte_toNat _ (by decide), UInt8.toNat_toUInt32]
  rfl

theorem unpack32_eq (x : UInt32) : unpack32 x = beBytes 4 x.toNat := by
  rw [beBytes_four, unpack32]
  simp only [List.cons.injEq, and_true]
  refine ⟨?_, ?_, ?_, ?_⟩ <;> apply UInt8.toNat_inj.mp <;>
    simp [UInt32.toNat_shiftRight, Nat.shiftRight_eq_div_pow]

theorem messageSchedule_of_lt (block : List UInt8) {t : ℕ} (h : t < 16) :
    Sha2Spec.messageSchedule block t = Sha2Spec.messageWord block t := by
  rw [Sha2Spec.messageSchedule, if_pos h]

theorem messageSchedule_of_le (block : List UInt8) {t : ℕ} (h : 16 ≤ t) :
    Sha2Spec.messageSchedule block t =
      Sha2Spec.smallSigma1 (Sha2Spec.messageSchedule block (t - 2)) +
        Sha2Spec.messageSchedule block (t - 7) +
        Sha2Spec.smallSigma0 (Sha2Spec.messageSchedule block (t - 15)) +
        Sha2Spec.messageSchedule block (t - 16) := by
  rw [Sha2Spec.messageSchedule, if_neg (by omega)]

def bytesOf (subBlock : ℕ → UInt8) : List UInt8 := (List.range 64).map subBlock

theorem bytesOf_getD (subBlock : ℕ → UInt8) {i : ℕ} (h : i < 64) :
    (bytesOf subBlock).getD i 0 = subBlock i := by
  simp [bytesOf, List.getD_eq_getElem?_getD, h]

theorem messageWord_bytesOf (subBlock : ℕ → UInt8) {t : ℕ} (h : t < 16) :
    Sha2Spec.messageWord (bytesOf subBlock) t = pack32 subBlock (t <<< 2) := by
  have ht : t <<< 2 = 4 * t := by rw [Nat.shiftLeft_eq]; omega
  rw [pack32_eq, ht, Sha2Spec.messageWord, bytesOf_getD _ (by omega), bytesOf_getD _ (by omega),
    bytesOf_getD _ (by omega), bytesOf_getD _ (by omega)]

theorem getD_set {w : List UInt32} {i : ℕ} (x : UInt32) (hi : i < w.length) (t : ℕ) :
    (w.set i x).getD t 0 = if t = i then x else w.getD t 0 := by
  simp only [List.getD_eq_getElem?_getD, List.getElem?_set]
  by_cases h : i = t
  · subst h
    simp [hi]
  · simp [h, Ne.symm h]

/-- The first loop: after `n` turns the first `n` words are those of the block. -/
theorem packLoop (subBlock : ℕ → UInt8) {n : ℕ} (hn : n ≤ 16) {w : List UInt32}
    (hlen : w.length = 64) :
    let w := (List.range n).foldl (fun w j => w.set j (pack32 subBlock (j <<< 2))) w
    w.length = 64 ∧ ∀ t < n, w.getD t 0 = Sha2Spec.messageSchedule (bytesOf subBlock) t := by
  induction n with
  | zero => exact ⟨hlen, fun t ht => absurd ht (Nat.not_lt_zero t)⟩
  | succ n ih =>
    obtain ⟨hlen, hw⟩ := ih (by omega)
    simp only [List.range_succ, List.foldl_append, List.foldl_cons, List.foldl_nil,
      List.length_set]
    refine ⟨hlen, fun t ht => ?_⟩
    rw [getD_set _ (by rw [hlen]; omega)]
    split_ifs with heq
    · rw [heq, messageSchedule_of_lt _ (by omega), messageWord_bytesOf _ (by omega)]
    · exact hw t (by omega)

/-- The second loop: after `n` turns the first `16 + n` words follow the recurrence. -/
theorem scheduleLoop (subBlock : ℕ → UInt8) {n : ℕ} (hn : n ≤ 48) {w : List UInt32}
    (hlen : w.length = 64)
    (hw : ∀ t < 16, w.getD t 0 = Sha2Spec.messageSchedule (bytesOf subBlock) t) :
    let w := (List.range' 16 n).foldl sha256Scr w
    w.length = 64 ∧
      ∀ t < 16 + n, w.getD t 0 = Sha2Spec.messageSchedule (bytesOf subBlock) t := by
  induction n with
  | zero => exact ⟨hlen, fun t ht => hw t ht⟩
  | succ n ih =>
    obtain ⟨hlen', hw'⟩ := ih (by omega)
    rw [List.range'_concat, Nat.one_mul]
    simp only [List.foldl_append, List.foldl_cons, List.foldl_nil]
    generalize (List.range' 16 n).foldl sha256Scr w = v at hlen' hw'
    refine ⟨by simpa [sha256Scr] using hlen', fun t ht => ?_⟩
    rw [sha256Scr, getD_set _ (by rw [hlen']; omega)]
    split_ifs with heq
    · rw [heq, messageSchedule_of_le _ (by omega), hw' _ (by omega), hw' _ (by omega),
        hw' _ (by omega), hw' _ (by omega)]
      rfl
    · exact hw' t (by omega)

theorem filled (subBlock : ℕ → UInt8) {w : List UInt32} (hlen : w.length = 64) :
    let w := (List.range' 16 48).foldl sha256Scr
      ((List.range 16).foldl (fun w j => w.set j (pack32 subBlock (j <<< 2))) w)
    w.length = 64 ∧ ∀ t < 64, w.getD t 0 = Sha2Spec.messageSchedule (bytesOf subBlock) t := by
  obtain ⟨hlen', hw⟩ := packLoop subBlock (le_refl 16) hlen
  exact scheduleLoop subBlock (le_refl 48) hlen' hw

theorem fillW_getD (subBlock : ℕ → UInt8) {t : ℕ} (ht : t < 64) :
    (fillW subBlock).getD t 0 = Sha2Spec.messageSchedule (bytesOf subBlock) t := by
  have hfilled := filled subBlock (w := List.replicate 64 0) List.length_replicate
  exact hfilled.2 t ht

def toArray (v : Sha2Spec.WorkingVariables) : Vector UInt32 8 :=
  #v[v.a, v.b, v.c, v.d, v.e, v.f, v.g, v.h]

theorem turn_eq (w : List UInt32) (v : Sha2Spec.WorkingVariables) (j : ℕ) :
    turn w (toArray v) j = toArray (Sha2Spec.round (sha256K.getD j 0) (w.getD j 0) v) :=
  rfl

theorem turns_eq (subBlock : ℕ → UInt8) (v : Sha2Spec.WorkingVariables) {n : ℕ} (hn : n ≤ 64) :
    (List.range n).foldl (turn (fillW subBlock)) (toArray v) =
      toArray ((List.range n).foldl (fun v t => Sha2Spec.round (Sha2Spec.roundConstant t)
        (Sha2Spec.messageSchedule (bytesOf subBlock) t) v) v) := by
  induction n with
  | zero => rfl
  | succ n ih =>
    simp only [List.range_succ, List.foldl_append, List.foldl_cons, List.foldl_nil]
    rw [ih (by omega), turn_eq, sha256K_eq (by omega), fillW_getD _ (by omega)]

theorem toArray_vars (h : Vector UInt32 8) :
    toArray ⟨h.get 0, h.get 1, h.get 2, h.get 3, h.get 4, h.get 5, h.get 6, h.get 7⟩ = h := by
  apply Vector.ext
  intro i hi
  interval_cases i <;> rfl

theorem rounds_eq (h : Vector UInt32 8) (subBlock : ℕ → UInt8) :
    (List.range 64).foldl (turn (fillW subBlock)) h =
      toArray (Sha2Spec.rounds (bytesOf subBlock) h) := by
  have hturns := turns_eq subBlock
    ⟨h.get 0, h.get 1, h.get 2, h.get 3, h.get 4, h.get 5, h.get 6, h.get 7⟩ le_rfl
  rwa [toArray_vars] at hturns

theorem compress_eq (h : Vector UInt32 8) (block : List UInt8) :
    Sha2Spec.compress h block =
      Vector.ofFn fun i => (toArray (Sha2Spec.rounds block h)).get i + h.get i := by
  apply Vector.ext
  intro i hi
  interval_cases i <;> rfl

theorem transfBlock_eq (h : Vector UInt32 8) (subBlock : ℕ → UInt8) :
    transfBlock h subBlock = Sha2Spec.compress h (bytesOf subBlock) := by
  rw [compress_eq, ← rounds_eq, transfBlock]
  exact congrArg Vector.ofFn (funext fun i => UInt32.add_comm _ _)

/-- `sha256_transf` folds the compression function over the blocks it is fed. -/
theorem sha256Transf_eq (h : Vector UInt32 8) (message : ℤ → UInt8) (blockNb : UInt32) :
    sha256Transf h message blockNb = (transfFed message blockNb).foldl Sha2Spec.compress h := by
  rw [sha256Transf, transfFed, List.foldl_map]
  exact congrArg (fun f => (blockTurns blockNb).foldl f h)
    (funext₂ fun h i => transfBlock_eq h (subBlock message i))

end Sha2Compression
