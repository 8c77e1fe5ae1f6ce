import OpteeTest.AesCipher
import OpteeTest.EffectRuns

/-! # AES on 32-bit and 64-bit targets

The functions of the source, with an entry for each access to the round keys, each word they
compute and each table index they do not mask. Words of four bytes are closed under all they do,
so no entry depends on the width of `unsigned long`. -/
namespace AesTargets

open ByteMemory TeeApi AesSpec AesTables AesImpl AesWords AesKeySchedule AesCipher TracedRun

variable {A : Arch}

inductive AesEvent (A : Arch) where
  | read (i : ℕ)
  | write (i : ℕ) (v : U32 A)
  /-- A word assigned to a local variable. -/
  | computed (v : U32 A)
  /-- An index `x >> 24`, which no mask follows. -/
  | index (v : U32 A)

/-- Inside an array of `n` words, in 32 bits, inside a table of 256 entries. -/
def AesEvent.Fine (n : ℕ) : AesEvent A → Prop
  | .read i => i < n
  | .write i v => i < n ∧ v.toNat < 2 ^ 32
  | .computed v => v.toNat < 2 ^ 32
  | .index v => v.toNat < 256

abbrev AesRun (A : Arch) : Type → Type := Traced (Memory (U32 A)) (AesEvent A)

def readRk (i : ℕ) : AesRun A (U32 A) := act (.read i) fun rk => (rk i, rk)

def writeRk (i : ℕ) (v : U32 A) : AesRun A Unit := act (.write i v) fun rk => ((), copyIn rk i [v])

def compute (v : U32 A) : AesRun A (U32 A) := act (.computed v) fun rk => (v, rk)

def indexTop (x : U32 A) : AesRun A Unit := act (.index (byte3 x)) fun rk => ((), rk)

def readTemp (i : ℕ) : AesRun A (U32 A) := do
  let temp ← compute (← readRk i)
  indexTop temp
  pure temp

def xorRk (m p : ℕ) (v : U32 A) : AesRun A Unit := do
  writeRk m ((← readRk p) ^^^ v)

def xorNext (m p q : ℕ) : AesRun A Unit := do
  xorRk m p (← readRk q)

def fourWordsRun (p m : ℕ) (temp : U32 A) : AesRun A Unit := do
  xorRk m p temp
  xorNext (m + 1) (p + 1) m
  xorNext (m + 2) (p + 2) (m + 1)
  xorNext (m + 3) (p + 3) (m + 2)

/-- The head of an iteration: `temp = rk[q]`, and four words with its bytes rotated. -/
def headRun (p m q i : ℕ) : AesRun A Unit := do
  fourWordsRun p m (rotatedTemp (← readTemp q) i)

/-- The second half of an iteration for 256 bits, with the bytes of `temp` in place. -/
def tailRun (p m q : ℕ) : AesRun A Unit := do
  fourWordsRun p m (substitutedTemp (← readTemp q))

def expand128Run (p : ℕ) (i : Fin 10) : AesRun A ℕ := do
  headRun p (p + 4) (p + 3) i
  if h : i.val + 1 = 10 then pure 10 else expand128Run (p + 4) ⟨i + 1, by omega⟩
termination_by 10 - i.val

def expand192Run (p : ℕ) (i : Fin 8) : AesRun A ℕ := do
  headRun p (p + 6) (p + 5) i
  if h : i.val + 1 = 8 then pure 12
  else
    xorNext (p + 10) (p + 4) (p + 9)
    xorNext (p + 11) (p + 5) (p + 10)
    expand192Run (p + 6) ⟨i + 1, by omega⟩
termination_by 8 - i.val

def expand256Run (p : ℕ) (i : Fin 7) : AesRun A ℕ := do
  headRun p (p + 8) (p + 7) i
  if h : i.val + 1 = 7 then pure 14
  else
    tailRun (p + 4) (p + 12) (p + 11)
    expand256Run (p + 8) ⟨i + 1, by omega⟩
termination_by 7 - i.val

def loadKey (key : Memory UInt8) (i : ℕ) : AesRun A Unit := writeRk i (getu32 key (4 * i))

def loadTwo (key : Memory UInt8) (i : ℕ) : AesRun A Unit := do
  loadKey key i
  loadKey key (i + 1)

def rijndaelSetupEncryptRun (key : Memory UInt8) (keybits : ℤ) : AesRun A ℕ := do
  loadTwo key 0
  loadTwo key 2
  if keybits = 128 then expand128Run 0 0
  else
    loadTwo key 4
    if keybits = 192 then expand192Run 0 0
    else
      loadTwo key 6
      if keybits = 256 then expand256Run 0 0 else pure 0

def swapRk (i j : ℕ) : AesRun A Unit := do
  let temp ← compute (← readRk i)
  writeRk i (← readRk j)
  writeRk j temp

def swapLoopRun (i j : ℕ) : AesRun A Unit := do
  if i < j then
    swapRk i j
    swapRk (i + 1) (j + 1)
    swapRk (i + 2) (j + 2)
    swapRk (i + 3) (j + 3)
    swapLoopRun (i + 4) (j - 4)
termination_by j - i

def mixRk (p : ℕ) : AesRun A Unit := do
  let w ← readRk p
  indexTop w
  writeRk p (invMixWord w)

def mixLoopRun (p i nrounds : ℕ) : AesRun A Unit := do
  if i < nrounds then
    mixRk (p + 4)
    mixRk (p + 5)
    mixRk (p + 6)
    mixRk (p + 7)
    mixLoopRun (p + 4) (i + 1) nrounds
termination_by nrounds - i

def rijndaelSetupDecryptRun (key : Memory UInt8) (keybits : ℤ) : AesRun A ℕ := do
  let nrounds ← rijndaelSetupEncryptRun key keybits
  swapLoopRun 0 (4 * nrounds)
  mixLoopRun 0 1 nrounds
  pure nrounds

def readKey (p : ℕ) : AesRun A (Words A) := do
  pure ⟨← readRk p, ← readRk (p + 1), ← readRk (p + 2), ← readRk (p + 3)⟩

def computeWords (s : Words A) : AesRun A (Words A) := do
  pure ⟨← compute s.s0, ← compute s.s1, ← compute s.s2, ← compute s.s3⟩

def roundRun (round : Words A → Words A → Words A) (p : ℕ) (s : Words A) : AesRun A (Words A) := do
  indexTop s.s0
  indexTop s.s1
  indexTop s.s2
  indexTop s.s3
  computeWords (round s (← readKey p))

def roundLoopRun (round : Words A → Words A → Words A) :
    ℕ → ℕ → Words A → AesRun A (Option (ℕ × Words A))
  | 0, _, _ => pure none
  | r + 1, p, s => do
    let t ← roundRun round (p + 4) s
    if r = 0 then pure (some (p + 8, t))
    else roundLoopRun round r (p + 8) (← roundRun round (p + 8) t)

def cryptBlockRun (round last : Words A → Words A → Words A) (nrounds : ℕ) (input : Memory UInt8) :
    AesRun A (Option (List UInt8)) := do
  let k ← readKey 0
  let s ← computeWords ⟨getu32 input 0 ^^^ k.s0, getu32 input 4 ^^^ k.s1, getu32 input 8 ^^^ k.s2,
    getu32 input 12 ^^^ k.s3⟩
  match ← roundLoopRun round (nrounds >>> 1) 0 s with
  | none => pure none
  | some (p, t) =>
    let s ← roundRun last p t
    pure (some (putu32 s.s0 ++ putu32 s.s1 ++ putu32 s.s2 ++ putu32 s.s3))

def rijndaelEncryptRun (nrounds : ℕ) (plaintext : Memory UInt8) : AesRun A (Option (List UInt8)) :=
  cryptBlockRun teRound te4Round nrounds plaintext

def rijndaelDecryptRun (nrounds : ℕ) (ciphertext : Memory UInt8) :
    AesRun A (Option (List UInt8)) :=
  cryptBlockRun tdRound td4Round nrounds ciphertext

def rklength (keybits : ℤ) : ℤ := keybits / 8 + 28

variable {n m p q i : ℕ} {rk : Memory (U32 A)} {v w : U32 A}

def Small (v : U32 A) : Prop := ∃ b, v = word b

def SmallTo (n : ℕ) (rk : Memory (U32 A)) : Prop := ∀ i < n, Small (rk i)

theorem Small.lt (h : Small v) : v.toNat < 2 ^ 32 := by
  obtain ⟨b, rfl⟩ := h
  rw [word_toNat]
  exact number_lt b

theorem Small.index (h : Small v) : (byte3 v).toNat < 256 := by
  obtain ⟨b, rfl⟩ := h
  have hb := b.b0.toNat_lt
  rw [byte3_word, u32_toNat (by omega)]
  exact hb

theorem Small.xor (hv : Small v) (hw : Small w) : Small (v ^^^ w) := by
  obtain ⟨b, rfl⟩ := hv
  obtain ⟨c, rfl⟩ := hw
  exact ⟨b ^^^ c, (word_xor b c).symm⟩

theorem Small.rotatedTemp (h : Small v) (hi : i < 10) : Small (rotatedTemp v i) := by
  obtain ⟨b, rfl⟩ := h
  exact ⟨_, rotatedTemp_eq b hi⟩

theorem Small.substitutedTemp (h : Small v) : Small (substitutedTemp v) := by
  obtain ⟨b, rfl⟩ := h
  exact ⟨_, substitutedTemp_eq b⟩

theorem Small.invMixWord (h : Small v) : Small (invMixWord v) := by
  obtain ⟨b, rfl⟩ := h
  exact ⟨_, invMixWord_word b⟩

theorem small_getu32 (key : Memory UInt8) (i : ℕ) : Small (getu32 key i : U32 A) :=
  ⟨_, getu32_eq key i⟩

theorem SmallTo.write (h : SmallTo n rk) (hv : Small v) (i : ℕ) : SmallTo n (copyIn rk i [v]) := by
  intro j hj
  rw [copyIn_one]
  by_cases hji : j = i
  · rw [if_pos hji]
    exact hv
  · rw [if_neg hji]
    exact h j hj

theorem SmallTo.extend (h : SmallTo n rk) (hv : Small v) : SmallTo (n + 1) (copyIn rk n [v]) := by
  intro j hj
  rw [copyIn_one]
  by_cases hjn : j = n
  · rw [if_pos hjn]
    exact hv
  · rw [if_neg hjn]
    exact h j (by omega)

theorem readTemp_runs (hi : i < n) (h : Small (rk i)) :
    Runs (AesEvent.Fine n) (readTemp i) rk (rk i) rk :=
  runs_act_bind hi (runs_act_bind h.lt (runs_act_bind h.index (runs_pure _ _)))

theorem writeRk_runs (hm : m < n) (hv : Small v) (rk : Memory (U32 A)) :
    Runs (AesEvent.Fine n) (writeRk m v) rk () (copyIn rk m [v]) :=
  runs_act ⟨hm, hv.lt⟩

theorem xorRk_runs (hm : m < n) (hp : p < n) (hrk : Small (rk p)) (hv : Small v) :
    Runs (AesEvent.Fine n) (xorRk m p v) rk () (copyIn rk m [rk p ^^^ v]) :=
  runs_act_bind hp (writeRk_runs hm (hrk.xor hv) rk)

theorem xorNext_runs (h : SmallTo m rk) (hm : m < n) (hp : p < m) (hq : q < m) :
    Runs (AesEvent.Fine n) (xorNext m p q) rk () (copyIn rk m [rk p ^^^ rk q]) ∧
      SmallTo (m + 1) (copyIn rk m [rk p ^^^ rk q]) :=
  ⟨runs_act_bind (Nat.lt_trans hq hm) (xorRk_runs hm (Nat.lt_trans hp hm) (h p hp) (h q hq)),
    h.extend ((h p hp).xor (h q hq))⟩

theorem copyIn_four (rk : Memory (U32 A)) (m : ℕ) (a b c d : U32 A) :
    copyIn (copyIn (copyIn (copyIn rk m [a]) (m + 1) [b]) (m + 2) [c]) (m + 3) [d] =
      copyIn rk m [a, b, c, d] := by
  have htwo : copyIn (copyIn rk m [a]) (m + 1) [b] = copyIn rk m [a, b] :=
    copyIn_append rk m [a] [b]
  have hthree : copyIn (copyIn rk m [a, b]) (m + 2) [c] = copyIn rk m [a, b, c] :=
    copyIn_append rk m [a, b] [c]
  rw [htwo, hthree]
  exact copyIn_append rk m [a, b, c] [d]

theorem fourWordsRun_runs (h : SmallTo m rk) (hp : p + 4 ≤ m) (hm : m + 4 ≤ n) (hv : Small v) :
    Runs (AesEvent.Fine n) (fourWordsRun p m v) rk () (copyIn rk m (fourWords rk p v)) ∧
      SmallTo (m + 4) (copyIn rk m (fourWords rk p v)) := by
  obtain ⟨rk₁, hrk₁⟩ : ∃ rk₁, copyIn rk m [rk p ^^^ v] = rk₁ := ⟨_, rfl⟩
  obtain ⟨rk₂, hrk₂⟩ : ∃ rk₂, copyIn rk₁ (m + 1) [rk₁ (p + 1) ^^^ rk₁ m] = rk₂ := ⟨_, rfl⟩
  obtain ⟨rk₃, hrk₃⟩ : ∃ rk₃, copyIn rk₂ (m + 2) [rk₂ (p + 2) ^^^ rk₂ (m + 1)] = rk₃ := ⟨_, rfl⟩
  have hfirst := xorRk_runs (n := n) (m := m) (by omega) (by omega) (h p (by omega)) hv
  have h₁ := h.extend ((h p (by omega)).xor hv)
  rw [hrk₁] at hfirst h₁
  obtain ⟨hrun₂, h₂⟩ := xorNext_runs (n := n) (p := p + 1) (q := m) h₁ (by omega) (by omega)
    (by omega)
  rw [hrk₂] at hrun₂ h₂
  obtain ⟨hrun₃, h₃⟩ := xorNext_runs (n := n) (p := p + 2) (q := m + 1) h₂ (by omega) (by omega)
    (by omega)
  rw [hrk₃] at hrun₃ h₃
  obtain ⟨hrun₄, h₄⟩ := xorNext_runs (n := n) (p := p + 3) (q := m + 2) h₃ (by omega) (by omega)
    (by omega)
  have hold₁ {x : ℕ} (hx : x < m) : rk₁ x = rk x := by
    rw [← hrk₁, copyIn_before _ _ hx]
  have hold₂ {x : ℕ} (hx : x < m) : rk₂ x = rk x := by
    rw [← hrk₂, copyIn_before _ _ (by omega), hold₁ hx]
  have hold₃ {x : ℕ} (hx : x < m) : rk₃ x = rk x := by
    rw [← hrk₃, copyIn_before _ _ (by omega), hold₂ hx]
  have hnew₁ : rk₁ m = rk p ^^^ v := by
    rw [← hrk₁, copyIn_one, if_pos rfl]
  have hnew₂ : rk₂ (m + 1) = rk (p + 1) ^^^ rk₁ m := by
    rw [← hrk₂, copyIn_one, if_pos rfl, hold₁ (by omega)]
  have hnew₃ : rk₃ (m + 2) = rk (p + 2) ^^^ rk₂ (m + 1) := by
    rw [← hrk₃, copyIn_one, if_pos rfl, hold₂ (by omega)]
  have hrk₂' : rk₂ = copyIn rk₁ (m + 1) [rk (p + 1) ^^^ (rk p ^^^ v)] := by
    rw [← hrk₂, hold₁ (by omega), hnew₁]
  have hrk₃' : rk₃ = copyIn rk₂ (m + 2) [rk (p + 2) ^^^ (rk (p + 1) ^^^ (rk p ^^^ v))] := by
    rw [← hrk₃, hold₂ (by omega), hnew₂, hnew₁]
  have hwords : copyIn rk₃ (m + 3) [rk₃ (p + 3) ^^^ rk₃ (m + 2)] =
      copyIn rk m (fourWords rk p v) := by
    rw [hold₃ (by omega), hnew₃, hnew₂, hnew₁, hrk₃', hrk₂', ← hrk₁]
    exact copyIn_four rk m _ _ _ _
  rw [hwords] at hrun₄ h₄
  exact ⟨runs_bind hfirst (runs_bind hrun₂ (runs_bind hrun₃ hrun₄)), h₄⟩

theorem headRun_runs (h : SmallTo m rk) (hp : p + 4 ≤ m) (hm : m + 4 ≤ n) (hq : q < m)
    (hi : i < 10) :
    Runs (AesEvent.Fine n) (headRun p m q i) rk ()
        (copyIn rk m (fourWords rk p (rotatedTemp (rk q) i))) ∧
      SmallTo (m + 4) (copyIn rk m (fourWords rk p (rotatedTemp (rk q) i))) := by
  obtain ⟨hrun, hsmall⟩ := fourWordsRun_runs h hp hm ((h q hq).rotatedTemp hi)
  exact ⟨runs_bind (readTemp_runs (by omega) (h q hq)) hrun, hsmall⟩

theorem tailRun_runs (h : SmallTo m rk) (hp : p + 4 ≤ m) (hm : m + 4 ≤ n) (hq : q < m) :
    Runs (AesEvent.Fine n) (tailRun p m q) rk ()
        (copyIn rk m (fourWords rk p (substitutedTemp (rk q)))) ∧
      SmallTo (m + 4) (copyIn rk m (fourWords rk p (substitutedTemp (rk q)))) := by
  obtain ⟨hrun, hsmall⟩ := fourWordsRun_runs h hp hm (h q hq).substitutedTemp
  exact ⟨runs_bind (readTemp_runs (by omega) (h q hq)) hrun, hsmall⟩

theorem expand128Run_runs (i : Fin 10) (hp : p = 4 * i) (h : SmallTo (p + 4) rk) :
    Runs (AesEvent.Fine 44) (expand128Run p i) rk 10 (expand128 rk p i) ∧
      SmallTo 44 (expand128 rk p i) := by
  fun_induction expand128 rk p i with
  | case1 rk p i rk' hi =>
    obtain ⟨hrun, hsmall⟩ := headRun_runs (n := 44) (p := p) (q := p + 3) h (by omega) (by omega)
      (by omega) i.isLt
    have hend : p + 4 + 4 = 44 := by omega
    rw [hend] at hsmall
    refine ⟨?_, hsmall⟩
    have hlast : i.val + 1 = 10 := by omega
    rw [expand128Run]
    simp only [hlast, dite_true]
    exact runs_bind hrun (runs_pure _ _)
  | case2 rk p i rk' hi ih =>
    obtain ⟨hrun, hsmall⟩ := headRun_runs (n := 44) (p := p) (q := p + 3) h (by omega) (by omega)
      (by omega) i.isLt
    obtain ⟨hrest, hend⟩ := ih (by dsimp only; omega) hsmall
    refine ⟨?_, hend⟩
    have hlast : ¬i.val + 1 = 10 := by omega
    rw [expand128Run]
    simp only [hlast, dite_false]
    exact runs_bind hrun hrest

theorem expand192Run_runs (i : Fin 8) (hp : p = 6 * i) (h : SmallTo (p + 6) rk) :
    Runs (AesEvent.Fine 52) (expand192Run p i) rk 12 (expand192 rk p i) ∧
      SmallTo 52 (expand192 rk p i) := by
  fun_induction expand192 rk p i with
  | case1 rk p i rk' hi =>
    obtain ⟨hrun, hsmall⟩ := headRun_runs (n := 52) (p := p) (q := p + 5) h (by omega) (by omega)
      (by omega) (show i.val < 10 by omega)
    have hend : p + 6 + 4 = 52 := by omega
    rw [hend] at hsmall
    refine ⟨?_, hsmall⟩
    have hlast : i.val + 1 = 8 := by omega
    rw [expand192Run]
    simp only [hlast, dite_true]
    exact runs_bind hrun (runs_pure _ _)
  | case2 rk p i rk' hi w10 w11 ih =>
    obtain ⟨hrun, hsmall⟩ := headRun_runs (n := 52) (p := p) (q := p + 5) h (by omega) (by omega)
      (by omega) (show i.val < 10 by omega)
    obtain ⟨hrun₁₀, hsmall₁₀⟩ := xorNext_runs (n := 52) (p := p + 4) (q := p + 9) hsmall (by omega)
      (by omega) (by omega)
    obtain ⟨hrun₁₁, hsmall₁₁⟩ := xorNext_runs (n := 52) (p := p + 5) (q := p + 10) hsmall₁₀
      (by omega) (by omega) (by omega)
    have hwords : copyIn (copyIn rk' (p + 10) [w10]) (p + 11)
        [copyIn rk' (p + 10) [w10] (p + 5) ^^^ copyIn rk' (p + 10) [w10] (p + 10)] =
          copyIn rk' (p + 10) [w10, w11] := by
      rw [copyIn_before _ _ (by omega), copyIn_one, if_pos rfl]
      exact copyIn_append rk' (p + 10) [w10] [w11]
    have hsmall' : SmallTo (p + 6 + 6) (copyIn rk' (p + 10) [w10, w11]) := hwords ▸ hsmall₁₁
    have hrun' : Runs (AesEvent.Fine 52) (xorNext (p + 11) (p + 5) (p + 10))
        (copyIn rk' (p + 10) [w10]) () (copyIn rk' (p + 10) [w10, w11]) := hwords ▸ hrun₁₁
    obtain ⟨hrest, hend⟩ := ih (by dsimp only; omega) hsmall'
    refine ⟨?_, hend⟩
    have hlast : ¬i.val + 1 = 8 := by omega
    rw [expand192Run]
    simp only [hlast, dite_false]
    exact runs_bind hrun (runs_bind hrun₁₀ (runs_bind hrun' hrest))

theorem expand256Run_runs (i : Fin 7) (hp : p = 8 * i) (h : SmallTo (p + 8) rk) :
    Runs (AesEvent.Fine 60) (expand256Run p i) rk 14 (expand256 rk p i) ∧
      SmallTo 60 (expand256 rk p i) := by
  fun_induction expand256 rk p i with
  | case1 rk p i rk' hi =>
    obtain ⟨hrun, hsmall⟩ := headRun_runs (n := 60) (p := p) (q := p + 7) h (by omega) (by omega)
      (by omega) (show i.val < 10 by omega)
    have hend : p + 8 + 4 = 60 := by omega
    rw [hend] at hsmall
    refine ⟨?_, hsmall⟩
    have hlast : i.val + 1 = 7 := by omega
    rw [expand256Run]
    simp only [hlast, dite_true]
    exact runs_bind hrun (runs_pure _ _)
  | case2 rk p i rk' hi rk'' ih =>
    obtain ⟨hrun, hsmall⟩ := headRun_runs (n := 60) (p := p) (q := p + 7) h (by omega) (by omega)
      (by omega) (show i.val < 10 by omega)
    obtain ⟨htail, hsmall'⟩ := tailRun_runs (n := 60) (p := p + 4) (q := p + 11) hsmall (by omega)
      (by omega) (by omega)
    obtain ⟨hrest, hend⟩ := ih (by dsimp only; omega) hsmall'
    refine ⟨?_, hend⟩
    have hlast : ¬i.val + 1 = 7 := by omega
    rw [expand256Run]
    simp only [hlast, dite_false]
    exact runs_bind hrun (runs_bind htail hrest)

theorem loadKey_runs (h : SmallTo m rk) (hm : m < n) (key : Memory UInt8) :
    Runs (AesEvent.Fine n) (loadKey key m) rk () (copyIn rk m [getu32 key (4 * m)]) ∧
      SmallTo (m + 1) (copyIn rk m [getu32 key (4 * m)]) := by
  have hword : Small (getu32 key (4 * m) : U32 A) := small_getu32 key _
  exact ⟨writeRk_runs hm hword rk, h.extend hword⟩

theorem loadTwo_runs (h : SmallTo m rk) (hm : m + 1 < n) (key : Memory UInt8) :
    Runs (AesEvent.Fine n) (loadTwo key m) rk ()
        (copyIn rk m [getu32 key (4 * m), getu32 key (4 * m + 4)]) ∧
      SmallTo (m + 2) (copyIn rk m [getu32 key (4 * m), getu32 key (4 * m + 4)]) := by
  obtain ⟨hrun, hsmall⟩ := loadKey_runs h (Nat.lt_of_succ_lt hm) key
  obtain ⟨hrun', hsmall'⟩ := loadKey_runs hsmall hm key
  have htwo : copyIn (copyIn rk m [getu32 key (4 * m)]) (m + 1) [getu32 key (4 * (m + 1))] =
      copyIn rk m [getu32 key (4 * m), getu32 key (4 * m + 4)] :=
    copyIn_append rk m [getu32 key (4 * m)] [getu32 key (4 * m + 4)]
  rw [htwo] at hrun' hsmall'
  exact ⟨runs_bind hrun hrun', hsmall'⟩

/-- The setup leaves the schedule of the plain function, and only fine entries. -/
theorem setupEncrypt_traced (K : KeySize) (rk : Memory (U32 A)) (key : Memory UInt8) :
    Runs (AesEvent.Fine (4 * (K.rounds + 1))) (rijndaelSetupEncryptRun key (keyBits K)) rk
        (rijndaelSetupEncrypt rk key (keyBits K)).1 (rijndaelSetupEncrypt rk key (keyBits K)).2 ∧
      SmallTo (4 * (K.rounds + 1)) (rijndaelSetupEncrypt rk key (keyBits K)).2 := by
  have hnone : SmallTo 0 rk := fun i hi => absurd hi (Nat.not_lt_zero i)
  have hn : 44 ≤ 4 * (K.rounds + 1) := by cases K <;> decide
  obtain ⟨hrun₀, h₂⟩ := loadTwo_runs (n := 4 * (K.rounds + 1)) hnone (by omega) key
  obtain ⟨hrun₂, h₄⟩ := loadTwo_runs (n := 4 * (K.rounds + 1)) h₂ (by omega) key
  have hfour : copyIn (copyIn rk 0 [getu32 key 0, getu32 key 4]) 2 [getu32 key 8, getu32 key 12] =
      copyIn rk 0 [getu32 key 0, getu32 key 4, getu32 key 8, getu32 key 12] :=
    copyIn_append rk 0 [getu32 key 0, getu32 key 4] [getu32 key 8, getu32 key 12]
  replace hrun₂ := hfour ▸ hrun₂
  replace h₄ := hfour ▸ h₄
  cases K with
  | aes128 =>
    obtain ⟨hrun, hsmall⟩ := expand128Run_runs 0 rfl h₄
    exact ⟨runs_bind hrun₀ (runs_bind hrun₂ hrun), hsmall⟩
  | aes192 =>
    obtain ⟨hrun₄, h₆⟩ := loadTwo_runs (n := 52) h₄ (by omega) key
    obtain ⟨hrun, hsmall⟩ := expand192Run_runs 0 rfl h₆
    exact ⟨runs_bind hrun₀ (runs_bind hrun₂ (runs_bind hrun₄ hrun)), hsmall⟩
  | aes256 =>
    obtain ⟨hrun₄, h₆⟩ := loadTwo_runs (n := 60) h₄ (by omega) key
    obtain ⟨hrun₆, h₈⟩ := loadTwo_runs (n := 60) h₆ (by omega) key
    obtain ⟨hrun, hsmall⟩ := expand256Run_runs 0 rfl h₈
    exact ⟨runs_bind hrun₀ (runs_bind hrun₂ (runs_bind hrun₄ (runs_bind hrun₆ hrun))), hsmall⟩

theorem swapRk_runs {j : ℕ} (h : SmallTo n rk) (hi : i < n) (hj : j < n) :
    Runs (AesEvent.Fine n) (swapRk i j) rk () (copyIn (copyIn rk i [rk j]) j [rk i]) ∧
      SmallTo n (copyIn (copyIn rk i [rk j]) j [rk i]) :=
  ⟨runs_act_bind hi (runs_act_bind (h i hi).lt (runs_act_bind hj
    (runs_act_bind ⟨hi, (h j hj).lt⟩ (runs_act ⟨hj, (h i hi).lt⟩)))),
    (h.write (h j hj) i).write (h i hi) j⟩

theorem swapLoopRun_runs {j : ℕ} (h : SmallTo n rk) (hj : j + 4 ≤ n) :
    Runs (AesEvent.Fine n) (swapLoopRun i j) rk () (swapLoop rk i j) ∧
      SmallTo n (swapLoop rk i j) := by
  fun_induction swapLoop rk i j with
  | case1 rk i j hij rk₁ rk₂ rk₃ rk₄ ih =>
    obtain ⟨hrun₁, h₁⟩ := swapRk_runs (i := i) (j := j) h (by omega) (by omega)
    obtain ⟨hrun₂, h₂⟩ := swapRk_runs (i := i + 1) (j := j + 1) h₁ (by omega) (by omega)
    obtain ⟨hrun₃, h₃⟩ := swapRk_runs (i := i + 2) (j := j + 2) h₂ (by omega) (by omega)
    obtain ⟨hrun₄, h₄⟩ := swapRk_runs (i := i + 3) (j := j + 3) h₃ (by omega) (by omega)
    obtain ⟨hrest, hend⟩ := ih h₄ (by omega)
    refine ⟨?_, hend⟩
    rw [swapLoopRun, if_pos hij]
    exact runs_bind hrun₁ (runs_bind hrun₂ (runs_bind hrun₃ (runs_bind hrun₄ hrest)))
  | case2 rk i j hij =>
    refine ⟨?_, h⟩
    rw [swapLoopRun, if_neg hij]
    exact runs_pure _ _

theorem mixRk_runs (h : SmallTo n rk) (hp : p < n) :
    Runs (AesEvent.Fine n) (mixRk p) rk () (copyIn rk p [invMixWord (rk p)]) ∧
      SmallTo n (copyIn rk p [invMixWord (rk p)]) :=
  ⟨runs_act_bind hp (runs_act_bind (h p hp).index (runs_act ⟨hp, (h p hp).invMixWord.lt⟩)),
    h.write (h p hp).invMixWord p⟩

theorem mixLoopRun_runs {r : ℕ} (h : SmallTo n rk) (hp : p + 4 * (r - i) + 4 ≤ n) :
    Runs (AesEvent.Fine n) (mixLoopRun p i r) rk () (mixLoop rk p i r) ∧
      SmallTo n (mixLoop rk p i r) := by
  fun_induction mixLoop rk p i r with
  | case1 rk p i hi p' rk₁ rk₂ rk₃ rk₄ ih =>
    obtain ⟨hrun₁, h₁⟩ := mixRk_runs (p := p + 4) h (by omega)
    obtain ⟨hrun₂, h₂⟩ := mixRk_runs (p := p + 5) h₁ (by omega)
    obtain ⟨hrun₃, h₃⟩ := mixRk_runs (p := p + 6) h₂ (by omega)
    obtain ⟨hrun₄, h₄⟩ := mixRk_runs (p := p + 7) h₃ (by omega)
    obtain ⟨hrest, hend⟩ := ih h₄ (by omega)
    refine ⟨?_, hend⟩
    rw [mixLoopRun, if_pos hi]
    exact runs_bind hrun₁ (runs_bind hrun₂ (runs_bind hrun₃ (runs_bind hrun₄ hrest)))
  | case2 rk p i hi =>
    refine ⟨?_, h⟩
    rw [mixLoopRun, if_neg hi]
    exact runs_pure _ _

theorem setupDecrypt_traced (K : KeySize) (rk : Memory (U32 A)) (key : Memory UInt8) :
    Runs (AesEvent.Fine (4 * (K.rounds + 1))) (rijndaelSetupDecryptRun key (keyBits K)) rk
        (rijndaelSetupDecrypt rk key (keyBits K)).1 (rijndaelSetupDecrypt rk key (keyBits K)).2 ∧
      SmallTo (4 * (K.rounds + 1)) (rijndaelSetupDecrypt rk key (keyBits K)).2 := by
  have hrounds := setupEncrypt_rounds (K := K) rk key
  obtain ⟨hrun, hsmall⟩ := setupEncrypt_traced K rk key
  obtain ⟨hswap, hsmall'⟩ := swapLoopRun_runs (i := 0) (j := 4 * K.rounds) hsmall (by omega)
  obtain ⟨hmix, hend⟩ := mixLoopRun_runs (p := 0) (i := 1) (r := K.rounds) hsmall'
    (by omega)
  have hsplit : rijndaelSetupDecrypt rk key (keyBits K) =
      ((rijndaelSetupEncrypt rk key (keyBits K)).1,
        mixLoop (swapLoop (rijndaelSetupEncrypt rk key (keyBits K)).2 0 (4 * K.rounds)) 0 1
          K.rounds) := by
    rw [← hrounds]
    rfl
  rw [hsplit]
  refine ⟨runs_bind hrun ?_, hend⟩
  rw [hrounds]
  exact runs_bind hswap (runs_bind hmix (runs_pure _ _))

variable {round last : Words A → Words A → Words A} {f g : State → State} {s k : Words A} {r : ℕ}

def SmallWords (s : Words A) : Prop := ∃ st, s = words st

theorem SmallWords.fine (h : SmallWords s) :
    Small s.s0 ∧ Small s.s1 ∧ Small s.s2 ∧ Small s.s3 := by
  obtain ⟨st, rfl⟩ := h
  exact ⟨⟨_, rfl⟩, ⟨_, rfl⟩, ⟨_, rfl⟩, ⟨_, rfl⟩⟩

theorem smallWords_of {a b c d : U32 A} (ha : Small a) (hb : Small b) (hc : Small c)
    (hd : Small d) : SmallWords ⟨a, b, c, d⟩ := by
  obtain ⟨w₀, rfl⟩ := ha
  obtain ⟨w₁, rfl⟩ := hb
  obtain ⟨w₂, rfl⟩ := hc
  obtain ⟨w₃, rfl⟩ := hd
  exact ⟨⟨w₀, w₁, w₂, w₃⟩, rfl⟩

theorem SmallWords.next (hround : Computes round f) (hs : SmallWords s) (hk : SmallWords k) :
    SmallWords (round s k) := by
  obtain ⟨st, rfl⟩ := hs
  obtain ⟨kt, rfl⟩ := hk
  exact ⟨_, hround st kt⟩

theorem SmallTo.keyWords (h : SmallTo n rk) (hp : p + 4 ≤ n) : SmallWords (keyWords rk p) :=
  smallWords_of (h p (by omega)) (h (p + 1) (by omega)) (h (p + 2) (by omega))
    (h (p + 3) (by omega))

theorem readKey_runs (hp : p + 4 ≤ n) (rk : Memory (U32 A)) :
    Runs (AesEvent.Fine n) (readKey p) rk (keyWords rk p) rk := by
  have hread (i : ℕ) (hi : i < n) : AesEvent.Fine n (.read i : AesEvent A) := hi
  exact runs_act_bind (hread p (by omega)) (runs_act_bind (hread (p + 1) (by omega))
    (runs_act_bind (hread (p + 2) (by omega)) (runs_act_bind (hread (p + 3) (by omega))
      (runs_pure _ _))))

theorem computeWords_runs (h : SmallWords s) :
    Runs (AesEvent.Fine n) (computeWords s) rk s rk := by
  obtain ⟨h₀, h₁, h₂, h₃⟩ := h.fine
  exact runs_act_bind h₀.lt (runs_act_bind h₁.lt (runs_act_bind h₂.lt (runs_act_bind h₃.lt
    (runs_pure _ _))))

theorem roundRun_runs (hround : Computes round f) (h : SmallTo n rk) (hs : SmallWords s)
    (hp : p + 4 ≤ n) :
    Runs (AesEvent.Fine n) (roundRun round p s) rk (round s (keyWords rk p)) rk ∧
      SmallWords (round s (keyWords rk p)) := by
  obtain ⟨h₀, h₁, h₂, h₃⟩ := hs.fine
  have hnew := hs.next hround (h.keyWords hp)
  exact ⟨runs_act_bind h₀.index (runs_act_bind h₁.index (runs_act_bind h₂.index
    (runs_act_bind h₃.index (runs_bind (readKey_runs hp rk) (computeWords_runs hnew))))), hnew⟩

/-- The loop reads the round keys behind `rk[p]`, two in each iteration but the last. -/
theorem roundLoopRun_runs (hround : Computes round f) (h : SmallTo n rk) (hs : SmallWords s)
    (hp : p + 8 * (r + 1) ≤ n) : ∃ t,
      roundLoop round rk (r + 1) p s = some (p + 8 * (r + 1), t) ∧ SmallWords t ∧
      Runs (AesEvent.Fine n) (roundLoopRun round (r + 1) p s) rk
        (some (p + 8 * (r + 1), t)) rk := by
  induction r generalizing p s with
  | zero =>
    obtain ⟨hrun, ht⟩ := roundRun_runs hround h hs (p := p + 4) (by omega)
    refine ⟨_, rfl, ht, ?_⟩
    exact runs_bind hrun (runs_pure _ _)
  | succ r ih =>
    obtain ⟨hrun, ht⟩ := roundRun_runs hround h hs (p := p + 4) (by omega)
    obtain ⟨hrun', hs'⟩ := roundRun_runs hround h ht (p := p + 8) (by omega)
    obtain ⟨t, hloop, hsmall, hrest⟩ := ih (p := p + 8) hs' (by omega)
    have hend : p + 8 + 8 * (r + 1) = p + 8 * (r + 1 + 1) := by omega
    rw [hend] at hloop hrest
    refine ⟨t, ?_, hsmall, ?_⟩
    · rw [roundLoop, if_neg (Nat.succ_ne_zero r)]
      exact hloop
    · rw [roundLoopRun]
      simp only [if_neg (Nat.succ_ne_zero r)]
      exact runs_bind hrun (runs_bind hrun' hrest)

theorem cryptBlockRun_runs (hround : Computes round f) (hlast : Computes last g)
    {nrounds : ℕ} (hn : nrounds = 2 * (r + 1)) (h : SmallTo (4 * (nrounds + 1)) rk)
    (input : Memory UInt8) :
    Runs (AesEvent.Fine (4 * (nrounds + 1))) (cryptBlockRun round last nrounds input) rk
      (cryptBlock round last rk nrounds input) rk := by
  have hcount : nrounds >>> 1 = r + 1 := by
    rw [Nat.shiftRight_eq_div_pow]
    omega
  have hkey := readKey_runs (n := 4 * (nrounds + 1)) (p := 0) (by omega) rk
  obtain ⟨k₀, k₁, k₂, k₃⟩ := (h.keyWords (p := 0) (by omega)).fine
  have hstart : SmallWords ⟨getu32 input 0 ^^^ rk 0, getu32 input 4 ^^^ rk 1,
      getu32 input 8 ^^^ rk 2, getu32 input 12 ^^^ rk 3⟩ :=
    smallWords_of ((small_getu32 input 0).xor k₀) ((small_getu32 input 4).xor k₁)
      ((small_getu32 input 8).xor k₂) ((small_getu32 input 12).xor k₃)
  obtain ⟨t, hloop, ht, hrun⟩ := roundLoopRun_runs (p := 0) (r := r) (n := 4 * (nrounds + 1))
    hround h hstart (by omega)
  obtain ⟨hend, -⟩ := roundRun_runs (n := 4 * (nrounds + 1)) (p := 0 + 8 * (r + 1)) hlast h ht
    (by omega)
  rw [cryptBlock, hcount]
  dsimp only
  rw [hloop]
  refine runs_bind hkey (runs_bind (computeWords_runs hstart) ?_)
  rw [hcount]
  exact runs_bind hrun (runs_bind hend (runs_pure _ _))

theorem encrypt_traced (K : KeySize) (h : SmallTo (4 * (K.rounds + 1)) rk)
    (plaintext : Memory UInt8) :
    Runs (AesEvent.Fine (4 * (K.rounds + 1))) (rijndaelEncryptRun K.rounds plaintext) rk
      (rijndaelEncrypt rk K.rounds plaintext) rk := by
  obtain ⟨r, hr⟩ := rounds_even K
  exact cryptBlockRun_runs teRound_words te4Round_words hr h plaintext

theorem decrypt_traced (K : KeySize) (h : SmallTo (4 * (K.rounds + 1)) rk)
    (ciphertext : Memory UInt8) :
    Runs (AesEvent.Fine (4 * (K.rounds + 1))) (rijndaelDecryptRun K.rounds ciphertext) rk
      (rijndaelDecrypt rk K.rounds ciphertext) rk := by
  obtain ⟨r, hr⟩ := rounds_even K
  exact cryptBlockRun_runs tdRound_words td4Round_words hr h ciphertext

theorem encryptionKeys_number (K : KeySize) (rk : Memory (U32 A)) (key : Memory UInt8)
    (hi : i < 4 * (K.rounds + 1)) : ((rijndaelSetupEncrypt rk key (keyBits K)).2 i).toNat =
      number (keyExpansion K (keyBytes K key) i) := by
  rw [setupEncrypt_holds rk key i hi, word_toNat]

theorem decryptionKeys_number (K : KeySize) (rk : Memory (U32 A)) (key : Memory UInt8)
    (hi : i < 4 * (K.rounds + 1)) : ((rijndaelSetupDecrypt rk key (keyBits K)).2 i).toNat =
      let w := keyExpansion K (keyBytes K key) (4 * (K.rounds - i / 4) + i % 4)
      number (if 0 < i / 4 ∧ i / 4 < K.rounds then invMixColumn w else w) := by
  have hword := setupDecrypt_word (K := K) rk key (r := i / 4) (c := i % 4) (by omega) (by omega)
  rw [Nat.div_add_mod] at hword
  rw [hword]
  exact word_toNat _

/-- With words of 64 bits every access, word and index of the four functions is fine, and the
schedules and blocks are those of the build with words of 32 bits. -/
theorem aes_same_on_targets (K : KeySize) (key block : Memory UInt8)
    (rk : Memory (U32 .arm64)) (rk' : Memory (U32 .arm32)) :
    let ek := rijndaelSetupEncrypt rk key (keyBits K)
    let dk := rijndaelSetupDecrypt rk key (keyBits K)
    let ek' := rijndaelSetupEncrypt rk' key (keyBits K)
    let dk' := rijndaelSetupDecrypt rk' key (keyBits K)
    let fine := AesEvent.Fine (4 * (ek.1 + 1))
    (Runs fine (rijndaelSetupEncryptRun key (keyBits K)) rk ek.1 ek.2 ∧
      Runs fine (rijndaelSetupDecryptRun key (keyBits K)) rk dk.1 dk.2 ∧
      Runs fine (rijndaelEncryptRun ek.1 block) ek.2 (rijndaelEncrypt ek.2 ek.1 block) ek.2 ∧
      Runs fine (rijndaelDecryptRun dk.1 block) dk.2 (rijndaelDecrypt dk.2 dk.1 block) dk.2) ∧
    ((4 * (ek.1 + 1) : ℕ) : ℤ) ≤ rklength (keyBits K) ∧
    (ek.1 = ek'.1 ∧ dk.1 = ek.1 ∧ dk'.1 = ek.1 ∧ ∀ i < 4 * (ek.1 + 1),
      (ek.2 i).toNat = (ek'.2 i).toNat ∧ (dk.2 i).toNat = (dk'.2 i).toNat) ∧
    (∃ c, rijndaelEncrypt ek.2 ek.1 block = some c ∧
      rijndaelEncrypt ek'.2 ek'.1 block = some c) ∧
    ∃ p, rijndaelDecrypt dk.2 dk.1 block = some p ∧
      rijndaelDecrypt dk'.2 dk'.1 block = some p := by
  obtain ⟨hek, hsmall⟩ := setupEncrypt_traced K rk key
  obtain ⟨hdk, hsmall'⟩ := setupDecrypt_traced K rk key
  have hlength : ((4 * (K.rounds + 1) : ℕ) : ℤ) ≤ rklength (keyBits K) := by
    cases K <;> decide
  dsimp only
  have henc := setup_encrypt K rk key block
  have henc' := setup_encrypt K rk' key block
  have hdec := setup_decrypt K rk key block
  have hdec' := setup_decrypt K rk' key block
  refine ⟨?_, ?_, ⟨?_, ?_, ?_, ?_⟩, ⟨_, henc, henc'⟩, ⟨_, hdec, hdec'⟩⟩
  · rw [setupEncrypt_rounds] at hek
    rw [setupDecrypt_rounds] at hdk
    rw [setupEncrypt_rounds, setupDecrypt_rounds]
    exact ⟨hek, hdk, encrypt_traced K hsmall block, decrypt_traced K hsmall' block⟩
  · rw [setupEncrypt_rounds]
    exact hlength
  · rw [setupEncrypt_rounds, setupEncrypt_rounds]
  · rw [setupDecrypt_rounds, setupEncrypt_rounds]
  · rw [setupDecrypt_rounds, setupEncrypt_rounds]
  · intro i hi
    rw [setupEncrypt_rounds] at hi
    rw [encryptionKeys_number K rk key hi, encryptionKeys_number K rk' key hi,
      decryptionKeys_number K rk key hi, decryptionKeys_number K rk' key hi]
    exact ⟨rfl, rfl⟩

end AesTargets
