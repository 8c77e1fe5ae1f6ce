import OpteeTest.AesImpl

/-! # The unrolled block functions

The branches under `FULL_UNROLL` index the round keys from a fixed `rk` and advance it at the
end; the loops advance it as they go. Both run the same rounds. -/
namespace AesUnrolled

open ByteMemory TeeApi AesImpl

variable {A : Arch} {round last : Words A → Words A → Words A} {rk : Memory (U32 A)} {n : ℕ}

/-- Rounds 1 to 9, and up to 13 by the tests of `nrounds`; returns the advance of `rk` too. -/
def unrolledRounds (round : Words A → Words A → Words A) (rk : Memory (U32 A)) (nrounds : ℕ)
    (s : Words A) : ℕ × Words A :=
  let t := round s (keyWords rk 4)
  let s := round t (keyWords rk 8)
  let t := round s (keyWords rk 12)
  let s := round t (keyWords rk 16)
  let t := round s (keyWords rk 20)
  let s := round t (keyWords rk 24)
  let t := round s (keyWords rk 28)
  let s := round t (keyWords rk 32)
  let t := round s (keyWords rk 36)
  let t :=
    if nrounds > 10 then
      let s := round t (keyWords rk 40)
      let t := round s (keyWords rk 44)
      if nrounds > 12 then
        let s := round t (keyWords rk 48)
        round s (keyWords rk 52)
      else t
    else t
  (nrounds <<< 2, t)

def firstWords (rk : Memory (U32 A)) (input : Memory UInt8) : Words A :=
  ⟨getu32 input 0 ^^^ rk 0, getu32 input 4 ^^^ rk 1, getu32 input 8 ^^^ rk 2,
    getu32 input 12 ^^^ rk 3⟩

def lastBytes (last : Words A → Words A → Words A) (rk : Memory (U32 A)) (p : ℕ) (t : Words A) :
    List UInt8 :=
  let s := last t (keyWords rk p)
  putu32 s.s0 ++ putu32 s.s1 ++ putu32 s.s2 ++ putu32 s.s3

def unrolledBlock (round last : Words A → Words A → Words A) (rk : Memory (U32 A)) (nrounds : ℕ)
    (input : Memory UInt8) : List UInt8 :=
  let (p, t) := unrolledRounds round rk nrounds (firstWords rk input)
  lastBytes last rk p t

def rijndaelEncryptUnrolled (rk : Memory (U32 A)) (nrounds : ℕ) (plaintext : Memory UInt8) :
    List UInt8 :=
  unrolledBlock teRound te4Round rk nrounds plaintext

def rijndaelDecryptUnrolled (rk : Memory (U32 A)) (nrounds : ℕ) (ciphertext : Memory UInt8) :
    List UInt8 :=
  unrolledBlock tdRound td4Round rk nrounds ciphertext

def afterRounds (round : Words A → Words A → Words A) (rk : Memory (U32 A)) (p : ℕ) (s : Words A) :
    ℕ → Words A
  | 0 => s
  | n + 1 => round (afterRounds round rk p s n) (keyWords rk (p + 4 * (n + 1)))

theorem afterRounds_add (p : ℕ) (s : Words A) (m n : ℕ) : afterRounds round rk p s (m + n) =
    afterRounds round rk (p + 4 * m) (afterRounds round rk p s m) n := by
  induction n with
  | zero => rfl
  | succ n ih =>
    have hkey : p + 4 * (m + n + 1) = p + 4 * m + 4 * (n + 1) := by omega
    have hstep : afterRounds round rk p s (m + (n + 1)) =
        round (afterRounds round rk p s (m + n)) (keyWords rk (p + 4 * (m + n + 1))) := rfl
    rw [hstep, ih, hkey]
    rfl

theorem roundLoop_rounds (r p : ℕ) (s : Words A) : roundLoop round rk (r + 1) p s =
    some (p + 8 * (r + 1), afterRounds round rk p s (2 * r + 1)) := by
  induction r generalizing p s with
  | zero => rfl
  | succ r ih =>
    have hpointer : p + 8 + 8 * (r + 1) = p + 8 * (r + 1 + 1) := by omega
    have hcount : 2 * (r + 1) + 1 = 2 + (2 * r + 1) := by omega
    have hsplit : afterRounds round rk p s (2 + (2 * r + 1)) = _ :=
      afterRounds_add p s 2 (2 * r + 1)
    rw [roundLoop, if_neg (Nat.succ_ne_zero r), ih, hpointer, hcount, hsplit]
    rfl

theorem unrolledRounds_rounds (s : Words A) (h : n = 10 ∨ n = 12 ∨ n = 14) :
    unrolledRounds round rk n s = (4 * n, afterRounds round rk 0 s (n - 1)) := by
  rcases h with rfl | rfl | rfl
  · rfl
  · rfl
  · rfl

/-- The round-key pointer and the words agree where the loop is left. -/
theorem loop_unrolled (s : Words A) (h : n = 10 ∨ n = 12 ∨ n = 14) :
    roundLoop round rk (n >>> 1) 0 s = some (unrolledRounds round rk n s) := by
  obtain ⟨r, rfl⟩ : ∃ r, n = 2 * (r + 1) := ⟨n / 2 - 1, by omega⟩
  have hhalf : (2 * (r + 1)) >>> 1 = r + 1 := by
    rw [Nat.shiftRight_eq_div_pow]
    omega
  have hpointer : 0 + 8 * (r + 1) = 4 * (2 * (r + 1)) := by omega
  have hcount : 2 * (r + 1) - 1 = 2 * r + 1 := by omega
  rw [hhalf, roundLoop_rounds, unrolledRounds_rounds s h, hpointer, hcount]

theorem cryptBlock_unrolled (input : Memory UInt8) (h : n = 10 ∨ n = 12 ∨ n = 14) :
    cryptBlock round last rk n input = some (unrolledBlock round last rk n input) := by
  have hloop : roundLoop round rk (n >>> 1) 0 (firstWords rk input) = _ := loop_unrolled _ h
  unfold firstWords at hloop
  rw [cryptBlock]
  dsimp only
  rw [hloop]
  rfl

/-- Both directions write the block of the loop build and end at the last round key. -/
theorem full_unroll_same (rk : Memory (U32 A)) (block : Memory UInt8) (nrounds : ℕ)
    (h : nrounds = 10 ∨ nrounds = 12 ∨ nrounds = 14) :
    rijndaelEncrypt rk nrounds block = some (rijndaelEncryptUnrolled rk nrounds block) ∧
    rijndaelDecrypt rk nrounds block = some (rijndaelDecryptUnrolled rk nrounds block) ∧
    ∀ round ∈ [teRound, tdRound],
      roundLoop round rk (nrounds >>> 1) 0 (firstWords rk block) =
        some (unrolledRounds round rk nrounds (firstWords rk block)) ∧
      (unrolledRounds round rk nrounds (firstWords rk block)).1 = 4 * nrounds := by
  refine ⟨cryptBlock_unrolled block h, cryptBlock_unrolled block h, ?_⟩
  intro round _
  refine ⟨loop_unrolled _ h, ?_⟩
  rw [unrolledRounds_rounds _ h]

theorem full_unroll_same_counting :
    let rk : Memory (U32 .arm64) := fun i => u32 i
    let block : Memory UInt8 := fun i => UInt8.ofNat i
    rijndaelEncrypt rk 14 block = some (rijndaelEncryptUnrolled rk 14 block) :=
  (full_unroll_same _ _ 14 (by decide)).1

end AesUnrolled
