import OpteeTest.BigEndian
import Mathlib.Data.Nat.NthRoot.Defs
import Mathlib.Data.Nat.Prime.Basic

/-! # SHA-224 and SHA-256

The secure hash standard over byte strings. The constants come from the roots of primes,
not from a table. -/
namespace Sha2Spec

open BigEndian

def rotr (n x : UInt32) : UInt32 := x >>> n ||| x <<< (32 - n)

def ch (x y z : UInt32) : UInt32 := (x &&& y) ^^^ (~~~x &&& z)

def maj (x y z : UInt32) : UInt32 := (x &&& y) ^^^ (x &&& z) ^^^ (y &&& z)

def bigSigma0 (x : UInt32) : UInt32 := rotr 2 x ^^^ rotr 13 x ^^^ rotr 22 x

def bigSigma1 (x : UInt32) : UInt32 := rotr 6 x ^^^ rotr 11 x ^^^ rotr 25 x

def smallSigma0 (x : UInt32) : UInt32 := rotr 7 x ^^^ rotr 18 x ^^^ x >>> 3

def smallSigma1 (x : UInt32) : UInt32 := rotr 17 x ^^^ rotr 19 x ^^^ x >>> 10

/-- The first 64 primes. A composite number below 18^2 has a divisor below 18. -/
def primes : List ℕ :=
  (List.range 312).filter fun p => 2 ≤ p ∧ ∀ d ∈ List.range 18, 2 ≤ d → d < p → ¬ d ∣ p

theorem mem_primes {p : ℕ} : p ∈ primes ↔ p < 312 ∧ p.Prime := by
  simp only [primes, List.mem_filter, List.mem_range, decide_eq_true_eq]
  refine and_congr_right fun hp => ⟨?_, ?_⟩
  · rintro ⟨htwo, hdiv⟩
    by_contra hprime
    have hsq := Nat.minFac_sq_le_self (by omega) hprime
    have hle := (Nat.minFac_prime (by omega : p ≠ 1)).two_le
    have hsmall : p.minFac < 18 := by
      by_contra hge
      have := Nat.mul_le_mul (Nat.not_lt.mp hge) (Nat.not_lt.mp hge)
      rw [sq] at hsq
      omega
    have hproper : p.minFac < p := by
      have := Nat.mul_le_mul_left p.minFac hle
      rw [sq] at hsq
      omega
    exact hdiv p.minFac hsmall hle hproper p.minFac_dvd
  · intro hprime
    refine ⟨hprime.two_le, fun d _ hd hlt hdvd => ?_⟩
    rcases (Nat.dvd_prime hprime).mp hdvd with h | h <;> omega

def cubeRootWord (p : ℕ) : UInt32 := UInt32.ofNat (Nat.nthRoot 3 (p * 2 ^ 96))

def squareRootWord (p : ℕ) : UInt32 := UInt32.ofNat (Nat.nthRoot 2 (p * 2 ^ 64))

def squareRootSecondWord (p : ℕ) : UInt32 := UInt32.ofNat (Nat.nthRoot 2 (p * 2 ^ 128))

def roundConstant (t : ℕ) : UInt32 := cubeRootWord (primes.getD t 0)

abbrev HashValue := Vector UInt32 8

def initialHash256 : HashValue := Vector.ofFn fun i => squareRootWord (primes.getD i 0)

def initialHash224 : HashValue :=
  Vector.ofFn fun i => squareRootSecondWord (primes.getD (i + 8) 0)

/-- The byte with the closing one bit, the fewest zeros, and the length in bits. -/
def padding (len : ℕ) : List UInt8 :=
  0x80 :: (List.replicate ((119 - len % 64) % 64) 0 ++ beBytes 8 (8 * len))

def pad (message : List UInt8) : List UInt8 := message ++ padding message.length

def blocks (p : List UInt8) : List (List UInt8) :=
  (List.range (p.length / 64)).map fun k => (p.drop (64 * k)).take 64

theorem pad_length (message : List UInt8) : (pad message).length % 64 = 0 := by
  simp only [pad, padding, List.length_append, List.length_cons, List.length_replicate,
    beBytes_length]
  omega

def messageWord (block : List UInt8) (t : ℕ) : UInt32 :=
  UInt32.ofNat (be32 (block.getD (4 * t) 0).toNat (block.getD (4 * t + 1) 0).toNat
    (block.getD (4 * t + 2) 0).toNat (block.getD (4 * t + 3) 0).toNat)

def messageSchedule (block : List UInt8) (t : ℕ) : UInt32 :=
  if t < 16 then messageWord block t
  else
    smallSigma1 (messageSchedule block (t - 2)) + messageSchedule block (t - 7) +
      smallSigma0 (messageSchedule block (t - 15)) + messageSchedule block (t - 16)

structure WorkingVariables where
  a : UInt32
  b : UInt32
  c : UInt32
  d : UInt32
  e : UInt32
  f : UInt32
  g : UInt32
  h : UInt32

def round (k w : UInt32) (v : WorkingVariables) : WorkingVariables :=
  let t₁ := v.h + bigSigma1 v.e + ch v.e v.f v.g + k + w
  let t₂ := bigSigma0 v.a + maj v.a v.b v.c
  { a := t₁ + t₂, b := v.a, c := v.b, d := v.c, e := v.d + t₁, f := v.e, g := v.f, h := v.g }

def rounds (block : List UInt8) (H : HashValue) : WorkingVariables :=
  (List.range 64).foldl (fun v t => round (roundConstant t) (messageSchedule block t) v)
    ⟨H[0], H[1], H[2], H[3], H[4], H[5], H[6], H[7]⟩

def compress (H : HashValue) (block : List UInt8) : HashValue :=
  let v := rounds block H
  #v[v.a + H[0], v.b + H[1], v.c + H[2], v.d + H[3], v.e + H[4], v.f + H[5], v.g + H[6],
    v.h + H[7]]

def hash (H : HashValue) (message : List UInt8) : HashValue :=
  (blocks (pad message)).foldl compress H

def hashBytes (words : List (Fin 8)) (H : HashValue) : List UInt8 :=
  words.flatMap fun i => beBytes 4 H[i].toNat

def sha256 (message : List UInt8) : List UInt8 :=
  hashBytes [0, 1, 2, 3, 4, 5, 6, 7] (hash initialHash256 message)

def sha224 (message : List UInt8) : List UInt8 :=
  hashBytes [0, 1, 2, 3, 4, 5, 6] (hash initialHash224 message)

end Sha2Spec
