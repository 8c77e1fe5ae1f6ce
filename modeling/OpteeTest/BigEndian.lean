import Mathlib.Algebra.Group.Nat.Defs
import Mathlib.Data.Nat.Notation
import Mathlib.Tactic.Common

/-! # Big-endian words of four bytes -/
namespace BigEndian

def be32 (a b c d : ℕ) : ℕ := ((a * 256 + b) * 256 + c) * 256 + d

def beBytes (k n : ℕ) : List UInt8 :=
  (List.range k).map fun i => UInt8.ofNat (n / 256 ^ (k - 1 - i))

variable {a b c d : ℕ}

theorem be32_lt (ha : a < 256) (hb : b < 256) (hc : c < 256) (hd : d < 256) :
    be32 a b c d < 2 ^ 32 := by
  unfold be32
  omega

theorem be32_div_24 (hb : b < 256) (hc : c < 256) (hd : d < 256) :
    be32 a b c d / 2 ^ 24 = a := by
  unfold be32
  omega

theorem be32_div_16 (hb : b < 256) (hc : c < 256) (hd : d < 256) :
    be32 a b c d / 2 ^ 16 % 256 = b := by
  unfold be32
  omega

theorem be32_div_8 (hc : c < 256) (hd : d < 256) : be32 a b c d / 2 ^ 8 % 256 = c := by
  unfold be32
  omega

theorem be32_mod (hd : d < 256) : be32 a b c d % 256 = d := by
  unfold be32
  omega

theorem beBytes_length (k n : ℕ) : (beBytes k n).length = k := by
  simp [beBytes]

theorem beBytes_four (n : ℕ) : beBytes 4 n = [UInt8.ofNat (n / 2 ^ 24), UInt8.ofNat (n / 2 ^ 16),
    UInt8.ofNat (n / 2 ^ 8), UInt8.ofNat n] := by
  simp [beBytes, List.range, List.range.loop]

theorem beBytes_eight {n : ℕ} (h : n < 2 ^ 32) :
    beBytes 8 n = List.replicate 4 0 ++ beBytes 4 n := by
  have h₄ : n / 4294967296 = 0 := Nat.div_eq_of_lt (by omega)
  have h₅ : n / 1099511627776 = 0 := Nat.div_eq_of_lt (by omega)
  have h₆ : n / 281474976710656 = 0 := Nat.div_eq_of_lt (by omega)
  have h₇ : n / 72057594037927936 = 0 := Nat.div_eq_of_lt (by omega)
  simp [beBytes, List.range, List.range.loop, List.replicate, h₄, h₅, h₆, h₇]

/-- Bytes moved to disjoint places may be joined by `or` or by addition. -/
theorem or_eq_be32 (hb : b < 256) (hc : c < 256) (hd : d < 256) :
    d ||| c <<< 8 ||| b <<< 16 ||| a <<< 24 = be32 a b c d := by
  have h₁ : d ||| c <<< 8 = c * 2 ^ 8 + d := by
    rw [Nat.or_comm, ← Nat.shiftLeft_add_eq_or_of_lt (by omega), Nat.shiftLeft_eq]
  have h₂ : d ||| c <<< 8 ||| b <<< 16 = b * 2 ^ 16 + (c * 2 ^ 8 + d) := by
    rw [h₁, Nat.or_comm, ← Nat.shiftLeft_add_eq_or_of_lt (by omega), Nat.shiftLeft_eq]
  rw [h₂, Nat.or_comm, ← Nat.shiftLeft_add_eq_or_of_lt (by omega), Nat.shiftLeft_eq, be32]
  omega

variable {a' b' c' d' : ℕ}

theorem horner_div (hb : b < 256) : (a * 256 + b) / 2 ^ 8 = a := by
  omega

theorem horner_mod (hb : b < 256) : (a * 256 + b) % 2 ^ 8 = b := by
  omega

theorem xor_horner (hb : b < 256) (hb' : b' < 256) :
    (a * 256 + b) ^^^ (a' * 256 + b') = (a ^^^ a') * 256 + (b ^^^ b') := by
  have hdiv := Nat.xor_div_two_pow (a := a * 256 + b) (b := a' * 256 + b') (n := 8)
  have hmod := Nat.xor_mod_two_pow (a := a * 256 + b) (b := a' * 256 + b') (n := 8)
  rw [horner_div hb, horner_div hb'] at hdiv
  rw [horner_mod hb, horner_mod hb'] at hmod
  rw [← hdiv, ← hmod, Nat.div_add_mod']

theorem and_horner (hb : b < 256) (hb' : b' < 256) :
    (a * 256 + b) &&& (a' * 256 + b') = (a &&& a') * 256 + (b &&& b') := by
  have hdiv := Nat.and_div_two_pow (a := a * 256 + b) (b := a' * 256 + b') (n := 8)
  have hmod := Nat.and_mod_two_pow (a := a * 256 + b) (b := a' * 256 + b') (n := 8)
  rw [horner_div hb, horner_div hb'] at hdiv
  rw [horner_mod hb, horner_mod hb'] at hmod
  rw [← hdiv, ← hmod, Nat.div_add_mod']

theorem be32_xor (hb : b < 256) (hc : c < 256) (hd : d < 256) (hb' : b' < 256) (hc' : c' < 256)
    (hd' : d' < 256) : be32 a b c d ^^^ be32 a' b' c' d' =
      be32 (a ^^^ a') (b ^^^ b') (c ^^^ c') (d ^^^ d') := by
  unfold be32
  rw [xor_horner hd hd', xor_horner hc hc', xor_horner hb hb']

theorem be32_and (hb : b < 256) (hc : c < 256) (hd : d < 256) (hb' : b' < 256) (hc' : c' < 256)
    (hd' : d' < 256) : be32 a b c d &&& be32 a' b' c' d' =
      be32 (a &&& a') (b &&& b') (c &&& c') (d &&& d') := by
  unfold be32
  rw [and_horner hd hd', and_horner hc hc', and_horner hb hb']

end BigEndian
