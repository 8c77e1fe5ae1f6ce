import Mathlib.Data.Nat.Bitwise
import Mathlib.Tactic.Common

/-! # The field with 256 elements, on bytes

The bits of a number are the coefficients of a polynomial over GF(2). A byte is an element of
the field: sums are exclusive ors, products are reduced by x^8 + x^4 + x^3 + x + 1. -/
namespace AesField

def xtime (p : ℕ) : ℕ := (2 * p) ^^^ (p / 128 * 0x11b)

def mulBits : ℕ → ℕ → ℕ → ℕ
  | 0, _, _ => 0
  | n + 1, c, p => (c % 2 * p) ^^^ mulBits n (c / 2) (xtime p)

def gmul (a b : UInt8) : UInt8 := UInt8.ofNat (mulBits 8 a.toNat b.toNat)

def ginv (b : UInt8) : UInt8 :=
  let b₂ := gmul b b
  let b₃ := gmul b₂ b
  let b₆ := gmul b₃ b₃
  let b₁₂ := gmul b₆ b₆
  let b₁₄ := gmul b₁₂ b₂
  let b₁₅ := gmul b₁₂ b₃
  let b₃₀ := gmul b₁₅ b₁₅
  let b₆₀ := gmul b₃₀ b₃₀
  let b₁₂₀ := gmul b₆₀ b₆₀
  gmul (gmul b₁₂₀ b₁₂₀) b₁₄

def rotl (b n : UInt8) : UInt8 := (b <<< n) ||| (b >>> (8 - n))

/-- The affine transformation of the S-box: bit `i` is the sum of the bits `i`, `i + 4`,
`i + 5`, `i + 6`, `i + 7` modulo 8 and bit `i` of 63. -/
def affine (b : UInt8) : UInt8 :=
  b ^^^ rotl b 4 ^^^ rotl b 3 ^^^ rotl b 2 ^^^ rotl b 1 ^^^ 0x63

def invAffine (b : UInt8) : UInt8 := rotl b 6 ^^^ rotl b 3 ^^^ rotl b 1 ^^^ 0x05

def sbox (b : UInt8) : UInt8 := affine (ginv b)

def invSbox (b : UInt8) : UInt8 := ginv (invAffine b)

theorem forall_byte {p : UInt8 → Prop} (h : ∀ n < 256, p (UInt8.ofNat n)) (b : UInt8) : p b := by
  have hb := h b.toNat b.toNat_lt
  rwa [UInt8.ofNat_toNat] at hb

variable {p q : ℕ}

theorem mul_xor_of_le_one {c d : ℕ} (hc : c ≤ 1) (hd : d ≤ 1) (m : ℕ) :
    (c ^^^ d) * m = (c * m) ^^^ (d * m) := by
  rcases Nat.le_one_iff_eq_zero_or_eq_one.mp hc with rfl | rfl <;>
    rcases Nat.le_one_iff_eq_zero_or_eq_one.mp hd with rfl | rfl <;> simp

theorem mul_xor_right {c : ℕ} (hc : c ≤ 1) (p q : ℕ) : c * (p ^^^ q) = (c * p) ^^^ (c * q) := by
  rcases Nat.le_one_iff_eq_zero_or_eq_one.mp hc with rfl | rfl <;> simp

theorem xtime_lt (hp : p < 256) : xtime p < 256 := by
  revert p
  decide +kernel

theorem xtime_xor (hp : p < 256) (hq : q < 256) : xtime (p ^^^ q) = xtime p ^^^ xtime q := by
  have hdouble : 2 * (p ^^^ q) = (2 * p) ^^^ (2 * q) := by
    have h := Nat.shiftLeft_xor_distrib (a := p) (b := q) (i := 1)
    simpa [Nat.shiftLeft_eq, Nat.mul_comm] using h
  have hdiv : (p ^^^ q) / 128 = (p / 128) ^^^ (q / 128) := Nat.xor_div_two_pow (n := 7)
  unfold xtime
  rw [hdouble, hdiv, mul_xor_of_le_one (by omega) (by omega)]
  ac_rfl

theorem mulBits_xor (n c : ℕ) (hp : p < 256) (hq : q < 256) :
    mulBits n c (p ^^^ q) = mulBits n c p ^^^ mulBits n c q := by
  induction n generalizing c p q with
  | zero => simp [mulBits]
  | succ n ih =>
    simp only [mulBits]
    rw [xtime_xor hp hq, ih _ (xtime_lt hp) (xtime_lt hq), mul_xor_right (by omega)]
    ac_rfl

theorem gmul_xor (a b c : UInt8) : gmul a (b ^^^ c) = gmul a b ^^^ gmul a c := by
  apply UInt8.toNat_inj.mp
  simp only [gmul, UInt8.toNat_xor, UInt8.toNat_ofNat']
  rw [mulBits_xor _ _ b.toNat_lt c.toNat_lt]
  exact Nat.xor_mod_two_pow

theorem two_pow_xor {n w : ℕ} (hw : w < 2 ^ n) : 2 ^ n ^^^ w = 2 ^ n + w := by
  have hor := Nat.two_pow_add_eq_or_of_lt hw 1
  rw [Nat.mul_one] at hor
  rw [hor]
  apply Nat.eq_of_testBit_eq
  intro i
  rw [Nat.testBit_xor, Nat.testBit_or, Nat.testBit_two_pow]
  by_cases hi : n = i
  · subst hi
    simp [Nat.testBit_lt_two_pow hw]
  · simp [hi]

/-- A property that sums keep may be checked on the eight powers of x. -/
theorem xor_induction {P : UInt8 → Prop} (hxor : ∀ b c, P b → P c → P (b ^^^ c))
    (hpow : ∀ i < 8, P (UInt8.ofNat (2 ^ i))) (b : UInt8) : P b := by
  have hbelow (n : ℕ) (hn : n ≤ 8) : ∀ v < 2 ^ n, P (UInt8.ofNat v) := by
    induction n with
    | zero =>
      intro v hv
      obtain rfl : v = 0 := by omega
      exact hxor 1 1 (hpow 0 (by omega)) (hpow 0 (by omega))
    | succ n ih =>
      intro v hv
      rcases Nat.lt_or_ge v (2 ^ n) with hlt | hge
      · exact ih (by omega) v hlt
      · -- the top bit apart, the number is below the power
        have hrest : v - 2 ^ n < 2 ^ n := by
          rw [Nat.pow_succ] at hv
          omega
        have hsplit : v = 2 ^ n ^^^ (v - 2 ^ n) := by
          rw [two_pow_xor hrest]
          omega
        rw [hsplit, UInt8.ofNat_xor]
        exact hxor _ _ (hpow n (by omega)) (ih (by omega) _ hrest)
  have hb := hbelow 8 le_rfl b.toNat b.toNat_lt
  rwa [UInt8.ofNat_toNat] at hb

/-- A sum of four products of products is additive, so that its values may be checked on the
powers of x. -/
theorem productSum_ext {a b c d a' b' c' d' : UInt8} {g : UInt8 → UInt8}
    (hg : ∀ x y, g (x ^^^ y) = g x ^^^ g y)
    (hpow : ∀ i < 8, gmul a' (gmul a (.ofNat (2 ^ i))) ^^^ gmul b' (gmul b (.ofNat (2 ^ i))) ^^^
      gmul c' (gmul c (.ofNat (2 ^ i))) ^^^ gmul d' (gmul d (.ofNat (2 ^ i))) =
      g (.ofNat (2 ^ i))) (x : UInt8) :
    gmul a' (gmul a x) ^^^ gmul b' (gmul b x) ^^^ gmul c' (gmul c x) ^^^ gmul d' (gmul d x) =
      g x := by
  induction x using xor_induction with
  | hpow i hi => exact hpow i hi
  | hxor x y hx hy =>
    rw [hg, ← hx, ← hy]
    simp only [gmul_xor]
    ac_rfl

theorem gmul_ginv : ∀ b : UInt8, b ≠ 0 → gmul b (ginv b) = 1 := forall_byte (by decide +kernel)

theorem ginv_ginv : ∀ b : UInt8, ginv (ginv b) = b := forall_byte (by decide +kernel)

theorem invAffine_affine : ∀ b : UInt8, invAffine (affine b) = b := forall_byte (by decide +kernel)

theorem affine_invAffine : ∀ b : UInt8, affine (invAffine b) = b := forall_byte (by decide +kernel)

@[simp] theorem invSbox_sbox (b : UInt8) : invSbox (sbox b) = b := by
  rw [invSbox, sbox, invAffine_affine, ginv_ginv]

@[simp] theorem sbox_invSbox (b : UInt8) : sbox (invSbox b) = b := by
  rw [invSbox, sbox, ginv_ginv, affine_invAffine]

end AesField
