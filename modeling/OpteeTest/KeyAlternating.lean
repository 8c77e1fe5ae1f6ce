import Mathlib.Data.Nat.Notation
import Mathlib.Logic.Equiv.Defs
import Mathlib.Tactic.Common

/-! # Key-alternating ciphers and their equivalent inverse

A cipher of `n + 1` rounds applies a layer and a linear map in all rounds but the last, which
has the layer only; a round key is added before the first round and after each. The inverse
cipher has the same structure when the round keys are reversed and the inner ones pass
through the inverse of the linear map. -/
namespace KeyAlternating

structure Layers (S : Type*) [XorOp S] where
  layer : S ≃ S
  mix : S ≃ S
  mix_xor : ∀ a b, mix (a ^^^ b) = mix a ^^^ mix b
  xor_cancel : ∀ a b : S, (a ^^^ b) ^^^ b = a

variable {S : Type*} [XorOp S]

def rounds (f : S → S) (k : ℕ → S) (s : S) : ℕ → S
  | 0 => s ^^^ k 0
  | n + 1 => f (rounds f k s n) ^^^ k (n + 1)

def Layers.cipher (R : Layers S) (k : ℕ → S) (n : ℕ) (s : S) : S :=
  R.layer (rounds (fun x => R.mix (R.layer x)) k s n) ^^^ k (n + 1)

def Layers.symm (R : Layers S) : Layers S where
  layer := R.layer.symm
  mix := R.mix.symm
  mix_xor a b := by
    apply R.mix.injective
    rw [R.mix_xor]
    simp only [Equiv.apply_symm_apply]
  xor_cancel := R.xor_cancel

/-- `d` is the schedule of the equivalent inverse of the cipher with schedule `k`. -/
structure Layers.InverseKeys (R : Layers S) (n : ℕ) (k d : ℕ → S) : Prop where
  first : d 0 = k (n + 1)
  inner : ∀ i < n, d (i + 1) = R.mix.symm (k (n - i))
  last : d (n + 1) = k 0

variable {R : Layers S} {n : ℕ} {k d : ℕ → S}

theorem Layers.mix_symm_xor (R : Layers S) (a b : S) :
    R.mix.symm (a ^^^ b) = R.mix.symm a ^^^ R.mix.symm b :=
  R.symm.mix_xor a b

theorem Layers.InverseKeys.symm (h : R.InverseKeys n k d) : R.symm.InverseKeys n d k := by
  constructor
  · exact h.last.symm
  · intro i hi
    obtain ⟨j, hj⟩ : ∃ j, n - i = j + 1 := ⟨n - i - 1, by omega⟩
    have hback : n - j = i + 1 := by omega
    rw [hj, h.inner j (by omega), hback]
    exact (R.mix.apply_symm_apply (k (i + 1))).symm
  · exact h.first.symm

/-- After `i` inverse rounds the state is the layer of the state `n - i` rounds in. -/
theorem rounds_symm (h : R.InverseKeys n k d) (s : S) {i : ℕ} (hi : i ≤ n) :
    rounds (fun x => R.mix.symm (R.layer.symm x)) d (R.cipher k n s) i =
      R.layer (rounds (fun x => R.mix (R.layer x)) k s (n - i)) := by
  induction i with
  | zero =>
    rw [rounds, h.first, Nat.sub_zero]
    exact R.xor_cancel _ _
  | succ i ih =>
    obtain ⟨j, hj⟩ : ∃ j, n - i = j + 1 := ⟨n - i - 1, by omega⟩
    have hback : n - (i + 1) = j := by omega
    rw [rounds, ih (by omega), h.inner i (by omega), hj, hback, Equiv.symm_apply_apply, rounds,
      R.mix_symm_xor, Equiv.symm_apply_apply, R.xor_cancel]

theorem cipher_symm_cipher (h : R.InverseKeys n k d) (s : S) :
    R.symm.cipher d n (R.cipher k n s) = s := by
  have hlast := rounds_symm h s (Nat.le_refl n)
  rw [Nat.sub_self] at hlast
  have hround : R.symm.cipher d n (R.cipher k n s) = R.layer.symm (rounds
      (fun x => R.mix.symm (R.layer.symm x)) d (R.cipher k n s) n) ^^^ d (n + 1) := rfl
  rw [hround, hlast, Equiv.symm_apply_apply, h.last, rounds, R.xor_cancel]

theorem cipher_cipher_symm (h : R.InverseKeys n k d) (s : S) :
    R.cipher k n (R.symm.cipher d n s) = s :=
  cipher_symm_cipher h.symm s

end KeyAlternating
