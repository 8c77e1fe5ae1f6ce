import OpteeTest.TeeApi
import Mathlib.Data.Nat.ModEq
import Mathlib.Data.Set.Basic

/-! # Handles of the TEE API in 32-bit words

The crypt TA sends a handle as its offset to `ta_head`; the key and the storage TA send its low
32 bits. The client returns the word in later commands. -/
namespace HandleTransport

open TeeApi

/-- A pointer-size value that is not `TEE_HANDLE_NULL`. -/
def Handle (A : Arch) : Type := { h : ℕ // 0 < h ∧ h < A.word }

def handle2val (A : Arch) (taHead h : ℕ) : UInt32 :=
  if h = 0 then UInt32.ofNat h else UInt32.ofNat ((h + (A.word - taHead)) % A.word)

def val2handle (A : Arch) (taHead : ℕ) (v : UInt32) : ℕ :=
  if v = 0 then v.toNat else (v.toNat + taHead) % A.word

def truncateHandle (h : ℕ) : UInt32 := UInt32.ofNat h

def widenVal (v : UInt32) : ℕ := v.toNat

variable {A : Arch}

/-- The words of a set of live handles can be told apart and lead back to the handles. -/
structure Survive (encode : ℕ → UInt32) (decode : UInt32 → ℕ) (live : Set (Handle A)) : Prop where
  null : encode 0 = 0 ∧ decode 0 = 0
  nonzero : ∀ h ∈ live, encode h.val ≠ 0
  distinct : ∀ h ∈ live, ∀ k ∈ live, encode h.val = encode k.val → h = k
  restored : ∀ h ∈ live, decode (encode h.val) = h.val

/-- Distinct words and restored handles are one thing, as long as null is kept. -/
theorem survive_iff {encode : ℕ → UInt32} {decode : UInt32 → ℕ}
    (hnull : encode 0 = 0 ∧ decode 0 = 0) (live : Set (Handle A)) :
    Survive encode decode live ↔ ∀ h ∈ live, decode (encode h.val) = h.val := by
  constructor
  · exact fun h => h.restored
  · intro hrestored
    refine ⟨hnull, fun h hh hzero => ?_, fun h hh k hk heq => ?_, hrestored⟩
    · have hback := hrestored h hh
      rw [hzero, hnull.2] at hback
      exact absurd hback.symm h.property.1.ne'
    · apply Subtype.ext
      rw [← hrestored h hh, ← hrestored k hk, heq]

/-- The offset of a handle to `ta_head`, around the end of the address space. -/
def offset (taHead h : Handle A) : ℕ := (h.val + (A.word - taHead.val)) % A.word

theorem offset_add (taHead h : Handle A) :
    (offset taHead h + taHead.val) % A.word = h.val := by
  have hsum : h.val + (A.word - taHead.val) + taHead.val = h.val + A.word := by
    have := taHead.property.2
    omega
  rw [offset, Nat.mod_add_mod, hsum, Nat.add_mod_right, Nat.mod_eq_of_lt h.property.2]

theorem offset_lt (taHead h : Handle A) : offset taHead h < A.word :=
  Nat.mod_lt _ (Nat.lt_of_lt_of_le (by decide) A.word_ge)

theorem handle2val_eq (taHead h : Handle A) :
    handle2val A taHead.val h.val = UInt32.ofNat (offset taHead h) :=
  if_neg h.property.1.ne'

theorem val2handle_null (taHead : ℕ) : val2handle A taHead 0 = 0 := if_pos rfl

theorem val2handle_ne {taHead : ℕ} {v : UInt32} (h : v ≠ 0) :
    val2handle A taHead v = (v.toNat + taHead) % A.word := if_neg h

theorem add_head_inj (taHead h : Handle A) {n : ℕ} (hn : n < A.word)
    (heq : (n + taHead.val) % A.word = h.val) : n = offset taHead h := by
  have hback := offset_add taHead h
  rw [← heq] at hback
  have hmod : Nat.ModEq A.word (offset taHead h + taHead.val) (n + taHead.val) := hback
  have hcancel := Nat.ModEq.add_right_cancel' taHead.val hmod
  exact (Nat.ModEq.eq_of_lt_of_lt hcancel (offset_lt taHead h) hn).symm

theorem crypt_restored_iff (taHead h : Handle A) :
    val2handle A taHead.val (handle2val A taHead.val h.val) = h.val ↔
      0 < offset taHead h ∧ offset taHead h < 2 ^ 32 := by
  rw [handle2val_eq]
  constructor
  · intro hback
    have hne : UInt32.ofNat (offset taHead h) ≠ 0 := by
      intro hzero
      rw [hzero, val2handle_null] at hback
      exact absurd hback.symm h.property.1.ne'
    rw [val2handle_ne hne] at hback
    have hlt := (UInt32.ofNat (offset taHead h)).toNat_lt
    have hoff := add_head_inj taHead h (Nat.lt_of_lt_of_le hlt A.word_ge) hback
    refine ⟨Nat.pos_of_ne_zero fun hzero => hne ?_, hoff ▸ hlt⟩
    rw [hzero]
    rfl
  · rintro ⟨hpos, hlt⟩
    have htoNat : (UInt32.ofNat (offset taHead h)).toNat = offset taHead h := by
      rw [UInt32.toNat_ofNat', Nat.mod_eq_of_lt hlt]
    have hne : UInt32.ofNat (offset taHead h) ≠ 0 := by
      intro hzero
      rw [hzero] at htoNat
      exact absurd htoNat.symm hpos.ne'
    rw [val2handle_ne hne, htoNat, offset_add]

theorem plain_restored_iff (h : ℕ) : widenVal (truncateHandle h) = h ↔ h < 2 ^ 32 := by
  rw [widenVal, truncateHandle, UInt32.toNat_ofNat']
  constructor
  · intro hback
    rw [← hback]
    exact Nat.mod_lt _ (by decide)
  · exact Nat.mod_eq_of_lt

/-- The handles of the crypt TA survive when they lie less than 4 GiB above `ta_head`, and those
of the key and the storage TA when they lie in the first 4 GiB. -/
theorem handles_survive_iff (taHead : Handle A) (live : Set (Handle A)) :
    (Survive (handle2val A taHead.val) (val2handle A taHead.val) live ↔
      ∀ h ∈ live, 0 < offset taHead h ∧ offset taHead h < 2 ^ 32) ∧
    (Survive truncateHandle widenVal live ↔ ∀ h ∈ live, h.val < 2 ^ 32) := by
  constructor
  · rw [survive_iff ⟨if_pos rfl, val2handle_null _⟩]
    exact forall₂_congr fun h _ => crypt_restored_iff taHead h
  · rw [survive_iff ⟨rfl, rfl⟩]
    exact forall₂_congr fun h _ => plain_restored_iff h.val

/-- On a 64-bit TA an operation 4 KiB below `ta_head` comes back 4 GiB too high, the object at
`ta_head` comes back as null, and two objects 4 GiB apart share a word. -/
theorem handles_lost :
    (∃ taHead h : Handle .arm64, ¬ Survive (handle2val .arm64 taHead.val)
      (val2handle .arm64 taHead.val) {h}) ∧
    (∃ taHead h : Handle .arm32, ¬ Survive (handle2val .arm32 taHead.val)
      (val2handle .arm32 taHead.val) {h}) ∧
    (∃ h k : Handle .arm64, ¬ Survive truncateHandle widenVal {h, k}) := by
  refine ⟨⟨⟨0x40002000, by decide⟩, ⟨0x40001000, by decide⟩, fun h => ?_⟩,
    ⟨⟨0x40002000, by decide⟩, ⟨0x40002000, by decide⟩, fun h => ?_⟩,
    ⟨⟨0x40001000, by decide⟩, ⟨0x140001000, by decide⟩, fun h => ?_⟩⟩
  · exact absurd (h.restored _ rfl) (by decide)
  · exact absurd (h.restored _ rfl) (by decide)
  · have heq := h.distinct _ (Or.inl rfl) _ (Or.inr rfl) rfl
    exact absurd (congrArg Subtype.val heq) (by decide)

end HandleTransport
