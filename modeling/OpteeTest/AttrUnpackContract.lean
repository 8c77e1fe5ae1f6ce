import OpteeTest.AttrUnpack

/-! # What the TA accepts and touches when it unpacks attributes

The contract is stated over the unbounded integers; the code computes in machine words.
The two agree exactly when no wrapped product or sum gets past a row the loop meets. -/
namespace AttrUnpackContract

open ByteMemory TeeApi AttrWireFormat AttrUnpack

variable {A : Arch}

def InBounds (B : ClientBuffer A) (i : ℕ) : Prop :=
  isValueId (B.id i) = false → (B.a i).toNat ≠ 0 →
    (B.a i).toNat + (B.b i).toNat ≤ B.blen.toNat

def WellFormed (B : ClientBuffer A) : Prop :=
  B.blen.toNat = 0 ∨ (B.buf % 4 = 0 ∧ 4 ≤ B.blen.toNat ∧
    4 + 12 * B.numAttrs ≤ B.blen.toNat ∧ ∀ i < B.numAttrs, InBounds B i)

def AllocationSucceeds (B : ClientBuffer A) (malloc : Bool) : Prop :=
  B.blen.toNat = 0 ∨ B.numAttrs = 0 ∨ malloc = true

/-- The contract of `unpack_attrs`: it accepts exactly the well-formed buffers, and neither
its accesses nor the memrefs it returns leave the buffer or the allocated block. -/
structure Contract (B : ClientBuffer A) (malloc : Bool) (r : UnpackRun) : Prop where
  accepts : r.res = teeSuccess ↔ WellFormed B ∧ AllocationSucceeds B malloc
  reads_in : ∀ a ∈ r.reads, a.Within B.blen.toNat
  writes_in : ∀ a ∈ r.writes, a.Within r.block
  memrefs_in : r.res = teeSuccess → ∀ t ∈ r.attrs, ∀ p l, t.content = .ref p l → p ≠ 0 →
    B.buf ≤ p ∧ p + l.toNat ≤ B.buf + B.blen.toNat

def HeaderAccepts (B : ClientBuffer A) : Prop :=
  B.blen.toNat ≠ 0 ∧ B.buf % 4 = 0 ∧ 4 ≤ B.blen.toNat ∧
    B.numAttrs * sizeofPacked % A.word ≤ B.blen.toNat - 4

/-- One past the last byte of `a[i]` that the loop writes before it checks row `i`. -/
def slotEnd (B : ClientBuffer A) (i : ℕ) : ℕ :=
  slot A i + if isValueId (B.id i) then A.sizeofPtr + 8 else 2 * A.sizeofPtr + 4

/-- Row `i` is reached: every earlier row passes the check in machine words. -/
def Reached (B : ClientBuffer A) (i : ℕ) : Prop :=
  i < B.numAttrs ∧ ∀ j < i, Passes B j

/-- The sum of row `i` reaches the word size and wraps to a value within the buffer size. -/
def SumWraps (B : ClientBuffer A) (i : ℕ) : Prop :=
  isValueId (B.id i) = false ∧ (B.a i).toNat ≠ 0 ∧ A.word ≤ (B.a i).toNat + (B.b i).toNat ∧
    ((B.a i).toNat + (B.b i).toNat) % A.word ≤ B.blen.toNat

/-- The rows that are reached lie inside the buffer and inside the block whose size
`TEE_Malloc` was given, and no wrapped sum goes unnoticed unless a row is rejected. -/
structure NoHarmfulWrap (B : ClientBuffer A) : Prop where
  rows : ∀ i, Reached B i → rowOffset (i + 1) ≤ B.blen.toNat
  slots : ∀ i, Reached B i → slotEnd B i ≤ blockSize A B.numAttrs
  sums : (∃ i < B.numAttrs, ¬ Passes B i) ∨ ∀ i < B.numAttrs, ¬ SumWraps B i

theorem met_iff_reached (B : ClientBuffer A) (i : ℕ) : Met B 0 B.numAttrs i ↔ Reached B i := by
  simp [Met, Reached]

theorem passes_of_inBounds {B : ClientBuffer A} {i : ℕ} (h : InBounds B i) : Passes B i := by
  intro hid ha
  have hb := h hid ha
  have hs := B.in_space
  rw [Nat.mod_eq_of_lt (by omega)]
  exact hb

theorem sumWraps_iff (B : ClientBuffer A) (i : ℕ) : SumWraps B i ↔ Passes B i ∧ ¬ InBounds B i := by
  have hs := B.in_space
  constructor
  · rintro ⟨hid, ha, hw, hsum⟩
    exact ⟨fun _ _ => hsum, fun h => by have := h hid ha; omega⟩
  · rintro ⟨hp, hb⟩
    unfold InBounds at hb
    push Not at hb
    obtain ⟨hid, ha, hlt⟩ := hb
    have hsum := hp hid ha
    refine ⟨hid, ha, ?_, hsum⟩
    by_contra hw
    rw [Nat.mod_eq_of_lt (Nat.not_le.mp hw)] at hsum
    omega

theorem rowReads_within (B : ClientBuffer A) (i size : ℕ) :
    (∀ a ∈ rowReads B i, a.Within size) ↔ rowOffset (i + 1) ≤ size := by
  rw [rowOffset_succ]
  unfold rowReads Access.Within
  split_ifs <;> simp <;> omega

theorem rowWrites_within (B : ClientBuffer A) (i size : ℕ) :
    (∀ a ∈ rowWrites B i, a.Within size) ↔ slotEnd B i ≤ size := by
  unfold rowWrites slotEnd Access.Within
  have hptr : 4 ≤ A.sizeofPtr := by cases A <;> decide
  split_ifs <;> simp <;> omega

/-- The run of an accepted header with a granted block, in terms of the loop. -/
theorem unpackAttrs_granted {B : ClientBuffer A} (hh : HeaderAccepts B) (hn : 0 < B.numAttrs) :
    let r := unpackAttrs B true
    let l := unpackLoop B B.numAttrs 0 ⟨[], [⟨0, 4⟩], []⟩
    r.res = l.1 ∧ r.reads = l.2.reads ∧ r.writes = l.2.writes ∧
    r.block = blockSize A B.numAttrs ∧ (l.1 = teeSuccess → r.attrs = l.2.attrs) ∧
    (l.1 = teeSuccess → r.attrCount = B.numAttrs) := by
  obtain ⟨h0, halign, h4, hsize⟩ := hh
  simp only [unpackAttrs, h0, halign, hn, Nat.not_lt.mpr h4, Nat.not_lt.mpr hsize, ne_eq,
    not_true_eq_false, or_self, if_false, if_true]
  split_ifs with hres <;> simp [hres]

theorem header_of_wellFormed {B : ClientBuffer A} (h0 : B.blen.toNat ≠ 0) (h : WellFormed B) :
    HeaderAccepts B := by
  rcases h with h | ⟨halign, h4, htable, _⟩
  · exact (h0 h).elim
  · refine ⟨h0, halign, h4, ?_⟩
    have hmod := Nat.mod_le (B.numAttrs * sizeofPacked) A.word
    unfold sizeofPacked at *
    omega

/-- Without an accepted header the code already meets the contract. -/
theorem contract_of_rejected {B : ClientBuffer A} (malloc : Bool) (hh : ¬ HeaderAccepts B) :
    Contract B malloc (unpackAttrs B malloc) := by
  by_cases h0 : B.blen.toNat = 0
  · constructor <;> simp [unpackAttrs, h0, WellFormed, AllocationSucceeds]
  have hwf : ¬ WellFormed B := fun h => hh (header_of_wellFormed h0 h)
  have hbad : teeErrorBadParameters ≠ teeSuccess := by decide
  by_cases h4 : B.buf % 4 ≠ 0 ∨ B.blen.toNat < 4
  · constructor <;> simp [unpackAttrs, h0, h4, hwf, hbad]
  · have hsize : B.blen.toNat - 4 < B.numAttrs * sizeofPacked % A.word := by
      by_contra hs
      exact hh ⟨h0, by omega, by omega, Nat.not_lt.mp hs⟩
    constructor
    · simp [unpackAttrs, h0, h4, hsize, hwf, hbad]
    · simp [unpackAttrs, h0, h4, hsize, Access.Within]
      omega
    · simp [unpackAttrs, h0, h4, hsize]
    · simp [unpackAttrs, h0, h4, hsize, hbad]

/-- Neither an empty table nor a refused allocation reaches the loop. -/
theorem contract_of_no_loop {B : ClientBuffer A} {malloc : Bool} (hh : HeaderAccepts B)
    (h : B.numAttrs = 0 ∨ malloc = false) : Contract B malloc (unpackAttrs B malloc) := by
  obtain ⟨h0, halign, h4, hsize⟩ := hh
  have hoom : teeErrorOutOfMemory ≠ teeSuccess := by decide
  by_cases hn : B.numAttrs = 0
  · have hrun : unpackAttrs B malloc = ⟨teeSuccess, [], 0, 0, [⟨0, 4⟩], []⟩ := by
      simp [unpackAttrs, h0, halign, Nat.not_lt.mpr h4, hn]
    rw [hrun]
    constructor
    · simp [WellFormed, AllocationSucceeds, halign, h4, hn]
    · simpa [Access.Within] using h4
    · simp
    · simp
  · have hm : malloc = false := h.resolve_left hn
    have hrun : unpackAttrs B malloc = ⟨teeErrorOutOfMemory, [], 0, 0, [⟨0, 4⟩], []⟩ := by
      simp [unpackAttrs, h0, halign, Nat.not_lt.mpr h4, Nat.not_lt.mpr hsize, Nat.pos_of_ne_zero hn,
        hm]
    rw [hrun]
    constructor
    · simp [AllocationSucceeds, h0, hn, hm, hoom]
    · simpa [Access.Within] using h4
    · simp
    · simp [hoom]

theorem decodeRow_ref {B : ClientBuffer A} {i p : ℕ} {l : UInt32}
    (h : (decodeRow B i).content = .ref p l) : isValueId (B.id i) = false ∧ l = B.b i ∧
      p = if (B.a i).toNat ≠ 0 then ((B.a i).toNat + B.buf) % A.word else 0 := by
  rw [decodeRow_content] at h
  by_cases hid : isValueId (B.id i) = true
  · simp [hid] at h
  · rw [if_neg hid, Content.ref.injEq] at h
    exact ⟨by simpa using hid, h.2.symm, h.1.symm⟩

/-- An in-bounds row decodes to a pointer into the client buffer. -/
theorem decodeRow_pointer {B : ClientBuffer A} {i p : ℕ} {l : UInt32} (hb : InBounds B i)
    (h : (decodeRow B i).content = .ref p l) (hp : p ≠ 0) :
    p = B.buf + (B.a i).toNat ∧ (B.a i).toNat + l.toNat ≤ B.blen.toNat := by
  obtain ⟨hid, hl, hptr⟩ := decodeRow_ref h
  have ha : (B.a i).toNat ≠ 0 := by
    intro ha
    simp [ha] at hptr
    exact hp hptr
  have hbound := hb hid ha
  have hspace := B.in_space
  rw [if_pos ha, Nat.mod_eq_of_lt (by omega)] at hptr
  subst hl
  omega

theorem contract_of_noHarmfulWrap {B : ClientBuffer A} (hh : HeaderAccepts B)
    (hn : 0 < B.numAttrs) (h : NoHarmfulWrap B) : Contract B true (unpackAttrs B true) := by
  obtain ⟨hres, hreads, hwrites, hblock, hattrs, -⟩ := unpackAttrs_granted hh hn
  obtain ⟨h0, halign, h4, -⟩ := hh
  have hiff := loop_success_iff B B.numAttrs ⟨[], [⟨0, 4⟩], []⟩
  have hbounds (hall : ∀ i < B.numAttrs, Passes B i) : ∀ i < B.numAttrs, InBounds B i := by
    rcases h.sums with ⟨i, hi, hp⟩ | hsum
    · exact (hp (hall i hi)).elim
    · intro i hi
      by_contra hb
      exact hsum i hi ((sumWraps_iff B i).mpr ⟨hall i hi, hb⟩)
  constructor
  · rw [hres, hiff]
    constructor
    · intro hall
      refine ⟨Or.inr ⟨halign, h4, ?_, hbounds hall⟩, Or.inr (Or.inr rfl)⟩
      have hlast := h.rows (B.numAttrs - 1) ⟨by omega, fun j hj => hall j (by omega)⟩
      rwa [Nat.sub_add_cancel hn] at hlast
    · rintro ⟨hwf | ⟨-, -, -, hb⟩, -⟩
      · exact (h0 hwf).elim
      · exact fun i hi => passes_of_inBounds (hb i hi)
  · intro a ha
    rw [hreads, loop_reads] at ha
    rcases ha with ha | ⟨i, hi, ha⟩
    · simp only [List.mem_singleton] at ha
      subst ha
      exact h4
    · exact (rowReads_within B i _).mpr (h.rows i ((met_iff_reached B i).mp hi)) a ha
  · intro a ha
    rw [hwrites, loop_writes] at ha
    rw [hblock]
    rcases ha with ha | ⟨i, hi, ha⟩
    · simp at ha
    · exact (rowWrites_within B i _).mpr (h.slots i ((met_iff_reached B i).mp hi)) a ha
  · intro hsucc t ht p l hc hp
    rw [hres] at hsucc
    have hall := hiff.mp hsucc
    rw [hattrs hsucc, (loop_success _ fun i _ hi => hall i (by omega)).2] at ht
    simp only [List.nil_append, List.mem_map, List.mem_range'_1] at ht
    obtain ⟨i, hi, rfl⟩ := ht
    have hptr := decodeRow_pointer (hbounds hall i (by omega)) hc hp
    omega

theorem noHarmfulWrap_of_contract {B : ClientBuffer A} (hh : HeaderAccepts B)
    (hn : 0 < B.numAttrs) (h : Contract B true (unpackAttrs B true)) : NoHarmfulWrap B := by
  obtain ⟨hres, hreads, hwrites, hblock, -, -⟩ := unpackAttrs_granted hh hn
  have hiff := loop_success_iff B B.numAttrs ⟨[], [⟨0, 4⟩], []⟩
  constructor
  · intro i hi
    refine (rowReads_within B i _).mp fun a ha => h.reads_in a ?_
    rw [hreads, loop_reads]
    exact Or.inr ⟨i, (met_iff_reached B i).mpr hi, ha⟩
  · intro i hi
    refine (rowWrites_within B i _).mp fun a ha => ?_
    rw [← hblock]
    refine h.writes_in a ?_
    rw [hwrites, loop_writes]
    exact Or.inr ⟨i, (met_iff_reached B i).mpr hi, ha⟩
  · by_cases hall : ∀ i < B.numAttrs, Passes B i
    · right
      have hsucc := hiff.mpr hall
      rw [← hres, h.accepts] at hsucc
      rcases hsucc.1 with h0 | ⟨-, -, -, hb⟩
      · exact (hh.1 h0).elim
      · exact fun i hi hw => ((sumWraps_iff B i).mp hw).2 (hb i hi)
    · left
      push Not at hall
      exact hall

/-- The parser meets its contract exactly when no harmful wrap is reached. -/
theorem unpack_contract_iff (B : ClientBuffer A) (malloc : Bool) :
    Contract B malloc (unpackAttrs B malloc) ↔
      (HeaderAccepts B → 0 < B.numAttrs → malloc = true → NoHarmfulWrap B) := by
  constructor
  · rintro h hh hn rfl
    exact noHarmfulWrap_of_contract hh hn h
  · intro h
    by_cases hh : HeaderAccepts B
    · by_cases hl : B.numAttrs = 0 ∨ malloc = false
      · exact contract_of_no_loop hh hl
      · push Not at hl
        have hm : malloc = true := by simpa using hl.2
        subst hm
        exact contract_of_noHarmfulWrap hh (by omega) (h hh (by omega) rfl)
    · exact contract_of_rejected malloc hh

/-- On the 64-bit target 32-bit offsets and lengths never wrap their sum. -/
theorem not_sumWraps_arm64 (B : ClientBuffer .arm64) (i : ℕ) : ¬ SumWraps B i := by
  rintro ⟨-, -, hw, -⟩
  have ha := (B.a i).toNat_lt
  have hb := (B.b i).toNat_lt
  simp only [Arch.word, Arch.bits] at hw
  omega

theorem sizeofPacked_le (A : Arch) : sizeofPacked ≤ sizeofAttribute A := by
  cases A <;> decide

/-- Counts whose array fits the 32-bit argument of `TEE_Malloc` leave only the sums to check. -/
theorem noHarmfulWrap_of_small {B : ClientBuffer A} (hh : HeaderAccepts B)
    (hn : B.numAttrs * sizeofAttribute A < 2 ^ 32) (hs : ∀ i < B.numAttrs, ¬ SumWraps B i) :
    NoHarmfulWrap B := by
  have hword := A.word_ge
  have hle : B.numAttrs * sizeofPacked ≤ B.numAttrs * sizeofAttribute A :=
    Nat.mul_le_mul_left _ (sizeofPacked_le A)
  obtain ⟨_, _, h4, hsize⟩ := hh
  rw [Nat.mod_eq_of_lt (by omega)] at hsize
  refine ⟨fun i hi => ?_, fun i hi => ?_, Or.inr hs⟩
  · have hi' := hi.1
    unfold rowOffset sizeofPacked at *
    omega
  · have hrow : sizeofAttribute A * (i + 1) ≤ B.numAttrs * sizeofAttribute A := by
      rw [Nat.mul_comm]
      exact Nat.mul_le_mul_right _ hi.1
    have hend : slotEnd B i ≤ sizeofAttribute A * (i + 1) := by
      unfold slotEnd slot
      cases A <;> simp only [sizeofAttribute, Arch.sizeofPtr] <;> split_ifs <;> omega
    rw [blockSize, Nat.mod_eq_of_lt (show B.numAttrs * sizeofAttribute A < A.word by omega),
      Nat.mod_eq_of_lt hn]
    omega

/-- One row whose offset 2^32 - 4 and length 8 add up to 4 in a 32-bit word. -/
def wrappingBuffer : ClientBuffer .arm32 where
  buf := 4096
  blen := 16
  mem := copyIn (fun _ => 0) 4096
    (bytes32 1 ++ bytes32 0xC0000000 ++ bytes32 0xFFFFFFFC ++ bytes32 8)
  in_space := by decide

theorem unpack_accepts_wrapping_sum :
    ¬ Contract wrappingBuffer true (unpackAttrs wrappingBuffer true) := by
  intro h
  have hn : wrappingBuffer.numAttrs = 1 := by decide +kernel
  have hh : HeaderAccepts wrappingBuffer := by
    refine ⟨by decide, by decide, by decide, ?_⟩
    rw [hn]
    decide
  have hsum : SumWraps wrappingBuffer 0 := by
    refine ⟨?_, ?_, ?_, ?_⟩ <;> decide +kernel
  rcases (noHarmfulWrap_of_contract hh (by omega) h).sums with ⟨i, hi, hp⟩ | hs
  · obtain rfl : i = 0 := by omega
    exact hp ((sumWraps_iff _ 0).mp hsum).1
  · exact hs 0 (by omega) hsum

end AttrUnpackContract
