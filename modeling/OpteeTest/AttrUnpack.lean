import OpteeTest.AttrWireFormat

/-! # Unpacking attributes in the TA

`unpack_attrs` parses a client buffer. Every access to the buffer and to the allocated
array is logged; memory beyond the buffer is arbitrary, so a run that leaves the buffer
still has a result. -/
namespace AttrUnpack

open ByteMemory TeeApi AttrWireFormat

/-- A client memref as the TA sees it: an object of the TA's address space. -/
structure ClientBuffer (A : Arch) where
  buf : ℕ
  blen : UInt32
  mem : Memory UInt8
  in_space : buf + blen.toNat < A.word

variable {A : Arch}

def ClientBuffer.numAttrs (B : ClientBuffer A) : ℕ := (load32 B.mem B.buf).toNat

def ClientBuffer.id (B : ClientBuffer A) (n : ℕ) : UInt32 := load32 B.mem (B.buf + rowOffset n)

def ClientBuffer.a (B : ClientBuffer A) (n : ℕ) : UInt32 :=
  load32 B.mem (B.buf + (rowOffset n + 4))

def ClientBuffer.b (B : ClientBuffer A) (n : ℕ) : UInt32 :=
  load32 B.mem (B.buf + (rowOffset n + 8))

structure LoopState where
  attrs : List TeeAttribute
  reads : List Access
  writes : List Access

def LoopState.read (s : LoopState) (off : ℕ) : LoopState :=
  { s with reads := s.reads ++ [⟨off, 4⟩] }

def LoopState.write (s : LoopState) (off len : ℕ) : LoopState :=
  { s with writes := s.writes ++ [⟨off, len⟩] }

def LoopState.push (s : LoopState) (t : TeeAttribute) : LoopState :=
  { s with attrs := s.attrs ++ [t] }

/-- Offset of `a[n]` in the allocated array. Its fields: the id at 0, the buffer pointer and
`value.a` at one pointer size, the length at two, `value.b` right after `value.a`. -/
def slot (A : Arch) (n : ℕ) : ℕ := sizeofAttribute A * n

def unpackLoop (B : ClientBuffer A) : ℕ → ℕ → LoopState → TeeResult × LoopState
  | 0, _, s => (teeSuccess, s)
  | k + 1, n, s =>
    let s := (s.read (rowOffset n)).write (slot A n) 4
    if h : isValueId (B.id n) = true then
      let s := (s.read (rowOffset n + 4)).write (slot A n + A.sizeofPtr) 4
      let s := (s.read (rowOffset n + 8)).write (slot A n + A.sizeofPtr + 4) 4
      unpackLoop B k (n + 1) (s.push ⟨B.id n, .value (B.a n) (B.b n), h.symm⟩)
    else
      let s := (s.read (rowOffset n + 8)).write (slot A n + 2 * A.sizeofPtr) 4
      let s := s.read (rowOffset n + 4)
      let p := (B.a n).toNat
      if p ≠ 0 ∧ (p + (B.b n).toNat) % A.word > B.blen.toNat then (teeErrorBadParameters, s)
      else
        let p := if p ≠ 0 then (p + B.buf) % A.word else p
        let s := s.write (slot A n + A.sizeofPtr) A.sizeofPtr
        unpackLoop B k (n + 1)
          (s.push ⟨B.id n, .ref p (B.b n), (Bool.eq_false_iff.mpr h).symm⟩)

/-- What a call of `unpack_attrs` leaves behind; `block` is the size of the block that
`TEE_Malloc` granted, and a failed call frees it. -/
structure UnpackRun where
  res : TeeResult
  attrs : List TeeAttribute
  attrCount : ℕ
  block : ℕ
  reads : List Access
  writes : List Access

/-- The argument of `TEE_Malloc`: a `size_t` product passed as a `uint32_t`. -/
def blockSize (A : Arch) (numAttrs : ℕ) : ℕ := numAttrs * sizeofAttribute A % A.word % 2 ^ 32

def unpackAttrs (B : ClientBuffer A) (malloc : Bool) : UnpackRun :=
  if B.blen.toNat = 0 then ⟨teeSuccess, [], 0, 0, [], []⟩
  else if B.buf % 4 ≠ 0 ∨ B.blen.toNat < 4 then ⟨teeErrorBadParameters, [], 0, 0, [], []⟩
  else if B.blen.toNat - 4 < B.numAttrs * sizeofPacked % A.word then
    ⟨teeErrorBadParameters, [], 0, 0, [⟨0, 4⟩], []⟩
  else if B.numAttrs > 0 then
    if malloc then
      let (res, s) := unpackLoop B B.numAttrs 0 ⟨[], [⟨0, 4⟩], []⟩
      if res = teeSuccess then
        ⟨res, s.attrs, B.numAttrs, blockSize A B.numAttrs, s.reads, s.writes⟩
      else ⟨res, [], 0, blockSize A B.numAttrs, s.reads, s.writes⟩
    else ⟨teeErrorOutOfMemory, [], 0, 0, [⟨0, 4⟩], []⟩
  else ⟨teeSuccess, [], 0, 0, [⟨0, 4⟩], []⟩

def Allocates (B : ClientBuffer A) : Prop :=
  B.blen.toNat ≠ 0 ∧ ¬ (B.buf % 4 ≠ 0 ∨ B.blen.toNat < 4) ∧
    ¬ B.blen.toNat - 4 < B.numAttrs * sizeofPacked % A.word ∧ B.numAttrs > 0

instance (B : ClientBuffer A) : Decidable (Allocates B) := inferInstanceAs (Decidable (_ ∧ _))

theorem unpackAttrs_unallocated {B : ClientBuffer A} (h : ¬ Allocates B) (malloc : Bool) :
    unpackAttrs B malloc = unpackAttrs B false := by
  unfold unpackAttrs
  split_ifs with hempty hhead hrows hnum hgranted
  any_goals rfl
  all_goals exact absurd ⟨hempty, hhead, hrows, hnum⟩ h

def Passes (B : ClientBuffer A) (n : ℕ) : Prop :=
  isValueId (B.id n) = false → (B.a n).toNat ≠ 0 →
    ((B.a n).toNat + (B.b n).toNat) % A.word ≤ B.blen.toNat

instance (B : ClientBuffer A) (n : ℕ) : Decidable (Passes B n) :=
  inferInstanceAs (Decidable (_ → _ → _))

def decodeRow (B : ClientBuffer A) (n : ℕ) : TeeAttribute :=
  if h : isValueId (B.id n) = true then ⟨B.id n, .value (B.a n) (B.b n), h.symm⟩
  else ⟨B.id n, .ref (if (B.a n).toNat ≠ 0 then ((B.a n).toNat + B.buf) % A.word else 0) (B.b n),
    (Bool.eq_false_iff.mpr h).symm⟩

theorem decodeRow_id (B : ClientBuffer A) (n : ℕ) : (decodeRow B n).attributeID = B.id n := by
  unfold decodeRow
  split <;> rfl

theorem decodeRow_content (B : ClientBuffer A) (n : ℕ) : (decodeRow B n).content =
    if isValueId (B.id n) = true then .value (B.a n) (B.b n)
    else .ref (if (B.a n).toNat ≠ 0 then ((B.a n).toNat + B.buf) % A.word else 0) (B.b n) := by
  unfold decodeRow
  split <;> rfl

def rowReads (B : ClientBuffer A) (n : ℕ) : List Access :=
  if isValueId (B.id n) then [⟨rowOffset n, 4⟩, ⟨rowOffset n + 4, 4⟩, ⟨rowOffset n + 8, 4⟩]
  else [⟨rowOffset n, 4⟩, ⟨rowOffset n + 8, 4⟩, ⟨rowOffset n + 4, 4⟩]

def rowWrites (B : ClientBuffer A) (n : ℕ) : List Access :=
  if isValueId (B.id n) then
    [⟨slot A n, 4⟩, ⟨slot A n + A.sizeofPtr, 4⟩, ⟨slot A n + A.sizeofPtr + 4, 4⟩]
  else [⟨slot A n, 4⟩, ⟨slot A n + 2 * A.sizeofPtr, 4⟩] ++
    if Passes B n then [⟨slot A n + A.sizeofPtr, A.sizeofPtr⟩] else []

/-- The state after row `n`, whether the row passes or not. -/
def rowState (B : ClientBuffer A) (n : ℕ) (s : LoopState) : LoopState :=
  ⟨if Passes B n then s.attrs ++ [decodeRow B n] else s.attrs, s.reads ++ rowReads B n,
    s.writes ++ rowWrites B n⟩

theorem unpackLoop_step (B : ClientBuffer A) (k n : ℕ) (s : LoopState) :
    unpackLoop B (k + 1) n s =
      if Passes B n then unpackLoop B k (n + 1) (rowState B n s)
      else (teeErrorBadParameters, rowState B n s) := by
  by_cases hid : isValueId (B.id n) = true
  · have hp : Passes B n := fun h => by simp [hid] at h
    simp [unpackLoop, rowState, rowReads, rowWrites, decodeRow, hid, hp, LoopState.read,
      LoopState.write, LoopState.push]
  · have hid' : isValueId (B.id n) = false := by simpa using hid
    by_cases ha : (B.a n).toNat = 0
    · have hp : Passes B n := fun _ h => (h ha).elim
      simp [unpackLoop, rowState, rowReads, rowWrites, decodeRow, hid', ha, hp, LoopState.read,
        LoopState.write, LoopState.push]
    · by_cases hs : ((B.a n).toNat + (B.b n).toNat) % A.word ≤ B.blen.toNat
      · have hp : Passes B n := fun _ _ => hs
        simp [unpackLoop, rowState, rowReads, rowWrites, decodeRow, hid', ha, hp, hs,
          LoopState.read, LoopState.write, LoopState.push]
      · have hp : ¬ Passes B n := fun h => hs (h hid' ha)
        simp [unpackLoop, rowState, rowReads, rowWrites, hid', ha, hp, hs, LoopState.read,
          LoopState.write]

def Met (B : ClientBuffer A) (n k i : ℕ) : Prop :=
  n ≤ i ∧ i < n + k ∧ ∀ j, n ≤ j → j < i → Passes B j

theorem not_met_zero (B : ClientBuffer A) (n i : ℕ) : ¬ Met B n 0 i := by
  rintro ⟨h, h', _⟩
  omega

theorem met_succ (B : ClientBuffer A) (n k i : ℕ) :
    Met B n (k + 1) i ↔ i = n ∨ Passes B n ∧ Met B (n + 1) k i := by
  constructor
  · rintro ⟨hni, hik, hp⟩
    rcases Nat.eq_or_lt_of_le hni with rfl | hlt
    · exact Or.inl rfl
    · exact Or.inr ⟨hp n le_rfl hlt, hlt, by omega, fun j hj => hp j (by omega)⟩
  · rintro (rfl | ⟨hn, hni, hik, hp⟩)
    · exact ⟨le_rfl, by omega, fun j hj hj' => by omega⟩
    · refine ⟨by omega, by omega, fun j hj hj' => ?_⟩
      rcases Nat.eq_or_lt_of_le hj with rfl | hlt
      · exact hn
      · exact hp j hlt hj'

theorem loop_reads (B : ClientBuffer A) (k n : ℕ) (s : LoopState) (a : Access) :
    a ∈ (unpackLoop B k n s).2.reads ↔
      a ∈ s.reads ∨ ∃ i, Met B n k i ∧ a ∈ rowReads B i := by
  induction k generalizing n s with
  | zero => simp [unpackLoop, not_met_zero]
  | succ k ih =>
    rw [unpackLoop_step]
    split_ifs with hp
    · simp [ih, rowState, met_succ, hp, or_assoc]
    · simp [rowState, met_succ, hp]

theorem loop_writes (B : ClientBuffer A) (k n : ℕ) (s : LoopState) (a : Access) :
    a ∈ (unpackLoop B k n s).2.writes ↔
      a ∈ s.writes ∨ ∃ i, Met B n k i ∧ a ∈ rowWrites B i := by
  induction k generalizing n s with
  | zero => simp [unpackLoop, not_met_zero]
  | succ k ih =>
    rw [unpackLoop_step]
    split_ifs with hp
    · simp [ih, rowState, met_succ, hp, or_assoc]
    · simp [rowState, met_succ, hp]

theorem loop_success {B : ClientBuffer A} {k n : ℕ} (s : LoopState)
    (h : ∀ i, n ≤ i → i < n + k → Passes B i) :
    (unpackLoop B k n s).1 = teeSuccess ∧
    (unpackLoop B k n s).2.attrs = s.attrs ++ (List.range' n k).map (decodeRow B) := by
  induction k generalizing n s with
  | zero => simp [unpackLoop]
  | succ k ih =>
    have hn : Passes B n := h n le_rfl (by omega)
    obtain ⟨hres, hattrs⟩ := ih (n := n + 1) (rowState B n s) fun i hi hi' =>
      h i (by omega) (by omega)
    rw [unpackLoop_step, if_pos hn]
    refine ⟨hres, ?_⟩
    rw [hattrs]
    simp [rowState, hn, List.range'_succ]

theorem loop_rejects {B : ClientBuffer A} {k n i : ℕ} (s : LoopState)
    (hi : n ≤ i) (hik : i < n + k) (h : ¬ Passes B i) :
    (unpackLoop B k n s).1 = teeErrorBadParameters := by
  induction k generalizing n s with
  | zero => omega
  | succ k ih =>
    rw [unpackLoop_step]
    split_ifs with hp
    · have hne : n ≠ i := by
        rintro rfl
        exact h hp
      exact ih _ (by omega) (by omega)
    · rfl

theorem loop_success_iff (B : ClientBuffer A) (k : ℕ) (s : LoopState) :
    (unpackLoop B k 0 s).1 = teeSuccess ↔ ∀ i < k, Passes B i := by
  constructor
  · intro h i hi
    by_contra hp
    rw [loop_rejects s (Nat.zero_le i) (by omega) hp] at h
    exact absurd h (by decide)
  · intro h
    exact (loop_success s fun i _ hi => h i (by omega)).1

end AttrUnpack
