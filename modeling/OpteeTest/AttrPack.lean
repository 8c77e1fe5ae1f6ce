import OpteeTest.AttrWireFormat

/-! # Packing attributes on the host

The size pass and the fill pass of `pack_attrs`. The fill pass logs its stores to the
table and its copies of payloads; offsets are relative to `*buf`. -/
namespace AttrPack

open ByteMemory TeeApi AttrWireFormat

def roundup4 (v : UInt32) : UInt32 := (v + (4 - 1)) &&& ~~~(4 - 1)

def sizeLoop (A : Arch) : List TeeAttribute → ℕ → ℕ
  | [], bl => bl
  | t :: ts, bl =>
    if isValueId t.attributeID then sizeLoop A ts bl
    else if t.content.refBuffer = 0 then sizeLoop A ts bl
    else sizeLoop A ts ((bl + (roundup4 t.content.refLength).toNat) % A.word)

/-- A copied payload: its offset in the block, its length and the offset stored in the row. -/
structure Payload where
  off : ℕ
  len : ℕ
  stored : UInt32
  deriving DecidableEq, Repr

def Payload.access (p : Payload) : Access := ⟨p.off, p.len⟩

structure FillState where
  mem : Memory UInt8
  table : List Access
  payloads : List Payload
  b : ℕ

def FillState.store (s : FillState) (off : ℕ) (v : UInt32) : FillState :=
  { s with mem := store32 s.mem off v, table := s.table ++ [⟨off, 4⟩] }

def fillRow (hostMem : Memory UInt8) (s : FillState) (n : ℕ) (t : TeeAttribute) : FillState :=
  let s := s.store (rowOffset n) t.attributeID
  if isValueId t.attributeID then
    (s.store (rowOffset n + 4) t.content.valueA).store (rowOffset n + 8) t.content.valueB
  else
    let s := s.store (rowOffset n + 8) t.content.refLength
    if t.content.refBuffer = 0 then s.store (rowOffset n + 4) 0
    else
      let length := t.content.refLength
      let stored := UInt32.ofNat s.b
      let s := { s with
        mem := copyIn s.mem s.b (slice hostMem t.content.refBuffer length.toNat)
        payloads := s.payloads ++ [Payload.mk s.b length.toNat stored] }
      let s := s.store (rowOffset n + 4) stored
      { s with b := s.b + (roundup4 length).toNat }

def fillLoop (hostMem : Memory UInt8) : List TeeAttribute → ℕ → FillState → FillState
  | [], _, s => s
  | t :: ts, n, s => fillLoop hostMem ts (n + 1) (fillRow hostMem s n t)

/-- What a call of `pack_attrs` leaves behind: the result, `*blen`, the bytes at `*buf`,
the logged stores and copies, and the final cursor relative to `*buf`. -/
structure PackRun where
  res : TeeResult
  blen : ℕ
  block : Memory UInt8
  table : List Access
  payloads : List Payload
  cursor : ℕ

def packAttrs (A : Arch) (hostMem : Memory UInt8) (attrs : AttrArray) (calloc : Bool) :
    PackRun :=
  let attrCount := attrs.attrs.length
  if attrCount = 0 then ⟨teeSuccess, 0, fun _ => 0, [], [], 0⟩
  else
    let bl := sizeLoop A attrs.attrs ((4 + sizeofPacked * attrCount) % A.word)
    if calloc then
      let s : FillState := ⟨fun _ => 0, [], [], 0⟩
      let s := s.store 0 (UInt32.ofNat attrCount)
      let s := { s with b := 4 + sizeofPacked * attrCount % A.word }
      let s := fillLoop hostMem attrs.attrs 0 s
      ⟨teeSuccess, bl, s.mem, s.table, s.payloads, s.b⟩
    else ⟨teeErrorOutOfMemory, 0, fun _ => 0, [], [], 0⟩

def rowStores (n : ℕ) (t : TeeAttribute) : List Access :=
  if isValueId t.attributeID then [⟨rowOffset n, 4⟩, ⟨rowOffset n + 4, 4⟩, ⟨rowOffset n + 8, 4⟩]
  else [⟨rowOffset n, 4⟩, ⟨rowOffset n + 8, 4⟩, ⟨rowOffset n + 4, 4⟩]

def rowPayload (c : ℕ) (t : TeeAttribute) : List Payload :=
  if t.HasPayload then [⟨c, t.content.refLength.toNat, UInt32.ofNat c⟩] else []

def advance (t : TeeAttribute) : ℕ :=
  if t.HasPayload then (roundup4 t.content.refLength).toNat else 0

theorem fillRow_table (hostMem : Memory UInt8) (s : FillState) (n : ℕ) (t : TeeAttribute) :
    (fillRow hostMem s n t).table = s.table ++ rowStores n t := by
  simp only [fillRow, rowStores, FillState.store]
  split_ifs <;> simp

theorem fillRow_payloads (hostMem : Memory UInt8) (s : FillState) (n : ℕ) (t : TeeAttribute) :
    (fillRow hostMem s n t).payloads = s.payloads ++ rowPayload s.b t := by
  rcases t.trichotomy with h | ⟨h, h0⟩ | h
  · simp [fillRow, rowPayload, FillState.store, h, t.not_hasPayload_of_value h]
  · simp [fillRow, rowPayload, FillState.store, h, h0, t.not_hasPayload_of_null h0]
  · simp [fillRow, rowPayload, FillState.store, h, h.1, h.2]

theorem fillRow_b (hostMem : Memory UInt8) (s : FillState) (n : ℕ) (t : TeeAttribute) :
    (fillRow hostMem s n t).b = s.b + advance t := by
  rcases t.trichotomy with h | ⟨h, h0⟩ | h
  · simp [fillRow, advance, FillState.store, h, t.not_hasPayload_of_value h]
  · simp [fillRow, advance, FillState.store, h, h0, t.not_hasPayload_of_null h0]
  · simp [fillRow, advance, FillState.store, h, h.1, h.2]

def layout : List TeeAttribute → ℕ → List Payload
  | [], _ => []
  | t :: ts, c => rowPayload c t ++ layout ts (c + advance t)

def advanceAll : List TeeAttribute → ℕ
  | [] => 0
  | t :: ts => advance t + advanceAll ts

def tableStores : List TeeAttribute → ℕ → List Access
  | [], _ => []
  | t :: ts, n => rowStores n t ++ tableStores ts (n + 1)

theorem fillLoop_logs (hostMem : Memory UInt8) (ts : List TeeAttribute) (n : ℕ)
    (s : FillState) :
    (fillLoop hostMem ts n s).table = s.table ++ tableStores ts n ∧
    (fillLoop hostMem ts n s).payloads = s.payloads ++ layout ts s.b ∧
    (fillLoop hostMem ts n s).b = s.b + advanceAll ts := by
  induction ts generalizing n s with
  | nil => simp [fillLoop, tableStores, layout, advanceAll]
  | cons t ts ih =>
    obtain ⟨htable, hpay, hb⟩ := ih (n + 1) (fillRow hostMem s n t)
    rw [fillRow_table] at htable
    rw [fillRow_payloads, fillRow_b] at hpay
    rw [fillRow_b] at hb
    refine ⟨?_, ?_, ?_⟩
    · simpa [fillLoop, tableStores, List.append_assoc] using htable
    · simpa [fillLoop, layout, List.append_assoc] using hpay
    · simpa [fillLoop, advanceAll, Nat.add_assoc] using hb

/-- The size pass adds the same padded lengths, modulo the word size. -/
theorem sizeLoop_eq (A : Arch) (ts : List TeeAttribute) (bl : ℕ) (h : bl < A.word) :
    sizeLoop A ts bl = (bl + advanceAll ts) % A.word := by
  induction ts generalizing bl with
  | nil => simp [sizeLoop, advanceAll, Nat.mod_eq_of_lt h]
  | cons t ts ih =>
    rcases t.trichotomy with ht | ⟨ht, h0⟩ | ht
    · simpa [sizeLoop, advanceAll, advance, ht, t.not_hasPayload_of_value ht] using ih bl h
    · simpa [sizeLoop, advanceAll, advance, ht, h0, t.not_hasPayload_of_null h0] using ih bl h
    · have hstep := ih ((bl + (roundup4 t.content.refLength).toNat) % A.word)
        (Nat.mod_lt _ (by omega))
      simpa [sizeLoop, advanceAll, advance, ht, ht.1, ht.2, Nat.add_assoc] using hstep

theorem rowStores_inside {n : ℕ} {t : TeeAttribute} {a : Access} (h : a ∈ rowStores n t) :
    rowOffset n ≤ a.off ∧ a.off + a.len ≤ rowOffset (n + 1) := by
  have hs := rowOffset_succ n
  unfold rowStores at h
  split_ifs at h <;> simp at h <;> rcases h with rfl | rfl | rfl <;> simp <;> omega

theorem tableStores_inside {ts : List TeeAttribute} {n : ℕ} {a : Access}
    (h : a ∈ tableStores ts n) :
    rowOffset n ≤ a.off ∧ a.off + a.len ≤ rowOffset (n + ts.length) := by
  induction ts generalizing n with
  | nil => simp [tableStores] at h
  | cons t ts ih =>
    rcases List.mem_append.mp h with h | h
    · have hr := rowStores_inside h
      have hl : rowOffset (n + 1) ≤ rowOffset (n + (t :: ts).length) := by
        unfold rowOffset sizeofPacked
        simp
      omega
    · have hr := ih h
      have hl : n + 1 + ts.length = n + (t :: ts).length := by simp [Nat.add_comm 1, Nat.add_assoc]
      rw [hl] at hr
      have hs := rowOffset_succ n
      omega

theorem tableStores_last {ts : List TeeAttribute} (hne : ts ≠ []) (n : ℕ) :
    ∃ a ∈ tableStores ts n, a.off + a.len = rowOffset (n + ts.length) := by
  induction ts generalizing n with
  | nil => exact (hne rfl).elim
  | cons t ts ih =>
    by_cases hts : ts = []
    · subst hts
      refine ⟨⟨rowOffset n + 8, 4⟩, ?_, by simp [rowOffset_succ]⟩
      simp only [tableStores, rowStores, List.append_nil]
      split_ifs <;> simp
    · obtain ⟨a, ha, hend⟩ := ih hts (n + 1)
      refine ⟨a, List.mem_append_right _ ha, ?_⟩
      rw [hend, List.length_cons, Nat.add_right_comm, Nat.add_assoc]

end AttrPack
