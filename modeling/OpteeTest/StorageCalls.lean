import OpteeTest.StorageBenchmark

/-! # What the calls of the object store do

Each call fails by its fault or has its effect. A call that fails changes nothing but the log. -/
namespace StorageCalls

open ByteMemory TeeApi StorageBenchmark

variable {E : Machine} {s s' : Store} {h n : ℕ} {content : List UInt8}

def Fails (E : Machine) (k : ℕ) : Prop := ∃ res, E.faults k = some (.fail res)

def Exact (E : Machine) : Prop := ∀ k, E.faults k = none

theorem Exact.not_fails (hE : Exact E) (k : ℕ) : ¬ Fails E k := by
  rintro ⟨res, hres⟩
  rw [hE k] at hres
  exact absurd hres.symm (Option.some_ne_none _)

theorem Fails.fault {k : ℕ} (hk : Fails E k) : E.faults k ≠ none := by
  obtain ⟨res, hres⟩ := hk
  rw [hres]
  exact Option.some_ne_none _

def exactMachine : Machine := ⟨fun _ => none, true, ⟨0, 0⟩, ⟨0, 0⟩⟩

def openedStore (content : List UInt8) : Store := ⟨some content, fun _ => 0, 1, 0, fun _ => 0, []⟩

def failed (s : Store) (res : TeeResult) : Store := s.called.record (.failed res)

theorem call_cases {α : Type} (E : Machine) (fail : TeeResult → α)
    (run : Option ℕ → Store → α × Store) (s : Store) :
    (∃ res, res ≠ teeSuccess ∧ Fails E s.calls ∧ call E fail run s = (fail res, failed s res)) ∨
    ∃ limit, ¬ Fails E s.calls ∧ (limit = none ∨ E.faults s.calls ≠ none) ∧
      call E fail run s = run limit s.called := by
  unfold call
  cases hfault : E.faults s.calls with
  | none =>
    refine Or.inr ⟨none, ?_, Or.inl rfl, rfl⟩
    rintro ⟨res, hres⟩
    rw [hfault] at hres
    exact absurd hres.symm (Option.some_ne_none _)
  | some fault =>
    cases fault with
    | fail res => exact Or.inl ⟨res.1, res.2, ⟨res, hfault⟩, rfl⟩
    | short n =>
      refine Or.inr ⟨some n, ?_, Or.inr (Option.some_ne_none _), rfl⟩
      rintro ⟨res, hres⟩
      rw [hfault] at hres
      cases Option.some.inj hres

structure Moved (h pos : ℕ) (entries : List Event) (s s' : Store) : Prop where
  pos : s'.pos h = pos
  handles : s'.handles = s.handles
  calls : s'.calls = s.calls + 1
  log : s'.log = s.log ++ entries

/-- The effect of `TEE_CreatePersistentObject` or `TEE_OpenPersistentObject`. -/
structure Opened (h : ℕ) (entries : List Event) (s s' : Store) : Prop where
  pos : s'.pos h = 0
  handle : h = s.handles
  handles : s'.handles = s.handles + 1
  calls : s'.calls = s.calls + 1
  buf : s'.buf = s.buf
  log : s'.log = s.log ++ entries ++ [.opened h]

theorem create_cases (E : Machine) (s : Store) :
    (∃ res, res ≠ teeSuccess ∧ Fails E s.calls ∧
      teeCreatePersistentObject E s = ((res, none), failed s res)) ∨
    ∃ h s', ¬ Fails E s.calls ∧ teeCreatePersistentObject E s = ((teeSuccess, some h), s') ∧
      s'.file = some [] ∧ Opened h [.created] s s' := by
  unfold teeCreatePersistentObject
  rcases call_cases E (fun res => (res, none)) _ s with ⟨res, hres, hfail, hcall⟩ |
    ⟨limit, hfail, -, hcall⟩
  · exact Or.inl ⟨res, hres, hfail, hcall⟩
  · exact Or.inr ⟨_, _, hfail, hcall, rfl, Function.update_self .., rfl, rfl, rfl, rfl, rfl⟩

theorem open_cases (E : Machine) (hfile : s.file = some content) :
    (∃ res, res ≠ teeSuccess ∧ Fails E s.calls ∧
      teeOpenPersistentObject E s = ((res, none), failed s res)) ∨
    ∃ h s', ¬ Fails E s.calls ∧ teeOpenPersistentObject E s = ((teeSuccess, some h), s') ∧
      s'.file = some content ∧ Opened h [] s s' := by
  unfold teeOpenPersistentObject
  rcases call_cases E (fun res => (res, none)) _ s with ⟨res, hres, hfail, hcall⟩ |
    ⟨limit, hfail, -, hcall⟩
  · exact Or.inl ⟨res, hres, hfail, hcall⟩
  · have hsome : s.called.file.isSome := by
      rw [Store.called, hfile]
      rfl
    rw [if_pos hsome] at hcall
    refine Or.inr ⟨_, _, hfail, hcall, hfile, Function.update_self .., rfl, rfl, rfl, rfl, ?_⟩
    rw [List.append_nil]
    rfl

theorem write_cases (E : Machine) (h n : ℕ) (hfile : s.file = some content) :
    (∃ res, res ≠ teeSuccess ∧ Fails E s.calls ∧
      teeWriteObjectData E h n s = (res, failed s res)) ∨
    ∃ s', ¬ Fails E s.calls ∧ teeWriteObjectData E h n s = (teeSuccess, s') ∧
      s'.file = some (writeAt content (s.pos h) (slice s.buf 0 n)) ∧ s'.buf = s.buf ∧
      Moved h (s.pos h + n) [.wrote (s.pos h) n] s s' := by
  unfold teeWriteObjectData
  rcases call_cases E id _ s with ⟨res, hres, hfail, hcall⟩ | ⟨limit, hfail, -, hcall⟩
  · exact Or.inl ⟨res, hres, hfail, hcall⟩
  · refine Or.inr ⟨_, hfail, hcall, ?_, rfl, Function.update_self .., rfl, rfl, rfl⟩
    simp only [Store.called, hfile, Option.map_some]

theorem read_cases (E : Machine) (h n : ℕ) (hfile : s.file = some content) :
    (∃ res, res ≠ teeSuccess ∧ Fails E s.calls ∧
      teeReadObjectData E h n s = ((res, 0), failed s res)) ∨
    ∃ limit data s', ¬ Fails E s.calls ∧ (limit = none ∨ E.faults s.calls ≠ none) ∧
      data = readAt content (s.pos h) n limit ∧
      teeReadObjectData E h n s = ((teeSuccess, data.length), s') ∧
      s'.file = some content ∧ s'.buf = copyIn s.buf 0 data ∧
      Moved h (s.pos h + data.length) [.read (s.pos h) n data.length] s s' := by
  unfold teeReadObjectData
  rcases call_cases E (fun res => (res, 0)) _ s with ⟨res, hres, hfail, hcall⟩ |
    ⟨limit, hfail, hlimit, hcall⟩
  · exact Or.inl ⟨res, hres, hfail, hcall⟩
  · have hdata : s.called.file.getD [] = content := by
      rw [Store.called, hfile]
      rfl
    rw [hdata] at hcall
    exact Or.inr ⟨limit, _, _, hfail, hlimit, rfl, hcall, hfile, rfl, Function.update_self .., rfl,
      rfl, rfl⟩

theorem seek_cases (E : Machine) (h : ℕ) (offset : ℤ) (whence : Whence) (s : Store) :
    (∃ res, res ≠ teeSuccess ∧ Fails E s.calls ∧
      teeSeekObjectData E h offset whence s = (res, failed s res)) ∨
    ∃ s', ¬ Fails E s.calls ∧ teeSeekObjectData E h offset whence s = (teeSuccess, s') ∧
      s'.file = s.file ∧ s'.buf = s.buf ∧
      Moved h (match whence with | .set => offset | .cur => s.pos h + offset).toNat [] s s' := by
  unfold teeSeekObjectData
  rcases call_cases E id _ s with ⟨res, hres, hfail, hcall⟩ | ⟨limit, hfail, -, hcall⟩
  · exact Or.inl ⟨res, hres, hfail, hcall⟩
  · refine Or.inr ⟨_, hfail, hcall, rfl, rfl, ?_, rfl, rfl, ?_⟩
    · cases whence <;> exact Function.update_self ..
    · exact (List.append_nil _).symm

theorem readAt_length_le (content : List UInt8) (pos n : ℕ) (limit : Option ℕ) :
    (readAt content pos n limit).length ≤ n := by
  rw [readAt, List.length_take]
  omega

theorem readAt_none {pos : ℕ} (hpos : pos + n ≤ content.length) :
    (readAt content pos n none).length = n := by
  rw [readAt, List.length_take, List.length_drop]
  simp only [Option.getD_none]
  omega

theorem readAt_whole {pos : ℕ} {limit : Option ℕ}
    (hlen : (readAt content pos n limit).length = n) :
    readAt content pos n limit = (content.drop pos).take n := by
  have hmin : n ≤ min n (limit.getD n) := by
    rw [readAt, List.length_take] at hlen
    omega
  rw [readAt, Nat.min_eq_left (by omega)]

theorem writeAt_same {pos : ℕ} (hpos : pos + n ≤ content.length) :
    writeAt content pos ((content.drop pos).take n) = content := by
  have hlen : ((content.drop pos).take n).length = n := by
    rw [List.length_take, List.length_drop]
    omega
  have hgap : pos - content.length = 0 := by omega
  rw [writeAt, hlen, hgap, List.replicate_zero, List.append_nil, List.append_assoc,
    ← List.drop_drop, List.take_append_drop, List.take_append_drop]

end StorageCalls
