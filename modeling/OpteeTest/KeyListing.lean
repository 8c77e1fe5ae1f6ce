import OpteeTest.EnumListing
import OpteeTest.HandleLedger

/-! # The id buffer of the listing loop

`ta_key_cmd_list` prints the id of every object of a storage. The ids go to a buffer of
`TEE_OBJECT_ID_MAX_LEN` bytes, and each is terminated there before it is printed. -/
namespace KeyListing

open ByteMemory TeeApi TeeCalls HandleLedger
open StorageHandlers (objectTypes)
open EnumListing (ObjectId objectReply)
open EffectRuns

/-- How the TEE answers the calls of the command: the objects one by one, and then an error. -/
structure Enumeration where
  allocated : TeeResult
  objectEnumHandle : ℕ
  started : TeeResult
  objects : List ObjectId
  done : TeeResult
  done_fails : done ≠ teeSuccess

/-- `wrote` is a write to the buffer, `printed` shows it with the length of the id. -/
inductive Event where
  | answered (res : TeeResult)
  | wrote (a : Access)
  | printed (objectID : Memory UInt8) (objectIDLen : ℕ)

/-- The locals of the loop, and what the TEE keeps: the objects to come and the open
enumerators. -/
structure State where
  remaining : List ObjectId
  objectID : Memory UInt8
  objectIDLen : ℕ
  enumerators : Ledger Unit ℕ
  log : List Event

variable (E : Enumeration)

def getNext (s : State) : TeeResult × State :=
  let enumerators := s.enumerators.use E.objectEnumHandle
  match s.remaining with
  | [] => (E.done, { s with enumerators, log := s.log ++ [.answered E.done] })
  | id :: ids => (teeSuccess, { s with
      remaining := ids
      objectID := copyIn s.objectID 0 id.bytes
      objectIDLen := id.bytes.length
      enumerators
      log := s.log ++ [.answered teeSuccess, .wrote ⟨0, id.bytes.length⟩] })

def printId (s : State) : State :=
  let objectID := copyIn s.objectID s.objectIDLen [0]
  { s with
    objectID
    log := s.log ++ [.wrote ⟨s.objectIDLen, 1⟩, .printed objectID s.objectIDLen] }

def listObjects : ℕ → State → Option State
  | 0, _ => none
  | fuel + 1, s =>
    let (res, s) := getNext E s
    if res = teeSuccess then listObjects fuel (printId s) else some s

def taKeyCmdList (paramTypes : UInt32) (stack : Memory UInt8) (fuel : ℕ) :
    Option (TeeResult × State) :=
  let s : State := ⟨E.objects, stack, 0, Ledger.empty, []⟩
  if paramTypes ≠ objectTypes then some (teeErrorBadParameters, s)
  else if E.allocated ≠ teeSuccess then some (E.allocated, s)
  else
    let s := { s with enumerators := s.enumerators.acquire () E.objectEnumHandle }
    let s := { s with enumerators := s.enumerators.use E.objectEnumHandle }
    let free (s : State) : State :=
      { s with enumerators := s.enumerators.release E.objectEnumHandle }
    if E.started ≠ teeSuccess then some (E.started, free s)
    else (listObjects E fuel s).map fun s => (E.started, free s)

def answers (log : List Event) : List TeeResult :=
  log.filterMap fun e => match e with
    | .answered res => some res
    | _ => none

def printedIds (log : List Event) : List (List UInt8) :=
  log.filterMap fun e => match e with
    | .printed objectID objectIDLen => some (slice objectID 0 objectIDLen)
    | _ => none

def Started (paramTypes : UInt32) : Prop :=
  paramTypes = objectTypes ∧ E.allocated = teeSuccess ∧ E.started = teeSuccess

structure ListsSafely (paramTypes : UInt32) (s : State) : Prop where
  inside : ∀ a, Event.wrote a ∈ s.log → a.Within teeObjectIdMaxLen.toNat
  terminated : ∀ objectID objectIDLen, Event.printed objectID objectIDLen ∈ s.log →
    ∃ i < teeObjectIdMaxLen.toNat, objectID i = 0
  visits : Started E paramTypes → printedIds s.log = E.objects.map ObjectId.bytes
  ends : Started E paramTypes →
    answers s.log = List.replicate E.objects.length teeSuccess ++ [E.done]
  freed : s.enumerators = Ledger.empty

def afterRound (objectID : Memory UInt8) (id : ObjectId) : Memory UInt8 :=
  copyIn (copyIn objectID 0 id.bytes) id.bytes.length [0]

def roundLog (objectID : Memory UInt8) (id : ObjectId) : List Event :=
  [.answered teeSuccess, .wrote ⟨0, id.bytes.length⟩, .wrote ⟨id.bytes.length, 1⟩,
    .printed (afterRound objectID id) id.bytes.length]

def loopLog : Memory UInt8 → List ObjectId → List Event
  | _, [] => [.answered E.done]
  | objectID, id :: ids => roundLog objectID id ++ loopLog (afterRound objectID id) ids

variable {E} {s : State} {paramTypes : UInt32} {objectID : Memory UInt8} {ids : List ObjectId}

/-- The loop visits the objects and stops at the error behind them. -/
theorem listObjects_runs (hids : s.remaining = ids)
    (hopen : s.enumerators.owner E.objectEnumHandle = some ()) :
    ∃ s', (∀ fuel > ids.length, listObjects E fuel s = some s') ∧
      s'.enumerators = s.enumerators ∧ s'.log = s.log ++ loopLog E s.objectID ids := by
  induction ids generalizing s with
  | nil =>
    refine ⟨(getNext E s).2, fun fuel hfuel => ?_, ?_, ?_⟩
    · obtain ⟨fuel, rfl⟩ := Nat.exists_eq_add_of_le' hfuel
      simp only [listObjects, getNext, hids, if_neg E.done_fails]
    · simp only [getNext, hids, use_open hopen]
    · simp only [getNext, hids, loopLog]
  | cons id ids ih =>
    have hnext : (printId (getNext E s).2).remaining = ids := by simp only [printId, getNext, hids]
    have henum : (printId (getNext E s).2).enumerators = s.enumerators := by
      simp only [printId, getNext, hids, use_open hopen]
    obtain ⟨s', hrun, hkept, hlog⟩ := ih hnext (henum ▸ hopen)
    refine ⟨s', fun fuel hfuel => ?_, hkept.trans henum, ?_⟩
    · obtain ⟨fuel, rfl⟩ := Nat.exists_eq_add_of_le' hfuel
      rw [← hrun (fuel + ids.length + 1) (by omega)]
      simp only [listObjects, getNext, hids, if_true, List.length_cons]
      rfl
    · rw [hlog]
      simp [printId, getNext, hids, loopLog, roundLog, afterRound]

theorem afterRound_terminated (objectID : Memory UInt8) (id : ObjectId) :
    afterRound objectID id id.bytes.length = 0 := by
  have hlast : afterRound objectID id (id.bytes.length + 0) = [(0 : UInt8)][0] :=
    copyIn_inside _ Nat.one_pos
  exact hlast

theorem slice_afterRound (objectID : Memory UInt8) (id : ObjectId) :
    slice (afterRound objectID id) 0 id.bytes.length = id.bytes := by
  refine Eq.trans (slice_congr ?_) (slice_copyIn objectID 0 id.bytes)
  intro i hi
  exact copyIn_before _ _ (by simpa using hi)

theorem wrote_loopLog {a : Access} : Event.wrote a ∈ loopLog E objectID ids ↔
    ∃ id ∈ ids, a = ⟨0, id.bytes.length⟩ ∨ a = ⟨id.bytes.length, 1⟩ := by
  induction ids generalizing objectID with
  | nil => simp [loopLog]
  | cons id ids ih => simp [loopLog, roundLog, ih, or_assoc]

theorem printed_loopLog {m : Memory UInt8} {len : ℕ}
    (h : Event.printed m len ∈ loopLog E objectID ids) :
    ∃ id ∈ ids, len = id.bytes.length ∧ m len = 0 := by
  induction ids generalizing objectID with
  | nil => simp [loopLog] at h
  | cons id ids ih =>
    rcases List.mem_append.mp h with hround | hrest
    · simp only [roundLog, List.mem_cons, reduceCtorEq, Event.printed.injEq, List.not_mem_nil,
        or_false, false_or] at hround
      obtain ⟨rfl, rfl⟩ := hround
      exact ⟨id, List.mem_cons_self, rfl, afterRound_terminated _ _⟩
    · obtain ⟨id', hid', hlen⟩ := ih hrest
      exact ⟨id', List.mem_cons_of_mem _ hid', hlen⟩

theorem printedIds_loopLog : printedIds (loopLog E objectID ids) = ids.map ObjectId.bytes := by
  induction ids generalizing objectID with
  | nil => rfl
  | cons id ids ih =>
    have hround : printedIds (roundLog objectID id) = [id.bytes] := by
      simp [printedIds, roundLog, slice_afterRound]
    have happ : printedIds (roundLog objectID id ++ loopLog E (afterRound objectID id) ids) =
        printedIds (roundLog objectID id) ++ printedIds (loopLog E (afterRound objectID id) ids) :=
      List.filterMap_append ..
    rw [loopLog, happ, hround, ih]
    rfl

theorem answers_append (log log' : List Event) :
    answers (log ++ log') = answers log ++ answers log' := List.filterMap_append ..

theorem answers_loopLog :
    answers (loopLog E objectID ids) = List.replicate ids.length teeSuccess ++ [E.done] := by
  induction ids generalizing objectID with
  | nil => rfl
  | cons id ids ih =>
    rw [loopLog, answers_append, ih]
    rfl

structure Progress where
  remaining : List ObjectId
  enumerators : Ledger Unit ℕ
  answered : List TeeResult

def State.progress (s : State) : Progress := ⟨s.remaining, s.enumerators, answers s.log⟩

def Enumeration.api (E : Enumeration) : (c : ApiCall) → StateM Progress (ApiReply c)
  | .allocatePersistentObjectEnumerator => fun s =>
    ({ bareReply .allocatePersistentObjectEnumerator E.allocated with
        handle := E.objectEnumHandle },
      if E.allocated = teeSuccess then
        { s with enumerators := s.enumerators.acquire () E.objectEnumHandle }
      else s)
  | .startPersistentObjectEnumerator e sid => fun s =>
    (bareReply (.startPersistentObjectEnumerator e sid) E.started,
      { s with enumerators := s.enumerators.use e })
  | .getNextPersistentObject e wantsInfo n => fun s => match s.remaining with
    | [] => (bareReply _ E.done,
        ⟨[], s.enumerators.use e, s.answered ++ [E.done]⟩)
    | id :: ids => (objectReply e wantsInfo n id,
        ⟨ids, s.enumerators.use e, s.answered ++ [teeSuccess]⟩)
  | .freePersistentObjectEnumerator e => fun s =>
    (bareReply (.freePersistentObjectEnumerator e) teeSuccess,
      { s with enumerators := s.enumerators.release e })
  | c => fun s => (bareReply c teeErrorGeneric, s)

theorem progress_printId (s : State) : (printId s).progress = s.progress := by
  simp [printId, State.progress, answers]

theorem getNext_agrees (s : State) (n : UInt32) :
    ∃ r, (E.api (.getNextPersistentObject E.objectEnumHandle true n)).run s.progress =
      (r, (getNext E s).2.progress) ∧ r.res = (getNext E s).1 := by
  cases hids : s.remaining with
  | nil =>
    refine ⟨bareReply _ E.done, ?_, by simp only [getNext, hids]; rfl⟩
    simp only [getNext, hids, State.progress, answers_append]
    rfl
  | cons id ids =>
    refine ⟨objectReply E.objectEnumHandle true n id, ?_, by simp only [getNext, hids]; rfl⟩
    simp only [getNext, hids, State.progress, answers_append]
    rfl

section
variable {T : Arch} {H : TaEnv T (StateM Progress)} (hH : H.api = E.api)
include hH

theorem listObjects_agrees {fuel : ℕ} {s' : State} (h : listObjects E fuel s = some s')
    (n : UInt32) :
    (KeyHandlers.listObjects H E.objectEnumHandle n fuel).run s.progress =
      ((), s'.progress) := by
  induction fuel generalizing s n with
  | zero => cases h
  | succ fuel ih =>
    obtain ⟨r, hrun, hres⟩ := getNext_agrees (E := E) s n
    rw [KeyHandlers.listObjects, hH, run_bind_eq hrun, hres]
    rw [listObjects] at h
    generalize getNext E s = next at *
    obtain ⟨res, s₁⟩ := next
    dsimp only at h ⊢
    by_cases hok : res = teeSuccess
    · rw [if_pos hok] at h ⊢
      rw [← ih h r.size, progress_printId]
    · rw [if_neg hok] at h ⊢
      cases h
      rfl

/-- The handler of the TA is this command, without its buffer and its messages. -/
theorem taKeyCmdList_agrees {stack : Memory UInt8} {out : TeeResult × State}
    (h : taKeyCmdList E paramTypes stack H.fuel = some out) (params : TeeParams) :
    (KeyHandlers.taKeyCmdList H paramTypes params).run ⟨E.objects, Ledger.empty, []⟩ =
      ((out.1, params), out.2.progress) := by
  rw [taKeyCmdList] at h
  rw [KeyHandlers.taKeyCmdList]
  by_cases htypes : paramTypes = objectTypes
  case neg =>
    rw [if_pos htypes] at h ⊢
    cases h
    rfl
  rw [if_neg (not_not.mpr htypes)] at h ⊢
  obtain ⟨e, hrun, hres, hhandle⟩ : ∃ e, (E.api .allocatePersistentObjectEnumerator).run
      ⟨E.objects, Ledger.empty, []⟩ = (e, if E.allocated = teeSuccess then
        ⟨E.objects, Ledger.empty.acquire () E.objectEnumHandle, []⟩
      else ⟨E.objects, Ledger.empty, []⟩) ∧ e.res = E.allocated ∧
      e.handle = E.objectEnumHandle := ⟨_, rfl, rfl, rfl⟩
  rw [hH, run_bind_eq hrun, hres, hhandle]
  by_cases halloc : E.allocated = teeSuccess
  case neg =>
    rw [if_pos halloc] at h ⊢
    cases h
    rw [if_neg halloc]
    rfl
  rw [if_neg (not_not.mpr halloc)] at h ⊢
  rw [if_pos halloc]
  dsimp only at h
  obtain ⟨start, hrun, hres⟩ : ∃ r, (E.api (.startPersistentObjectEnumerator E.objectEnumHandle
      (params 0).value.a)).run ⟨E.objects, Ledger.empty.acquire () E.objectEnumHandle, []⟩ =
      (r, ⟨E.objects, (Ledger.empty.acquire () E.objectEnumHandle).use E.objectEnumHandle, []⟩) ∧
      r.res = E.started := ⟨_, rfl, rfl⟩
  rw [run_bind_eq hrun, hres]
  by_cases hstart : E.started = teeSuccess
  · rw [if_neg (not_not.mpr hstart)] at h
    obtain ⟨s, hlist, rfl⟩ := Option.map_eq_some_iff.mp h
    have hloop : (KeyHandlers.listObjects H E.objectEnumHandle H.stackWord H.fuel).run
        ⟨E.objects, (Ledger.empty.acquire () E.objectEnumHandle).use E.objectEnumHandle, []⟩ =
        ((), s.progress) := listObjects_agrees hH hlist H.stackWord
    rw [if_pos hstart, run_bind_eq hloop]
    rfl
  · rw [if_pos hstart] at h
    cases h
    rw [if_neg hstart]
    rfl
end

/-- A command that does not get to its loop has nothing to write. -/
theorem listsSafely_early (h : ¬ Started E paramTypes) (stack : Memory UInt8) :
    ∃ out, (∀ fuel, taKeyCmdList E paramTypes stack fuel = some out) ∧
      ListsSafely E paramTypes out.2 := by
  have hearly : ∀ s : State, s.log = [] → s.enumerators = Ledger.empty →
      ListsSafely E paramTypes s := by
    intro s hlog henum
    refine ⟨?_, ?_, fun hstarted => absurd hstarted h, fun hstarted => absurd hstarted h, henum⟩
    · intro a ha
      simp [hlog] at ha
    · intro m len hm
      simp [hlog] at hm
  unfold taKeyCmdList
  by_cases htypes : paramTypes = objectTypes
  case neg => exact ⟨_, fun _ => if_pos htypes, hearly _ rfl rfl⟩
  by_cases halloc : E.allocated = teeSuccess
  case neg =>
    simp only [if_neg (not_not.mpr htypes), if_pos halloc]
    exact ⟨_, fun _ => rfl, hearly _ rfl rfl⟩
  have hstart : E.started ≠ teeSuccess := fun hstart => h ⟨htypes, halloc, hstart⟩
  simp only [if_neg (not_not.mpr htypes), if_neg (not_not.mpr halloc), if_pos hstart]
  refine ⟨_, fun _ => rfl, hearly _ rfl ?_⟩
  exact (congrArg (Ledger.release · _) acquire_use).trans (release_acquire rfl)

/-- A command that does, keeps to the buffer when no id fills it. -/
theorem listsSafely_started (h : Started E paramTypes) (stack : Memory UInt8) :
    ∃ out, (∀ fuel > E.objects.length, taKeyCmdList E paramTypes stack fuel = some out) ∧
      (ListsSafely E paramTypes out.2 ↔
        ∀ id ∈ E.objects, id.bytes.length < teeObjectIdMaxLen.toNat) := by
  obtain ⟨htypes, halloc, hstart⟩ := h
  let s : State := ⟨E.objects, stack, 0, Ledger.empty.acquire () E.objectEnumHandle, []⟩
  have hopen : s.enumerators.owner E.objectEnumHandle = some () := Function.update_self ..
  obtain ⟨s', hrun, henum, hlog⟩ := listObjects_runs (E := E) (s := s) rfl hopen
  have hlog' : s'.log = loopLog E stack E.objects := hlog
  refine ⟨(E.started, { s' with enumerators := s'.enumerators.release E.objectEnumHandle }),
    fun fuel hfuel => ?_, ?_, ?_⟩
  · unfold taKeyCmdList
    rw [if_neg (not_not.mpr htypes), if_neg (not_not.mpr halloc)]
    dsimp only
    rw [if_neg (not_not.mpr hstart), acquire_use, hrun fuel hfuel]
    rfl
  · intro hsafe id hid
    have hwrote : Event.wrote ⟨id.bytes.length, 1⟩ ∈ s'.log := by
      rw [hlog', wrote_loopLog]
      exact ⟨id, hid, .inr rfl⟩
    exact hsafe.inside _ hwrote
  · intro hshort
    constructor
    case inside =>
      intro a ha
      obtain ⟨id, hid, rfl | rfl⟩ := wrote_loopLog.mp (hlog' ▸ ha)
      · exact (Nat.zero_add _).le.trans id.short
      · exact hshort id hid
    case terminated =>
      intro m len hm
      obtain ⟨id, hid, rfl, hzero⟩ := printed_loopLog (hlog' ▸ hm)
      exact ⟨_, hshort id hid, hzero⟩
    case visits =>
      intro _
      exact (congrArg printedIds hlog').trans printedIds_loopLog
    case ends =>
      intro _
      exact (congrArg answers hlog').trans answers_loopLog
    case freed =>
      show s'.enumerators.release _ = _
      rw [henum]
      exact release_acquire rfl

/-- The loop ends behind the last object; it keeps to the buffer exactly when no id of the storage
fills it. -/
theorem key_list_inside_iff (E : Enumeration) (paramTypes : UInt32) (stack : Memory UInt8) :
    ∃ out, (∀ fuel > E.objects.length, taKeyCmdList E paramTypes stack fuel = some out) ∧
      (ListsSafely E paramTypes out.2 ↔
        paramTypes ≠ objectTypes ∨ E.allocated ≠ teeSuccess ∨ E.started ≠ teeSuccess ∨
          ∀ id ∈ E.objects, id.bytes.length < teeObjectIdMaxLen.toNat) := by
  by_cases hstarted : Started E paramTypes
  · obtain ⟨out, hrun, hiff⟩ := listsSafely_started hstarted stack
    obtain ⟨htypes, halloc, hstart⟩ := hstarted
    refine ⟨out, hrun, ?_⟩
    rw [hiff]
    simp [htypes, halloc, hstart]
  · obtain ⟨out, hrun, hsafe⟩ := listsSafely_early hstarted stack
    refine ⟨out, fun fuel _ => hrun fuel, iff_of_true hsafe ?_⟩
    by_contra hcond
    push Not at hcond
    exact hstarted ⟨hcond.1, hcond.2.1, hcond.2.2.1⟩

def longestId : Enumeration where
  allocated := teeSuccess
  objectEnumHandle := 1
  started := teeSuccess
  objects := [⟨List.replicate 64 1, by decide, by decide⟩]
  done := teeErrorItemNotFound
  done_fails := by decide

/-- The terminator of such an id goes to the byte behind the buffer. -/
theorem not_listsSafely_longest_id :
    ∃ out, taKeyCmdList longestId objectTypes (fun _ => 0) 2 = some out ∧
      ¬ ListsSafely longestId objectTypes out.2 := by
  obtain ⟨out, hrun, hiff⟩ := listsSafely_started (E := longestId) ⟨rfl, rfl, rfl⟩ fun _ => 0
  refine ⟨out, hrun 2 (by decide), fun hsafe => ?_⟩
  have hlen := hiff.mp hsafe _ List.mem_cons_self
  exact absurd hlen (by decide)

end KeyListing
