import OpteeTest.TeeCalls
import OpteeTest.HandleLedger

/-! # The record that a TEE keeps of one TA

A command runs against a TEE that may refuse any call that can fail. The TEE records which handles
are open, how many blocks of the heap are in use and which persistent objects exist. -/
namespace TeeRecord

open ByteMemory TeeApi AttrWireFormat TeeCalls HandleLedger

/-- What a handler calls: the API, the allocator, and the writes to a block. -/
structure Calls (m : Type → Type) where
  api : (c : ApiCall) → m (ApiReply c)
  malloc : ℕ → m Bool
  free : m Unit
  wrote : Access → m Unit

/-- The calls of an environment that sees no release of a block and no write. -/
def ofEnv {T : Arch} {m : Type → Type} [Monad m] (E : TaEnv T m) : Calls m where
  api := E.api
  malloc := E.malloc
  free := pure ()
  wrote := fun _ => pure ()

abbrev ObjectName := UInt32 × List UInt8

inductive Resource where
  | object (handle : ℕ)
  | operation (handle : ℕ)
  deriving DecidableEq

/-- The owner of an object handle is the persistent object behind it; `objects` has the flags of
each. -/
structure Record where
  handles : Ledger (Option ObjectName) Resource
  blocks : ℤ
  objects : ObjectName → Option UInt32

inductive Event where
  | answered (c : ApiCall) (r : ApiReply c)
  | allocated (size : ℕ) (granted : Bool)
  | freed
  | wrote (a : Access)

/-- `TEE_HANDLE_NULL` is the handle of nothing; a TEE that is given it stops the TA. -/
def given (k : ℕ → Resource) (handle : ℕ) : List Resource := if handle = 0 then [] else [k handle]

def used : ApiCall → List Resource
  | .generateKey o _ _ | .populateTransientObject o _ | .getObjectInfo o | .getObjectInfo1 o
  | .createPersistentObject _ _ _ o _ => given .object o
  | .cipherInit o _ | .cipherUpdate o _ _ | .aeInit o _ _ _ _ | .aeUpdate o _ _
  | .digestDoFinal o _ _ => given .operation o
  | .setOperationKey o k => given .operation o ++ given .object k
  | .setOperationKey2 o k k2 => given .operation o ++ given .object k ++ given .object k2
  | _ => []

/-- The handle that a successful call opens, and the persistent object behind it. -/
def opened (handle : ℕ) : ApiCall → Option (Resource × Option ObjectName)
  | .allocateOperation _ _ _ => some (.operation handle, none)
  | .allocateTransientObject _ _ => some (.object handle, none)
  | .openPersistentObject sid id _ | .createPersistentObject sid id _ _ _ =>
    some (.object handle, some (sid, id))
  | _ => none

/-- The handle that a call closes; closing never fails. -/
def closed : ApiCall → Option Resource
  | .freeOperation o => some (.operation o)
  | .freeTransientObject o | .closeObject o | .closeAndDeletePersistentObject1 o => some (.object o)
  | _ => none

def Record.stored (R : Record) : ApiCall → ObjectName → Option UInt32
  | .createPersistentObject sid id flags _ _ => Function.update R.objects (sid, id) (some flags)
  | .closeAndDeletePersistentObject1 o => match R.handles.owner (.object o) with
    | some (some name) => Function.update R.objects name none
    | _ => R.objects
  | _ => R.objects

/-- What a call does to the handles: it uses some, and opens or closes one. -/
def handlesAfter (l : Ledger (Option ObjectName) Resource) (c : ApiCall) (r : ApiReply c) :
    Ledger (Option ObjectName) Resource :=
  let l := (used c).foldl Ledger.use l
  let l := match closed c with
    | some k => l.release k
    | none => l
  if r.res = teeSuccess then match opened r.handle c with
    | some (k, o) => l.acquire o k
    | none => l
  else l

def Record.after (R : Record) : Event → Record
  | .answered c r => { R with
      handles := handlesAfter R.handles c r
      objects := if r.res = teeSuccess then R.stored c else R.objects }
  | .allocated _ granted => if granted then { R with blocks := R.blocks + 1 } else R
  | .freed => { R with blocks := R.blocks - 1 }
  | .wrote _ => R

structure World where
  record : Record
  log : List Event

def World.push (w : World) (e : Event) : World := ⟨w.record.after e, w.log ++ [e]⟩

def teeDataFlagOverwrite : UInt32 := 0x00000400

/-- A TEE answers as it likes, but it opens handles that are new and not null, creates over an
object only when it is told to, and never fails to delete. -/
structure Tee where
  answer : World → (c : ApiCall) → ApiReply c
  grant : World → ℕ → Bool
  fresh : ∀ w c k o, (answer w c).res = teeSuccess →
    opened (answer w c).handle c = some (k, o) → w.record.handles.owner k = none
  nonnull : ∀ w c, (answer w c).res = teeSuccess → opened (answer w c).handle c ≠ none →
    (answer w c).handle ≠ 0
  creates_new : ∀ w sid id flags o data, flags &&& teeDataFlagOverwrite = 0 →
    (answer w (.createPersistentObject sid id flags o data)).res = teeSuccess →
      w.record.objects (sid, id) = none
  deletes : ∀ w o, (answer w (.closeAndDeletePersistentObject1 o)).res = teeSuccess

variable (E : Tee)

def Tee.calls : Calls (StateM World) where
  api c := fun w => (E.answer w c, w.push (.answered c (E.answer w c)))
  malloc size := fun w => (E.grant w size, w.push (.allocated size (E.grant w size)))
  free := fun w => ((), w.push .freed)
  wrote a := fun w => ((), w.push (.wrote a))

variable {E} {α β : Type} {w : World}

def Ends (x : StateM World α) (w : World) (Q : α → World → Prop) : Prop :=
  Q (x.run w).1 (x.run w).2

def Tee.called (E : Tee) (w : World) (c : ApiCall) : World := w.push (.answered c (E.answer w c))

theorem ends_pure {a : α} {Q : α → World → Prop} (h : Q a w) : Ends (pure a) w Q := h

theorem ends_bind {x : StateM World α} {f : α → StateM World β} {Q : β → World → Prop}
    (h : Ends x w fun a w' => Ends (f a) w' Q) : Ends (x >>= f) w Q := h

theorem ends_api {c : ApiCall} {f : ApiReply c → StateM World β} {Q : β → World → Prop}
    (h : Ends (f (E.answer w c)) (E.called w c) Q) : Ends (E.calls.api c >>= f) w Q := h

theorem ends_malloc {size : ℕ} {f : Bool → StateM World β} {Q : β → World → Prop}
    (h : Ends (f (E.grant w size)) (w.push (.allocated size (E.grant w size))) Q) :
    Ends (E.calls.malloc size >>= f) w Q := h

theorem ends_free {f : Unit → StateM World β} {Q : β → World → Prop}
    (h : Ends (f ()) (w.push .freed) Q) : Ends (E.calls.free >>= f) w Q := h

theorem ends_wrote {a : Access} {f : Unit → StateM World β} {Q : β → World → Prop}
    (h : Ends (f ()) (w.push (.wrote a)) Q) : Ends (E.calls.wrote a >>= f) w Q := h

theorem ends_mono {x : StateM World α} {Q Q' : α → World → Prop} (h : Ends x w Q)
    (hQ : ∀ a w', Q a w' → Q' a w') : Ends x w Q' := hQ _ _ h

variable {c : ApiCall} {l : Ledger (Option ObjectName) Resource} {k : Resource}
  {o : Option ObjectName} {R : Record}

@[simp] theorem push_record (w : World) (e : Event) : (w.push e).record = w.record.after e := rfl

theorem foldl_use (h : ∀ k ∈ used c, (l.owner k).isSome) : (used c).foldl Ledger.use l = l := by
  generalize used c = ks at h
  induction ks with
  | nil => rfl
  | cons k ks ih =>
    obtain ⟨o, hopen⟩ := Option.isSome_iff_exists.mp (h k List.mem_cons_self)
    rw [List.foldl_cons, use_open hopen]
    exact ih fun k' hk' => h k' (List.mem_cons_of_mem _ hk')

theorem stored_plain (hclosed : closed c = none) (hopened : ∀ n, opened n c = none) (R : Record) :
    R.stored c = R.objects := by
  cases c with
  | createPersistentObject => exact absurd (hopened 0) (Option.some_ne_none _)
  | closeAndDeletePersistentObject1 => cases hclosed
  | _ => rfl

@[simp] theorem mem_given {f : ℕ → Resource} {handle : ℕ} :
    k ∈ given f handle ↔ handle ≠ 0 ∧ k = f handle := by
  unfold given
  split <;> simp_all

theorem called_plain (hlive : ∀ k ∈ used c, (w.record.handles.owner k).isSome)
    (hclosed : closed c = none) (hopened : ∀ n, opened n c = none) :
    (E.called w c).record = w.record := by
  simp [Tee.called, Record.after, handlesAfter, foldl_use hlive, hclosed, hopened,
    stored_plain hclosed hopened]

theorem called_failed (hlive : ∀ k ∈ used c, (w.record.handles.owner k).isSome)
    (hclosed : closed c = none) (hres : (E.answer w c).res ≠ teeSuccess) :
    (E.called w c).record = w.record := by
  simp [Tee.called, Record.after, handlesAfter, foldl_use hlive, hclosed, hres]

theorem called_opened (hlive : ∀ k ∈ used c, (w.record.handles.owner k).isSome)
    (hclosed : closed c = none) (hres : (E.answer w c).res = teeSuccess)
    (hopened : opened (E.answer w c).handle c = some (k, o)) :
    (E.called w c).record = { w.record with
      handles := w.record.handles.acquire o k
      objects := w.record.stored c } := by
  simp [Tee.called, Record.after, handlesAfter, foldl_use hlive, hclosed, hres, hopened]

theorem called_closed (hused : used c = []) (hclosed : closed c = some k)
    (hopened : ∀ n, opened n c = none) : (E.called w c).record = { w.record with
      handles := w.record.handles.release k
      objects := if (E.answer w c).res = teeSuccess then w.record.stored c
        else w.record.objects } := by
  simp [Tee.called, Record.after, handlesAfter, hused, hclosed, hopened]

/-- The handle that the call would open is not open, nor would it create over an object. -/
def possible (w : World) (c : ApiCall) : Bool :=
  (match opened (w.log.length + 1) c with
    | some (k, _) => (w.record.handles.owner k).isNone
    | none => true) &&
  match c with
    | .createPersistentObject sid id _ _ _ => (w.record.objects (sid, id)).isNone
    | _ => true

/-- A TEE with the results it is given, as far as they are possible; a handle is the number of the
call that opened it. -/
def answering (res : ApiCall → TeeResult)
    (hdeletes : ∀ o, res (.closeAndDeletePersistentObject1 o) = teeSuccess) : Tee where
  answer w c := { bareReply c (if possible w c then res c else teeErrorGeneric) with
    handle := w.log.length + 1 }
  grant _ _ := true
  fresh := by
    intro w c k o hres hopened
    by_cases hpossible : possible w c
    · have hboth := Bool.and_eq_true_iff.mp hpossible
      dsimp only at hopened
      rw [hopened] at hboth
      exact Option.isNone_iff_eq_none.mp hboth.1
    · dsimp only [bareReply] at hres
      rw [if_neg hpossible] at hres
      exact absurd hres (by decide)
  nonnull _ _ _ _ := Nat.succ_ne_zero _
  creates_new := by
    intro w sid id flags o data _ hres
    by_cases hpossible : possible w (.createPersistentObject sid id flags o data)
    · exact Option.isNone_iff_eq_none.mp (Bool.and_eq_true_iff.mp hpossible).2
    · dsimp only [bareReply] at hres
      rw [if_neg hpossible] at hres
      exact absurd hres (by decide)
  deletes := by
    intro w o
    exact hdeletes o

def World.empty : World := ⟨⟨Ledger.empty, 0, fun _ => none⟩, []⟩

end TeeRecord
