import OpteeTest.SimsStore
import OpteeTest.HandleLedger

/-! # The remote sessions of the sims TA

Each session of the TA keeps one handle of a session to another TA. Opening stores the new handle
over the old one, the panic command opens as well, and only a close gives the handle up. -/
namespace SimsSessions

open ByteMemory TeeApi GuardedRun HandleLedger
open SimsStore (Pointer teeMalloc teeMemMove)

def teeHandleNull : ℕ := 0

/-- `struct sims_session`; its array is never used. -/
structure SimsSession where
  sess : ℕ
  counter : UInt32

structure SimsMemref where
  buffer : Pointer
  size : UInt32

/-- The calls for sessions to other TAs; an open carries what the TEE answers. -/
inductive RemoteCall where
  | openTaSession (uuid : List UInt8) (res : TeeResult) (sess : ℕ)
  | invokeTaCommand (sess : ℕ) (commandId paramTypes : UInt32) (memref : SimsMemref)
  | closeTaSession (sess : ℕ)

structure SimsOutcome where
  res : TeeResult
  ctx : SimsSession
  memref : SimsMemref
  calls : List RemoteCall

/-- What the allocator has for the identifier, and what the TEE answers to the open. -/
structure SimsReplies where
  found : Pointer
  res : TeeResult
  sess : ℕ

def simsOpenTypes : UInt32 := teeParamTypes .memrefInput .none .none .none

def sizeofUuid : UInt32 := 16

def taSimsCmdPanic : UInt32 := 4

/-- `sims_open_ta_session`; no outcome when the TA dies. -/
def simsOpenTaSession (ctx : SimsSession) (r : SimsReplies) (paramTypes : UInt32)
    (memref : SimsMemref) : Option SimsOutcome :=
  if paramTypes ≠ simsOpenTypes then some ⟨teeErrorBadParameters, ctx, memref, []⟩
  else if memref.size ≠ sizeofUuid then some ⟨teeErrorBadParameters, ctx, memref, []⟩
  else match teeMalloc r.found sizeofUuid.toNat with
    | none => some ⟨teeErrorOutOfMemory, ctx, memref, []⟩
    | some uuid => (teeMemMove uuid memref.buffer memref.size.toNat).map fun uuid =>
      let call := .openTaSession (slice uuid 0 sizeofUuid.toNat) r.res r.sess
      if r.res ≠ teeSuccess then ⟨r.res, ctx, memref, [call]⟩
      else ⟨teeSuccess, ⟨r.sess, ctx.counter + 1⟩, memref, [call]⟩

def simsEntryPanic (ctx : SimsSession) (r : SimsReplies) (paramTypes : UInt32)
    (memref : SimsMemref) : Option SimsOutcome :=
  if paramTypes ≠ simsOpenTypes then some ⟨teeErrorBadParameters, ctx, memref, []⟩
  else if memref.buffer.isSome ∧ memref.size ≠ 0 then
    (simsOpenTaSession ctx r paramTypes memref).map fun o =>
      if o.res ≠ teeSuccess then o
      else { o with
        memref := ⟨none, 0⟩
        calls := o.calls ++ [.invokeTaCommand o.ctx.sess taSimsCmdPanic paramTypes ⟨none, 0⟩] }
  else none

def simsOpenSession (granted : Bool) (counter : UInt32) : Option (SimsSession × UInt32) :=
  if granted then some (⟨teeHandleNull, counter⟩, counter + 1) else none

def simsCloseSession (ctx : SimsSession) : List RemoteCall :=
  if ctx.sess ≠ teeHandleNull then [.closeTaSession ctx.sess] else []

/-- What the framework delivers to the TA; a session is named by its number. -/
inductive SimsEvent where
  | openSession (granted : Bool)
  | openTaSession (session : ℕ) (r : SimsReplies) (paramTypes : UInt32) (memref : SimsMemref)
  | entryPanic (session : ℕ) (r : SimsReplies) (paramTypes : UInt32) (memref : SimsMemref)
  | closeSession (session : ℕ)

/-- The TA and what the TEE keeps of it. `ta_sims.c` is built into a TA that is kept alive and into
one that is not; `first` is the number of the first session of the instance that is there. -/
structure SimsState where
  keepAlive : Bool
  counter : UInt32
  first : ℕ
  opened : ℕ
  contexts : ℕ → Option SimsSession
  remote : Ledger ℕ ℕ
  dead : Bool

def initialState (keepAlive : Bool) : SimsState :=
  ⟨keepAlive, 0, 0, 0, fun _ => none, .empty, false⟩

def callRemote (session : ℕ) (remote : Ledger ℕ ℕ) : RemoteCall → Ledger ℕ ℕ
  | .openTaSession _ res sess => if res = teeSuccess then remote.acquire session sess else remote
  | .invokeTaCommand sess _ _ _ => remote.use sess
  | .closeTaSession sess => remote.release sess

def commandStep (s : SimsState) (session : ℕ) (command : SimsSession → Option SimsOutcome) :
    SimsState :=
  match s.contexts session with
  | none => s
  | some ctx => match command ctx with
    | none => { s with dead := true }
    | some o => { s with
        contexts := Function.update s.contexts session (some o.ctx)
        remote := o.calls.foldl (callRemote session) s.remote }

instance (s : SimsState) :
    Decidable (s.keepAlive = false ∧ ∀ session < s.opened, s.contexts session = none) :=
  have : DecidablePred fun session => s.contexts session = none := fun session =>
    decidable_of_iff ((s.contexts session).isNone = true) Option.isNone_iff_eq_none
  inferInstanceAs (Decidable (_ ∧ _))

/-- With its last session an instance ends, and the next one starts with a counter of its own. -/
def endInstance (s : SimsState) : SimsState :=
  if s.keepAlive = false ∧ ∀ session < s.opened, s.contexts session = none then
    { s with counter := 0, first := s.opened }
  else s

def simsStep (s : SimsState) : SimsEvent → SimsState
  | .openSession granted => match simsOpenSession granted s.counter with
    | none => s
    | some (ctx, counter) => { s with
        counter := counter
        opened := s.opened + 1
        contexts := Function.update s.contexts s.opened (some ctx) }
  | .openTaSession session r paramTypes memref =>
    commandStep s session fun ctx => simsOpenTaSession ctx r paramTypes memref
  | .entryPanic session r paramTypes memref =>
    commandStep s session fun ctx => simsEntryPanic ctx r paramTypes memref
  | .closeSession session => match s.contexts session with
    | none => s
    | some ctx => endInstance { s with
        contexts := Function.update s.contexts session none
        remote := (simsCloseSession ctx).foldl (callRemote session) s.remote }

/-- No handle was used or closed that was not open, and a closed session has none open. -/
def Owned (s : SimsState) : Prop :=
  s.remote.misused = false ∧
    ∀ session sess, s.remote.owner sess = some session → (s.contexts session).isSome

def AllClosed (s : SimsState) : Prop := ∀ session, s.contexts session = none

structure Opens (r : SimsReplies) (paramTypes : UInt32) (memref : SimsMemref) : Prop where
  types : paramTypes = simsOpenTypes
  size : memref.size = sizeofUuid
  found : r.found.isSome
  buffer : memref.buffer.isSome
  res : r.res = teeSuccess

/-- The TEE gives a handle that is neither null nor open. -/
def FreshHandle (s : SimsState) (sess : ℕ) : Prop :=
  sess ≠ teeHandleNull ∧ s.remote.owner sess = none

/-- The framework delivers calls to a living TA, and commands and closes to its sessions. -/
def Delivered (s : SimsState) : SimsEvent → Prop
  | .openSession _ => s.dead = false
  | .openTaSession session r paramTypes memref | .entryPanic session r paramTypes memref =>
    s.dead = false ∧ (s.contexts session).isSome ∧
      (Opens r paramTypes memref → FreshHandle s r.sess)
  | .closeSession session => s.dead = false ∧ (s.contexts session).isSome

def OpensOnce (s : SimsState) : SimsEvent → Prop
  | .openTaSession session r paramTypes memref | .entryPanic session r paramTypes memref =>
    Opens r paramTypes memref → ∀ ctx ∈ s.contexts session, ctx.sess = teeHandleNull
  | _ => True

variable {s : SimsState} {ctx : SimsSession} {r : SimsReplies} {paramTypes : UInt32}
variable {memref : SimsMemref} {o : SimsOutcome} {session : ℕ}

instance : Decidable (Opens r paramTypes memref) :=
  decidable_of_iff (paramTypes = simsOpenTypes ∧ memref.size = sizeofUuid ∧ r.found.isSome ∧
      memref.buffer.isSome ∧ r.res = teeSuccess)
    ⟨fun ⟨ht, hs, hf, hb, hr⟩ => ⟨ht, hs, hf, hb, hr⟩,
      fun h => ⟨h.types, h.size, h.found, h.buffer, h.res⟩⟩

theorem openTaSession_opens (h : Opens r paramTypes memref) (ctx : SimsSession) :
    ∃ uuid, simsOpenTaSession ctx r paramTypes memref = some ⟨teeSuccess,
      ⟨r.sess, ctx.counter + 1⟩, memref, [.openTaSession uuid teeSuccess r.sess]⟩ := by
  obtain ⟨m, hm⟩ := Option.isSome_iff_exists.mp h.found
  obtain ⟨b, hb⟩ := Option.isSome_iff_exists.mp h.buffer
  simp [simsOpenTaSession, h.types, h.size, h.res, hm, hb, teeMalloc, teeMemMove]

/-- The command neither changes the session nor the record of the TEE. -/
def Idle (ctx : SimsSession) (o : SimsOutcome) : Prop :=
  o.ctx = ctx ∧ ∀ session remote, o.calls.foldl (callRemote session) remote = remote

theorem openTaSession_fails (h : ¬ Opens r paramTypes memref)
    (ho : simsOpenTaSession ctx r paramTypes memref = some o) :
    o.res ≠ teeSuccess ∧ Idle ctx o := by
  have hbad : teeErrorBadParameters ≠ teeSuccess := by decide
  have hmem : teeErrorOutOfMemory ≠ teeSuccess := by decide
  unfold simsOpenTaSession at ho
  by_cases htypes : paramTypes = simsOpenTypes
  · rw [if_neg (not_not.mpr htypes)] at ho
    by_cases hsize : memref.size = sizeofUuid
    · rw [if_neg (not_not.mpr hsize)] at ho
      cases hfound : r.found with
      | none =>
        simp only [teeMalloc, hfound, Option.map_none, Option.some.injEq] at ho
        subst ho
        exact ⟨hmem, rfl, fun _ _ => rfl⟩
      | some m =>
        cases hbuffer : memref.buffer with
        | none => simp [teeMalloc, teeMemMove, hfound, hbuffer, hsize, sizeofUuid] at ho
        | some b =>
          have hres : r.res ≠ teeSuccess := fun hres =>
            h ⟨htypes, hsize, by simp [hfound], by simp [hbuffer], hres⟩
          simp only [teeMalloc, teeMemMove, hfound, hbuffer, Option.map_some, if_pos hres,
            Option.some.injEq] at ho
          subst ho
          exact ⟨hres, rfl, fun _ _ => by simp [callRemote, hres]⟩
    · rw [if_pos hsize] at ho
      cases ho
      exact ⟨hbad, rfl, fun _ _ => rfl⟩
  · rw [if_pos htypes] at ho
    cases ho
    exact ⟨hbad, rfl, fun _ _ => rfl⟩

theorem entryPanic_opens (h : Opens r paramTypes memref) (ctx : SimsSession) :
    ∃ uuid, simsEntryPanic ctx r paramTypes memref = some ⟨teeSuccess,
      ⟨r.sess, ctx.counter + 1⟩, ⟨none, 0⟩, [.openTaSession uuid teeSuccess r.sess,
        .invokeTaCommand r.sess taSimsCmdPanic paramTypes ⟨none, 0⟩]⟩ := by
  obtain ⟨uuid, hopen⟩ := openTaSession_opens h ctx
  have hsize : memref.size ≠ 0 := h.size ▸ by decide
  refine ⟨uuid, ?_⟩
  rw [simsEntryPanic, if_neg (not_not.mpr h.types), if_pos ⟨h.buffer, hsize⟩, hopen]
  rfl

theorem entryPanic_fails (h : ¬ Opens r paramTypes memref)
    (ho : simsEntryPanic ctx r paramTypes memref = some o) : Idle ctx o := by
  unfold simsEntryPanic at ho
  split_ifs at ho
  · cases ho
    exact ⟨rfl, fun _ _ => rfl⟩
  · obtain ⟨o', ho', rfl⟩ := Option.map_eq_some_iff.mp ho
    obtain ⟨hres, hidle⟩ := openTaSession_fails h ho'
    rwa [if_pos hres]

theorem commandStep_some {command : SimsSession → Option SimsOutcome}
    (hctx : s.contexts session = some ctx) (ho : command ctx = some o) :
    commandStep s session command = { s with
      contexts := Function.update s.contexts session (some o.ctx)
      remote := o.calls.foldl (callRemote session) s.remote } := by
  simp only [commandStep, hctx, ho]

theorem commandStep_dead {command : SimsSession → Option SimsOutcome}
    (hctx : s.contexts session = some ctx) (ho : command ctx = none) :
    commandStep s session command = { s with dead := true } := by
  simp only [commandStep, hctx, ho]

theorem commandStep_idle {command : SimsSession → Option SimsOutcome}
    (h : ∀ ctx o, command ctx = some o → Idle ctx o) :
    (commandStep s session command).contexts = s.contexts ∧
      (commandStep s session command).remote = s.remote := by
  cases hctx : s.contexts session with
  | none => simp [commandStep, hctx]
  | some ctx =>
    cases ho : command ctx with
    | none =>
      rw [commandStep_dead hctx ho]
      exact ⟨rfl, rfl⟩
    | some o =>
      obtain ⟨hsame, hcalls⟩ := h ctx o ho
      rw [commandStep_some hctx ho]
      exact ⟨Function.update_eq_self_iff.mpr (by rw [hsame, hctx]), hcalls session s.remote⟩

def handleOf (ctx : Option SimsSession) : Option ℕ :=
  ctx.bind fun ctx => if ctx.sess = teeHandleNull then none else some ctx.sess

def slots (s : SimsState) : Slots ℕ ℕ := ⟨fun session => handleOf (s.contexts session), s.remote⟩

def actionOf : SimsEvent → SlotAction ℕ ℕ
  | .openSession _ => .stay
  | .openTaSession session r paramTypes memref | .entryPanic session r paramTypes memref =>
    if Opens r paramTypes memref then .take session r.sess else .stay
  | .closeSession session => .give session

/-- The numbers from the next one on are not in use. -/
def Numbered (s : SimsState) : Prop := ∀ session, s.opened ≤ session → s.contexts session = none

theorem slots_idle {command : SimsSession → Option SimsOutcome}
    (h : ∀ ctx o, command ctx = some o → Idle ctx o) :
    slots (commandStep s session command) = slots s := by
  obtain ⟨hctx, hrem⟩ := (commandStep_idle h :
    (commandStep s session command).contexts = s.contexts ∧ _)
  rw [slots, slots, hctx, hrem]

theorem slots_take {s' : SimsState} {sess : ℕ} (hnull : sess ≠ teeHandleNull)
    (hctx : s'.contexts = Function.update s.contexts session (some ⟨sess, ctx.counter + 1⟩))
    (hrem : s'.remote = s.remote.acquire session sess) :
    slots s' = act (slots s) (.take session sess) := by
  have hheld : (fun id => handleOf (s'.contexts id)) =
      Function.update (fun id => handleOf (s.contexts id)) session (some sess) := by
    funext id
    rw [hctx]
    rcases eq_or_ne id session with rfl | hne
    · simp [handleOf, hnull]
    · simp [Function.update_of_ne hne]
  rw [slots, hheld, hrem]
  rfl

theorem endInstance_kept (s : SimsState) : (endInstance s).contexts = s.contexts ∧
    (endInstance s).remote = s.remote ∧ (endInstance s).opened = s.opened := by
  unfold endInstance
  split
  · exact ⟨rfl, rfl, rfl⟩
  · exact ⟨rfl, rfl, rfl⟩

theorem simsStep_close (hctx : s.contexts session = some ctx) :
    simsStep s (.closeSession session) = endInstance { s with
      contexts := Function.update s.contexts session none
      remote := (simsCloseSession ctx).foldl (callRemote session) s.remote } := by
  simp only [simsStep, hctx]

theorem slots_close (hctx : s.contexts session = some ctx) :
    slots (simsStep s (.closeSession session)) =
      ⟨fun id => handleOf (Function.update s.contexts session none id),
        (simsCloseSession ctx).foldl (callRemote session) s.remote⟩ := by
  obtain ⟨hcontexts, hremote, -⟩ := endInstance_kept { s with
    contexts := Function.update s.contexts session none
    remote := (simsCloseSession ctx).foldl (callRemote session) s.remote }
  rw [slots, simsStep_close hctx, hcontexts, hremote]

theorem handleOf_closed (contexts : ℕ → Option SimsSession) (session : ℕ) :
    (fun id => handleOf (Function.update contexts session none id)) =
      Function.update (fun id => handleOf (contexts id)) session none := by
  funext id
  rcases eq_or_ne id session with rfl | hne
  · simp [handleOf]
  · simp [Function.update_of_ne hne]

theorem slots_step (hn : Numbered s) (e : SimsEvent) (he : Delivered s e) :
    slots (simsStep s e) = act (slots s) (actionOf e) := by
  cases e with
  | openSession granted =>
    cases granted with
    | false => rfl
    | true =>
      have hheld : (fun id => handleOf ((simsStep s (.openSession true)).contexts id)) =
          fun id => handleOf (s.contexts id) := by
        funext id
        rcases eq_or_ne id s.opened with rfl | hne
        · simp [simsStep, simsOpenSession, handleOf, hn s.opened le_rfl]
        · simp [simsStep, simsOpenSession, Function.update_of_ne hne]
      rw [slots, hheld]
      rfl
  | openTaSession session r paramTypes memref =>
    by_cases h : Opens r paramTypes memref
    · obtain ⟨ctx, hctx⟩ := Option.isSome_iff_exists.mp he.2.1
      obtain ⟨uuid, ho⟩ := openTaSession_opens h ctx
      rw [actionOf, if_pos h, simsStep, commandStep_some hctx ho]
      exact slots_take (he.2.2 h).1 rfl rfl
    · rw [actionOf, if_neg h, simsStep]
      exact slots_idle fun ctx o ho => (openTaSession_fails h ho).2
  | entryPanic session r paramTypes memref =>
    by_cases h : Opens r paramTypes memref
    · obtain ⟨ctx, hctx⟩ := Option.isSome_iff_exists.mp he.2.1
      obtain ⟨uuid, ho⟩ := entryPanic_opens h ctx
      rw [actionOf, if_pos h, simsStep, commandStep_some hctx ho]
      exact slots_take (he.2.2 h).1 rfl (by simp [callRemote])
    · rw [actionOf, if_neg h, simsStep]
      exact slots_idle fun ctx o ho => entryPanic_fails h ho
  | closeSession session =>
    obtain ⟨ctx, hctx⟩ := Option.isSome_iff_exists.mp he.2
    have hclosed := slots_close hctx
    by_cases hnull : ctx.sess = teeHandleNull
    · have hheld : (slots s).held session = none := by simp [slots, hctx, handleOf, hnull]
      rw [actionOf, act_give_empty hheld, hclosed, simsCloseSession,
        if_neg (not_not.mpr hnull), handleOf_closed, Function.update_eq_self_iff.mpr hheld.symm]
      rfl
    · have hheld : (slots s).held session = some ctx.sess := by
        simp [slots, hctx, handleOf, hnull]
      rw [actionOf, act_give_held hheld, hclosed, simsCloseSession, if_pos hnull,
        handleOf_closed]
      rfl

theorem delivered_allowed {e : SimsEvent} (he : Delivered s e) :
    Allowed (slots s) (actionOf e) := by
  cases e with
  | openSession granted => trivial
  | closeSession session => trivial
  | openTaSession session r paramTypes memref | entryPanic session r paramTypes memref =>
    by_cases h : Opens r paramTypes memref
    · rw [actionOf, if_pos h]
      exact (he.2.2 h).2
    · rw [actionOf, if_neg h]
      trivial

theorem handleOf_none {ctx : Option SimsSession} :
    handleOf ctx = none ↔ ∀ c ∈ ctx, c.sess = teeHandleNull := by
  cases ctx <;> simp [handleOf]

theorem opensOnce_iff_keeps (s : SimsState) (e : SimsEvent) :
    OpensOnce s e ↔ Keeps (slots s) (actionOf e) := by
  cases e with
  | openSession granted => exact Iff.rfl
  | closeSession session => exact Iff.rfl
  | openTaSession session r paramTypes memref | entryPanic session r paramTypes memref =>
    by_cases h : Opens r paramTypes memref
    · rw [actionOf, if_pos h]
      exact ⟨fun ho => handleOf_none.mpr (ho h), fun hk _ => handleOf_none.mp hk⟩
    · rw [actionOf, if_neg h]
      exact iff_of_true (fun ho => absurd ho h) trivial

structure SessionsInv (s : SimsState) : Prop where
  numbered : Numbered s
  backed : Backed (slots s)

theorem initial_inv (keepAlive : Bool) : SessionsInv (initialState keepAlive) :=
  ⟨fun _ _ => rfl, ⟨fun _ _ h => (by cases h), rfl⟩⟩

theorem initial_covered (keepAlive : Bool) : Covered (slots (initialState keepAlive)) :=
  fun _ _ h => by cases h

theorem numbered_command (hn : Numbered s) (command : SimsSession → Option SimsOutcome) :
    Numbered (commandStep s session command) := by
  cases hctx : s.contexts session with
  | none => simpa [commandStep, hctx] using hn
  | some ctx =>
    cases ho : command ctx with
    | none => rwa [commandStep_dead hctx ho]
    | some o =>
      rw [commandStep_some hctx ho]
      intro id hid
      have hne : id ≠ session := by
        rintro rfl
        rw [hn id hid] at hctx
        cases hctx
      simpa [Function.update_of_ne hne] using hn id hid

theorem numbered_step (hn : Numbered s) (e : SimsEvent) : Numbered (simsStep s e) := by
  cases e with
  | openSession granted =>
    cases granted with
    | false => exact hn
    | true =>
      intro id hid
      have hid : s.opened + 1 ≤ id := hid
      have hne : id ≠ s.opened := by omega
      simpa [simsStep, simsOpenSession, Function.update_of_ne hne] using hn id (by omega)
  | openTaSession session r paramTypes memref => exact numbered_command hn _
  | entryPanic session r paramTypes memref => exact numbered_command hn _
  | closeSession session =>
    cases hctx : s.contexts session with
    | none => simpa [simsStep, hctx] using hn
    | some ctx =>
      obtain ⟨hcontexts, -, hopened⟩ := endInstance_kept { s with
        contexts := Function.update s.contexts session none
        remote := (simsCloseSession ctx).foldl (callRemote session) s.remote }
      rw [simsStep_close hctx]
      intro id hid
      rw [hopened] at hid
      rw [hcontexts]
      rcases eq_or_ne id session with rfl | hne
      · exact Function.update_self ..
      · simpa [Function.update_of_ne hne] using hn id hid

theorem step_inv (s : SimsState) (e : SimsEvent) (h : SessionsInv s) (he : Delivered s e) :
    SessionsInv (simsStep s e) := by
  refine ⟨numbered_step h.numbered e, ?_⟩
  rw [slots_step h.numbered e he]
  exact backed_act h.backed _ (delivered_allowed he)

theorem covered_inv_step (s : SimsState) (e : SimsEvent)
    (h : SessionsInv s ∧ Covered (slots s)) (he : Delivered s e ∧ OpensOnce s e) :
    SessionsInv (simsStep s e) ∧ Covered (slots (simsStep s e)) := by
  refine ⟨step_inv s e h.1 he.1, ?_⟩
  rw [slots_step h.1.numbered e he.1]
  exact covered_act h.2 _ ((opensOnce_iff_keeps s e).mp he.2)

theorem lost_step (s : SimsState) (e : SimsEvent) (h : SessionsInv s) (hl : Lost (slots s))
    (he : Delivered s e) : Lost (slots (simsStep s e)) := by
  rw [slots_step h.numbered e he]
  exact lost_act h.backed hl _ (delivered_allowed he)

theorem lost_reopened (s : SimsState) (e : SimsEvent) (h : SessionsInv s) (he : Delivered s e)
    (hk : ¬ OpensOnce s e) : Lost (slots (simsStep s e)) := by
  rw [slots_step h.numbered e he]
  exact lost_overwritten h.backed _ (delivered_allowed he) (mt (opensOnce_iff_keeps s e).mpr hk)

theorem covered_owned (h : SessionsInv s) (hc : Covered (slots s)) : Owned s := by
  refine ⟨h.backed.sound, fun session sess hopen => ?_⟩
  have hheld : handleOf (s.contexts session) = some sess := hc session sess hopen
  cases hctx : s.contexts session with
  | none =>
    rw [hctx] at hheld
    cases hheld
  | some ctx => rfl

theorem lost_not_owned (hl : Lost (slots s)) (hclosed : AllClosed s) : ¬ Owned s := by
  obtain ⟨session, sess, hopen, -⟩ := hl
  intro howned
  have hlive := howned.2 session sess hopen
  rw [hclosed session] at hlive
  cases hlive

/-- Sessions own what they open in every state of every run in which no session opens while it
has a handle; a run with such an open does not close all it opened. -/
theorem sessions_owned_iff (keepAlive : Bool) (es : List SimsEvent)
    (hv : ValidTrace simsStep Delivered (initialState keepAlive) es) :
    (ValidTrace simsStep OpensOnce (initialState keepAlive) es →
      ∀ p, p <+: es → Owned (runTrace simsStep (initialState keepAlive) p)) ∧
    (AllClosed (runTrace simsStep (initialState keepAlive) es) →
      Owned (runTrace simsStep (initialState keepAlive) es) →
      ValidTrace simsStep OpensOnce (initialState keepAlive) es) := by
  constructor
  · rintro honce p ⟨t, rfl⟩
    have hboth := validTrace_and ((validTrace_append _ p t).mp hv).1
      ((validTrace_append _ p t).mp honce).1
    have hrun : SessionsInv (runTrace simsStep (initialState keepAlive) p) ∧
        Covered (slots (runTrace simsStep (initialState keepAlive) p)) :=
      invariant_run covered_inv_step ⟨initial_inv keepAlive, initial_covered keepAlive⟩ hboth
    exact covered_owned hrun.1 hrun.2
  · intro hclosed howned
    by_contra honce
    have hlost := violation_run step_inv lost_reopened lost_step (initial_inv keepAlive) hv honce
    exact lost_not_owned hlost hclosed howned

def openRequest (sess : ℕ) : SimsEvent :=
  .openTaSession 0 ⟨some fun _ => 0, teeSuccess, sess⟩ simsOpenTypes ⟨some fun _ => 0, sizeofUuid⟩

theorem sessions_owned_once : Owned (runTrace simsStep (initialState false)
    [.openSession true, openRequest 1, .closeSession 0]) := by
  refine (sessions_owned_iff false [.openSession true, openRequest 1, .closeSession 0] ?_).1 ?_ _
    (List.prefix_refl _)
  · exact ⟨rfl, ⟨rfl, rfl, fun _ => ⟨by decide, rfl⟩⟩, ⟨rfl, rfl⟩, trivial⟩
  · exact ⟨trivial, fun _ ctx h => Option.some.inj h ▸ rfl, trivial, trivial⟩

/-- A session opens two remote sessions and closes: the first one stays open. -/
theorem first_session_lost : ¬ ∀ es, ValidTrace simsStep Delivered (initialState false) es →
    ∀ p, p <+: es → Owned (runTrace simsStep (initialState false) p) := by
  intro h
  have howned := h [.openSession true, openRequest 1, openRequest 2, .closeSession 0]
    ⟨rfl, ⟨rfl, rfl, fun _ => ⟨by decide, rfl⟩⟩, ⟨rfl, rfl, fun _ => ⟨by decide, rfl⟩⟩,
      ⟨rfl, rfl⟩, trivial⟩ _ (List.prefix_refl _)
  have hlive := howned.2 0 1 rfl
  cases hlive

end SimsSessions
