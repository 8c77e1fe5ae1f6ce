import OpteeTest.GuardedRun
import OpteeTest.HandleLedger
import OpteeTest.SdpCopies
import Mathlib.Algebra.Group.Nat.Even

/-! # The secure data path, directly and through another application

The `sdp_basic` TA does its commands itself, has another instance of itself do them, or a pseudo
TA. For either of these it opens a session with the first command and keeps it until one fails. -/
namespace SdpForwarding

open ByteMemory TeeApi GuardedRun HandleLedger
open SdpCopies (SdpMemref Platform sdpTypes cmdInject cmdDump teeMemoryAccessRead
  teeMemoryAccessWrite teeMemoryAccessAnyOwner teeMemoryAccessSecure)

def transformTypes : UInt32 := teeParamTypes .memrefInout .none .none .none

def transformFlags : UInt32 :=
  teeMemoryAccessAnyOwner ||| teeMemoryAccessRead ||| teeMemoryAccessWrite |||
    teeMemoryAccessSecure

def negateLoop : ℕ → ℕ → Memory UInt8 → Memory UInt8
  | 0, _, mem => mem
  | sz + 1, p, mem => negateLoop sz (p + 1) (Function.update mem p (~~~mem p + 1))

def cmdTransform (E : Platform) (types : UInt32) (params : Fin 4 → SdpMemref)
    (mem : Memory UInt8) : SdpCopies.Outcome :=
  let sec := (params 0).range
  if types ≠ transformTypes then ⟨teeErrorBadParameters, mem, []⟩
  else
    let rc := E.checkMemoryAccessRights transformFlags sec
    let log := [.checked transformFlags sec rc]
    if rc ≠ teeSuccess then ⟨rc, mem, log⟩
    else
      let (rc, flushed) := E.flush E.flushBefore sec
      if rc ≠ teeSuccess then ⟨rc, mem, log ++ flushed⟩
      else
        let mem := negateLoop sec.len sec.off mem
        let (rc, flushed') := E.flush E.flushAfter sec
        ⟨rc, mem, log ++ flushed ++ [.moved sec sec] ++ flushed'⟩

inductive SdpKind where
  | inject | transform | dump
  deriving DecidableEq, Repr

inductive Way where
  | direct | ta | pta
  deriving DecidableEq, Repr

inductive Target where
  | ta | pta
  deriving DecidableEq, Repr

def commandCode : SdpKind → Way → UInt32
  | .inject, .direct => 0
  | .transform, .direct => 1
  | .dump, .direct => 2
  | .inject, .ta => 3
  | .transform, .ta => 4
  | .dump, .ta => 5
  | .inject, .pta => 6
  | .transform, .pta => 7
  | .dump, .pta => 8

def commandOf (commandId : UInt32) : Option (SdpKind × Way) :=
  [(.inject, .direct), (.transform, .direct), (.dump, .direct), (.inject, .ta), (.transform, .ta),
    (.dump, .ta), (.inject, .pta), (.transform, .pta), (.dump, .pta)].find?
      fun c => commandCode c.1 c.2 = commandId

def SdpKind.run (k : SdpKind) (E : Platform) (types : UInt32) (params : Fin 4 → SdpMemref)
    (mem : Memory UInt8) : SdpCopies.Outcome :=
  match k with
  | .inject => cmdInject E types params mem
  | .transform => cmdTransform E types params mem
  | .dump => cmdDump E types params mem

/-- What the TEE answers to a call of another application: to the opening, with a handle, and what
the call itself comes to when it does not get there. -/
structure Remote where
  opened : TeeResult
  handle : ℕ
  delivered : TeeResult

/-- The memory, the static sessions next to the record of the TEE, and the results of the commands
that were passed on, the newest first. `none` is `TEE_HANDLE_NULL`. -/
structure SdpState where
  mem : Memory UInt8
  sessions : Slots Target ℕ
  answered : List (Target × TeeResult)

structure SdpRequest where
  commandId : UInt32
  types : UInt32
  params : Fin 4 → SdpMemref
  platform : Platform
  remote : Remote

/-- The session of a call, unless it cannot be opened; closing `TEE_HANDLE_NULL` is no event. -/
def openSession (t : Target) (r : Remote) (sessions : Slots Target ℕ) :
    TeeResult × Slots Target ℕ :=
  match sessions.held t with
  | some _ => (teeSuccess, sessions)
  | none => if r.opened = teeSuccess then (teeSuccess, act sessions (.take t r.handle))
    else (r.opened, sessions)

def useSession (t : Target) (sessions : Slots Target ℕ) : Slots Target ℕ :=
  match sessions.held t with
  | some k => { sessions with ledger := sessions.ledger.use k }
  | none => sessions

/-- `cmd_invoke` and `cmd_invoke_pta`; `callee` is what the other application does. -/
def cmdInvoke (t : Target) (r : Remote) (callee : Memory UInt8 → TeeResult × Memory UInt8)
    (s : SdpState) : TeeResult × SdpState :=
  let (res, sessions) := openSession t r s.sessions
  if res ≠ teeSuccess then (res, ⟨s.mem, sessions, (t, res) :: s.answered⟩)
  else
    let sessions := useSession t sessions
    let (res, mem) := if r.delivered ≠ teeSuccess then (r.delivered, s.mem) else callee s.mem
    let sessions := if res ≠ teeSuccess then act sessions (.give t) else sessions
    (res, ⟨mem, sessions, (t, res) :: s.answered⟩)

abbrev PseudoTa := SdpKind → UInt32 → (Fin 4 → SdpMemref) → Memory UInt8 → TeeResult × Memory UInt8

/-- `TA_InvokeCommandEntryPoint`; the other instance of the TA does the direct command. -/
def invoke (pta : PseudoTa) (s : SdpState) (q : SdpRequest) : TeeResult × SdpState :=
  match commandOf q.commandId with
  | some (k, .direct) =>
    let o := k.run q.platform q.types q.params s.mem
    (o.res, { s with mem := o.mem })
  | some (k, .ta) => cmdInvoke .ta q.remote (fun mem =>
      let o := k.run q.platform q.types q.params mem
      (o.res, o.mem)) s
  | some (k, .pta) => cmdInvoke .pta q.remote (pta k q.types q.params) s
  | none => (teeErrorBadParameters, s)

def next (pta : PseudoTa) (s : SdpState) (q : SdpRequest) : SdpState := (invoke pta s q).2

def initialState (mem : Memory UInt8) : SdpState := ⟨mem, ⟨fun _ => none, .empty⟩, []⟩

/-- The TEE opens no session that is open, and `TEE_HANDLE_NULL` is none. -/
def FreshSession (s : SdpState) (q : SdpRequest) : Prop :=
  q.remote.opened = teeSuccess →
    q.remote.handle ≠ 0 ∧ s.sessions.ledger.owner q.remote.handle = none

/-- No session was used or closed that was not open, the open ones are just those in the static
variables, and a session is kept exactly after a success of its last command. -/
structure SessionsKept (s : SdpState) : Prop where
  backed : Backed s.sessions
  covered : Covered s.sessions
  nonnull : ∀ t, s.sessions.held t ≠ some 0
  cached : ∀ t, (s.sessions.held t).isSome ↔
    (s.answered.find? fun a => a.1 = t).map Prod.snd = some teeSuccess

variable {s : SdpState} {t : Target} {r : Remote} {pta : PseudoTa}
  {callee : Memory UInt8 → TeeResult × Memory UInt8}

theorem initial_kept (mem : Memory UInt8) : SessionsKept (initialState mem) where
  backed := ⟨fun _ _ h => absurd h (by simp [initialState]), rfl⟩
  covered := fun _ _ h => absurd h (by simp [initialState, Ledger.empty])
  nonnull := by simp [initialState]
  cached := by simp [initialState]

/-- What the static variables are for a call: the same but for the one of its target. -/
structure Opened (t : Target) (before after : Slots Target ℕ) (res : TeeResult) : Prop where
  backed : Backed after
  covered : Covered after
  nonnull : ∀ t', after.held t' ≠ some 0
  here : (after.held t).isSome ↔ res = teeSuccess
  other : ∀ t', t' ≠ t → after.held t' = before.held t'

theorem openSession_opened (h : SessionsKept s)
    (hfresh : r.opened = teeSuccess →
      r.handle ≠ 0 ∧ s.sessions.ledger.owner r.handle = none) :
    Opened t s.sessions (openSession t r s.sessions).2 (openSession t r s.sessions).1 := by
  unfold openSession
  cases hheld : s.sessions.held t with
  | some k => exact ⟨h.backed, h.covered, h.nonnull, by simp [hheld], fun _ _ => rfl⟩
  | none =>
    dsimp only
    split_ifs with hopen
    · have hkeeps : Keeps s.sessions (.take t r.handle) := hheld
      obtain ⟨hnull, hfresh⟩ := hfresh hopen
      refine ⟨backed_act h.backed (.take t r.handle) hfresh, covered_act h.covered _ hkeeps,
        fun t' => ?_, ?_, fun t' ht' => ?_⟩
      · rcases eq_or_ne t' t with rfl | hne
        · simp [act, hnull]
        · simpa [act, Function.update_of_ne hne] using h.nonnull t'
      · simp [act]
      · simp [act, Function.update_of_ne ht']
    · exact ⟨h.backed, h.covered, h.nonnull, by simp [hheld, hopen], fun _ _ => rfl⟩

theorem useSession_eq {sessions : Slots Target ℕ} (h : Backed sessions) :
    useSession t sessions = sessions := by
  unfold useSession
  cases hheld : sessions.held t with
  | none => rfl
  | some k =>
    dsimp only
    rw [use_open (h.owned t k hheld)]

theorem give_opened {before after : Slots Target ℕ} {res : TeeResult}
    (h : Opened t before after teeSuccess) (hres : res ≠ teeSuccess) :
    Opened t before (act after (.give t)) res := by
  obtain ⟨k, hk⟩ := Option.isSome_iff_exists.mp (h.here.mpr rfl)
  refine ⟨backed_act h.backed _ trivial, covered_act h.covered _ trivial, fun t' => ?_, ?_,
    fun t' ht' => ?_⟩
  · rw [act_give_held hk]
    rcases eq_or_ne t' t with rfl | hne
    · simp
    · simpa [Function.update_of_ne hne] using h.nonnull t'
  · rw [act_give_held hk]
    simp [hres]
  · rw [act_give_held hk]
    simpa [Function.update_of_ne ht'] using h.other t' ht'

theorem kept_of_opened {after : Slots Target ℕ} {res : TeeResult} {mem : Memory UInt8}
    (h : SessionsKept s) (ho : Opened t s.sessions after res) :
    SessionsKept ⟨mem, after, (t, res) :: s.answered⟩ where
  backed := ho.backed
  covered := ho.covered
  nonnull := ho.nonnull
  cached := by
    intro t'
    rcases eq_or_ne t' t with rfl | hne
    · simpa using ho.here
    · have hskip : ¬ t = t' := fun heq => hne heq.symm
      simpa [hskip, ho.other t' hne] using h.cached t'

theorem cmdInvoke_kept (h : SessionsKept s)
    (hfresh : r.opened = teeSuccess →
      r.handle ≠ 0 ∧ s.sessions.ledger.owner r.handle = none) :
    SessionsKept (cmdInvoke t r callee s).2 := by
  have ho := openSession_opened (t := t) h hfresh
  unfold cmdInvoke
  generalize openSession t r s.sessions = o at ho
  obtain ⟨res, sessions⟩ := o
  dsimp only at ho ⊢
  by_cases hres : res = teeSuccess
  · subst hres
    rw [if_neg (not_not.mpr rfl), useSession_eq ho.backed]
    generalize (if r.delivered ≠ teeSuccess then (r.delivered, s.mem) else callee s.mem) = out
    obtain ⟨res, mem⟩ := out
    dsimp only
    split_ifs with hfail
    · exact kept_of_opened h (give_opened ho hfail)
    · rw [not_not.mp hfail]
      exact kept_of_opened h ho
  · rw [if_pos hres]
    exact kept_of_opened h ho

theorem next_kept (h : SessionsKept s) (q : SdpRequest) (hfresh : FreshSession s q) :
    SessionsKept (next pta s q) := by
  unfold next invoke
  rcases commandOf q.commandId with _ | ⟨k, w⟩
  · exact h
  cases w with
  | direct => exact ⟨h.backed, h.covered, h.nonnull, h.cached⟩
  | ta => exact cmdInvoke_kept h hfresh
  | pta => exact cmdInvoke_kept h hfresh

/-- Over every run the two static sessions are the open ones, no closed session is used, and a
session is kept just when the last command passed on succeeded. -/
theorem sessions_are_kept (pta : PseudoTa) (mem : Memory UInt8) (qs : List SdpRequest)
    (hv : ValidTrace (next pta) FreshSession (initialState mem) qs) :
    SessionsKept (runTrace (next pta) (initialState mem) qs) := by
  have hstep : ∀ s q, SessionsKept s → FreshSession s q → SessionsKept (next pta s q) :=
    fun _ q h => next_kept h q
  exact invariant_run hstep (initial_kept mem) hv

instance (s : SdpState) (q : SdpRequest) : Decidable (FreshSession s q) :=
  inferInstanceAs (Decidable (_ → _))

/-- The bytes 1 and 2, a secure buffer of three bytes at 4, and two bytes at 8 for the answer. -/
def sampleRequest (k : SdpKind) (w : Way) (handle : ℕ) : SdpRequest where
  commandId := commandCode k w
  types := if k = .transform then transformTypes else sdpTypes
  params := match k with
    | .inject => ![⟨0, 2⟩, ⟨4, 3⟩, ⟨0, 0⟩, ⟨0, 0⟩]
    | .transform => ![⟨4, 3⟩, ⟨0, 0⟩, ⟨0, 0⟩, ⟨0, 0⟩]
    | .dump => ![⟨4, 3⟩, ⟨8, 3⟩, ⟨0, 0⟩, ⟨0, 0⟩]
  platform := SdpCopies.granting
  remote := ⟨teeSuccess, handle, teeSuccess⟩

def lostTransform : SdpRequest :=
  { sampleRequest .transform .ta 2 with remote := ⟨teeSuccess, 2, teeErrorGeneric⟩ }

def sampleRun : List SdpRequest :=
  [sampleRequest .inject .ta 1, lostTransform, sampleRequest .transform .ta 1,
    sampleRequest .dump .direct 2]

def samplePta : PseudoTa := fun _ _ _ mem => (teeErrorNotSupported, mem)

def sampleMemory : Memory UInt8 := fun i => if i < 2 then UInt8.ofNat (i + 1) else 0

theorem sample_sessions_kept :
    SessionsKept (runTrace (next samplePta) (initialState sampleMemory) sampleRun) :=
  sessions_are_kept samplePta sampleMemory sampleRun (by decide)

def SdpRequest.Does (q : SdpRequest) (k : SdpKind) : Prop :=
  ∃ w, commandOf q.commandId = some (k, w) ∧ w ≠ .pta

def SdpRequest.outcome (q : SdpRequest) (k : SdpKind) (mem : Memory UInt8) : SdpCopies.Outcome :=
  k.run q.platform q.types q.params mem

/-- A flush after the loop would fail a command that has transformed the buffer. -/
def SdpRequest.FlushesAfter (q : SdpRequest) : Prop :=
  q.platform.cacheApi → q.platform.flushAfter = teeSuccess

def replies (pta : PseudoTa) : SdpState → List SdpRequest → List TeeResult
  | _, [] => []
  | s, q :: qs => (invoke pta s q).1 :: replies pta (next pta s q) qs

variable {q : SdpRequest} {k : SdpKind}

/-- A command passed on is the direct command, unless it does not get there. -/
theorem cmdInvoke_callee (t : Target) (r : Remote)
    (callee : Memory UInt8 → TeeResult × Memory UInt8) (s : SdpState) :
    ((cmdInvoke t r callee s).1, (cmdInvoke t r callee s).2.mem) = callee s.mem ∨
      (cmdInvoke t r callee s).1 ≠ teeSuccess ∧ (cmdInvoke t r callee s).2.mem = s.mem := by
  unfold cmdInvoke
  generalize openSession t r s.sessions = o
  obtain ⟨res, sessions⟩ := o
  dsimp only
  by_cases hres : res = teeSuccess
  case neg =>
    rw [if_pos hres]
    exact Or.inr ⟨hres, rfl⟩
  rw [if_neg (not_not.mpr hres)]
  by_cases hdelivered : r.delivered = teeSuccess
  case neg =>
    rw [if_pos hdelivered]
    exact Or.inr ⟨hdelivered, rfl⟩
  rw [if_neg (not_not.mpr hdelivered)]
  exact Or.inl rfl

theorem invoke_does (pta : PseudoTa) (s : SdpState) (hq : q.Does k) :
    ((invoke pta s q).1 = (q.outcome k s.mem).res ∧
        (next pta s q).mem = (q.outcome k s.mem).mem) ∨
      (invoke pta s q).1 ≠ teeSuccess ∧ (next pta s q).mem = s.mem := by
  obtain ⟨w, hw, hlocal⟩ := hq
  unfold next invoke
  rw [hw]
  cases w with
  | direct => exact Or.inl ⟨rfl, rfl⟩
  | ta =>
    rcases cmdInvoke_callee .ta q.remote
      (fun mem => ((q.outcome k mem).res, (q.outcome k mem).mem)) s with hdone | hlost
    · exact Or.inl (Prod.mk.inj hdone)
    · exact Or.inr hlost
  | pta => exact absurd rfl hlocal

/-- A command that succeeds has done what the direct command does. -/
theorem success_does (hq : q.Does k) (h : (invoke pta s q).1 = teeSuccess) :
    (q.outcome k s.mem).res = teeSuccess ∧ (next pta s q).mem = (q.outcome k s.mem).mem := by
  rcases invoke_does pta s hq with ⟨hres, hmem⟩ | ⟨hres, -⟩
  · exact ⟨hres ▸ h, hmem⟩
  · exact absurd h hres

theorem negateLoop_apply (sz p : ℕ) (mem : Memory UInt8) (i : ℕ) :
    negateLoop sz p mem i = if p ≤ i ∧ i < p + sz then -mem i else mem i := by
  induction sz generalizing p mem with
  | zero =>
    rw [if_neg (by omega)]
    rfl
  | succ sz ih =>
    rw [negateLoop, ih]
    rcases eq_or_ne i p with rfl | hne
    · rw [if_neg (by omega), if_pos (by omega), Function.update_self, UInt8.neg_eq_not_add]
    · rw [Function.update_of_ne hne]
      have hrange : p + 1 ≤ i ∧ i < p + 1 + sz ↔ p ≤ i ∧ i < p + (sz + 1) := by omega
      simp only [hrange]

theorem cmdTransform_effect (E : Platform) (types : UInt32) (params : Fin 4 → SdpMemref)
    (mem : Memory UInt8) (hafter : E.cacheApi → E.flushAfter = teeSuccess) :
    ((cmdTransform E types params mem).res = teeSuccess ∧
        (cmdTransform E types params mem).mem =
          negateLoop (params 0).size.toNat (params 0).buffer mem) ∨
      (cmdTransform E types params mem).res ≠ teeSuccess ∧
        (cmdTransform E types params mem).mem = mem := by
  unfold cmdTransform
  by_cases htypes : types = transformTypes
  case neg =>
    rw [if_pos htypes]
    have hbad : teeErrorBadParameters ≠ teeSuccess := by decide
    exact Or.inr ⟨hbad, rfl⟩
  rw [if_neg (not_not.mpr htypes)]
  dsimp only
  by_cases hrights : E.checkMemoryAccessRights transformFlags (params 0).range = teeSuccess
  case neg =>
    rw [if_pos hrights]
    exact Or.inr ⟨hrights, rfl⟩
  rw [if_neg (not_not.mpr hrights)]
  by_cases hflushed : (E.flush E.flushBefore (params 0).range).1 = teeSuccess
  case neg =>
    rw [if_pos hflushed]
    exact Or.inr ⟨hflushed, rfl⟩
  rw [if_neg (not_not.mpr hflushed)]
  exact Or.inl ⟨SdpCopies.flush_success.mpr hafter, rfl⟩

def transformed (n : ℕ) (data : List UInt8) : List UInt8 :=
  if Even n then data else data.map fun b => -b

theorem transformed_succ (n : ℕ) (data : List UInt8) :
    (transformed n data).map (fun b => -b) = transformed (n + 1) data := by
  unfold transformed
  by_cases hn : Even n
  · rw [if_pos hn, if_neg (Nat.not_even_iff_odd.mpr hn.add_one)]
  · have hodd := Nat.not_even_iff_odd.mp hn
    have hback : ((fun b : UInt8 => -b) ∘ fun b => -b) = id := funext fun _ => UInt8.neg_neg
    rw [if_neg hn, if_pos hodd.add_one, List.map_map, hback, List.map_id]

/-- One transformation of a buffer, of which the first bytes are looked at. -/
theorem transform_slice (pta : PseudoTa) (s : SdpState) {sec : SdpMemref} {len : ℕ}
    (hq : q.Does .transform) (hsec : q.params 0 = sec) (hafter : q.FlushesAfter)
    (hlen : len ≤ sec.size.toNat) :
    slice (next pta s q).mem sec.buffer len =
      if (invoke pta s q).1 = teeSuccess then (slice s.mem sec.buffer len).map fun b => -b
      else slice s.mem sec.buffer len := by
  have heffect : ((q.outcome .transform s.mem).res = teeSuccess ∧
      (q.outcome .transform s.mem).mem = negateLoop sec.size.toNat sec.buffer s.mem) ∨
      (q.outcome .transform s.mem).res ≠ teeSuccess ∧ (q.outcome .transform s.mem).mem = s.mem := by
    rw [← hsec]
    exact cmdTransform_effect q.platform q.types q.params s.mem hafter
  rcases invoke_does pta s hq with ⟨hres, hmem⟩ | ⟨hres, hmem⟩
  · rw [hres, hmem]
    rcases heffect with ⟨hok, hneg⟩ | ⟨hfail, hsame⟩
    · rw [if_pos hok]
      apply List.ext_getElem
      · simp
      · intro i hi hi'
        have hi : i < len := by simpa using hi
        have hin : sec.buffer ≤ sec.buffer + i ∧
            sec.buffer + i < sec.buffer + sec.size.toNat := by omega
        rw [getElem_slice, List.getElem_map, getElem_slice, hneg, negateLoop_apply, if_pos hin]
    · rw [if_neg hfail, hsame]
  · rw [if_neg hres, hmem]

/-- Any number of transformations of one buffer: as many passes as there are successes. -/
theorem transforms_slice (pta : PseudoTa) {sec : SdpMemref} {len n : ℕ} {data : List UInt8}
    (hlen : len ≤ sec.size.toNat) (qs : List SdpRequest) (s : SdpState)
    (hqs : ∀ q ∈ qs, q.Does .transform ∧ q.params 0 = sec ∧ q.FlushesAfter)
    (hdata : slice s.mem sec.buffer len = transformed n data) :
    slice (runTrace (next pta) s qs).mem sec.buffer len =
      transformed (n + (replies pta s qs).count teeSuccess) data := by
  induction qs generalizing s n with
  | nil => exact hdata
  | cons q qs ih =>
    obtain ⟨hq, hsec, hafter⟩ := hqs q List.mem_cons_self
    have hstep := transform_slice pta s hq hsec hafter hlen
    rw [runTrace_cons, replies, List.count_cons]
    have hrest : ∀ q ∈ qs, q.Does .transform ∧ q.params 0 = sec ∧ q.FlushesAfter :=
      fun q hmem => hqs q (List.mem_cons_of_mem _ hmem)
    by_cases hres : (invoke pta s q).1 = teeSuccess
    · rw [if_pos hres, hdata, transformed_succ] at hstep
      rw [ih (next pta s q) hrest hstep, if_pos (beq_iff_eq.mpr hres)]
      congr 1
      omega
    · rw [if_neg hres, hdata] at hstep
      rw [ih (next pta s q) hrest hstep, if_neg (by simpa using hres), Nat.add_zero]

theorem moves_of_success {R : SdpCopies.Roles} {E : Platform} {types : UInt32}
    {params : Fin 4 → SdpMemref} {mem : Memory UInt8}
    (h : (SdpCopies.copySecure E R types params mem).res = teeSuccess) :
    SdpCopies.Moves E R types params := by
  by_contra hstops
  exact (SdpCopies.copySecure_stops hstops mem).1 h

theorem copied_slice {R : SdpCopies.Roles} {E : Platform} {types : UInt32}
    {params : Fin 4 → SdpMemref} {mem : Memory UInt8} {len : ℕ}
    (hlen : len ≤ (params R.secIdx).size.toNat)
    (h : (SdpCopies.copySecure E R types params mem).res = teeSuccess) :
    slice (SdpCopies.copySecure E R types params mem).mem (params 1).buffer len =
      slice mem (params 0).buffer len := by
  rw [(SdpCopies.copySecure_moves (moves_of_success h) mem).1]
  apply List.ext_getElem
  · simp
  · intro i hi hi'
    have hi : i < len := by simpa using hi
    rw [getElem_slice, copyIn_inside _ (by rw [length_slice]; omega), getElem_slice, getElem_slice]

theorem replies_append (s : SdpState) (qs qs' : List SdpRequest) :
    replies pta s (qs ++ qs') = replies pta s qs ++ replies pta (runTrace (next pta) s qs) qs' := by
  induction qs generalizing s with
  | nil => rfl
  | cons q qs ih => simp only [List.cons_append, replies, runTrace_cons, ih]

/-- Data that is injected, transformed any number of times and dumped arrives with its bytes negated
once for each transformation that succeeded, wherever each of the commands is done. -/
theorem path_delivers (pta : PseudoTa) (s : SdpState) (i d : SdpRequest) (qs : List SdpRequest)
    (results : List TeeResult) (hi : i.Does .inject) (hd : d.Does .dump)
    (hsec : d.params 0 = i.params 1)
    (hqs : ∀ q ∈ qs, q.Does .transform ∧ q.params 0 = i.params 1 ∧ q.FlushesAfter)
    (hres : replies pta s (i :: qs ++ [d]) = teeSuccess :: results ++ [teeSuccess]) :
    slice (runTrace (next pta) s (i :: qs ++ [d])).mem (d.params 1).buffer
        (i.params 0).size.toNat =
      transformed (results.count teeSuccess)
        (slice s.mem (i.params 0).buffer (i.params 0).size.toNat) := by
  rw [replies_append, replies] at hres
  obtain ⟨hhead, hlast⟩ := List.append_inj' hres rfl
  obtain ⟨hiok, rfl⟩ := List.cons.inj hhead
  have hdok := (List.cons.inj hlast).1
  obtain ⟨hinject, hmem⟩ := success_does hi hiok
  have hlen := UInt32.le_iff_toNat_le.mp (moves_of_success hinject).fits
  have hin : slice (next pta s i).mem (i.params 1).buffer (i.params 0).size.toNat =
      transformed 0 (slice s.mem (i.params 0).buffer (i.params 0).size.toNat) := by
    rw [hmem]
    exact copied_slice hlen hinject
  have hthrough := transforms_slice pta hlen qs (next pta s i) hqs hin
  obtain ⟨hdump, hmem'⟩ := success_does hd hdok
  rw [← hsec] at hlen hthrough
  calc slice (runTrace (next pta) s (i :: qs ++ [d])).mem (d.params 1).buffer _
      = slice (d.outcome .dump (runTrace (next pta) s (i :: qs)).mem).mem (d.params 1).buffer
          (i.params 0).size.toNat := by
        rw [runTrace_append, ← hmem']
        rfl
    _ = slice (runTrace (next pta) s (i :: qs)).mem (d.params 0).buffer
          (i.params 0).size.toNat := copied_slice hlen hdump
    _ = transformed ((replies pta (next pta s i) qs).count teeSuccess)
          (slice s.mem (i.params 0).buffer (i.params 0).size.toNat) := by
        rw [← Nat.zero_add (List.count _ _)]
        exact hthrough

theorem sample_path_delivers :
    slice (runTrace (next samplePta) (initialState sampleMemory) sampleRun).mem 8 2 =
      [255, 254] := by
  have hqs : ∀ q ∈ [lostTransform, sampleRequest .transform .ta 1], q.Does .transform ∧
      q.params 0 = (sampleRequest .inject .ta 1).params 1 ∧ q.FlushesAfter := by
    intro q hq
    have hq : q = lostTransform ∨ q = sampleRequest .transform .ta 1 := by simpa using hq
    rcases hq with rfl | rfl
    · exact ⟨⟨.ta, by decide, by decide⟩, rfl, fun hcache => absurd hcache (by decide)⟩
    · exact ⟨⟨.ta, by decide, by decide⟩, rfl, fun hcache => absurd hcache (by decide)⟩
  exact path_delivers samplePta (initialState sampleMemory) (sampleRequest .inject .ta 1)
    (sampleRequest .dump .direct 2) [lostTransform, sampleRequest .transform .ta 1]
    [teeErrorGeneric, teeSuccess] ⟨.ta, by decide, by decide⟩ ⟨.direct, by decide, by decide⟩
    rfl hqs (by decide)

end SdpForwarding
