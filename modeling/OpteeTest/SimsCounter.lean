import OpteeTest.SimsSessions

/-! # The counters of the sims TA

A session starts with the number of sessions before it in the instance, and adds one for every
session that it opens to another TA. Two sessions can therefore show the same counter. -/
namespace SimsCounter

open TeeApi GuardedRun SimsSessions

def simsGetCounter (ctx : SimsSession) (paramTypes : UInt32) (params : TeeParams) :
    TeeResult × TeeParams :=
  if paramTypes ≠ teeParamTypes .valueOutput .none .none .none then (teeErrorBadParameters, params)
  else (teeSuccess, Function.update params 0
    { params 0 with value := { (params 0).value with a := ctx.counter } })

def opensFor (session : ℕ) : SimsEvent → Bool
  | .openTaSession id r paramTypes memref | .entryPanic id r paramTypes memref =>
    decide (id = session ∧ Opens r paramTypes memref)
  | .openSession _ | .closeSession _ => false

variable {s : SimsState} {es : List SimsEvent} {session : ℕ} {ctx : SimsSession}

structure Counts (es : List SimsEvent) (s : SimsState) : Prop where
  numbered : Numbered s
  begun : s.first ≤ s.opened
  next : s.counter = UInt32.ofNat (s.opened - s.first)
  unborn : ∀ session, s.opened ≤ session → es.countP (opensFor session) = 0
  live : ∀ session ctx, s.contexts session = some ctx → s.first ≤ session ∧
    ctx.counter = UInt32.ofNat (session - s.first + es.countP (opensFor session))

theorem initial_counts (keepAlive : Bool) : Counts [] (initialState keepAlive) where
  numbered := fun _ _ => rfl
  begun := Nat.le_refl 0
  next := rfl
  unborn := fun _ _ => rfl
  live := by
    intro session ctx h
    cases h

theorem ofNat_succ (n : ℕ) : UInt32.ofNat n + 1 = UInt32.ofNat (n + 1) :=
  (UInt32.ofNat_add n 1).symm

theorem countP_snoc (e : SimsEvent) (session : ℕ) :
    (es ++ [e]).countP (opensFor session) =
      es.countP (opensFor session) + if opensFor session e then 1 else 0 := by
  rw [List.countP_append, List.countP_singleton]

/-- An event that opens nothing, for the sessions and the number of the next one as they are. -/
theorem counts_idle {s' : SimsState} {e : SimsEvent} (h : Counts es s)
    (hidle : ∀ session, opensFor session e = false) (hcounter : s'.counter = s.counter)
    (hfirst : s'.first = s.first) (hopened : s'.opened = s.opened)
    (hcontexts : ∀ session ctx, s'.contexts session = some ctx →
      s.contexts session = some ctx) : Counts (es ++ [e]) s' := by
  have hcount (session : ℕ) :
      (es ++ [e]).countP (opensFor session) = es.countP (opensFor session) := by
    rw [countP_snoc, hidle session, if_neg Bool.false_ne_true, Nat.add_zero]
  constructor
  · intro session hs
    rw [hopened] at hs
    cases hctx : s'.contexts session with
    | none => rfl
    | some ctx =>
      have hlive := hcontexts session ctx hctx
      rw [h.numbered session hs] at hlive
      cases hlive
  · rw [hfirst, hopened]
    exact h.begun
  · rw [hcounter, hfirst, hopened, h.next]
  · intro session hs
    rw [hcount]
    exact h.unborn session (hopened ▸ hs)
  · intro session ctx hctx
    rw [hcount, hfirst]
    exact h.live session ctx (hcontexts session ctx hctx)

/-- An open on behalf of a session adds one to its counter, and to no other. -/
theorem counts_opened {s' : SimsState} {e : SimsEvent} (sess : ℕ) (h : Counts es s)
    (hctx : s.contexts session = some ctx)
    (hopens : ∀ id, opensFor id e = decide (id = session)) (hcounter : s'.counter = s.counter)
    (hfirst : s'.first = s.first) (hopened : s'.opened = s.opened)
    (hcontexts : s'.contexts =
      Function.update s.contexts session (some ⟨sess, ctx.counter + 1⟩)) :
    Counts (es ++ [e]) s' := by
  have hborn : session < s.opened := by
    by_contra hlt
    rw [h.numbered session (Nat.le_of_not_lt hlt)] at hctx
    cases hctx
  have hother {id : ℕ} (hne : id ≠ session) :
      (es ++ [e]).countP (opensFor id) = es.countP (opensFor id) := by
    rw [countP_snoc, hopens, decide_eq_false hne, if_neg Bool.false_ne_true, Nat.add_zero]
  constructor
  · intro id hid
    have hne : id ≠ session := by omega
    rw [hcontexts, Function.update_of_ne hne]
    exact h.numbered id (hopened ▸ hid)
  · rw [hfirst, hopened]
    exact h.begun
  · rw [hcounter, hfirst, hopened, h.next]
  · intro id hid
    have hne : id ≠ session := by omega
    rw [hother hne]
    exact h.unborn id (hopened ▸ hid)
  · intro id ctx' hid
    rw [hcontexts] at hid
    rw [hfirst]
    rcases eq_or_ne id session with rfl | hne
    · rw [Function.update_self] at hid
      cases hid
      obtain ⟨hle, hlive⟩ := h.live id ctx hctx
      rw [countP_snoc, hopens, decide_eq_true rfl, if_pos rfl, ← Nat.add_assoc, ← ofNat_succ,
        ← hlive]
      exact ⟨hle, rfl⟩
    · rw [Function.update_of_ne hne] at hid
      rw [hother hne]
      exact h.live id ctx' hid

/-- With its last session the instance ends, and the counting begins again. -/
theorem counts_endInstance (h : Counts es s) : Counts es (endInstance s) := by
  unfold endInstance
  split
  next hlast =>
    have hnone (id : ℕ) : s.contexts id = none := by
      rcases Nat.lt_or_ge id s.opened with hlt | hge
      · exact hlast.2 id hlt
      · exact h.numbered id hge
    constructor
    · exact h.numbered
    · exact Nat.le_refl s.opened
    · exact congrArg UInt32.ofNat (Nat.sub_self s.opened).symm
    · exact h.unborn
    · intro id ctx hid
      have hid : s.contexts id = some ctx := hid
      rw [hnone id] at hid
      cases hid
  next => exact h

variable {command : SimsSession → Option SimsOutcome}

theorem commandStep_counter (s : SimsState) (session : ℕ)
    (command : SimsSession → Option SimsOutcome) :
    (commandStep s session command).counter = s.counter ∧
      (commandStep s session command).first = s.first ∧
      (commandStep s session command).opened = s.opened := by
  unfold commandStep
  split
  · exact ⟨rfl, rfl, rfl⟩
  · split <;> exact ⟨rfl, rfl, rfl⟩

/-- Both commands that open do so exactly on the requests that get through. -/
theorem command_counts {e : SimsEvent} {r : SimsReplies} {paramTypes : UInt32}
    {memref : SimsMemref} (h : Counts es s) (hlive : (s.contexts session).isSome)
    (he : ∀ id, opensFor id e = decide (session = id ∧ Opens r paramTypes memref))
    (hopens : Opens r paramTypes memref → ∀ ctx, ∃ o, command ctx = some o ∧
      o.ctx = ⟨r.sess, ctx.counter + 1⟩)
    (hfails : ¬ Opens r paramTypes memref → ∀ ctx o, command ctx = some o → Idle ctx o) :
    Counts (es ++ [e]) (commandStep s session command) := by
  obtain ⟨hcounter, hfirst, hopened⟩ := commandStep_counter s session command
  by_cases ho : Opens r paramTypes memref
  · obtain ⟨ctx, hctx⟩ := Option.isSome_iff_exists.mp hlive
    obtain ⟨o, hrun, hout⟩ := hopens ho ctx
    refine counts_opened r.sess h hctx (fun id => ?_) hcounter hfirst hopened ?_
    · rw [he]
      exact decide_eq_decide.mpr ⟨fun hid => hid.1.symm, fun hid => ⟨hid.symm, ho⟩⟩
    · rw [commandStep_some hctx hrun, hout]
  · have hnot (id : ℕ) : opensFor id e = false := by
      rw [he]
      exact decide_eq_false fun hid => ho hid.2
    refine counts_idle h hnot hcounter hfirst hopened fun id ctx hid => ?_
    rw [(commandStep_idle (hfails ho)).1] at hid
    exact hid

theorem openSession_counts (h : Counts es s) (granted : Bool) :
    Counts (es ++ [.openSession granted]) (simsStep s (.openSession granted)) := by
  cases granted with
  | false => exact counts_idle h (fun _ => rfl) rfl rfl rfl fun _ _ hid => hid
  | true =>
    have hcount (id : ℕ) :
        (es ++ [SimsEvent.openSession true]).countP (opensFor id) = es.countP (opensFor id) := by
      rw [countP_snoc]
      rfl
    constructor
    · exact numbered_step h.numbered (.openSession true)
    · exact h.begun.trans (Nat.le_succ s.opened)
    · change s.counter + 1 = UInt32.ofNat (s.opened + 1 - s.first)
      rw [h.next, ofNat_succ, Nat.succ_sub h.begun]
    · intro id hid
      have hid : s.opened + 1 ≤ id := hid
      rw [hcount]
      exact h.unborn id (by omega)
    · intro id ctx hid
      have hid : Function.update s.contexts s.opened (some ⟨teeHandleNull, s.counter⟩) id =
        some ctx := hid
      rw [hcount]
      rcases eq_or_ne id s.opened with rfl | hne
      · rw [Function.update_self] at hid
        cases hid
        rw [h.unborn _ (Nat.le_refl _), Nat.add_zero]
        exact ⟨h.begun, h.next⟩
      · rw [Function.update_of_ne hne] at hid
        exact h.live id ctx hid

theorem closeSession_counts (h : Counts es s) {ctx : SimsSession}
    (hctx : s.contexts session = some ctx) :
    Counts (es ++ [.closeSession session]) (simsStep s (.closeSession session)) := by
  rw [simsStep_close hctx]
  refine counts_endInstance (counts_idle h (fun _ => rfl) rfl rfl rfl fun id ctx' hid => ?_)
  dsimp only at hid
  rcases eq_or_ne id session with rfl | hne
  · rw [Function.update_self] at hid
    cases hid
  · rwa [Function.update_of_ne hne] at hid

theorem step_counts (h : Counts es s) (e : SimsEvent) (he : Delivered s e) :
    Counts (es ++ [e]) (simsStep s e) := by
  cases e with
  | openSession granted => exact openSession_counts h granted
  | openTaSession session r paramTypes memref =>
    refine command_counts h he.2.1 (fun _ => rfl) (fun ho ctx => ?_)
      fun ho ctx o hrun => (openTaSession_fails ho hrun).2
    obtain ⟨uuid, hrun⟩ := openTaSession_opens ho ctx
    exact ⟨_, hrun, rfl⟩
  | entryPanic session r paramTypes memref =>
    refine command_counts h he.2.1 (fun _ => rfl) (fun ho ctx => ?_)
      fun ho ctx o hrun => entryPanic_fails ho hrun
    obtain ⟨uuid, hrun⟩ := entryPanic_opens ho ctx
    exact ⟨_, hrun, rfl⟩
  | closeSession session =>
    obtain ⟨ctx, hctx⟩ := Option.isSome_iff_exists.mp he.2
    exact closeSession_counts h hctx

theorem run_counts (h : Counts es s) {fs : List SimsEvent}
    (hv : ValidTrace simsStep Delivered s fs) : Counts (es ++ fs) (runTrace simsStep s fs) := by
  induction fs generalizing es s with
  | nil => rwa [List.append_nil]
  | cons e fs ih =>
    rw [List.append_cons]
    exact ih (step_counts h e hv.1) hv.2

theorem first_keepAlive {fs : List SimsEvent} (hkeep : s.keepAlive = true) :
    (runTrace simsStep s fs).first = s.first := by
  induction fs generalizing s with
  | nil => rfl
  | cons e fs ih =>
    have hstep : (simsStep s e).keepAlive = true ∧ (simsStep s e).first = s.first := by
      have hcommand (session : ℕ) (command : SimsSession → Option SimsOutcome) :
          (commandStep s session command).keepAlive = true ∧
            (commandStep s session command).first = s.first := by
        unfold commandStep
        split
        · exact ⟨hkeep, rfl⟩
        · split <;> exact ⟨hkeep, rfl⟩
      cases e with
      | openSession granted => cases granted <;> exact ⟨hkeep, rfl⟩
      | openTaSession session r paramTypes memref => exact hcommand session _
      | entryPanic session r paramTypes memref => exact hcommand session _
      | closeSession session =>
        cases hctx : s.contexts session with
        | none =>
          have hsame : simsStep s (.closeSession session) = s := by simp only [simsStep, hctx]
          rw [hsame]
          exact ⟨hkeep, rfl⟩
        | some ctx =>
          rw [simsStep_close hctx, endInstance, if_neg]
          · exact ⟨hkeep, rfl⟩
          · rintro ⟨hno, -⟩
            rw [hkeep] at hno
            cases hno
    exact (ih hstep.1).trans hstep.2

/-- A live session that asks for its counter is told, modulo 2^32, how many sessions were opened
before it in its instance and how many it has opened itself. -/
theorem counter_told (keepAlive : Bool) (es : List SimsEvent)
    (hv : ValidTrace simsStep Delivered (initialState keepAlive) es) (session : ℕ)
    (ctx : SimsSession)
    (hctx : (runTrace simsStep (initialState keepAlive) es).contexts session = some ctx)
    (params : TeeParams) :
    let first := (runTrace simsStep (initialState keepAlive) es).first
    first ≤ session ∧ (keepAlive = true → first = 0) ∧
    simsGetCounter ctx (teeParamTypes .valueOutput .none .none .none) params =
      (teeSuccess, Function.update params 0 { params 0 with value := { (params 0).value with
        a := UInt32.ofNat (session - first + es.countP (opensFor session)) } }) := by
  have hcounts := run_counts (initial_counts keepAlive) hv
  rw [List.nil_append] at hcounts
  obtain ⟨hle, hlive⟩ := hcounts.live session ctx hctx
  refine ⟨hle, fun hkeep => first_keepAlive (s := initialState keepAlive) hkeep, ?_⟩
  rw [simsGetCounter, if_neg (not_not.mpr rfl), hlive]

def noParams : TeeParams := fun _ => ⟨⟨0, 0⟩, ⟨fun _ => 0, 0⟩⟩

def told (counter : UInt32) : TeeResult × TeeParams :=
  (teeSuccess, Function.update noParams 0 { noParams 0 with value := ⟨counter, 0⟩ })

/-- The first session opens one to another TA and is then told what the second one is told; after
both the counting begins again. -/
theorem counter_shared :
    simsGetCounter ⟨1, 1⟩ (teeParamTypes .valueOutput .none .none .none) noParams = told 1 ∧
    simsGetCounter ⟨0, 1⟩ (teeParamTypes .valueOutput .none .none .none) noParams = told 1 ∧
    simsGetCounter ⟨0, 0⟩ (teeParamTypes .valueOutput .none .none .none) noParams = told 0 := by
  have hv : ValidTrace simsStep Delivered (initialState false)
      [.openSession true, .openSession true, openRequest 1] :=
    ⟨rfl, rfl, ⟨rfl, rfl, fun _ => ⟨by decide, rfl⟩⟩, trivial⟩
  have hv' : ValidTrace simsStep Delivered (initialState false)
      [.openSession true, .openSession true, openRequest 1, .closeSession 1, .closeSession 0,
        .openSession true] :=
    ⟨rfl, rfl, ⟨rfl, rfl, fun _ => ⟨by decide, rfl⟩⟩, ⟨rfl, rfl⟩, ⟨rfl, rfl⟩, rfl, trivial⟩
  exact ⟨(counter_told false _ hv 0 ⟨1, 1⟩ rfl noParams).2.2,
    (counter_told false _ hv 1 ⟨0, 1⟩ rfl noParams).2.2,
    (counter_told false _ hv' 2 ⟨0, 0⟩ rfl noParams).2.2⟩

end SimsCounter
