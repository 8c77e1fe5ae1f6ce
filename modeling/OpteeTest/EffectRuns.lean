import Mathlib.Data.List.Basic

/-! # Computations with effects

Four kinds of computation, each with the rule that says what a run of it leaves behind: one that
logs its effects, one that may also stop early, one that traces its actions on a state, and a check
that goes through exactly under a condition. -/
namespace EffectRuns

theorem run_bind_eq {σ α β : Type} {x : StateM σ α} {s s' : σ} {a : α} (h : x.run s = (a, s'))
    (f : α → StateM σ β) : (x >>= f).run s = (f a).run s' := by
  rw [StateT.run_bind, h]
  rfl

end EffectRuns

namespace LoggedRun

-- Every effect of a computation appends an entry to a log, and its outcome may depend on the
-- whole log before it. A computation that gets stuck has no outcome.

variable {ε α β : Type}

abbrev Logged (ε : Type) : Type → Type := StateT (List ε) Option

/-- The effect with outcome `outcome log` after `log`, recorded as an entry. -/
def perform (outcome : List ε → α) (entry : α → ε) : Logged ε α := fun log =>
  some (outcome log, log ++ [entry (outcome log)])

/-- Whatever the log before, a computation with result `a` appends entries with `Q a`. -/
def Emits (x : Logged ε α) (Q : α → List ε → Prop) : Prop :=
  ∀ log a log', x log = some (a, log') → ∃ new, log' = log ++ new ∧ Q a new

variable {x : Logged ε α} {Q : α → List ε → Prop} {R : β → List ε → Prop}

theorem emits_mono {Q' : α → List ε → Prop} (hx : Emits x Q) (h : ∀ a new, Q a new → Q' a new) :
    Emits x Q' := by
  intro log a log' hrun
  obtain ⟨new, hlog, hq⟩ := hx log a log' hrun
  exact ⟨new, hlog, h a new hq⟩

theorem emits_pure {a : α} (h : Q a []) : Emits (pure a : Logged ε α) Q := by
  intro log b log' hrun
  have hpair : some (a, log) = some (b, log') := hrun
  simp only [Option.some.injEq, Prod.mk.injEq] at hpair
  obtain ⟨rfl, rfl⟩ := hpair
  exact ⟨[], (List.append_nil _).symm, h⟩

theorem emits_bind {f : α → Logged ε β} (hx : Emits x Q)
    (hf : ∀ a new, Q a new → Emits (f a) fun b more => R b (new ++ more)) :
    Emits (x >>= f) R := by
  intro log b log' hrun
  have hsplit : (x log).bind (fun p => f p.1 p.2) = some (b, log') := hrun
  obtain ⟨⟨a, mid⟩, hmid, hrest⟩ := Option.bind_eq_some_iff.mp hsplit
  obtain ⟨new, rfl, hq⟩ := hx log a mid hmid
  obtain ⟨more, rfl, hr⟩ := hf a new hq _ b log' hrest
  exact ⟨new ++ more, List.append_assoc _ _ _, hr⟩

theorem emits_failure : Emits (failure : Logged ε α) Q :=
  fun _ _ _ hrun => nomatch hrun

theorem emits_perform {outcome : List ε → α} {entry : α → ε} {f : α → Logged ε β}
    (hf : ∀ a, Emits (f a) fun b more => R b (entry a :: more)) :
    Emits (perform outcome entry >>= f) R := by
  intro log b log' hrun
  obtain ⟨more, hlog, hr⟩ := hf (outcome log) _ b log' hrun
  exact ⟨entry (outcome log) :: more, by rw [hlog, List.append_assoc]; rfl, hr⟩

/-- Whatever the log before, the computation ends and appends entries with `Q`. -/
def Yields (x : Logged ε α) (Q : α → List ε → Prop) : Prop :=
  ∀ log, ∃ a new, x log = some (a, log ++ new) ∧ Q a new

theorem yields_pure {a : α} (h : Q a []) : Yields (pure a : Logged ε α) Q := by
  intro log
  exact ⟨a, [], congrArg (fun l => some (a, l)) (List.append_nil log).symm, h⟩

theorem yields_perform {outcome : List ε → α} {entry : α → ε} {f : α → Logged ε β}
    (hf : ∀ log, Yields (f (outcome log)) fun b more => R b (entry (outcome log) :: more)) :
    Yields (perform outcome entry >>= f) R := by
  intro log
  obtain ⟨b, more, hrun, hr⟩ := hf log (log ++ [entry (outcome log)])
  refine ⟨b, entry (outcome log) :: more, ?_, hr⟩
  change f (outcome log) (log ++ [entry (outcome log)]) = _
  rw [hrun, List.append_assoc]
  rfl

end LoggedRun

namespace FallibleRun

-- Every effect appends an entry to a log, and its outcome may depend on the whole log before it. A
-- computation that stops leaves a value behind, and what was to follow it is skipped.

variable {ε ρ α β : Type}

abbrev Fallible (ε ρ : Type) : Type → Type := ExceptT ρ (StateM (List ε))

/-- The effect with outcome `outcome log` after `log`, recorded as an entry. -/
def perform (outcome : List ε → α) (entry : α → ε) : Fallible ε ρ α := fun log =>
  (.ok (outcome log), log ++ [entry (outcome log)])

/-- Whatever the log before, a computation appends entries with `Q a` when it ends with result
`a`, and with `R e` when it stops with `e`. -/
def Appends (x : Fallible ε ρ α) (Q : α → List ε → Prop) (R : ρ → List ε → Prop) : Prop :=
  ∀ log, ∃ new, (∃ a, x log = (.ok a, log ++ new) ∧ Q a new) ∨
    ∃ e, x log = (.error e, log ++ new) ∧ R e new

variable {x : Fallible ε ρ α} {Q : α → List ε → Prop} {R : ρ → List ε → Prop}

theorem appends_pure {a : α} (h : Q a []) : Appends (pure a) Q R := by
  intro log
  refine ⟨[], Or.inl ⟨a, ?_, h⟩⟩
  rw [List.append_nil]
  rfl

theorem appends_throw {e : ρ} (h : R e []) : Appends (throw e) Q R := by
  intro log
  refine ⟨[], Or.inr ⟨e, ?_, h⟩⟩
  rw [List.append_nil]
  rfl

theorem appends_mono {Q' : α → List ε → Prop} {R' : ρ → List ε → Prop} (hx : Appends x Q R)
    (hQ : ∀ a new, Q a new → Q' a new) (hR : ∀ e new, R e new → R' e new) : Appends x Q' R' := by
  intro log
  obtain ⟨new, ⟨a, hrun, hq⟩ | ⟨e, hrun, hr⟩⟩ := hx log
  · exact ⟨new, Or.inl ⟨a, hrun, hQ a new hq⟩⟩
  · exact ⟨new, Or.inr ⟨e, hrun, hR e new hr⟩⟩

theorem bind_ok {f : α → Fallible ε ρ β} {log log' : List ε} {a : α}
    (h : x log = (.ok a, log')) : (x >>= f) log = f a log' := by
  change (ExceptT.bindCont f (x log).1) (x log).2 = _
  rw [h]
  rfl

theorem bind_error {f : α → Fallible ε ρ β} {log log' : List ε} {e : ρ}
    (h : x log = (.error e, log')) : (x >>= f) log = (.error e, log') := by
  change (ExceptT.bindCont f (x log).1) (x log).2 = _
  rw [h]
  rfl

theorem appends_bind {f : α → Fallible ε ρ β} {Q' : β → List ε → Prop}
    {R' : ρ → List ε → Prop} (hx : Appends x Q R) (hR : ∀ e new, R e new → R' e new)
    (hf : ∀ a new, Q a new →
      Appends (f a) (fun b more => Q' b (new ++ more)) fun e more => R' e (new ++ more)) :
    Appends (x >>= f) Q' R' := by
  intro log
  obtain ⟨new, ⟨a, hrun, hq⟩ | ⟨e, hrun, hr⟩⟩ := hx log
  · rw [bind_ok hrun]
    obtain ⟨more, ⟨b, hrest, hb⟩ | ⟨e, hrest, he⟩⟩ := hf a new hq (log ++ new)
    · exact ⟨new ++ more, Or.inl ⟨b, by rw [hrest, List.append_assoc], hb⟩⟩
    · exact ⟨new ++ more, Or.inr ⟨e, by rw [hrest, List.append_assoc], he⟩⟩
  · exact ⟨new, Or.inr ⟨e, bind_error hrun, hR e new hr⟩⟩

theorem appends_perform {outcome : List ε → α} {entry : α → ε} {f : α → Fallible ε ρ β}
    {Q' : β → List ε → Prop} {R' : ρ → List ε → Prop}
    (hf : ∀ log, Appends (f (outcome log)) (fun b more => Q' b (entry (outcome log) :: more))
      fun e more => R' e (entry (outcome log) :: more)) :
    Appends (perform outcome entry >>= f) Q' R' := by
  intro log
  rw [bind_ok (show perform outcome entry log = _ from rfl)]
  obtain ⟨more, ⟨b, hrest, hb⟩ | ⟨e, hrest, he⟩⟩ :=
    hf log (log ++ [entry (outcome log)])
  · exact ⟨entry (outcome log) :: more, Or.inl ⟨b, by rw [hrest, List.append_assoc]; rfl, hb⟩⟩
  · exact ⟨entry (outcome log) :: more, Or.inr ⟨e, by rw [hrest, List.append_assoc]; rfl, he⟩⟩

end FallibleRun

namespace TracedRun

-- An action reads and changes the state and leaves one entry. `Runs ok x s a s'` says all about a
-- run of `x` from `s`: its result, its last state, and what holds of every entry it leaves.

variable {σ ε α β : Type}

abbrev Traced (σ ε : Type) : Type → Type := StateM (σ × List ε)

def act (e : ε) (f : σ → α × σ) : Traced σ ε α := fun s => ((f s.1).1, (f s.1).2, s.2 ++ [e])

def Runs (ok : ε → Prop) (x : Traced σ ε α) (s : σ) (a : α) (s' : σ) : Prop :=
  ∀ log, ∃ new, x (s, log) = (a, s', log ++ new) ∧ ∀ e ∈ new, ok e

variable {ok : ε → Prop} {x : Traced σ ε α} {f : α → Traced σ ε β} {s s' s'' : σ} {a : α} {b : β}

theorem runs_pure (a : α) (s : σ) : Runs ok (pure a : Traced σ ε α) s a s := by
  intro log
  refine ⟨[], ?_, fun e he => absurd he List.not_mem_nil⟩
  rw [List.append_nil]
  rfl

theorem runs_bind (hx : Runs ok x s a s') (hf : Runs ok (f a) s' b s'') :
    Runs ok (x >>= f) s b s'' := by
  intro log
  obtain ⟨new, hrun, hnew⟩ := hx log
  obtain ⟨more, hrest, hmore⟩ := hf (log ++ new)
  refine ⟨new ++ more, ?_, ?_⟩
  · have hsplit : (x >>= f) (s, log) = f (x (s, log)).1 (x (s, log)).2 := rfl
    rw [hsplit, hrun, ← List.append_assoc]
    exact hrest
  · intro e he
    rcases List.mem_append.mp he with he | he
    · exact hnew e he
    · exact hmore e he

theorem runs_act {e : ε} {g : σ → α × σ} (he : ok e) :
    Runs ok (act e g) s (g s).1 (g s).2 := by
  intro log
  refine ⟨[e], rfl, fun e' he' => ?_⟩
  rw [List.mem_singleton.mp he']
  exact he

theorem runs_act_bind {e : ε} {g : σ → α × σ} (he : ok e)
    (hf : Runs ok (f (g s).1) (g s).2 b s'') : Runs ok (act e g >>= f) s b s'' :=
  runs_bind (runs_act he) hf

end TracedRun

namespace DecidedRun

-- A check acts on a state that is only known through a view. It may stop early, and it may run out
-- of steps. `Decides` says that it ends, when it goes through, and what it leaves then.

variable {σ γ ε ρ α β : Type}

abbrev Check (σ ε : Type) : Type → Type := ExceptT ε (StateT σ Option)

def act (g : σ → ρ × σ) : Check σ ε ρ := fun s => some (.ok (g s).1, (g s).2)

def require (p : Prop) [Decidable p] (e : ε) : Check σ ε Unit := if p then pure () else throw e

/-- From every state that looks like `c`, the check ends with `a` in one that looks like `c'` when
`P` holds, and with a refusal of kind `R` when it does not. -/
def Decides (view : σ → γ) (R : ε → Prop) (x : Check σ ε α) (c : γ) (P : Prop) (a : α) (c' : γ) :
    Prop :=
  ∀ s, view s = c → ∃ out s', x s = some (out, s') ∧
    (P ∧ out = .ok a ∧ view s' = c' ∨ ¬ P ∧ ∃ e, out = .error e ∧ R e)

variable {view : σ → γ} {R : ε → Prop} {x : Check σ ε α} {f : α → Check σ ε β} {c c' c'' : γ}
variable {P Q : Prop} {a : α} {b : β}

theorem decides_pure (a : α) : Decides view R (pure a) c True a c :=
  fun s hs => ⟨_, s, rfl, Or.inl ⟨trivial, rfl, hs⟩⟩

theorem decides_iff (h : P ↔ Q) (hx : Decides view R x c P a c') :
    Decides view R x c Q a c' := by
  rwa [← propext h]

theorem bind_run (x : Check σ ε α) (f : α → Check σ ε β) (s : σ) : (x >>= f) s =
    (x s).bind fun out => match out.1 with
      | .ok a => f a out.2
      | .error e => some (.error e, out.2) := by
  cases h : x s with
  | none =>
    change (x s).bind _ = _
    rw [h]
    rfl
  | some out =>
    change (x s).bind _ = _
    rw [h]
    obtain ⟨out, s'⟩ := out
    cases out <;> rfl

theorem decides_bind (hx : Decides view R x c P a c')
    (hf : P → Decides view R (f a) c' Q b c'') : Decides view R (x >>= f) c (P ∧ Q) b c'' := by
  intro s hs
  obtain ⟨out, s', hrun, ⟨hp, rfl, hs'⟩ | ⟨hp, e, rfl, he⟩⟩ := hx s hs
  · obtain ⟨out, t, hrest, hout⟩ := hf hp s' hs'
    refine ⟨out, t, ?_, ?_⟩
    · rw [bind_run, hrun]
      exact hrest
    · exact hout.imp (fun h => ⟨⟨hp, h.1⟩, h.2⟩) fun h => ⟨fun hpq => h.1 hpq.2, h.2⟩
  · refine ⟨.error e, s', ?_, Or.inr ⟨fun hpq => hp hpq.1, e, rfl, he⟩⟩
    rw [bind_run, hrun]
    rfl

theorem decides_stop (hx : Decides view R x c P a c') (hp : ¬ P) (hq : ¬ Q) :
    Decides view R (x >>= f) c Q b c'' :=
  decides_iff (iff_of_false (fun h => hp h.1) hq)
    (decides_bind (Q := True) hx fun h => absurd h hp)

/-- What is known of the answer to an action decides what follows. -/
theorem decides_act {g : σ → ρ × σ} {f : ρ → Check σ ε β} (K : ρ → Prop)
    (hg : ∀ s, view s = c → view (g s).2 = c' ∧ K (g s).1)
    (hf : ∀ r, K r → Decides view R (f r) c' Q b c'') :
    Decides view R (act g >>= f) c Q b c'' := by
  intro s hs
  obtain ⟨hview, hknown⟩ := hg s hs
  obtain ⟨out, s', hrun, hout⟩ := hf _ hknown _ hview
  refine ⟨out, s', ?_, hout⟩
  rw [bind_run]
  exact hrun

theorem decides_require [Decidable P] {e : ε} (he : ¬ P → R e) :
    Decides view R (require P e) c P () c := by
  intro s hs
  unfold require
  split
  · next hp => exact ⟨_, s, rfl, Or.inl ⟨hp, rfl, hs⟩⟩
  · next hp => exact ⟨_, s, rfl, Or.inr ⟨hp, e, rfl, he hp⟩⟩

end DecidedRun
