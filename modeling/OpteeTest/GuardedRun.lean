import Mathlib.Logic.Basic

/-! # Runs of a guarded transition function

A run is valid when each event satisfies its guard in the state in which it is taken. -/
namespace GuardedRun

variable {σ ε : Type*}

def runTrace (step : σ → ε → σ) (s : σ) : List ε → σ
  | [] => s
  | e :: es => runTrace step (step s e) es

def ValidTrace (step : σ → ε → σ) (guard : σ → ε → Prop) (s : σ) : List ε → Prop
  | [] => True
  | e :: es => guard s e ∧ ValidTrace step guard (step s e) es

instance decidableValidTrace (step : σ → ε → σ) (guard : σ → ε → Prop)
    [∀ s e, Decidable (guard s e)] : (s : σ) → (es : List ε) →
    Decidable (ValidTrace step guard s es)
  | _, [] => isTrue trivial
  | s, e :: es =>
    have := decidableValidTrace step guard (step s e) es
    inferInstanceAs (Decidable (guard s e ∧ ValidTrace step guard (step s e) es))

variable {step : σ → ε → σ} {guard : σ → ε → Prop}

@[simp] theorem runTrace_nil (s : σ) : runTrace step s [] = s := rfl

@[simp] theorem runTrace_cons (s : σ) (e : ε) (es : List ε) :
    runTrace step s (e :: es) = runTrace step (step s e) es := rfl

/-- An invariant kept by every guarded step holds after every valid run. -/
theorem invariant_run {Inv : σ → Prop}
    (hstep : ∀ s e, Inv s → guard s e → Inv (step s e)) {s : σ} {es : List ε} (hs : Inv s)
    (hv : ValidTrace step guard s es) : Inv (runTrace step s es) := by
  induction es generalizing s with
  | nil => exact hs
  | cons e es ih => exact ih (hstep s e hs hv.1) hv.2

/-- Two guards that agree where the invariant holds have the same valid runs. -/
theorem validTrace_congr {Inv : σ → Prop} {guard' : σ → ε → Prop}
    (hiff : ∀ s e, Inv s → (guard s e ↔ guard' s e))
    (hstep : ∀ s e, Inv s → guard s e → Inv (step s e)) {s : σ} (hs : Inv s) (es : List ε) :
    ValidTrace step guard s es ↔ ValidTrace step guard' s es := by
  induction es generalizing s with
  | nil => exact Iff.rfl
  | cons e es ih =>
    constructor
    · rintro ⟨he, hes⟩
      exact ⟨(hiff s e hs).mp he, (ih (hstep s e hs he)).mp hes⟩
    · rintro ⟨he, hes⟩
      have he' := (hiff s e hs).mpr he
      exact ⟨he', (ih (hstep s e hs he')).mpr hes⟩

theorem invariant_runTrace {Inv : σ → Prop} (hstep : ∀ s e, Inv s → Inv (step s e)) {s : σ}
    (hs : Inv s) (es : List ε) : Inv (runTrace step s es) := by
  induction es generalizing s with
  | nil => exact hs
  | cons e es ih => exact ih (hstep s e hs)

theorem validTrace_append (s : σ) (es fs : List ε) :
    ValidTrace step guard s (es ++ fs) ↔
      ValidTrace step guard s es ∧ ValidTrace step guard (runTrace step s es) fs := by
  induction es generalizing s with
  | nil => simp [ValidTrace]
  | cons e es ih => simp only [List.cons_append, ValidTrace, ih, runTrace_cons, and_assoc]

theorem validTrace_and {guard' : σ → ε → Prop} {s : σ} {es : List ε}
    (h : ValidTrace step guard s es) (h' : ValidTrace step guard' s es) :
    ValidTrace step (fun s e => guard s e ∧ guard' s e) s es := by
  induction es generalizing s with
  | nil => trivial
  | cons e es ih => exact ⟨⟨h.1, h'.1⟩, ih h.2 h'.2⟩

/-- What the first step against a second guard brings about, and the steps keep, is there at the
end of every run with such a step. -/
theorem violation_run {Inv Bad : σ → Prop} {guard' : σ → ε → Prop}
    (hstep : ∀ s e, Inv s → guard s e → Inv (step s e))
    (hbad : ∀ s e, Inv s → guard s e → ¬ guard' s e → Bad (step s e))
    (hkeep : ∀ s e, Inv s → Bad s → guard s e → Bad (step s e)) {s : σ} {es : List ε}
    (hs : Inv s) (hv : ValidTrace step guard s es) (hv' : ¬ ValidTrace step guard' s es) :
    Bad (runTrace step s es) := by
  induction es generalizing s with
  | nil => exact absurd trivial hv'
  | cons e es ih =>
    by_cases he : guard' s e
    · exact ih (hstep s e hs hv.1) hv.2 fun hes => hv' ⟨he, hes⟩
    · have hboth : ∀ s e, Inv s ∧ Bad s → guard s e → Inv (step s e) ∧ Bad (step s e) :=
        fun s e h hg => ⟨hstep s e h.1 hg, hkeep s e h.1 h.2 hg⟩
      exact (invariant_run hboth ⟨hstep s e hs hv.1, hbad s e hs hv.1 he⟩ hv.2).2

/-- The part of the state that only some events act on runs through those events. -/
theorem runTrace_project {τ δ : Type*} (part : σ → τ) (own : ε → Option δ) (act : τ → δ → τ)
    (hstep : ∀ s e, part (step s e) = (own e).elim (part s) (act (part s))) (s : σ)
    (es : List ε) : part (runTrace step s es) = runTrace act (part s) (es.filterMap own) := by
  induction es generalizing s with
  | nil => rfl
  | cons e es ih =>
    rw [runTrace_cons, ih, hstep, List.filterMap_cons]
    cases own e <;> rfl

theorem runTrace_append (s : σ) (es fs : List ε) :
    runTrace step s (es ++ fs) = runTrace step (runTrace step s es) fs := by
  induction es generalizing s with
  | nil => rfl
  | cons e es ih => exact ih (step s e)

/-- A register that every write replaces holds the last value written. -/
theorem runTrace_replace {τ : Type*} (x : τ) (xs : List τ) :
    runTrace (fun _ y => y) x xs = xs.getLast?.getD x := by
  induction xs generalizing x with
  | nil => rfl
  | cons y ys ih => rw [runTrace_cons, ih, List.getLast?_cons, Option.getD_some]

variable {τ ω : Type*}

def runOutputs (step : σ → ε → ω × σ) (s : σ) : List ε → List ω
  | [] => []
  | e :: es => (step s e).1 :: runOutputs step (step s e).2 es

/-- A machine whose guarded steps another one simulates puts out what that one does, and ends in a
related state. -/
theorem runOutputs_refines {R : σ → τ → Prop} {step : σ → ε → ω × σ} {step' : τ → ε → ω × τ}
    {guard : τ → ε → Prop} (hstep : ∀ s t e, R s t → guard t e →
      (step s e).1 = (step' t e).1 ∧ R (step s e).2 (step' t e).2) {s : σ} {t : τ} {es : List ε}
    (h : R s t) (hv : ValidTrace (fun t e => (step' t e).2) guard t es) :
    runOutputs step s es = runOutputs step' t es ∧
      R (runTrace (fun s e => (step s e).2) s es) (runTrace (fun t e => (step' t e).2) t es) := by
  induction es generalizing s t with
  | nil => exact ⟨rfl, h⟩
  | cons e es ih =>
    obtain ⟨hout, hnext⟩ := hstep s t e h hv.1
    obtain ⟨houts, hend⟩ := ih hnext hv.2
    exact ⟨by rw [runOutputs, runOutputs, hout, houts], hend⟩

end GuardedRun
