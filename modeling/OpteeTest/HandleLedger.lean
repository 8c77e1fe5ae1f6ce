import Mathlib.Logic.Function.Basic

/-! # Handles kept in one slot each

A service opens handles for its clients, and each client has one slot for a handle. The ledger is
the record of the service: who opened each handle that is open, and whether a handle was used or
closed that was not. -/
namespace HandleLedger

variable {ω κ : Type*}

structure Ledger (ω κ : Type*) where
  owner : κ → Option ω
  misused : Bool

def Ledger.empty : Ledger ω κ := ⟨fun _ => none, false⟩

def Ledger.use (l : Ledger ω κ) (k : κ) : Ledger ω κ :=
  { l with misused := l.misused || (l.owner k).isNone }

structure Slots (ω κ : Type*) where
  held : ω → Option κ
  ledger : Ledger ω κ

/-- A new handle goes to the slot whatever is in it; giving up closes the handle in the slot. -/
inductive SlotAction (ω κ : Type*) where
  | stay
  | take (o : ω) (k : κ)
  | give (o : ω)

/-- The service opens a handle that is not open. -/
def Allowed (s : Slots ω κ) : SlotAction ω κ → Prop
  | .take _ k => s.ledger.owner k = none
  | _ => True

/-- The new handle does not overwrite another. -/
def Keeps (s : Slots ω κ) : SlotAction ω κ → Prop
  | .take o _ => s.held o = none
  | _ => True

/-- What is in a slot is open for its client, and no handle was used that was not open. -/
structure Backed (s : Slots ω κ) : Prop where
  owned : ∀ o k, s.held o = some k → s.ledger.owner k = some o
  sound : s.ledger.misused = false

def Covered (s : Slots ω κ) : Prop := ∀ o k, s.ledger.owner k = some o → s.held o = some k

def Lost (s : Slots ω κ) : Prop := ∃ o k, s.ledger.owner k = some o ∧ s.held o ≠ some k

variable {s : Slots ω κ} {l : Ledger ω κ} {o : ω} {k : κ}

theorem held_ne {o' : ω} {k' : κ} (hb : Backed s) (ho : s.held o = some k)
    (ho' : s.held o' = some k') (hne : o' ≠ o) : k' ≠ k := by
  rintro rfl
  have hown := hb.owned o' k' ho'
  rw [hb.owned o k' ho] at hown
  exact hne (Option.some.inj hown).symm

theorem use_open (h : l.owner k = some o) : l.use k = l := by
  simp [Ledger.use, h]

variable [DecidableEq κ]

def Ledger.acquire (l : Ledger ω κ) (o : ω) (k : κ) : Ledger ω κ :=
  { l with owner := Function.update l.owner k (some o) }

def Ledger.release (l : Ledger ω κ) (k : κ) : Ledger ω κ :=
  { owner := Function.update l.owner k none, misused := l.misused || (l.owner k).isNone }

@[simp] theorem acquire_owner : (l.acquire o k).owner = Function.update l.owner k (some o) := rfl

@[simp] theorem release_owner : (l.release k).owner = Function.update l.owner k none := rfl

theorem release_misused (h : l.owner k = some o) : (l.release k).misused = l.misused := by
  simp [Ledger.release, h]

@[simp] theorem acquire_use : (l.acquire o k).use k = l.acquire o k := by
  simp [Ledger.use, Ledger.acquire]

/-- A handle that was opened and closed again leaves the ledger as it was. -/
theorem release_acquire (h : l.owner k = none) : (l.acquire o k).release k = l := by
  have howner : Function.update (Function.update l.owner k (some o)) k none = l.owner := by
    rw [Function.update_idem, ← h, Function.update_eq_self]
  simp [Ledger.release, Ledger.acquire, howner]

theorem release_acquire_acquire {o' : ω} {k' : κ} (h : l.owner k = none) (hne : k' ≠ k) :
    ((l.acquire o k).acquire o' k').release k = l.acquire o' k' := by
  have howner : Function.update (Function.update (Function.update l.owner k (some o)) k'
      (some o')) k none = Function.update l.owner k' (some o') := by
    rw [Function.update_comm hne.symm, Function.update_idem, Function.update_comm hne, ← h,
      Function.update_eq_self]
  have hopen : Function.update (Function.update l.owner k (some o)) k' (some o') k = some o := by
    rw [Function.update_of_ne hne.symm, Function.update_self]
  simp only [Ledger.release, Ledger.acquire, howner, hopen, Option.isNone_some, Bool.or_false]

variable [DecidableEq ω]

def act (s : Slots ω κ) : SlotAction ω κ → Slots ω κ
  | .stay => s
  | .take o k => ⟨Function.update s.held o (some k), s.ledger.acquire o k⟩
  | .give o => match s.held o with
    | none => s
    | some k => ⟨Function.update s.held o none, s.ledger.release k⟩

theorem act_give_empty (h : s.held o = none) : act s (.give o) = s := by
  simp only [act, h]

theorem act_give_held (h : s.held o = some k) :
    act s (.give o) = ⟨Function.update s.held o none, s.ledger.release k⟩ := by
  simp only [act, h]

theorem backed_act (hb : Backed s) (a : SlotAction ω κ) (ha : Allowed s a) : Backed (act s a) := by
  cases a with
  | stay => exact hb
  | take o k =>
    refine ⟨fun o' k' hheld => ?_, hb.sound⟩
    rcases eq_or_ne o' o with rfl | hne
    · simp only [act, Function.update_self, Option.some.injEq] at hheld
      simp [act, hheld]
    · simp only [act, Function.update_of_ne hne] at hheld
      have hopen := hb.owned o' k' hheld
      have hk : k' ≠ k := by
        rintro rfl
        rw [ha] at hopen
        cases hopen
      simpa [act, Function.update_of_ne hk] using hopen
  | give o =>
    cases hheld : s.held o with
    | none => rwa [act_give_empty hheld]
    | some k =>
      rw [act_give_held hheld]
      refine ⟨fun o' k' hheld' => ?_, ?_⟩
      · rcases eq_or_ne o' o with rfl | hne
        · simp at hheld'
        · simp only [Function.update_of_ne hne] at hheld'
          rw [release_owner, Function.update_of_ne (held_ne hb hheld hheld' hne)]
          exact hb.owned o' k' hheld'
      · exact (release_misused (hb.owned o k hheld)).trans hb.sound

theorem covered_act (hc : Covered s) (a : SlotAction ω κ) (ha : Keeps s a) : Covered (act s a) := by
  cases a with
  | stay => exact hc
  | take o k =>
    intro o' k' hopen
    rcases eq_or_ne k' k with rfl | hne
    · simp only [act, acquire_owner, Function.update_self, Option.some.injEq] at hopen
      simp [act, hopen]
    · simp only [act, acquire_owner, Function.update_of_ne hne] at hopen
      have hheld := hc o' k' hopen
      have ho : o' ≠ o := by
        rintro rfl
        rw [ha] at hheld
        cases hheld
      simpa [act, Function.update_of_ne ho] using hheld
  | give o =>
    cases hheld : s.held o with
    | none => rwa [act_give_empty hheld]
    | some k =>
      rw [act_give_held hheld]
      intro o' k' hopen
      rcases eq_or_ne k' k with rfl | hne
      · simp at hopen
      · simp only [release_owner, Function.update_of_ne hne] at hopen
        have hheld' := hc o' k' hopen
        have ho : o' ≠ o := by
          rintro rfl
          exact hne (Option.some.inj (hheld'.symm.trans hheld))
        simpa [Function.update_of_ne ho] using hheld'

theorem lost_act (hb : Backed s) (hl : Lost s) (a : SlotAction ω κ) (ha : Allowed s a) :
    Lost (act s a) := by
  obtain ⟨o, k, hopen, hheld⟩ := hl
  cases a with
  | stay => exact ⟨o, k, hopen, hheld⟩
  | take o' k' =>
    have hk : k ≠ k' := by
      rintro rfl
      rw [ha] at hopen
      cases hopen
    refine ⟨o, k, by simpa [act, Function.update_of_ne hk] using hopen, ?_⟩
    rcases eq_or_ne o o' with rfl | hne
    · simpa [act] using hk.symm
    · simpa [act, Function.update_of_ne hne] using hheld
  | give o' =>
    cases hheld' : s.held o' with
    | none =>
      rw [act_give_empty hheld']
      exact ⟨o, k, hopen, hheld⟩
    | some k' =>
      rw [act_give_held hheld']
      have hk : k ≠ k' := by
        rintro rfl
        have hsame := hopen.symm.trans (hb.owned o' k hheld')
        rw [Option.some.inj hsame] at hheld
        exact hheld hheld'
      refine ⟨o, k, by simpa [Function.update_of_ne hk] using hopen, ?_⟩
      rcases eq_or_ne o o' with rfl | hne
      · simp
      · simpa [Function.update_of_ne hne] using hheld

theorem lost_overwritten (hb : Backed s) (a : SlotAction ω κ) (ha : Allowed s a)
    (hover : ¬ Keeps s a) : Lost (act s a) := by
  cases a with
  | stay => exact absurd trivial hover
  | give o => exact absurd trivial hover
  | take o k =>
    obtain ⟨k', hk'⟩ := Option.ne_none_iff_exists'.mp hover
    have hopen := hb.owned o k' hk'
    have hne : k' ≠ k := by
      rintro rfl
      rw [ha] at hopen
      cases hopen
    exact ⟨o, k', by simpa [act, Function.update_of_ne hne] using hopen,
      by simpa [act] using hne.symm⟩

end HandleLedger
