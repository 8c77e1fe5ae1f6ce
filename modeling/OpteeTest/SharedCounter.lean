import OpteeTest.GuardedRun
import Mathlib.Algebra.Group.Nat.Defs
import Mathlib.Data.Finset.Card
import Mathlib.Data.Fintype.Card
import Mathlib.Data.Fintype.Defs

/-! # Calls that share a counter

A call is a tree of steps: operations of its own, whose replies the environment picks, and atomic
increments and decrements of one 32-bit counter. Any number of calls run in any order of steps. -/
namespace SharedCounter

open GuardedRun

variable {ι : Type} {Reply : ι → Type} {α : Type} {n : ℕ}

inductive Task (Reply : ι → Type) (α : Type) where
  | ret (a : α)
  | call (c : ι) (k : Reply c → Task Reply α)
  | inc (k : UInt32 → Task Reply α)
  | dec (k : UInt32 → Task Reply α)

/-- A call, how often it changed the counter, and what its last increment gave it. -/
structure CallState (Reply : ι → Type) (α : Type) where
  task : Task Reply α
  incs : ℕ
  decs : ℕ
  seen : Option UInt32

structure System (Reply : ι → Type) (α : Type) (n : ℕ) where
  count : UInt32
  calls : Fin n → CallState Reply α

/-- The next step of one call, with a reply to whatever it asks. -/
structure Move (Reply : ι → Type) (n : ℕ) where
  who : Fin n
  replies : ∀ c, Reply c

def start (initial : UInt32) (tasks : Fin n → Task Reply α) : System Reply α n :=
  ⟨initial, fun i => ⟨tasks i, 0, 0, none⟩⟩

def advance (count : UInt32) (replies : ∀ c, Reply c) (c : CallState Reply α) :
    UInt32 × CallState Reply α :=
  match c.task with
  | .ret _ => (count, c)
  | .call x k => (count, { c with task := k (replies x) })
  | .inc k => (count + 1, ⟨k (count + 1), c.incs + 1, c.decs, some (count + 1)⟩)
  | .dec k => (count - 1, { c with task := k (count - 1), decs := c.decs + 1 })

def step (s : System Reply α n) (m : Move Reply n) : System Reply α n :=
  let out := advance s.count m.replies (s.calls m.who)
  ⟨out.1, Function.update s.calls m.who out.2⟩

def Returned (c : CallState Reply α) : Prop := ∃ a, c.task = .ret a

/-- The calls that have incremented and not yet decremented. -/
def activeCalls (s : System Reply α n) : Finset (Fin n) :=
  Finset.univ.filter fun i => (s.calls i).decs < (s.calls i).incs

def active (s : System Reply α n) : ℕ := (activeCalls s).card

def Task.After (good : α → Prop) : Task Reply α → Prop
  | .ret a => good a
  | .call _ k => ∀ r, (k r).After good
  | .inc _ | .dec _ => False

def Task.Inside (good : α → Prop) : Task Reply α → Prop
  | .call _ k => ∀ r, (k r).Inside good
  | .dec k => ∀ v, (k v).After good
  | .ret _ | .inc _ => False

/-- The call increments once and then decrements once when it is accepted, and else does neither. -/
def Task.Before (accepted : Prop) (good : UInt32 → α → Prop) : Task Reply α → Prop
  | .ret _ => ¬ accepted
  | .call _ k => ∀ r, (k r).Before accepted good
  | .inc k => accepted ∧ ∀ v, (k v).Inside (good v)
  | .dec _ => False

inductive Stage (accepted : Prop) (good : UInt32 → α → Prop) : CallState Reply α → Prop where
  | before {t} (h : t.Before accepted good) : Stage accepted good ⟨t, 0, 0, none⟩
  | inside {t v} (ha : accepted) (h : t.Inside (good v)) : Stage accepted good ⟨t, 1, 0, some v⟩
  | after {t v} (ha : accepted) (h : t.After (good v)) : Stage accepted good ⟨t, 1, 1, some v⟩

inductive Effect (count : UInt32) (c c' : CallState Reply α) : UInt32 → Prop where
  | none (hi : c'.incs = c.incs) (hd : c'.decs = c.decs) : Effect count c c' count
  | inc (hc : c.incs = c.decs) (hi : c'.incs = c.incs + 1) (hd : c'.decs = c.decs)
      (hs : c'.seen = some (count + 1)) : Effect count c c' (count + 1)
  | dec (hc : c.incs = c.decs + 1) (hi : c'.incs = c.incs) (hd : c'.decs = c.decs + 1) :
      Effect count c c' (count - 1)

variable {accepted : Prop} {good : UInt32 → α → Prop} {c : CallState Reply α}

theorem advance_stage (h : Stage accepted good c) (count : UInt32) (replies : ∀ c, Reply c) :
    Stage accepted good (advance count replies c).2 ∧
      Effect count c (advance count replies c).2 (advance count replies c).1 := by
  cases h with
  | @before t h =>
    cases t with
    | ret a => exact ⟨.before h, .none rfl rfl⟩
    | call x k => exact ⟨.before (h (replies x)), .none rfl rfl⟩
    | inc k => exact ⟨.inside h.1 (h.2 (count + 1)), .inc rfl rfl rfl rfl⟩
    | dec k => exact absurd h id
  | @inside t v ha h =>
    cases t with
    | ret a => exact absurd h id
    | call x k => exact ⟨.inside ha (h (replies x)), .none rfl rfl⟩
    | inc k => exact absurd h id
    | dec k => exact ⟨.after ha (h (count - 1)), .dec rfl rfl rfl⟩
  | @after t v ha h =>
    cases t with
    | ret a => exact ⟨.after ha h, .none rfl rfl⟩
    | call x k => exact ⟨.after ha (h (replies x)), .none rfl rfl⟩
    | inc k => exact absurd h id
    | dec k => exact absurd h id

theorem stage_once (h : Stage accepted good c) : c.decs ≤ c.incs ∧ c.incs ≤ 1 := by
  cases h with
  | before _ => exact ⟨le_rfl, Nat.zero_le 1⟩
  | inside _ _ => exact ⟨Nat.zero_le 1, le_rfl⟩
  | after _ _ => exact ⟨le_rfl, le_rfl⟩

theorem stage_rejected (h : Stage accepted good c) (hrej : ¬ accepted) :
    c.incs = 0 ∧ c.decs = 0 := by
  cases h with
  | before _ => exact ⟨rfl, rfl⟩
  | inside ha _ => exact absurd ha hrej
  | after ha _ => exact absurd ha hrej

theorem stage_returned {a : α} (h : Stage accepted good c) (ht : c.task = .ret a) :
    c.incs = c.decs ∧ (accepted → c.incs = 1 ∧ ∃ v, c.seen = some v ∧ good v a) := by
  cases h with
  | before h =>
    subst ht
    exact ⟨rfl, fun ha => absurd ha h⟩
  | inside ha h =>
    subst ht
    exact absurd h id
  | after ha h =>
    subst ht
    exact ⟨rfl, fun _ => ⟨rfl, _, rfl, h⟩⟩

variable {s : System Reply α n} {m : Move Reply n}

theorem step_calls_ne {i : Fin n} (h : i ≠ m.who) : (step s m).calls i = s.calls i :=
  Function.update_of_ne h ..

theorem step_calls_who :
    (step s m).calls m.who = (advance s.count m.replies (s.calls m.who)).2 :=
  Function.update_self ..

theorem mem_activeCalls {i : Fin n} :
    i ∈ activeCalls s ↔ (s.calls i).decs < (s.calls i).incs := by
  simp [activeCalls]

theorem mem_activeCalls_ne {i : Fin n} (h : i ≠ m.who) :
    i ∈ activeCalls (step s m) ↔ i ∈ activeCalls s := by
  rw [mem_activeCalls, mem_activeCalls, step_calls_ne h]

theorem active_step_same (h : m.who ∈ activeCalls (step s m) ↔ m.who ∈ activeCalls s) :
    active (step s m) = active s := by
  refine congrArg Finset.card (Finset.ext fun i => ?_)
  rcases eq_or_ne i m.who with rfl | hne
  · exact h
  · exact mem_activeCalls_ne hne

theorem active_step_inc (h : m.who ∉ activeCalls s) (h' : m.who ∈ activeCalls (step s m)) :
    active (step s m) = active s + 1 := by
  have hins : activeCalls (step s m) = insert m.who (activeCalls s) := by
    ext i
    rcases eq_or_ne i m.who with rfl | hne
    · simp [h']
    · simp [mem_activeCalls_ne hne, hne]
  rw [active, hins, Finset.card_insert_of_notMem h, active]

theorem active_step_dec (h : m.who ∈ activeCalls s) (h' : m.who ∉ activeCalls (step s m)) :
    active (step s m) + 1 = active s := by
  have hdel : activeCalls (step s m) = (activeCalls s).erase m.who := by
    ext i
    rcases eq_or_ne i m.who with rfl | hne
    · simp [h']
    · simp [mem_activeCalls_ne hne, hne]
  rw [active, hdel, Finset.card_erase_add_one h, active]

theorem active_le (s : System Reply α n) : active s ≤ n := by
  simpa [active] using Finset.card_le_univ (activeCalls s)

variable {acceptedBy : Fin n → Prop} {goodFor : Fin n → UInt32 → α → Prop} {initial : UInt32}

/-- Every call is somewhere in its bracket, and the counter is the number of calls inside. -/
structure CounterInv (initial : UInt32) (acceptedBy : Fin n → Prop)
    (goodFor : Fin n → UInt32 → α → Prop) (s : System Reply α n) : Prop where
  stage : ∀ i, Stage (acceptedBy i) (goodFor i) (s.calls i)
  count : s.count.toNat = initial.toNat + active s

theorem start_inv {tasks : Fin n → Task Reply α}
    (h : ∀ i, (tasks i).Before (acceptedBy i) (goodFor i)) :
    CounterInv initial acceptedBy goodFor (start initial tasks) := by
  refine ⟨fun i => .before (h i), ?_⟩
  have hnone : activeCalls (start initial tasks) = ∅ := by
    ext i
    simp [mem_activeCalls, start]
  rw [active, hnone]
  rfl

theorem step_stage (h : CounterInv initial acceptedBy goodFor s) (m : Move Reply n) (i : Fin n) :
    Stage (acceptedBy i) (goodFor i) ((step s m).calls i) := by
  rcases eq_or_ne i m.who with rfl | hne
  · rw [step_calls_who]
    exact (advance_stage (h.stage _) s.count m.replies).1
  · rw [step_calls_ne hne]
    exact h.stage i

theorem step_effect (h : CounterInv initial acceptedBy goodFor s) (m : Move Reply n) :
    Effect s.count (s.calls m.who) ((step s m).calls m.who) (step s m).count := by
  rw [step_calls_who]
  exact (advance_stage (h.stage _) s.count m.replies).2

theorem toNat_inc {v : UInt32} (h : v.toNat + 1 < 2 ^ 32) : (v + 1).toNat = v.toNat + 1 := by
  rw [UInt32.toNat_add]
  exact Nat.mod_eq_of_lt h

theorem toNat_dec {v : UInt32} (h : 0 < v.toNat) : (v - 1).toNat = v.toNat - 1 :=
  UInt32.toNat_sub_of_le _ _ (UInt32.le_iff_toNat_le.mpr h)

/-- A call that increments sees the number of calls that are then inside. -/
theorem inc_seen (hn : initial.toNat + n < 2 ^ 32) (h : CounterInv initial acceptedBy goodFor s)
    (hc : (s.calls m.who).incs = (s.calls m.who).decs)
    (hi : ((step s m).calls m.who).incs = (s.calls m.who).incs + 1)
    (hd : ((step s m).calls m.who).decs = (s.calls m.who).decs) :
    (s.count + 1).toNat = initial.toNat + active (step s m) := by
  have hactive : active (step s m) = active s + 1 :=
    active_step_inc (by rw [mem_activeCalls]; omega) (by rw [mem_activeCalls]; omega)
  have hle := active_le (step s m)
  have hcount := h.count
  rw [toNat_inc (by omega)]
  omega

theorem step_inv (hn : initial.toNat + n < 2 ^ 32) (h : CounterInv initial acceptedBy goodFor s)
    (m : Move Reply n) : CounterInv initial acceptedBy goodFor (step s m) := by
  refine ⟨step_stage h m, ?_⟩
  have heffect := step_effect h m
  have hcount := h.count
  generalize hs : (step s m).count = count at heffect ⊢
  cases heffect with
  | none hi hd =>
    rw [active_step_same (by rw [mem_activeCalls, mem_activeCalls, hi, hd])]
    exact hcount
  | inc hc hi hd _ => exact inc_seen hn h hc hi hd
  | dec hc hi hd =>
    have hactive : active (step s m) + 1 = active s :=
      active_step_dec (by rw [mem_activeCalls]; omega) (by rw [mem_activeCalls]; omega)
    rw [toNat_dec (by omega)]
    omega

/-- The counter is exact in every state of every interleaving of bracketed calls. -/
theorem run_inv (hn : initial.toNat + n < 2 ^ 32) {tasks : Fin n → Task Reply α}
    (h : ∀ i, (tasks i).Before (acceptedBy i) (goodFor i)) (ms : List (Move Reply n)) :
    CounterInv initial acceptedBy goodFor (runTrace step (start initial tasks) ms) := by
  have hstep : ∀ (s : System Reply α n) (m : Move Reply n),
      CounterInv initial acceptedBy goodFor s → CounterInv initial acceptedBy goodFor (step s m) :=
    fun _ m hs => step_inv hn hs m
  exact invariant_runTrace hstep (start_inv h) ms

theorem increment_seen (hn : initial.toNat + n < 2 ^ 32)
    (h : CounterInv initial acceptedBy goodFor s) (m : Move Reply n) {i : Fin n}
    (hi : (s.calls i).incs < ((step s m).calls i).incs) :
    ∃ v, ((step s m).calls i).seen = some v ∧
      v.toNat = initial.toNat + active (step s m) ∧ 0 < active (step s m) := by
  have hwho : i = m.who := by
    by_contra hne
    rw [step_calls_ne hne] at hi
    omega
  subst hwho
  have heffect := step_effect h m
  generalize hs : (step s m).count = count at heffect
  cases heffect with
  | none hi' hd => omega
  | dec hc hi' hd => omega
  | inc hc hi' hd hseen =>
    refine ⟨_, hseen, inc_seen hn h hc hi' hd, Finset.card_pos.mpr ⟨m.who, ?_⟩⟩
    rw [mem_activeCalls]
    omega

theorem returned_count (h : CounterInv initial acceptedBy goodFor s)
    (hret : ∀ i, Returned (s.calls i)) : s.count = initial := by
  have hnone : activeCalls s = ∅ := by
    ext i
    obtain ⟨a, ha⟩ := hret i
    have hsame := (stage_returned (h.stage i) ha).1
    simp [mem_activeCalls, hsame]
  apply UInt32.toNat_inj.mp
  rw [h.count, active, hnone]
  rfl

def Task.Within : ℕ → Task Reply α → Prop
  | _, .ret _ => True
  | 0, _ => False
  | k + 1, .call _ f => ∀ r, (f r).Within k
  | k + 1, .inc f => ∀ v, (f v).Within k
  | k + 1, .dec f => ∀ v, (f v).Within k

theorem within_zero {t : Task Reply α} (h : t.Within 0) : ∃ a, t = .ret a := by
  cases t with
  | ret a => exact ⟨a, rfl⟩
  | call c f => exact absurd h id
  | inc f => exact absurd h id
  | dec f => exact absurd h id

theorem within_mono {t : Task Reply α} {k l : ℕ} (h : t.Within k) (hle : k ≤ l) : t.Within l := by
  induction k generalizing t l with
  | zero =>
    obtain ⟨a, rfl⟩ := within_zero h
    simp [Task.Within]
  | succ k ih =>
    obtain ⟨l, rfl⟩ := Nat.exists_eq_add_of_le' (Nat.one_le_of_lt hle)
    cases t with
    | ret a => simp [Task.Within]
    | call c f => exact fun r => ih (h r) (by omega)
    | inc f => exact fun v => ih (h v) (by omega)
    | dec f => exact fun v => ih (h v) (by omega)

def movesOf (i : Fin n) (ms : List (Move Reply n)) : ℕ := ms.countP fun m => m.who = i

theorem advance_within {k : ℕ} (h : c.task.Within k) (count : UInt32)
    (replies : ∀ c, Reply c) : (advance count replies c).2.task.Within (k - 1) := by
  obtain ⟨t, incs, decs, seen⟩ := c
  cases k with
  | zero =>
    obtain ⟨a, rfl⟩ := within_zero h
    simp [advance, Task.Within]
  | succ k =>
    cases t with
    | ret a => simp [advance, Task.Within]
    | call x f => exact h (replies x)
    | inc f => exact h (count + 1)
    | dec f => exact h (count - 1)

theorem run_within {i : Fin n} {k : ℕ} (h : (s.calls i).task.Within k)
    (ms : List (Move Reply n)) :
    ((runTrace step s ms).calls i).task.Within (k - movesOf i ms) := by
  induction ms generalizing s k with
  | nil => exact h
  | cons m ms ih =>
    rcases eq_or_ne i m.who with rfl | hne
    · have hwho : ((step s m).calls m.who).task.Within (k - 1) := by
        rw [step_calls_who]
        exact advance_within h _ _
      have hmoves : movesOf m.who (m :: ms) = movesOf m.who ms + 1 := by simp [movesOf]
      rw [runTrace_cons, hmoves, Nat.add_comm, Nat.sub_add_eq]
      exact ih hwho
    · have hother : ((step s m).calls i).task.Within k := by rwa [step_calls_ne hne]
      have hmoves : movesOf i (m :: ms) = movesOf i ms := by simp [movesOf, hne.symm]
      rw [runTrace_cons, hmoves]
      exact ih hother

theorem run_returned {i : Fin n} {k : ℕ} (h : (s.calls i).task.Within k)
    {ms : List (Move Reply n)} (hms : k ≤ movesOf i ms) :
    Returned ((runTrace step s ms).calls i) := by
  have hend := run_within h ms
  rw [Nat.sub_eq_zero_of_le hms] at hend
  exact within_zero hend

end SharedCounter
