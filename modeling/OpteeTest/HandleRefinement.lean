import OpteeTest.GuardedRun
import OpteeTest.HandleDatabase
import Mathlib.Order.Bounds.Basic
import Mathlib.Order.Interval.Set.Basic

/-! # The handle database refines a partial map

The abstract machine maps every integer to an optional pointer. The history of a run
determines its map, whatever the table went through. -/
namespace HandleRefinement

open TeeApi GuardedRun HandleDatabase

variable {α : Type*}

inductive Op (α : Type*) where
  | get (ptr : Option α) (realloc : Option (ℕ → Option α))
  | put (handle : ℤ)
  | lookup (handle : ℤ)
  | destroy

inductive Result (α : Type*) where
  | handle (h : ℤ)
  | ptr (p : Option α)
  | done
  deriving DecidableEq, Repr

def Full (m : ℤ → Option α) : Prop := ∃ n : ℤ, ∀ h, m h ≠ none ↔ 0 ≤ h ∧ h < n

inductive SpecStep (m : ℤ → Option α) : Op α → Result α → (ℤ → Option α) → Prop where
  | got (ptr realloc h) : ptr ≠ none → IsLeast {k | 0 ≤ k ∧ m k = none} h →
      SpecStep m (.get ptr realloc) (.handle h) (Function.update m h ptr)
  | refused (ptr realloc) : ptr = none ∨ realloc = none ∧ Full m →
      SpecStep m (.get ptr realloc) (.handle (-1)) m
  | put (h) : SpecStep m (.put h) (.ptr (m h)) (Function.update m h none)
  | lookup (h) : SpecStep m (.lookup h) (.ptr (m h)) m
  | destroy : SpecStep m .destroy .done fun _ => none

/-- Runs of the abstract machine from the empty map, with the newest event first. -/
inductive SpecRun : List (Op α × Result α) → (ℤ → Option α) → Prop where
  | empty : SpecRun [] fun _ => none
  | step {hist m m' op res} : SpecRun hist m → SpecStep m op res m' →
      SpecRun ((op, res) :: hist) m'

/-- The pointer of the latest successful `handle_get` of `h` that was neither put nor
destroyed since. -/
def lastLive : List (Op α × Result α) → ℤ → Option α
  | (.get ptr _, .handle r) :: hist, h => if r ≠ -1 ∧ h = r then ptr else lastLive hist h
  | (.put k, _) :: hist, h => if h = k then none else lastLive hist h
  | (.destroy, _) :: _, _ => none
  | _ :: hist, h => lastLive hist h
  | [], _ => none

structure DbRun (α : Type*) where
  db : HandleDb α
  history : List (Op α × Result α)

def initial : DbRun α := ⟨handleDbInitializer, []⟩

def exec (A : Arch) (db : HandleDb α) : Op α → Result α × HandleDb α
  | .get ptr realloc => let (h, db) := handleGet A db ptr realloc; (.handle h, db)
  | .put h => let (p, db) := handlePut db h; (.ptr p, db)
  | .lookup h => (.ptr (handleLookup db h), db)
  | .destroy => (.done, handleDbDestroy db)

def next (A : Arch) (s : DbRun α) (op : Op α) : DbRun α :=
  ⟨(exec A s.db op).2, (op, (exec A s.db op).1) :: s.history⟩

def TableSmall (A : Arch) (s : DbRun α) (op : Op α) : Prop := (next A s op).db.maxPtrs < 2 ^ 28

instance (A : Arch) (s : DbRun α) (op : Op α) : Decidable (TableSmall A s op) :=
  inferInstanceAs (Decidable (_ < _))

structure Refines (A : Arch) (s : DbRun α) : Prop where
  wellSized : WellSized A s.db
  run : SpecRun s.history (handleLookup s.db)
  latest : ∀ h, handleLookup s.db h = lastLive s.history h

theorem handleLookup_empty (h : ℤ) : handleLookup (⟨[], 0⟩ : HandleDb α) h = none := by
  simp [handleLookup]

theorem initial_refines (A : Arch) : Refines A (initial : DbRun α) where
  wellSized := wellSized_initializer A
  run := by
    have he : handleLookup (initial : DbRun α).db = fun _ => none := funext handleLookup_empty
    rw [he]
    exact .empty
  latest := handleLookup_empty

/-- Live entries below the returned slot make it the least free handle. -/
theorem isLeast_free {A : Arch} {db : HandleDb α} (hs : WellSized A db) {n : ℕ}
    (hfree : db.cell n = none)
    (hbusy : ∀ m < n, db.cell m ≠ none) :
    IsLeast {k : ℤ | 0 ≤ k ∧ handleLookup db k = none} n := by
  constructor
  · refine ⟨Int.natCast_nonneg n, ?_⟩
    simpa [handleLookup_eq hs] using hfree
  · rintro k ⟨hk, hnone⟩
    by_contra hlt
    have hcell := hbusy k.toNat (by omega)
    rw [handleLookup_eq hs, if_neg (by omega)] at hnone
    exact hcell hnone

theorem full_of_busy {A : Arch} {db : HandleDb α} (hs : WellSized A db)
    (hbusy : ∀ m < db.maxPtrs, db.cell m ≠ none) : Full (handleLookup db) := by
  refine ⟨db.maxPtrs, fun h => ?_⟩
  rw [handleLookup_eq hs]
  by_cases hneg : h < 0
  · rw [if_pos hneg]
    exact iff_of_false (not_not.mpr rfl) (by omega)
  · rw [if_neg hneg]
    constructor
    · intro hlive
      refine ⟨by omega, ?_⟩
      by_contra hge
      exact hlive (cell_of_le hs (by omega))
    · rintro ⟨-, hlt⟩
      exact hbusy h.toNat (by omega)

theorem next_get_refines {A : Arch} {s : DbRun α} {ptr : Option α}
    {realloc : Option (ℕ → Option α)} (h : Refines A s)
    (hg : TableSmall A s (.get ptr realloc)) : Refines A (next A s (.get ptr realloc)) := by
  rcases handleGet_cases h.wellSized (fitsTable_of_lt A hg) with
    ⟨hrun, hwhy⟩ | ⟨n, hres, hptr, hfree, hbusy, hws, hcell⟩
  · constructor
    · simpa [next, exec, hrun] using h.wellSized
    · have hfull := hwhy.imp_right (And.imp_right (full_of_busy h.wellSized))
      simpa [next, exec, hrun] using .step h.run (.refused ptr realloc hfull)
    · simpa [next, exec, hrun, lastLive] using h.latest
  · have hlook := handleLookup_get h.wellSized hws hcell
    have hne : (n : ℤ) ≠ -1 := by omega
    constructor
    · exact hws
    · have hmap : handleLookup (next A s (.get ptr realloc)).db =
          Function.update (handleLookup s.db) n ptr := by
        funext k
        simp [next, exec, hlook, Function.update_apply]
      rw [hmap]
      simpa [next, exec, hres] using
        .step h.run (.got ptr realloc n hptr (isLeast_free h.wellSized hfree hbusy))
    · intro k
      simp [next, exec, hlook, hres, lastLive, hne, h.latest]

theorem next_put_refines {A : Arch} {s : DbRun α} (k : ℤ) (h : Refines A s) :
    Refines A (next A s (.put k)) := by
  have hlook := handleLookup_put h.wellSized k
  constructor
  · exact handlePut_wellSized h.wellSized k
  · have hmap : handleLookup (next A s (.put k)).db =
        Function.update (handleLookup s.db) k none := by
      funext j
      simp [next, exec, hlook, Function.update_apply]
    rw [hmap]
    simpa [next, exec, handlePut_fst] using .step h.run (.put k)
  · intro j
    simp [next, exec, hlook, lastLive, h.latest]

theorem next_lookup_refines {A : Arch} {s : DbRun α} (k : ℤ) (h : Refines A s) :
    Refines A (next A s (.lookup k)) where
  wellSized := h.wellSized
  run := .step h.run (.lookup k)
  latest := h.latest

theorem next_destroy_refines {A : Arch} {s : DbRun α} (h : Refines A s) :
    Refines A (next A s .destroy) where
  wellSized := wellSized_initializer A
  run := by
    have he : handleLookup (next A s .destroy).db = fun _ => none := funext handleLookup_empty
    rw [he]
    exact .step h.run .destroy
  latest := handleLookup_empty

theorem next_refines {A : Arch} (s : DbRun α) (op : Op α) (h : Refines A s)
    (hg : TableSmall A s op) : Refines A (next A s op) := by
  cases op with
  | get ptr realloc => exact next_get_refines h hg
  | put k => exact next_put_refines k h
  | lookup k => exact next_lookup_refines k h
  | destroy => exact next_destroy_refines h

/-- Every run that keeps the table below 2^28 slots is a run of the abstract machine, and
its map is the one its history determines. -/
theorem handle_db_refines_map (A : Arch) (ops : List (Op α))
    (hv : ValidTrace (next A) (TableSmall A) initial ops) :
    let s := runTrace (next A) initial ops
    SpecRun s.history (handleLookup s.db) ∧ ∀ h, handleLookup s.db h = lastLive s.history h := by
  have h := invariant_run next_refines (initial_refines A) hv
  exact ⟨h.run, h.latest⟩

/-- Five objects force the table to grow; one handle is put and issued again. -/
def reuseOps : List (Op ℕ) :=
  [.get (some 10) (some fun _ => some 99), .get (some 11) none, .get (some 12) none,
    .get (some 13) none, .get (some 14) none, .get (some 14) (some fun _ => some 98), .put 1,
    .get (some 15) none, .lookup (-3), .destroy, .get (some 16) (some fun _ => none)]

theorem reuseOps_refines_map :
    SpecRun (runTrace (next .arm64) initial reuseOps).history
      (handleLookup (runTrace (next .arm64) initial reuseOps).db) :=
  (handle_db_refines_map .arm64 reuseOps (by decide +kernel)).1

example : ((runTrace (next .arm64) initial reuseOps).history.map Prod.snd).reverse =
    [.handle 0, .handle 1, .handle 2, .handle 3, .handle (-1), .handle 4, .ptr (some 11),
      .handle 1, .ptr none, .done, .handle 0] := by
  decide +kernel

end HandleRefinement
