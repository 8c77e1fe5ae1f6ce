import OpteeTest.HandleRefinement

/-! # The capacity of the handle database

A table doubles only when every slot is taken. Its size is therefore bounded by the largest number
of handles that were live at once, and the history of a run tells that number. -/
namespace HandleCapacity

open TeeApi GuardedRun HandleDatabase HandleRefinement

variable {α : Type*}

/-- The handles in use: got, and neither put nor destroyed since. -/
def liveHandles : List (Op α × Result α) → List ℤ
  | (.get _ _, .handle r) :: hist => if r = -1 then liveHandles hist else r :: liveHandles hist
  | (.put k, _) :: hist => (liveHandles hist).filter (· ≠ k)
  | (.destroy, _) :: _ => []
  | _ :: hist => liveHandles hist
  | [] => []

def returnedHandles : List (Op α × Result α) → List ℤ
  | (.get _ _, .handle r) :: hist =>
    if r = -1 then returnedHandles hist else r :: returnedHandles hist
  | (.destroy, _) :: _ => []
  | _ :: hist => returnedHandles hist
  | [] => []

/-- The largest number of handles in use at one time since the last destroy. -/
def peakLive : List (Op α × Result α) → ℕ
  | (.destroy, _) :: _ => 0
  | e :: hist => max (liveHandles (e :: hist)).length (peakLive hist)
  | [] => 0

theorem live_le_peak (hist : List (Op α × Result α)) :
    (liveHandles hist).length ≤ peakLive hist := by
  cases hist with
  | nil => exact Nat.le_refl 0
  | cons e hist =>
    obtain ⟨op, res⟩ := e
    cases op with
    | destroy => exact Nat.le_refl 0
    | get ptr realloc => exact le_max_left _ _
    | put k => exact le_max_left _ _
    | lookup k => exact le_max_left _ _

def Doubled (n : ℕ) : Prop := n = 0 ∨ ∃ k, n = handleDbInitialMaxPtrs * 2 ^ k

structure Capacity (A : Arch) (s : DbRun α) : Prop where
  refines : Refines A s
  doubled : Doubled s.db.maxPtrs
  nodup : (liveHandles s.history).Nodup
  live : ∀ h, h ∈ liveHandles s.history ↔ lastLive s.history h ≠ none
  returned : ∀ r ∈ returnedHandles s.history, 0 ≤ r ∧ r < s.db.maxPtrs
  peak : s.db.maxPtrs ≤ max 4 (2 * peakLive s.history)

theorem initial_capacity (A : Arch) : Capacity A (initial : DbRun α) where
  refines := initial_refines A
  doubled := Or.inl rfl
  nodup := List.nodup_nil
  live := by simp [initial, liveHandles, lastLive]
  returned := by simp [initial, returnedHandles]
  peak := Nat.zero_le _

variable {A : Arch} {s : DbRun α}

theorem Capacity.cell_live (h : Capacity A s) (i : ℕ) :
    s.db.cell i ≠ none ↔ (i : ℤ) ∈ liveHandles s.history := by
  rw [h.live, ← h.refines.latest, handleLookup_natCast h.refines.wellSized]

/-- A table without a free slot has no more slots than handles in use. -/
theorem Capacity.full (h : Capacity A s) (hslot : emptySlot s.db s.db.maxPtrs 0 = none) :
    s.db.maxPtrs ≤ (liveHandles s.history).length := by
  rw [← List.length_map Int.toNat]
  refine full_le_length hslot fun i hi => ?_
  exact List.mem_map.mpr ⟨i, (h.cell_live i).mp hi, Int.toNat_natCast i⟩

theorem Doubled.grown {n : ℕ} (h : Doubled n) :
    Doubled (if n ≠ 0 then n * 2 else handleDbInitialMaxPtrs) := by
  split_ifs with hn
  · obtain ⟨k, hk⟩ := h.resolve_left hn
    exact Or.inr ⟨k + 1, by rw [hk, Nat.pow_succ, Nat.mul_assoc]⟩
  · exact Or.inr ⟨0, rfl⟩

theorem get_maxPtrs (h : Capacity A s) (ptr : Option α) (realloc : Option (ℕ → Option α)) :
    let t := next A s (.get ptr realloc)
    s.db.maxPtrs ≤ t.db.maxPtrs ∧ Doubled t.db.maxPtrs ∧
      (t.db.maxPtrs ≤ s.db.maxPtrs ∨
        t.db.maxPtrs ≤ max 4 (2 * (liveHandles s.history).length)) := by
  have hcases := handleGet_maxPtrs A s.db ptr realloc
  rw [h.refines.wellSized.double] at hcases
  change s.db.maxPtrs ≤ (handleGet A s.db ptr realloc).2.maxPtrs ∧
    Doubled (handleGet A s.db ptr realloc).2.maxPtrs ∧ _
  rcases hcases with hsame | ⟨hslot, -, hgrow⟩
  · rw [hsame]
    exact ⟨le_rfl, h.doubled, Or.inl hsame.le⟩
  · have hfull := h.full hslot
    refine ⟨?_, hgrow ▸ h.doubled.grown, Or.inr (hgrow.trans_le ?_)⟩
    · rw [hgrow]
      split_ifs with hzero
      · omega
      · omega
    · split_ifs
      · exact le_max_of_le_right (by omega)
      · exact le_max_left _ _

/-- The peak after `handle_get` still bounds the number of slots. -/
theorem get_peak (h : Capacity A s) (ptr : Option α) (realloc : Option (ℕ → Option α)) :
    let t := next A s (.get ptr realloc)
    t.db.maxPtrs ≤ max 4 (2 * peakLive t.history) := by
  obtain ⟨-, -, hsize⟩ := get_maxPtrs h ptr realloc
  have hlive := live_le_peak s.history
  have hlater : peakLive s.history ≤ peakLive (next A s (.get ptr realloc)).history :=
    le_max_right _ _
  have hold := h.peak
  dsimp only
  omega

theorem get_refused_capacity {ptr : Option α} {realloc : Option (ℕ → Option α)}
    (h : Capacity A s) (hg : TableSmall A s (.get ptr realloc))
    (hrun : handleGet A s.db ptr realloc = (-1, s.db)) :
    Capacity A (next A s (.get ptr realloc)) := by
  obtain ⟨hmono, hdoubled, -⟩ := get_maxPtrs h ptr realloc
  have hhist : (next A s (.get ptr realloc)).history =
      (.get ptr realloc, .handle (-1)) :: s.history := by
    simp only [next, exec, hrun]
  refine ⟨next_get_refines h.refines hg, hdoubled, ?_, ?_, ?_, get_peak h ptr realloc⟩
  · rw [hhist, liveHandles, if_pos rfl]
    exact h.nodup
  · intro k
    rw [hhist, liveHandles, if_pos rfl, h.live, lastLive, if_neg fun hk => hk.1 rfl]
  · intro r hr
    rw [hhist, returnedHandles, if_pos rfl] at hr
    obtain ⟨hpos, hlt⟩ := h.returned r hr
    exact ⟨hpos, by omega⟩

theorem get_issued_capacity {ptr : Option α} {realloc : Option (ℕ → Option α)} {n : ℕ}
    (h : Capacity A s) (hg : TableSmall A s (.get ptr realloc))
    (hres : (handleGet A s.db ptr realloc).1 = n) (hptr : ptr ≠ none) (hfree : s.db.cell n = none)
    (hcell : (handleGet A s.db ptr realloc).2.cell n = ptr) :
    Capacity A (next A s (.get ptr realloc)) := by
  have hrefines := next_get_refines h.refines hg
  obtain ⟨hmono, hdoubled, -⟩ := get_maxPtrs h ptr realloc
  have hhist : (next A s (.get ptr realloc)).history =
      (.get ptr realloc, .handle n) :: s.history := by
    simp only [next, exec, hres]
  have hne : (n : ℤ) ≠ -1 := by omega
  have hlt : n < (next A s (.get ptr realloc)).db.maxPtrs := by
    by_contra hge
    have hnone := cell_of_le hrefines.wellSized (Nat.not_lt.mp hge)
    exact hptr (hcell.symm.trans hnone)
  refine ⟨hrefines, hdoubled, ?_, ?_, ?_, get_peak h ptr realloc⟩
  · rw [hhist, liveHandles, if_neg hne]
    refine List.nodup_cons.mpr ⟨fun hmem => ?_, h.nodup⟩
    exact (h.cell_live n).mpr hmem hfree
  · intro k
    rw [hhist, liveHandles, if_neg hne, lastLive, List.mem_cons, h.live]
    by_cases hk : k = n
    · rw [if_pos ⟨hne, hk⟩]
      exact ⟨fun _ => hptr, fun _ => Or.inl hk⟩
    · rw [if_neg fun h => hk h.2]
      exact or_iff_right hk
  · intro r hr
    rw [hhist, returnedHandles, if_neg hne] at hr
    rcases List.mem_cons.mp hr with rfl | hr
    · exact ⟨by omega, by omega⟩
    · obtain ⟨hpos, hlt⟩ := h.returned r hr
      exact ⟨hpos, by omega⟩

theorem next_get_capacity {ptr : Option α} {realloc : Option (ℕ → Option α)} (h : Capacity A s)
    (hg : TableSmall A s (.get ptr realloc)) : Capacity A (next A s (.get ptr realloc)) := by
  rcases handleGet_cases h.refines.wellSized (fitsTable_of_lt A hg) with
    ⟨hrun, -⟩ | ⟨n, hres, hptr, hfree, -, -, hcell⟩
  · exact get_refused_capacity h hg hrun
  · exact get_issued_capacity h hg hres hptr hfree ((hcell n).trans (if_pos rfl))

theorem next_put_capacity (k : ℤ) (h : Capacity A s) : Capacity A (next A s (.put k)) := by
  have hmax : (next A s (.put k)).db.maxPtrs = s.db.maxPtrs := handlePut_maxPtrs s.db k
  refine ⟨next_put_refines k h.refines, ?_, h.nodup.filter _, ?_, ?_, ?_⟩
  · rw [hmax]
    exact h.doubled
  · intro j
    simp only [next, exec, liveHandles, lastLive, List.mem_filter, h.live, decide_eq_true_eq]
    by_cases hj : j = k
    · simp [hj]
    · simp [hj]
  · intro r hr
    rw [hmax]
    exact h.returned r hr
  · rw [hmax]
    have hlater : peakLive s.history ≤ peakLive (next A s (.put k)).history := le_max_right _ _
    have hold := h.peak
    omega

theorem next_lookup_capacity (k : ℤ) (h : Capacity A s) : Capacity A (next A s (.lookup k)) where
  refines := next_lookup_refines k h.refines
  doubled := h.doubled
  nodup := h.nodup
  live := h.live
  returned := h.returned
  peak := by
    have hlater : peakLive s.history ≤ peakLive (next A s (.lookup k)).history := le_max_right _ _
    have hold := h.peak
    change s.db.maxPtrs ≤ _
    omega

theorem next_destroy_capacity (h : Capacity A s) : Capacity A (next A s .destroy) where
  refines := next_destroy_refines h.refines
  doubled := Or.inl rfl
  nodup := List.nodup_nil
  live := by simp [next, liveHandles, lastLive]
  returned := by simp [next, returnedHandles]
  peak := Nat.zero_le _

theorem next_capacity {A : Arch} (s : DbRun α) (op : Op α) (h : Capacity A s)
    (hg : TableSmall A s op) : Capacity A (next A s op) := by
  cases op with
  | get ptr realloc => exact next_get_capacity h hg
  | put k => exact next_put_capacity k h
  | lookup k => exact next_lookup_capacity k h
  | destroy => exact next_destroy_capacity h

/-- The number of slots is bounded by the number of handles that were ever in use at once. -/
theorem capacity_bound (A : Arch) (ops : List (Op α))
    (hv : ValidTrace (next A) (TableSmall A) initial ops) :
    let s := runTrace (next A) initial ops
    (s.db.maxPtrs = 0 ∨ ∃ k, s.db.maxPtrs = 4 * 2 ^ k) ∧
      (∀ r ∈ returnedHandles s.history, 0 ≤ r ∧ r < s.db.maxPtrs) ∧
      s.db.maxPtrs ≤ max 4 (2 * peakLive s.history) ∧
      (liveHandles s.history).Nodup ∧
      ∀ h, h ∈ liveHandles s.history ↔ lastLive s.history h ≠ none := by
  have h := invariant_run next_capacity (initial_capacity A) hv
  exact ⟨h.doubled, h.returned, h.peak, h.nodup, h.live⟩

theorem reuseOps_capacity :
    (runTrace (next .arm64) initial (reuseOps.take 6)).db.maxPtrs ≤
      max 4 (2 * peakLive (runTrace (next .arm64) initial (reuseOps.take 6)).history) :=
  (capacity_bound .arm64 (reuseOps.take 6) (by decide +kernel)).2.2.1

example : (runTrace (next .arm64) initial (reuseOps.take 6)).db.maxPtrs = 8 ∧
    peakLive (runTrace (next .arm64) initial (reuseOps.take 6)).history = 5 := by
  decide +kernel

end HandleCapacity
