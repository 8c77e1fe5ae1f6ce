import OpteeTest.TeeApi

/-! # The handle database of the crypt TA

A growing array of pointers, `none` for NULL. The array `ptrs` and the field `maxPtrs` are
separate data, as in the C structure. -/
namespace HandleDatabase

open TeeApi

/-- `struct handle_db`: the cells of the block `ptrs` and the number `max_ptrs`. -/
structure HandleDb (α : Type*) where
  ptrs : List (Option α)
  maxPtrs : ℕ
  deriving DecidableEq, Repr

variable {α : Type*}

def handleDbInitializer : HandleDb α := ⟨[], 0⟩

def handleDbInitialMaxPtrs : ℕ := 4

def HandleDb.cell (db : HandleDb α) (n : ℕ) : Option α := db.ptrs.getD n none

def handleDbDestroy (_ : HandleDb α) : HandleDb α := ⟨[], 0⟩

def emptySlot (db : HandleDb α) : ℕ → ℕ → Option ℕ
  | 0, _ => none
  | k + 1, n => if (db.cell n).isNone then some n else emptySlot db k (n + 1)

/-- `TEE_Realloc` to a block of `cells` pointers. A granted block keeps the old contents;
`fresh` is what its new cells happen to hold. -/
def teeRealloc (old : List (Option α)) (cells : ℕ) (answer : Option (ℕ → Option α)) :
    Option (List (Option α)) :=
  answer.map fun fresh => (List.range cells).map fun i => old.getD i (fresh i)

def teeMemFillNull (ptrs : List (Option α)) (start count : ℕ) : List (Option α) :=
  (List.range ptrs.length).map fun i =>
    if start ≤ i ∧ i < start + count then none else ptrs.getD i none

/-- Pointers in a block whose byte size is a `size_t` product passed as a `uint32_t`. -/
def cellsOf (A : Arch) (count : ℕ) : ℕ := count * A.sizeofPtr % A.word % 2 ^ 32 / A.sizeofPtr

/-- `handle_get`; `realloc` is the answer of `TEE_Realloc`, should the table have to grow. -/
def handleGet (A : Arch) (db : HandleDb α) (ptr : Option α) (realloc : Option (ℕ → Option α)) :
    ℤ × HandleDb α :=
  if ptr.isNone then (-1, db)
  else
    match emptySlot db db.maxPtrs 0 with
    | some n => (toInt n, { db with ptrs := db.ptrs.set n ptr })
    | none =>
      let newMaxPtrs :=
        if db.maxPtrs ≠ 0 then db.maxPtrs * 2 % A.word else handleDbInitialMaxPtrs
      match teeRealloc db.ptrs (cellsOf A newMaxPtrs) realloc with
      | none => (-1, db)
      | some p =>
        let p := teeMemFillNull p db.maxPtrs (cellsOf A (newMaxPtrs - db.maxPtrs))
        (toInt db.maxPtrs, ⟨p.set db.maxPtrs ptr, newMaxPtrs⟩)

def handlePut (db : HandleDb α) (handle : ℤ) : Option α × HandleDb α :=
  if handle < 0 ∨ db.maxPtrs ≤ handle.toNat then (none, db)
  else (db.cell handle.toNat, { db with ptrs := db.ptrs.set handle.toNat none })

def handleLookup (db : HandleDb α) (handle : ℤ) : Option α :=
  if handle < 0 ∨ db.maxPtrs ≤ handle.toNat then none else db.cell handle.toNat

/-- The table takes at most 2^31 bytes: its size fits the argument of `TEE_Realloc`, and
its indices leave the three top bits of a 32-bit word free. -/
def FitsTable (A : Arch) (maxPtrs : ℕ) : Prop := maxPtrs * A.sizeofPtr ≤ 2 ^ 31

instance (A : Arch) (maxPtrs : ℕ) : Decidable (FitsTable A maxPtrs) :=
  inferInstanceAs (Decidable (_ ≤ _))

/-- The block holds exactly `maxPtrs` pointers. -/
structure WellSized (A : Arch) (db : HandleDb α) : Prop where
  length : db.ptrs.length = db.maxPtrs
  fits : FitsTable A db.maxPtrs

theorem wellSized_initializer (A : Arch) : WellSized A (handleDbInitializer : HandleDb α) :=
  ⟨rfl, by simp [FitsTable, handleDbInitializer]⟩

theorem FitsTable.lt {A : Arch} {n : ℕ} (h : FitsTable A n) : n ≤ 2 ^ 29 := by
  cases A <;> simp only [FitsTable, Arch.sizeofPtr] at h <;> omega

theorem fitsTable_of_lt (A : Arch) {n : ℕ} (h : n < 2 ^ 28) : FitsTable A n := by
  cases A <;> simp only [FitsTable, Arch.sizeofPtr] <;> omega

/-- There is room to double the number of slots without wrapping around. -/
theorem WellSized.double {A : Arch} {db : HandleDb α} (hs : WellSized A db) :
    db.maxPtrs * 2 % A.word = db.maxPtrs * 2 := by
  have hword := A.word_ge
  have hle := hs.fits.lt
  exact Nat.mod_eq_of_lt (by omega)

theorem cellsOf_of_fits {A : Arch} {n m : ℕ} (h : FitsTable A n) (hm : m ≤ n) :
    cellsOf A m = m := by
  cases A <;> simp only [FitsTable, cellsOf, Arch.sizeofPtr, Arch.word, Arch.bits] at * <;> omega

theorem cell_of_le {A : Arch} {db : HandleDb α} (hs : WellSized A db) {n : ℕ} (h : db.maxPtrs ≤ n) :
    db.cell n = none :=
  List.getD_eq_default _ _ (by rw [hs.length]; exact h)

/-- Under the invariant a lookup is the cell, and NULL outside the table. -/
theorem handleLookup_eq {A : Arch} {db : HandleDb α} (hs : WellSized A db) (h : ℤ) :
    handleLookup db h = if h < 0 then none else db.cell h.toNat := by
  unfold handleLookup
  split_ifs with h₁ h₂ h₂
  · rfl
  · exact (cell_of_le hs (h₁.resolve_left h₂)).symm
  · exact (h₁ (Or.inl h₂)).elim
  · rfl

theorem handleLookup_natCast {A : Arch} {db : HandleDb α} (hs : WellSized A db) (n : ℕ) :
    handleLookup db n = db.cell n := by
  rw [handleLookup_eq hs, if_neg (by omega), Int.toNat_natCast]

theorem emptySlot_some {db : HandleDb α} {k n m : ℕ} (h : emptySlot db k n = some m) :
    n ≤ m ∧ m < n + k ∧ db.cell m = none ∧ ∀ i, n ≤ i → i < m → db.cell i ≠ none := by
  induction k generalizing n with
  | zero => simp [emptySlot] at h
  | succ k ih =>
    by_cases hn : db.cell n = none
    · simp only [emptySlot, hn, Option.isNone_none, if_true, Option.some.injEq] at h
      subst h
      exact ⟨le_rfl, by omega, hn, fun i hi hi' => by omega⟩
    · simp only [emptySlot, Option.isNone_iff_eq_none, hn, if_false] at h
      obtain ⟨hm, hmk, hfree, hbusy⟩ := ih h
      refine ⟨by omega, by omega, hfree, fun i hi hi' => ?_⟩
      rcases Nat.eq_or_lt_of_le hi with rfl | hlt
      · exact hn
      · exact hbusy i hlt hi'

theorem emptySlot_none {db : HandleDb α} {k n : ℕ} (h : emptySlot db k n = none) :
    ∀ i, n ≤ i → i < n + k → db.cell i ≠ none := by
  induction k generalizing n with
  | zero => exact fun i hi hi' => by omega
  | succ k ih =>
    by_cases hn : db.cell n = none
    · simp [emptySlot, hn] at h
    · simp only [emptySlot, Option.isNone_iff_eq_none, hn, if_false] at h
      intro i hi hi'
      rcases Nat.eq_or_lt_of_le hi with rfl | hlt
      · exact hn
      · exact ih h i hlt (by omega)

/-- A table without a free slot has no more cells than a list that names all its entries. -/
theorem full_le_length {db : HandleDb α} (h : emptySlot db db.maxPtrs 0 = none) {l : List ℕ}
    (hl : ∀ i, db.cell i ≠ none → i ∈ l) : db.maxPtrs ≤ l.length := by
  have hsub : List.range db.maxPtrs ⊆ l := by
    intro i hi
    have hlt := List.mem_range.mp hi
    exact hl i (emptySlot_none h i (Nat.zero_le i) (by omega))
  have hlen := List.Nodup.length_le_of_subset List.nodup_range hsub
  rwa [List.length_range] at hlen

theorem cell_set (db : HandleDb α) {n : ℕ} (h : n < db.ptrs.length) (p : Option α) (m : ℕ) :
    ({ db with ptrs := db.ptrs.set n p } : HandleDb α).cell m =
      if m = n then p else db.cell m := by
  simp only [HandleDb.cell, List.getD_eq_getElem?_getD, List.getElem?_set]
  by_cases hm : n = m
  · subst hm
    simp [h]
  · simp [hm, Ne.symm hm]

/-- The grown table: the old cells, the new pointer, and NULL in the rest. -/
theorem cell_grown {A : Arch} {db : HandleDb α} {newMax cells : ℕ} {fresh : ℕ → Option α}
    (hs : WellSized A db) (hmax : db.maxPtrs < newMax) (hc : cells = newMax - db.maxPtrs)
    (ptr : Option α) (m : ℕ) :
    (⟨(teeMemFillNull ((List.range newMax).map fun i => db.ptrs.getD i (fresh i)) db.maxPtrs
      cells).set db.maxPtrs ptr, newMax⟩ : HandleDb α).cell m =
      if m = db.maxPtrs then ptr else db.cell m := by
  rw [cell_set ⟨_, newMax⟩ (by simpa [teeMemFillNull] using hmax)]
  congr 1
  by_cases hm : m < db.maxPtrs
  · have hl : m < db.ptrs.length := by rw [hs.length]; exact hm
    simp [HandleDb.cell, teeMemFillNull, List.getD_eq_getElem?_getD, hl, Nat.not_le.mpr hm,
      hm.trans hmax]
  · rw [cell_of_le hs (Nat.not_lt.mp hm)]
    by_cases hm' : m < newMax
    · simp [HandleDb.cell, teeMemFillNull, List.getD_eq_getElem?_getD, hm', Nat.not_lt.mp hm]
      omega
    · simp [HandleDb.cell, teeMemFillNull, List.getD_eq_getElem?_getD, hm']

/-- Everything a call of `handle_get` can do while the table fits. -/
theorem handleGet_cases {A : Arch} {db : HandleDb α} {ptr : Option α}
    {realloc : Option (ℕ → Option α)} (hs : WellSized A db)
    (hb : FitsTable A (handleGet A db ptr realloc).2.maxPtrs) :
    (handleGet A db ptr realloc = (-1, db) ∧
      (ptr = none ∨ realloc = none ∧ ∀ m < db.maxPtrs, db.cell m ≠ none)) ∨
    ∃ n : ℕ, (handleGet A db ptr realloc).1 = (n : ℤ) ∧ ptr ≠ none ∧ db.cell n = none ∧
      (∀ m < n, db.cell m ≠ none) ∧ WellSized A (handleGet A db ptr realloc).2 ∧
      ∀ m, (handleGet A db ptr realloc).2.cell m = if m = n then ptr else db.cell m := by
  have hsmall := hs.fits.lt
  by_cases hp : ptr = none
  · exact Or.inl ⟨by simp [handleGet, hp], Or.inl hp⟩
  have hp' : ptr.isNone = false := by simpa [Option.isSome_iff_ne_none] using hp
  cases hslot : emptySlot db db.maxPtrs 0 with
  | some n =>
    obtain ⟨-, hn, hfree, hbusy⟩ := emptySlot_some hslot
    have hrun : handleGet A db ptr realloc = (toInt n, { db with ptrs := db.ptrs.set n ptr }) := by
      simp [handleGet, hp', hslot]
    have hint : toInt n = n := toInt_of_lt (by omega)
    rw [hrun]
    dsimp only
    refine Or.inr ⟨n, hint, hp, hfree, ?_, ?_, ?_⟩
    · exact fun m hm => hbusy m (Nat.zero_le m) hm
    · exact ⟨by simpa using hs.length, hs.fits⟩
    · exact cell_set db (by rw [hs.length]; omega) ptr
  | none =>
    have hbusy := emptySlot_none hslot
    have hfull : ∀ m < db.maxPtrs, db.cell m ≠ none :=
      fun m hm => hbusy m (Nat.zero_le m) (by omega)
    cases realloc with
    | none =>
      exact Or.inl ⟨by simp [handleGet, hp', hslot, teeRealloc], Or.inr ⟨rfl, hfull⟩⟩
    | some fresh =>
      simp only [handleGet, hp', hslot, teeRealloc, hs.double, Option.map_some,
        Bool.false_eq_true, if_false] at hb ⊢
      generalize hnew : (if db.maxPtrs ≠ 0 then db.maxPtrs * 2 else handleDbInitialMaxPtrs) = newMax
        at hb ⊢
      have hgrow : db.maxPtrs < newMax := by
        rw [← hnew, handleDbInitialMaxPtrs]
        split_ifs <;> omega
      have hint : toInt db.maxPtrs = db.maxPtrs := toInt_of_lt (by omega)
      rw [cellsOf_of_fits hb le_rfl, cellsOf_of_fits hb (Nat.sub_le _ _)]
      refine Or.inr ⟨db.maxPtrs, hint, hp, cell_of_le hs le_rfl, hfull,
        ⟨by simp [teeMemFillNull], hb⟩, ?_⟩
      exact cell_grown hs hgrow rfl ptr

/-- The table grows only when no slot is free and the allocator grants the new block. -/
theorem handleGet_maxPtrs (A : Arch) (db : HandleDb α) (ptr : Option α)
    (realloc : Option (ℕ → Option α)) :
    (handleGet A db ptr realloc).2.maxPtrs = db.maxPtrs ∨
      (emptySlot db db.maxPtrs 0 = none ∧ realloc.isSome ∧
        (handleGet A db ptr realloc).2.maxPtrs =
          if db.maxPtrs ≠ 0 then db.maxPtrs * 2 % A.word else handleDbInitialMaxPtrs) := by
  by_cases hp : ptr.isNone
  · exact Or.inl (by rw [handleGet, if_pos hp])
  · rw [handleGet, if_neg hp]
    cases hslot : emptySlot db db.maxPtrs 0 with
    | some n => exact Or.inl rfl
    | none =>
      cases realloc with
      | none => exact Or.inl rfl
      | some fresh => exact Or.inr ⟨rfl, rfl, rfl⟩

theorem handlePut_maxPtrs (db : HandleDb α) (h : ℤ) :
    (handlePut db h).2.maxPtrs = db.maxPtrs := by
  unfold handlePut
  split_ifs
  · rfl
  · rfl

theorem handlePut_wellSized {A : Arch} {db : HandleDb α} (hs : WellSized A db) (h : ℤ) :
    WellSized A (handlePut db h).2 := by
  unfold handlePut
  split_ifs
  · exact hs
  · exact ⟨by simpa using hs.length, hs.fits⟩

theorem handlePut_fst (db : HandleDb α) (h : ℤ) : (handlePut db h).1 = handleLookup db h := by
  unfold handlePut handleLookup
  split_ifs <;> rfl

theorem handleLookup_put {A : Arch} {db : HandleDb α} (hs : WellSized A db) (h k : ℤ) :
    handleLookup (handlePut db h).2 k = if k = h then none else handleLookup db k := by
  rw [handleLookup_eq (handlePut_wellSized hs h), handleLookup_eq hs]
  unfold handlePut
  by_cases hr : h < 0 ∨ db.maxPtrs ≤ h.toNat
  · simp only [hr, if_true]
    by_cases hk : k = h
    · subst hk
      rcases hr with hr | hr
      · simp [hr]
      · simp [cell_of_le hs hr]
    · simp [hk]
  · simp only [hr, if_false]
    push Not at hr
    rw [cell_set db (by rw [hs.length]; exact hr.2)]
    by_cases hk : k = h
    · subst hk
      simp
    · by_cases hk0 : k < 0
      · simp [hk0]
      · have hne : k.toNat ≠ h.toNat := by omega
        simp [hk, hne]

theorem handleLookup_get {A : Arch} {db : HandleDb α} {ptr : Option α}
    {realloc : Option (ℕ → Option α)} {n : ℕ} (hs : WellSized A db)
    (hs' : WellSized A (handleGet A db ptr realloc).2)
    (hcell : ∀ m, (handleGet A db ptr realloc).2.cell m = if m = n then ptr else db.cell m)
    (k : ℤ) : handleLookup (handleGet A db ptr realloc).2 k =
      if k = n then ptr else handleLookup db k := by
  rw [handleLookup_eq hs', handleLookup_eq hs, hcell]
  by_cases hk : k = n
  · subst hk
    simp
  · by_cases hk0 : k < 0
    · simp [hk, hk0]
    · have hne : k.toNat ≠ n := by omega
      simp [hk, hne]

end HandleDatabase
