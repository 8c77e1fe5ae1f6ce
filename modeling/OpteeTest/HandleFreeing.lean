import OpteeTest.TypedHandles

/-! # What a free of a handle frees

Clients present any words here. The allocator only has to be one of a heap of the size the TA
declares: it never grants a table that is larger. -/
namespace HandleFreeing

open TeeApi GuardedRun HandleDatabase ArithTaf HandleWords TypedHandles

variable {β : Type*} {A : Arch} {typed : Prop} {s : ArithState β}

/-- `TA_DATA_SIZE`, the bytes of the heap that serves `TEE_Malloc` and `TEE_Realloc`. -/
def taDataSize : ℕ := 32 * 1024

def newMaxPtrs {α : Type*} (A : Arch) (db : HandleDb α) : ℕ :=
  if db.maxPtrs ≠ 0 then db.maxPtrs * 2 % A.word else handleDbInitialMaxPtrs

/-- A table that grows gets as many bytes as `TEE_Realloc` was asked for, and those are never
more than the heap has. -/
def HeapBounded (A : Arch) (s : ArithState β) (r : Request β) : Prop :=
  emptySlot s.hdb s.hdb.maxPtrs 0 = none → r.env.realloc.isSome →
    newMaxPtrs A s.hdb * A.sizeofPtr % A.word % 2 ^ 32 ≤ taDataSize

instance (A : Arch) (s : ArithState β) (r : Request β) : Decidable (HeapBounded A s r) :=
  inferInstanceAs (Decidable (_ → _ → _))

/-- The number of cells stays, or doubles because no slot was free and the heap allowed it. -/
def Grows (A : Arch) (r : Request β) (s t : ArithState β) : Prop :=
  t.hdb.maxPtrs = s.hdb.maxPtrs ∨ (emptySlot s.hdb s.hdb.maxPtrs 0 = none ∧
    r.env.realloc.isSome ∧ t.hdb.maxPtrs = newMaxPtrs A s.hdb)

theorem handleGet_grows {r : Request β} {t : ArithState β} (ptr : Option ℕ)
    (h : t.hdb = (handleGet A s.hdb ptr r.env.realloc).2) : Grows A r s t := by
  rw [Grows, h]
  exact handleGet_maxPtrs A s.hdb ptr r.env.realloc

theorem teeMalloc_hdb (env : Allocator β) (bytes : UInt32) (s : ArithState β) :
    (teeMalloc env bytes s).2.hdb = s.hdb := by
  unfold teeMalloc
  cases (env.malloc bytes).filter fun b => (s.heap b.1).isNone <;> rfl

theorem publish_grows {r : Request β} {t : ArithState β} {params : TeeParams} {T : HandleType}
    {ptr : Option ℕ} {init : ℕ → ArithState β → ArithState β} (ht : t.hdb = s.hdb)
    (hinit : ∀ p u, (init p u).hdb = u.hdb) :
    Grows A r s (publish A r.env params t T ptr init).state := by
  have hu : (getHandle A T ptr r.env.realloc t).2.hdb =
      (handleGet A s.hdb ptr r.env.realloc).2 := by rw [← ht]; rfl
  apply handleGet_grows ptr
  rw [← hu]
  unfold publish
  rcases getHandle A T ptr r.env.realloc t with ⟨_ | w, u⟩ <;> rcases ptr with _ | p
  · rfl
  · rfl
  · rfl
  · exact hinit p _

theorem newObject_grows {r : Request β} (params : TeeParams) (T : HandleType) (len : UInt32)
    (x : β) : Grows A r s (newObject A r.env params s T len x).state := by
  unfold newObject
  have hdb := teeMalloc_hdb r.env (len * 4) s
  generalize teeMalloc r.env (len * 4) s = m at hdb ⊢
  obtain ⟨_ | p, t⟩ := m
  · exact Or.inl (congrArg HandleDb.maxPtrs hdb)
  · have hstore : ∀ q (u : ArithState β), (u.store q x).hdb = u.hdb := fun _ _ => rfl
    exact publish_grows hdb hstore

theorem checkPt_grows {r : Request β} {t₀ t₁ t₂ t₃ : ParamType} {body : Outcome β}
    (h : Grows A r s body.state) :
    Grows A r s (checkPt t₀ t₁ t₂ t₃ r.paramTypes r.params s body).state := by
  unfold checkPt
  split_ifs
  · exact Or.inl rfl
  · exact h

theorem putHandle_maxPtrs {w : UInt32} {ptr : Option ℕ} {t : ArithState β}
    (h : putHandle w s = (ptr, t)) : t.hdb.maxPtrs = s.hdb.maxPtrs := by
  rw [putHandle_eq s rfl] at h
  obtain ⟨-, rfl⟩ := Prod.mk.inj h
  exact handlePut_maxPtrs s.hdb (index w)

theorem freeHandle_grows (r : Request β) :
    Grows A r s (taEntryArithFreeHandle r.paramTypes r.params s).state := by
  unfold taEntryArithFreeHandle
  refine checkPt_grows ?_
  split
  next t hput => exact Or.inl (putHandle_maxPtrs hput)
  next p t hput =>
    have hmax := putHandle_maxPtrs hput
    exact Or.inl hmax

theorem newFmmCtx_grows (api : BigIntApi β) (r : Request β) :
    Grows A r s (taEntryArithNewFmmCtx api A r.env r.paramTypes r.params s).state := by
  apply checkPt_grows
  cases lookupHandle s .bigint (r.params 0).value.b with
  | none => exact Or.inl rfl
  | some modulus =>
    exact publish_grows (teeMalloc_hdb r.env _ s) fun _ _ => rfl

theorem invoke_grows (api : BigIntApi β) (A : Arch) (s : ArithState β) (r : Request β) :
    Grows A r s (invokeCommand api A s r).state := by
  by_cases hc : Creates r.cmd
  · obtain ⟨cmd, paramTypes, params, env⟩ := r
    rcases hc with rfl | rfl | rfl
    · exact checkPt_grows (newObject_grows params _ _ _)
    · exact newFmmCtx_grows api ⟨.newFmmCtx, paramTypes, params, env⟩
    · exact checkPt_grows (newObject_grows params _ _ _)
  · by_cases hf : r.cmd = .freeHandle
    · simp only [invokeCommand, hf]
      exact freeHandle_grows r
    · exact Or.inl (congrArg HandleDb.maxPtrs (plain_usesOnly api A s r hc hf).hdb)

structure Held (A : Arch) (s : ArithState β) : Prop where
  bound : Bound False A s
  small : s.hdb.maxPtrs * A.sizeofPtr ≤ taDataSize

theorem Held.maxPtrs_le (h : Held A s) : s.hdb.maxPtrs ≤ 2 ^ 13 := by
  have hsmall := h.small
  cases A <;> simp only [Arch.sizeofPtr, taDataSize] at hsmall <;> omega

theorem Held.tableRoom (h : Held A s) (env : Allocator β) : TableRoom A s env := by
  intro _ _
  have hmax := h.maxPtrs_le
  exact fitsTable_of_lt A (by omega)

/-- Up to twice the size of the heap, no product that `handle_get` computes wraps. -/
theorem newMaxPtrs_bytes (h : Held A s) :
    newMaxPtrs A s.hdb * A.sizeofPtr % A.word % 2 ^ 32 = newMaxPtrs A s.hdb * A.sizeofPtr := by
  have hmax := h.maxPtrs_le
  have hword := A.word_ge
  have hnew : newMaxPtrs A s.hdb ≤ 2 ^ 14 := by
    unfold newMaxPtrs handleDbInitialMaxPtrs
    rw [h.bound.wellSized.double]
    split_ifs <;> omega
  have hbytes : newMaxPtrs A s.hdb * A.sizeofPtr < 2 ^ 32 := by
    cases A <;> simp only [Arch.sizeofPtr] <;> omega
  rw [Nat.mod_eq_of_lt (hbytes.trans_le hword), Nat.mod_eq_of_lt hbytes]

theorem invoke_held (api : BigIntApi β) (s : ArithState β) (r : Request β) (h : Held A s)
    (hr : HeapBounded A s r) : Held A (invokeCommand api A s r).state := by
  constructor
  · exact invoke_bound api s r h.bound False.elim fun _ => h.tableRoom r.env
  · rcases invoke_grows api A s r with hsame | ⟨hslot, hre, hgrow⟩
    · rw [hsame]
      exact h.small
    · have hheap := hr hslot hre
      rwa [newMaxPtrs_bytes h, ← hgrow] at hheap

theorem run_held (api : BigIntApi β) (A : Arch) {rs : List (Request β)}
    (hv : ValidTrace (fun s r => (invokeCommand api A s r).state) (HeapBounded A) initial rs) :
    Held A (run api A rs) :=
  invariant_run (invoke_held api) ⟨initial_bound False A, by simp [initial, handleDbInitializer]⟩ hv

variable {w : UInt32} {params : TeeParams}

theorem index_strip (w : UInt32) : index (w &&& ~~~htMask) = index w := by
  rw [index, UInt32.and_assoc, UInt32.and_self, index]

/-- The type bits of the word are gone twice before `handle_put` sees it. -/
theorem putHandle_strip (w : UInt32) (s : ArithState β) :
    putHandle (w &&& ~~~htMask) s =
      ((handlePut s.hdb (index w)).1, { s with hdb := (handlePut s.hdb (index w)).2 }) :=
  putHandle_eq s (index_strip w)

theorem handlePut_missing {α : Type*} {db : HandleDb α} {n : ℕ} (h : db.cell n = none) :
    handlePut db n = (none, db) := by
  unfold handlePut
  split_ifs with hn
  · rfl
  · have hptrs : db.ptrs.set n none = db.ptrs := by
      apply List.ext_getElem
      · simp
      · intro i hi hi'
        by_cases hin : i = n
        · subst hin
          rw [HandleDb.cell, List.getD_eq_getElem _ _ hi'] at h
          simp [h]
        · simp [List.getElem_set_ne (Ne.symm hin)]
    rw [Int.toNat_natCast, h, hptrs]

theorem freeHandle_missing (h : s.hdb.cell (index (params 0).value.a) = none)
    (paramTypes : UInt32) :
    taEntryArithFreeHandle paramTypes params s = ⟨teeErrorBadParameters, params, s⟩ := by
  unfold taEntryArithFreeHandle checkPt
  rw [putHandle_strip, handlePut_missing h]
  split_ifs <;> rfl

theorem handlePut_cell {db : HandleDb ℕ} (h : WellSized A db) (n i : ℕ) :
    (handlePut db n).2.cell i = if i = n then none else db.cell i := by
  have hlook := handleLookup_put h (n : ℤ) (i : ℤ)
  simpa only [handleLookup_natCast (handlePut_wellSized h _), handleLookup_natCast h,
    Nat.cast_inj] using hlook

def freeHandle (params : TeeParams) (s : ArithState β) : Outcome β :=
  taEntryArithFreeHandle (teeParamTypes .valueInput .none .none .none) params s

theorem freeHandle_found {p : ℕ} (h : WellSized A s.hdb)
    (hp : s.hdb.cell (index (params 0).value.a) = some p) :
    freeHandle params s = ⟨teeSuccess, params, teeFree (some p)
      { s with hdb := (handlePut s.hdb (index (params 0).value.a)).2 }⟩ := by
  have hput : (handlePut s.hdb (index (params 0).value.a)).1 = some p := by
    rw [handlePut_fst, handleLookup_natCast h, hp]
  unfold freeHandle taEntryArithFreeHandle checkPt
  rw [putHandle_strip, hput, if_neg (not_not.mpr rfl)]

/-- A free of the word `h` is exact: it succeeds for the live words only, then frees the one
object of `h` and makes `h`, and no other live word, invalid; any other word changes nothing. -/
structure FreesExactly (s : ArithState β) (h : UInt32) (out : Outcome β) : Prop where
  succeeds : out.res = teeSuccess ↔ ∃ l ∈ liveWords s.log, l.word = h
  freed : ∀ l ∈ liveWords s.log, l.word = h → out.state.heap = Function.update s.heap l.ptr none
  gone : (∃ l ∈ liveWords s.log, l.word = h) → ∀ T, lookupHandle out.state T h = none
  words : liveWords out.state.log = (liveWords s.log).filter fun l => l.word ≠ h
  others : ∀ l ∈ liveWords s.log, l.word ≠ h →
    lookupHandle out.state l.type l.word = some l.ptr
  refused : (∀ l ∈ liveWords s.log, l.word ≠ h) →
    out.res = teeErrorBadParameters ∧ out.state = s

theorem liveWords_teeFree (p : ℕ) (db : HandleDb ℕ) (s : ArithState β) :
    liveWords (teeFree (some p) { s with hdb := db }).log =
      (liveWords s.log).filter fun l => l.ptr ≠ p := rfl

/-- Under the invariant a live word is known by its object as well as by its index. -/
theorem live_ptr_iff (h : Held A s) {l k : LiveWord} (hl : l ∈ liveWords s.log)
    (hk : k ∈ liveWords s.log) : k.ptr = l.ptr ↔ k.word = l.word := by
  constructor
  · intro hptr
    rw [h.bound.ptr_unique hk hl hptr]
  · intro hword
    rw [h.bound.unique k hk l hl (congrArg index hword)]

/-- After the free of cell `n` the other indices are looked up as before. -/
theorem lookup_freed (h : Held A s) (p n : ℕ) (T : HandleType) (w : UInt32) :
    lookupHandle (teeFree (some p) { s with hdb := (handlePut s.hdb n).2 }) T w =
      if w &&& htMask = T.tag then if index w = n then none else s.hdb.cell (index w)
      else none := by
  have hws := h.bound.wellSized
  change (if _ then handleLookup (handlePut s.hdb n).2 _ else none) = _
  rw [toInt_index, handleLookup_natCast (handlePut_wellSized hws _), handlePut_cell hws]

theorem freesExactly_live (h : Held A s) {l : LiveWord} (hl : l ∈ liveWords s.log)
    (hword : l.word = (params 0).value.a) :
    FreesExactly s (params 0).value.a (freeHandle params s) := by
  have hcell := h.bound.held l hl
  rw [hword] at hcell
  rw [freeHandle_found h.bound.wellSized hcell, ← hword]
  constructor
  · exact iff_of_true rfl ⟨l, hl, rfl⟩
  · intro k hk hkl
    rw [(live_ptr_iff h hl hk).mpr hkl]
    rfl
  · intro _ T
    simp [lookup_freed h]
  · rw [liveWords_teeFree]
    refine List.filter_congr fun k hk => ?_
    simp [live_ptr_iff h hl hk]
  · intro k hk hkl
    have hindex : index k.word ≠ index l.word := by
      intro heq
      exact hkl (congrArg LiveWord.word (h.bound.unique k hk l hl heq))
    rw [lookup_freed h, if_pos (h.bound.live_tag hk), if_neg hindex]
    exact h.bound.held k hk
  · intro hno
    exact (hno l hl rfl).elim

theorem freesExactly_unheld (h : Held A s)
    (hnone : ∀ l ∈ liveWords s.log, index l.word ≠ index (params 0).value.a) :
    FreesExactly s (params 0).value.a (freeHandle params s) := by
  have hcell : s.hdb.cell (index (params 0).value.a) = none := by
    cases hc : s.hdb.cell (index (params 0).value.a) with
    | none => rfl
    | some p =>
      obtain ⟨T, hT⟩ := h.bound.issued _ _ hc
      exact (hnone _ hT (index_wordOf T (index_lt _))).elim
  have hne : ∀ l ∈ liveWords s.log, l.word ≠ (params 0).value.a :=
    fun l hl hword => hnone l hl (congrArg index hword)
  have hno : ¬ ∃ l ∈ liveWords s.log, l.word = (params 0).value.a :=
    fun ⟨l, hl, hword⟩ => hne l hl hword
  have hbad : teeErrorBadParameters ≠ teeSuccess := by decide
  rw [freeHandle, freeHandle_missing hcell]
  constructor
  · exact iff_of_false hbad hno
  · exact fun l hl hword => (hne l hl hword).elim
  · exact fun hsome => (hno hsome).elim
  · exact (List.filter_eq_self.mpr fun l hl => by simpa using hne l hl).symm
  · intro l hl _
    exact h.bound.lookup_own hl
  · exact fun _ => ⟨rfl, rfl⟩

theorem free_handle_exact_iff (api : BigIntApi β) (A : Arch) (rs : List (Request β))
    (params : TeeParams)
    (hv : ValidTrace (fun s r => (invokeCommand api A s r).state) (HeapBounded A) initial rs) :
    FreesExactly (run api A rs) (params 0).value.a (freeHandle params (run api A rs)) ↔
      (∃ l ∈ liveWords (run api A rs).log, l.word = (params 0).value.a) ∨
        ∀ l ∈ liveWords (run api A rs).log, index l.word ≠ index (params 0).value.a := by
  have h := run_held api A hv
  generalize run api A rs = s at h ⊢
  constructor
  · intro hexact
    by_contra hcon
    obtain ⟨hno, hindex⟩ := not_or.mp hcon
    push Not at hindex
    obtain ⟨l, hl, hindex⟩ := hindex
    have hcell := h.bound.held l hl
    rw [hindex] at hcell
    refine hno (hexact.succeeds.mp ?_)
    rw [freeHandle_found h.bound.wellSized hcell]
  · rintro (⟨l, hl, hword⟩ | hnone)
    · exact freesExactly_live h hl hword
    · exact freesExactly_unheld h hnone

theorem free_handle_exact_reuse :
    FreesExactly (run intApi .arm32 reuseRequests) 0x80000001
      (freeHandle (valueParams (0x80000001, 0) (0, 0) (0, 0)) (run intApi .arm32 reuseRequests)) :=
  (free_handle_exact_iff intApi .arm32 reuseRequests (valueParams (0x80000001, 0) (0, 0) (0, 0))
    (by decide +kernel)).mpr (Or.inl (by decide +kernel))

def oneRequest : List (Request ℤ) :=
  [request .newVar (teeParamTypes .valueInput .valueOutput .none .none) (64, 0) (0, 0) (0, 0) 100]

/-- The word 0 was never issued, and frees the big integer. -/
theorem not_exact_untagged_word :
    ValidTrace (fun s r => (invokeCommand intApi .arm32 s r).state) (HeapBounded .arm32) initial
        oneRequest ∧
      ¬ FreesExactly (run intApi .arm32 oneRequest) 0
        (freeHandle (valueParams (0, 0) (0, 0) (0, 0)) (run intApi .arm32 oneRequest)) := by
  refine ⟨by decide +kernel, fun hexact => ?_⟩
  have hlive := hexact.succeeds.mp (by decide +kernel)
  revert hlive
  decide +kernel

end HandleFreeing
