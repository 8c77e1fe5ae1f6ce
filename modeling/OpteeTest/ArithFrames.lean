import OpteeTest.HandleFreeing

/-! # What an arithmetic command leaves alone

A command that finds a type, a word, the heap or the table wanting changes nothing; one that
succeeds changes its destinations, and otherwise only what it creates or frees. -/
namespace ArithFrames

open TeeApi GuardedRun HandleDatabase ArithTaf HandleWords TypedHandles HandleFreeing

variable {β : Type*} {A : Arch} {s t : ArithState β}

def checkedTypes : ArithCmd → UInt32
  | .newVar | .newFmmCtx | .newFmmVar | .getValueS32 | .getBit | .getBitCount | .cmp | .cmpS32
  | .isRelativePrime | .isPrime => teeParamTypes .valueInput .valueOutput .none .none
  | .freeHandle | .fromS32 | .neg | .sqr => teeParamTypes .valueInput .none .none .none
  | .fromOctetString => teeParamTypes .valueInput .memrefInput .none .none
  | .getValue => teeParamTypes .valueInput .valueOutput .memrefOutput .none
  | .computeEgcd | .computeFmm => teeParamTypes .valueInput .valueInput .valueInput .none
  | .shiftRight | .add | .sub | .mul | .div | .mod | .addmod | .submod | .mulmod | .sqrmod
  | .invmod | .toFmm | .fromFmm => teeParamTypes .valueInput .valueInput .none .none

def optionalOperand (word : UInt32) : List Operand :=
  if word ≠ taCryptArithInvalidHandle then [⟨.bigint, word⟩] else []

/-- The operands that must be found: all but the optional ones that are left out. -/
def required (params : TeeParams) : ArithCmd → List Operand
  | .computeEgcd =>
    [⟨.bigint, (params 0).value.a⟩, ⟨.bigint, (params 0).value.b⟩,
      ⟨.bigint, (params 2).value.a⟩] ++ optionalOperand (params 1).value.a ++
      optionalOperand (params 1).value.b
  | cmd => operands params cmd

def newBytes (api : BigIntApi β) (params : TeeParams) : ArithCmd → UInt32
  | .newFmmCtx => api.fmmContextSizeInU32 (params 0).value.a * 4
  | .newFmmVar => api.fmmSizeInU32 (params 0).value.a * 4
  | _ => teeBigIntSizeInU32 (params 0).value.a * 4

def TableStuck (s : ArithState β) (env : Allocator β) : Prop :=
  emptySlot s.hdb s.hdb.maxPtrs 0 = none ∧ env.realloc = none

/-- A parameter type or a handle word is invalid, `TEE_Malloc` fails, or the table is full and
cannot grow. -/
inductive FailsEarly (api : BigIntApi β) (s : ArithState β) (r : Request β) : Prop
  | types (h : r.paramTypes ≠ checkedTypes r.cmd)
  | handle (o : Operand) (ho : o ∈ required r.params r.cmd)
      (h : lookupHandle s o.type o.word = none)
  | unheld (hcmd : r.cmd = .freeHandle)
      (h : (putHandle ((r.params 0).value.a &&& ~~~htMask) s).1 = none)
  | memory (hcmd : Creates r.cmd) (h : (teeMalloc r.env (newBytes api r.params r.cmd) s).1 = none)
  | table (hcmd : Creates r.cmd) (h : TableStuck s r.env)

def destinations (params : TeeParams) : ArithCmd → List Operand
  | .fromOctetString | .fromS32 => [⟨.bigint, (params 0).value.a⟩]
  | .neg | .sqr => [⟨.bigint, (params 0).value.b⟩]
  | .shiftRight | .add | .sub | .mul | .mod | .sqrmod | .invmod =>
    [⟨.bigint, (params 1).value.a⟩]
  | .addmod | .submod | .mulmod | .fromFmm => [⟨.bigint, (params 1).value.b⟩]
  | .div => [⟨.bigint, (params 1).value.a⟩, ⟨.bigint, (params 1).value.b⟩]
  | .computeEgcd =>
    [⟨.bigint, (params 2).value.a⟩, ⟨.bigint, (params 1).value.a⟩,
      ⟨.bigint, (params 1).value.b⟩]
  | .toFmm => [⟨.fmmvar, (params 1).value.b⟩]
  | .computeFmm => [⟨.fmmvar, (params 2).value.a⟩]
  | _ => []

def Denoted (s : ArithState β) (os : List Operand) (p : ℕ) : Prop :=
  ∃ o ∈ os, lookupHandle s o.type o.word = some p

def Freed (s : ArithState β) (r : Request β) (p : ℕ) : Prop :=
  r.cmd = .freeHandle ∧ (putHandle ((r.params 0).value.a &&& ~~~htMask) s).1 = some p

/-- The table, the live blocks with their contents and the live words are the same. -/
structure Unchanged (s t : ArithState β) : Prop where
  hdb : t.hdb = s.hdb
  heap : t.heap = s.heap
  words : liveWords t.log = liveWords s.log

structure Framed (api : BigIntApi β) (s : ArithState β) (r : Request β) (out : Outcome β) :
    Prop where
  unchanged : FailsEarly api s r →
    out.res ≠ teeSuccess ∧ out.params = r.params ∧ Unchanged s out.state
  /-- Only three commands pass on the result of the conversion that they call. -/
  succeeds : ¬ FailsEarly api s r → out.res = teeSuccess ∨ r.cmd = .fromOctetString ∨
    r.cmd = .getValue ∨ r.cmd = .getValueS32
  frame : out.res = teeSuccess → ∀ p, (s.heap p).isSome →
    ¬ Denoted s (destinations r.params r.cmd) p → ¬ Freed s r p → out.state.heap p = s.heap p

/-- From `s` to `t` a command wrote only objects of the words `os`. -/
structure WritesOnly (os : List Operand) (s t : ArithState β) : Prop where
  hdb : t.hdb = s.hdb
  heap : ∀ p, ¬ Denoted s os p → t.heap p = s.heap p

variable {os : List Operand}

theorem WritesOnly.record (os : List Operand) (s : ArithState β) (es : List Event) :
    WritesOnly os s (s.record es) := ⟨rfl, fun _ _ => rfl⟩

theorem WritesOnly.store {o : Operand} {p : ℕ} (h : WritesOnly os s t) (ho : o ∈ os)
    (hp : lookupHandle s o.type o.word = some p) (x : β) : WritesOnly os s (t.store p x) := by
  refine ⟨h.hdb, fun q hq => ?_⟩
  have hne : q ≠ p := by
    rintro rfl
    exact hq ⟨o, ho, hp⟩
  exact (Function.update_of_ne hne _ _).trans (h.heap q hq)

/-- What a command does that looks up `need`, writes objects of `os`, and passes on a result of
the API only if `passes`. -/
structure Uses (need os : List Operand) (passes : Prop) (types paramTypes : UInt32)
    (params : TeeParams) (s : ArithState β) (out : Outcome β) : Prop where
  failed : (paramTypes ≠ types ∨ ∃ o ∈ need, lookupHandle s o.type o.word = none) →
    out = ⟨teeErrorBadParameters, params, s⟩
  passed : paramTypes = types → (∀ o ∈ need, lookupHandle s o.type o.word ≠ none) →
    out.res = teeSuccess ∨ passes
  frame : WritesOnly os s out.state

theorem lookups_cases {n : ℕ} (ops : Fin n → Operand) (s : ArithState β) :
    (lookups s ops = none ∧ ∃ i, lookupHandle s (ops i).type (ops i).word = none) ∨
    ∃ p, lookups s ops = some p ∧ ∀ i, lookupHandle s (ops i).type (ops i).word = some (p i) := by
  cases hp : lookups s ops with
  | none =>
    refine Or.inl ⟨rfl, ?_⟩
    unfold lookups at hp
    split_ifs at hp with hall
    simpa using hall
  | some p => exact Or.inr ⟨p, rfl, lookups_eq_some hp⟩

variable {need : List Operand} {passes : Prop} {types paramTypes : UInt32} {params : TeeParams}

theorem uses_refused
    (h : paramTypes ≠ types ∨ ∃ o ∈ need, lookupHandle s o.type o.word = none) :
    Uses need os passes types paramTypes params s ⟨teeErrorBadParameters, params, s⟩ := by
  refine ⟨fun _ => rfl, fun htypes hfound => ?_, rfl, fun _ _ => rfl⟩
  rcases h with hne | ⟨o, ho, hnone⟩
  · exact (hne htypes).elim
  · exact (hfound o ho hnone).elim

theorem uses_done {out : Outcome β} (htypes : paramTypes = types)
    (hfound : ∀ o ∈ need, lookupHandle s o.type o.word ≠ none)
    (hres : out.res = teeSuccess ∨ passes) (hframe : WritesOnly os s out.state) :
    Uses need os passes types paramTypes params s out := by
  refine ⟨?_, fun _ _ => hres, hframe⟩
  rintro (hne | ⟨o, ho, hnone⟩)
  · exact (hne htypes).elim
  · exact (hfound o ho hnone).elim

theorem checked_withObjects {n : ℕ} {ops : Fin n → Operand} {t₀ t₁ t₂ t₃ : ParamType}
    {body : (Fin n → ℕ) → ArithState β → Outcome β} (hneed : need = List.ofFn ops)
    (hres : ∀ p u, (body p u).res = teeSuccess ∨ passes)
    (hframe : ∀ p u, (∀ i, lookupHandle s (ops i).type (ops i).word = some (p i)) →
      WritesOnly os s u → WritesOnly os s (body p u).state) :
    Uses need os passes (teeParamTypes t₀ t₁ t₂ t₃) paramTypes params s
      (checkPt t₀ t₁ t₂ t₃ paramTypes params s (withObjects ops params s body)) := by
  subst hneed
  unfold checkPt withObjects
  split_ifs with htypes
  · exact uses_refused (Or.inl htypes)
  rcases lookups_cases ops s with ⟨hp, i, hi⟩ | ⟨p, hp, hall⟩
  · rw [hp]
    exact uses_refused (Or.inr ⟨ops i, List.mem_ofFn.mpr ⟨i, rfl⟩, hi⟩)
  · rw [hp]
    refine uses_done (not_not.mp htypes) ?_ (hres p _) (hframe p _ hall (.record os s _))
    intro o ho
    obtain ⟨i, rfl⟩ := List.mem_ofFn.mp ho
    simp [hall i]

theorem WritesOnly.storeOpt {o : Operand} {u : Option ℕ} (h : WritesOnly os s t) (ho : o ∈ os)
    (hu : ∀ p, u = some p → lookupHandle s o.type o.word = some p) (x : β) :
    WritesOnly os s (t.storeOpt u x) := by
  cases u with
  | none => exact h
  | some p => exact h.store ho (hu p rfl) x

theorem optionalLookup_cases (s : ArithState β) (word : UInt32) :
    (optionalLookup s word = none ∧
      ∃ o ∈ optionalOperand word, lookupHandle s o.type o.word = none) ∨
    ∃ u, optionalLookup s word = some u ∧
      (∀ o ∈ optionalOperand word, lookupHandle s o.type o.word ≠ none) ∧
      ∀ p, u = some p → lookupHandle s .bigint word = some p := by
  unfold optionalLookup optionalOperand
  by_cases hword : word = taCryptArithInvalidHandle
  · rw [if_neg (not_not.mpr hword), if_neg (not_not.mpr hword)]
    exact Or.inr ⟨none, rfl, by simp, by simp⟩
  · rw [if_pos hword, if_pos hword]
    cases hl : lookupHandle s .bigint word with
    | none => exact Or.inl ⟨rfl, _, List.mem_singleton_self _, hl⟩
    | some p => exact Or.inr ⟨some p, rfl, by simp [hl], by simp⟩

variable (api : BigIntApi β)

theorem computeEgcd_uses (paramTypes : UInt32) (params : TeeParams) (s : ArithState β) :
    Uses (required params .computeEgcd) (destinations params .computeEgcd) passes
      (checkedTypes .computeEgcd) paramTypes params s
      (taEntryArithComputeEgcd api paramTypes params s) := by
  unfold taEntryArithComputeEgcd checkPt
  split_ifs with htypes
  · exact uses_refused (Or.inl htypes)
  dsimp only
  have hneed : required params .computeEgcd = List.ofFn
      ![⟨.bigint, (params 0).value.a⟩, ⟨.bigint, (params 0).value.b⟩,
        ⟨.bigint, (params 2).value.a⟩] ++ optionalOperand (params 1).value.a ++
      optionalOperand (params 1).value.b := rfl
  have hgcd : (![⟨.bigint, (params 0).value.a⟩, ⟨.bigint, (params 0).value.b⟩,
      ⟨.bigint, (params 2).value.a⟩] : Fin 3 → Operand) 2 = ⟨.bigint, (params 2).value.a⟩ := rfl
  generalize (![⟨.bigint, (params 0).value.a⟩, ⟨.bigint, (params 0).value.b⟩,
    ⟨.bigint, (params 2).value.a⟩] : Fin 3 → Operand) = ops at hneed hgcd ⊢
  rw [hneed]
  rcases lookups_cases ops s with ⟨hp, i, hi⟩ | ⟨p, hp, hall⟩
  · rw [hp]
    have hmem : ops i ∈ List.ofFn ops := List.mem_ofFn.mpr ⟨i, rfl⟩
    exact uses_refused (Or.inr ⟨ops i, List.mem_append_left _ (List.mem_append_left _ hmem), hi⟩)
  rcases optionalLookup_cases s (params 1).value.a with ⟨hu, o, ho, hnone⟩ | ⟨u, hu, hfu, hsu⟩
  · rw [hp, hu]
    exact uses_refused (Or.inr ⟨o, by simp [ho], hnone⟩)
  rcases optionalLookup_cases s (params 1).value.b with ⟨hv, o, ho, hnone⟩ | ⟨v, hv, hfv, hsv⟩
  · rw [hp, hu, hv]
    exact uses_refused (Or.inr ⟨o, by simp [ho], hnone⟩)
  rw [hp, hu, hv]
  refine uses_done (not_not.mp htypes) ?_ (Or.inl rfl) ?_
  · intro o ho
    rcases List.mem_append.mp ho with ho | ho
    · rcases List.mem_append.mp ho with ho | ho
      · obtain ⟨i, rfl⟩ := List.mem_ofFn.mp ho
        simp [hall i]
      · exact hfu o ho
    · exact hfv o ho
  · have hp₂ := hall 2
    rw [hgcd] at hp₂
    exact (((WritesOnly.record _ s _).store List.mem_cons_self hp₂ _).storeOpt
      (List.mem_cons_of_mem _ List.mem_cons_self) hsu _).storeOpt
      (List.mem_cons_of_mem _ (List.mem_cons_of_mem _ List.mem_cons_self)) hsv _

theorem plain_uses (r : Request β) (s : ArithState β) (hc : ¬ Creates r.cmd)
    (hf : r.cmd ≠ .freeHandle) :
    Uses (required r.params r.cmd) (destinations r.params r.cmd)
      (r.cmd = .fromOctetString ∨ r.cmd = .getValue ∨ r.cmd = .getValueS32) (checkedTypes r.cmd)
      r.paramTypes r.params s (invokeCommand api A s r) := by
  obtain ⟨cmd, paramTypes, params, env⟩ := r
  cases cmd with
  | newVar => exact (hc (Or.inl rfl)).elim
  | newFmmCtx => exact (hc (Or.inr (Or.inl rfl))).elim
  | newFmmVar => exact (hc (Or.inr (Or.inr rfl))).elim
  | freeHandle => exact (hf rfl).elim
  | computeEgcd => exact computeEgcd_uses api paramTypes params s
  | fromOctetString =>
    refine checked_withObjects rfl (fun _ _ => Or.inr (Or.inl rfl)) ?_
    exact fun _ _ hp hu => hu.store List.mem_cons_self (hp 0) _
  | getValue | getValueS32 =>
    refine checked_withObjects rfl (fun _ _ => Or.inr (by simp)) ?_
    exact fun _ _ _ hu => hu
  | getBit | getBitCount | cmp | cmpS32 | isRelativePrime | isPrime =>
    refine checked_withObjects rfl (fun _ _ => Or.inl rfl) ?_
    exact fun _ _ _ hu => hu
  | fromS32 =>
    refine checked_withObjects rfl (fun _ _ => Or.inl rfl) ?_
    exact fun _ _ hp hu => hu.store List.mem_cons_self (hp 0) _
  | neg | sqr | shiftRight =>
    refine checked_withObjects rfl (fun _ _ => Or.inl rfl) ?_
    exact fun _ _ hp hu => hu.store List.mem_cons_self (hp 1) _
  | add | sub | mul | mod | sqrmod | invmod =>
    refine checked_withObjects rfl (fun _ _ => Or.inl rfl) ?_
    exact fun _ _ hp hu => hu.store List.mem_cons_self (hp 2) _
  | div =>
    refine checked_withObjects rfl (fun _ _ => Or.inl rfl) ?_
    exact fun _ _ hp hu => (hu.store List.mem_cons_self (hp 2) _).store
      (List.mem_cons_of_mem _ List.mem_cons_self) (hp 3) _
  | addmod | submod | mulmod | toFmm | fromFmm =>
    refine checked_withObjects rfl (fun _ _ => Or.inl rfl) ?_
    exact fun _ _ hp hu => hu.store List.mem_cons_self (hp 3) _
  | computeFmm =>
    refine checked_withObjects rfl (fun _ _ => Or.inl rfl) ?_
    exact fun _ _ hp hu => hu.store List.mem_cons_self (hp 4) _

variable {api} {r : Request β} {out : Outcome β}

theorem Unchanged.refl (s : ArithState β) : Unchanged s s := ⟨rfl, rfl, rfl⟩

theorem framed_refused (hfail : FailsEarly api s r) (hres : out.res ≠ teeSuccess)
    (hparams : out.params = r.params) (hsame : Unchanged s out.state) : Framed api s r out :=
  ⟨fun _ => ⟨hres, hparams, hsame⟩, fun hok => (hok hfail).elim, fun h => (hres h).elim⟩

theorem framed_done (hok : ¬ FailsEarly api s r)
    (hres : out.res = teeSuccess ∨ r.cmd = .fromOctetString ∨ r.cmd = .getValue ∨
      r.cmd = .getValueS32)
    (hframe : ∀ p, (s.heap p).isSome → ¬ Denoted s (destinations r.params r.cmd) p →
      ¬ Freed s r p → out.state.heap p = s.heap p) : Framed api s r out :=
  ⟨fun hfail => (hok hfail).elim, fun _ => hres, fun _ => hframe⟩

theorem badParameters_ne : teeErrorBadParameters ≠ teeSuccess := by decide

theorem framed_bad (hfail : FailsEarly api s r) :
    Framed api s r ⟨teeErrorBadParameters, r.params, s⟩ :=
  framed_refused hfail badParameters_ne rfl (.refl s)

theorem plain_framed (hc : ¬ Creates r.cmd) (hf : r.cmd ≠ .freeHandle) :
    Framed api s r (invokeCommand api A s r) := by
  have huses := plain_uses (A := A) api r s hc hf
  by_cases hfail : FailsEarly api s r
  · have hchecks : r.paramTypes ≠ checkedTypes r.cmd ∨
        ∃ o ∈ required r.params r.cmd, lookupHandle s o.type o.word = none := by
      cases hfail with
      | types h => exact Or.inl h
      | handle o ho h => exact Or.inr ⟨o, ho, h⟩
      | unheld hcmd h => exact (hf hcmd).elim
      | memory hcmd h => exact (hc hcmd).elim
      | table hcmd h => exact (hc hcmd).elim
    rw [huses.failed hchecks]
    exact framed_bad hfail
  · refine framed_done hfail (huses.passed ?_ ?_) fun p _ hp _ => huses.frame.heap p hp
    · by_contra htypes
      exact hfail (.types htypes)
    · exact fun o ho hnone => hfail (.handle o ho hnone)

theorem freeHandle_framed (h : Held A s) (hcmd : r.cmd = .freeHandle) :
    Framed api s r (taEntryArithFreeHandle r.paramTypes r.params s) := by
  have hput := putHandle_strip (r.params 0).value.a s
  have hws := h.bound.wellSized
  cases hcell : s.hdb.cell (index (r.params 0).value.a) with
  | none =>
    rw [freeHandle_missing hcell]
    refine framed_bad (.unheld hcmd ?_)
    rw [hput, handlePut_missing hcell]
  | some p =>
    have hptr : (putHandle ((r.params 0).value.a &&& ~~~htMask) s).1 = some p := by
      rw [hput, handlePut_fst, handleLookup_natCast hws, hcell]
    by_cases htypes : r.paramTypes = checkedTypes r.cmd
    · have hrun := freeHandle_found hws hcell
      rw [freeHandle] at hrun
      have htypes' : r.paramTypes = teeParamTypes .valueInput .none .none .none := by
        rw [htypes, hcmd]
        rfl
      rw [htypes', hrun]
      refine framed_done ?_ (Or.inl rfl) fun q _ _ hq => ?_
      · rintro (hne | ⟨o, ho, -⟩ | ⟨-, hnone⟩ | ⟨hc, -⟩ | ⟨hc, -⟩)
        · exact hne htypes
        · rw [hcmd] at ho
          cases ho
        · rw [hptr] at hnone
          cases hnone
        · rw [hcmd] at hc
          revert hc
          decide
        · rw [hcmd] at hc
          revert hc
          decide
      · have hne : q ≠ p := by
          rintro rfl
          exact hq ⟨hcmd, hptr⟩
        exact Function.update_of_ne hne _ _
    · rw [taEntryArithFreeHandle, checkPt, if_pos]
      · exact framed_bad (.types htypes)
      · rw [hcmd] at htypes
        exact htypes

/-- `handle_get` of a real pointer fails only when the table is stuck. -/
theorem handleGet_cases_stuck (h : Held A s) (p : ℕ) (env : Allocator β) :
    (TableStuck s env ∧ handleGet A s.hdb (some p) env.realloc = (-1, s.hdb)) ∨
    (¬ TableStuck s env ∧ 0 ≤ (handleGet A s.hdb (some p) env.realloc).1) := by
  have hmax := h.maxPtrs_le
  unfold TableStuck handleGet
  rw [if_neg (by simp)]
  cases hslot : emptySlot s.hdb s.hdb.maxPtrs 0 with
  | some n =>
    have hn := (emptySlot_some hslot).2.1
    refine Or.inr ⟨by simp, ?_⟩
    dsimp only
    rw [toInt_of_lt (by omega)]
    exact Int.natCast_nonneg n
  | none =>
    cases hre : env.realloc with
    | none => exact Or.inl ⟨⟨rfl, rfl⟩, rfl⟩
    | some fresh =>
      refine Or.inr ⟨by simp, ?_⟩
      dsimp only [teeRealloc, Option.map_some]
      rw [toInt_of_lt (by omega)]
      exact Int.natCast_nonneg _

variable {env : Allocator β} {T : HandleType} {init : ℕ → ArithState β → ArithState β}

theorem publish_none : publish A env params s T none init = ⟨teeErrorOutOfMemory, params, s⟩ :=
  rfl

theorem publish_cases_stuck (h : Held A s) (ht : t.hdb = s.hdb) (p : ℕ) (env : Allocator β)
    (params : TeeParams) (T : HandleType) (init : ℕ → ArithState β → ArithState β) :
    (TableStuck s env ∧ publish A env params t T (some p) init =
      ⟨teeErrorOutOfMemory, params, teeFree (some p) t⟩) ∨
    (¬ TableStuck s env ∧ ∃ u,
      (publish A env params t T (some p) init).state = init p u ∧
      (publish A env params t T (some p) init).res = teeSuccess ∧ u.heap = t.heap) := by
  unfold publish getHandle
  rw [ht]
  rcases handleGet_cases_stuck h p env with ⟨hstuck, hget⟩ | ⟨hfree, hget⟩
  · refine Or.inl ⟨hstuck, ?_⟩
    rw [hget, ← ht]
    rfl
  · refine Or.inr ⟨hfree, ?_⟩
    dsimp only
    rw [if_neg (not_lt.mpr hget)]
    exact ⟨_, rfl, rfl, rfl⟩

theorem teeMalloc_new (env : Allocator β) (bytes : UInt32) (s : ArithState β) :
    teeMalloc env bytes s = (none, s) ∨
    ∃ p x, teeMalloc env bytes s = (some p, s.store p x) ∧ s.heap p = none := by
  unfold teeMalloc
  cases hm : (env.malloc bytes).filter fun b => (s.heap b.1).isNone with
  | none => exact Or.inl rfl
  | some b => exact Or.inr ⟨b.1, b.2, rfl, by simpa using (Option.filter_eq_some_iff.mp hm).2⟩

theorem unchanged_freed (h : Held A s) {p : ℕ} (hp : s.heap p = none) (x : β) :
    Unchanged s (teeFree (some p) (s.store p x)) := by
  refine ⟨rfl, ?_, ?_⟩
  · change Function.update (Function.update s.heap p (some x)) p none = s.heap
    rw [Function.update_idem, ← hp, Function.update_eq_self]
  · refine List.filter_eq_self.mpr fun l hl => ?_
    have hlive := h.bound.live _ _ (h.bound.held l hl)
    have hne : l.ptr ≠ p := by
      rintro rfl
      rw [hp] at hlive
      cases hlive
    simpa using hne

/-- The two ends of a `new` command whose types and operands are right. -/
theorem created_framed (h : Held A s) (hc : Creates r.cmd)
    (htypes : r.paramTypes = checkedTypes r.cmd)
    (hneed : ∀ o ∈ required r.params r.cmd, lookupHandle s o.type o.word ≠ none)
    (hinit : ∀ p u q, q ≠ p → (init p u).heap q = u.heap q) :
    Framed api s r (publish A r.env r.params
      (teeMalloc r.env (newBytes api r.params r.cmd) s).2 T
      (teeMalloc r.env (newBytes api r.params r.cmd) s).1 init) := by
  have hmemory : teeErrorOutOfMemory ≠ teeSuccess := by decide
  rcases teeMalloc_new r.env (newBytes api r.params r.cmd) s with hm | ⟨p, x, hm, hp⟩
  · rw [hm, publish_none]
    exact framed_refused (.memory hc (by rw [hm])) hmemory rfl (.refl s)
  · rw [hm]
    have ht : (s.store p x).hdb = s.hdb := rfl
    rcases publish_cases_stuck h ht p r.env r.params T init with
      ⟨hstuck, hrun⟩ | ⟨hfree, u, hstate, hres, hu⟩
    · rw [hrun]
      exact framed_refused (.table hc hstuck) hmemory rfl (unchanged_freed h hp x)
    · refine framed_done ?_ (Or.inl hres) fun q hlive _ _ => ?_
      · rintro (hne | ⟨o, ho, hnone⟩ | ⟨hcmd, -⟩ | ⟨-, hnone⟩ | ⟨-, hstuck⟩)
        · exact hne htypes
        · exact hneed o ho hnone
        · rw [hcmd] at hc
          revert hc
          decide
        · rw [hm] at hnone
          cases hnone
        · exact hfree hstuck
      · have hne : q ≠ p := by
          rintro rfl
          rw [hp] at hlive
          cases hlive
        rw [hstate, hinit p u q hne, hu]
        exact Function.update_of_ne hne _ _

theorem newObject_eq (T : HandleType) (len : UInt32) (x : β) :
    newObject A env params s T len x =
      publish A env params (teeMalloc env (len * 4) s).2 T (teeMalloc env (len * 4) s).1
        fun p u => u.store p x := by
  unfold newObject
  rcases teeMalloc env (len * 4) s with ⟨_ | p, t⟩
  · rfl
  · rfl

theorem checked_framed {t₀ t₁ t₂ t₃ : ParamType} {body : Outcome β}
    (htypes : checkedTypes r.cmd = teeParamTypes t₀ t₁ t₂ t₃)
    (hbody : r.paramTypes = checkedTypes r.cmd → Framed api s r body) :
    Framed api s r (checkPt t₀ t₁ t₂ t₃ r.paramTypes r.params s body) := by
  unfold checkPt
  rw [← htypes]
  split_ifs with hne
  · exact framed_bad (.types hne)
  · exact hbody (not_not.mp hne)

theorem store_other (x : β) (p : ℕ) (u : ArithState β) (q : ℕ) (h : q ≠ p) :
    (u.store p x).heap q = u.heap q := Function.update_of_ne h _ _

theorem creates_framed (h : Held A s) (hc : Creates r.cmd) :
    Framed api s r (invokeCommand api A s r) := by
  obtain ⟨cmd, paramTypes, params, env⟩ := r
  rcases hc with rfl | rfl | rfl
  · refine checked_framed (r := ⟨.newVar, paramTypes, params, env⟩) rfl fun htypes => ?_
    rw [newObject_eq]
    exact created_framed h (Or.inl rfl) htypes (by simp [required, operands]) fun p u q hq =>
      store_other _ p u q hq
  · refine checked_framed (r := ⟨.newFmmCtx, paramTypes, params, env⟩) rfl fun htypes => ?_
    cases hm : lookupHandle s .bigint (params 0).value.b with
    | none => exact framed_bad (.handle _ List.mem_cons_self hm)
    | some modulus =>
      refine created_framed h (Or.inr (Or.inl rfl)) htypes ?_ fun p u q hq =>
        store_other _ p _ q hq
      simp [required, operands, hm]
  · refine checked_framed (r := ⟨.newFmmVar, paramTypes, params, env⟩) rfl fun htypes => ?_
    rw [newObject_eq]
    exact created_framed h (Or.inr (Or.inr rfl)) htypes (by simp [required, operands])
      fun p u q hq => store_other _ p u q hq

variable (api)

/-- After any run an arithmetic command that fails on types, words, memory or the table changes
nothing, and one that succeeds changes no other object than its destinations say. -/
theorem arith_commands_framed (A : Arch) (rs : List (Request β)) (r : Request β)
    (hv : ValidTrace (fun s r => (invokeCommand api A s r).state) (HeapBounded A) initial rs) :
    Framed api (run api A rs) r (invokeCommand api A (run api A rs) r) := by
  have h := run_held api A hv
  by_cases hc : Creates r.cmd
  · exact creates_framed h hc
  · by_cases hf : r.cmd = .freeHandle
    · simp only [invokeCommand, hf]
      exact freeHandle_framed h hf
    · exact plain_framed hc hf

def aliasedRequest : Request ℤ :=
  request .div (teeParamTypes .valueInput .valueInput .none .none)
    (0x80000000, 0x80000001) (0x80000000, 0x80000000) (0, 0) 0

theorem arith_commands_framed_aliased :
    Framed intApi (run intApi .arm32 reuseRequests) aliasedRequest
      (invokeCommand intApi .arm32 (run intApi .arm32 reuseRequests) aliasedRequest) :=
  arith_commands_framed intApi .arm32 reuseRequests aliasedRequest (by decide +kernel)

end ArithFrames
