import OpteeTest.ArithFrames
import OpteeTest.ArithObjects
import OpteeTest.HandleIssue

/-! # The arithmetic commands refine the store by index

The table and the heap of the TA represent the objects by index. Neither the addresses that the
allocator gives nor what it leaves in a block can be told from the replies. -/
namespace ArithRefinement

open TeeApi GuardedRun HandleDatabase ArithTaf HandleWords TypedHandles HandleFreeing HandleIssue
open Relocation ArithObjects
open ArithFrames (newBytes TableStuck)

variable {β : Type*} {A : Arch} {s u : ArithState β}

def objectsOf (s : ArithState β) : Objects β := fun i => (s.hdb.cell i).bind s.heap

def place (s : ArithState β) (i : ℕ) : ℕ := (s.hdb.cell i).getD 0

/-- There is a block for a new object, and room for its pointer in the table. -/
def granted (api : BigIntApi β) (s : ArithState β) (r : Request β) : Bool :=
  (teeMalloc r.env (newBytes api r.params r.cmd) s).1.isSome &&
    !((emptySlot s.hdb s.hdb.maxPtrs 0).isNone && r.env.realloc.isNone)

def orderOf (api : BigIntApi β) (s : ArithState β) (r : Request β) : Order :=
  ⟨r.cmd, r.paramTypes, r.params, granted api s r⟩

structure Matches (out : Outcome β) (ans : Answer β) : Prop where
  res : out.res = ans.res
  params : out.params = ans.params
  objects : objectsOf out.state = ans.objects

theorem objectsOf_isSome (h : Bound False A s) {i : ℕ} :
    (objectsOf s i).isSome ↔ ∃ p, s.hdb.cell i = some p := by
  unfold objectsOf
  cases hcell : s.hdb.cell i with
  | none => simp
  | some p => simpa using h.live i p hcell

theorem placed (h : Bound False A s) : Placed (place s) (objectsOf s) s.heap where
  holds := by
    intro i hi
    obtain ⟨p, hp⟩ := (objectsOf_isSome h).mp hi
    simp only [place, objectsOf, hp, Option.getD_some, Option.bind_some]
  apart := by
    intro i j hi hj heq
    obtain ⟨p, hp⟩ := (objectsOf_isSome h).mp hi
    obtain ⟨q, hq⟩ := (objectsOf_isSome h).mp hj
    simp only [place, hp, hq, Option.getD_some] at heq
    subst heq
    exact h.distinct i j p hp hq

theorem lookup_objects (h : Bound False A s) (o : Operand) : lookupHandle s o.type o.word =
    if Found (objectsOf s) o then some (place s (index o.word)) else none := by
  rw [lookupHandle_eq h]
  by_cases htag : o.word &&& htMask = o.type.tag
  · rw [if_pos htag]
    cases hcell : s.hdb.cell (index o.word) with
    | none =>
      rw [if_neg]
      rintro ⟨-, hsome⟩
      obtain ⟨p, hp⟩ := (objectsOf_isSome h).mp hsome
      rw [hcell] at hp
      cases hp
    | some p =>
      rw [if_pos ⟨htag, (objectsOf_isSome h).mpr ⟨p, hcell⟩⟩, place, hcell, Option.getD_some]
  · rw [if_neg htag, if_neg fun hf => htag hf.1]

theorem objectsOf_store (h : Bound False A s) (hu : u.hdb = s.hdb) {i : ℕ}
    (hi : (objectsOf s i).isSome) (x : β) :
    objectsOf (u.store (place s i) x) = Function.update (objectsOf u) i (some x) := by
  obtain ⟨p, hp⟩ := (objectsOf_isSome h).mp hi
  have hplace : place s i = p := by rw [place, hp, Option.getD_some]
  funext j
  rw [hplace]
  rcases eq_or_ne j i with rfl | hne
  · simp [objectsOf, ArithState.store, hu, hp]
  · rw [Function.update_of_ne hne]
    simp only [objectsOf, ArithState.store, hu]
    cases hq : s.hdb.cell j with
    | none => rfl
    | some q =>
      have hpq : q ≠ p := by
        rintro rfl
        exact hne (h.distinct j i q hq hp)
      simp only [Option.bind_some, Function.update_of_ne hpq]

theorem objectsOf_storeOpt (h : Bound False A s) (hu : u.hdb = s.hdb) {i : Option ℕ}
    (hi : ∀ j ∈ i, (objectsOf s j).isSome) (x : β) :
    objectsOf (u.storeOpt (i.map (place s)) x) = assignOptional (objectsOf u) i x := by
  cases i with
  | none => rfl
  | some j => exact objectsOf_store h hu (hi j rfl) x

variable {t₀ t₁ t₂ t₃ : ParamType} {o : Order} {api : BigIntApi β}

/-- A state with the table and the heap of `s`, in which a command has recorded what it uses. -/
def SameObjects (s u : ArithState β) : Prop := u.hdb = s.hdb ∧ u.heap = s.heap

theorem SameObjects.objects (h : SameObjects s u) : objectsOf u = objectsOf s := by
  funext i
  simp only [objectsOf, h.1, h.2]

theorem refused_matches (h : SameObjects s u) :
    Matches ⟨teeErrorBadParameters, o.params, u⟩ (refuse o (objectsOf s)) :=
  ⟨rfl, rfl, h.objects⟩

theorem checkPt_matches {body : Outcome β} {ans : Answer β} (hbody : Matches body ans) :
    Matches (checkPt t₀ t₁ t₂ t₃ o.paramTypes o.params s body)
      (checked o (objectsOf s) t₀ t₁ t₂ t₃ ans) := by
  unfold checkPt checked
  split_ifs
  · exact refused_matches ⟨rfl, rfl⟩
  · exact hbody

theorem lookups_objects (h : Bound False A s) {n : ℕ} (ops : Fin n → Operand) : lookups s ops =
    if ∀ i, Found (objectsOf s) (ops i) then some (place s ∘ fun i => index (ops i).word)
    else none := by
  rcases ArithFrames.lookups_cases ops s with ⟨hnone, i, hi⟩ | ⟨p, hp, hfound⟩
  · rw [hnone, if_neg]
    intro hall
    rw [lookup_objects h, if_pos (hall i)] at hi
    cases hi
  · have heach (i : Fin n) :
        Found (objectsOf s) (ops i) ∧ place s (index (ops i).word) = p i := by
      have hi := hfound i
      rw [lookup_objects h] at hi
      split_ifs at hi with hf
      exact ⟨hf, Option.some.inj hi⟩
    rw [hp, if_pos fun i => (heach i).1]
    exact congrArg some (funext fun i => (heach i).2.symm)

theorem withObjects_matches (h : Bound False A s) {n : ℕ} {ops : Fin n → Operand}
    {body : (Fin n → ℕ) → ArithState β → Outcome β} {ans : (Fin n → ℕ) → Answer β}
    (hbody : ∀ p u, SameObjects s u → (∀ i, (objectsOf s (p i)).isSome) →
      Matches (body (place s ∘ p) u) (ans p)) :
    Matches (withObjects ops o.params s body) (withFound o (objectsOf s) ops ans) := by
  unfold withObjects withFound
  rw [lookups_objects h]
  by_cases hall : ∀ i, Found (objectsOf s) (ops i)
  · rw [if_pos hall, if_pos hall]
    exact hbody _ _ ⟨rfl, rfl⟩ fun i => (hall i).2
  · rw [if_neg hall, if_neg hall]
    exact refused_matches ⟨rfl, rfl⟩

theorem assign_matches (o : Order) (h : Bound False A s) {n : ℕ} {ops : Fin n → Operand}
    (dest : Fin n) {func : Heap β → (Fin n → ℕ) → β} (hf : Blind func) :
    Matches (checkPt .valueInput t₁ t₂ .none o.paramTypes o.params s <|
        withObjects ops o.params s fun p s =>
          ⟨teeSuccess, o.params, s.store (p dest) (func s.heap p)⟩)
      (assign o (objectsOf s) t₁ t₂ ops dest func) := by
  refine checkPt_matches (withObjects_matches h fun p u hu hp => ⟨rfl, rfl, ?_⟩)
  have hvalue : func u.heap (place s ∘ p) = func (objectsOf s) p := by
    rw [hu.2]
    exact hf _ _ _ (placed h) p hp
  change objectsOf (u.store (place s (p dest)) (func u.heap (place s ∘ p))) = _
  rw [objectsOf_store h hu.1 (hp dest), hvalue, hu.objects]

theorem ask_matches (o : Order) (h : Bound False A s) {n : ℕ} {ops : Fin n → Operand}
    {func : Heap β → (Fin n → ℕ) → UInt32} (hf : Blind func) :
    Matches (query o.paramTypes o.params s ops func) (ask o (objectsOf s) ops func) := by
  refine checkPt_matches (withObjects_matches h fun p u hu hp => ?_)
  have hvalue : func u.heap (place s ∘ p) = func (objectsOf s) p := by
    rw [hu.2]
    exact hf _ _ _ (placed h) p hp
  exact ⟨rfl, congrArg (setValueA o.params 1) hvalue, hu.objects⟩

theorem unary_matches (o : Order) (h : Bound False A s) {func : Heap β → ℕ → ℕ → β}
    (hf : Blind fun h (p : Fin 2 → ℕ) => func h (p 0) (p 1)) :
    Matches (unaryFunc o.paramTypes o.params s func) (unary o (objectsOf s) func) :=
  assign_matches o h 1 (hf.reindex ![1, 0])

theorem binary_matches (o : Order) (h : Bound False A s) {func : Heap β → ℕ → ℕ → ℕ → β}
    (hf : Blind fun h (p : Fin 3 → ℕ) => func h (p 0) (p 1) (p 2)) :
    Matches (binaryFunc o.paramTypes o.params s func) (binary o (objectsOf s) func) :=
  assign_matches o h 2 (hf.reindex ![2, 0, 1])

theorem ternary_matches (o : Order) (h : Bound False A s) {func : Heap β → ℕ → ℕ → ℕ → ℕ → β}
    (hf : Blind fun h (p : Fin 4 → ℕ) => func h (p 0) (p 1) (p 2) (p 3)) :
    Matches (ternaryFunc o.paramTypes o.params s func) (ternary o (objectsOf s) func) :=
  assign_matches o h 3 (hf.reindex ![3, 0, 1, 2])

theorem fromOctetString_matches (hapi : BlindApi api) (h : Bound False A s)
    (ho : o.cmd = .fromOctetString) :
    Matches (taEntryArithFromOctetString api o.paramTypes o.params s)
      (perform o (objectsOf s) api) := by
  rw [perform, ho]
  refine checkPt_matches (withObjects_matches h fun p u hu hp => ?_)
  have hvalue := hapi.convertFromOctetString (o.params 1).memref (o.params 0).value.b.toInt32
    _ _ _ (placed h) p hp
  rw [← hu.2] at hvalue
  refine ⟨congrArg Prod.fst hvalue, rfl, ?_⟩
  refine (objectsOf_store h hu.1 (hp 0) _).trans ?_
  rw [hu.objects]
  exact congrArg (fun x => Function.update (objectsOf s) (p 0) (some x)) (congrArg Prod.snd hvalue)

theorem getValue_matches (hapi : BlindApi api) (h : Bound False A s) (ho : o.cmd = .getValue) :
    Matches (taEntryArithGetValue api o.paramTypes o.params s) (perform o (objectsOf s) api) := by
  rw [perform, ho]
  refine checkPt_matches (withObjects_matches h fun p u hu hp => ?_)
  have hsign := hapi.cmpS32 0 _ _ _ (placed h) p hp
  have hoctets (buffer : TeeMemref) := hapi.convertToOctetString buffer _ _ _ (placed h) p hp
  simp only [Function.comp_apply, ← hu.2] at hsign hoctets
  constructor
  · simp only [Function.comp_apply, hsign, hoctets]
  · simp only [Function.comp_apply, hsign, hoctets]
  · exact hu.objects

theorem getValueS32_matches (hapi : BlindApi api) (h : Bound False A s)
    (ho : o.cmd = .getValueS32) : Matches (taEntryArithGetValueS32 api o.paramTypes o.params s)
      (perform o (objectsOf s) api) := by
  rw [perform, ho]
  refine checkPt_matches (withObjects_matches h fun p u hu hp => ?_)
  have hvalue := hapi.convertToS32 _ _ _ (placed h) p hp
  simp only [Function.comp_apply, ← hu.2] at hvalue
  constructor
  · simp only [Function.comp_apply, hvalue]
  · simp only [Function.comp_apply, hvalue]
  · exact hu.objects

theorem div_matches (hapi : BlindApi api) (h : Bound False A s) (ho : o.cmd = .div) :
    Matches (taEntryArithDiv api o.paramTypes o.params s) (perform o (objectsOf s) api) := by
  rw [perform, ho]
  refine checkPt_matches (withObjects_matches h fun p u hu hp => ⟨rfl, rfl, ?_⟩)
  have hvalue : api.div u.heap (place s (p 2)) (place s (p 3)) (place s (p 0)) (place s (p 1)) =
      api.div (objectsOf s) (p 2) (p 3) (p 0) (p 1) := by
    rw [hu.2]
    exact hapi.div.reindex ![2, 3, 0, 1] _ _ _ (placed h) p hp
  let out := api.div u.heap (place s (p 2)) (place s (p 3)) (place s (p 0)) (place s (p 1))
  change objectsOf ((u.store (place s (p 2)) out.1).store (place s (p 3)) out.2) = _
  have hout : out = api.div (objectsOf s) (p 2) (p 3) (p 0) (p 1) := hvalue
  rw [hout, objectsOf_store (u := u.store _ _) h hu.1 (hp 3), objectsOf_store h hu.1 (hp 2),
    hu.objects]

theorem optionalLookup_objects (h : Bound False A s) (word : UInt32) :
    optionalLookup s word = (optionalIndex (objectsOf s) word).map (Option.map (place s)) := by
  unfold optionalLookup optionalIndex
  by_cases hw : word = taCryptArithInvalidHandle
  · rw [if_neg (not_not.mpr hw), if_pos hw]
    rfl
  · rw [if_pos hw, if_neg hw, lookup_objects h ⟨.bigint, word⟩]
    split_ifs <;> rfl

theorem optional_live {objects : Objects β} {word : UInt32} {u : Option ℕ}
    (hu : optionalIndex objects word = some u) : ∀ i ∈ u, (objects i).isSome := by
  unfold optionalIndex at hu
  split_ifs at hu with hw hf
  · cases hu
    simp
  · cases hu
    rintro i ⟨⟩
    exact hf.2

theorem storeOpt_hdb (u : ArithState β) (i : Option ℕ) (x : β) : (u.storeOpt i x).hdb = u.hdb := by
  cases i <;> rfl

theorem objectsOf_egcd (hapi : BlindApi api) (h : Bound False A s) (hu : SameObjects s u)
    {p : Fin 3 → ℕ} (hp : ∀ i, (objectsOf s (p i)).isSome) {i j : Option ℕ}
    (hi : ∀ k ∈ i, (objectsOf s k).isSome) (hj : ∀ k ∈ j, (objectsOf s k).isSome) :
    let out := api.computeExtendedGcd u.heap (place s (p 2)) (i.map (place s)) (j.map (place s))
      (place s (p 0)) (place s (p 1))
    let ans := api.computeExtendedGcd (objectsOf s) (p 2) i j (p 0) (p 1)
    objectsOf (((u.store (place s (p 2)) out.1).storeOpt (i.map (place s)) out.2.1).storeOpt
        (j.map (place s)) out.2.2) =
      assignOptional (assignOptional (Function.update (objectsOf s) (p 2) (some ans.1)) i
        ans.2.1) j ans.2.2 := by
  have hvalue : api.computeExtendedGcd u.heap (place s (p 2)) (i.map (place s)) (j.map (place s))
      (place s (p 0)) (place s (p 1)) =
        api.computeExtendedGcd (objectsOf s) (p 2) i j (p 0) (p 1) := by
    rw [hu.2]
    exact hapi.computeExtendedGcd _ _ _ (placed h) i j hi hj (p ∘ ![2, 0, 1]) fun k => hp _
  intro out ans
  have hout : out = ans := hvalue
  rw [hout, objectsOf_storeOpt h ((storeOpt_hdb (u.store _ _) _ _).trans hu.1) hj,
    objectsOf_storeOpt (u := u.store _ _) h hu.1 hi, objectsOf_store h hu.1 (hp 2), hu.objects]

theorem computeEgcd_matches (hapi : BlindApi api) (h : Bound False A s) :
    Matches (taEntryArithComputeEgcd api o.paramTypes o.params s)
      (computeEgcd o (objectsOf s) api) := by
  refine checkPt_matches ?_
  unfold withFound
  dsimp only
  rw [lookups_objects h, optionalLookup_objects h, optionalLookup_objects h]
  split_ifs with hall
  · cases hi : optionalIndex (objectsOf s) (o.params 1).value.a with
    | none => exact refused_matches ⟨rfl, rfl⟩
    | some i =>
      cases hj : optionalIndex (objectsOf s) (o.params 1).value.b with
      | none => exact refused_matches ⟨rfl, rfl⟩
      | some j =>
        exact ⟨rfl, rfl, objectsOf_egcd (u := s.record _) hapi h ⟨rfl, rfl⟩ (fun k => (hall k).2)
          (optional_live hi) (optional_live hj)⟩
  · exact refused_matches ⟨rfl, rfl⟩

variable {T : HandleType} {env : Allocator β}

/-- `handle_get` of a real pointer finds the least free index, unless the table is stuck. -/
theorem handleGet_objects (h : Bound False A s) (hroom : TableRoom A s env) (p : ℕ) :
    (TableStuck s env ∧ handleGet A s.hdb (some p) env.realloc = (-1, s.hdb)) ∨
    (¬ TableStuck s env ∧ ∃ n : ℕ, (handleGet A s.hdb (some p) env.realloc).1 = (n : ℤ) ∧
      IsLeast {i | objectsOf s i = none} n ∧
      ∀ m, (handleGet A s.hdb (some p) env.realloc).2.cell m =
        if m = n then some p else s.hdb.cell m) := by
  have hstuck : TableStuck s env → handleGet A s.hdb (some p) env.realloc = (-1, s.hdb) := by
    rintro ⟨hslot, hre⟩
    simp [handleGet, hslot, hre, teeRealloc]
  rcases handleGet_cases h.wellSized (fits_handleGet h.wellSized hroom (some p)) with
    ⟨hrun, hwhy⟩ | ⟨n, hres, -, hfree, hbusy, -, hcell⟩
  · refine Or.inl ⟨⟨?_, (hwhy.resolve_left (Option.some_ne_none p)).1⟩, hrun⟩
    cases hslot : emptySlot s.hdb s.hdb.maxPtrs 0 with
    | none => rfl
    | some n =>
      have hn := (emptySlot_some hslot).2.1
      have hmax := h.wellSized.fits.lt
      have hres := congrArg Prod.fst hrun
      simp only [handleGet, Option.isNone_some, Bool.false_eq_true, if_false, hslot] at hres
      rw [toInt_of_lt (by omega)] at hres
      omega
  · refine Or.inr ⟨fun hs => ?_, n, hres, ⟨?_, fun m hm => ?_⟩, hcell⟩
    · rw [hstuck hs] at hres
      omega
    · simp [objectsOf, hfree]
    · by_contra hlt
      obtain ⟨q, hq⟩ := Option.ne_none_iff_exists'.mp (hbusy m (Nat.not_le.mp hlt))
      have hsome := (objectsOf_isSome h).mpr ⟨q, hq⟩
      rw [show objectsOf s m = none from hm] at hsome
      cases hsome

/-- A new pointer in the table and its contents are a new object. -/
theorem objectsOf_insert {t : ArithState β} {n p : ℕ} {x : β} (h : Bound False A s)
    (hp : s.heap p = none) (hcell : ∀ m, t.hdb.cell m = if m = n then some p else s.hdb.cell m)
    (hself : t.heap p = some x) (hother : ∀ q, q ≠ p → t.heap q = s.heap q) :
    objectsOf t = Function.update (objectsOf s) n (some x) := by
  funext m
  rcases eq_or_ne m n with rfl | hne
  · rw [Function.update_self, objectsOf, hcell, if_pos rfl, Option.bind_some, hself]
  · rw [Function.update_of_ne hne, objectsOf, hcell, if_neg hne, objectsOf]
    cases hq : s.hdb.cell m with
    | none => rfl
    | some q =>
      have hlive := h.live m q hq
      refine hother q ?_
      rintro rfl
      rw [hp] at hlive
      cases hlive

theorem teeFree_stored {p : ℕ} (hp : s.heap p = none) (x : β) :
    SameObjects s (teeFree (some p) (s.store p x)) := by
  refine ⟨rfl, ?_⟩
  change Function.update (Function.update s.heap p (some x)) p none = s.heap
  rw [Function.update_idem, ← hp, Function.update_eq_self]

/-- What initialises the block `p` of a new object, after the table was given its pointer. -/
structure Initialises (s : ArithState β) (init : ℕ → ArithState β → ArithState β) (x : β) :
    Prop where
  table : ∀ p t, (init p t).hdb = t.hdb
  block : ∀ p t, s.heap p = none → (∀ q, q ≠ p → t.heap q = s.heap q) →
    (init p t).heap = Function.update t.heap p (some x)

theorem publish_matches {init : ℕ → ArithState β → ArithState β} {x : β} {bytes : UInt32}
    (h : Bound False A s) (hroom : TableRoom A s env) (hinit : Initialises s init x)
    (hgranted : o.granted = ((teeMalloc env bytes s).1.isSome &&
      !((emptySlot s.hdb s.hdb.maxPtrs 0).isNone && env.realloc.isNone))) :
    Matches (publish A env o.params (teeMalloc env bytes s).2 T (teeMalloc env bytes s).1 init)
      (createObject o (objectsOf s) T x) := by
  unfold createObject
  rcases ArithFrames.teeMalloc_new env bytes s with hm | ⟨p, y, hm, hp⟩
  · rw [hm] at hgranted ⊢
    rw [hgranted, ArithFrames.publish_none]
    exact ⟨rfl, rfl, rfl⟩
  rw [hm] at hgranted ⊢
  rcases handleGet_objects h hroom p with ⟨⟨hslot, hre⟩, hrun⟩ | ⟨hfree, n, hres, hleast, hcell⟩
  · rw [hslot, hre] at hgranted
    rw [hgranted]
    have hpub : publish A env o.params (s.store p y) T (some p) init =
        ⟨teeErrorOutOfMemory, o.params, teeFree (some p) (s.store p y)⟩ := by
      simp only [publish, getHandle, ArithState.store, hrun]
      rfl
    rw [hpub]
    exact ⟨rfl, rfl, (teeFree_stored hp y).objects⟩
  · have hyes : o.granted = true := by
      rw [hgranted]
      by_contra hno
      simp only [Option.isSome_some, Bool.true_and, Bool.not_eq_true, Bool.not_eq_false',
        Bool.and_eq_true, Option.isNone_iff_eq_none] at hno
      exact hfree hno
    rw [hyes, if_pos rfl, hleast.csInf_eq]
    have hn : ¬ (n : ℤ) < 0 := by omega
    let t : ArithState β := ⟨(handleGet A s.hdb (some p) env.realloc).2, (s.store p y).heap,
      .issued T (wordOf T n) p :: s.log⟩
    have hpub : publish A env o.params (s.store p y) T (some p) init =
        ⟨teeSuccess, setValueA o.params 1 (wordOf T n), init p t⟩ := by
      simp only [publish, getHandle, ArithState.store, hres, if_neg hn, Int.toNat_natCast, wordOf]
      rfl
    have hother : ∀ q, q ≠ p → t.heap q = s.heap q := fun q hq => Function.update_of_ne hq _ _
    have hblock := hinit.block p t hp hother
    rw [hpub]
    refine ⟨rfl, rfl, objectsOf_insert h hp ?_ ?_ ?_⟩
    · rw [hinit.table]
      exact hcell
    · rw [hblock, Function.update_self]
    · intro q hq
      rw [hblock, Function.update_of_ne hq]
      exact hother q hq

theorem freeHandle_matches (h : Bound False A s) :
    Matches (taEntryArithFreeHandle o.paramTypes o.params s) (freeObject o (objectsOf s)) := by
  cases hcell : s.hdb.cell (index (o.params 0).value.a) with
  | none =>
    have hnone : ¬ (objectsOf s (index (o.params 0).value.a)).isSome := by
      simp [objectsOf, hcell]
    rw [freeHandle_missing hcell, freeObject, if_neg hnone]
    unfold checked
    split_ifs <;> exact refused_matches ⟨rfl, rfl⟩
  | some p =>
    have hsome := (objectsOf_isSome h).mpr ⟨p, hcell⟩
    rw [freeObject, if_pos hsome]
    by_cases htypes : o.paramTypes = teeParamTypes .valueInput .none .none .none
    · have hrun := freeHandle_found h.wellSized hcell
      rw [freeHandle, ← htypes] at hrun
      rw [hrun, checked, if_neg (not_not.mpr htypes)]
      refine ⟨rfl, rfl, ?_⟩
      funext m
      have hm := handlePut_cell h.wellSized (index (o.params 0).value.a) m
      change ((handlePut s.hdb _).2.cell m).bind (Function.update s.heap p none) =
        Function.update (objectsOf s) (index (o.params 0).value.a) none m
      rw [hm]
      rcases eq_or_ne m (index (o.params 0).value.a) with rfl | hne
      · simp
      · rw [if_neg hne, Function.update_of_ne hne, objectsOf]
        cases hq : s.hdb.cell m with
        | none => rfl
        | some q =>
          have hpq : q ≠ p := by
            rintro rfl
            exact hne (h.distinct _ _ q hq hcell)
          simp only [Option.bind_some, Function.update_of_ne hpq]
    · rw [taEntryArithFreeHandle, checkPt, if_pos htypes, checked, if_pos htypes]
      exact refused_matches ⟨rfl, rfl⟩

theorem newVar_matches (h : Bound False A s) (hroom : TableRoom A s env) (ho : o.cmd = .newVar)
    (hgranted : o.granted = granted api s ⟨.newVar, o.paramTypes, o.params, env⟩) :
    Matches (taEntryArithNewVar api A env o.paramTypes o.params s)
      (perform o (objectsOf s) api) := by
  rw [perform, ho]
  refine checkPt_matches ?_
  rw [ArithFrames.newObject_eq]
  exact publish_matches h hroom ⟨fun _ _ => rfl, fun _ _ _ _ => rfl⟩ hgranted

theorem newFmmVar_matches (h : Bound False A s) (hroom : TableRoom A s env)
    (ho : o.cmd = .newFmmVar)
    (hgranted : o.granted = granted api s ⟨.newFmmVar, o.paramTypes, o.params, env⟩) :
    Matches (taEntryArithNewFmmVar api A env o.paramTypes o.params s)
      (perform o (objectsOf s) api) := by
  rw [perform, ho]
  refine checkPt_matches ?_
  rw [ArithFrames.newObject_eq]
  exact publish_matches h hroom ⟨fun _ _ => rfl, fun _ _ _ _ => rfl⟩ hgranted

/-- The context is computed from the modulus that was found before the block was there. -/
theorem newFmmCtx_matches (hapi : BlindApi api) (h : Bound False A s) (hroom : TableRoom A s env)
    (ho : o.cmd = .newFmmCtx)
    (hgranted : o.granted = granted api s ⟨.newFmmCtx, o.paramTypes, o.params, env⟩) :
    Matches (taEntryArithNewFmmCtx api A env o.paramTypes o.params s)
      (perform o (objectsOf s) api) := by
  rw [perform, ho]
  refine checkPt_matches ?_
  unfold withFound
  have hlook := lookup_objects h ⟨.bigint, (o.params 0).value.b⟩
  dsimp only at hlook
  rw [hlook]
  by_cases hf : Found (objectsOf s) ⟨.bigint, (o.params 0).value.b⟩
  · rw [if_pos hf, if_pos fun _ => by simpa using hf]
    refine publish_matches h hroom ⟨fun _ _ => rfl, fun p t hp ht => ?_⟩ hgranted
    have hplaced : Placed (place s) (objectsOf s) t.heap := by
      refine (placed h).congr fun i hi => ht _ ?_
      rintro rfl
      rw [← (placed h).holds i hi, hp] at hi
      cases hi
    have hvalue := hapi.initFmmContext (api.fmmContextSizeInU32 (o.params 0).value.a) _ _ _ hplaced
      (fun _ => index (o.params 0).value.b) fun _ => hf.2
    exact congrArg (fun x => Function.update t.heap p (some x)) hvalue
  · rw [if_neg hf, if_neg fun hall => hf (by simpa using hall 0)]
    exact refused_matches ⟨rfl, rfl⟩

/-- One command of the TA is the command on the objects by index. -/
theorem invoke_matches (hapi : BlindApi api) (h : Bound False A s) (r : Request β)
    (hroom : TableRoom A s r.env) :
    Matches (invokeCommand api A s r) (perform (orderOf api s r) (objectsOf s) api) := by
  obtain ⟨cmd, types, params, env⟩ := r
  cases cmd with
  | newVar => exact newVar_matches (o := ⟨_, types, params, _⟩) h hroom rfl rfl
  | newFmmCtx => exact newFmmCtx_matches (o := ⟨_, types, params, _⟩) hapi h hroom rfl rfl
  | newFmmVar => exact newFmmVar_matches (o := ⟨_, types, params, _⟩) h hroom rfl rfl
  | freeHandle => exact freeHandle_matches (o := ⟨_, types, params, _⟩) h
  | fromOctetString => exact fromOctetString_matches (o := ⟨_, types, params, _⟩) hapi h rfl
  | getValue => exact getValue_matches (o := ⟨_, types, params, _⟩) hapi h rfl
  | getValueS32 => exact getValueS32_matches (o := ⟨_, types, params, _⟩) hapi h rfl
  | div => exact div_matches (o := ⟨_, types, params, _⟩) hapi h rfl
  | computeEgcd => exact computeEgcd_matches (o := ⟨_, types, params, _⟩) hapi h
  | getBit => exact ask_matches ⟨_, types, params, _⟩ h ((hapi.getBit _).comp Bool.toUInt32)
  | getBitCount => exact ask_matches ⟨_, types, params, _⟩ h hapi.getBitCount
  | cmp => exact ask_matches ⟨_, types, params, _⟩ h (hapi.cmp.comp Int32.toUInt32)
  | cmpS32 => exact ask_matches ⟨_, types, params, _⟩ h ((hapi.cmpS32 _).comp Int32.toUInt32)
  | isRelativePrime =>
    exact ask_matches ⟨_, types, params, _⟩ h (hapi.relativePrime.comp Bool.toUInt32)
  | isPrime =>
    exact ask_matches ⟨_, types, params, _⟩ h ((hapi.isProbablePrime _).comp Int32.toUInt32)
  | fromS32 => exact assign_matches ⟨_, types, params, _⟩ h 0 (hapi.convertFromS32 _)
  | shiftRight =>
    exact assign_matches ⟨_, types, params, _⟩ h 1 ((hapi.shiftRight _).reindex ![1, 0])
  | neg => exact unary_matches ⟨_, types, params, _⟩ h hapi.neg
  | sqr => exact unary_matches ⟨_, types, params, _⟩ h hapi.square
  | add => exact binary_matches ⟨_, types, params, _⟩ h hapi.add
  | sub => exact binary_matches ⟨_, types, params, _⟩ h hapi.sub
  | mul => exact binary_matches ⟨_, types, params, _⟩ h hapi.mul
  | mod => exact binary_matches ⟨_, types, params, _⟩ h hapi.mod
  | sqrmod => exact binary_matches ⟨_, types, params, _⟩ h hapi.squareMod
  | invmod => exact binary_matches ⟨_, types, params, _⟩ h hapi.invMod
  | addmod => exact ternary_matches ⟨_, types, params, _⟩ h hapi.addMod
  | submod => exact ternary_matches ⟨_, types, params, _⟩ h hapi.subMod
  | mulmod => exact ternary_matches ⟨_, types, params, _⟩ h hapi.mulMod
  | toFmm =>
    exact assign_matches ⟨_, types, params, _⟩ h 3 (hapi.convertToFmm.reindex ![3, 0, 1, 2])
  | fromFmm =>
    exact assign_matches ⟨_, types, params, _⟩ h 3 (hapi.convertFromFmm.reindex ![3, 0, 1, 2])
  | computeFmm =>
    exact assign_matches ⟨_, types, params, _⟩ h 4 (hapi.computeFmm.reindex ![4, 0, 1, 2, 3])

def replies (api : BigIntApi β) (A : Arch) (s : ArithState β) :
    List (Request β) → List (TeeResult × TeeParams)
  | [] => []
  | r :: rs =>
    let out := invokeCommand api A s r
    (out.res, out.params) :: replies api A out.state rs

def grants (api : BigIntApi β) (A : Arch) (s : ArithState β) : List (Request β) → List Bool
  | [] => []
  | r :: rs => granted api s r :: grants api A (invokeCommand api A s r).state rs

def asked (r : Request β) : ArithCmd × UInt32 × TeeParams := (r.cmd, r.paramTypes, r.params)

def orders (asks : List (ArithCmd × UInt32 × TeeParams)) (grants : List Bool) : List Order :=
  List.zipWith (fun q g => ⟨q.1, q.2.1, q.2.2, g⟩) asks grants

variable {rs : List (Request β)}

theorem run_refines (hapi : BlindApi api) (h : Spacious A s)
    (hv : ValidTrace (fun s r => (invokeCommand api A s r).state) FewLive s rs) :
    replies api A s rs = answers api (objectsOf s) (orders (rs.map asked) (grants api A s rs)) ∧
      objectsOf (runTrace (fun s r => (invokeCommand api A s r).state) s rs) =
        remaining api (objectsOf s) (orders (rs.map asked) (grants api A s rs)) := by
  induction rs generalizing s with
  | nil => exact ⟨rfl, rfl⟩
  | cons r rs ih =>
    obtain ⟨hfew, hrest⟩ := hv
    have hstep := invoke_matches hapi h.bound r (h.tableRoom hfew r.env)
    obtain ⟨hreplies, hobjects⟩ := ih (invoke_spacious api s r h hfew) hrest
    have horders : orders ((r :: rs).map asked) (grants api A s (r :: rs)) =
        orderOf api s r :: orders (rs.map asked)
          (grants api A (invokeCommand api A s r).state rs) := rfl
    constructor
    · rw [horders, replies, answers, hreplies, hstep.res, hstep.params, hstep.objects]
    · rw [horders, remaining, ← hstep.objects]
      exact hobjects

/-- In every run below 2^28 live objects the TA replies as the store by index does, and what its
table and heap represent at the end is what that store holds. -/
theorem commands_refine_objects (hapi : BlindApi api) (A : Arch) (rs : List (Request β))
    (hv : ValidTrace (fun s r => (invokeCommand api A s r).state) FewLive initial rs) :
    let os := orders (rs.map asked) (grants api A initial rs)
    replies api A initial rs = answers api (fun _ => none) os ∧
      objectsOf (run api A rs) = remaining api (fun _ => none) os :=
  run_refines hapi (initial_spacious A) hv

/-- Two instances on any targets that are asked the same, and whose allocators have memory for
the same commands, reply alike, wherever the blocks are and whatever they held. -/
theorem replies_independent (hapi : BlindApi api) {A A' : Arch} {rs rs' : List (Request β)}
    (hv : ValidTrace (fun s r => (invokeCommand api A s r).state) FewLive initial rs)
    (hv' : ValidTrace (fun s r => (invokeCommand api A' s r).state) FewLive initial rs')
    (hasked : rs.map asked = rs'.map asked)
    (hgrants : grants api A initial rs = grants api A' initial rs') :
    replies api A initial rs = replies api A' initial rs' := by
  rw [(run_refines hapi (initial_spacious A) hv).1, (run_refines hapi (initial_spacious A') hv').1,
    hasked, hgrants]

theorem intApi_blind : BlindApi intApi := by
  have hvalue {n : ℕ} {place : ℕ → ℕ} {objects heap : Heap ℤ} (h : Placed place objects heap)
      {p : Fin n → ℕ} (hp : ∀ i, (objects (p i)).isSome) (i : Fin n) :
      heap (place (p i)) = objects (p i) := h.holds _ (hp i)
  constructor
  case computeExtendedGcd =>
    intro place objects heap h u v _ _ p hp
    simp only [intApi, hvalue h hp]
  all_goals
    intros
    intro place objects heap h p hp
    simp only [intApi, Function.comp_apply, hvalue h hp]

theorem reuse_refines_objects :
    replies intApi .arm32 initial reuseRequests = answers intApi (fun _ => none)
      (orders (reuseRequests.map asked) (grants intApi .arm32 initial reuseRequests)) :=
  (commands_refine_objects intApi_blind .arm32 reuseRequests (by decide +kernel)).1

/-- Two variables and their sum, with the blocks from `addr` on that hold `junk`. -/
def sumRequests (addr : ℕ) (junk : ℤ) : List (Request ℤ) :=
  let inOut := teeParamTypes .valueInput .valueOutput .none .none
  let inIn := teeParamTypes .valueInput .valueInput .none .none
  [⟨.newVar, inOut, valueParams (64, 0) (0, 0) (0, 0),
      ⟨fun _ => some (addr, junk), some fun _ => none⟩⟩,
    ⟨.newVar, inOut, valueParams (64, 0) (0, 0) (0, 0),
      ⟨fun _ => some (addr + 100, junk), none⟩⟩,
    request .add inIn (0x80000000, 0x80000001) (0x80000000, 0) (0, 0) 0]

theorem sum_independent :
    replies intApi .arm32 initial (sumRequests 100 1) =
      replies intApi .arm64 initial (sumRequests 4096 7) :=
  replies_independent intApi_blind (by decide +kernel) (by decide +kernel) rfl (by decide +kernel)

end ArithRefinement
