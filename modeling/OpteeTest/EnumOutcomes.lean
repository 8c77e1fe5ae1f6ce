import OpteeTest.EnumListing

/-! # How an enumeration may end

Any error of `keyNextEnum` ends the loop of `keyEnumObjectList` like the end of the storage does,
and an enumerator that cannot be started is not freed. -/
namespace EnumOutcomes

open ByteMemory TeeApi ClientApi TeeCalls EffectRuns BlockHeap EnumObjectList EnumListOwnership
open EnumListing
open KeyHandlers StorageWrappers WrapperMarshalling

abbrev Ta (σ : Type) := UInt32 → UInt32 → TeeParams → StateM σ (TeeResult × TeeParams)

variable {σ : Type} {ta : Ta σ} {S : Session (StateM σ)} {H : HostMemory} {s s' : σ}
variable {sid enumHandle e : UInt32} {info id : TempMemoryReference} {ids : List (List UInt8)}
variable {last : TeeResult} {heap₀ : HostHeap} {listSize fuel : ℕ}

/-- From state `s` on `keyNextEnum` brings objects with these ids, and then the error `last`. -/
inductive Enumerates (S : Session (StateM σ)) (e : UInt32) : σ → TempMemoryReference →
    TempMemoryReference → List (List UInt8) → TeeResult → σ → Prop where
  | ended {s s' : σ} {info id : TempMemoryReference} {next : StateM σ HostResult} {r : HostResult}
      (hnext : keyNextEnum S e (some info.buffer) (some info.size) id = some next)
      (hrun : next.run s = (r, s')) (hres : r.res ≠ teeSuccess) :
      Enumerates S e s info id [] r.res s'
  | next {s s' s'' : σ} {info id : TempMemoryReference} {next : StateM σ HostResult}
      {r : HostResult} {ids : List (List UInt8)} {last : TeeResult}
      (hnext : keyNextEnum S e (some info.buffer) (some info.size) id = some next)
      (hrun : next.run s = (r, s')) (hres : r.res = teeSuccess)
      (hrest : Enumerates S e s' { r.outs.getD 0 info with size := sizeofInfo }
        { r.outs.getD 1 id with size := sizeofId } ids last s'') :
      Enumerates S e s info id (hostBytes (r.outs.getD 1 id) :: ids) last s''

inductive Course where
  | notAllocated (res : TeeResult)
  | notStarted (e : UInt32) (res : TeeResult)
  | enumerated (e : UInt32) (ids : List (List UInt8)) (last freed : TeeResult)

inductive Follows (S : Session (StateM σ)) (sid enumHandle : UInt32) : σ → Course → σ → Prop where
  | notAllocated {s s' : σ} {a : HostResult}
      (halloc : (keyAllocEnum S enumHandle).run s = (a, s')) (hres : a.res ≠ teeSuccess) :
      Follows S sid enumHandle s (.notAllocated a.res) s'
  | notStarted {s s₁ s' : σ} {a r : HostResult} {e : UInt32}
      (halloc : (keyAllocEnum S enumHandle).run s = (a, s₁)) (hres : a.res = teeSuccess)
      (he : a.words.headD enumHandle = e)
      (hstart : (keyStartEnum S e sid).run s₁ = (r, s')) (hres' : r.res ≠ teeSuccess) :
      Follows S sid enumHandle s (.notStarted e r.res) s'
  | enumerated {s s₁ s₂ s₃ s' : σ} {a r f : HostResult} {e : UInt32} {ids : List (List UInt8)}
      {last : TeeResult}
      (halloc : (keyAllocEnum S enumHandle).run s = (a, s₁)) (hres : a.res = teeSuccess)
      (he : a.words.headD enumHandle = e)
      (hstart : (keyStartEnum S e sid).run s₁ = (r, s₂)) (hres' : r.res = teeSuccess)
      (hall : Enumerates S e s₂ ⟨fun _ => 0, sizeofInfo⟩ ⟨fun _ => 0, sizeofId⟩ ids last s₃)
      (hfree : (keyFreeEnum S e).run s₃ = (f, s')) :
      Follows S sid enumHandle s (.enumerated e ids last f.res) s'

def Course.length : Course → ℕ
  | .enumerated _ ids _ _ => ids.length
  | _ => 0

theorem run_hostCall (hS : Connects S ta) (commandId : UInt32) {op : TeecOperation}
    (hfit : Transportable op) (finish : TeeResult → TeecOperation → HostResult) (s : σ) :
    (hostCall S commandId op finish).run s =
      let out := (ta commandId op.paramTypes (deliver op)).run s
      (finish out.1.1 (collect op out.1.2), out.2) := by
  rw [hostCall, hS commandId op hfit]
  rfl

theorem transportable_next (h : Roomy info id) :
    Transportable (nextOperation e true (infoMemref (some info.buffer) info.size) id) := by
  obtain ⟨hinfo, hid⟩ := h.sized
  exact transportable_operation.mpr ⟨trivial, hinfo, hid, trivial⟩

theorem collect_next (e : UInt32) (info id : TempMemoryReference) (params : TeeParams) :
    ((collect (nextOperation e true info id) params).params 2).tmpref =
      copyBack id (params 2).memref := by
  have hop : nextOperation e true info id = operation .valueInput .memrefOutput .memrefOutput .none
    (valueParameter e 0) (tmpref info) (tmpref id) zeroParameter := rfl
  rw [hop, collect_operation]
  rfl

theorem next_sized (hS : Connects S ta) (hroom : Roomy info id) {next : StateM σ HostResult}
    {r : HostResult}
    (hnext : keyNextEnum S e (some info.buffer) (some info.size) id = some next)
    (hrun : next.run s = (r, s')) (hres : r.res = teeSuccess) : Sized (r.outs.getD 1 id) := by
  have hcall := Option.some.inj hnext
  rw [← hcall, Option.isSome_some, run_hostCall hS _ (transportable_next hroom)] at hrun
  obtain ⟨hr, -⟩ := Prod.mk.inj hrun
  rw [← hr] at hres ⊢
  dsimp only at hres
  show (outAt 2 id.size _ _).size < 2 ^ 32
  rw [outAt, if_pos hres, collect_next]
  exact UInt32.toNat_lt _

theorem round_size {v v' : EnumVars} {cs : List ListedObject} {c : ListedObject}
    (hv : Built heap₀ v cs) (hv' : Built heap₀ v' (cs ++ [c])) :
    v'.listSize = v.listSize + 1 := by
  rw [hv'.size, hv.size, List.length_append, List.length_singleton]

theorem enumLoop_enumerates (hS : Connects S ta) (h : Enumerates S e s info id ids last s')
    {v : EnumVars} {cs : List ListedObject} (hinfo : v.info = info) (hid : v.id = id)
    (hroom : Roomy info id) (hv : Built heap₀ v cs)
    (hn : H.allocator.Grants (3 * v.listSize) (3 * (v.listSize + ids.length)))
    (hfuel : ids.length < fuel) :
    ∃ v' ds, (enumLoop H S e fuel v).run s = (some v', s') ∧ Built heap₀ v' (cs ++ ds) ∧
      ds.map ListedObject.data = ids := by
  induction h generalizing v cs fuel with
  | @ended _ _ _ _ _ r hnext hrun hres =>
    subst hinfo hid
    obtain ⟨fuel, rfl⟩ := Nat.exists_eq_add_of_le' hfuel
    refine ⟨{ v with info := r.outs.getD 0 v.info, id := r.outs.getD 1 v.id }, [], ?_, ?_, rfl⟩
    · change (enumLoop H S e (fuel + 1) v).run _ = _
      rw [enumLoop, hnext, run_bind_eq hrun, if_neg hres]
      rfl
    · rw [List.append_nil]
      exact built_buffers hv _ _
  | @next _ _ _ _ _ _ r _ _ hnext hrun hres hrest ih =>
    subst hinfo hid
    obtain ⟨fuel, rfl⟩ := Nat.exists_eq_add_of_le' (Nat.one_le_of_lt hfuel)
    have hbuilt := built_buffers hv (r.outs.getD 0 v.info) (r.outs.getD 1 v.id)
    rw [List.length_cons] at hn
    obtain ⟨c, v₁, hadd, hdata, hbuilt₁, hinfo₁, hid₁⟩ :=
      addObject_built (H := H) (next_sized hS hroom hnext hrun hres) hbuilt
        fun k hlo hhi => hn k hlo (by dsimp only at hhi; omega)
    have hsize := round_size hv hbuilt₁
    obtain ⟨v', ds, hloop, hbuilt', hds⟩ := ih hinfo₁ hid₁ ⟨rfl, rfl⟩ hbuilt₁
      (fun k hlo hhi => hn k (by omega) (by omega)) (by simpa using hfuel)
    refine ⟨v', c :: ds, ?_, by simpa using hbuilt', by rw [List.map_cons, hds, hdata]⟩
    rw [enumLoop, hnext, run_bind_eq hrun, if_pos hres, hadd]
    exact hloop

theorem enumLoop_refused (hS : Connects S ta) (h : Enumerates S e s info id ids last s')
    {v : EnumVars} {cs : List ListedObject} (hinfo : v.info = info) (hid : v.id = id)
    (hroom : Roomy info id) (hv : Built heap₀ v cs)
    (hn : ¬ H.allocator.Grants (3 * v.listSize) (3 * (v.listSize + ids.length))) :
    ((enumLoop H S e fuel v).run s).1 = none := by
  induction h generalizing v cs fuel with
  | ended => exact absurd (fun k hlo hhi => absurd hhi (by simpa using hlo)) hn
  | @next _ _ _ _ _ _ r ids _ hnext hrun hres hrest ih =>
    subst hinfo hid
    cases fuel with
    | zero => rfl
    | succ fuel =>
      have hbuilt := built_buffers hv (r.outs.getD 0 v.info) (r.outs.getD 1 v.id)
      rw [enumLoop, hnext, run_bind_eq hrun, if_pos hres]
      by_cases hround : H.allocator.Grants (3 * v.listSize) (3 * (v.listSize + 1))
      · obtain ⟨c, v₁, hadd, -, hbuilt₁, hinfo₁, hid₁⟩ :=
          addObject_built (H := H) (next_sized hS hroom hnext hrun hres) hbuilt hround
        have hsize := round_size hv hbuilt₁
        rw [hadd]
        refine ih hinfo₁ hid₁ ⟨rfl, rfl⟩ hbuilt₁ fun hrest => hn fun k hlo hhi => ?_
        rw [List.length_cons] at hhi
        by_cases hk : k < 3 * (v.listSize + 1)
        · exact hround k hlo hk
        · exact hrest k (by omega) (by omega)
      · have hstop : addObject H { v with
            info := r.outs.getD 0 v.info, id := r.outs.getD 1 v.id } = none :=
          addObject_refused hround
        rw [hstop]
        rfl

def Leaves (heap : HostHeap) (listSize : ℕ) : Course → ListOutcome → Prop
  | .notAllocated res, out => res ≠ teeSuccess ∧ out = ⟨res, 0, listSize, heap⟩
  | .notStarted _ res, out => res ≠ teeSuccess ∧ out = ⟨res, 0, listSize, heap⟩
  | .enumerated _ ids _ freed, out => out.res = freed ∧ ∃ cs, Listed out.heap out.list cs ∧
      Extends heap out.heap (footprints cs) ∧ cs.map ListedObject.data = ids ∧
      out.listSize = cs.length

theorem keyEnumObjectList_follows (hS : Connects S ta) (H : HostMemory) {course : Course}
    (h : Follows S sid enumHandle s course s') (hn : H.allocator.Grants 0 (3 * course.length))
    (listSize : ℕ) (heap : HostHeap) (hfuel : course.length < fuel) :
    ∃ out, (keyEnumObjectList H S fuel sid enumHandle listSize heap).run s = (some out, s') ∧
      Leaves heap listSize course out := by
  have hne : ¬ teeSuccess ≠ teeSuccess := not_not.mpr rfl
  cases h with
  | notAllocated halloc hres =>
    refine ⟨_, ?_, hres, rfl⟩
    rw [keyEnumObjectList, run_bind_eq halloc, if_pos hres]
    rfl
  | notStarted halloc hres he hstart hres' =>
    refine ⟨_, ?_, hres', rfl⟩
    rw [keyEnumObjectList, run_bind_eq halloc, hres, if_neg hne]
    dsimp only
    rw [he, run_bind_eq hstart, if_pos hres']
    rfl
  | enumerated halloc hres he hstart hres' hall hfree =>
    have hempty : Built heap ⟨heap, 0, 0, 0, ⟨fun _ => 0, sizeofInfo⟩, ⟨fun _ => 0, sizeofId⟩⟩ [] :=
      ⟨.nil 0, Extends.refl heap, rfl, rfl⟩
    obtain ⟨v, cs, hloop, hbuilt, hids⟩ := enumLoop_enumerates (H := H) hS hall rfl rfl
      ⟨rfl, rfl⟩ hempty
      (by simpa [Course.length] using hn) hfuel
    rw [List.nil_append] at hbuilt
    refine ⟨⟨_, v.list, v.listSize, v.heap⟩, ?_, rfl, cs, hbuilt.listed, hbuilt.owned, hids,
      hbuilt.size⟩
    rw [keyEnumObjectList, run_bind_eq halloc, hres, if_neg hne]
    dsimp only
    rw [he, run_bind_eq hstart, hres', if_neg hne, run_bind_eq hloop]
    dsimp only
    rw [run_bind_eq hfree]
    rfl

theorem keyEnumObjectList_refused (hS : Connects S ta) {course : Course}
    (h : Follows S sid enumHandle s course s') (hn : ¬ H.allocator.Grants 0 (3 * course.length))
    (listSize : ℕ) (heap : HostHeap) :
    ((keyEnumObjectList H S fuel sid enumHandle listSize heap).run s).1 = none := by
  have hne : ¬ teeSuccess ≠ teeSuccess := not_not.mpr rfl
  have hnone (hzero : course.length = 0) : False := by
    refine hn fun k _ hhi => ?_
    rw [hzero] at hhi
    omega
  cases h with
  | notAllocated => exact (hnone rfl).elim
  | notStarted => exact (hnone rfl).elim
  | @enumerated _ s₂ _ _ _ _ _ e _ _ halloc hres he hstart hres' hall hfree =>
    have hempty : Built heap ⟨heap, 0, 0, 0, ⟨fun _ => 0, sizeofInfo⟩, ⟨fun _ => 0, sizeofId⟩⟩ [] :=
      ⟨.nil 0, Extends.refl heap, rfl, rfl⟩
    have hloop : ((enumLoop H S e fuel ⟨heap, 0, 0, 0, ⟨fun _ => 0, sizeofInfo⟩,
        ⟨fun _ => 0, sizeofId⟩⟩).run s₂).1 = none :=
      enumLoop_refused hS hall rfl rfl ⟨rfl, rfl⟩ hempty (by simpa [Course.length] using hn)
    obtain ⟨s₃, hrun⟩ : ∃ s₃, (enumLoop H S e fuel ⟨heap, 0, 0, 0, ⟨fun _ => 0, sizeofInfo⟩,
        ⟨fun _ => 0, sizeofId⟩⟩).run s₂ = (none, s₃) := ⟨_, Prod.ext hloop rfl⟩
    rw [keyEnumObjectList, run_bind_eq halloc, hres, if_neg hne]
    dsimp only
    rw [he, run_bind_eq hstart, hres', if_neg hne, run_bind_eq hrun]
    rfl

theorem enumerates_of_loop (hS : Connects S ta) {v v' : EnumVars} {cs : List ListedObject}
    (hroom : Roomy v.info v.id) (hv : Built heap₀ v cs)
    (hrun : (enumLoop H S e fuel v).run s = (some v', s')) :
    ∃ ids last, Enumerates S e s v.info v.id ids last s' ∧ ids.length < fuel := by
  induction fuel generalizing v cs s with
  | zero => exact absurd (Prod.mk.inj hrun).1.symm (Option.some_ne_none v')
  | succ fuel ih =>
    obtain ⟨next, hnext⟩ : ∃ next,
      keyNextEnum S e (some v.info.buffer) (some v.info.size) v.id = some next := ⟨_, rfl⟩
    obtain ⟨r, s₁, hanswer⟩ : ∃ r s₁, next.run s = (r, s₁) := ⟨_, _, rfl⟩
    rw [enumLoop, hnext] at hrun
    dsimp only at hrun
    rw [run_bind_eq hanswer] at hrun
    by_cases hres : r.res = teeSuccess
    · have hbuilt := built_buffers hv (r.outs.getD 0 v.info) (r.outs.getD 1 v.id)
      rw [if_pos hres] at hrun
      by_cases hround : ¬ H.allocator.Grants (3 * v.listSize) (3 * (v.listSize + 1))
      · have hstop : addObject H { v with
            info := r.outs.getD 0 v.info, id := r.outs.getD 1 v.id } = none :=
          addObject_refused hround
        rw [hstop] at hrun
        exact absurd (Prod.mk.inj hrun).1.symm (Option.some_ne_none v')
      obtain ⟨c, v₁, hadd, -, hbuilt₁, hinfo₁, hid₁⟩ :=
        addObject_built (H := H) (next_sized hS hroom hnext hanswer hres) hbuilt (not_not.mp hround)
      rw [hadd] at hrun
      obtain ⟨ids, last, hrest, hlen⟩ := ih ⟨by rw [hinfo₁], by rw [hid₁]⟩ hbuilt₁ hrun
      rw [hinfo₁, hid₁] at hrest
      exact ⟨_, last, .next hnext hanswer hres hrest, Nat.succ_lt_succ hlen⟩
    · rw [if_neg hres] at hrun
      obtain rfl : s₁ = s' := (Prod.mk.inj hrun).2
      exact ⟨[], r.res, .ended hnext hanswer hres, Nat.succ_pos fuel⟩

theorem follows_of_run (hS : Connects S ta) {heap : HostHeap} {out : ListOutcome}
    (hrun : (keyEnumObjectList H S fuel sid enumHandle listSize heap).run s = (some out, s')) :
    ∃ course, Follows S sid enumHandle s course s' := by
  obtain ⟨a, s₁, halloc⟩ : ∃ a s₁, (keyAllocEnum S enumHandle).run s = (a, s₁) := ⟨_, _, rfl⟩
  rw [keyEnumObjectList, run_bind_eq halloc] at hrun
  by_cases hres : a.res ≠ teeSuccess
  · rw [if_pos hres] at hrun
    obtain rfl : s₁ = s' := (Prod.mk.inj hrun).2
    exact ⟨_, .notAllocated halloc hres⟩
  rw [if_neg hres] at hrun
  dsimp only at hrun
  obtain ⟨r, s₂, hstart⟩ : ∃ r s₂,
    (keyStartEnum S (a.words.headD enumHandle) sid).run s₁ = (r, s₂) := ⟨_, _, rfl⟩
  rw [run_bind_eq hstart] at hrun
  by_cases hres' : r.res ≠ teeSuccess
  · rw [if_pos hres'] at hrun
    obtain rfl : s₂ = s' := (Prod.mk.inj hrun).2
    exact ⟨_, .notStarted halloc (not_not.mp hres) rfl hstart hres'⟩
  rw [if_neg hres'] at hrun
  obtain ⟨loop, s₃, hloop⟩ : ∃ loop s₃, (enumLoop H S (a.words.headD enumHandle) fuel
    ⟨heap, 0, 0, 0, ⟨fun _ => 0, sizeofInfo⟩, ⟨fun _ => 0, sizeofId⟩⟩).run s₂ = (loop, s₃) :=
    ⟨_, _, rfl⟩
  rw [run_bind_eq hloop] at hrun
  cases loop with
  | none => exact absurd (Prod.mk.inj hrun).1.symm (Option.some_ne_none out)
  | some v =>
    obtain ⟨ids, last, hall, -⟩ :=
      enumerates_of_loop hS ⟨rfl, rfl⟩ ⟨.nil 0, Extends.refl heap, rfl, rfl⟩ hloop
    obtain ⟨f, s₄, hfree⟩ : ∃ f s₄,
      (keyFreeEnum S (a.words.headD enumHandle)).run s₃ = (f, s₄) := ⟨_, _, rfl⟩
    dsimp only at hrun
    rw [run_bind_eq hfree] at hrun
    obtain rfl : s₄ = s' := (Prod.mk.inj hrun).2
    exact ⟨_, .enumerated halloc (not_not.mp hres) rfl hstart (not_not.mp hres') hall hfree⟩

def Complete (course : Course) (out : ListOutcome) : Prop :=
  ∃ e ids freed cs, course = .enumerated e ids teeErrorItemNotFound freed ∧
    Listed out.heap out.list cs ∧ cs.map ListedObject.data = ids ∧ out.listSize = ids.length

/-- The loop ends at the end of the storage, or the enumerator cannot be freed. -/
def EndsOrFails : Course → Prop
  | .enumerated _ _ last freed => last = teeErrorItemNotFound ∨ freed ≠ teeSuccess
  | _ => True

theorem complete_iff {heap : HostHeap} {course : Course} {out : ListOutcome}
    (h : Leaves heap listSize course out) :
    (out.res = teeSuccess → Complete course out) ↔ EndsOrFails course := by
  cases course with
  | notAllocated res =>
    obtain ⟨hres, rfl⟩ := h
    exact iff_of_true (fun hok => absurd hok hres) trivial
  | notStarted e res =>
    obtain ⟨hres, rfl⟩ := h
    exact iff_of_true (fun hok => absurd hok hres) trivial
  | enumerated e ids last freed =>
    obtain ⟨rfl, cs, hlisted, -, hids, hsize⟩ := h
    constructor
    · intro hcomplete
      by_cases hok : out.res = teeSuccess
      · obtain ⟨_, _, _, _, hcourse, -⟩ := hcomplete hok
        exact Or.inl (Course.enumerated.inj hcourse).2.2.1
      · exact Or.inr hok
    · rintro (rfl | hfail) hok
      · refine ⟨e, ids, out.res, cs, rfl, hlisted, hids, ?_⟩
        rw [hsize, ← hids, List.length_map]
      · exact absurd hok hfail

/-- With the blocks it needs it returns. A success stands for a complete list exactly when no other
error ends the loop, or freeing the enumerator fails, or the run stops at a refused block. -/
theorem success_complete_iff (hS : Connects S ta) (H : HostMemory) {course : Course}
    (h : Follows S sid enumHandle s course s') (listSize : ℕ) (heap : HostHeap)
    (hfuel : course.length < fuel) :
    let run := (keyEnumObjectList H S fuel sid enumHandle listSize heap).run s
    let granted := H.allocator.Grants 0 (3 * course.length)
    (granted → ∃ out, run = (some out, s')) ∧
      ((∀ out, run.1 = some out → out.res = teeSuccess → Complete course out) ↔
        EndsOrFails course ∨ ¬ granted) := by
  intro run granted
  by_cases hn : granted
  · obtain ⟨out, hrun, hleaves⟩ := keyEnumObjectList_follows hS H h hn listSize heap hfuel
    have hout : run = (some out, s') := hrun
    refine ⟨fun _ => ⟨out, hout⟩, ?_⟩
    rw [or_iff_left (not_not.mpr hn), ← complete_iff hleaves, hout]
    exact ⟨fun hall => hall out rfl, fun hone _ heq => Option.some.inj heq ▸ hone⟩
  · refine ⟨fun hgranted => absurd hgranted hn, iff_of_true ?_ (Or.inr hn)⟩
    intro out hout
    have hnone : run.1 = none := keyEnumObjectList_refused hS h hn listSize heap
    rw [hnone] at hout
    cases hout

/-- A TA that answers from a list, whatever it is asked. -/
def scripted : Ta (List TeeResult) := fun _ _ params answers =>
  match answers with
  | [] => ((teeErrorGeneric, params), [])
  | res :: rest => ((res, fun _ => ⟨⟨1, 0⟩, ⟨fun _ => 7, 1⟩⟩), rest)

def host : HostMemory := ⟨.arm64, nextAddress fun _ => true, fun _ => 0⟩

theorem host_grants (lo hi : ℕ) : host.allocator.Grants lo hi := fun _ _ _ => rfl

theorem follows_one : Follows (carried scripted) 1 0
    [teeSuccess, teeSuccess, teeSuccess, teeErrorItemNotFound, teeSuccess]
    (.enumerated 1 [[7]] teeErrorItemNotFound teeSuccess) [] :=
  .enumerated rfl rfl rfl rfl rfl (.next rfl rfl rfl (.ended rfl rfl (by decide))) rfl

theorem success_complete_one :
    ∃ out, (keyEnumObjectList host (carried scripted) 2 1 0 0 ∅).run
        [teeSuccess, teeSuccess, teeSuccess, teeErrorItemNotFound, teeSuccess] = (some out, []) ∧
      (out.res = teeSuccess →
        Complete (.enumerated 1 [[7]] teeErrorItemNotFound teeSuccess) out) := by
  obtain ⟨hreturns, hiff⟩ := success_complete_iff (connects_carried scripted) host follows_one 0 ∅
    (Nat.lt_succ_self 1)
  obtain ⟨out, hrun⟩ := hreturns (host_grants _ _)
  exact ⟨out, hrun, hiff.mpr (Or.inl (Or.inl rfl)) out (congrArg Prod.fst hrun)⟩

/-- The TA runs out of memory after the first object. -/
theorem error_is_success : ∃ course out,
    Follows (carried scripted) 1 0
      [teeSuccess, teeSuccess, teeSuccess, teeErrorOutOfMemory, teeSuccess] course [] ∧
    (keyEnumObjectList host (carried scripted) 2 1 0 0 ∅).run
      [teeSuccess, teeSuccess, teeSuccess, teeErrorOutOfMemory, teeSuccess] = (some out, []) ∧
    out.res = teeSuccess ∧ ¬ Complete course out := by
  have hfollows : Follows (carried scripted) 1 0
      [teeSuccess, teeSuccess, teeSuccess, teeErrorOutOfMemory, teeSuccess]
      (.enumerated 1 [[7]] teeErrorOutOfMemory teeSuccess) [] :=
    .enumerated rfl rfl rfl rfl rfl (.next rfl rfl rfl (.ended rfl rfl (by decide))) rfl
  obtain ⟨out, hrun, hleaves⟩ :=
    keyEnumObjectList_follows (connects_carried scripted) host hfollows (host_grants _ _) 0 ∅
      (Nat.lt_succ_self 1)
  refine ⟨_, out, hfollows, hrun, hleaves.1, ?_⟩
  rintro ⟨_, _, _, _, hcourse, -⟩
  exact absurd (Course.enumerated.inj hcourse).2.2.1 (by decide)

def recorded (ta : Ta σ) : Ta (σ × List (UInt32 × UInt32)) := fun commandId types params s =>
  let (answer, next) := (ta commandId types params).run s.1
  (answer, next, s.2 ++ [(commandId, (params 0).value.a)])

def freeCall (e : UInt32) : UInt32 × UInt32 := (KeyCommand.freeEnum.code, e)

section
variable {s s' : σ × List (UInt32 × UInt32)} {S : Session (StateM (σ × List (UInt32 × UInt32)))}
variable {r : HostResult} (hS : Connects S (recorded ta))

theorem recorded_log (ta : Ta σ) (commandId types : UInt32) (params : TeeParams)
    (s : σ × List (UInt32 × UInt32)) :
    ((recorded ta commandId types params).run s).2.2 =
      s.2 ++ [(commandId, (params 0).value.a)] := rfl

include hS

theorem hostCall_count {commandId : UInt32} {op : TeecOperation} (hfit : Transportable op)
    {finish : TeeResult → TeecOperation → HostResult} (hne : commandId ≠ KeyCommand.freeEnum.code)
    (hrun : (hostCall S commandId op finish).run s = (r, s')) :
    s'.2.count (freeCall e) = s.2.count (freeCall e) := by
  have hother : (commandId, (deliver op 0).value.a) ≠ freeCall e := fun h => hne (Prod.mk.inj h).1
  rw [run_hostCall hS _ hfit] at hrun
  rw [← (Prod.mk.inj hrun).2, recorded_log, List.count_append, List.count_singleton,
    beq_false_of_ne hother]
  rfl

theorem keyAllocEnum_count (hrun : (keyAllocEnum S enumHandle).run s = (r, s')) :
    s'.2.count (freeCall e) = s.2.count (freeCall e) := by
  rw [keyAllocEnum, allocEnum] at hrun
  exact hostCall_count hS (by
    exact transportable_operation.mpr ⟨trivial, trivial, trivial, trivial⟩) (by decide) hrun

theorem keyStartEnum_count {e' : UInt32} (hrun : (keyStartEnum S e' sid).run s = (r, s')) :
    s'.2.count (freeCall e) = s.2.count (freeCall e) := by
  rw [keyStartEnum, sendValue] at hrun
  exact hostCall_count hS (by
    exact transportable_operation.mpr ⟨trivial, trivial, trivial, trivial⟩) (by decide) hrun

theorem keyFreeEnum_count (hrun : (keyFreeEnum S e).run s = (r, s')) :
    s'.2.count (freeCall e) = s.2.count (freeCall e) + 1 := by
  have hfit : Transportable (operation .valueInput .none .none .none (valueParameter e 0)
      zeroParameter zeroParameter zeroParameter) :=
    transportable_operation.mpr ⟨trivial, trivial, trivial, trivial⟩
  rw [keyFreeEnum, sendValue, run_hostCall hS _ hfit] at hrun
  rw [← (Prod.mk.inj hrun).2, recorded_log, deliver_operation, List.count_append]
  exact congrArg (_ + ·) List.count_singleton_self

theorem enumerates_count (hroom : Roomy info id) (h : Enumerates S e s info id ids last s') :
    s'.2.count (freeCall e) = s.2.count (freeCall e) := by
  have hcall {s s' : σ × List (UInt32 × UInt32)} {info id : TempMemoryReference}
      {next : StateM _ HostResult} {r : HostResult} (hroom : Roomy info id)
      (hnext : keyNextEnum S e (some info.buffer) (some info.size) id = some next)
      (hrun : next.run s = (r, s')) : s'.2.count (freeCall e) = s.2.count (freeCall e) := by
    rw [← Option.some.inj hnext] at hrun
    exact hostCall_count hS (transportable_next hroom) (by decide) hrun
  induction h with
  | ended hnext hrun _ => exact hcall hroom hnext hrun
  | next hnext hrun _ _ ih => exact (ih ⟨rfl, rfl⟩).trans (hcall hroom hnext hrun)

end

variable {S : Session (StateM (σ × List (UInt32 × UInt32)))}
variable {log : List (UInt32 × UInt32)}

def Course.allocated : Course → Option UInt32
  | .notAllocated _ => none
  | .notStarted e _ => some e
  | .enumerated e _ _ _ => some e

structure Consistent (course : Course) (log : List (UInt32 × UInt32)) (out : ListOutcome) :
    Prop where
  freed : ∀ e, course.allocated = some e → log.count (freeCall e) = 1
  empty : out.list = 0 → out.listSize = 0
  listed : out.list ≠ 0 → ∃ cs, Listed out.heap out.list cs ∧ out.listSize = cs.length

/-- The enumerator is started, or is not there and the size was 0. -/
def StartsOrEmpty (listSize : ℕ) : Course → Prop
  | .notAllocated _ => listSize = 0
  | .notStarted _ _ => False
  | .enumerated _ _ _ _ => True

theorem freed_notStarted (hS : Connects S (recorded ta)) {e : UInt32} {res : TeeResult}
    (h : Follows S sid enumHandle (s, []) (.notStarted e res) (s', log)) :
    log.count (freeCall e) = 0 := by
  cases h with
  | notStarted halloc hres he hstart hres' =>
    exact (keyStartEnum_count hS hstart).trans (keyAllocEnum_count hS halloc)

theorem freed_enumerated (hS : Connects S (recorded ta)) {e : UInt32} {ids : List (List UInt8)}
    {last freed : TeeResult}
    (h : Follows S sid enumHandle (s, []) (.enumerated e ids last freed) (s', log)) :
    log.count (freeCall e) = 1 := by
  cases h with
  | enumerated halloc hres he hstart hres' hall hfree =>
    have hfreed := keyFreeEnum_count hS hfree
    rwa [enumerates_count hS ⟨rfl, rfl⟩ hall, keyStartEnum_count hS hstart,
      keyAllocEnum_count hS halloc] at hfreed

theorem consistent_of_leaves (hS : Connects S (recorded ta)) {heap : HostHeap} {course : Course}
    {out : ListOutcome}
    (h : Follows S sid enumHandle (s, []) course (s', log))
    (hleaves : Leaves heap listSize course out) :
    Consistent course log out ↔ StartsOrEmpty listSize course := by
  cases course with
  | notAllocated res =>
    obtain ⟨-, rfl⟩ := hleaves
    exact ⟨fun hc => hc.empty rfl, fun hsize => ⟨fun e he => (Option.some_ne_none e he.symm).elim,
      fun _ => hsize, fun hne => absurd rfl hne⟩⟩
  | notStarted e res =>
    refine ⟨fun hc => ?_, False.elim⟩
    have hone := hc.freed e rfl
    rw [freed_notStarted hS h] at hone
    exact absurd hone Nat.zero_ne_one
  | enumerated e ids last freed =>
    obtain ⟨-, cs, hlisted, howned, -, hsize⟩ := hleaves
    refine iff_of_true ⟨?_, ?_, fun _ => ⟨cs, hlisted, hsize⟩⟩ trivial
    · intro e' he
      obtain rfl := Option.some.inj he
      exact freed_enumerated hS h
    · intro hzero
      cases cs with
      | nil => exact hsize
      | cons c cs =>
        have hmem := hlisted.start_mem (List.cons_ne_nil c cs)
        rw [hzero] at hmem
        exact absurd hmem howned.nonzero

/-- The run returns with consistent outputs and nothing left behind exactly when the enumerator is
started, or not even allocated and the caller's size was 0, and no block is refused. -/
theorem consistent_iff (hS : Connects S (recorded ta)) (H : HostMemory) {course : Course}
    (h : Follows S sid enumHandle (s, []) course (s', log)) (listSize : ℕ)
    (heap : HostHeap) (hfuel : course.length < fuel) :
    (∃ out, (keyEnumObjectList H S fuel sid enumHandle listSize heap).run (s, []) =
        (some out, s', log) ∧ Consistent course log out) ↔
      StartsOrEmpty listSize course ∧ H.allocator.Grants 0 (3 * course.length) := by
  by_cases hn : H.allocator.Grants 0 (3 * course.length)
  · obtain ⟨out, hrun, hleaves⟩ := keyEnumObjectList_follows hS H h hn listSize heap hfuel
    rw [and_iff_left hn, ← consistent_of_leaves hS h hleaves, hrun]
    constructor
    · rintro ⟨out', heq, hc⟩
      exact Option.some.inj (Prod.mk.inj heq).1 ▸ hc
    · exact fun hc => ⟨out, rfl, hc⟩
  · refine iff_of_false ?_ fun hboth => hn hboth.2
    rintro ⟨out, hrun, -⟩
    have hnone := congrArg Prod.fst hrun
    rw [keyEnumObjectList_refused hS h hn listSize heap] at hnone
    cases hnone

theorem consistent_one :
    ∃ out, (keyEnumObjectList host (carried (recorded scripted)) 2 1 0 0 ∅).run
        ([teeSuccess, teeSuccess, teeSuccess, teeErrorItemNotFound, teeSuccess], []) =
      (some out, [], [(3, 0), (6, 1), (7, 1), (7, 1), (4, 1)]) ∧
      Consistent (.enumerated 1 [[7]] teeErrorItemNotFound teeSuccess)
        [(3, 0), (6, 1), (7, 1), (7, 1), (4, 1)] out := by
  have hfollows : Follows (carried (recorded scripted)) 1 0
      ([teeSuccess, teeSuccess, teeSuccess, teeErrorItemNotFound, teeSuccess], [])
      (.enumerated 1 [[7]] teeErrorItemNotFound teeSuccess)
      ([], [(3, 0), (6, 1), (7, 1), (7, 1), (4, 1)]) :=
    .enumerated rfl rfl rfl rfl rfl (.next rfl rfl rfl (.ended rfl rfl (by decide))) rfl
  exact (consistent_iff (connects_carried (recorded scripted)) host hfollows 0 ∅
    (Nat.lt_succ_self 1)).mpr ⟨trivial, host_grants _ _⟩

/-- The storage is empty, and the enumerator stays. -/
theorem empty_storage_leaks : ∃ course log out,
    Follows (carried (recorded scripted)) 1 0 ([teeSuccess, teeErrorItemNotFound], []) course
      ([], log) ∧
    (keyEnumObjectList host (carried (recorded scripted)) 1 1 0 0 ∅).run
      ([teeSuccess, teeErrorItemNotFound], []) = (some out, [], log) ∧
    ¬ Consistent course log out := by
  have hfollows : Follows (carried (recorded scripted)) 1 0 ([teeSuccess, teeErrorItemNotFound], [])
      (.notStarted 1 teeErrorItemNotFound) ([], [(3, 0), (6, 1)]) :=
    .notStarted rfl rfl rfl rfl (by decide)
  obtain ⟨out, hrun, -⟩ :=
    keyEnumObjectList_follows (connects_carried (recorded scripted)) host hfollows
      (host_grants _ _) 0 ∅ (Nat.lt_succ_self 0)
  refine ⟨_, _, out, hfollows, hrun, ?_⟩
  intro hc
  exact absurd (hc.freed 1 rfl) (by decide)

end EnumOutcomes
