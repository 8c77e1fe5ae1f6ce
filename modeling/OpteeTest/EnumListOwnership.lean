import OpteeTest.EnumObjectList
import OpteeTest.KeyMarshalling

/-! # Whose blocks the object list is made of

Building the list adds three blocks for each object; taking it apart gives back these and no
others. -/
namespace EnumListOwnership

open ByteMemory TeeApi ClientApi HandleTransport TeeCalls BlockHeap EnumObjectList
open StorageHandlers KeyHandlers StorageWrappers WrapperMarshalling StorageMarshalling

/-- The addresses of a node, its object and its id, and the bytes of the id. -/
structure ListedObject where
  node : ℕ
  object : ℕ
  id : ℕ
  data : List UInt8

/-- The node leads to its object and to the next node, and the object to a copy of its id. -/
structure HoldsObject (heap : HostHeap) (c : ListedObject) (next : ℕ) : Prop where
  node : getList heap c.node = some ⟨some c.object, some next⟩
  object : ∃ idSize, getObj heap c.object = some ⟨some c.id, some idSize⟩ ∧
    idSize.toNat = c.data.length
  id : ∃ mem, heap.lookup c.id = some (.bytes mem c.data.length) ∧
    slice mem 0 c.data.length = c.data

theorem getList_agree {heap heap' : HostHeap} {a : ℕ} (h : heap'.lookup a = heap.lookup a) :
    getList heap' a = getList heap a := by
  rw [getList, getList, deref, deref, h]

theorem getObj_agree {heap heap' : HostHeap} {a : ℕ} (h : heap'.lookup a = heap.lookup a) :
    getObj heap' a = getObj heap a := by
  rw [getObj, getObj, deref, deref, h]

def objectLayout : Layout HostBlock ListedObject where
  head := ListedObject.node
  footprint := fun c => [c.id, c.object, c.node]
  Holds := HoldsObject
  head_mem := fun c => by simp
  frame := fun {heap heap' c next} hagree h => by
    refine ⟨?_, ?_, ?_⟩
    · rw [getList_agree (hagree c.node (by simp))]
      exact h.node
    · rw [getObj_agree (hagree c.object (by simp))]
      exact h.object
    · rw [hagree c.id (by simp)]
      exact h.id

abbrev Listed (heap : HostHeap) (a : ℕ) (cs : List ListedObject) : Prop :=
  Segment objectLayout heap a cs 0

abbrev footprints (cs : List ListedObject) : List ℕ := objectLayout.footprints cs

variable {H : HostMemory} {heap₀ heap heap' : HostHeap} {cs : List ListedObject} {a b : ℕ}

theorem free_owned {addrs : List ℕ} {s : FreeVars} (h : Extends heap₀ s.heap (a :: addrs)) :
    free s a = some { s with heap := s.heap.erase a, freed := s.freed ++ [a] } := by
  have hne : a ≠ 0 := fun hz => h.nonzero (hz ▸ List.mem_cons_self)
  rw [free, if_neg hne, if_pos (h.live a List.mem_cons_self)]

theorem freeRound_listed {c : ListedObject} {next : ℕ} {addrs : List ℕ} {s : FreeVars}
    (hc : HoldsObject s.heap c next)
    (h : Extends heap₀ s.heap (c.id :: c.object :: c.node :: addrs)) :
    ∃ heap', freeRound s c.node =
        some (next, ⟨heap', s.count + 1, s.freed ++ [c.id, c.object, c.node]⟩) ∧
      Extends heap₀ heap' addrs ∧ Agree s.heap heap' addrs := by
  obtain ⟨idSize, hobj, -⟩ := hc.object
  have hnodup := h.nodup
  simp only [List.nodup_cons, List.mem_cons, not_or] at hnodup
  obtain ⟨⟨hio, hin, hir⟩, ⟨hon, hor⟩, hnr, -⟩ := hnodup
  have hnode : getList (s.heap.erase c.id) c.node = some ⟨some c.object, some next⟩ := by
    rw [getList_agree (Finmap.lookup_erase_ne (Ne.symm hin))]
    exact hc.node
  have h₁ := h.release
  have h₂ := h₁.release
  refine ⟨((s.heap.erase c.id).erase c.object).erase c.node, ?_, h₂.release, ?_⟩
  · have hnext : (if next ≠ 0 then next else 0) = next := by
      split <;> omega
    simp only [freeRound, hc.node, hobj, free_owned h, Option.bind_eq_bind, Option.bind_some,
      hnode]
    rw [free_owned h₁, Option.bind_some, free_owned h₂, Option.bind_some, hnext]
    simp
  · exact ((agree_erase hir).trans (agree_erase hor)).trans (agree_erase hnr)

theorem freeLoop_listed {s : FreeVars} {fuel : ℕ} (h : Listed s.heap a cs)
    (hext : Extends heap₀ s.heap (footprints cs)) (hfuel : cs.length < fuel) :
    freeLoop fuel a s = some ⟨heap₀, s.count + cs.length, s.freed ++ footprints cs⟩ := by
  induction cs generalizing a s fuel with
  | nil =>
    cases h
    obtain ⟨fuel, rfl⟩ := Nat.exists_eq_add_of_le' hfuel
    obtain ⟨heap, count, freed⟩ := s
    have hheap : heap = heap₀ := hext.eq
    simp [freeLoop, hheap, Layout.footprints]
  | cons c cs ih =>
    obtain ⟨fuel, rfl⟩ := Nat.exists_eq_add_of_le' (Nat.one_le_of_lt hfuel)
    cases h with
    | @cons _ _ next _ hc hs =>
      have hmem : c.node ∈ footprints (c :: cs) := by simp [Layout.footprints, objectLayout]
      have hne : c.node ≠ 0 := fun hz => hext.nonzero (hz ▸ hmem)
      obtain ⟨heap', hround, hext', hagree⟩ := freeRound_listed hc hext
      have hrest : freeLoop fuel next ⟨heap', s.count + 1,
          s.freed ++ [c.id, c.object, c.node]⟩ = _ :=
        ih (hs.congr hagree) hext' (by simpa using hfuel)
      change freeLoop (fuel + 1) c.node s = _
      rw [freeLoop, if_neg hne, hround]
      simp only [hrest, List.length_cons, List.append_assoc]
      simp [Layout.footprints, objectLayout]
      omega

/-- Freeing a list that was built on a heap gives that heap back. -/
theorem keyFreeEnumObjectList_listed {fuel : ℕ} (h : Listed heap a cs)
    (hext : Extends heap₀ heap (footprints cs)) (hfuel : cs.length < fuel) :
    keyFreeEnumObjectList fuel a heap = some ⟨cs.length, 0, heap₀, footprints cs⟩ := by
  rw [keyFreeEnumObjectList, freeLoop_listed h hext hfuel]
  simp

theorem deref_of_ne (heap : HostHeap) (ha : a ≠ 0) : deref heap a = heap.lookup a := if_neg ha

theorem getObj_insert (heap : HostHeap) (ha : a ≠ 0) (o : EObj) :
    getObj (heap.insert a (.obj o)) a = some o := by
  rw [getObj, deref_of_ne _ ha, Finmap.lookup_insert]

theorem getList_insert (heap : HostHeap) (ha : a ≠ 0) (n : EObjList) :
    getList (heap.insert a (.list n)) a = some n := by
  rw [getList, deref_of_ne _ ha, Finmap.lookup_insert]

theorem setObj_some {o : EObj} (h : getObj heap a = some o) (f : EObj → EObj) :
    setObj heap a f = some (heap.insert a (.obj (f o))) := by
  rw [setObj, h]
  rfl

theorem setList_some {n : EObjList} (h : getList heap a = some n) (f : EObjList → EObjList) :
    setList heap a f = some (heap.insert a (.list (f n))) := by
  rw [setList, h]
  rfl

theorem memcpy_some {mem : Memory UInt8} {data : List UInt8}
    (h : deref heap a = some (.bytes mem data.length)) :
    memcpy heap a data = some (heap.insert a (.bytes (copyIn mem 0 data) data.length)) := by
  rw [memcpy, h]
  exact if_pos le_rfl

/-- The blocks of a new object hold a copy of the id and its length. -/
theorem newObject_owned (H : HostMemory) {n : ℕ} (hn : H.allocator.Grants n (n + 2))
    (heap : HostHeap) (id : TempMemoryReference) :
    ∃ obj copy heap', newObject H n heap id = some (obj, heap') ∧
      Extends heap heap' [copy, obj] ∧
      getObj heap' obj = some ⟨some copy, some (capacity id)⟩ ∧
      ∃ mem, heap'.lookup copy = some (.bytes mem id.size) ∧
        slice mem 0 id.size = hostBytes id := by
  obtain ⟨obj, hobj⟩ : ∃ obj, H.allocator.address heap (sizeofEObj H.target) = obj := ⟨_, rfl⟩
  have hlen : (hostBytes id).length = id.size := length_slice _ _ _
  have h₁ : Extends heap (heap.insert obj (.obj ⟨none, none⟩)) [obj] :=
    hobj ▸ (Extends.refl heap).malloc H.allocator (sizeofEObj H.target) _
  have h₂ := h₁.write (List.mem_singleton_self obj) (.obj ⟨none, some (capacity id)⟩)
  obtain ⟨heap₂, hheap₂⟩ : ∃ heap₂, (heap.insert obj (.obj ⟨none, none⟩)).insert obj
    (.obj ⟨none, some (capacity id)⟩) = heap₂ := ⟨_, rfl⟩
  rw [hheap₂] at h₂
  obtain ⟨copy, hcopy⟩ : ∃ copy, H.allocator.address heap₂ id.size = copy := ⟨_, rfl⟩
  have h₃ : Extends heap (heap₂.insert copy (.bytes H.found id.size)) [copy, obj] :=
    hcopy ▸ h₂.malloc H.allocator id.size _
  have hne : obj ≠ copy := fun heq => by simpa [heq] using h₃.nodup
  have hzero : copy ≠ 0 ∧ obj ≠ 0 := by
    have hnonzero := h₃.nonzero
    simp only [List.mem_cons, not_or] at hnonzero
    exact ⟨Ne.symm hnonzero.1, Ne.symm hnonzero.2.1⟩
  have hget₂ : getObj heap₂ obj = some ⟨none, some (capacity id)⟩ := by
    rw [← hheap₂, getObj_insert _ hzero.2]
  have hget₃ : getObj (heap₂.insert copy (.bytes H.found id.size)) obj =
      some ⟨none, some (capacity id)⟩ := by
    rw [getObj_agree (Finmap.lookup_insert_of_ne _ hne), hget₂]
  have h₄ := h₃.write (a := obj) (by simp) (.obj ⟨some copy, some (capacity id)⟩)
  have h₅ := h₄.write (a := copy) (by simp) (.bytes (copyIn H.found 0 (hostBytes id)) id.size)
  refine ⟨obj, copy, _, ?_, h₅, ?_, copyIn H.found 0 (hostBytes id), Finmap.lookup_insert _, ?_⟩
  · have hmem : deref ((heap₂.insert copy (.bytes H.found id.size)).insert obj
        (.obj ⟨some copy, some (capacity id)⟩)) copy =
          some (.bytes H.found (hostBytes id).length) := by
      rw [deref_of_ne _ hzero.1, Finmap.lookup_insert_of_ne _ (Ne.symm hne), Finmap.lookup_insert,
        hlen]
    have hcpy := memcpy_some hmem
    rw [hlen] at hcpy
    rw [newObject, malloc_granted (hn n le_rfl (by omega)), hobj]
    dsimp only
    rw [setObj_some (getObj_insert _ hzero.2 _), Option.bind_eq_bind, Option.bind_some,
      malloc_granted (hn (n + 1) (by omega) (by omega))]
    dsimp only
    rw [← capacity, hheap₂, hcopy, setObj_some hget₃, Option.bind_some, ← hostBytes, hcpy]
    rfl
  · rw [getObj_agree (Finmap.lookup_insert_of_ne _ hne), getObj_insert _ hzero.2]
  · rw [← hlen]
    exact slice_copyIn _ _ _

/-- A new node, its object and its id, with what is left to do for it. -/
theorem addObject_owned (H : HostMemory) (v : EnumVars) (hid : Sized v.id)
    (hn : H.allocator.Grants (3 * v.listSize) (3 * (v.listSize + 1))) :
    ∃ c heap', Extends v.heap heap' (objectLayout.footprint c) ∧ HoldsObject heap' c 0 ∧
      c.data = hostBytes v.id ∧
      addObject H v = (linkPrev heap' v.prev c.node).map fun heap =>
        ⟨heap, if v.list = 0 then c.node else v.list, c.node, v.listSize + 1,
          { v.info with size := sizeofInfo }, { v.id with size := sizeofId }⟩ := by
  obtain ⟨node, hnode⟩ : ∃ node, H.allocator.address v.heap (sizeofEObjList H.target) = node :=
    ⟨_, rfl⟩
  have h₁ : Extends v.heap (v.heap.insert node (.list ⟨none, none⟩)) [node] :=
    hnode ▸ (Extends.refl v.heap).malloc H.allocator (sizeofEObjList H.target) _
  obtain ⟨obj, copy, heap₂, hobject, h₂, hget, mem, hmem, hslice⟩ :=
    newObject_owned H (n := 3 * v.listSize + 1) (fun k hlo hhi => hn k (by omega) (by omega))
      (v.heap.insert node (.list ⟨none, none⟩)) v.id
  have h₃ : Extends v.heap heap₂ [copy, obj, node] := (h₁.trans h₂).perm List.perm_append_comm
  have hne : obj ≠ node ∧ copy ≠ node := by
    have hnodup := h₃.nodup
    simp only [List.nodup_cons, List.mem_cons, not_or] at hnodup
    exact ⟨hnodup.2.1.1, hnodup.1.2.1⟩
  have hzero : node ≠ 0 := fun hz => h₃.nonzero (hz ▸ by simp)
  have hlist₂ : getList heap₂ node = some ⟨none, none⟩ := by
    rw [getList_agree (h₂.agree h₁.live node (List.mem_singleton_self node)),
      getList_insert _ hzero]
  have hlist₃ : getList (heap₂.insert node (.list ⟨some obj, none⟩)) node =
      some ⟨some obj, none⟩ := getList_insert _ hzero _
  have h₄ := (h₃.write (a := node) (by simp) (.list ⟨some obj, none⟩)).write (a := node) (by simp)
    (.list ⟨some obj, some 0⟩)
  have hlen : (hostBytes v.id).length = v.id.size := length_slice _ _ _
  refine ⟨⟨node, obj, copy, hostBytes v.id⟩, _, h₄, ⟨getList_insert _ hzero _, ?_, ?_⟩, rfl, ?_⟩
  · refine ⟨capacity v.id, ?_, (capacity_toNat hid).trans hlen.symm⟩
    rw [getObj_agree (Finmap.lookup_insert_of_ne _ hne.1),
      getObj_agree (Finmap.lookup_insert_of_ne _ hne.1), hget]
  · refine ⟨mem, ?_, by rw [hlen, hslice]⟩
    rw [Finmap.lookup_insert_of_ne _ hne.2, Finmap.lookup_insert_of_ne _ hne.2, hmem, hlen]
  · rw [addObject, malloc_granted (hn _ le_rfl (by omega)), hnode]
    dsimp only
    simp only [hobject, Option.bind_eq_bind, Option.bind_some, setList_some hlist₂,
      setList_some hlist₃]
    rw [Option.map_eq_bind]
    rfl

theorem newObject_refused {n : ℕ} (hn : ¬ H.allocator.Grants n (n + 2)) (heap : HostHeap)
    (id : TempMemoryReference) : newObject H n heap id = none := by
  by_cases h₀ : H.allocator.grants n = true
  · have h₁ : H.allocator.grants (n + 1) ≠ true := by
      intro h₁
      refine hn fun k hlo hhi => ?_
      rcases Nat.eq_or_lt_of_le hlo with rfl | hlt
      · exact h₀
      · rwa [show k = n + 1 by omega]
    rw [newObject]
    dsimp only
    cases setObj (H.allocator.malloc n heap (sizeofEObj H.target) (.obj ⟨none, none⟩)).2
        (H.allocator.malloc n heap (sizeofEObj H.target) (.obj ⟨none, none⟩)).1
        fun o => { o with idSize := some (UInt32.ofNat id.size) } with
    | none => rfl
    | some heap' =>
      rw [Option.bind_eq_bind, Option.bind_some, malloc_refused h₁]
      dsimp only
      cases setObj heap' (H.allocator.malloc n heap (sizeofEObj H.target) (.obj ⟨none, none⟩)).1
          fun o => { o with id := some 0 } with
      | none => rfl
      | some heap'' => rfl
  · rw [newObject, malloc_refused h₀]
    rfl

theorem addObject_refused {v : EnumVars}
    (hn : ¬ H.allocator.Grants (3 * v.listSize) (3 * (v.listSize + 1))) :
    addObject H v = none := by
  rw [addObject]
  dsimp only
  by_cases hobj : H.allocator.Grants (3 * v.listSize + 1) (3 * v.listSize + 1 + 2)
  · have hnode : H.allocator.grants (3 * v.listSize) ≠ true := by
      intro hnode
      refine hn fun k hlo hhi => ?_
      rcases Nat.eq_or_lt_of_le hlo with rfl | hlt
      · exact hnode
      · exact hobj k hlt (by omega)
    rw [malloc_refused hnode]
    dsimp only
    cases newObject H (3 * v.listSize + 1) v.heap v.id with
    | none => rfl
    | some o => rfl
  · rw [newObject_refused hobj]
    rfl

def lastNode (cs : List ListedObject) : ℕ := (cs.getLast?.map ListedObject.node).getD 0

theorem linkPrev_listed {c : ListedObject} (hl : Listed heap a cs)
    (hext : Extends heap₀ heap (footprints cs))
    (hnew : Extends heap heap' (objectLayout.footprint c)) (hc : HoldsObject heap' c 0) :
    ∃ heap'', linkPrev heap' (lastNode cs) c.node = some heap'' ∧
      Listed heap'' (if a = 0 then c.node else a) (cs ++ [c]) ∧
      Extends heap₀ heap'' (footprints (cs ++ [c])) := by
  have hprints (ds : List ListedObject) (d : ListedObject) :
      footprints (ds ++ [d]) = footprints ds ++ objectLayout.footprint d := by
    simp [Layout.footprints]
  have hall : Extends heap₀ heap' (footprints (cs ++ [c])) := hprints cs c ▸ hext.trans hnew
  have hl' : Listed heap' a cs := hl.congr (hnew.agree hext.live)
  rcases List.eq_nil_or_concat' cs with rfl | ⟨ds, p, rfl⟩
  · cases hl
    exact ⟨heap', rfl, .cons hc (.nil 0), hall⟩
  · obtain ⟨hds, hp⟩ := segment_concat.mp hl'
    have hmem : p.node ∈ objectLayout.footprint p := objectLayout.head_mem p
    have hold : p.node ∈ footprints (ds ++ [p]) :=
      hprints ds p ▸ List.mem_append_right _ hmem
    have hnewc : p.node ∉ objectLayout.footprint c := (hprints (ds ++ [p]) c ▸ hall).apart hold
    have hrest : p.node ∉ footprints ds := fun hin => (hprints ds p ▸ hext).apart hin hmem
    have hself : p.id ≠ p.node ∧ p.object ≠ p.node := by
      have hnodup : (objectLayout.footprint p).Nodup :=
        (hprints ds p ▸ hext.nodup).of_append_right
      simp only [objectLayout, List.nodup_cons, List.mem_cons, not_or] at hnodup
      exact ⟨hnodup.1.2.1, hnodup.2.1.1⟩
    have hprev : p.node ≠ 0 := fun hz => hext.nonzero (hz ▸ hold)
    have hne : ds ++ [p] ≠ [] := List.append_ne_nil_of_right_ne_nil ds (List.cons_ne_nil p [])
    have ha : a ≠ 0 := fun hz => hext.nonzero (hz ▸ hl.start_mem hne)
    refine ⟨heap'.insert p.node (.list ⟨some p.object, some c.node⟩), ?_, ?_,
      hall.write (hprints (ds ++ [p]) c ▸ List.mem_append_left _ hold) _⟩
    · rw [lastNode, List.getLast?_concat, Option.map_some, Option.getD_some, linkPrev, if_pos hprev,
        setList_some hp.node]
    · rw [if_neg ha]
      refine segment_concat.mpr ⟨segment_concat.mpr ⟨hds.congr (agree_insert hrest), ?_⟩,
        objectLayout.frame (agree_insert hnewc) hc⟩
      refine ⟨getList_insert _ hprev _, ?_, ?_⟩
      · rw [getObj_agree (Finmap.lookup_insert_of_ne _ hself.2)]
        exact hp.object
      · rw [Finmap.lookup_insert_of_ne _ hself.1]
        exact hp.id

structure Built (heap₀ : HostHeap) (v : EnumVars) (cs : List ListedObject) : Prop where
  listed : Listed v.heap v.list cs
  owned : Extends heap₀ v.heap (footprints cs)
  prev : v.prev = lastNode cs
  size : v.listSize = cs.length

theorem addObject_built {v : EnumVars} (hid : Sized v.id) (hv : Built heap₀ v cs)
    (hn : H.allocator.Grants (3 * v.listSize) (3 * (v.listSize + 1))) :
    ∃ c v', addObject H v = some v' ∧ c.data = hostBytes v.id ∧ Built heap₀ v' (cs ++ [c]) ∧
      v'.info = { v.info with size := sizeofInfo } ∧ v'.id = { v.id with size := sizeofId } := by
  obtain ⟨c, heap', hnew, hc, hdata, hadd⟩ := addObject_owned H v hid hn
  obtain ⟨heap'', hlink, hlisted, howned⟩ := linkPrev_listed hv.listed hv.owned hnew hc
  rw [hv.prev, hlink, Option.map_some] at hadd
  refine ⟨c, _, hadd, hdata, ⟨hlisted, howned, ?_, ?_⟩, rfl, rfl⟩
  · simp [lastNode]
  · simp [hv.size]

end EnumListOwnership
