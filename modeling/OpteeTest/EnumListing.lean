import OpteeTest.EffectRuns
import OpteeTest.EnumListOwnership
import Mathlib.Order.Lattice.Nat

/-! # Listing the stored objects from end to end

The enumerator of the TEE hands out one object after the other. The list that the host builds from
it carries their ids, and freeing it leaves the host as it was. -/
namespace EnumListing

open ByteMemory TeeApi ClientApi HandleTransport TeeCalls EffectRuns BlockHeap EnumObjectList
open StorageHandlers KeyHandlers StorageWrappers WrapperMarshalling StorageMarshalling
open EnumListOwnership

structure ObjectId where
  bytes : List UInt8
  nonempty : 1 ≤ bytes.length
  short : bytes.length ≤ teeObjectIdMaxLen.toNat

variable {T : Arch} {σ : Type} {E : TaEnv T (StateM σ)} {S : Session (StateM σ)} {H : HostMemory}
variable {s s' : σ}
variable {e : UInt32} {ids : List ObjectId} {heap₀ : HostHeap}

def Answers (E : TaEnv T (StateM σ)) (c : ApiCall) (s s' : σ) (p : ApiReply c → Prop) : Prop :=
  ∃ r, (E.api c).run s = (r, s') ∧ p r

/-- From state `s` on the enumerator yields the objects one by one and is then at its end, as long
as there is room for an id. -/
inductive Yields (E : TaEnv T (StateM σ)) (handle : ℕ) : σ → List ObjectId → σ → Prop where
  | done {s s' : σ} (hend : ∀ n : UInt32, teeObjectIdMaxLen ≤ n →
      Answers E (.getNextPersistentObject handle true n) s s'
        fun r => r.res = teeErrorItemNotFound) : Yields E handle s [] s'
  | next {s s' s'' : σ} {id : ObjectId} {ids : List ObjectId}
      (hnext : ∀ n : UInt32, teeObjectIdMaxLen ≤ n →
        Answers E (.getNextPersistentObject handle true n) s s'
          fun r => r.res = teeSuccess ∧ r.data = id.bytes)
      (hrest : Yields E handle s' ids s'') : Yields E handle s (id :: ids) s''

/-- An enumerator can be allocated and started, and yields the objects of the storage. -/
def Serves (E : TaEnv T (StateM σ)) (sid : UInt32) (s : σ) (ids : List ObjectId) : Prop :=
  ∃ (e : UInt32) (s₁ s₂ s₃ : σ),
    Answers E .allocatePersistentObjectEnumerator s s₁
      (fun r => r.res = teeSuccess ∧ r.handle = widenVal e) ∧
    Answers E (.startPersistentObjectEnumerator (widenVal e) sid) s₁ s₂
      (fun r => r.res = teeSuccess) ∧
    Yields E (widenVal e) s₂ ids s₃

theorem keyAllocEnum_served (hS : Connects S (keyInvoke E)) (before : UInt32)
    (h : Answers E .allocatePersistentObjectEnumerator s s'
      fun r => r.res = teeSuccess ∧ r.handle = widenVal e) :
    (keyAllocEnum S before).run s = (⟨teeSuccess, [e], []⟩, s') := by
  obtain ⟨r, hr, hres, hhandle⟩ := h
  have hword : truncateHandle (widenVal e) = e := UInt32.ofNat_toNat
  rw [keyAllocEnum, allocEnum_direct hS before (keyInvoke_code E .allocEnum), run_bind_eq hr, hres,
    hhandle, hword]
  rfl

theorem keyStartEnum_served (hS : Connects S (keyInvoke E)) {sid : UInt32}
    (h : Answers E (.startPersistentObjectEnumerator (widenVal e) sid) s s'
      fun r => r.res = teeSuccess) :
    (keyStartEnum S e sid).run s = (⟨teeSuccess, [], []⟩, s') := by
  obtain ⟨r, hr, hres⟩ := h
  rw [keyStartEnum, startEnum_direct hS e sid (keyInvoke_code E .startEnum), resultCall,
    run_bind_eq hr, hres]
  rfl

theorem keyFreeEnum_served (hS : Connects S (keyInvoke E)) (e : UInt32) (s : σ) :
    ∃ s', (keyFreeEnum S e).run s = (⟨teeSuccess, [], []⟩, s') := by
  rw [keyFreeEnum, onHandle_direct hS e (keyInvoke_code E .freeEnum), voidCall,
    run_bind_eq (Prod.eta _).symm]
  exact ⟨_, rfl⟩

structure Roomy (info id : TempMemoryReference) : Prop where
  info : info.size = sizeofInfo
  id : id.size = sizeofId

theorem Roomy.sized {info id : TempMemoryReference} (h : Roomy info id) :
    info.size < 2 ^ 32 ∧ Sized id := by
  refine ⟨?_, show id.size < 2 ^ 32 from ?_⟩
  · rw [h.info]
    decide
  · rw [h.id]
    decide

theorem keyNextEnum_roomy (hS : Connects S (keyInvoke E)) {info id : TempMemoryReference}
    (hv : Roomy info id)
    {p : ApiReply (.getNextPersistentObject (widenVal e) true (capacity id)) → Prop}
    (h : Answers E (.getNextPersistentObject (widenVal e) true (capacity id)) s s' p) :
    ∃ r info' next, keyNextEnum S e (some info.buffer) (some info.size) id = some next ∧
      next.run s = (⟨r.res, [], [info', landed id r.res r.data r.size]⟩, s') ∧ p r := by
  obtain ⟨r, hr, hp⟩ := h
  obtain ⟨hinfo, hid⟩ := hv.sized
  have hwide : ¬ ((some info.buffer).isSome = true ∧
      (infoMemref (some info.buffer) info.size).size < 28 ∨ id.size < 64) := by
    simp [infoMemref, hv.info, hv.id, sizeofInfo, sizeofId]
  refine ⟨r, ⟨landedInfo true (infoMemref (some info.buffer) info.size) r.res r.info,
    if (some info.buffer).isSome ∧ r.res = teeSuccess then 28 else info.size⟩, _,
    keyNextEnum_direct hS e (some info.buffer) hinfo hid, ?_, hp⟩
  rw [nextCall, if_neg hwide, Option.isSome_some, run_bind_eq hr]
  rfl

theorem capacity_roomy {info id : TempMemoryReference} (hv : Roomy info id) :
    teeObjectIdMaxLen ≤ capacity id := by
  rw [capacity, hv.id]
  decide

/-- The bytes that landed in the host's buffer are those of the object's id. -/
theorem hostBytes_landed (sent : TempMemoryReference) (data : List UInt8) (size : UInt32) :
    hostBytes (landed sent teeSuccess data size) = data := by
  rw [landed, if_pos rfl, hostBytes]
  exact slice_copyIn sent.buffer 0 data

theorem built_buffers {v : EnumVars} {cs : List ListedObject} (hv : Built heap₀ v cs)
    (info id : TempMemoryReference) : Built heap₀ { v with info := info, id := id } cs :=
  ⟨hv.listed, hv.owned, hv.prev, hv.size⟩

/-- Every object that the enumerator yields is added to the list, and no other. -/
theorem enumLoop_yields (hS : Connects S (keyInvoke E)) (hy : Yields E (widenVal e) s ids s')
    {v : EnumVars} {cs : List ListedObject} {fuel : ℕ} (hroom : Roomy v.info v.id)
    (hv : Built heap₀ v cs)
    (hn : H.allocator.Grants (3 * v.listSize) (3 * (v.listSize + ids.length)))
    (hfuel : ids.length < fuel) :
    ∃ v' ds, (enumLoop H S e fuel v).run s = (some v', s') ∧
      Built heap₀ v' (cs ++ ds) ∧ ds.map ListedObject.data = ids.map ObjectId.bytes := by
  induction hy generalizing v cs fuel with
  | done hend =>
    obtain ⟨fuel, rfl⟩ := Nat.exists_eq_add_of_le' hfuel
    obtain ⟨r, info, next, hnext, hrun, hres⟩ :=
      keyNextEnum_roomy hS hroom (hend _ (capacity_roomy hroom))
    have hfail : r.res ≠ teeSuccess := hres ▸ by decide
    refine ⟨{ v with info := info, id := landed v.id r.res r.data r.size }, [], ?_, ?_, rfl⟩
    · change (enumLoop H S e (fuel + 1) v).run _ = _
      rw [enumLoop, hnext, run_bind_eq hrun, if_neg hfail]
      rfl
    · rw [List.append_nil]
      exact built_buffers hv _ _
  | @next _ _ _ id ids hnext hrest ih =>
    obtain ⟨fuel, rfl⟩ := Nat.exists_eq_add_of_le' (Nat.one_le_of_lt hfuel)
    obtain ⟨r, info, next, hwrap, hrun, hres, hdata⟩ :=
      keyNextEnum_roomy hS hroom (hnext _ (capacity_roomy hroom))
    obtain ⟨v₁, hv₁⟩ : ∃ v₁ : EnumVars, { v with
      info := info, id := landed v.id teeSuccess r.data r.size } = v₁ := ⟨_, rfl⟩
    have hbuilt : Built heap₀ v₁ cs := hv₁ ▸ built_buffers hv _ _
    have hbytes : hostBytes v₁.id = id.bytes := by
      rw [← hv₁, ← hdata]
      exact hostBytes_landed v.id r.data r.size
    have hsized : Sized v₁.id := by
      rw [← hv₁, landed, if_pos rfl]
      exact Nat.lt_of_le_of_lt r.data_le (UInt32.toNat_lt _)
    rw [List.length_cons] at hn
    have hsize : v₁.listSize = v.listSize := by rw [← hv₁]
    obtain ⟨c, v₂, hadd, hcdata, hbuilt₂, hinfo₂, hid₂⟩ :=
      addObject_built (H := H) hsized hbuilt fun k hlo hhi => hn k (by omega) (by omega)
    have hroom₂ : Roomy v₂.info v₂.id := ⟨by rw [hinfo₂], by rw [hid₂]⟩
    have hsize₂ : v₂.listSize = v.listSize + 1 := by
      rw [hbuilt₂.size, List.length_append, ← hbuilt.size, hsize]
      rfl
    obtain ⟨v', ds, hloop, hbuilt', hds⟩ := ih hroom₂ hbuilt₂
      (fun k hlo hhi => hn k (by omega) (by omega)) (by simpa using hfuel)
    refine ⟨v', c :: ds, ?_, by simpa using hbuilt', by simp [hds, hcdata, hbytes]⟩
    rw [enumLoop, hwrap, run_bind_eq hrun, hres, if_pos rfl]
    simp only [List.getD_cons_zero, List.getD_cons_succ]
    rw [hv₁, hadd]
    exact hloop

/-- The list that is left to the caller: its records carry the ids in their order. -/
structure Lists (out : ListOutcome) (ids : List ObjectId) (cs : List ListedObject) : Prop where
  res : out.res = teeSuccess
  linked : Listed out.heap out.list cs
  carries : cs.map ListedObject.data = ids.map ObjectId.bytes
  size : out.listSize = ids.length
  apart : (footprints cs).Nodup
  nonzero : 0 ∉ footprints cs

/-- With its requests granted every enumeration ends in a list of its ids, and freeing the list
frees each of its blocks once and gives back the heap as it was. -/
theorem enum_list_exact (hS : Connects S (keyInvoke E)) (H : HostMemory) {sid : UInt32}
    (hserves : Serves E sid s ids)
    (hn : H.allocator.Grants 0 (3 * ids.length)) (enumHandle : UInt32) (listSize : ℕ)
    (heap : HostHeap) {fuel : ℕ} (hfuel : ids.length < fuel) :
    ∃ out s' cs, (keyEnumObjectList H S fuel sid enumHandle listSize heap).run s =
        (some out, s') ∧
      Lists out ids cs ∧
      keyFreeEnumObjectList fuel out.list out.heap =
        some ⟨out.listSize, 0, heap, footprints cs⟩ := by
  obtain ⟨e, s₁, s₂, s₃, halloc, hstart, hyields⟩ := hserves
  have hstart₀ : Built heap ⟨heap, 0, 0, 0, ⟨fun _ => 0, sizeofInfo⟩, ⟨fun _ => 0, sizeofId⟩⟩ [] :=
    ⟨.nil 0, Extends.refl heap, rfl, rfl⟩
  obtain ⟨v, cs, hloop, hbuilt, hids⟩ := enumLoop_yields (H := H) hS hyields ⟨rfl, rfl⟩ hstart₀
    (by simpa using hn) hfuel
  rw [List.nil_append] at hbuilt
  obtain ⟨s', hfree⟩ := keyFreeEnum_served hS e s₃
  have hlen : cs.length = ids.length := by
    simpa using congrArg List.length hids
  have hne : ¬ teeSuccess ≠ teeSuccess := not_not.mpr rfl
  refine ⟨⟨teeSuccess, v.list, v.listSize, v.heap⟩, s', cs, ?_,
    ⟨rfl, hbuilt.listed, hids, hbuilt.size.trans hlen, hbuilt.owned.nodup,
      hbuilt.owned.nonzero⟩, ?_⟩
  · rw [keyEnumObjectList, run_bind_eq (keyAllocEnum_served hS enumHandle halloc)]
    simp only [hne, if_false, List.headD_cons]
    rw [run_bind_eq (keyStartEnum_served hS hstart)]
    simp only [hne, if_false]
    rw [run_bind_eq hloop]
    simp only
    rw [run_bind_eq hfree]
    rfl
  · rw [keyFreeEnumObjectList_listed hbuilt.listed hbuilt.owned (by omega), hbuilt.size]

def nextAddress (grants : ℕ → Bool) : Allocator HostBlock where
  grants := grants
  address := fun heap _ => heap.keys.sup id + 1
  nonzero := fun _ _ => Nat.succ_ne_zero _
  unused := fun heap _ => by
    rw [Finmap.lookup_eq_none]
    intro hmem
    have hle : heap.keys.sup id + 1 ≤ heap.keys.sup id :=
      Finset.le_sup (f := id) (Finmap.mem_keys.mpr hmem)
    omega

def objectReply (handle : ℕ) (wantsInfo : Bool) (n : UInt32) (o : ObjectId) :
    ApiReply (.getNextPersistentObject handle wantsInfo n) :=
  { bareReply (.getNextPersistentObject handle wantsInfo n) teeSuccess with
    data := o.bytes
    size := UInt32.ofNat o.bytes.length
    data_le := o.short
    size_eq := fun _ =>
      UInt32.toNat_ofNat_of_lt' (Nat.lt_of_le_of_lt o.short teeObjectIdMaxLen.toNat_lt) }

def shelf : TaEnv .arm64 (StateM (List ObjectId)) where
  taHead := 0
  base := fun _ => 4096
  base_fits := KeyMarshalling.logging.base_fits
  stackWord := 0
  malloc := fun _ => pure true
  api := fun
    | .allocatePersistentObjectEnumerator => fun s =>
      ({ bareReply .allocatePersistentObjectEnumerator teeSuccess with handle := 1 }, s)
    | .getNextPersistentObject handle wantsInfo n => fun s => match s with
      | [] => (bareReply _ teeErrorItemNotFound, [])
      | o :: rest => (objectReply handle wantsInfo n o, rest)
    | c => fun s => (bareReply c teeSuccess, s)
  fuel := 0
  stuck := pure ()

theorem shelf_yields (ids : List ObjectId) : Yields shelf 1 ids ids [] := by
  induction ids with
  | nil => exact .done fun n _ => ⟨bareReply _ teeErrorItemNotFound, rfl, rfl⟩
  | cons o ids ih => exact .next (fun n _ => ⟨objectReply 1 true n o, rfl, rfl, rfl⟩) ih

theorem shelf_serves (sid : UInt32) (ids : List ObjectId) : Serves shelf sid ids ids :=
  ⟨1, ids, ids, [], ⟨_, rfl, rfl, rfl⟩, ⟨_, rfl, rfl⟩, shelf_yields ids⟩

def sevenAndTwo : List ObjectId := [⟨[7], by decide, by decide⟩, ⟨[2, 2], by decide, by decide⟩]

theorem shelf_listed : ∃ out s' cs,
    (keyEnumObjectList ⟨.arm64, nextAddress fun _ => true, fun _ => 0⟩ (carried (keyInvoke shelf))
      3 1 0 0 ∅).run sevenAndTwo = (some out, s') ∧
    Lists out sevenAndTwo cs ∧
    keyFreeEnumObjectList 3 out.list out.heap = some ⟨out.listSize, 0, ∅, footprints cs⟩ :=
  enum_list_exact (connects_carried _) _ (shelf_serves 1 sevenAndTwo) (fun _ _ _ => rfl) 0 0 ∅
    (by decide)

end EnumListing
