import OpteeTest.WrapperMarshalling

/-! # The storage and key wrappers put together with their handlers

Ids and names reach the API whole, offsets with their sign, and an object info is asked for
exactly when the caller wants one. -/
namespace StorageMarshalling

open ByteMemory TeeApi ClientApi HandleTransport TeeCalls StorageHandlers KeyHandlers
open CryptWrappers (Host)
open CryptHandlers (cryptInvoke)
open StorageWrappers WrapperMarshalling

variable {T : Arch} {m : Type → Type} [Monad m] [LawfulMonad m] {E : TaEnv T m}
variable {ta : UInt32 → Handler m} {S : Session m} {commandId : UInt32} {c : ApiCall}

theorem sendValue_direct (hS : Connects S ta) (a b : UInt32) {call : TeeParams → ApiCall}
    {fin : (c : ApiCall) → ApiReply c → TeeParams → TeeResult × TeeParams}
    (hta : ta commandId = singleCall E objectTypes call fun {c} r => fin c r)
    (hcall : ∀ params, (params 0).value = ⟨a, b⟩ → call params = c)
    (post : ApiReply c → HostResult)
    (hpost : ∀ (r : ApiReply c) (params : TeeParams), ⟨(fin c r params).1, [], []⟩ = post r) :
    sendValue S commandId a b = (do
      let r ← E.api c
      pure (post r)) :=
  single_direct hS (by exact transportable_operation.mpr ⟨trivial, trivial, trivial, trivial⟩) hta
    (hcall _ (by rw [deliver_operation]; rfl)) post fun r => hpost r _

theorem onHandle_direct (hS : Connects S ta) (o : UInt32) {call : ℕ → ApiCall}
    (hta : ta commandId = onHandle E call) :
    sendValue S commandId o 0 = voidCall E (call (widenVal o)) :=
  sendValue_direct hS o 0 hta (fun _ hv => by rw [hv]) _ fun _ _ => rfl

theorem startEnum_direct (hS : Connects S ta) (e storageId : UInt32)
    (hta : ta commandId = startEnum E) :
    sendValue S commandId e storageId =
      resultCall E (.startPersistentObjectEnumerator (widenVal e) storageId) :=
  sendValue_direct hS e storageId hta (fun _ hv => by rw [hv]) _ fun _ _ => rfl

theorem allocEnum_direct (hS : Connects S ta) (e : UInt32)
    (hta : ta commandId = StorageHandlers.allocEnum E) :
    StorageWrappers.allocEnum S commandId e = (do
      let r ← E.api .allocatePersistentObjectEnumerator
      pure ⟨r.res, [if r.res = teeSuccess then truncateHandle r.handle else e], []⟩) := by
  rw [StorageHandlers.allocEnum] at hta
  rw [StorageWrappers.allocEnum]
  refine single_direct hS
    (by exact transportable_operation.mpr ⟨trivial, trivial, trivial, trivial⟩)
    hta (by rfl) _ fun r => ?_
  rw [collect_operation]
  rfl

theorem withId_copied (hE : Granting E) (copying inShm : UInt32) (id : TeeMemref)
    (params : TeeParams) (next : List UInt8 → m (TeeResult × TeeParams)) :
    withId E copying inShm copying id params next = next (bytes id) := by
  rw [withId, if_pos rfl, hE.malloc, pure_bind, if_pos rfl]

theorem open_direct (hS : Connects S (storageInvoke E)) (hE : Granting E) {id : TempMemoryReference}
    (hid : Sized id) (flags obj storageId : UInt32) :
    fsOpen S id flags obj storageId = (do
      let r ← E.api (.openPersistentObject storageId (hostBytes id) flags)
      pure ⟨r.res, [if r.res = teeSuccess then truncateHandle r.handle else obj], []⟩) := by
  have hta := storageInvoke_code E .open
  rw [StorageCommand.handler] at hta
  have hrun (params : TeeParams) : taStorageCmdOpen E StorageCommand.open.code
      (teeParamTypes .memrefInput .valueInout .valueInput .none) params = (do
        let r ← E.api (.openPersistentObject (params 2).value.a (bytes (params 0).memref)
          (params 1).value.a)
        pure (r.res, putValue 1 (params 1).value.a (truncateHandle r.handle) params)) := by
    rw [taStorageCmdOpen, if_neg fun hne => hne rfl, withId_copied hE]
  refine run_direct (fun _ r => (r.res, putValue 1 _ (truncateHandle r.handle) _)) hS
    (by exact transportable_operation.mpr ⟨hid, trivial, trivial, trivial⟩) hta (hrun _) ?_ _
    fun r => ?_
  · rw [deliver_operation, ← bytes_ofNat hid]
    rfl
  · rw [collect_operation]
    rfl

theorem create_direct (hS : Connects S (storageInvoke E)) (hE : Granting E)
    {id data : TempMemoryReference} (hid : Sized id)
    (hdata : Sized data) (flags attr obj storageId : UInt32) :
    fsCreate S id flags attr data obj storageId = (do
      let r ← E.api (.createPersistentObject storageId (hostBytes id) flags (widenVal attr)
        (hostBytes data))
      pure ⟨r.res, [if r.res = teeSuccess then truncateHandle r.handle else obj], []⟩) := by
  have hta := storageInvoke_code E .create
  rw [StorageCommand.handler] at hta
  have hrun (params : TeeParams) : taStorageCmdCreate E StorageCommand.create.code
      (teeParamTypes .memrefInput .valueInout .valueInput .memrefInput) params = (do
        let r ← E.api (.createPersistentObject (params 2).value.b (bytes (params 0).memref)
          (params 1).value.a (widenVal (params 2).value.a) (bytes (params 3).memref))
        pure (r.res, putValue 1 (params 1).value.a (truncateHandle r.handle) params)) := by
    rw [taStorageCmdCreate, if_neg fun hne => hne rfl, withId_copied hE]
  refine run_direct (fun _ r => (r.res, putValue 1 _ (truncateHandle r.handle) _)) hS
    (by exact transportable_operation.mpr ⟨hid, trivial, trivial, hdata⟩) hta (hrun _) ?_ _
    fun r => ?_
  · rw [deliver_operation, ← bytes_ofNat hid, ← bytes_ofNat hdata]
    rfl
  · rw [collect_operation]
    rfl

theorem createOverwrite_direct (hS : Connects S (storageInvoke E)) (hE : Granting E)
    {id : TempMemoryReference} (hid : Sized id) (storageId : UInt32) :
    fsCreateOverwrite S id storageId = resultCall E
      (.createPersistentObject storageId (hostBytes id) teeDataFlagOverwrite 0 []) := by
  have hta := storageInvoke_code E .createOverwrite
  rw [StorageCommand.handler] at hta
  have hrun (params : TeeParams) : taStorageCmdCreateOverwrite E StorageCommand.createOverwrite.code
      (teeParamTypes .memrefInput .valueInput .none .none) params = (do
        let r ← E.api (.createPersistentObject (params 1).value.a (bytes (params 0).memref)
          teeDataFlagOverwrite 0 [])
        pure (r.res, params)) := by
    rw [taStorageCmdCreateOverwrite, if_neg fun hne => hne rfl, withId_copied hE]
  refine run_direct (fun _ r => (r.res, _)) hS
    (by exact transportable_operation.mpr ⟨hid, trivial, trivial, trivial⟩) hta (hrun _) ?_ _
    fun r => rfl
  rw [deliver_operation, ← bytes_ofNat hid]
  rfl

theorem rename_direct (hS : Connects S (storageInvoke E)) (hE : Granting E) (obj : UInt32)
    {id : TempMemoryReference} (hid : Sized id) :
    fsRename S obj id =
      resultCall E (.renamePersistentObject (widenVal obj) (hostBytes id)) := by
  have hta := storageInvoke_code E .rename
  rw [StorageCommand.handler] at hta
  have hrun (params : TeeParams) : taStorageCmdRename E StorageCommand.rename.code
      (teeParamTypes .valueInput .memrefInput .none .none) params = (do
        let r ← E.api (.renamePersistentObject (widenVal (params 0).value.a)
          (bytes (params 1).memref))
        pure (r.res, params)) := by
    rw [taStorageCmdRename, if_neg fun hne => hne rfl, withId_copied hE]
  refine run_direct (fun _ r => (r.res, _)) hS
    (by exact transportable_operation.mpr ⟨trivial, hid, trivial, trivial⟩) hta (hrun _) ?_ _
    fun r => rfl
  rw [deliver_operation, ← bytes_ofNat hid]
  rfl

theorem read_direct (hS : Connects S (storageInvoke E)) (obj : UInt32) {data : TempMemoryReference}
    (hdata : Sized data) (count : UInt32) :
    fsRead S obj data count = (do
      let r ← E.api (.readObjectData (widenVal obj) (capacity data))
      pure ⟨r.res, [if r.res = teeSuccess then r.a else count],
        [⟨copyIn data.buffer 0 r.data, data.size⟩]⟩) := by
  have hta := storageInvoke_code E .read
  rw [StorageCommand.handler, taStorageCmdRead] at hta
  refine single_direct hS (by exact transportable_operation.mpr ⟨hdata, trivial, trivial, trivial⟩)
    hta (by rw [deliver_operation]; rfl) _ fun r => ?_
  have hroom : r.data.length ≤ data.size := by
    have hle : r.data.length ≤ (capacity data).toNat := r.data_le
    rwa [capacity_toNat hdata] at hle
  rw [← left_whole (UInt32.toNat_ofNat_of_lt' hdata) hroom, bufferAt, collect_operation,
    deliver_operation]
  rfl

theorem write_direct (hS : Connects S (storageInvoke E)) (obj : UInt32) {data : TempMemoryReference}
    (hdata : Sized data) :
    fsWrite S obj data =
      resultCall E (.writeObjectData (widenVal obj) (hostBytes data)) := by
  have hta := storageInvoke_code E .write
  rw [StorageCommand.handler, taStorageCmdWrite] at hta
  refine single_direct hS (by exact transportable_operation.mpr ⟨hdata, trivial, trivial, trivial⟩)
    hta ?_ _ fun r => rfl
  rw [deliver_operation, ← bytes_ofNat hdata]
  rfl

theorem seek_direct (hS : Connects S (storageInvoke E)) (obj : UInt32) (offset whence : Int32) :
    fsSeek S obj offset whence = (do
      let r ← E.api (.seekObjectData (widenVal obj) offset.toInt whence.toUInt32)
      if r.res ≠ teeSuccess then pure ⟨r.res, [], []⟩
      else resultCall E (.getObjectInfo1 (widenVal obj))) := by
  have hta := storageInvoke_code E .seek
  rw [StorageCommand.handler] at hta
  have hoffset : offset.toUInt32.toInt32.toInt = offset.toInt := by rw [Int32.toInt32_toUInt32]
  rw [fsSeek, hostCall_eq hS (by
    exact transportable_operation.mpr ⟨trivial, trivial, trivial, trivial⟩) hta, deliver_operation,
    taStorageCmdSeek, if_neg fun hne => hne rfl, ← hoffset]
  simp only [bind_assoc]
  refine bind_congr fun r => ?_
  by_cases hres : r.res = teeSuccess
  · simp only [hres, ne_eq, not_true_eq_false, if_false, bind_assoc, pure_bind]
    rfl
  · simp only [hres, ne_eq, not_false_eq_true, if_true, pure_bind]
    rfl

theorem copyIn_slice_self (b : Memory UInt8) (n : ℕ) : copyIn b 0 (slice b 0 n) = b := by
  have hsame : copyIn b 0 (slice (copyIn b 0 []) 0 n) = copyIn b 0 [] :=
    copyIn_slice_copyIn b (Nat.zero_le n)
  rwa [copyIn_nil] at hsame

theorem copyBack_self {r : TempMemoryReference} (hr : Sized r) :
    copyBack r ⟨r.buffer, UInt32.ofNat r.size⟩ = r := by
  simp only [copyBack, UInt32.toNat_ofNat_of_lt' hr, le_refl, if_true, copyIn_slice_self]

theorem copyBack_short {r : TempMemoryReference} {b : Memory UInt8} {n : UInt32}
    (hn : r.size < n.toNat) : (copyBack r ⟨b, n⟩).buffer = r.buffer := by
  simp only [copyBack, if_neg (Nat.not_le.mpr hn)]

theorem copyBack_front {r : TempMemoryReference} {n : UInt32} (hn : n.toNat ≤ r.size) :
    (copyBack r ⟨r.buffer, n⟩).buffer = r.buffer := by
  simp only [copyBack, if_pos hn, copyIn_slice_self]

def landedInfo (wanted : Bool) (info : TempMemoryReference) (res : TeeResult)
    (objectInfo : TeeObjectInfo) : Memory UInt8 :=
  if wanted = true ∧ res = teeSuccess then copyIn info.buffer 0 objectInfo.bytes else info.buffer

def nextCall (E : TaEnv T m) (e : UInt32) (wanted : Bool) (info id : TempMemoryReference)
    (found : ApiReply (.getNextPersistentObject (widenVal e) wanted (capacity id)) → HostResult) :
    m HostResult :=
  if (wanted = true ∧ info.size < 28) ∨ id.size < 64 then
    pure ⟨teeErrorShortBuffer, [], [info, id]⟩
  else do
    let r ← E.api (.getNextPersistentObject (widenVal e) wanted (capacity id))
    pure (found r)

theorem ofNat_lt_iff {n : ℕ} (h : n < 2 ^ 32) (k : UInt32) : UInt32.ofNat n < k ↔ n < k.toNat := by
  rw [UInt32.lt_iff_toNat_lt, UInt32.toNat_ofNat_of_lt' h]

theorem stop_direct {h : Handler m} {op : TeecOperation} {res : TeeResult} {params : TeeParams}
    {finish : TeeResult → TeecOperation → HostResult} (hS : Connects S ta)
    (hfit : Transportable op) (hta : ta commandId = h)
    (hrun : h op.paramTypes (deliver op) = pure (res, params)) :
    hostCall S commandId op finish = pure (finish res (collect op params)) := by
  rw [hostCall_eq hS hfit hta, hrun, pure_bind, pure_bind]

section
omit [LawfulMonad m]

variable {params : TeeParams} {e k n : UInt32}

theorem nextObject_run (wanted : Bool) (he : (params 0).value.a = e)
    (hn : (params 2).memref.size = n) :
    nextObject E wanted params = if n < 64 then pure (teeErrorShortBuffer, params) else (do
      let r ← E.api (.getNextPersistentObject (widenVal e) wanted n)
      pure (r.res, putOutput 2 r.data r.size
        (if wanted = true ∧ r.res = teeSuccess then putInfo r.info params else params))) := by
  subst he hn
  rfl

theorem nextEnum_without (he : (params 0).value.a = e) (hn : (params 2).memref.size = n) :
    nextEnum E (teeParamTypes .valueInput .none .memrefOutput .none) params =
      if n < 64 then pure (teeErrorShortBuffer, params) else (do
        let r ← E.api (.getNextPersistentObject (widenVal e) false n)
        pure (r.res, putOutput 2 r.data r.size params)) := by
  rw [nextEnum, if_neg (by decide), if_neg (by decide), if_neg (by decide), if_pos (by decide),
    nextObject_run false he hn]
  simp only [Bool.false_eq_true, false_and, if_false]

def sizedInfo (params : TeeParams) : TeeParams := putSize 1 sizeofObjectInfo params

theorem nextEnum_with (he : (params 0).value.a = e) (hk : (params 1).memref.size = k)
    (hn : (params 2).memref.size = n) :
    nextEnum E (teeParamTypes .valueInput .memrefOutput .memrefOutput .none) params =
      if k < 28 then pure (teeErrorShortBuffer, sizedInfo params)
      else if n < 64 then pure (teeErrorShortBuffer, sizedInfo params) else (do
        let r ← E.api (.getNextPersistentObject (widenVal e) true n)
        pure (r.res, putOutput 2 r.data r.size
          (if r.res = teeSuccess then putInfo r.info (sizedInfo params)
            else sizedInfo params))) := by
  have he' : (sizedInfo params 0).value.a = e := he
  have hn' : (sizedInfo params 2).memref.size = n := hn
  rw [nextEnum, if_neg (by decide), if_neg (by decide), if_neg (by decide), if_neg (by decide),
    if_pos (by decide), ← sizedInfo, nextObject_run true he' hn', hk]
  simp only [true_and]
  rfl

end

section
variable {finish : TeeResult → TeecOperation → HostResult} {info id : TempMemoryReference}

/-- How the operation of the enumeration travels, with the object information or without. -/
theorem deliver_nextOperation (e : UInt32) (b : Bool) (info id : TempMemoryReference) :
    (deliver (nextOperation e b info id) 0).value.a = e ∧
      (deliver (nextOperation e b info id) 2).memref = ⟨id.buffer, capacity id⟩ := by
  unfold nextOperation
  split_ifs
  · rw [deliver_operation]
    exact ⟨rfl, rfl⟩
  · rw [deliver_operation]
    exact ⟨rfl, rfl⟩

theorem collect_nextOperation (e : UInt32) (b : Bool) (info id : TempMemoryReference)
    (params : TeeParams) :
    ((collect (nextOperation e b info id) params).params 2).tmpref =
      copyBack id (params 2).memref := by
  unfold nextOperation
  split_ifs
  · rw [collect_operation]
    rfl
  · rw [collect_operation]
    rfl

theorem next_without (hS : Connects S ta) (hta : ta commandId = nextEnum E) (e : UInt32)
    (hid : Sized id)
    (found : ApiReply (.getNextPersistentObject (widenVal e) false (capacity id)) → HostResult)
    (hshort : ∀ op, (op.params 1).tmpref.buffer = info.buffer →
      (op.params 2).tmpref.buffer = id.buffer →
      finish teeErrorShortBuffer op = ⟨teeErrorShortBuffer, [], [info, id]⟩)
    (hfound : 64 ≤ id.size → ∀ r op, (op.params 1).tmpref = info →
      (op.params 2).tmpref = left id r.data r.size → finish r.res op = found r) :
    hostCall S commandId (nextOperation e false info id) finish =
      nextCall E e false info id found := by
  have hid64 : UInt32.ofNat id.size < 64 ↔ id.size < 64 := ofNat_lt_iff hid 64
  have hop : nextOperation e false info id = operation .valueInput .none .memrefOutput .none
    (valueParameter e 0) (tmpref info) (tmpref id) zeroParameter := rfl
  have hfit : Transportable (nextOperation e false info id) := by
    exact transportable_operation.mpr ⟨trivial, trivial, hid, trivial⟩
  obtain ⟨he, hm⟩ := deliver_nextOperation e false info id
  have h1 (params : TeeParams) :
      ((collect (nextOperation e false info id) params).params 1).tmpref = info := by
    rw [hop, collect_operation]
    rfl
  have h2 := collect_nextOperation e false info id
  have hrun : nextEnum E (nextOperation e false info id).paramTypes
      (deliver (nextOperation e false info id)) = _ :=
    nextEnum_without he (congrArg TeeMemref.size hm)
  by_cases hlen : id.size < 64
  · have hback : copyBack id (deliver (nextOperation e false info id) 2).memref = id := by
      rw [hm]
      exact copyBack_self hid
    rw [nextCall, if_pos (Or.inr hlen),
      stop_direct hS hfit hta (hrun.trans (if_pos (hid64.mpr hlen))),
      hshort _ (by rw [h1]) (by rw [h2, hback])]
  · have hwide : ¬ (false = true ∧ info.size < 28 ∨ id.size < 64) := by simpa using hlen
    rw [nextCall, if_neg hwide]
    refine run_direct (fun _ r => (r.res, putOutput 2 r.data r.size _)) hS hfit hta
      (hrun.trans (if_neg fun h => hlen (hid64.mp h))) rfl _
      fun r => hfound (Nat.not_lt.mp hlen) r _ (h1 _) ?_
    rw [h2, left, putOutput_self, hm]

theorem next_with (hS : Connects S ta) (hta : ta commandId = nextEnum E) (e : UInt32)
    (hinfo : Sized info) (hid : Sized id)
    (found : ApiReply (.getNextPersistentObject (widenVal e) true (capacity id)) → HostResult)
    (hshort : ∀ op, (op.params 1).tmpref.buffer = info.buffer →
      (op.params 2).tmpref.buffer = id.buffer →
      finish teeErrorShortBuffer op = ⟨teeErrorShortBuffer, [], [info, id]⟩)
    (hfound : 64 ≤ id.size → ∀ r op,
      (op.params 1).tmpref = ⟨landedInfo true info r.res r.info, 28⟩ →
      (op.params 2).tmpref = left id r.data r.size → finish r.res op = found r) :
    hostCall S commandId (nextOperation e true info id) finish =
      nextCall E e true info id found := by
  have hid64 : UInt32.ofNat id.size < 64 ↔ id.size < 64 := ofNat_lt_iff hid 64
  have hinfo28 : UInt32.ofNat info.size < 28 ↔ info.size < 28 := ofNat_lt_iff hinfo 28
  have hop : nextOperation e true info id = operation .valueInput .memrefOutput .memrefOutput .none
    (valueParameter e 0) (tmpref info) (tmpref id) zeroParameter := rfl
  have hfit : Transportable (nextOperation e true info id) := by
    exact transportable_operation.mpr ⟨trivial, hinfo, hid, trivial⟩
  obtain ⟨he, hm⟩ := deliver_nextOperation e true info id
  have hi : (deliver (nextOperation e true info id) 1).memref = ⟨info.buffer, capacity info⟩ := by
    rw [hop, deliver_operation]
    rfl
  have h1 (params : TeeParams) : ((collect (nextOperation e true info id) params).params 1).tmpref =
      copyBack info (params 1).memref := by
    rw [hop, collect_operation]
    rfl
  have h2 := collect_nextOperation e true info id
  have hrun : nextEnum E (nextOperation e true info id).paramTypes
      (deliver (nextOperation e true info id)) = _ :=
    nextEnum_with he (congrArg TeeMemref.size hi) (congrArg TeeMemref.size hm)
  have hsized : (sizedInfo (deliver (nextOperation e true info id)) 1).memref =
      ⟨info.buffer, 28⟩ := by
    simp only [sizedInfo, putSize, Function.update_self, hi]
    rfl
  have hkept : (sizedInfo (deliver (nextOperation e true info id)) 2).memref =
    ⟨id.buffer, capacity id⟩ := hm
  have hback : copyBack id (sizedInfo (deliver (nextOperation e true info id)) 2).memref = id := by
    rw [hkept]
    exact copyBack_self hid
  by_cases hsmall : info.size < 28
  · rw [nextCall, if_pos (Or.inl ⟨rfl, hsmall⟩),
      stop_direct hS hfit hta (hrun.trans (if_pos (hinfo28.mpr hsmall))),
      hshort _ (by rw [h1, hsized, copyBack_short hsmall]) (by rw [h2, hback])]
  · have hpast := hrun.trans (if_neg fun h => hsmall (hinfo28.mp h))
    by_cases hlen : id.size < 64
    · rw [nextCall, if_pos (Or.inr hlen),
        stop_direct hS hfit hta (hpast.trans (if_pos (hid64.mpr hlen))),
        hshort _ (by rw [h1, hsized, copyBack_front (Nat.not_lt.mp hsmall)]) (by rw [h2, hback])]
    · have hwide : ¬ (true = true ∧ info.size < 28 ∨ id.size < 64) := by
        simpa using ⟨Nat.not_lt.mp hsmall, Nat.not_lt.mp hlen⟩
      rw [nextCall, if_neg hwide]
      refine run_direct (fun _ r => (r.res, putOutput 2 r.data r.size (if r.res = teeSuccess then
        putInfo r.info _ else _))) hS hfit hta (hpast.trans (if_neg fun h => hlen (hid64.mp h)))
        rfl _ fun r => hfound (Nat.not_lt.mp hlen) r _ ?_ ?_
      · rw [h1]
        dsimp only
        rw [putOutput_ne (show (1 : Fin 4) ≠ 2 by decide)]
        by_cases hres : r.res = teeSuccess
        · rw [if_pos hres, landedInfo, if_pos ⟨rfl, hres⟩, putInfo, putOutput_self, hsized]
          exact left_success rfl (Nat.not_lt.mp hsmall)
        · rw [if_neg hres, landedInfo, if_neg fun h => hres h.2, hsized]
          simp only [copyBack, show (28 : UInt32).toNat = 28 from rfl,
            if_pos (Nat.not_lt.mp hsmall), copyIn_slice_self]
      · rw [h2, left, putOutput_self]
        by_cases hres : r.res = teeSuccess
        · rw [if_pos hres, putInfo, putOutput_ne (show (2 : Fin 4) ≠ 1 by decide), hkept]
        · rw [if_neg hres, hkept]

end

theorem fsNextEnum_direct (hS : Connects S (storageInvoke E)) (e : UInt32)
    (objInfo : Option (Memory UInt8)) {infoSize : ℕ}
    (hinfo : infoSize < 2 ^ 32) {id : TempMemoryReference} (hid : Sized id) :
    fsNextEnum S e objInfo infoSize id =
      nextCall E e (objInfo.isSome && infoSize != 0) (infoMemref objInfo infoSize) id fun r =>
        ⟨r.res, [], [⟨landedInfo (objInfo.isSome && infoSize != 0) (infoMemref objInfo infoSize)
          r.res r.info, infoSize⟩, ⟨(left id r.data r.size).buffer, id.size⟩]⟩ := by
  have hta : storageInvoke E StorageCommand.nextEnum.code = nextEnum E :=
    storageInvoke_code E .nextEnum
  have hsized : Sized (infoMemref objInfo infoSize) := hinfo
  rw [fsNextEnum]
  cases objInfo.isSome && infoSize != 0 with
  | false =>
    refine next_without hS hta e hid _ (fun op h1 h2 => ?_) fun _ r op h1 h2 => ?_
    · simp only [bufferAt, h1, h2, infoMemref]
    · simp only [bufferAt, h1, h2, landedInfo, Bool.false_eq_true, false_and, if_false]
  | true =>
    refine next_with hS hta e hsized hid _ (fun op h1 h2 => ?_) fun _ r op h1 h2 => ?_
    · simp only [bufferAt, h1, h2, infoMemref]
    · simp only [bufferAt, h1, h2]

/-- An id never takes more than the room that the handlers ask for. -/
theorem found_fits {handle : ℕ} {wanted : Bool} {id : TempMemoryReference} (hid : Sized id)
    (hroom : 64 ≤ id.size) (r : ApiReply (.getNextPersistentObject handle wanted (capacity id))) :
    r.data.length ≤ (capacity id).toNat := by
  rw [capacity_toNat hid]
  exact r.data_le.trans hroom

theorem keyNextEnum_direct (hS : Connects S (keyInvoke E)) (e : UInt32)
    (objInfo : Option (Memory UInt8)) {infoSize : ℕ}
    (hinfo : infoSize < 2 ^ 32) {id : TempMemoryReference} (hid : Sized id) :
    keyNextEnum S e objInfo (some infoSize) id =
      some (nextCall E e objInfo.isSome (infoMemref objInfo infoSize) id fun r =>
        ⟨r.res, [], [⟨landedInfo objInfo.isSome (infoMemref objInfo infoSize) r.res r.info,
          if objInfo.isSome ∧ r.res = teeSuccess then 28 else infoSize⟩,
          landed id r.res r.data r.size]⟩) := by
  have hta : keyInvoke E KeyCommand.nextEnum.code = nextEnum E := keyInvoke_code E .nextEnum
  have hsized : Sized (infoMemref objInfo infoSize) := hinfo
  have hne : teeErrorShortBuffer ≠ teeSuccess := by decide
  rw [keyNextEnum, Option.map_some]
  refine congrArg some ?_
  cases objInfo.isSome with
  | false =>
    refine next_without hS hta e hid _ (fun op h1 h2 => ?_) fun hroom r op h1 h2 => ?_
    · simp only [outAt, h1, h2, infoMemref, if_neg hne]
    · rw [← landed_eq hid (found_fits hid hroom r) r.size_eq]
      simp only [outAt, h1, h2, landedInfo, Bool.false_eq_true, false_and, if_false, infoMemref,
        ite_self]
  | true =>
    refine next_with hS hta e hsized hid _ (fun op h1 h2 => ?_) fun hroom r op h1 h2 => ?_
    · simp only [outAt, h1, h2, infoMemref, if_neg hne]
    · rw [← landed_eq hid (found_fits hid hroom r) r.size_eq]
      simp only [outAt, h1, h2, true_and]

theorem getObjInfo_direct (hS : Connects S (storageInvoke E)) (obj : UInt32)
    {info : TempMemoryReference} (hinfo : Sized info) (hroom : 28 ≤ info.size) :
    fsGetObjInfo S obj info = (do
      let r ← E.api (.getObjectInfo1 (widenVal obj))
      pure ⟨r.res, [], [⟨landedInfo true info r.res r.info, info.size⟩]⟩) := by
  have hta := storageInvoke_code E .getObjInfo
  rw [StorageCommand.handler, taStorageCmdGetObjInfo] at hta
  refine single_direct hS (by exact transportable_operation.mpr ⟨trivial, hinfo, trivial, trivial⟩)
    hta (by rw [deliver_operation]; rfl) _ fun r => ?_
  have hback (params : TeeParams) : ((collect (operation .valueInput .memrefOutput .none .none
      (valueParameter obj 0) (tmpref info) zeroParameter zeroParameter) params).params 1).tmpref =
        copyBack info (params 1).memref := by
    rw [collect_operation]
    rfl
  rw [bufferAt, hback, deliver_operation]
  by_cases hres : r.res = teeSuccess
  · have hkept : (left info r.info.bytes (capacity info)).buffer =
        copyIn info.buffer 0 r.info.bytes := left_whole (UInt32.toNat_ofNat_of_lt' hinfo) hroom
    simp only [hres, if_true, landedInfo, and_self, putInfo, putOutput_self, ← hkept]
    rfl
  · have hkept : (copyBack info ⟨info.buffer, UInt32.ofNat info.size⟩).buffer = info.buffer :=
      congrArg (·.buffer) (copyBack_self hinfo)
    simp only [hres, if_false, landedInfo, and_false]
    exact congrArg (fun b => (⟨r.res, [], [⟨b, info.size⟩]⟩ : HostResult)) hkept

theorem allocObj_direct (hS : Connects S (storageInvoke E)) (objType maxKeySize : UInt32) :
    fsAllocObj S objType maxKeySize = (do
      let r ← E.api (.allocateTransientObject objType maxKeySize)
      pure ⟨r.res, [truncateHandle r.handle], []⟩) := by
  have hta := storageInvoke_code E .allocObj
  rw [StorageCommand.handler, taStorageCmdAllocObj] at hta
  refine single_direct hS
    (by exact transportable_operation.mpr ⟨trivial, trivial, trivial, trivial⟩)
    hta (by rw [deliver_operation]; rfl) _ fun r => ?_
  rw [collect_operation]
  rfl

/-- A call of a wrapper of the file system library, with the words its out-parameters hold
before. -/
inductive FsRequest where
  | open (id : TempMemoryReference) (flags obj storageId : UInt32)
  | create (id : TempMemoryReference) (flags attr : UInt32) (data : TempMemoryReference)
      (obj storageId : UInt32)
  | createOverwrite (id : TempMemoryReference) (storageId : UInt32)
  | close (obj : UInt32)
  | read (obj : UInt32) (data : TempMemoryReference) (count : UInt32)
  | write (obj : UInt32) (data : TempMemoryReference)
  | seek (obj : UInt32) (offset whence : Int32)
  | unlink (obj : UInt32)
  | trunc (obj len : UInt32)
  | rename (obj : UInt32) (id : TempMemoryReference)
  | allocEnum (e : UInt32)
  | resetEnum (e : UInt32)
  | freeEnum (e : UInt32)
  | startEnum (e storageId : UInt32)
  | nextEnum (e : UInt32) (objInfo : Option (Memory UInt8)) (infoSize : ℕ)
      (id : TempMemoryReference)
  | restrictUsage (obj objUsage : UInt32)
  | allocObj (objType maxKeySize : UInt32)
  | freeObj (obj : UInt32)
  | resetObj (obj : UInt32)
  | getObjInfo (obj : UInt32) (objInfo : TempMemoryReference)

def FsRequest.run (S : Session m) : FsRequest → m HostResult
  | .open id flags obj storageId => fsOpen S id flags obj storageId
  | .create id flags attr data obj storageId => fsCreate S id flags attr data obj storageId
  | .createOverwrite id storageId => fsCreateOverwrite S id storageId
  | .close obj => fsClose S obj
  | .read obj data count => fsRead S obj data count
  | .write obj data => fsWrite S obj data
  | .seek obj offset whence => fsSeek S obj offset whence
  | .unlink obj => fsUnlink S obj
  | .trunc obj len => fsTrunc S obj len
  | .rename obj id => fsRename S obj id
  | .allocEnum e => fsAllocEnum S e
  | .resetEnum e => fsResetEnum S e
  | .freeEnum e => fsFreeEnum S e
  | .startEnum e storageId => fsStartEnum S e storageId
  | .nextEnum e objInfo infoSize id => fsNextEnum S e objInfo infoSize id
  | .restrictUsage obj objUsage => fsRestrictUsage S obj objUsage
  | .allocObj objType maxKeySize => fsAllocObj S objType maxKeySize
  | .freeObj obj => fsFreeObj S obj
  | .resetObj obj => fsResetObj S obj
  | .getObjInfo obj objInfo => fsGetObjInfo S obj objInfo

def FsRequest.Fits : FsRequest → Prop
  | .open r _ _ _ | .createOverwrite r _ | .read _ r _ | .write _ r | .rename _ r => Sized r
  | .create id _ _ data _ _ => Sized id ∧ Sized data
  | .nextEnum _ _ infoSize id => infoSize < 2 ^ 32 ∧ Sized id
  | .getObjInfo _ r => Sized r ∧ 28 ≤ r.size
  | _ => True

def droppedCall (E : TaEnv T m) (unreported : TeeResult → TeeResult) (c : ApiCall) :
    m HostResult := do
  let r ← E.api c
  pure ⟨if r.res = teeSuccess then teeSuccess else unreported r.res, [], []⟩

def FsRequest.direct (E : TaEnv T m) (unreported : TeeResult → TeeResult) :
    FsRequest → m HostResult
  | .open id flags obj storageId => do
    let r ← E.api (.openPersistentObject storageId (hostBytes id) flags)
    pure ⟨r.res, [if r.res = teeSuccess then truncateHandle r.handle else obj], []⟩
  | .create id flags attr data obj storageId => do
    let r ← E.api (.createPersistentObject storageId (hostBytes id) flags (widenVal attr)
      (hostBytes data))
    pure ⟨r.res, [if r.res = teeSuccess then truncateHandle r.handle else obj], []⟩
  | .createOverwrite id storageId => resultCall E
    (.createPersistentObject storageId (hostBytes id) teeDataFlagOverwrite 0 [])
  | .close obj => voidCall E (.closeObject (widenVal obj))
  | .read obj data count => do
    let r ← E.api (.readObjectData (widenVal obj) (capacity data))
    pure ⟨r.res, [if r.res = teeSuccess then r.a else count],
      [⟨copyIn data.buffer 0 r.data, data.size⟩]⟩
  | .write obj data => resultCall E (.writeObjectData (widenVal obj) (hostBytes data))
  | .seek obj offset whence => do
    let r ← E.api (.seekObjectData (widenVal obj) offset.toInt whence.toUInt32)
    if r.res ≠ teeSuccess then pure ⟨r.res, [], []⟩
    else resultCall E (.getObjectInfo1 (widenVal obj))
  | .unlink obj => droppedCall E unreported (.closeAndDeletePersistentObject1 (widenVal obj))
  | .trunc obj len => resultCall E (.truncateObjectData (widenVal obj) len)
  | .rename obj id => resultCall E (.renamePersistentObject (widenVal obj) (hostBytes id))
  | .allocEnum e => do
    let r ← E.api .allocatePersistentObjectEnumerator
    pure ⟨r.res, [if r.res = teeSuccess then truncateHandle r.handle else e], []⟩
  | .resetEnum e => voidCall E (.resetPersistentObjectEnumerator (widenVal e))
  | .freeEnum e => voidCall E (.freePersistentObjectEnumerator (widenVal e))
  | .startEnum e storageId =>
    resultCall E (.startPersistentObjectEnumerator (widenVal e) storageId)
  | .nextEnum e objInfo infoSize id =>
    let wanted := objInfo.isSome && infoSize != 0
    let info := infoMemref objInfo infoSize
    nextCall E e wanted info id fun r => ⟨r.res, [], [⟨landedInfo wanted info r.res r.info,
      infoSize⟩, ⟨(left id r.data r.size).buffer, id.size⟩]⟩
  | .restrictUsage obj objUsage =>
    droppedCall E unreported (.restrictObjectUsage1 (widenVal obj) objUsage)
  | .allocObj objType maxKeySize => do
    let r ← E.api (.allocateTransientObject objType maxKeySize)
    pure ⟨r.res, [truncateHandle r.handle], []⟩
  | .freeObj obj => voidCall E (.freeTransientObject (widenVal obj))
  | .resetObj obj => voidCall E (.resetTransientObject (widenVal obj))
  | .getObjInfo obj objInfo => do
    let r ← E.api (.getObjectInfo1 (widenVal obj))
    pure ⟨r.res, [], [⟨landedInfo true objInfo r.res r.info, objInfo.size⟩]⟩

omit [LawfulMonad m] in
theorem droppedCall_success (c : ApiCall) :
    droppedCall E (fun _ => teeSuccess) c = voidCall E c := by
  rw [droppedCall, voidCall]
  simp only [ite_self]

theorem fs_direct (hS : Connects S (storageInvoke E)) (hE : Granting E) (req : FsRequest)
    (hfit : req.Fits) :
    req.run S = req.direct E (fun _ => teeSuccess) := by
  cases req with
  | «open» => exact open_direct hS hE hfit _ _ _
  | create => exact create_direct hS hE hfit.1 hfit.2 _ _ _ _
  | createOverwrite => exact createOverwrite_direct hS hE hfit _
  | close => exact onHandle_direct hS _ (storageInvoke_code E .close)
  | read => exact read_direct hS _ hfit _
  | write => exact write_direct hS _ hfit
  | seek => exact seek_direct hS _ _ _
  | unlink =>
    rw [FsRequest.direct, droppedCall_success]
    exact onHandle_direct hS _ (storageInvoke_code E .unlink)
  | trunc =>
    exact sendValue_direct hS _ _ (storageInvoke_code E .trunc) (fun _ hv => by rw [hv]) _
      fun _ _ => rfl
  | rename => exact rename_direct hS hE _ hfit
  | allocEnum => exact allocEnum_direct hS _ (storageInvoke_code E .allocEnum)
  | resetEnum => exact onHandle_direct hS _ (storageInvoke_code E .resetEnum)
  | freeEnum => exact onHandle_direct hS _ (storageInvoke_code E .freeEnum)
  | startEnum => exact startEnum_direct hS _ _ (storageInvoke_code E .startEnum)
  | nextEnum => exact fsNextEnum_direct hS _ _ hfit.1 hfit.2
  | restrictUsage =>
    rw [FsRequest.direct, droppedCall_success]
    exact sendValue_direct hS _ _ (storageInvoke_code E .restrictUsage) (fun _ hv => by rw [hv]) _
      fun _ _ => rfl
  | allocObj => exact allocObj_direct hS _ _
  | freeObj => exact onHandle_direct hS _ (storageInvoke_code E .freeObj)
  | resetObj => exact onHandle_direct hS _ (storageInvoke_code E .resetObj)
  | getObjInfo => exact getObjInfo_direct hS _ hfit.1 hfit.2

end StorageMarshalling
