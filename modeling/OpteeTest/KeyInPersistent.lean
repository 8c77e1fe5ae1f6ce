import OpteeTest.StorageHandlers
import OpteeTest.TeeRecord

/-! # What the key-in-persistent command leaves behind

`ta_storage_cmd_key_in_persistent` generates a key, stores it as object 1, opens it again and gives
it to an operation. Its labels release what was acquired, from the last resource to the first. -/
namespace KeyInPersistent

open ByteMemory TeeApi TeeCalls HandleLedger TeeRecord
open StorageHandlers (checkObj keyFlags objectTypes teeAlgAesCbcNopad teeModeEncrypt teeTypeAes)

def allocateKey : ApiCall := .allocateTransientObject teeTypeAes 256

def createKey (storageId : UInt32) (transient : ℕ) : ApiCall :=
  .createPersistentObject storageId (bytes32 1) keyFlags transient []

def openKey (storageId : UInt32) : ApiCall := .openPersistentObject storageId (bytes32 1) keyFlags

section
variable {m : Type → Type} [Monad m] (C : Calls m)

def initOperation (op key : ℕ) : m TeeResult := do
  let k ← C.api (.setOperationKey op key)
  if k.res ≠ teeSuccess then pure k.res
  else
    let granted ← C.malloc 16
    if granted then
      let _ ← C.api (.cipherInit op (some (List.replicate 16 0)))
      C.free
      pure k.res
    else pure teeErrorOutOfMemory

def withOperation (key : ℕ) (info : TeeObjectInfo) : m TeeResult := do
  let o ← C.api (.allocateOperation teeAlgAesCbcNopad teeModeEncrypt info.maxKeySize)
  if o.res ≠ teeSuccess then pure o.res
  else
    let result ← initOperation C o.handle key
    let _ ← C.api (.freeOperation o.handle)
    pure result

def useKey (key : ℕ) (info : TeeObjectInfo) : m TeeResult := do
  let result ← withOperation C key info
  let _ ← C.api (.closeAndDeletePersistentObject1 key)
  pure result

def readBack (storageId : UInt32) (info2 : TeeObjectInfo) : m TeeResult := do
  let o ← C.api (openKey storageId)
  if o.res ≠ teeSuccess then pure o.res
  else
    let i3 ← C.api (.getObjectInfo o.handle)
    if checkObj i3.info info2 ≠ teeSuccess then pure (checkObj i3.info info2)
    else useKey C o.handle i3.info

def createAndRead (storageId : UInt32) (transient : ℕ) (info1 : TeeObjectInfo) : m TeeResult := do
  let c ← C.api (createKey storageId transient)
  if c.res ≠ teeSuccess then pure c.res
  else
    let i2 ← C.api (.getObjectInfo1 c.handle)
    if checkObj info1 i2.info ≠ teeSuccess then pure (checkObj info1 i2.info)
    else
      let _ ← C.api (.closeObject c.handle)
      readBack C storageId i2.info

def storeKey (storageId : UInt32) (transient : ℕ) : m TeeResult := do
  let g ← C.api (.generateKey transient 256 [])
  if g.res ≠ teeSuccess then pure g.res
  else
    let i1 ← C.api (.getObjectInfo1 transient)
    createAndRead C storageId transient i1.info

def taStorageCmdKeyInPersistent (paramTypes : UInt32) (params : TeeParams) :
    m (TeeResult × TeeParams) :=
  if paramTypes ≠ objectTypes then pure (teeErrorBadParameters, params)
  else do
    let t ← C.api allocateKey
    if t.res ≠ teeSuccess then pure (t.res, params)
    else
      let result ← storeKey C (params 0).value.a t.handle
      let _ ← C.api (.freeTransientObject t.handle)
      pure (result, params)

/-- Where releases of blocks are not seen, this is the handler of the storage TA. -/
theorem taStorageCmdKeyInPersistent_ofEnv [LawfulMonad m] {T : Arch}
    (E : TaEnv T m) :
    taStorageCmdKeyInPersistent (ofEnv E) = StorageHandlers.taStorageCmdKeyInPersistent E := by
  funext paramTypes params
  have huse (key : ℕ) (info : TeeObjectInfo) :
      useKey (ofEnv E) key info = StorageHandlers.useKey E key info := by
    simp only [useKey, withOperation, StorageHandlers.useKey, initOperation, ofEnv, bind_assoc,
      pure_bind]
    refine bind_congr fun o => ?_
    by_cases ho : o.res = teeSuccess
    case neg => simp only [if_pos ho, pure_bind]
    simp only [if_neg (not_not.mpr ho), bind_assoc]
    refine bind_congr fun k => ?_
    by_cases hk : k.res = teeSuccess
    case neg => simp only [if_pos hk, pure_bind]
    simp only [if_neg (not_not.mpr hk), bind_assoc]
    refine bind_congr fun granted => ?_
    cases granted
    · simp
    · simp
  have hread (sid : UInt32) (transient : ℕ) :
      storeKey (ofEnv E) sid transient = StorageHandlers.storeKey E sid transient := by
    simp only [storeKey, createAndRead, readBack, StorageHandlers.storeKey, huse]
    rfl
  simp only [taStorageCmdKeyInPersistent, StorageHandlers.taStorageCmdKeyInPersistent, hread]
  rfl
end

variable {E : Tee} {w : World} {op key transient : ℕ} {name : ObjectName} {storageId : UInt32}
  {info info2 : TeeObjectInfo}

theorem initOperation_ends (hop : (w.record.handles.owner (.operation op)).isSome)
    (hkey : (w.record.handles.owner (.object key)).isSome) :
    Ends (initOperation E.calls op key) w fun _ w' => w'.record = w.record := by
  have hset : (E.called w (.setOperationKey op key)).record = w.record := by
    refine called_plain ?_ rfl fun _ => rfl
    simp only [used, List.mem_append, mem_given]
    rintro k (⟨-, rfl⟩ | ⟨-, rfl⟩)
    · exact hop
    · exact hkey
  refine ends_api ?_
  split
  · exact ends_pure hset
  · refine ends_malloc ?_
    generalize E.called w (.setOperationKey op key) = w₁ at hset ⊢
    cases E.grant w₁ 16
    · exact ends_pure hset
    · have hinit : (E.called (w₁.push (.allocated 16 true))
          (.cipherInit op (some (List.replicate 16 0)))).record =
          { w.record with blocks := w.record.blocks + 1 } := by
        rw [called_plain (by simpa [used, Record.after, hset] using fun _ => hop) rfl fun _ => rfl]
        simp [Record.after, hset]
      refine ends_api (ends_free (ends_pure ?_))
      rw [push_record, hinit]
      simp [Record.after]

theorem withOperation_ends (hkey : (w.record.handles.owner (.object key)).isSome) :
    Ends (withOperation E.calls key info) w fun _ w' => w'.record = w.record := by
  refine ends_api ?_
  set alloc : ApiCall := .allocateOperation teeAlgAesCbcNopad teeModeEncrypt info.maxKeySize
  split
  case isTrue hres => exact ends_pure (called_failed (by simp [alloc, used]) rfl hres)
  case isFalse hres =>
    rw [not_not] at hres
    have hfresh : w.record.handles.owner (.operation (E.answer w alloc).handle) = none :=
      E.fresh w alloc _ none hres rfl
    have hopened := called_opened (E := E) (w := w) (c := alloc) (by simp [alloc, used]) rfl hres
      (o := none) rfl
    generalize E.called w alloc = w₁ at hopened ⊢
    refine ends_bind (ends_mono (initOperation_ends (by simp [hopened]) ?_) fun _ w₂ h₂ => ?_)
    · simpa [hopened] using hkey
    · refine ends_api (ends_pure ?_)
      rw [called_closed rfl rfl fun _ => rfl, h₂, hopened]
      simp [Record.stored, alloc, release_acquire hfresh]

theorem useKey_ends (hkey : w.record.handles.owner (.object key) = some (some name)) :
    Ends (useKey E.calls key info) w fun _ w' => w'.record = { w.record with
      handles := w.record.handles.release (.object key)
      objects := Function.update w.record.objects name none } := by
  refine ends_bind (ends_mono (withOperation_ends (by simp [hkey])) fun _ w₁ h₁ => ?_)
  refine ends_api (ends_pure ?_)
  rw [called_closed rfl rfl fun _ => rfl, if_pos (E.deletes _ _)]
  simp [Record.stored, h₁, hkey]

def ReadsBack (E : Tee) (w : World) (storageId : UInt32) (info2 : TeeObjectInfo) : Prop :=
  let o := E.answer w (openKey storageId)
  let w := E.called w (openKey storageId)
  o.res = teeSuccess ∧
    checkObj (E.answer w (.getObjectInfo o.handle)).info info2 = teeSuccess

theorem readBack_ends :
    Ends (readBack E.calls storageId info2) w fun _ w' =>
      (ReadsBack E w storageId info2 → w'.record = { w.record with
        objects := Function.update w.record.objects (storageId, bytes32 1) none }) ∧
      (¬ ReadsBack E w storageId info2 → w'.record.objects = w.record.objects) := by
  refine ends_api ?_
  split
  case isTrue hres =>
    refine ends_pure ⟨fun hreads => absurd hreads.1 hres, fun _ => ?_⟩
    rw [called_failed (by simp [openKey, used]) rfl hres]
  case isFalse hres =>
    rw [not_not] at hres
    have hfresh : w.record.handles.owner (.object (E.answer w (openKey storageId)).handle) = none :=
      E.fresh w (openKey storageId) _ (some (storageId, bytes32 1)) hres rfl
    have hopened := called_opened (E := E) (w := w) (c := openKey storageId)
      (by simp [openKey, used]) rfl hres (o := some (storageId, bytes32 1)) rfl
    unfold ReadsBack
    generalize E.called w (openKey storageId) = w₁ at hopened ⊢
    generalize E.answer w (openKey storageId) = o at hres hfresh hopened ⊢
    have hinfo : (E.called w₁ (.getObjectInfo o.handle)).record = w₁.record :=
      called_plain (by simp [used, hopened]) rfl fun _ => rfl
    refine ends_api ?_
    split
    case isTrue hcheck =>
      refine ends_pure ⟨fun hreads => absurd hreads.2 hcheck, fun _ => ?_⟩
      rw [hinfo, hopened]
      rfl
    case isFalse hcheck =>
      rw [not_not] at hcheck
      have hkey : (E.called w₁ (.getObjectInfo o.handle)).record.handles.owner (.object o.handle) =
          some (some (storageId, bytes32 1)) := by
        simp [hinfo, hopened]
      refine ends_mono (useKey_ends hkey) fun _ w' h' =>
        ⟨fun _ => ?_, fun hnot => absurd ⟨hres, hcheck⟩ hnot⟩
      rw [h', hinfo, hopened]
      simp [Record.stored, openKey, release_acquire hfresh]

/-- The creation fails, or the object agrees with the key and is read back. -/
def CreatesCleanly (E : Tee) (w : World) (storageId : UInt32) (transient : ℕ)
    (info1 : TeeObjectInfo) : Prop :=
  let c := E.answer w (createKey storageId transient)
  let w := E.called w (createKey storageId transient)
  c.res ≠ teeSuccess ∨
    let i2 := E.answer w (.getObjectInfo1 c.handle)
    let w := E.called w (.getObjectInfo1 c.handle)
    checkObj info1 i2.info = teeSuccess ∧
      ReadsBack E (E.called w (.closeObject c.handle)) storageId i2.info

/-- An object that was created is there at the end when it is not read back. -/
theorem createAndRead_ends (hkey : (w.record.handles.owner (.object transient)).isSome) :
    Ends (createAndRead E.calls storageId transient info) w fun _ w' =>
      (CreatesCleanly E w storageId transient info → w'.record = w.record) ∧
      (¬ CreatesCleanly E w storageId transient info → w'.record.objects ≠ w.record.objects) := by
  have hlive : ∀ k ∈ used (createKey storageId transient), (w.record.handles.owner k).isSome := by
    simp [createKey, used, hkey]
  unfold CreatesCleanly
  refine ends_api ?_
  dsimp only
  split
  case isTrue hres =>
    refine ends_pure ⟨fun _ => ?_, fun hnot => absurd (.inl hres) hnot⟩
    exact called_failed hlive rfl hres
  case isFalse hres =>
    rw [not_not] at hres
    have hfresh : w.record.handles.owner
        (.object (E.answer w (createKey storageId transient)).handle) = none :=
      E.fresh w (createKey storageId transient) _ (some (storageId, bytes32 1)) hres rfl
    have hnew : w.record.objects (storageId, bytes32 1) = none :=
      E.creates_new w _ _ keyFlags _ _ rfl hres
    have hopened := called_opened (E := E) (w := w) hlive rfl hres
      (o := some (storageId, bytes32 1)) rfl
    generalize E.called w (createKey storageId transient) = w₁ at hopened ⊢
    generalize E.answer w (createKey storageId transient) = c at hres hfresh hopened ⊢
    have hinfo : (E.called w₁ (.getObjectInfo1 c.handle)).record = w₁.record :=
      called_plain (by simp [used, hopened]) rfl fun _ => rfl
    have hstays : w₁.record.objects ≠ w.record.objects := by
      intro hsame
      have hname := congrFun hsame (storageId, bytes32 1)
      rw [hnew, hopened] at hname
      simp [Record.stored, createKey] at hname
    refine ends_api ?_
    generalize E.called w₁ (.getObjectInfo1 c.handle) = w₂ at hinfo ⊢
    generalize E.answer w₁ (.getObjectInfo1 c.handle) = i2
    split
    case isTrue hcheck =>
      refine ends_pure ⟨fun hclean => ?_, fun _ => by rwa [hinfo]⟩
      rcases hclean with hfail | hclean
      · exact absurd hres hfail
      · exact absurd hclean.1 hcheck
    case isFalse hcheck =>
      rw [not_not] at hcheck
      have hclosed : (E.called w₂ (.closeObject c.handle)).record = { w.record with
          objects := w₁.record.objects } := by
        rw [called_closed rfl rfl fun _ => rfl, hinfo, hopened]
        simp [Record.stored, release_acquire hfresh]
      refine ends_api (ends_mono readBack_ends fun _ w' h' => ⟨fun hclean => ?_, fun hnot => ?_⟩)
      · have hreads : ReadsBack E (E.called w₂ (.closeObject c.handle)) storageId i2.info := by
          rcases hclean with hfail | hclean
          · exact absurd hres hfail
          · exact hclean.2
        rw [h'.1 hreads, hclosed, hopened]
        simp [Record.stored, createKey, ← hnew]
      · rw [h'.2 fun hreads => hnot (.inr ⟨hcheck, hreads⟩), hclosed]
        exact hstays

def StoresCleanly (E : Tee) (w : World) (storageId : UInt32) (transient : ℕ) : Prop :=
  let g := E.answer w (.generateKey transient 256 [])
  let w := E.called w (.generateKey transient 256 [])
  let i1 := E.answer w (.getObjectInfo1 transient)
  let w := E.called w (.getObjectInfo1 transient)
  g.res ≠ teeSuccess ∨ CreatesCleanly E w storageId transient i1.info

theorem storeKey_ends (hkey : (w.record.handles.owner (.object transient)).isSome) :
    Ends (storeKey E.calls storageId transient) w fun _ w' =>
      (StoresCleanly E w storageId transient → w'.record = w.record) ∧
      (¬ StoresCleanly E w storageId transient → w'.record.objects ≠ w.record.objects) := by
  have hgenerated : (E.called w (.generateKey transient 256 [])).record = w.record :=
    called_plain (by simp [used, hkey]) rfl fun _ => rfl
  unfold StoresCleanly
  refine ends_api ?_
  dsimp only
  split
  case isTrue hres => exact ends_pure ⟨fun _ => hgenerated, fun hnot => absurd (.inl hres) hnot⟩
  case isFalse hres =>
    generalize E.called w (.generateKey transient 256 []) = w₁ at hgenerated ⊢
    have hinfo : (E.called w₁ (.getObjectInfo1 transient)).record = w.record :=
      (called_plain (by simp [used, hgenerated, hkey]) rfl fun _ => rfl).trans hgenerated
    rw [← hinfo] at hkey ⊢
    refine ends_api (ends_mono (createAndRead_ends hkey) fun _ w' h' => ⟨fun hclean => ?_, ?_⟩)
    · exact h'.1 (hclean.resolve_left hres)
    · exact fun hnot => h'.2 fun hclean => hnot (.inr hclean)

def CleansUp (E : Tee) (w : World) (storageId : UInt32) : Prop :=
  let t := E.answer w allocateKey
  t.res ≠ teeSuccess ∨ StoresCleanly E (E.called w allocateKey) storageId t.handle

/-- The command leaves the record as it was exactly when the creation is not reached, or the key is
compared and opened without a failure. -/
theorem key_in_persistent_leaves_nothing_iff (E : Tee) (w : World) (paramTypes : UInt32)
    (params : TeeParams) :
    ((taStorageCmdKeyInPersistent E.calls paramTypes params).run w).2.record = w.record ↔
      paramTypes ≠ objectTypes ∨ CleansUp E w (params 0).value.a := by
  unfold taStorageCmdKeyInPersistent
  by_cases htypes : paramTypes = objectTypes
  case neg =>
    rw [if_pos htypes]
    exact iff_of_true rfl (.inl htypes)
  rw [if_neg (not_not.mpr htypes), or_iff_right (not_not.mpr htypes)]
  show Ends _ w fun _ w' => (w'.record = w.record ↔ _)
  unfold CleansUp
  refine ends_api ?_
  split
  case isTrue hres =>
    exact ends_pure (iff_of_true (called_failed (by simp [allocateKey, used]) rfl hres) (.inl hres))
  case isFalse hres =>
    rw [or_iff_right hres]
    rw [not_not] at hres
    have hfresh : w.record.handles.owner (.object (E.answer w allocateKey).handle) = none :=
      E.fresh w allocateKey _ none hres rfl
    have hopened := called_opened (E := E) (w := w) (c := allocateKey)
      (by simp [allocateKey, used]) rfl hres (o := none) rfl
    generalize E.called w allocateKey = w₁ at hopened ⊢
    generalize E.answer w allocateKey = t at hfresh hopened ⊢
    have hkey : (w₁.record.handles.owner (.object t.handle)).isSome := by simp [hopened]
    refine ends_bind (ends_mono (storeKey_ends hkey) fun _ w₂ h₂ => ends_api (ends_pure ?_))
    rw [called_closed rfl rfl fun _ => rfl]
    constructor
    · intro hsame
      by_contra hnot
      apply h₂.2 hnot
      have hobjects := congrArg Record.objects hsame
      simp only [Record.stored, ite_self] at hobjects
      rw [hobjects, hopened]
      rfl
    · intro hclean
      rw [h₂.1 hclean, hopened]
      simp [Record.stored, allocateKey, release_acquire hfresh]

/-- A TEE that stores the key but cannot open it again. -/
def refusingOpen : Tee :=
  answering (fun c => match c with
    | .openPersistentObject _ _ _ => teeErrorOutOfMemory
    | _ => teeSuccess) fun _ => rfl

/-- Then the object stays. -/
theorem key_left_when_not_opened :
    ((taStorageCmdKeyInPersistent refusingOpen.calls objectTypes
      fun _ => ⟨⟨1, 0⟩, ⟨fun _ => 0, 0⟩⟩).run World.empty).2.record ≠ World.empty.record := by
  intro hsame
  have hleft : ((taStorageCmdKeyInPersistent refusingOpen.calls objectTypes
      fun _ => ⟨⟨1, 0⟩, ⟨fun _ => 0, 0⟩⟩).run World.empty).2.record.objects (1, bytes32 1) =
        some keyFlags := rfl
  rw [hsame] at hleft
  cases hleft

end KeyInPersistent
