import OpteeTest.StorageMarshalling

/-! # The key wrappers put together with their handlers

With the crypt and the storage wrappers, every wrapper of the host is the call it stands for. -/
namespace KeyMarshalling

open ByteMemory TeeApi ClientApi HandleTransport TeeCalls StorageHandlers KeyHandlers
open CryptWrappers (Host)
open CryptHandlers (cryptInvoke)
open StorageWrappers WrapperMarshalling StorageMarshalling

variable {T : Arch} {m : Type → Type} [Monad m] [LawfulMonad m] {E : TaEnv T m}
variable {S : Session m}

/-- The name of a key file, whose copy with a terminator fits a 32-bit size. -/
def Named (name : TempMemoryReference) : Prop := name.size + 1 < 2 ^ 32

theorem keyOpen_direct (hS : Connects S (keyInvoke E)) (hE : Granting E) (sid : UInt32)
    {name : TempMemoryReference} (hname : Named name) (flags keyObj : UInt32) :
    keyOpen S sid name flags keyObj = (do
      let r ← E.api (.openPersistentObject sid (hostBytes name) flags)
      pure ⟨r.res, [if r.res = teeSuccess then truncateHandle r.handle else keyObj], []⟩) := by
  have hsized : Sized name := Nat.lt_of_succ_lt hname
  have hta := keyInvoke_code E .open
  rw [KeyCommand.handler] at hta
  have hrun (params : TeeParams) : taKeyCmdOpen E namedKeyTypes params = (do
      let r ← E.api (.openPersistentObject (params 0).value.a (bytes (params 1).memref)
        (params 2).value.a)
      pure (r.res, if r.res = teeSuccess then
        putValue 3 (truncateHandle r.handle) (params 3).value.b params else params)) := by
    rw [taKeyCmdOpen, if_neg fun hne => hne rfl, hE.malloc, pure_bind,
      if_neg (not_not.mpr rfl)]
    refine bind_congr fun r => ?_
    by_cases hres : r.res = teeSuccess
    · rw [if_neg (not_not.mpr hres), if_pos hres]
    · rw [if_pos hres, if_neg hres]
  refine run_direct (fun _ r => (r.res, if r.res = teeSuccess then
    putValue 3 (truncateHandle r.handle) _ _ else _)) hS
    (by exact transportable_operation.mpr ⟨trivial, hsized, trivial, trivial⟩) hta (hrun _) ?_ _
    fun r => ?_
  · rw [deliver_operation, ← bytes_ofNat hsized]
    rfl
  · rw [collect_operation]
    by_cases hres : r.res = teeSuccess
    · simp only [hres, if_true]
      rfl
    · simp only [hres, if_false]

/-- From the generated key on: its info is read and it is stored under its name. -/
def storeDirect (E : TaEnv T m) (transient : ℕ) (sid : UInt32) (name : TempMemoryReference)
    (flags keyObj : UInt32) : m HostResult := do
  let i ← E.api (.getObjectInfo1 transient)
  if i.res ≠ teeSuccess then pure ⟨i.res, [keyObj], []⟩
  else if name.size = 0 then pure ⟨teeErrorBadParameters, [keyObj], []⟩
  else
    let c ← E.api (.createPersistentObject sid (hostBytes name) flags transient [])
    pure ⟨c.res, [if c.res = teeSuccess then truncateHandle c.handle else keyObj], []⟩

/-- A key size that AES does not have and an empty name are refused. -/
def generateDirect (E : TaEnv T m) (sid : UInt32) (name : TempMemoryReference)
    (flags keySize keyObj : UInt32) : m HostResult :=
  if keySize ≠ 128 ∧ keySize ≠ 192 ∧ keySize ≠ 256 then
    pure ⟨teeErrorNotSupported, [keyObj], []⟩
  else do
    let t ← E.api (.allocateTransientObject teeTypeAes keySize)
    if t.res ≠ teeSuccess then pure ⟨t.res, [keyObj], []⟩
    else
      let g ← E.api (.generateKey t.handle keySize [])
      let out ← if g.res ≠ teeSuccess then pure ⟨g.res, [keyObj], []⟩
        else storeDirect E t.handle sid name flags keyObj
      let _ ← E.api (.freeTransientObject t.handle)
      pure out

def keyOut (keyObj : UInt32) (out : TeeResult × TeeParams) : HostResult :=
  ⟨out.1, [if out.1 = teeSuccess then (out.2 3).value.a else keyObj], []⟩

theorem keyOut_failed (keyObj : UInt32) {res : TeeResult} (hres : res ≠ teeSuccess)
    (params : TeeParams) : keyOut keyObj (res, params) = ⟨res, [keyObj], []⟩ := by
  rw [keyOut, if_neg hres]

theorem storeGenerated_direct (hE : Granting E) (transient : ℕ) {params : TeeParams} {sid : UInt32}
    {name : TempMemoryReference} (hname : Sized name) {flags : UInt32} (keyObj : UInt32)
    (h0 : (params 0).value.a = sid) (h1 : (params 1).memref = ⟨name.buffer, capacity name⟩)
    (h2 : (params 2).value.a = flags) :
    (do
      let out ← storeGenerated E transient params
      pure (keyOut keyObj out)) = storeDirect E transient sid name flags keyObj := by
  have hempty : capacity name = 0 ↔ name.size = 0 := by
    rw [← UInt32.toNat_inj, capacity_toNat hname]
    rfl
  have hbytes : bytes (params 1).memref = hostBytes name := by
    rw [h1]
    exact bytes_ofNat hname
  have hbad : teeErrorBadParameters ≠ teeSuccess := by decide
  subst h0 h2
  rw [storeGenerated, storeDirect]
  simp only [bind_assoc]
  refine bind_congr fun i => ?_
  by_cases hi : i.res = teeSuccess
  · simp only [hi, ne_eq, not_true_eq_false, if_false, hE.malloc, pure_bind, h1, hempty]
    by_cases hlen : name.size = 0
    · simp only [hlen, if_true, pure_bind, keyOut_failed keyObj hbad]
    · simp only [hlen, if_false, bind_assoc]
      rw [hbytes]
      refine bind_congr fun c => ?_
      by_cases hc : c.res = teeSuccess
      · simp only [hc, not_true_eq_false, if_false, if_true, pure_bind]
        rfl
      · simp only [hc, not_false_eq_true, if_true, if_false, pure_bind, keyOut_failed keyObj hc]
  · simp only [hi, ne_eq, not_false_eq_true, if_true, pure_bind, keyOut_failed keyObj hi]

theorem keyGenerate_direct (hS : Connects S (keyInvoke E)) (hE : Granting E) (sid : UInt32)
    {name : TempMemoryReference} (hname : Named name) (flags keySize keyObj : UInt32) :
    keyGenerate S sid name flags keySize keyObj =
      generateDirect E sid name flags keySize keyObj := by
  have hsized : Sized name := Nat.lt_of_succ_lt hname
  have hta := keyInvoke_code E .generate
  rw [KeyCommand.handler] at hta
  have hunsupported : teeErrorNotSupported ≠ teeSuccess := by decide
  have hfin (res : TeeResult) (params : TeeParams) :
      (⟨res, [if res = teeSuccess then ((collect (operation .valueInput .memrefInput .valueInput
        .valueOutput (valueParameter sid 0) (tmpref name) (valueParameter flags keySize)
        zeroParameter) params).params 3).value.a else keyObj], []⟩ : HostResult) =
          keyOut keyObj (res, params) := by
    rw [collect_operation]
    rfl
  obtain ⟨params, hparams⟩ : ∃ params, deliver (operation .valueInput .memrefInput .valueInput
    .valueOutput (valueParameter sid 0) (tmpref name) (valueParameter flags keySize)
    zeroParameter) = params := ⟨_, rfl⟩
  obtain ⟨h0, h1, h2, hsize⟩ : (params 0).value.a = sid ∧
      (params 1).memref = ⟨name.buffer, capacity name⟩ ∧ (params 2).value.a = flags ∧
      (params 2).value.b = keySize := by
    rw [← hparams, deliver_operation]
    exact ⟨rfl, rfl, rfl, rfl⟩
  rw [keyGenerate, hostCall_eq hS (by
    exact transportable_operation.mpr ⟨trivial, hsized, trivial, trivial⟩) hta, hparams]
  simp only [bind_assoc, pure_bind, hfin]
  subst hsize
  rw [taKeyCmdGenerate, if_neg fun hne => hne rfl, generateDirect]
  split_ifs with hbad
  · rw [pure_bind, keyOut_failed keyObj hunsupported]
  · simp only [bind_assoc]
    refine bind_congr fun t => ?_
    by_cases ht : t.res = teeSuccess
    · rw [if_neg (not_not.mpr ht), if_neg (not_not.mpr ht)]
      simp only [bind_assoc, pure_bind]
      refine bind_congr fun g => ?_
      by_cases hg : g.res = teeSuccess
      · rw [if_neg (not_not.mpr hg), if_neg (not_not.mpr hg),
          ← storeGenerated_direct hE t.handle hsized keyObj h0 h1 h2]
        simp only [bind_assoc, pure_bind]
      · simp only [hg, ne_eq, not_false_eq_true, if_true, bind_assoc, pure_bind,
          keyOut_failed keyObj hg]
    · rw [if_pos ht, if_pos ht, pure_bind, keyOut_failed keyObj ht]

def listDirect (E : TaEnv T m) (sid : UInt32) : m HostResult := do
  let e ← E.api .allocatePersistentObjectEnumerator
  if e.res ≠ teeSuccess then pure ⟨e.res, [], []⟩
  else
    let s ← E.api (.startPersistentObjectEnumerator e.handle sid)
    if s.res = teeSuccess then listObjects E e.handle E.stackWord E.fuel
    let _ ← E.api (.freePersistentObjectEnumerator e.handle)
    pure ⟨s.res, [], []⟩

theorem keyList_direct (hS : Connects S (keyInvoke E)) (sid : UInt32) :
    keyList S sid = listDirect E sid := by
  have hta := keyInvoke_code E .list
  rw [KeyCommand.handler] at hta
  rw [keyList, sendValue, hostCall_eq hS (by
    exact transportable_operation.mpr ⟨trivial, trivial, trivial, trivial⟩) hta, deliver_operation,
    taKeyCmdList, if_neg fun hne => hne rfl, listDirect]
  simp only [bind_assoc, pure_bind]
  refine bind_congr fun e => ?_
  by_cases he : e.res = teeSuccess
  · rw [if_neg (not_not.mpr he), if_neg (not_not.mpr he)]
    simp only [bind_assoc]
    refine bind_congr fun s => ?_
    by_cases hs : s.res = teeSuccess
    · simp only [hs, if_true, bind_assoc, pure_bind]
      rfl
    · simp only [hs, if_false, bind_assoc, pure_bind]
      rfl
  · rw [if_pos he, if_pos he, pure_bind]
    rfl

def bufferAttributeDirect (E : TaEnv T m) (keyObj attrId : UInt32) (buffer : TempMemoryReference) :
    m HostResult := do
  let _ ← E.api (.getObjectInfo1 (widenVal keyObj))
  outputCall E buffer (.getObjectBufferAttribute (widenVal keyObj) attrId (capacity buffer))

theorem keyGetObjectBufferAttribute_direct (hS : Connects S (keyInvoke E))
    (keyObj attrId : UInt32) {buffer : TempMemoryReference}
    (hbuf : Sized buffer) :
    keyGetObjectBufferAttribute S keyObj attrId buffer =
      bufferAttributeDirect E keyObj attrId buffer := by
  have hta := keyInvoke_code E .getObjectBufferAttribute
  rw [KeyCommand.handler] at hta
  rw [keyGetObjectBufferAttribute, hostCall_eq hS (by
    exact transportable_operation.mpr ⟨trivial, hbuf, trivial, trivial⟩) hta, deliver_operation,
    taKeyCmdGetObjectBufferAttribute, if_neg fun hne => hne rfl, bufferAttributeDirect]
  simp only [bind_assoc, pure_bind]
  refine bind_congr fun _ => ?_
  rw [outputCall]
  refine bind_congr fun r => congrArg pure ?_
  rw [← landed_eq hbuf r.data_le r.size_eq, oneOut, outAt, collect_operation]
  rfl

theorem keyGetObjectValueAttribute_direct (hS : Connects S (keyInvoke E))
    (keyObj attrId valueA valueB : UInt32) :
    keyGetObjectValueAttribute S keyObj attrId valueA valueB = (do
      let r ← E.api (.getObjectValueAttribute (widenVal keyObj) attrId)
      pure ⟨r.res, if r.res = teeSuccess then [r.a, r.b] else [valueA, valueB], []⟩) := by
  have hta := keyInvoke_code E .getObjectValueAttribute
  rw [KeyCommand.handler, taKeyCmdGetObjectValueAttribute] at hta
  refine single_direct hS
    (by exact transportable_operation.mpr ⟨trivial, trivial, trivial, trivial⟩)
    hta (by rw [deliver_operation]; rfl) _ fun r => ?_
  rw [collect_operation, deliver_operation]
  by_cases hres : r.res = teeSuccess
  · simp only [hres, if_true]
    rfl
  · simp only [hres, if_false]

/-- A call of a wrapper of the key library, with the words its out-parameters hold before. -/
inductive KeyRequest where
  | generate (sid : UInt32) (name : TempMemoryReference) (flags keySize keyObj : UInt32)
  | list (sid : UInt32)
  | allocEnum (e : UInt32)
  | resetEnum (e : UInt32)
  | freeEnum (e : UInt32)
  | startEnum (e storageId : UInt32)
  | nextEnum (e : UInt32) (objInfo : Option (Memory UInt8)) (infoSize : Option ℕ)
      (id : TempMemoryReference)
  | open (sid : UInt32) (name : TempMemoryReference) (flags keyObj : UInt32)
  | close (keyObj : UInt32)
  | closeAndDelete (keyObj : UInt32)
  | getObjectBufferAttribute (keyObj attrId : UInt32) (buffer : TempMemoryReference)
  | getObjectValueAttribute (keyObj attrId valueA valueB : UInt32)

def KeyRequest.run (S : Session m) : KeyRequest → Option (m HostResult)
  | .generate sid name flags keySize keyObj => keyGenerate S sid name flags keySize keyObj
  | .list sid => keyList S sid
  | .allocEnum e => keyAllocEnum S e
  | .resetEnum e => keyResetEnum S e
  | .freeEnum e => keyFreeEnum S e
  | .startEnum e storageId => keyStartEnum S e storageId
  | .nextEnum e objInfo infoSize id => keyNextEnum S e objInfo infoSize id
  | .open sid name flags keyObj => keyOpen S sid name flags keyObj
  | .close keyObj => keyClose S keyObj
  | .closeAndDelete keyObj => keyCloseAndDelete S keyObj
  | .getObjectBufferAttribute keyObj attrId buffer =>
    keyGetObjectBufferAttribute S keyObj attrId buffer
  | .getObjectValueAttribute keyObj attrId valueA valueB =>
    keyGetObjectValueAttribute S keyObj attrId valueA valueB

/-- The size of an object info is given by a pointer that is not null. -/
def KeyRequest.Fits : KeyRequest → Prop
  | .generate _ name _ _ _ | .open _ name _ _ => Named name
  | .nextEnum _ _ infoSize id => (∃ n ∈ infoSize, n < 2 ^ 32) ∧ Sized id
  | .getObjectBufferAttribute _ _ r => Sized r
  | _ => True

def KeyRequest.direct (E : TaEnv T m) (unreported : TeeResult → TeeResult) :
    KeyRequest → m HostResult
  | .generate sid name flags keySize keyObj => generateDirect E sid name flags keySize keyObj
  | .list sid => listDirect E sid
  | .allocEnum e => do
    let r ← E.api .allocatePersistentObjectEnumerator
    pure ⟨r.res, [if r.res = teeSuccess then truncateHandle r.handle else e], []⟩
  | .resetEnum e => voidCall E (.resetPersistentObjectEnumerator (widenVal e))
  | .freeEnum e => voidCall E (.freePersistentObjectEnumerator (widenVal e))
  | .startEnum e storageId =>
    resultCall E (.startPersistentObjectEnumerator (widenVal e) storageId)
  | .nextEnum e objInfo infoSize id =>
    let info := infoMemref objInfo (infoSize.getD 0)
    nextCall E e objInfo.isSome info id fun r =>
      ⟨r.res, [], [⟨landedInfo objInfo.isSome info r.res r.info,
        if objInfo.isSome ∧ r.res = teeSuccess then 28 else info.size⟩,
        landed id r.res r.data r.size]⟩
  | .open sid name flags keyObj => do
    let r ← E.api (.openPersistentObject sid (hostBytes name) flags)
    pure ⟨r.res, [if r.res = teeSuccess then truncateHandle r.handle else keyObj], []⟩
  | .close keyObj => voidCall E (.closeObject (widenVal keyObj))
  | .closeAndDelete keyObj =>
    droppedCall E unreported (.closeAndDeletePersistentObject1 (widenVal keyObj))
  | .getObjectBufferAttribute keyObj attrId buffer => bufferAttributeDirect E keyObj attrId buffer
  | .getObjectValueAttribute keyObj attrId valueA valueB => do
    let r ← E.api (.getObjectValueAttribute (widenVal keyObj) attrId)
    pure ⟨r.res, if r.res = teeSuccess then [r.a, r.b] else [valueA, valueB], []⟩

theorem key_direct (hS : Connects S (keyInvoke E)) (hE : Granting E) (req : KeyRequest)
    (hfit : req.Fits) :
    req.run S = some (req.direct E (fun _ => teeSuccess)) := by
  cases req with
  | generate => exact congrArg some (keyGenerate_direct hS hE _ hfit _ _ _)
  | list => exact congrArg some (keyList_direct hS _)
  | allocEnum => exact congrArg some (allocEnum_direct hS _ (keyInvoke_code E .allocEnum))
  | resetEnum => exact congrArg some (onHandle_direct hS _ (keyInvoke_code E .resetEnum))
  | freeEnum => exact congrArg some (onHandle_direct hS _ (keyInvoke_code E .freeEnum))
  | startEnum => exact congrArg some (startEnum_direct hS _ _ (keyInvoke_code E .startEnum))
  | nextEnum e objInfo infoSize id =>
    obtain ⟨⟨n, hn, hsize⟩, hid⟩ := hfit
    cases hn
    exact keyNextEnum_direct hS _ _ hsize hid
  | «open» => exact congrArg some (keyOpen_direct hS hE _ hfit _ _)
  | close => exact congrArg some (onHandle_direct hS _ (keyInvoke_code E .close))
  | closeAndDelete =>
    rw [KeyRequest.direct, droppedCall_success]
    exact congrArg some (onHandle_direct hS _ (keyInvoke_code E .closeAndDelete))
  | getObjectBufferAttribute => exact congrArg some (keyGetObjectBufferAttribute_direct hS _ _ hfit)
  | getObjectValueAttribute => exact congrArg some (keyGetObjectValueAttribute_direct hS _ _ _ _)

/-- Every wrapper is the call that it stands for, whatever the API answers. -/
theorem wrappers_direct (crypt storage key : TaEnv T m) (hcrypt : Granting crypt)
    (hstorage : Granting storage) (hkey : Granting key) {rest : UInt32 → Handler m} (h : Host)
    {onCrypt onStorage onKey : Session m} (hC : Connects onCrypt (cryptInvoke crypt rest))
    (hS : Connects onStorage (storageInvoke storage)) (hK : Connects onKey (keyInvoke key)) :
    ∃ unreported : TeeResult → TeeResult,
      (∀ req : CryptRequest, req.Fits h → req.run onCrypt h = req.direct crypt h unreported) ∧
      (∀ req : FsRequest, req.Fits → req.run onStorage = req.direct storage unreported) ∧
      (∀ req : KeyRequest, req.Fits → req.run onKey = some (req.direct key unreported)) :=
  ⟨fun _ => teeSuccess, crypt_direct hC hcrypt h, fs_direct hS hstorage, key_direct hK hkey⟩

def logging : TaEnv .arm64 (StateM (List ApiCall)) where
  taHead := 0
  base := fun _ => 4096
  base_fits := page_fits
  stackWord := 0
  malloc := fun _ => pure true
  api := fun c log => pure (bareReply c teeSuccess, log ++ [c])
  fuel := 0
  stuck := pure ()

theorem granting_logging : Granting logging := ⟨fun _ => rfl, fun _ => show 4096 % 4 = 0 from rfl⟩

def idleHost : Host := ⟨.arm64, fun _ => 0, true⟩

def loggingCrypt : Session (StateM (List ApiCall)) :=
  carried (cryptInvoke logging fun _ _ params => pure (teeErrorBadParameters, params))

def loggingStorage : Session (StateM (List ApiCall)) := carried (storageInvoke logging)

def loggingKey : Session (StateM (List ApiCall)) := carried (keyInvoke logging)

def filled (b : UInt8) (n : ℕ) : TempMemoryReference := ⟨fun _ => b, n⟩

def encryptRequest : CryptRequest := .asymmetricEncrypt 3
  ⟨[⟨0x20000002, .value 3 1, by decide⟩, ⟨0xC0000130, .ref 8192 6, by decide⟩], by decide⟩
  (filled 1 20) (filled 0 128)

def createRequest : FsRequest := .create (filled 102 9) 6 5 (filled 2 40) 0 1

def generateRequest : KeyRequest := .generate 1 (filled 107 12) 7 256 0

theorem logging_direct : ∃ unreported : TeeResult → TeeResult,
    encryptRequest.run loggingCrypt idleHost =
      encryptRequest.direct logging idleHost unreported ∧
    createRequest.run loggingStorage = createRequest.direct logging unreported ∧
    generateRequest.run loggingKey = some (generateRequest.direct logging unreported) := by
  obtain ⟨unreported, hcrypt, hfs, hkey⟩ := wrappers_direct logging logging logging
    granting_logging granting_logging granting_logging idleHost (connects_carried _)
    (connects_carried _) (connects_carried _)
  have hsmall (b : UInt8) (n : ℕ) (hn : n ≤ 128) : (filled b n).size < 2 ^ 32 :=
    Nat.lt_of_le_of_lt hn (by decide)
  refine ⟨unreported, hcrypt _ ⟨⟨rfl, by decide, by decide⟩, ?_, ?_⟩, hfs _ ⟨?_, ?_⟩, hkey _ ?_⟩
  · exact hsmall 1 20 (by decide)
  · exact hsmall 0 128 (by decide)
  · exact hsmall 102 9 (by decide)
  · exact hsmall 2 40 (by decide)
  · exact hsmall 107 13 (by decide)

/-- With room for 63 bytes of an id the enumerator is not asked for its next object. -/
theorem short_id_not_asked :
    ¬ ∃ found : ApiReply (.getNextPersistentObject (widenVal 1) false 63) → HostResult,
      (FsRequest.nextEnum 1 none 0 ⟨fun _ => 0, 63⟩).run loggingStorage = (do
        let r ← logging.api (.getNextPersistentObject (widenVal 1) false 63)
        pure (found r)) := by
  rintro ⟨found, h⟩
  have hid : Sized ⟨fun _ => 0, 63⟩ := show 63 < 2 ^ 32 by decide
  have hshort : (63 : ℕ) < 64 := by decide
  have hS : Connects loggingStorage (storageInvoke logging) := connects_carried _
  rw [FsRequest.run, fsNextEnum_direct hS 1 none (by decide) hid, nextCall,
    if_pos (Or.inr hshort)] at h
  have hlog := congrArg (fun call => (call.run []).2) h
  exact List.cons_ne_nil _ _ hlog.symm

end KeyMarshalling
