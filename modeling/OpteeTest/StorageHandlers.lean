import OpteeTest.ClientApi
import OpteeTest.TeeCalls

/-! # The command handlers of the storage TA

Handles travel as their low 32 bits. Commands that take an object id copy it first, unless it is
to stay in shared memory. -/
namespace StorageHandlers

open ByteMemory TeeApi ClientApi HandleTransport TeeCalls

variable {T : Arch} {m : Type → Type} [Monad m] (E : TaEnv T m)

inductive StorageCommand where
  | open | close | read | write | create | seek | unlink | rename | trunc | allocEnum | freeEnum
  | resetEnum | startEnum | nextEnum | createOverwrite | keyInPersistent | loop | restrictUsage
  | allocObj | freeObj | resetObj | getObjInfo | openIdInShm | createIdInShm | createoverIdInShm
  | renameIdInShm
  deriving DecidableEq, Repr

def StorageCommand.code : StorageCommand → UInt32
  | .open => 0
  | .close => 1
  | .read => 2
  | .write => 3
  | .create => 4
  | .seek => 5
  | .unlink => 6
  | .rename => 7
  | .trunc => 8
  | .allocEnum => 9
  | .freeEnum => 10
  | .resetEnum => 11
  | .startEnum => 12
  | .nextEnum => 13
  | .createOverwrite => 14
  | .keyInPersistent => 15
  | .loop => 16
  | .restrictUsage => 17
  | .allocObj => 18
  | .freeObj => 19
  | .resetObj => 20
  | .getObjInfo => 21
  | .openIdInShm => 22
  | .createIdInShm => 23
  | .createoverIdInShm => 24
  | .renameIdInShm => 25

/-- The object id: a copy for the first command, the client's memory for the second. -/
def withId (copying inShm command : UInt32) (id : TeeMemref) (params : TeeParams)
    (next : List UInt8 → m (TeeResult × TeeParams)) : m (TeeResult × TeeParams) :=
  if command = copying then do
    let granted ← E.malloc id.size.toNat
    if granted then next (bytes id) else pure (teeErrorOutOfMemory, params)
  else if command = inShm then next (bytes id)
  else pure (teeErrorNotSupported, params)

def taStorageCmdOpen (command : UInt32) : Handler m := fun paramTypes params =>
  if paramTypes ≠ teeParamTypes .memrefInput .valueInout .valueInput .none then
    pure (teeErrorBadParameters, params)
  else withId E StorageCommand.open.code StorageCommand.openIdInShm.code command (params 0).memref
    params fun id => do
      let r ← E.api (.openPersistentObject (params 2).value.a id (params 1).value.a)
      pure (r.res, putValue 1 (params 1).value.a (truncateHandle r.handle) params)

def taStorageCmdCreate (command : UInt32) : Handler m := fun paramTypes params =>
  if paramTypes ≠ teeParamTypes .memrefInput .valueInout .valueInput .memrefInput then
    pure (teeErrorBadParameters, params)
  else withId E StorageCommand.create.code StorageCommand.createIdInShm.code command
    (params 0).memref params fun id => do
      let r ← E.api (.createPersistentObject (params 2).value.b id (params 1).value.a
        (widenVal (params 2).value.a) (bytes (params 3).memref))
      pure (r.res, putValue 1 (params 1).value.a (truncateHandle r.handle) params)

def teeDataFlagOverwrite : UInt32 := 0x00000400

def taStorageCmdCreateOverwrite (command : UInt32) : Handler m := fun paramTypes params =>
  if paramTypes ≠ teeParamTypes .memrefInput .valueInput .none .none then
    pure (teeErrorBadParameters, params)
  else withId E StorageCommand.createOverwrite.code StorageCommand.createoverIdInShm.code command
    (params 0).memref params fun id => do
      let r ← E.api (.createPersistentObject (params 1).value.a id teeDataFlagOverwrite 0 [])
      pure (r.res, params)

def objectTypes : UInt32 := teeParamTypes .valueInput .none .none .none

def onHandle (call : ℕ → ApiCall) : Handler m :=
  singleCall E objectTypes (fun params => call (widenVal (params 0).value.a)) succeed

def taStorageCmdClose : Handler m := onHandle E .closeObject

def taStorageCmdRead : Handler m :=
  singleCall E (teeParamTypes .memrefOutput .valueInout .none .none)
    (fun params => .readObjectData (widenVal (params 1).value.a) (params 0).memref.size)
    fun r params => (r.res, putValue 1 (params 1).value.a r.a
      (putOutput 0 r.data (params 0).memref.size params))

def taStorageCmdWrite : Handler m :=
  singleCall E (teeParamTypes .memrefInput .valueInput .none .none) (fun params =>
    .writeObjectData (widenVal (params 1).value.a) (bytes (params 0).memref)) answer

def taStorageCmdSeek : Handler m := fun paramTypes params =>
  if paramTypes ≠ teeParamTypes .valueInput .valueInout .none .none then
    pure (teeErrorBadParameters, params)
  else do
    let o := widenVal (params 0).value.a
    let r ← E.api (.seekObjectData o (params 0).value.b.toInt32.toInt (params 1).value.a)
    if r.res ≠ teeSuccess then pure (r.res, params)
    else
      let i ← E.api (.getObjectInfo1 o)
      pure (i.res, putValue 1 (params 1).value.a i.info.dataPosition params)

/-- The result of `TEE_CloseAndDeletePersistentObject1` is dropped. -/
def taStorageCmdUnlink : Handler m := onHandle E .closeAndDeletePersistentObject1

def taStorageCmdRename (command : UInt32) : Handler m := fun paramTypes params =>
  if paramTypes ≠ teeParamTypes .valueInput .memrefInput .none .none then
    pure (teeErrorBadParameters, params)
  else withId E StorageCommand.rename.code StorageCommand.renameIdInShm.code command
    (params 1).memref params fun id => do
      let r ← E.api (.renamePersistentObject (widenVal (params 0).value.a) id)
      pure (r.res, params)

def taStorageCmdTrunc : Handler m :=
  singleCall E objectTypes (fun params =>
    .truncateObjectData (widenVal (params 0).value.a) (params 0).value.b) answer

def allocEnum : Handler m :=
  singleCall E (teeParamTypes .valueOutput .none .none .none)
    (fun _ => .allocatePersistentObjectEnumerator)
    fun r params => (r.res, putValue 0 (truncateHandle r.handle) (params 0).value.b params)

def startEnum : Handler m :=
  singleCall E objectTypes (fun params =>
    .startPersistentObjectEnumerator (widenVal (params 0).value.a) (params 0).value.b) answer

def putSize (i : Fin 4) (size : UInt32) (params : TeeParams) : TeeParams :=
  Function.update params i { params i with memref := { (params i).memref with size := size } }

def putInfo (info : TeeObjectInfo) (params : TeeParams) : TeeParams :=
  putOutput 1 info.bytes (params 1).memref.size params

/-- The end of a `next` command, with the info wanted or not. -/
def nextObject (wantsInfo : Bool) (params : TeeParams) : m (TeeResult × TeeParams) :=
  if (params 2).memref.size < teeObjectIdMaxLen then pure (teeErrorShortBuffer, params)
  else do
    let r ← E.api (.getNextPersistentObject (widenVal (params 0).value.a) wantsInfo
      (params 2).memref.size)
    let params := if wantsInfo = true ∧ r.res = teeSuccess then putInfo r.info params else params
    pure (r.res, putOutput 2 r.data r.size params)

def nextEnum : Handler m := fun paramTypes params =>
  if paramTypeGet paramTypes 0 ≠ ParamType.code .valueInput then
    pure (teeErrorBadParameters, params)
  else if paramTypeGet paramTypes 2 ≠ ParamType.code .memrefOutput then
    pure (teeErrorBadParameters, params)
  else if paramTypeGet paramTypes 3 ≠ ParamType.code .none then pure (teeErrorBadParameters, params)
  else if paramTypeGet paramTypes 1 = ParamType.code .none then nextObject E false params
  else if paramTypeGet paramTypes 1 = ParamType.code .memrefOutput then
    if (params 1).memref.size < sizeofObjectInfo then
      pure (teeErrorShortBuffer, putSize 1 sizeofObjectInfo params)
    else nextObject E true (putSize 1 sizeofObjectInfo params)
  else pure (teeErrorBadParameters, params)

def taStorageCmdAllocEnum : Handler m := allocEnum E

def taStorageCmdFreeEnum : Handler m := onHandle E .freePersistentObjectEnumerator

def taStorageCmdResetEnum : Handler m := onHandle E .resetPersistentObjectEnumerator

def taStorageCmdStartEnum : Handler m := startEnum E

def taStorageCmdNextEnum : Handler m := nextEnum E

def teeTypeAes : UInt32 := 0xA0000010

def teeAlgAesCbcNopad : UInt32 := 0x10000110

def teeModeEncrypt : UInt32 := 0

def keyFlags : UInt32 := 0x00000037

def checkObj (o1 o2 : TeeObjectInfo) : TeeResult :=
  if o1.objectType ≠ o2.objectType ∨ o1.keySize ≠ o2.keySize ∨ o1.maxKeySize ≠ o2.maxKeySize ∨
    o1.objectUsage ≠ o2.objectUsage then teeErrorGeneric else teeSuccess

/-- From the opened key on: an operation is given the key and an initialisation vector. -/
def useKey (key : ℕ) (info : TeeObjectInfo) : m TeeResult := do
  let o ← E.api (.allocateOperation teeAlgAesCbcNopad teeModeEncrypt info.maxKeySize)
  let result ← if o.res ≠ teeSuccess then pure o.res
    else do
      let k ← E.api (.setOperationKey o.handle key)
      let result ← if k.res ≠ teeSuccess then pure k.res
        else do
          let granted ← E.malloc 16
          if granted then
            let _ ← E.api (.cipherInit o.handle (some (List.replicate 16 0)))
            pure k.res
          else pure teeErrorOutOfMemory
      let _ ← E.api (.freeOperation o.handle)
      pure result
  let _ ← E.api (.closeAndDeletePersistentObject1 key)
  pure result

/-- From the transient key on: it is stored as object 1, read back and compared. -/
def storeKey (storageId : UInt32) (transient : ℕ) : m TeeResult := do
  let g ← E.api (.generateKey transient 256 [])
  if g.res ≠ teeSuccess then pure g.res
  else
    let i1 ← E.api (.getObjectInfo1 transient)
    let c ← E.api (.createPersistentObject storageId (bytes32 1) keyFlags transient [])
    if c.res ≠ teeSuccess then pure c.res
    else
      let i2 ← E.api (.getObjectInfo1 c.handle)
      if checkObj i1.info i2.info ≠ teeSuccess then pure (checkObj i1.info i2.info)
      else
        let _ ← E.api (.closeObject c.handle)
        let o ← E.api (.openPersistentObject storageId (bytes32 1) keyFlags)
        if o.res ≠ teeSuccess then pure o.res
        else
          let i3 ← E.api (.getObjectInfo o.handle)
          if checkObj i3.info i2.info ≠ teeSuccess then pure (checkObj i3.info i2.info)
          else useKey E o.handle i3.info

def taStorageCmdKeyInPersistent : Handler m := fun paramTypes params =>
  if paramTypes ≠ objectTypes then pure (teeErrorBadParameters, params)
  else do
    let t ← E.api (.allocateTransientObject teeTypeAes 256)
    if t.res ≠ teeSuccess then pure (t.res, params)
    else
      let result ← storeKey E (params 0).value.a t.handle
      let _ ← E.api (.freeTransientObject t.handle)
      pure (result, params)

def loopFlags : UInt32 := 0x00000404

def createAndDelete (storageId : UInt32) : ℕ → ℕ → m TeeResult
  | 0, _ => pure teeSuccess
  | n + 1, i => do
    let c ← E.api (.createPersistentObject storageId (bytes32 (UInt32.ofNat i)) loopFlags 0 [])
    if c.res ≠ teeSuccess then pure c.res
    else
      let d ← E.api (.closeAndDeletePersistentObject1 c.handle)
      if d.res ≠ teeSuccess then pure d.res else createAndDelete storageId n (i + 1)

def taStorageCmdLoop : Handler m := fun paramTypes params =>
  if paramTypes ≠ objectTypes then pure (teeErrorBadParameters, params)
  else do
    let res ← createAndDelete E (params 0).value.a 20 0
    pure (res, params)

/-- The result of `TEE_RestrictObjectUsage1` is dropped. -/
def taStorageCmdRestrictUsage : Handler m :=
  singleCall E objectTypes (fun params =>
    .restrictObjectUsage1 (widenVal (params 0).value.a) (params 0).value.b) succeed

def taStorageCmdAllocObj : Handler m :=
  singleCall E (teeParamTypes .valueInput .valueOutput .none .none)
    (fun params => .allocateTransientObject (params 0).value.a (params 0).value.b)
    fun r params => (r.res, putValue 1 (truncateHandle r.handle) (params 1).value.b params)

def taStorageCmdFreeObj : Handler m := onHandle E .freeTransientObject

def taStorageCmdResetObj : Handler m := onHandle E .resetTransientObject

/-- The size of the memref is neither checked nor set. -/
def taStorageCmdGetObjInfo : Handler m :=
  singleCall E (teeParamTypes .valueInput .memrefOutput .none .none)
    (fun params => .getObjectInfo1 (widenVal (params 0).value.a))
    fun r params => (r.res, if r.res = teeSuccess then putInfo r.info params else params)

def StorageCommand.all : List StorageCommand :=
  [.open, .close, .read, .write, .create, .seek, .unlink, .rename, .trunc, .allocEnum, .freeEnum,
    .resetEnum, .startEnum, .nextEnum, .createOverwrite, .keyInPersistent, .loop, .restrictUsage,
    .allocObj, .freeObj, .resetObj, .getObjInfo, .openIdInShm, .createIdInShm,
    .createoverIdInShm, .renameIdInShm]

def StorageCommand.handler (c : StorageCommand) : Handler m :=
  match c with
  | .open | .openIdInShm => taStorageCmdOpen E c.code
  | .close => taStorageCmdClose E
  | .read => taStorageCmdRead E
  | .write => taStorageCmdWrite E
  | .create | .createIdInShm => taStorageCmdCreate E c.code
  | .createOverwrite | .createoverIdInShm => taStorageCmdCreateOverwrite E c.code
  | .seek => taStorageCmdSeek E
  | .unlink => taStorageCmdUnlink E
  | .rename | .renameIdInShm => taStorageCmdRename E c.code
  | .trunc => taStorageCmdTrunc E
  | .allocEnum => taStorageCmdAllocEnum E
  | .freeEnum => taStorageCmdFreeEnum E
  | .resetEnum => taStorageCmdResetEnum E
  | .startEnum => taStorageCmdStartEnum E
  | .nextEnum => taStorageCmdNextEnum E
  | .keyInPersistent => taStorageCmdKeyInPersistent E
  | .loop => taStorageCmdLoop E
  | .restrictUsage => taStorageCmdRestrictUsage E
  | .allocObj => taStorageCmdAllocObj E
  | .freeObj => taStorageCmdFreeObj E
  | .resetObj => taStorageCmdResetObj E
  | .getObjInfo => taStorageCmdGetObjInfo E

def storageInvoke (commandId : UInt32) : Handler m :=
  match StorageCommand.all.find? fun c => c.code = commandId with
  | some c => c.handler E
  | none => fun _ params => pure (teeErrorBadParameters, params)

theorem storageInvoke_code (c : StorageCommand) :
    storageInvoke E c.code = c.handler E := by
  have hfind : StorageCommand.all.find? (fun d => d.code = c.code) = some c := by
    cases c <;> decide
  rw [storageInvoke, hfind]

end StorageHandlers
