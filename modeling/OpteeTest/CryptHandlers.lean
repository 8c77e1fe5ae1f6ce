import OpteeTest.TeeCalls

/-! # The command handlers of the crypt TA that wrap the API

One handler for each command that works on operations and transient objects. -/
namespace CryptHandlers

open ByteMemory TeeApi AttrUnpack HandleTransport TeeCalls

variable {T : Arch} {m : Type → Type} [Monad m] (E : TaEnv T m)

def toHandle (v : UInt32) : ℕ := val2handle T E.taHead v

def fromHandle (h : ℕ) : UInt32 := handle2val T E.taHead h

def valueTypes : UInt32 := teeParamTypes .valueInput .none .none .none

def valueInputTypes : UInt32 := teeParamTypes .valueInput .memrefInput .none .none

def inputOutputTypes : UInt32 := teeParamTypes .valueInput .memrefInput .memrefOutput .none

def taEntryAllocateOperation : Handler m :=
  singleCall E (teeParamTypes .valueInout .valueInput .none .none)
    (fun params => .allocateOperation (params 0).value.b (params 1).value.a (params 1).value.b)
    fun r params => (r.res, putValue 0 (fromHandle E r.handle) (params 0).value.b params)

def taEntryFreeOperation : Handler m :=
  singleCall E valueTypes (fun params => .freeOperation (toHandle E (params 0).value.a)) succeed

def taEntryGetOperationInfo : Handler m := fun paramTypes params =>
  if paramTypes ≠ teeParamTypes .valueInput .memrefOutput .none .none then
    pure (teeErrorBadParameters, params)
  else if (params 1).memref.size < sizeofOperationInfo then pure (teeErrorShortBuffer, params)
  else do
    let r ← E.api (.getOperationInfo (toHandle E (params 0).value.a))
    pure (teeSuccess, putOutput 1 r.data sizeofOperationInfo params)

def taEntryResetOperation : Handler m :=
  singleCall E valueTypes (fun params => .resetOperation (toHandle E (params 0).value.a)) succeed

def taEntrySetOperationKey : Handler m :=
  singleCall E valueTypes (fun params =>
    .setOperationKey (toHandle E (params 0).value.a) (toHandle E (params 0).value.b)) answer

def taEntrySetOperationKey2 : Handler m :=
  singleCall E (teeParamTypes .valueInput .valueInput .none .none) (fun params =>
    .setOperationKey2 (toHandle E (params 0).value.a) (toHandle E (params 0).value.b)
      (toHandle E (params 1).value.a)) answer

def taEntryCopyOperation : Handler m :=
  singleCall E valueTypes (fun params =>
    .copyOperation (toHandle E (params 0).value.a) (toHandle E (params 0).value.b)) succeed

def feed (call : ℕ → List UInt8 → ApiCall) : Handler m :=
  singleCall E valueInputTypes (fun params =>
    call (toHandle E (params 0).value.a) (bytes (params 1).memref)) succeed

def transform (call : ℕ → List UInt8 → UInt32 → ApiCall) : Handler m :=
  singleCall E inputOutputTypes (fun params => call (toHandle E (params 0).value.a)
    (bytes (params 1).memref) (params 2).memref.size) (answerOutput 2)

def initialise (call : ℕ → Option (List UInt8) → ApiCall) : Handler m := fun paramTypes params =>
  if paramTypes = valueTypes then do
    let _ ← E.api (call (toHandle E (params 0).value.a) none)
    pure (teeSuccess, params)
  else if paramTypes = valueInputTypes then do
    let _ ← E.api (call (toHandle E (params 0).value.a) (some (bytes (params 1).memref)))
    pure (teeSuccess, params)
  else pure (teeErrorBadParameters, params)

def taEntryDigestUpdate : Handler m := feed E .digestUpdate

def taEntryDigestDoFinal : Handler m := transform E .digestDoFinal

def taEntryCipherInit : Handler m := initialise E .cipherInit

def taEntryCipherUpdate : Handler m := transform E .cipherUpdate

def taEntryCipherDoFinal : Handler m := transform E .cipherDoFinal

def taEntryMacInit : Handler m := initialise E .macInit

def taEntryMacUpdate : Handler m := feed E .macUpdate

def taEntryMacFinalCompute : Handler m := transform E .macComputeFinal

def taEntryMacFinalCompare : Handler m :=
  singleCall E (teeParamTypes .valueInput .memrefInput .memrefInput .none) (fun params =>
    .macCompareFinal (toHandle E (params 0).value.a) (bytes (params 1).memref)
      (bytes (params 2).memref)) answer

/-- The handle is written only when the object was allocated. -/
def taEntryAllocateTransientObject : Handler m :=
  singleCall E (teeParamTypes .valueInput .valueOutput .none .none)
    (fun params => .allocateTransientObject (params 0).value.a (params 0).value.b)
    fun r params => (r.res, if r.res = teeSuccess then
      putValue 1 (fromHandle E r.handle) (params 1).value.b params else params)

def taEntryFreeTransientObject : Handler m :=
  singleCall E valueTypes (fun params => .freeTransientObject (toHandle E (params 0).value.a))
    succeed

def taEntryResetTransientObject : Handler m :=
  singleCall E valueTypes (fun params => .resetTransientObject (toHandle E (params 0).value.a))
    succeed

def withAttrs (params : TeeParams) (next : List ApiAttr → m (TeeResult × TeeParams)) :
    m (TeeResult × TeeParams) :=
  let B := E.clientBuffer (params 1).memref
  let use (run : UnpackRun) : m (TeeResult × TeeParams) :=
    if run.res ≠ teeSuccess then pure (run.res, params)
    else next (run.attrs.map (apiAttr B.mem))
  if Allocates B then do
    let granted ← E.malloc (blockSize T B.numAttrs)
    use (unpackAttrs B granted)
  else use (unpackAttrs B false)

def attrsCall (expected : UInt32) (call : TeeParams → List ApiAttr → ApiCall)
    (finish : {c : ApiCall} → ApiReply c → TeeParams → TeeResult × TeeParams) : Handler m :=
  fun paramTypes params =>
    if paramTypes ≠ expected then pure (teeErrorBadParameters, params)
    else withAttrs E params fun attrs => do
      let r ← E.api (call params attrs)
      pure (finish r params)

def taEntryPopulateTransientObject : Handler m :=
  attrsCall E valueInputTypes (fun params attrs =>
    .populateTransientObject (toHandle E (params 0).value.a) attrs) answer

def taEntryCopyObjectAttributes : Handler m :=
  singleCall E valueTypes (fun params =>
    .copyObjectAttributes1 (toHandle E (params 0).value.a) (toHandle E (params 0).value.b)) answer

def taEntryGenerateKey : Handler m :=
  attrsCall E valueInputTypes (fun params attrs =>
    .generateKey (toHandle E (params 0).value.a) (params 0).value.b attrs) answer

def asymmetricTypes : UInt32 := teeParamTypes .valueInput .memrefInput .memrefInput .memrefOutput

def asymmetric (call : ℕ → List ApiAttr → List UInt8 → UInt32 → ApiCall) : Handler m :=
  attrsCall E asymmetricTypes (fun params attrs => call (toHandle E (params 0).value.a) attrs
    (bytes (params 2).memref) (params 3).memref.size) (answerOutput 3)

def taEntryAsymmetricEncrypt : Handler m := asymmetric E .asymmetricEncrypt

def taEntryAsymmetricDecrypt : Handler m := asymmetric E .asymmetricDecrypt

def taEntryAsymmetricSignDigest : Handler m := asymmetric E .asymmetricSignDigest

def taEntryAsymmetricVerifyDigest : Handler m :=
  attrsCall E (teeParamTypes .valueInput .memrefInput .memrefInput .memrefInput)
    (fun params attrs => .asymmetricVerifyDigest (toHandle E (params 0).value.a) attrs
      (bytes (params 2).memref) (bytes (params 3).memref)) answer

def taEntryDeriveKey : Handler m :=
  attrsCall E valueInputTypes (fun params attrs => .deriveKey (toHandle E (params 0).value.a) attrs
    (toHandle E (params 0).value.b)) succeed

def taEntryRandomNumberGenerate : Handler m :=
  singleCall E (teeParamTypes .memrefOutput .none .none .none)
    (fun params => .generateRandom (params 0).memref.size)
    fun r params => (teeSuccess, putOutput 0 r.data (params 0).memref.size params)

def taEntryAeInit : Handler m :=
  singleCall E (teeParamTypes .valueInput .memrefInput .valueInput .none) (fun params =>
    .aeInit (toHandle E (params 0).value.a) (bytes (params 1).memref) ((params 0).value.b * 8)
      (params 2).value.a (params 2).value.b) answer

def taEntryAeUpdateAad : Handler m := feed E .aeUpdateAAD

/-- The result of `TEE_AEUpdate` is dropped. -/
def taEntryAeUpdate : Handler m :=
  singleCall E inputOutputTypes (fun params => .aeUpdate (toHandle E (params 0).value.a)
    (bytes (params 1).memref) (params 2).memref.size)
    fun r params => (teeSuccess, putOutput 2 r.data r.size params)

def taEntryAeEncryptFinal : Handler m :=
  singleCall E (teeParamTypes .valueInput .memrefInput .memrefOutput .memrefOutput) (fun params =>
    .aeEncryptFinal (toHandle E (params 0).value.a) (bytes (params 1).memref)
      (params 2).memref.size (params 3).memref.size)
    fun r params => (r.res, putOutput 3 r.tag r.tagSize (putOutput 2 r.data r.size params))

def taEntryAeDecryptFinal : Handler m :=
  singleCall E (teeParamTypes .valueInput .memrefInput .memrefOutput .memrefInput) (fun params =>
    .aeDecryptFinal (toHandle E (params 0).value.a) (bytes (params 1).memref)
      (params 2).memref.size (bytes (params 3).memref)) (answerOutput 2)

def taEntryGetObjectBufferAttribute : Handler m :=
  singleCall E (teeParamTypes .valueInput .memrefOutput .none .none) (fun params =>
    .getObjectBufferAttribute (toHandle E (params 0).value.a) (params 0).value.b
      (params 1).memref.size) (answerOutput 1)

def taEntryGetObjectValueAttribute : Handler m :=
  singleCall E (teeParamTypes .valueInput .valueOutput .none .none) (fun params =>
    .getObjectValueAttribute (toHandle E (params 0).value.a) (params 0).value.b)
    fun r params => (r.res, putValue 1 r.a r.b params)

inductive CryptCommand where
  | allocateOperation | freeOperation | getOperationInfo | resetOperation | setOperationKey
  | setOperationKey2 | copyOperation | digestUpdate | digestDoFinal | cipherInit | cipherUpdate
  | cipherDoFinal | macInit | macUpdate | macFinalCompute | macFinalCompare
  | allocateTransientObject | freeTransientObject | resetTransientObject
  | populateTransientObject | copyObjectAttributes | generateKey | asymmetricEncrypt
  | asymmetricDecrypt | asymmetricSignDigest | asymmetricVerifyDigest | deriveKey
  | randomNumberGenerate | aeInit | aeUpdateAad | aeUpdate | aeEncryptFinal | aeDecryptFinal
  | getObjectBufferAttribute | getObjectValueAttribute
  deriving DecidableEq, Repr

def CryptCommand.code : CryptCommand → UInt32
  | .allocateOperation => 5
  | .freeOperation => 6
  | .getOperationInfo => 7
  | .resetOperation => 8
  | .setOperationKey => 9
  | .setOperationKey2 => 10
  | .copyOperation => 11
  | .digestUpdate => 12
  | .digestDoFinal => 13
  | .cipherInit => 14
  | .cipherUpdate => 15
  | .cipherDoFinal => 16
  | .macInit => 17
  | .macUpdate => 18
  | .macFinalCompute => 19
  | .macFinalCompare => 20
  | .allocateTransientObject => 21
  | .freeTransientObject => 22
  | .resetTransientObject => 23
  | .populateTransientObject => 24
  | .copyObjectAttributes => 25
  | .generateKey => 26
  | .asymmetricEncrypt => 27
  | .asymmetricDecrypt => 28
  | .asymmetricSignDigest => 29
  | .asymmetricVerifyDigest => 30
  | .deriveKey => 31
  | .randomNumberGenerate => 32
  | .aeInit => 33
  | .aeUpdateAad => 34
  | .aeUpdate => 35
  | .aeEncryptFinal => 36
  | .aeDecryptFinal => 37
  | .getObjectBufferAttribute => 38
  | .getObjectValueAttribute => 39

def CryptCommand.all : List CryptCommand :=
  [.allocateOperation, .freeOperation, .getOperationInfo, .resetOperation, .setOperationKey,
    .setOperationKey2, .copyOperation, .digestUpdate, .digestDoFinal, .cipherInit, .cipherUpdate,
    .cipherDoFinal, .macInit, .macUpdate, .macFinalCompute, .macFinalCompare,
    .allocateTransientObject, .freeTransientObject, .resetTransientObject,
    .populateTransientObject, .copyObjectAttributes, .generateKey, .asymmetricEncrypt,
    .asymmetricDecrypt, .asymmetricSignDigest, .asymmetricVerifyDigest, .deriveKey,
    .randomNumberGenerate, .aeInit, .aeUpdateAad, .aeUpdate, .aeEncryptFinal, .aeDecryptFinal,
    .getObjectBufferAttribute, .getObjectValueAttribute]

def CryptCommand.handler : CryptCommand → Handler m
  | .allocateOperation => taEntryAllocateOperation E
  | .freeOperation => taEntryFreeOperation E
  | .getOperationInfo => taEntryGetOperationInfo E
  | .resetOperation => taEntryResetOperation E
  | .setOperationKey => taEntrySetOperationKey E
  | .setOperationKey2 => taEntrySetOperationKey2 E
  | .copyOperation => taEntryCopyOperation E
  | .digestUpdate => taEntryDigestUpdate E
  | .digestDoFinal => taEntryDigestDoFinal E
  | .cipherInit => taEntryCipherInit E
  | .cipherUpdate => taEntryCipherUpdate E
  | .cipherDoFinal => taEntryCipherDoFinal E
  | .macInit => taEntryMacInit E
  | .macUpdate => taEntryMacUpdate E
  | .macFinalCompute => taEntryMacFinalCompute E
  | .macFinalCompare => taEntryMacFinalCompare E
  | .allocateTransientObject => taEntryAllocateTransientObject E
  | .freeTransientObject => taEntryFreeTransientObject E
  | .resetTransientObject => taEntryResetTransientObject E
  | .populateTransientObject => taEntryPopulateTransientObject E
  | .copyObjectAttributes => taEntryCopyObjectAttributes E
  | .generateKey => taEntryGenerateKey E
  | .asymmetricEncrypt => taEntryAsymmetricEncrypt E
  | .asymmetricDecrypt => taEntryAsymmetricDecrypt E
  | .asymmetricSignDigest => taEntryAsymmetricSignDigest E
  | .asymmetricVerifyDigest => taEntryAsymmetricVerifyDigest E
  | .deriveKey => taEntryDeriveKey E
  | .randomNumberGenerate => taEntryRandomNumberGenerate E
  | .aeInit => taEntryAeInit E
  | .aeUpdateAad => taEntryAeUpdateAad E
  | .aeUpdate => taEntryAeUpdate E
  | .aeEncryptFinal => taEntryAeEncryptFinal E
  | .aeDecryptFinal => taEntryAeDecryptFinal E
  | .getObjectBufferAttribute => taEntryGetObjectBufferAttribute E
  | .getObjectValueAttribute => taEntryGetObjectValueAttribute E

/-- `TA_InvokeCommandEntryPoint` of the crypt TA; `rest` stands for the cases of other files. -/
def cryptInvoke (rest : UInt32 → Handler m) (commandId : UInt32) : Handler m :=
  match CryptCommand.all.find? fun c => c.code = commandId with
  | some c => c.handler E
  | none => rest commandId

theorem cryptInvoke_code (rest : UInt32 → Handler m) (c : CryptCommand) :
    cryptInvoke E rest c.code = c.handler E := by
  have hfind : CryptCommand.all.find? (fun d => d.code = c.code) = some c := by
    cases c <;> decide
  rw [cryptInvoke, hfind]

end CryptHandlers
