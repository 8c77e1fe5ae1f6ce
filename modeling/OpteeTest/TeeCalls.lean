import OpteeTest.AttrUnpack
import OpteeTest.HandleTransport
import Mathlib.Logic.Function.Basic

/-! # Calls from a trusted application to the TEE internal core API

A call carries what the API function receives, a reply what it leaves behind. The functions are
not part of the program: a handler runs against any environment that answers its calls. -/
namespace TeeCalls

open ByteMemory TeeApi AttrWireFormat AttrUnpack HandleTransport

inductive ApiAttr where
  | value (attributeID a b : UInt32)
  | ref (attributeID : UInt32) (buffer : Option (List UInt8)) (length : UInt32)
  deriving DecidableEq, Repr

def apiAttr (mem : Memory UInt8) (t : TeeAttribute) : ApiAttr :=
  match t.content with
  | .value a b => .value t.attributeID a b
  | .ref buffer length => .ref t.attributeID
      (if buffer = 0 then none else some (slice mem buffer length.toNat)) length

/-- Handles are pointer-size values; an output buffer is known by its capacity. -/
inductive ApiCall where
  | allocateOperation (algorithm mode maxKeySize : UInt32)
  | freeOperation (operation : ℕ)
  | getOperationInfo (operation : ℕ)
  | resetOperation (operation : ℕ)
  | setOperationKey (operation key : ℕ)
  | setOperationKey2 (operation key1 key2 : ℕ)
  | copyOperation (dstOperation srcOperation : ℕ)
  | digestUpdate (operation : ℕ) (chunk : List UInt8)
  | digestDoFinal (operation : ℕ) (chunk : List UInt8) (hashLen : UInt32)
  | cipherInit (operation : ℕ) (iv : Option (List UInt8))
  | cipherUpdate (operation : ℕ) (srcData : List UInt8) (destLen : UInt32)
  | cipherDoFinal (operation : ℕ) (srcData : List UInt8) (destLen : UInt32)
  | macInit (operation : ℕ) (iv : Option (List UInt8))
  | macUpdate (operation : ℕ) (chunk : List UInt8)
  | macComputeFinal (operation : ℕ) (message : List UInt8) (macLen : UInt32)
  | macCompareFinal (operation : ℕ) (message mac : List UInt8)
  | allocateTransientObject (objectType maxObjectSize : UInt32)
  | freeTransientObject (object : ℕ)
  | resetTransientObject (object : ℕ)
  | populateTransientObject (object : ℕ) (attrs : List ApiAttr)
  | copyObjectAttributes1 (destObject srcObject : ℕ)
  | generateKey (object : ℕ) (keySize : UInt32) (params : List ApiAttr)
  | asymmetricEncrypt (operation : ℕ) (params : List ApiAttr) (srcData : List UInt8)
      (destLen : UInt32)
  | asymmetricDecrypt (operation : ℕ) (params : List ApiAttr) (srcData : List UInt8)
      (destLen : UInt32)
  | asymmetricSignDigest (operation : ℕ) (params : List ApiAttr) (digest : List UInt8)
      (signatureLen : UInt32)
  | asymmetricVerifyDigest (operation : ℕ) (params : List ApiAttr) (digest signature : List UInt8)
  | deriveKey (operation : ℕ) (params : List ApiAttr) (derivedKey : ℕ)
  | generateRandom (randomBufferLen : UInt32)
  | aeInit (operation : ℕ) (nonce : List UInt8) (tagLen aadLen payloadLen : UInt32)
  | aeUpdateAAD (operation : ℕ) (aadData : List UInt8)
  | aeUpdate (operation : ℕ) (srcData : List UInt8) (destLen : UInt32)
  | aeEncryptFinal (operation : ℕ) (srcData : List UInt8) (destLen tagLen : UInt32)
  | aeDecryptFinal (operation : ℕ) (srcData : List UInt8) (destLen : UInt32) (tag : List UInt8)
  | getObjectBufferAttribute (object : ℕ) (attributeID size : UInt32)
  | getObjectValueAttribute (object : ℕ) (attributeID : UInt32)
  | getObjectInfo (object : ℕ)
  | getObjectInfo1 (object : ℕ)
  | restrictObjectUsage1 (object : ℕ) (objectUsage : UInt32)
  | closeObject (object : ℕ)
  | openPersistentObject (storageID : UInt32) (objectID : List UInt8) (flags : UInt32)
  | createPersistentObject (storageID : UInt32) (objectID : List UInt8) (flags : UInt32)
      (attributes : ℕ) (initialData : List UInt8)
  | closeAndDeletePersistentObject1 (object : ℕ)
  | renamePersistentObject (object : ℕ) (newObjectID : List UInt8)
  | allocatePersistentObjectEnumerator
  | freePersistentObjectEnumerator (objectEnumerator : ℕ)
  | resetPersistentObjectEnumerator (objectEnumerator : ℕ)
  | startPersistentObjectEnumerator (objectEnumerator : ℕ) (storageID : UInt32)
  | getNextPersistentObject (objectEnumerator : ℕ) (wantsInfo : Bool) (objectIDLen : UInt32)
  | readObjectData (object : ℕ) (size : UInt32)
  | writeObjectData (object : ℕ) (buffer : List UInt8)
  | truncateObjectData (object : ℕ) (size : UInt32)
  | seekObjectData (object : ℕ) (offset : ℤ) (whence : UInt32)
  deriving DecidableEq, Repr

def sizeofOperationInfo : UInt32 := 32

def sizeofObjectInfo : UInt32 := 28

def teeObjectIdMaxLen : UInt32 := 64

def ApiCall.outputCapacity : ApiCall → UInt32
  | .getOperationInfo _ => sizeofOperationInfo
  | .digestDoFinal _ _ n | .cipherUpdate _ _ n | .cipherDoFinal _ _ n | .macComputeFinal _ _ n
  | .asymmetricEncrypt _ _ _ n | .asymmetricDecrypt _ _ _ n | .asymmetricSignDigest _ _ _ n
  | .generateRandom n | .aeUpdate _ _ n | .aeEncryptFinal _ _ n _ | .aeDecryptFinal _ _ n _
  | .getObjectBufferAttribute _ _ n | .readObjectData _ n => n
  | .getNextPersistentObject _ _ _ => teeObjectIdMaxLen
  | _ => 0

def ApiCall.tagCapacity : ApiCall → UInt32
  | .aeEncryptFinal _ _ _ n => n
  | _ => 0

def ApiCall.returnsResult : ApiCall → Bool
  | .freeOperation _ | .getOperationInfo _ | .resetOperation _ | .copyOperation _ _
  | .digestUpdate _ _ | .cipherInit _ _ | .macInit _ _ | .macUpdate _ _ | .freeTransientObject _
  | .resetTransientObject _ | .deriveKey _ _ _ | .generateRandom _ | .aeUpdateAAD _ _
  | .getObjectInfo _ | .closeObject _ | .freePersistentObjectEnumerator _
  | .resetPersistentObjectEnumerator _ => false
  | _ => true

structure TeeObjectInfo where
  objectType : UInt32
  keySize : UInt32
  maxKeySize : UInt32
  objectUsage : UInt32
  dataSize : UInt32
  dataPosition : UInt32
  handleFlags : UInt32
  deriving DecidableEq, Repr

def TeeObjectInfo.bytes (i : TeeObjectInfo) : List UInt8 :=
  [i.objectType, i.keySize, i.maxKeySize, i.objectUsage, i.dataSize, i.dataPosition,
    i.handleFlags].flatMap bytes32

/-- What a call leaves in the variables it was given. Outputs keep to their room, and after a
success the sizes are those of the outputs. -/
structure ApiReply (c : ApiCall) where
  res : TeeResult
  handle : ℕ
  a : UInt32
  b : UInt32
  data : List UInt8
  size : UInt32
  tag : List UInt8
  tagSize : UInt32
  info : TeeObjectInfo
  data_le : data.length ≤ c.outputCapacity.toNat
  tag_le : tag.length ≤ c.tagCapacity.toNat
  size_eq : res = teeSuccess → size.toNat = data.length
  tagSize_eq : res = teeSuccess → tagSize.toNat = tag.length

def bareReply (c : ApiCall) (res : TeeResult) : ApiReply c where
  res := res
  handle := 0
  a := 0
  b := 0
  data := []
  size := 0
  tag := []
  tagSize := 0
  info := ⟨0, 0, 0, 0, 0, 0, 0⟩
  data_le := Nat.zero_le _
  tag_le := Nat.zero_le _
  size_eq := fun _ => rfl
  tagSize_eq := fun _ => rfl

/-- The surroundings of a TA for the target `T`: the address of `ta_head`, the address at which
a client buffer is mapped, an uninitialised word of the stack, the allocator and the API. A loop
that is not over after `fuel` rounds ends in `stuck`. -/
structure TaEnv (T : Arch) (m : Type → Type) where
  taHead : ℕ
  base : UInt32 → ℕ
  base_fits : ∀ size, base size + size.toNat < T.word
  stackWord : UInt32
  malloc : ℕ → m Bool
  api : (c : ApiCall) → m (ApiReply c)
  fuel : ℕ
  stuck : m Unit

/-- A buffer behind the first page ends inside the address space of 64 bits. -/
theorem page_fits (size : UInt32) : 4096 + size.toNat < Arch.arm64.word := by
  have hsize := size.toNat_lt
  have hword : Arch.arm64.word = 2 ^ 64 := rfl
  omega

abbrev Handler (m : Type → Type) := UInt32 → TeeParams → m (TeeResult × TeeParams)

variable {T : Arch} {m : Type → Type} [Monad m]

def bytes (r : TeeMemref) : List UInt8 := slice r.buffer 0 r.size.toNat

def TaEnv.clientBuffer (E : TaEnv T m) (r : TeeMemref) : ClientBuffer T where
  buf := E.base r.size
  blen := r.size
  mem := fun i => r.buffer (i - E.base r.size)
  in_space := E.base_fits r.size

/-- The API function returns nothing, or its result is dropped. -/
def succeed {c : ApiCall} (_ : ApiReply c) (params : TeeParams) : TeeResult × TeeParams :=
  (teeSuccess, params)

def answer {c : ApiCall} (r : ApiReply c) (params : TeeParams) : TeeResult × TeeParams :=
  (r.res, params)

def putOutput (i : Fin 4) (data : List UInt8) (size : UInt32) (params : TeeParams) : TeeParams :=
  Function.update params i
    { params i with memref := ⟨copyIn (params i).memref.buffer 0 data, size⟩ }

theorem putOutput_self (i : Fin 4) (data : List UInt8) (size : UInt32) (params : TeeParams) :
    (putOutput i data size params i).memref = ⟨copyIn (params i).memref.buffer 0 data, size⟩ := by
  rw [putOutput, Function.update_self]

theorem putOutput_ne {i j : Fin 4} (h : j ≠ i) (data : List UInt8) (size : UInt32)
    (params : TeeParams) : putOutput i data size params j = params j :=
  Function.update_of_ne h _ _

def putValue (i : Fin 4) (a b : UInt32) (params : TeeParams) : TeeParams :=
  Function.update params i { params i with value := ⟨a, b⟩ }

def answerOutput (i : Fin 4) {c : ApiCall} (r : ApiReply c) (params : TeeParams) :
    TeeResult × TeeParams :=
  (r.res, putOutput i r.data r.size params)

def singleCall (E : TaEnv T m) (expected : UInt32) (call : TeeParams → ApiCall)
    (finish : {c : ApiCall} → ApiReply c → TeeParams → TeeResult × TeeParams) : Handler m :=
  fun paramTypes params =>
    if paramTypes ≠ expected then pure (teeErrorBadParameters, params)
    else do
      let r ← E.api (call params)
      pure (finish r params)

end TeeCalls
