import OpteeTest.AttrPack
import OpteeTest.ClientApi
import OpteeTest.CryptHandlers

/-! # The crypt wrappers of the host library

Each wrapper fills an operation by hand and sends it to the crypt TA. A handle of the host is a
32-bit word; a buffer comes with its length. -/
namespace CryptWrappers

open ByteMemory TeeApi AttrWireFormat AttrPack ClientApi
open CryptHandlers (CryptCommand)

/-- The host program: its word size, its memory and whether `calloc` grants. -/
structure Host where
  arch : Arch
  mem : Memory UInt8
  calloc : Bool

variable {m : Type → Type} [Monad m]
variable (S : Session m)

def tmpref (r : TempMemoryReference) : TeecParameter := tmprefParameter r.buffer r.size

def taCryptCmdAllocateOperation (algo mode maxKeySize oph : UInt32) : m HostResult :=
  hostCall S CryptCommand.allocateOperation.code
    (operation .valueInout .valueInput .none .none (valueParameter 0 algo)
      (valueParameter mode maxKeySize) zeroParameter zeroParameter)
    fun res op => ⟨res, [if res = teeSuccess then (op.params 0).value.a else oph], []⟩

def onHandles (c : CryptCommand) (a b : UInt32) : m HostResult :=
  hostCall S c.code (operation .valueInput .none .none .none (valueParameter a b) zeroParameter
    zeroParameter zeroParameter) plain

def taCryptCmdFreeOperation (oph : UInt32) : m HostResult := onHandles S .freeOperation oph 0

def taCryptCmdResetOperation (oph : UInt32) : m HostResult := onHandles S .resetOperation oph 0

def taCryptCmdCopyOperation (dstOph srcOph : UInt32) : m HostResult :=
  onHandles S .copyOperation dstOph srcOph

def taCryptCmdSetOperationKey (oph key : UInt32) : m HostResult :=
  onHandles S .setOperationKey oph key

def taCryptCmdSetOperationKey2 (oph key1 key2 : UInt32) : m HostResult :=
  hostCall S CryptCommand.setOperationKey2.code
    (operation .valueInput .valueInput .none .none (valueParameter oph key1)
      (valueParameter key2 0) zeroParameter zeroParameter) plain

def feed (c : CryptCommand) (oph : UInt32) (chunk : TempMemoryReference) : m HostResult :=
  hostCall S c.code (operation .valueInput .memrefInput .none .none (valueParameter oph 0)
    (tmpref chunk) zeroParameter zeroParameter) plain

def transform (c : CryptCommand) (oph : UInt32) (src dst : TempMemoryReference) : m HostResult :=
  hostCall S c.code (operation .valueInput .memrefInput .memrefOutput .none (valueParameter oph 0)
    (tmpref src) (tmpref dst) zeroParameter) (oneOut 2 dst.size)

def initialise (c : CryptCommand) (oph : UInt32) (iv : Option TempMemoryReference) :
    m HostResult :=
  match iv with
  | some iv => hostCall S c.code (operation .valueInput .memrefInput .none .none
      (valueParameter oph 0) (tmpref iv) zeroParameter zeroParameter) plain
  | none => hostCall S c.code (operation .valueInput .none .none .none (valueParameter oph 0)
      zeroParameter zeroParameter zeroParameter) plain

def taCryptCmdDigestUpdate (oph : UInt32) (chunk : TempMemoryReference) : m HostResult :=
  feed S .digestUpdate oph chunk

def taCryptCmdDigestDoFinal (oph : UInt32) (chunk hash : TempMemoryReference) : m HostResult :=
  transform S .digestDoFinal oph chunk hash

def taCryptCmdCipherInit (oph : UInt32) (iv : Option TempMemoryReference) : m HostResult :=
  initialise S .cipherInit oph iv

def taCryptCmdCipherUpdate (oph : UInt32) (src dst : TempMemoryReference) : m HostResult :=
  transform S .cipherUpdate oph src dst

def taCryptCmdCipherDoFinal (oph : UInt32) (src dst : TempMemoryReference) : m HostResult :=
  transform S .cipherDoFinal oph src dst

def taCryptCmdMacInit (oph : UInt32) (iv : Option TempMemoryReference) : m HostResult :=
  initialise S .macInit oph iv

def taCryptCmdMacUpdate (oph : UInt32) (chunk : TempMemoryReference) : m HostResult :=
  feed S .macUpdate oph chunk

def taCryptCmdMacFinalCompute (oph : UInt32) (chunk hash : TempMemoryReference) : m HostResult :=
  transform S .macFinalCompute oph chunk hash

def taCryptCmdRandomNumberGenerate (buf : TempMemoryReference) : m HostResult :=
  hostCall S CryptCommand.randomNumberGenerate.code (operation .memrefOutput .none .none .none
    (tmpref buf) zeroParameter zeroParameter zeroParameter)
    fun res op => ⟨res, [], [bufferAt 0 buf.size op]⟩

def taCryptCmdAeInit (oph : UInt32) (nonce : TempMemoryReference) (tagLen aadLen payloadLen : ℕ) :
    m HostResult :=
  hostCall S CryptCommand.aeInit.code (operation .valueInput .memrefInput .valueInput .none
    (valueParameter oph (UInt32.ofNat tagLen)) (tmpref nonce)
    (valueParameter (UInt32.ofNat aadLen) (UInt32.ofNat payloadLen)) zeroParameter) plain

def taCryptCmdAeUpdateAad (oph : UInt32) (aad : TempMemoryReference) : m HostResult :=
  feed S .aeUpdateAad oph aad

def taCryptCmdAeUpdate (oph : UInt32) (src dst : TempMemoryReference) : m HostResult :=
  transform S .aeUpdate oph src dst

def taCryptCmdAeEncryptFinal (oph : UInt32) (src dst tag : TempMemoryReference) : m HostResult :=
  hostCall S CryptCommand.aeEncryptFinal.code
    (operation .valueInput .memrefInput .memrefOutput .memrefOutput (valueParameter oph 0)
      (tmpref src) (tmpref dst) (tmpref tag))
    fun res op => ⟨res, [], [outAt 2 dst.size res op, outAt 3 tag.size res op]⟩

def taCryptCmdAeDecryptFinal (oph : UInt32) (src dst tag : TempMemoryReference) : m HostResult :=
  hostCall S CryptCommand.aeDecryptFinal.code
    (operation .valueInput .memrefInput .memrefOutput .memrefInput (valueParameter oph 0)
      (tmpref src) (tmpref dst) (tmpref tag)) (oneOut 2 dst.size)

def withPacked (h : Host) (attrs : AttrArray) (next : TempMemoryReference → m HostResult)
    (failed : TeeResult → HostResult) : m HostResult :=
  let run := packAttrs h.arch h.mem attrs h.calloc
  if run.res ≠ teeSuccess then pure (failed run.res) else next ⟨run.block, run.blen⟩

def failedPlain (res : TeeResult) : HostResult := ⟨res, [], []⟩

def taCryptCmdAsymmetricOperate (h : Host) (c : CryptCommand) (oph : UInt32) (params : AttrArray)
    (src dst : TempMemoryReference) : m HostResult :=
  withPacked h params (fun buf => hostCall S c.code
    (operation .valueInput .memrefInput .memrefInput .memrefOutput (valueParameter oph 0)
      (tmpref buf) (tmpref src) (tmpref dst)) (oneOut 3 dst.size))
    fun res => ⟨res, [], [dst]⟩

def taCryptCmdAsymmetricEncrypt (h : Host) (oph : UInt32) (params : AttrArray)
    (src dst : TempMemoryReference) : m HostResult :=
  taCryptCmdAsymmetricOperate S h .asymmetricEncrypt oph params src dst

def taCryptCmdAsymmetricDecrypt (h : Host) (oph : UInt32) (params : AttrArray)
    (src dst : TempMemoryReference) : m HostResult :=
  taCryptCmdAsymmetricOperate S h .asymmetricDecrypt oph params src dst

def taCryptCmdAsymmetricSign (h : Host) (oph : UInt32) (params : AttrArray)
    (digest signature : TempMemoryReference) : m HostResult :=
  taCryptCmdAsymmetricOperate S h .asymmetricSignDigest oph params digest signature

def taCryptCmdAsymmetricVerify (h : Host) (oph : UInt32) (params : AttrArray)
    (digest signature : TempMemoryReference) : m HostResult :=
  withPacked h params (fun buf => hostCall S CryptCommand.asymmetricVerifyDigest.code
    (operation .valueInput .memrefInput .memrefInput .memrefInput (valueParameter oph 0)
      (tmpref buf) (tmpref digest) (tmpref signature)) plain) failedPlain

def sendAttrs (h : Host) (c : CryptCommand) (a b : UInt32) (attrs : AttrArray) : m HostResult :=
  withPacked h attrs (fun buf => hostCall S c.code (operation .valueInput .memrefInput .none .none
    (valueParameter a b) (tmpref buf) zeroParameter zeroParameter) plain) failedPlain

def taCryptCmdPopulateTransientObject (h : Host) (oh : UInt32) (attrs : AttrArray) :
    m HostResult :=
  sendAttrs S h .populateTransientObject oh 0 attrs

def taCryptCmdGenerateKey (h : Host) (oh keySize : UInt32) (params : AttrArray) : m HostResult :=
  sendAttrs S h .generateKey oh keySize params

def taCryptCmdDeriveKey (h : Host) (oph oh : UInt32) (params : AttrArray) : m HostResult :=
  sendAttrs S h .deriveKey oph oh params

def taCryptCmdAllocateTransientObject (objType maxObjSize oh : UInt32) : m HostResult :=
  hostCall S CryptCommand.allocateTransientObject.code
    (operation .valueInput .valueOutput .none .none (valueParameter objType maxObjSize)
      zeroParameter zeroParameter zeroParameter)
    fun res op => ⟨res, [if res = teeSuccess then (op.params 1).value.a else oh], []⟩

def taCryptCmdFreeTransientObject (oh : UInt32) : m HostResult :=
  onHandles S .freeTransientObject oh 0

def taCryptCmdResetTransientObject (oh : UInt32) : m HostResult :=
  onHandles S .resetTransientObject oh 0

def taCryptCmdGetObjectBufferAttribute (oh attrId : UInt32) (buf : TempMemoryReference) :
    m HostResult :=
  hostCall S CryptCommand.getObjectBufferAttribute.code
    (operation .valueInput .memrefOutput .none .none (valueParameter oh attrId) (tmpref buf)
      zeroParameter zeroParameter) (oneOut 1 buf.size)

def taCryptCmdGetObjectValueAttribute (oh attrId valuea valueb : UInt32) : m HostResult :=
  hostCall S CryptCommand.getObjectValueAttribute.code
    (operation .valueInput .valueOutput .none .none (valueParameter oh attrId) zeroParameter
      zeroParameter zeroParameter)
    fun res op => if res = teeSuccess then
      ⟨res, [(op.params 1).value.a, (op.params 1).value.b], []⟩ else ⟨res, [valuea, valueb], []⟩

end CryptWrappers
