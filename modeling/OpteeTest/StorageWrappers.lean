import OpteeTest.ClientApi
import OpteeTest.KeyHandlers

/-! # The file system and key wrappers of the host libraries

The file system wrappers talk to the storage TA and the key wrappers to the key TA. -/
namespace StorageWrappers

open ByteMemory TeeApi ClientApi
open StorageHandlers (StorageCommand)
open KeyHandlers (KeyCommand)

variable {m : Type → Type} [Monad m]
variable (S : Session m)

def tmpref (r : TempMemoryReference) : TeecParameter := tmprefParameter r.buffer r.size

def fsOpen (id : TempMemoryReference) (flags obj storageId : UInt32) : m HostResult :=
  hostCall S StorageCommand.open.code (operation .memrefInput .valueInout .valueInput .none
    (tmpref id) (valueParameter flags 0) (valueParameter storageId 0) zeroParameter)
    fun res op => ⟨res, [if res = teeSuccess then (op.params 1).value.b else obj], []⟩

def fsCreate (id : TempMemoryReference) (flags attr : UInt32) (data : TempMemoryReference)
    (obj storageId : UInt32) : m HostResult :=
  hostCall S StorageCommand.create.code
    (operation .memrefInput .valueInout .valueInput .memrefInput (tmpref id)
      (valueParameter flags 0) (valueParameter attr storageId) (tmpref data))
    fun res op => ⟨res, [if res = teeSuccess then (op.params 1).value.b else obj], []⟩

def fsCreateOverwrite (id : TempMemoryReference) (storageId : UInt32) : m HostResult :=
  hostCall S StorageCommand.createOverwrite.code (operation .memrefInput .valueInput .none .none
    (tmpref id) (valueParameter storageId 0) zeroParameter zeroParameter) plain

def sendValue (commandId a b : UInt32) : m HostResult :=
  hostCall S commandId (operation .valueInput .none .none .none (valueParameter a b) zeroParameter
    zeroParameter zeroParameter) plain

def fsClose (obj : UInt32) : m HostResult := sendValue S StorageCommand.close.code obj 0

def fsRead (obj : UInt32) (data : TempMemoryReference) (count : UInt32) : m HostResult :=
  hostCall S StorageCommand.read.code (operation .memrefOutput .valueInout .none .none
    (tmpref data) (valueParameter obj 0) zeroParameter zeroParameter)
    fun res op => ⟨res, [if res = teeSuccess then (op.params 1).value.b else count],
      [bufferAt 0 data.size op]⟩

def fsWrite (obj : UInt32) (data : TempMemoryReference) : m HostResult :=
  hostCall S StorageCommand.write.code (operation .memrefInput .valueInput .none .none
    (tmpref data) (valueParameter obj 0) zeroParameter zeroParameter) plain

def fsSeek (obj : UInt32) (offset whence : Int32) : m HostResult :=
  hostCall S StorageCommand.seek.code (operation .valueInput .valueInout .none .none
    (valueParameter obj offset.toUInt32) (valueParameter whence.toUInt32 0) zeroParameter
    zeroParameter) plain

def fsUnlink (obj : UInt32) : m HostResult := sendValue S StorageCommand.unlink.code obj 0

def fsTrunc (obj len : UInt32) : m HostResult := sendValue S StorageCommand.trunc.code obj len

def fsRename (obj : UInt32) (id : TempMemoryReference) : m HostResult :=
  hostCall S StorageCommand.rename.code (operation .valueInput .memrefInput .none .none
    (valueParameter obj 0) (tmpref id) zeroParameter zeroParameter) plain

def allocEnum (commandId e : UInt32) : m HostResult :=
  hostCall S commandId (operation .valueOutput .none .none .none zeroParameter zeroParameter
    zeroParameter zeroParameter)
    fun res op => ⟨res, [if res = teeSuccess then (op.params 0).value.a else e], []⟩

def fsAllocEnum (e : UInt32) : m HostResult := allocEnum S StorageCommand.allocEnum.code e

def fsResetEnum (e : UInt32) : m HostResult := sendValue S StorageCommand.resetEnum.code e 0

def fsFreeEnum (e : UInt32) : m HostResult := sendValue S StorageCommand.freeEnum.code e 0

def fsStartEnum (e storageId : UInt32) : m HostResult :=
  sendValue S StorageCommand.startEnum.code e storageId

def nextOperation (e : UInt32) (wanted : Bool) (objInfo id : TempMemoryReference) :
    TeecOperation :=
  if wanted then operation .valueInput .memrefOutput .memrefOutput .none (valueParameter e 0)
    (tmpref objInfo) (tmpref id) zeroParameter
  else operation .valueInput .none .memrefOutput .none (valueParameter e 0) (tmpref objInfo)
    (tmpref id) zeroParameter

/-- The memref of an object info that may be null. -/
def infoMemref (objInfo : Option (Memory UInt8)) (infoSize : ℕ) : TempMemoryReference :=
  ⟨objInfo.getD fun _ => 0, infoSize⟩

/-- An info of size 0 is not wanted. Both lengths are given by value. -/
def fsNextEnum (e : UInt32) (objInfo : Option (Memory UInt8)) (infoSize : ℕ)
    (id : TempMemoryReference) : m HostResult :=
  hostCall S StorageCommand.nextEnum.code
    (nextOperation e (objInfo.isSome && infoSize != 0) (infoMemref objInfo infoSize) id)
    fun res op => ⟨res, [], [bufferAt 1 infoSize op, bufferAt 2 id.size op]⟩

def fsRestrictUsage (obj objUsage : UInt32) : m HostResult :=
  sendValue S StorageCommand.restrictUsage.code obj objUsage

/-- The word is written whatever the result. -/
def fsAllocObj (objType maxKeySize : UInt32) : m HostResult :=
  hostCall S StorageCommand.allocObj.code (operation .valueInput .valueOutput .none .none
    (valueParameter objType maxKeySize) zeroParameter zeroParameter zeroParameter)
    fun res op => ⟨res, [(op.params 1).value.a], []⟩

def fsFreeObj (obj : UInt32) : m HostResult := sendValue S StorageCommand.freeObj.code obj 0

def fsResetObj (obj : UInt32) : m HostResult := sendValue S StorageCommand.resetObj.code obj 0

def fsGetObjInfo (obj : UInt32) (objInfo : TempMemoryReference) : m HostResult :=
  hostCall S StorageCommand.getObjInfo.code (operation .valueInput .memrefOutput .none .none
    (valueParameter obj 0) (tmpref objInfo) zeroParameter zeroParameter)
    fun res op => ⟨res, [], [bufferAt 1 objInfo.size op]⟩

/-- The file name is the string up to its terminator, with the length `strlen` finds. -/
def keyGenerate (sid : UInt32) (keyFileName : TempMemoryReference) (flags keySize keyObj : UInt32) :
    m HostResult :=
  hostCall S KeyCommand.generate.code (operation .valueInput .memrefInput .valueInput .valueOutput
    (valueParameter sid 0) (tmpref keyFileName) (valueParameter flags keySize) zeroParameter)
    fun res op => ⟨res, [if res = teeSuccess then (op.params 3).value.a else keyObj], []⟩

def keyList (sid : UInt32) : m HostResult := sendValue S KeyCommand.list.code sid 0

def keyAllocEnum (e : UInt32) : m HostResult := allocEnum S KeyCommand.allocEnum.code e

def keyResetEnum (e : UInt32) : m HostResult := sendValue S KeyCommand.resetEnum.code e 0

def keyFreeEnum (e : UInt32) : m HostResult := sendValue S KeyCommand.freeEnum.code e 0

def keyStartEnum (e storageId : UInt32) : m HostResult :=
  sendValue S KeyCommand.startEnum.code e storageId

/-- `info_size` is a pointer, which is read although the type word is chosen as if it could be
null; through a null pointer there is no result. -/
def keyNextEnum (e : UInt32) (objInfo : Option (Memory UInt8)) (infoSize : Option ℕ)
    (id : TempMemoryReference) : Option (m HostResult) :=
  infoSize.map fun infoSize =>
    hostCall S KeyCommand.nextEnum.code
      (nextOperation e objInfo.isSome (infoMemref objInfo infoSize) id)
      fun res op => ⟨res, [], [outAt 1 infoSize res op, outAt 2 id.size res op]⟩

def keyOpen (sid : UInt32) (keyFileName : TempMemoryReference) (flags keyObj : UInt32) :
    m HostResult :=
  hostCall S KeyCommand.open.code (operation .valueInput .memrefInput .valueInput .valueOutput
    (valueParameter sid 0) (tmpref keyFileName) (valueParameter flags 0) zeroParameter)
    fun res op => ⟨res, [if res = teeSuccess then (op.params 3).value.a else keyObj], []⟩

def keyClose (keyObj : UInt32) : m HostResult := sendValue S KeyCommand.close.code keyObj 0

def keyCloseAndDelete (keyObj : UInt32) : m HostResult :=
  sendValue S KeyCommand.closeAndDelete.code keyObj 0

def keyGetObjectBufferAttribute (keyObj attrId : UInt32) (buffer : TempMemoryReference) :
    m HostResult :=
  hostCall S KeyCommand.getObjectBufferAttribute.code
    (operation .valueInput .memrefOutput .none .none (valueParameter keyObj attrId)
      (tmpref buffer) zeroParameter zeroParameter) (oneOut 1 buffer.size)

def keyGetObjectValueAttribute (keyObj attrId valueA valueB : UInt32) : m HostResult :=
  hostCall S KeyCommand.getObjectValueAttribute.code
    (operation .valueInput .valueOutput .none .none (valueParameter keyObj attrId) zeroParameter
      zeroParameter zeroParameter)
    fun res op => if res = teeSuccess then
      ⟨res, [(op.params 1).value.a, (op.params 1).value.b], []⟩ else ⟨res, [valueA, valueB], []⟩

end StorageWrappers
