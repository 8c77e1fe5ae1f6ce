import OpteeTest.EffectRuns
import OpteeTest.TeeApi

/-! # The property test of the OS test TA

The test walks through three sets of properties. It asks for every name and value in buffers of
several sizes, and wants each property of a table once and of its type. -/
namespace OsTestProperties

open ByteMemory TeeApi DecidedRun

inductive PType where
  | bool | int | uuid | identity | string | binaryBlock
  deriving DecidableEq, Repr

structure PAttr where
  str : List UInt8
  type : PType
  retrieved : Bool
  deriving DecidableEq

def ascii (s : String) : List UInt8 := s.toList.map fun c => UInt8.ofNat c.toNat

def pAttrs : List PAttr := [
  ⟨ascii "gpd.ta.appID", .uuid, false⟩,
  ⟨ascii "gpd.ta.singleInstance", .bool, false⟩,
  ⟨ascii "gpd.ta.multiSession", .bool, false⟩,
  ⟨ascii "gpd.ta.instanceKeepAlive", .bool, false⟩,
  ⟨ascii "gpd.ta.dataSize", .int, false⟩,
  ⟨ascii "gpd.ta.stackSize", .int, false⟩,
  ⟨ascii "gpd.ta.version", .string, false⟩,
  ⟨ascii "gpd.ta.description", .string, false⟩,
  ⟨ascii "gpd.client.identity", .identity, false⟩,
  ⟨ascii "gpd.tee.apiversion", .string, false⟩,
  ⟨ascii "gpd.tee.description", .string, false⟩,
  ⟨ascii "gpd.tee.deviceID", .uuid, false⟩,
  ⟨ascii "gpd.tee.systemTime.protectionLevel", .int, false⟩,
  ⟨ascii "gpd.tee.TAPersistentTime.protectionLevel", .int, false⟩,
  ⟨ascii "gpd.tee.arith.maxBigIntSize", .int, false⟩,
  ⟨ascii "gpd.tee.cryptography.ecc", .bool, false⟩,
  ⟨ascii "gpd.tee.trustedStorage.antiRollback.protectionLevel", .int, false⟩,
  ⟨ascii "gpd.tee.trustedos.implementation.version", .string, false⟩,
  ⟨ascii "gpd.tee.trustedos.implementation.binaryversion", .int, false⟩,
  ⟨ascii "gpd.tee.trustedos.manufacturer", .string, false⟩,
  ⟨ascii "gpd.tee.firmware.implementation.version", .string, false⟩,
  ⟨ascii "gpd.tee.firmware.implementation.binaryversion", .int, false⟩,
  ⟨ascii "gpd.tee.firmware.manufacturer", .string, false⟩,
  ⟨ascii "myprop.true", .bool, false⟩,
  ⟨ascii "myprop.42", .int, false⟩,
  ⟨ascii "myprop.123", .uuid, false⟩,
  ⟨ascii "myprop.1234", .identity, false⟩,
  ⟨ascii "myprop.hello", .string, false⟩,
  ⟨ascii "myprop.binaryblock", .binaryBlock, false⟩]

def helloProperty : List UInt8 :=
  ascii "hello property, larger than 80 characters, so that it checks that it is not " ++
    ascii "truncated by anything in the source code which may be wrong"

inductive PropSet where
  | currentTa | currentClient | teeImplementation
  deriving DecidableEq, Repr

inductive Source where
  | enumerator
  | named (set : PropSet) (name : List UInt8)
  deriving DecidableEq

inductive PropCall where
  | allocate
  | free
  | start (set : PropSet)
  | next
  | name (len : UInt32)
  | asString (source : Source) (len : UInt32)
  | asBool
  | asU32
  | asUuid
  | asIdentity
  | asBinaryBlock (len : UInt32)
  deriving DecidableEq

structure PropReply where
  res : TeeResult
  data : List UInt8
  len : UInt32

abbrev PropApi (σ : Type) := PropCall → σ → PropReply × σ

abbrev Run (σ : Type) := Check σ TeeResult

variable {σ : Type}

def filled (r : PropReply) : Memory UInt8 := copyIn (fun _ => 0) 0 r.data

def cText (m : Memory UInt8) : List UInt8 := (slice m 0 256).takeWhile (· ≠ 0)

def checkReturnedProp (returnRes expectedRes : TeeResult) (returnLen expectedLen : UInt32) :
    TeeResult :=
  if returnRes ≠ expectedRes then teeErrorGeneric
  else if returnLen ≠ expectedLen then teeErrorGeneric
  else teeSuccess

def checked (r : PropReply) (expectedRes : TeeResult) (expectedLen : UInt32) : Run σ Unit :=
  let res := checkReturnedProp r.res expectedRes r.len expectedLen
  require (res = teeSuccess) res

/-- A call of which only the result and the length matter. -/
def probe (api : PropApi σ) (c : PropCall) (expectedRes : TeeResult) (expectedLen : UInt32) :
    Run σ Unit := do
  let r ← act (api c)
  checked r expectedRes expectedLen

def readName (api : PropApi σ) : Run σ (List UInt8) := do
  let r ← act (api (.name 256))
  require (r.res = teeSuccess) r.res
  let nbuf := cText (filled r)
  require (r.len.toNat = nbuf.length + 1) teeErrorGeneric
  probe api (.name 2) teeErrorShortBuffer r.len
  probe api (.name (r.len - 1)) teeErrorShortBuffer r.len
  probe api (.name r.len) teeSuccess r.len
  pure nbuf

def readValue (api : PropApi σ) (propSet : PropSet) (nbuf : List UInt8) : Run σ Unit := do
  let r ← act (api (.asString .enumerator 256))
  let vbuf := cText (filled r)
  checked r teeSuccess (UInt32.ofNat (vbuf.length + 1))
  let r2 ← act (api (.asString (.named propSet nbuf) 256))
  let vbuf2 := cText (filled r2)
  checked r2 teeSuccess (UInt32.ofNat (vbuf2.length + 1))
  require (vbuf = vbuf2) teeErrorGeneric
  probe api (.asString (.named propSet nbuf) 1) teeErrorShortBuffer r.len
  probe api (.asString (.named propSet nbuf) (r.len - 1)) teeErrorShortBuffer r.len
  probe api (.asString (.named propSet nbuf) r.len) teeSuccess r.len
  -- the last call left `vblen2` at `vblen`
  require (¬ (nbuf = ascii "myprop.hello" ∧ r.len.toNat ≠ 1 + helloProperty.length))
    teeErrorGeneric

/-- A typed getter of which only the result matters. -/
def asType (api : PropApi σ) (c : PropCall) : Run σ Unit := do
  let r ← act (api c)
  require (r.res = teeSuccess) r.res

def binaryValue : List UInt8 := ascii "Hello world!"

def retrieve (api : PropApi σ) (nbuf : List UInt8) : PType → Run σ Unit
  | .bool => asType api .asBool
  | .int => asType api .asU32
  | .uuid => asType api .asUuid
  | .identity => asType api .asIdentity
  | .string => pure ()
  | .binaryBlock => do
    let r ← act (api (.asBinaryBlock 80))
    require (r.res = teeSuccess) r.res
    require (¬ (nbuf = ascii "myprop.binaryblock" ∧ (r.len.toNat ≠ binaryValue.length ∨
      binaryValue ≠ slice (filled r) 0 r.len.toNat))) teeErrorGeneric

def markEntry (api : PropApi σ) (nbuf : List UInt8) (a : PAttr) : Run σ PAttr :=
  if nbuf ≠ a.str then pure a
  else do
    require (a.retrieved = false) teeErrorGeneric
    retrieve api nbuf a.type
    pure { a with retrieved := true }

def markRetrieved (api : PropApi σ) (nbuf : List UInt8) : List PAttr → Run σ (List PAttr)
  | [] => pure []
  | a :: rest => do
    let a ← markEntry api nbuf a
    let rest ← markRetrieved api nbuf rest
    pure (a :: rest)

/-- The loop of `print_properties`; no result when `fuel` rounds are not enough. -/
def printLoop (api : PropApi σ) (propSet : PropSet) : ℕ → List PAttr → Run σ (List PAttr)
  | 0, _ => fun _ => none
  | fuel + 1, attrs => do
    let nbuf ← readName api
    readValue api propSet nbuf
    let attrs ← markRetrieved api nbuf attrs
    let r ← act (api .next)
    if r.res = teeSuccess then printLoop api propSet fuel attrs
    else if r.res = teeErrorItemNotFound then pure attrs
    else throw r.res

def printProperties (api : PropApi σ) (propSet : PropSet) (fuel : ℕ) (attrs : List PAttr) :
    Run σ (List PAttr) := do
  let _ ← act (api (.start propSet))
  printLoop api propSet fuel attrs

def testSets (api : PropApi σ) (fuel : ℕ) : Run σ Unit := do
  let attrs ← printProperties api .currentTa fuel pAttrs
  let attrs ← printProperties api .currentClient fuel attrs
  let attrs ← printProperties api .teeImplementation fuel attrs
  require (∀ a ∈ attrs, a.retrieved = true) teeErrorGeneric

def testProperties (api : PropApi σ) (fuel : ℕ) : StateT σ Option TeeResult := do
  let r ← (fun s => some (api .allocate s) : StateT σ Option PropReply)
  if r.res ≠ teeSuccess then pure teeErrorGeneric
  else
    let out ← (testSets api fuel).run
    let _ ← (fun s => some (api .free s) : StateT σ Option PropReply)
    match out with
    | .ok () => pure teeSuccess
    | .error res => pure res

end OsTestProperties
