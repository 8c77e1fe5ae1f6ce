import OpteeTest.HandleDatabase
import Mathlib.Data.Fin.VecNotation
import Mathlib.Data.List.OfFn
import Mathlib.Logic.Function.Basic

/-! # The arithmetic commands of the crypt TA

Every handler of the command table over a heap of live objects. The `TEE_BigInt*` library
is a parameter; a log records what the commands issue, use and free. -/
namespace ArithTaf

open TeeApi HandleDatabase

inductive HandleType where
  | bigint
  | fmmctx
  | fmmvar
  deriving DecidableEq, Repr

def HandleType.tag : HandleType → UInt32
  | .bigint => (1 : UInt32) <<< 31
  | .fmmctx => (1 : UInt32) <<< 30
  | .fmmvar => (1 : UInt32) <<< 29

def htMask : UInt32 := HandleType.bigint.tag ||| HandleType.fmmctx.tag ||| HandleType.fmmvar.tag

def taCryptArithInvalidHandle : UInt32 := 0xffffffff

abbrev Heap (β : Type*) := ℕ → Option β

/-- The functions of the arithmetical API on the heap and the addresses they are given. The
new contents of its destinations stand for the effect of each. -/
structure BigIntApi (β : Type*) where
  fmmSizeInU32 : UInt32 → UInt32
  fmmContextSizeInU32 : UInt32 → UInt32
  init (len : UInt32) : β
  initFmmContext (heap : Heap β) (len : UInt32) (modulus : ℕ) : β
  initFmm (len : UInt32) : β
  convertFromOctetString (heap : Heap β) (dest : ℕ) (buffer : TeeMemref) (sign : Int32) :
    TeeResult × β
  convertToOctetString (heap : Heap β) (buffer : TeeMemref) (bigInt : ℕ) : TeeResult × TeeMemref
  convertFromS32 (heap : Heap β) (dest : ℕ) (shortVal : Int32) : β
  convertToS32 (heap : Heap β) (src : ℕ) : TeeResult × Int32
  cmp (heap : Heap β) (op1 op2 : ℕ) : Int32
  cmpS32 (heap : Heap β) (op : ℕ) (shortVal : Int32) : Int32
  shiftRight (heap : Heap β) (dest op : ℕ) (bits : UInt32) : β
  getBit (heap : Heap β) (src : ℕ) (bitIndex : UInt32) : Bool
  getBitCount (heap : Heap β) (src : ℕ) : UInt32
  add (heap : Heap β) (dest op1 op2 : ℕ) : β
  sub (heap : Heap β) (dest op1 op2 : ℕ) : β
  neg (heap : Heap β) (dest op : ℕ) : β
  mul (heap : Heap β) (dest op1 op2 : ℕ) : β
  square (heap : Heap β) (dest op : ℕ) : β
  div (heap : Heap β) (destQ destR op1 op2 : ℕ) : β × β
  mod (heap : Heap β) (dest op n : ℕ) : β
  addMod (heap : Heap β) (dest op1 op2 n : ℕ) : β
  subMod (heap : Heap β) (dest op1 op2 n : ℕ) : β
  mulMod (heap : Heap β) (dest op1 op2 n : ℕ) : β
  squareMod (heap : Heap β) (dest op n : ℕ) : β
  invMod (heap : Heap β) (dest op n : ℕ) : β
  relativePrime (heap : Heap β) (op1 op2 : ℕ) : Bool
  computeExtendedGcd (heap : Heap β) (gcd : ℕ) (u v : Option ℕ) (op1 op2 : ℕ) : β × β × β
  isProbablePrime (heap : Heap β) (op : ℕ) (confidenceLevel : UInt32) : Int32
  convertToFmm (heap : Heap β) (dest src n ctx : ℕ) : β
  convertFromFmm (heap : Heap β) (dest src n ctx : ℕ) : β
  computeFmm (heap : Heap β) (dest op1 op2 n ctx : ℕ) : β

def teeBigIntSizeInU32 (n : UInt32) : UInt32 := (n + 31) / 32 + 2

/-- A `new` command issued `word` for the object at `ptr`, a command used the object at
`ptr` that it found under `word`, or the object at `ptr` was freed. -/
inductive Event where
  | issued (type : HandleType) (word : UInt32) (ptr : ℕ)
  | used (type : HandleType) (word : UInt32) (ptr : ℕ)
  | freed (ptr : ℕ)
  deriving DecidableEq, Repr

/-- The static database, the heap, and the events so far, the newest first. -/
structure ArithState (β : Type*) where
  hdb : HandleDb ℕ
  heap : Heap β
  log : List Event

structure Outcome (β : Type*) where
  res : TeeResult
  params : TeeParams
  state : ArithState β

/-- What the allocator answers during one command: to `TEE_Malloc`, by the size asked for,
an address and the contents found there, and to the `TEE_Realloc` of the table. -/
structure Allocator (β : Type*) where
  malloc : UInt32 → Option (ℕ × β)
  realloc : Option (ℕ → Option ℕ)

structure Operand where
  type : HandleType
  word : UInt32
  deriving DecidableEq, Repr

variable {β : Type*}

def ArithState.record (s : ArithState β) (es : List Event) : ArithState β :=
  { s with log := es ++ s.log }

def ArithState.store (s : ArithState β) (ptr : ℕ) (x : β) : ArithState β :=
  { s with heap := Function.update s.heap ptr (some x) }

/-- A store through an optional destination, nothing for NULL. -/
def ArithState.storeOpt (s : ArithState β) (ptr : Option ℕ) (x : β) : ArithState β :=
  match ptr with
  | none => s
  | some p => s.store p x

def setValueA (params : TeeParams) (i : Fin 4) (a : UInt32) : TeeParams :=
  Function.update params i
    { params i with value := { (params i).value with a := a } }

/-- `TEE_Malloc`. An answer that names a live block is no answer of an allocator and counts
as a refusal. -/
def teeMalloc (env : Allocator β) (bytes : UInt32) (s : ArithState β) :
    Option ℕ × ArithState β :=
  match (env.malloc bytes).filter fun b => (s.heap b.1).isNone with
  | none => (none, s)
  | some (p, fresh) => (some p, s.store p fresh)

def teeFree (ptr : Option ℕ) (s : ArithState β) : ArithState β :=
  match ptr with
  | none => s
  | some p => { s with heap := Function.update s.heap p none }.record [.freed p]

def lookupHandle (s : ArithState β) (type : HandleType) (handle : UInt32) : Option ℕ :=
  if handle &&& htMask = type.tag then handleLookup s.hdb (toInt (handle &&& ~~~htMask).toNat)
  else none

/-- `get_handle`: the handle word, or `none` where the function returns false. -/
def getHandle (A : Arch) (type : HandleType) (ptr : Option ℕ) (realloc : Option (ℕ → Option ℕ))
    (s : ArithState β) : Option UInt32 × ArithState β :=
  let h := handleGet A s.hdb ptr realloc
  (if h.1 < 0 then none else some (UInt32.ofNat h.1.toNat ||| type.tag), { s with hdb := h.2 })

def putHandle (handle : UInt32) (s : ArithState β) : Option ℕ × ArithState β :=
  let ptr := handlePut s.hdb (toInt (handle &&& ~~~htMask).toNat)
  (ptr.1, { s with hdb := ptr.2 })

def checkPt (t₀ t₁ t₂ t₃ : ParamType) (paramTypes : UInt32) (params : TeeParams)
    (s : ArithState β) (body : Outcome β) : Outcome β :=
  if paramTypes ≠ teeParamTypes t₀ t₁ t₂ t₃ then ⟨teeErrorBadParameters, params, s⟩ else body

/-- Looks up every operand; NULL when one of them is NULL. -/
def lookups (s : ArithState β) {n : ℕ} (ops : Fin n → Operand) : Option (Fin n → ℕ) :=
  if h : ∀ i, (lookupHandle s (ops i).type (ops i).word).isSome then
    some fun i => (lookupHandle s (ops i).type (ops i).word).get (h i)
  else none

def usesOf {n : ℕ} (ops : Fin n → Operand) (p : Fin n → ℕ) : List Event :=
  List.ofFn fun i => .used (ops i).type (ops i).word (p i)

/-- The common beginning of the handlers: every operand is looked up, a NULL ends the
command, and otherwise `body` uses the objects found. -/
def withObjects {n : ℕ} (ops : Fin n → Operand) (params : TeeParams) (s : ArithState β)
    (body : (Fin n → ℕ) → ArithState β → Outcome β) : Outcome β :=
  match lookups s ops with
  | none => ⟨teeErrorBadParameters, params, s⟩
  | some p => body p (s.record (usesOf ops p))

variable (api : BigIntApi β) (A : Arch) (env : Allocator β)
variable (paramTypes : UInt32) (params : TeeParams) (s : ArithState β)

/-- The end of the `new` commands: `get_handle`, then the initialisation of the object or,
when no handle was to be had, `TEE_Free`. -/
def publish (type : HandleType) (ptr : Option ℕ)
    (init : ℕ → ArithState β → ArithState β) : Outcome β :=
  match getHandle A type ptr env.realloc s, ptr with
  | (some handle, s), some p =>
    ⟨teeSuccess, setValueA params 1 handle, init p (s.record [.issued type handle p])⟩
  | (_, s), _ => ⟨teeErrorOutOfMemory, params, teeFree ptr s⟩

def newObject (type : HandleType) (len : UInt32) (init : β) : Outcome β :=
  match teeMalloc env (len * 4) s with
  | (none, s) => ⟨teeErrorOutOfMemory, params, s⟩
  | (some p, s) => publish A env params s type (some p) fun p s => s.store p init

def taEntryArithNewVar : Outcome β :=
  checkPt .valueInput .valueOutput .none .none paramTypes params s <|
    let len := teeBigIntSizeInU32 (params 0).value.a
    newObject A env params s .bigint len (api.init len)

/-- The only `new` command that leaves the NULL of a failed `TEE_Malloc` to `get_handle`. -/
def taEntryArithNewFmmCtx : Outcome β :=
  checkPt .valueInput .valueOutput .none .none paramTypes params s <|
    match lookupHandle s .bigint (params 0).value.b with
    | none => ⟨teeErrorBadParameters, params, s⟩
    | some modulus =>
      let len := api.fmmContextSizeInU32 (params 0).value.a
      let (ctx, s) := teeMalloc env (len * 4) s
      publish A env params s .fmmctx ctx fun p s =>
        (s.record [.used .bigint (params 0).value.b modulus]).store p
          (api.initFmmContext s.heap len modulus)

def taEntryArithNewFmmVar : Outcome β :=
  checkPt .valueInput .valueOutput .none .none paramTypes params s <|
    let len := api.fmmSizeInU32 (params 0).value.a
    newObject A env params s .fmmvar len (api.initFmm len)

def taEntryArithFreeHandle : Outcome β :=
  checkPt .valueInput .none .none .none paramTypes params s <|
    match putHandle ((params 0).value.a &&& ~~~htMask) s with
    | (none, s) => ⟨teeErrorBadParameters, params, s⟩
    | (some ptr, s) => ⟨teeSuccess, params, teeFree (some ptr) s⟩

def taEntryArithFromOctetString : Outcome β :=
  checkPt .valueInput .memrefInput .none .none paramTypes params s <|
    withObjects ![⟨.bigint, (params 0).value.a⟩] params s fun p s =>
      let (res, x) := api.convertFromOctetString s.heap (p 0) (params 1).memref
        (params 0).value.b.toInt32
      ⟨res, params, s.store (p 0) x⟩

def taEntryArithFromS32 : Outcome β :=
  checkPt .valueInput .none .none .none paramTypes params s <|
    withObjects ![⟨.bigint, (params 0).value.a⟩] params s fun p s =>
      ⟨teeSuccess, params,
        s.store (p 0) (api.convertFromS32 s.heap (p 0) (params 0).value.b.toInt32)⟩

def taEntryArithGetValue : Outcome β :=
  checkPt .valueInput .valueOutput .memrefOutput .none paramTypes params s <|
    withObjects ![⟨.bigint, (params 0).value.a⟩] params s fun p s =>
      let params := setValueA params 1 (if api.cmpS32 s.heap (p 0) 0 < 0 then -1 else 1)
      let (res, memref) := api.convertToOctetString s.heap (params 2).memref (p 0)
      ⟨res, Function.update params 2 { params 2 with memref := memref }, s⟩

def taEntryArithGetValueS32 : Outcome β :=
  checkPt .valueInput .valueOutput .none .none paramTypes params s <|
    withObjects ![⟨.bigint, (params 0).value.a⟩] params s fun p s =>
      let (res, v) := api.convertToS32 s.heap (p 0)
      ⟨res, if res = teeSuccess then setValueA params 1 v.toUInt32 else params, s⟩

/-- The commands that compute a number from big integers into `params[1].value.a`. -/
def query {n : ℕ} (ops : Fin n → Operand) (func : Heap β → (Fin n → ℕ) → UInt32) : Outcome β :=
  checkPt .valueInput .valueOutput .none .none paramTypes params s <|
    withObjects ops params s fun p s => ⟨teeSuccess, setValueA params 1 (func s.heap p), s⟩

def taEntryArithGetBit : Outcome β :=
  query paramTypes params s ![⟨.bigint, (params 0).value.a⟩] fun heap p =>
    (api.getBit heap (p 0) (params 0).value.b).toUInt32

def taEntryArithGetBitCount : Outcome β :=
  query paramTypes params s ![⟨.bigint, (params 0).value.a⟩] fun heap p =>
    api.getBitCount heap (p 0)

def taEntryArithCmp : Outcome β :=
  query paramTypes params s ![⟨.bigint, (params 0).value.a⟩, ⟨.bigint, (params 0).value.b⟩]
    fun heap p => (api.cmp heap (p 0) (p 1)).toUInt32

def taEntryArithCmpS32 : Outcome β :=
  query paramTypes params s ![⟨.bigint, (params 0).value.a⟩] fun heap p =>
    (api.cmpS32 heap (p 0) (params 0).value.b.toInt32).toUInt32

def taEntryArithIsRelPrime : Outcome β :=
  query paramTypes params s ![⟨.bigint, (params 0).value.a⟩, ⟨.bigint, (params 0).value.b⟩]
    fun heap p => (api.relativePrime heap (p 0) (p 1)).toUInt32

def taEntryArithIsPrime : Outcome β :=
  query paramTypes params s ![⟨.bigint, (params 0).value.a⟩] fun heap p =>
    (api.isProbablePrime heap (p 0) (params 0).value.b).toUInt32

def taEntryArithShiftRight : Outcome β :=
  checkPt .valueInput .valueInput .none .none paramTypes params s <|
    withObjects ![⟨.bigint, (params 0).value.a⟩, ⟨.bigint, (params 1).value.a⟩] params s
      fun p s => ⟨teeSuccess, params,
        s.store (p 1) (api.shiftRight s.heap (p 1) (p 0) (params 0).value.b)⟩

def ternaryFunc (func : Heap β → ℕ → ℕ → ℕ → ℕ → β) : Outcome β :=
  checkPt .valueInput .valueInput .none .none paramTypes params s <|
    withObjects ![⟨.bigint, (params 0).value.a⟩, ⟨.bigint, (params 0).value.b⟩,
      ⟨.bigint, (params 1).value.a⟩, ⟨.bigint, (params 1).value.b⟩] params s fun p s =>
      ⟨teeSuccess, params, s.store (p 3) (func s.heap (p 3) (p 0) (p 1) (p 2))⟩

def binaryFunc (func : Heap β → ℕ → ℕ → ℕ → β) : Outcome β :=
  checkPt .valueInput .valueInput .none .none paramTypes params s <|
    withObjects ![⟨.bigint, (params 0).value.a⟩, ⟨.bigint, (params 0).value.b⟩,
      ⟨.bigint, (params 1).value.a⟩] params s fun p s =>
      ⟨teeSuccess, params, s.store (p 2) (func s.heap (p 2) (p 0) (p 1))⟩

def unaryFunc (func : Heap β → ℕ → ℕ → β) : Outcome β :=
  checkPt .valueInput .none .none .none paramTypes params s <|
    withObjects ![⟨.bigint, (params 0).value.a⟩, ⟨.bigint, (params 0).value.b⟩] params s
      fun p s => ⟨teeSuccess, params, s.store (p 1) (func s.heap (p 1) (p 0))⟩

def taEntryArithAdd : Outcome β := binaryFunc paramTypes params s api.add

def taEntryArithSub : Outcome β := binaryFunc paramTypes params s api.sub

def taEntryArithMul : Outcome β := binaryFunc paramTypes params s api.mul

def taEntryArithNeg : Outcome β := unaryFunc paramTypes params s api.neg

def taEntryArithSqr : Outcome β := unaryFunc paramTypes params s api.square

def taEntryArithDiv : Outcome β :=
  checkPt .valueInput .valueInput .none .none paramTypes params s <|
    withObjects ![⟨.bigint, (params 0).value.a⟩, ⟨.bigint, (params 0).value.b⟩,
      ⟨.bigint, (params 1).value.a⟩, ⟨.bigint, (params 1).value.b⟩] params s fun p s =>
      let (q, r) := api.div s.heap (p 2) (p 3) (p 0) (p 1)
      ⟨teeSuccess, params, (s.store (p 2) q).store (p 3) r⟩

def taEntryArithMod : Outcome β := binaryFunc paramTypes params s api.mod

def taEntryArithAddmod : Outcome β := ternaryFunc paramTypes params s api.addMod

def taEntryArithSubmod : Outcome β := ternaryFunc paramTypes params s api.subMod

def taEntryArithMulmod : Outcome β := ternaryFunc paramTypes params s api.mulMod

def taEntryArithSqrmod : Outcome β := binaryFunc paramTypes params s api.squareMod

def taEntryArithInvmod : Outcome β := binaryFunc paramTypes params s api.invMod

/-- An optional operand: NULL for the invalid handle, else a big integer; `none` when that
is not found. -/
def optionalLookup (s : ArithState β) (word : UInt32) : Option (Option ℕ) :=
  if word ≠ taCryptArithInvalidHandle then (lookupHandle s .bigint word).map some else some none

def usesOpt (word : UInt32) : Option ℕ → List Event
  | none => []
  | some p => [.used .bigint word p]

def taEntryArithComputeEgcd : Outcome β :=
  checkPt .valueInput .valueInput .valueInput .none paramTypes params s <|
    let ops := ![⟨.bigint, (params 0).value.a⟩, ⟨.bigint, (params 0).value.b⟩,
      ⟨.bigint, (params 2).value.a⟩]
    match lookups s ops, optionalLookup s (params 1).value.a,
      optionalLookup s (params 1).value.b with
    | some p, some u, some v =>
      let s := s.record
        (usesOf ops p ++ usesOpt (params 1).value.a u ++ usesOpt (params 1).value.b v)
      let (gcd, x, y) := api.computeExtendedGcd s.heap (p 2) u v (p 0) (p 1)
      ⟨teeSuccess, params, ((s.store (p 2) gcd).storeOpt u x).storeOpt v y⟩
    | _, _, _ => ⟨teeErrorBadParameters, params, s⟩

def taEntryArithToFmm : Outcome β :=
  checkPt .valueInput .valueInput .none .none paramTypes params s <|
    withObjects ![⟨.bigint, (params 0).value.a⟩, ⟨.bigint, (params 0).value.b⟩,
      ⟨.fmmctx, (params 1).value.a⟩, ⟨.fmmvar, (params 1).value.b⟩] params s fun p s =>
      ⟨teeSuccess, params, s.store (p 3) (api.convertToFmm s.heap (p 3) (p 0) (p 1) (p 2))⟩

def taEntryArithFromFmm : Outcome β :=
  checkPt .valueInput .valueInput .none .none paramTypes params s <|
    withObjects ![⟨.fmmvar, (params 0).value.a⟩, ⟨.bigint, (params 0).value.b⟩,
      ⟨.fmmctx, (params 1).value.a⟩, ⟨.bigint, (params 1).value.b⟩] params s fun p s =>
      ⟨teeSuccess, params, s.store (p 3) (api.convertFromFmm s.heap (p 3) (p 0) (p 1) (p 2))⟩

def taEntryArithComputeFmm : Outcome β :=
  checkPt .valueInput .valueInput .valueInput .none paramTypes params s <|
    withObjects ![⟨.fmmvar, (params 0).value.a⟩, ⟨.fmmvar, (params 0).value.b⟩,
      ⟨.bigint, (params 1).value.a⟩, ⟨.fmmctx, (params 1).value.b⟩,
      ⟨.fmmvar, (params 2).value.a⟩] params s fun p s =>
      ⟨teeSuccess, params,
        s.store (p 4) (api.computeFmm s.heap (p 4) (p 0) (p 1) (p 2) (p 3))⟩

inductive ArithCmd where
  | newVar
  | newFmmCtx
  | newFmmVar
  | freeHandle
  | fromOctetString
  | fromS32
  | getValue
  | getValueS32
  | getBit
  | getBitCount
  | shiftRight
  | cmp
  | cmpS32
  | add
  | sub
  | mul
  | neg
  | sqr
  | div
  | mod
  | addmod
  | submod
  | mulmod
  | sqrmod
  | invmod
  | isRelativePrime
  | computeEgcd
  | isPrime
  | toFmm
  | fromFmm
  | computeFmm
  deriving DecidableEq, Repr

/-- One invocation, with the parameters of the client and the answers of the allocator. -/
structure Request (β : Type*) where
  cmd : ArithCmd
  paramTypes : UInt32
  params : TeeParams
  env : Allocator β

def invokeCommand (s : ArithState β) (r : Request β) : Outcome β :=
  match r.cmd with
  | .newVar => taEntryArithNewVar api A r.env r.paramTypes r.params s
  | .newFmmCtx => taEntryArithNewFmmCtx api A r.env r.paramTypes r.params s
  | .newFmmVar => taEntryArithNewFmmVar api A r.env r.paramTypes r.params s
  | .freeHandle => taEntryArithFreeHandle r.paramTypes r.params s
  | .fromOctetString => taEntryArithFromOctetString api r.paramTypes r.params s
  | .fromS32 => taEntryArithFromS32 api r.paramTypes r.params s
  | .getValue => taEntryArithGetValue api r.paramTypes r.params s
  | .getValueS32 => taEntryArithGetValueS32 api r.paramTypes r.params s
  | .getBit => taEntryArithGetBit api r.paramTypes r.params s
  | .getBitCount => taEntryArithGetBitCount api r.paramTypes r.params s
  | .shiftRight => taEntryArithShiftRight api r.paramTypes r.params s
  | .cmp => taEntryArithCmp api r.paramTypes r.params s
  | .cmpS32 => taEntryArithCmpS32 api r.paramTypes r.params s
  | .add => taEntryArithAdd api r.paramTypes r.params s
  | .sub => taEntryArithSub api r.paramTypes r.params s
  | .mul => taEntryArithMul api r.paramTypes r.params s
  | .neg => taEntryArithNeg api r.paramTypes r.params s
  | .sqr => taEntryArithSqr api r.paramTypes r.params s
  | .div => taEntryArithDiv api r.paramTypes r.params s
  | .mod => taEntryArithMod api r.paramTypes r.params s
  | .addmod => taEntryArithAddmod api r.paramTypes r.params s
  | .submod => taEntryArithSubmod api r.paramTypes r.params s
  | .mulmod => taEntryArithMulmod api r.paramTypes r.params s
  | .sqrmod => taEntryArithSqrmod api r.paramTypes r.params s
  | .invmod => taEntryArithInvmod api r.paramTypes r.params s
  | .isRelativePrime => taEntryArithIsRelPrime api r.paramTypes r.params s
  | .computeEgcd => taEntryArithComputeEgcd api r.paramTypes r.params s
  | .isPrime => taEntryArithIsPrime api r.paramTypes r.params s
  | .toFmm => taEntryArithToFmm api r.paramTypes r.params s
  | .fromFmm => taEntryArithFromFmm api r.paramTypes r.params s
  | .computeFmm => taEntryArithComputeFmm api r.paramTypes r.params s

end ArithTaf
