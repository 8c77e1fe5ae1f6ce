import OpteeTest.HandleWords
import OpteeTest.BlockHeap
import Mathlib.Order.Lattice.Nat

/-! # The arithmetic commands on objects by index

What the commands are for: a store of numbers under the index in their words, without addresses,
table or allocator. A new object gets the least free index. -/
namespace ArithObjects

open TeeApi ArithTaf HandleWords Relocation

variable {β : Type*}

abbrev Objects (β : Type*) := ℕ → Option β

structure Order where
  cmd : ArithCmd
  paramTypes : UInt32
  params : TeeParams
  granted : Bool

structure Answer (β : Type*) where
  res : TeeResult
  params : TeeParams
  objects : Objects β

/-- The word has the tag of the wanted type, and there is an object under its index. -/
def Found (objects : Objects β) (o : Operand) : Prop :=
  o.word &&& htMask = o.type.tag ∧ (objects (index o.word)).isSome

instance (objects : Objects β) (o : Operand) : Decidable (Found objects o) :=
  inferInstanceAs (Decidable (_ ∧ _))

section

-- The numbers of operands.
local instance oneOf : NeZero 1 := ⟨by decide⟩

local instance twoOf : NeZero 2 := ⟨by decide⟩

local instance threeOf : NeZero 3 := ⟨by decide⟩

local instance fiveOf : NeZero 5 := ⟨by decide⟩

variable (o : Order) (objects : Objects β)

def refuse : Answer β := ⟨teeErrorBadParameters, o.params, objects⟩

def checked (t₀ t₁ t₂ t₃ : ParamType) (body : Answer β) : Answer β :=
  if o.paramTypes ≠ teeParamTypes t₀ t₁ t₂ t₃ then refuse o objects else body

def withFound {n : ℕ} (ops : Fin n → Operand) (body : (Fin n → ℕ) → Answer β) : Answer β :=
  if ∀ i, Found objects (ops i) then body fun i => index (ops i).word else refuse o objects

noncomputable def createObject (type : HandleType) (x : β) : Answer β :=
  if o.granted then
    let i := sInf {i | objects i = none}
    ⟨teeSuccess, setValueA o.params 1 (wordOf type i), Function.update objects i (some x)⟩
  else ⟨teeErrorOutOfMemory, o.params, objects⟩

def freeObject : Answer β :=
  checked o objects .valueInput .none .none .none <|
    if (objects (index (o.params 0).value.a)).isSome then
      ⟨teeSuccess, o.params, Function.update objects (index (o.params 0).value.a) none⟩
    else refuse o objects

def ask {n : ℕ} (ops : Fin n → Operand) (func : Objects β → (Fin n → ℕ) → UInt32) : Answer β :=
  checked o objects .valueInput .valueOutput .none .none <|
    withFound o objects ops fun p =>
      ⟨teeSuccess, setValueA o.params 1 (func objects p), objects⟩

def assign {n : ℕ} (t₁ t₂ : ParamType) (ops : Fin n → Operand) (dest : Fin n)
    (func : Objects β → (Fin n → ℕ) → β) : Answer β :=
  checked o objects .valueInput t₁ t₂ .none <|
    withFound o objects ops fun p =>
      ⟨teeSuccess, o.params, Function.update objects (p dest) (some (func objects p))⟩

def oneOperand : Fin 1 → Operand := ![⟨.bigint, (o.params 0).value.a⟩]

def twoOperands : Fin 2 → Operand :=
  ![⟨.bigint, (o.params 0).value.a⟩, ⟨.bigint, (o.params 0).value.b⟩]

def threeOperands : Fin 3 → Operand :=
  ![⟨.bigint, (o.params 0).value.a⟩, ⟨.bigint, (o.params 0).value.b⟩,
    ⟨.bigint, (o.params 1).value.a⟩]

def fourOperands : Fin 4 → Operand :=
  ![⟨.bigint, (o.params 0).value.a⟩, ⟨.bigint, (o.params 0).value.b⟩,
    ⟨.bigint, (o.params 1).value.a⟩, ⟨.bigint, (o.params 1).value.b⟩]

def binary (func : Objects β → ℕ → ℕ → ℕ → β) : Answer β :=
  assign o objects .valueInput .none (threeOperands o) 2 fun h p => func h (p 2) (p 0) (p 1)

def ternary (func : Objects β → ℕ → ℕ → ℕ → ℕ → β) : Answer β :=
  assign o objects .valueInput .none (fourOperands o) 3 fun h p => func h (p 3) (p 0) (p 1) (p 2)

def unary (func : Objects β → ℕ → ℕ → β) : Answer β :=
  assign o objects .none .none (twoOperands o) 1 fun h p => func h (p 1) (p 0)

def optionalIndex (word : UInt32) : Option (Option ℕ) :=
  if word = taCryptArithInvalidHandle then some none
  else if Found objects ⟨.bigint, word⟩ then some (some (index word)) else none

def assignOptional (objects : Objects β) (i : Option ℕ) (x : β) : Objects β :=
  match i with
  | none => objects
  | some i => Function.update objects i (some x)

variable (api : BigIntApi β)

def computeEgcd : Answer β :=
  checked o objects .valueInput .valueInput .valueInput .none <|
    withFound o objects ![⟨.bigint, (o.params 0).value.a⟩, ⟨.bigint, (o.params 0).value.b⟩,
        ⟨.bigint, (o.params 2).value.a⟩] fun p =>
      match optionalIndex objects (o.params 1).value.a,
        optionalIndex objects (o.params 1).value.b with
      | some u, some v =>
        let (gcd, x, y) := api.computeExtendedGcd objects (p 2) u v (p 0) (p 1)
        ⟨teeSuccess, o.params, assignOptional
          (assignOptional (Function.update objects (p 2) (some gcd)) u x) v y⟩
      | _, _ => refuse o objects

noncomputable def perform : Answer β :=
  match o.cmd with
  | .newVar => checked o objects .valueInput .valueOutput .none .none <|
      createObject o objects .bigint (api.init (teeBigIntSizeInU32 (o.params 0).value.a))
  | .newFmmCtx => checked o objects .valueInput .valueOutput .none .none <|
      withFound o objects ![⟨.bigint, (o.params 0).value.b⟩] fun p =>
        createObject o objects .fmmctx
          (api.initFmmContext objects (api.fmmContextSizeInU32 (o.params 0).value.a) (p 0))
  | .newFmmVar => checked o objects .valueInput .valueOutput .none .none <|
      createObject o objects .fmmvar (api.initFmm (api.fmmSizeInU32 (o.params 0).value.a))
  | .freeHandle => freeObject o objects
  | .fromOctetString => checked o objects .valueInput .memrefInput .none .none <|
      withFound o objects (oneOperand o) fun p =>
        let (res, x) := api.convertFromOctetString objects (p 0) (o.params 1).memref
          (o.params 0).value.b.toInt32
        ⟨res, o.params, Function.update objects (p 0) (some x)⟩
  | .fromS32 => assign o objects .none .none (oneOperand o) 0 fun h p =>
      api.convertFromS32 h (p 0) (o.params 0).value.b.toInt32
  | .getValue => checked o objects .valueInput .valueOutput .memrefOutput .none <|
      withFound o objects (oneOperand o) fun p =>
        let params := setValueA o.params 1 (if api.cmpS32 objects (p 0) 0 < 0 then -1 else 1)
        let (res, memref) := api.convertToOctetString objects (params 2).memref (p 0)
        ⟨res, Function.update params 2 { params 2 with memref := memref }, objects⟩
  | .getValueS32 => checked o objects .valueInput .valueOutput .none .none <|
      withFound o objects (oneOperand o) fun p =>
        let (res, v) := api.convertToS32 objects (p 0)
        ⟨res, if res = teeSuccess then setValueA o.params 1 v.toUInt32 else o.params, objects⟩
  | .getBit => ask o objects (oneOperand o) fun h p =>
      (api.getBit h (p 0) (o.params 0).value.b).toUInt32
  | .getBitCount => ask o objects (oneOperand o) fun h p => api.getBitCount h (p 0)
  | .shiftRight => assign o objects .valueInput .none
      ![⟨.bigint, (o.params 0).value.a⟩, ⟨.bigint, (o.params 1).value.a⟩] 1
      fun h p => api.shiftRight h (p 1) (p 0) (o.params 0).value.b
  | .cmp => ask o objects (twoOperands o) fun h p => (api.cmp h (p 0) (p 1)).toUInt32
  | .cmpS32 => ask o objects (oneOperand o) fun h p =>
      (api.cmpS32 h (p 0) (o.params 0).value.b.toInt32).toUInt32
  | .add => binary o objects api.add
  | .sub => binary o objects api.sub
  | .mul => binary o objects api.mul
  | .neg => unary o objects api.neg
  | .sqr => unary o objects api.square
  | .div => checked o objects .valueInput .valueInput .none .none <|
      withFound o objects (fourOperands o) fun p =>
        let (q, r) := api.div objects (p 2) (p 3) (p 0) (p 1)
        ⟨teeSuccess, o.params,
          Function.update (Function.update objects (p 2) (some q)) (p 3) (some r)⟩
  | .mod => binary o objects api.mod
  | .addmod => ternary o objects api.addMod
  | .submod => ternary o objects api.subMod
  | .mulmod => ternary o objects api.mulMod
  | .sqrmod => binary o objects api.squareMod
  | .invmod => binary o objects api.invMod
  | .isRelativePrime => ask o objects (twoOperands o) fun h p =>
      (api.relativePrime h (p 0) (p 1)).toUInt32
  | .computeEgcd => computeEgcd o objects api
  | .isPrime => ask o objects (oneOperand o) fun h p =>
      (api.isProbablePrime h (p 0) (o.params 0).value.b).toUInt32
  | .toFmm => assign o objects .valueInput .none ![⟨.bigint, (o.params 0).value.a⟩,
      ⟨.bigint, (o.params 0).value.b⟩, ⟨.fmmctx, (o.params 1).value.a⟩,
      ⟨.fmmvar, (o.params 1).value.b⟩] 3 fun h p => api.convertToFmm h (p 3) (p 0) (p 1) (p 2)
  | .fromFmm => assign o objects .valueInput .none ![⟨.fmmvar, (o.params 0).value.a⟩,
      ⟨.bigint, (o.params 0).value.b⟩, ⟨.fmmctx, (o.params 1).value.a⟩,
      ⟨.bigint, (o.params 1).value.b⟩] 3 fun h p => api.convertFromFmm h (p 3) (p 0) (p 1) (p 2)
  | .computeFmm => assign o objects .valueInput .valueInput ![⟨.fmmvar, (o.params 0).value.a⟩,
      ⟨.fmmvar, (o.params 0).value.b⟩, ⟨.bigint, (o.params 1).value.a⟩,
      ⟨.fmmctx, (o.params 1).value.b⟩, ⟨.fmmvar, (o.params 2).value.a⟩] 4
      fun h p => api.computeFmm h (p 4) (p 0) (p 1) (p 2) (p 3)

end

noncomputable def answers (api : BigIntApi β) (objects : Objects β) :
    List Order → List (TeeResult × TeeParams)
  | [] => []
  | o :: os =>
    let ans := perform o objects api
    (ans.res, ans.params) :: answers api ans.objects os

noncomputable def remaining (api : BigIntApi β) (objects : Objects β) : List Order → Objects β
  | [] => objects
  | o :: os => remaining api (perform o objects api).objects os

/-- The library follows the addresses it is given, and only those. -/
structure BlindApi (api : BigIntApi β) : Prop where
  initFmmContext : ∀ len, Blind fun h (p : Fin 1 → ℕ) => api.initFmmContext h len (p 0)
  convertFromOctetString : ∀ buffer sign, Blind fun h (p : Fin 1 → ℕ) =>
    api.convertFromOctetString h (p 0) buffer sign
  convertToOctetString : ∀ buffer, Blind fun h (p : Fin 1 → ℕ) =>
    api.convertToOctetString h buffer (p 0)
  convertFromS32 : ∀ v, Blind fun h (p : Fin 1 → ℕ) => api.convertFromS32 h (p 0) v
  convertToS32 : Blind fun h (p : Fin 1 → ℕ) => api.convertToS32 h (p 0)
  cmp : Blind fun h (p : Fin 2 → ℕ) => api.cmp h (p 0) (p 1)
  cmpS32 : ∀ v, Blind fun h (p : Fin 1 → ℕ) => api.cmpS32 h (p 0) v
  shiftRight : ∀ bits, Blind fun h (p : Fin 2 → ℕ) => api.shiftRight h (p 0) (p 1) bits
  getBit : ∀ i, Blind fun h (p : Fin 1 → ℕ) => api.getBit h (p 0) i
  getBitCount : Blind fun h (p : Fin 1 → ℕ) => api.getBitCount h (p 0)
  add : Blind fun h (p : Fin 3 → ℕ) => api.add h (p 0) (p 1) (p 2)
  sub : Blind fun h (p : Fin 3 → ℕ) => api.sub h (p 0) (p 1) (p 2)
  neg : Blind fun h (p : Fin 2 → ℕ) => api.neg h (p 0) (p 1)
  mul : Blind fun h (p : Fin 3 → ℕ) => api.mul h (p 0) (p 1) (p 2)
  square : Blind fun h (p : Fin 2 → ℕ) => api.square h (p 0) (p 1)
  div : Blind fun h (p : Fin 4 → ℕ) => api.div h (p 0) (p 1) (p 2) (p 3)
  mod : Blind fun h (p : Fin 3 → ℕ) => api.mod h (p 0) (p 1) (p 2)
  addMod : Blind fun h (p : Fin 4 → ℕ) => api.addMod h (p 0) (p 1) (p 2) (p 3)
  subMod : Blind fun h (p : Fin 4 → ℕ) => api.subMod h (p 0) (p 1) (p 2) (p 3)
  mulMod : Blind fun h (p : Fin 4 → ℕ) => api.mulMod h (p 0) (p 1) (p 2) (p 3)
  squareMod : Blind fun h (p : Fin 3 → ℕ) => api.squareMod h (p 0) (p 1) (p 2)
  invMod : Blind fun h (p : Fin 3 → ℕ) => api.invMod h (p 0) (p 1) (p 2)
  relativePrime : Blind fun h (p : Fin 2 → ℕ) => api.relativePrime h (p 0) (p 1)
  computeExtendedGcd : ∀ place objects heap, Placed place objects heap →
    ∀ u v : Option ℕ, (∀ i ∈ u, (objects i).isSome) → (∀ i ∈ v, (objects i).isSome) →
    ∀ p : Fin 3 → ℕ, (∀ i, (objects (p i)).isSome) →
      api.computeExtendedGcd heap (place (p 0)) (u.map place) (v.map place) (place (p 1))
        (place (p 2)) = api.computeExtendedGcd objects (p 0) u v (p 1) (p 2)
  isProbablePrime : ∀ level, Blind fun h (p : Fin 1 → ℕ) => api.isProbablePrime h (p 0) level
  convertToFmm : Blind fun h (p : Fin 4 → ℕ) => api.convertToFmm h (p 0) (p 1) (p 2) (p 3)
  convertFromFmm : Blind fun h (p : Fin 4 → ℕ) => api.convertFromFmm h (p 0) (p 1) (p 2) (p 3)
  computeFmm : Blind fun h (p : Fin 5 → ℕ) =>
    api.computeFmm h (p 0) (p 1) (p 2) (p 3) (p 4)

end ArithObjects
