import OpteeTest.TeeApi
import Mathlib.Data.Fin.VecNotation

/-! # The client API between the host and the trusted applications

A command travels with a type word of four nibbles and four parameters. Values and sizes
arrive in 32 bits; outputs come back by the type of their parameter. -/
namespace ClientApi

open ByteMemory TeeApi

structure TempMemoryReference where
  buffer : Memory UInt8
  size : ℕ

structure TeecParameter where
  value : TeeValue
  tmpref : TempMemoryReference

structure TeecOperation where
  paramTypes : UInt32
  params : Fin 4 → TeecParameter

def zeroParameter : TeecParameter := ⟨⟨0, 0⟩, ⟨fun _ => 0, 0⟩⟩

def valueParameter (a b : UInt32) : TeecParameter := ⟨⟨a, b⟩, ⟨fun _ => 0, 0⟩⟩

def tmprefParameter (buffer : Memory UInt8) (size : ℕ) : TeecParameter :=
  ⟨⟨0, 0⟩, ⟨buffer, size⟩⟩

def paramTypeGet (types : UInt32) (i : Fin 4) : UInt32 :=
  (types >>> (4 * UInt32.ofNat i.val)) &&& 0xf

def IsValueInput (t : UInt32) : Prop :=
  t = ParamType.code .valueInput ∨ t = ParamType.code .valueInout

def IsValueOutput (t : UInt32) : Prop :=
  t = ParamType.code .valueOutput ∨ t = ParamType.code .valueInout

def IsMemref (t : UInt32) : Prop := t = ParamType.code .memrefInput ∨
  t = ParamType.code .memrefOutput ∨ t = ParamType.code .memrefInout

def IsMemrefOutput (t : UInt32) : Prop :=
  t = ParamType.code .memrefOutput ∨ t = ParamType.code .memrefInout

instance (t : UInt32) : Decidable (IsValueInput t) := inferInstanceAs (Decidable (_ ∨ _))
instance (t : UInt32) : Decidable (IsValueOutput t) := inferInstanceAs (Decidable (_ ∨ _))
instance (t : UInt32) : Decidable (IsMemref t) := inferInstanceAs (Decidable (_ ∨ _ ∨ _))
instance (t : UInt32) : Decidable (IsMemrefOutput t) := inferInstanceAs (Decidable (_ ∨ _))

def deliver (op : TeecOperation) : TeeParams := fun i =>
  let t := paramTypeGet op.paramTypes i
  let p := op.params i
  { value := if IsValueInput t then p.value else ⟨0, 0⟩
    memref := if IsMemref t then ⟨p.tmpref.buffer, UInt32.ofNat p.tmpref.size⟩
      else ⟨fun _ => 0, 0⟩ }

/-- A memref comes back with its size, and with its bytes when they fit what was sent. -/
def copyBack (sent : TempMemoryReference) (left : TeeMemref) : TempMemoryReference where
  buffer := if left.size.toNat ≤ sent.size then
      copyIn sent.buffer 0 (slice left.buffer 0 left.size.toNat)
    else sent.buffer
  size := left.size.toNat

def collect (op : TeecOperation) (params : TeeParams) : TeecOperation where
  paramTypes := op.paramTypes
  params := fun i =>
    let t := paramTypeGet op.paramTypes i
    { value := if IsValueOutput t then (params i).value else (op.params i).value
      tmpref := if IsMemrefOutput t then copyBack (op.params i).tmpref (params i).memref
        else (op.params i).tmpref }

def Transportable (op : TeecOperation) : Prop :=
  ∀ i, IsMemref (paramTypeGet op.paramTypes i) → (op.params i).tmpref.size < 2 ^ 32

instance (op : TeecOperation) : Decidable (Transportable op) :=
  inferInstanceAs (Decidable (∀ _, _ → _))

variable {m : Type → Type} [Monad m]

abbrev Session (m : Type → Type) := UInt32 → TeecOperation → m (TeeResult × TeecOperation)

def carried (ta : UInt32 → UInt32 → TeeParams → m (TeeResult × TeeParams)) : Session m :=
  fun commandId op => do
    let (res, params) ← ta commandId op.paramTypes (deliver op)
    pure (res, collect op params)

/-- The client library carries a command to the TA of the session and its outputs back, as far as
the TA can be told the sizes. -/
def Connects (S : Session m) (ta : UInt32 → UInt32 → TeeParams → m (TeeResult × TeeParams)) :
    Prop :=
  ∀ commandId op, Transportable op → S commandId op = carried ta commandId op

theorem connects_carried (ta : UInt32 → UInt32 → TeeParams → m (TeeResult × TeeParams)) :
    Connects (carried ta) ta := fun _ _ _ => rfl

/-- What a host wrapper hands back: its result, the words it was given pointers to, and its
buffers with the lengths their owner is left with. -/
structure HostResult where
  res : TeeResult
  words : List UInt32
  outs : List TempMemoryReference

def hostCall (S : Session m) (commandId : UInt32) (op : TeecOperation)
    (finish : TeeResult → TeecOperation → HostResult) : m HostResult := do
  let (res, op) ← S commandId op
  pure (finish res op)

def plain (res : TeeResult) (_ : TeecOperation) : HostResult := ⟨res, [], []⟩

/-- The buffer of parameter `i`; its length is written on success only. -/
def outAt (i : Fin 4) (before : ℕ) (res : TeeResult) (op : TeecOperation) :
    TempMemoryReference where
  buffer := (op.params i).tmpref.buffer
  size := if res = teeSuccess then (op.params i).tmpref.size else before

def oneOut (i : Fin 4) (before : ℕ) (res : TeeResult) (op : TeecOperation) : HostResult :=
  ⟨res, [], [outAt i before res op]⟩

def bufferAt (i : Fin 4) (size : ℕ) (op : TeecOperation) : TempMemoryReference :=
  ⟨(op.params i).tmpref.buffer, size⟩

theorem paramTypeGet_or (x y : UInt32) (i : Fin 4) :
    paramTypeGet (x ||| y) i = paramTypeGet x i ||| paramTypeGet y i := by
  apply UInt32.toBitVec_inj.mp
  simp only [paramTypeGet, UInt32.toBitVec_and, UInt32.toBitVec_shiftRight, UInt32.toBitVec_or]
  ext j hj
  simp [Bool.and_or_distrib_right]

theorem paramTypeGet_place (t : ParamType) (i j : Fin 4) :
    paramTypeGet (t.code <<< (4 * UInt32.ofNat j.val)) i = if i = j then t.code else 0 := by
  revert i j
  cases t <;> decide

variable {t₀ t₁ t₂ t₃ : ParamType} {p₀ p₁ p₂ p₃ : TeecParameter}

theorem paramTypeGet_types (i : Fin 4) :
    paramTypeGet (teeParamTypes t₀ t₁ t₂ t₃) i = (![t₀, t₁, t₂, t₃] i).code := by
  have h₀ : paramTypeGet t₀.code i = if i = 0 then t₀.code else 0 := by
    have hplace := paramTypeGet_place t₀ i 0
    have hshift : t₀.code <<< (4 * UInt32.ofNat (0 : Fin 4).val) = t₀.code := by
      cases t₀ <;> rfl
    rwa [hshift] at hplace
  have h₁ : paramTypeGet (t₁.code <<< 4) i = _ := paramTypeGet_place t₁ i 1
  have h₂ : paramTypeGet (t₂.code <<< 8) i = _ := paramTypeGet_place t₂ i 2
  have h₃ : paramTypeGet (t₃.code <<< 12) i = _ := paramTypeGet_place t₃ i 3
  rw [teeParamTypes, paramTypeGet_or, paramTypeGet_or, paramTypeGet_or, h₀, h₁, h₂, h₃]
  match i with
  | 0 => simp
  | 1 => simp
  | 2 => simp
  | 3 => simp

def operation (t₀ t₁ t₂ t₃ : ParamType) (p₀ p₁ p₂ p₃ : TeecParameter) : TeecOperation :=
  ⟨teeParamTypes t₀ t₁ t₂ t₃, ![p₀, p₁, p₂, p₃]⟩

def nullMemref : TeeMemref := ⟨fun _ => 0, 0⟩

def deliverAs (t : ParamType) (p : TeecParameter) : TeeParam :=
  match t with
  | .none | .valueOutput => ⟨⟨0, 0⟩, nullMemref⟩
  | .valueInput | .valueInout => ⟨p.value, nullMemref⟩
  | .memrefInput | .memrefOutput | .memrefInout =>
    ⟨⟨0, 0⟩, ⟨p.tmpref.buffer, UInt32.ofNat p.tmpref.size⟩⟩

def collectAs (t : ParamType) (p : TeecParameter) (q : TeeParam) : TeecParameter :=
  match t with
  | .none | .valueInput | .memrefInput => p
  | .valueOutput | .valueInout => ⟨q.value, p.tmpref⟩
  | .memrefOutput | .memrefInout => ⟨p.value, copyBack p.tmpref q.memref⟩

/-- A parameter that is not a memref, or one whose size fits the TA's. -/
def Fits (t : ParamType) (p : TeecParameter) : Prop :=
  match t with
  | .memrefInput | .memrefOutput | .memrefInout => p.tmpref.size < 2 ^ 32
  | _ => True

theorem deliver_operation : deliver (operation t₀ t₁ t₂ t₃ p₀ p₁ p₂ p₃) =
    ![deliverAs t₀ p₀, deliverAs t₁ p₁, deliverAs t₂ p₂, deliverAs t₃ p₃] := by
  have hcode (t : ParamType) (p : TeecParameter) :
      (⟨if IsValueInput t.code then p.value else ⟨0, 0⟩,
        if IsMemref t.code then ⟨p.tmpref.buffer, UInt32.ofNat p.tmpref.size⟩
          else ⟨fun _ => 0, 0⟩⟩ : TeeParam) = deliverAs t p := by
    cases t <;> rfl
  funext i
  simp only [deliver, operation, paramTypeGet_types, hcode]
  match i with
  | 0 => rfl
  | 1 => rfl
  | 2 => rfl
  | 3 => rfl

theorem collect_operation (params : TeeParams) :
    (collect (operation t₀ t₁ t₂ t₃ p₀ p₁ p₂ p₃) params).params =
      ![collectAs t₀ p₀ (params 0), collectAs t₁ p₁ (params 1), collectAs t₂ p₂ (params 2),
        collectAs t₃ p₃ (params 3)] := by
  have hcode (t : ParamType) (p : TeecParameter) (q : TeeParam) :
      (⟨if IsValueOutput t.code then q.value else p.value,
        if IsMemrefOutput t.code then copyBack p.tmpref q.memref else p.tmpref⟩ :
          TeecParameter) = collectAs t p q := by
    cases t <;> rfl
  funext i
  simp only [collect, operation, paramTypeGet_types, hcode]
  match i with
  | 0 => rfl
  | 1 => rfl
  | 2 => rfl
  | 3 => rfl

theorem transportable_operation : Transportable (operation t₀ t₁ t₂ t₃ p₀ p₁ p₂ p₃) ↔
    Fits t₀ p₀ ∧ Fits t₁ p₁ ∧ Fits t₂ p₂ ∧ Fits t₃ p₃ := by
  have hcode (t : ParamType) (p : TeecParameter) :
      (IsMemref t.code → p.tmpref.size < 2 ^ 32) ↔ Fits t p := by
    cases t <;> simp [Fits, IsMemref, ParamType.code]
  have hall : Transportable (operation t₀ t₁ t₂ t₃ p₀ p₁ p₂ p₃) ↔
      ∀ i, Fits (![t₀, t₁, t₂, t₃] i) (![p₀, p₁, p₂, p₃] i) := by
    refine forall_congr' fun i => ?_
    rw [← hcode, ← paramTypeGet_types]
    rfl
  rw [hall, Fin.forall_fin_succ, Fin.forall_fin_succ, Fin.forall_fin_two]
  rfl

end ClientApi
