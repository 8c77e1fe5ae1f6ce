import OpteeTest.ByteMemory

/-! # The part of the TEE internal core API the trusted applications rely on

Result codes, parameter words and the two build targets of the TA dev kit. -/
namespace TeeApi

open ByteMemory (Memory)

/-- Targets of `export-ta_arm32` and `export-ta_arm64`: `size_t`, `uintptr_t`, `unsigned long`
and pointers are 32 bits wide on the first and 64 bits wide on the second. -/
inductive Arch where
  | arm32
  | arm64
  deriving DecidableEq, Repr

def Arch.bits : Arch → ℕ
  | .arm32 => 32
  | .arm64 => 64

/-- The number of values of a machine word; `size_t` arithmetic is modulo this number. -/
def Arch.word (A : Arch) : ℕ := 2 ^ A.bits

def Arch.sizeofPtr : Arch → ℕ
  | .arm32 => 4
  | .arm64 => 8

theorem Arch.bits_ge (A : Arch) : 32 ≤ A.bits := by
  cases A <;> decide

theorem Arch.word_ge (A : Arch) : 2 ^ 32 ≤ A.word :=
  Nat.pow_le_pow_right (by decide) A.bits_ge

@[irreducible] def toInt (n : ℕ) : ℤ := Int.bmod n (2 ^ 32)

theorem toInt_of_lt {n : ℕ} (h : n < 2 ^ 31) : toInt n = n := by
  unfold toInt
  rw [Int.bmod_eq_of_le] <;> omega

/-- `TEE_Result` is a `uint32_t`: results of the API pass through handlers unchanged. -/
abbrev TeeResult := UInt32

def teeSuccess : TeeResult := 0x00000000
def teeErrorGeneric : TeeResult := 0xFFFF0000
def teeErrorBadParameters : TeeResult := 0xFFFF0006
def teeErrorItemNotFound : TeeResult := 0xFFFF0008
def teeErrorNotSupported : TeeResult := 0xFFFF000A
def teeErrorOutOfMemory : TeeResult := 0xFFFF000C
def teeErrorShortBuffer : TeeResult := 0xFFFF0010
def teeErrorOverflow : TeeResult := 0xFFFF300F

inductive ParamType where
  | none
  | valueInput
  | valueOutput
  | valueInout
  | memrefInput
  | memrefOutput
  | memrefInout
  deriving DecidableEq, Repr

def ParamType.code : ParamType → UInt32
  | .none => 0
  | .valueInput => 1
  | .valueOutput => 2
  | .valueInout => 3
  | .memrefInput => 5
  | .memrefOutput => 6
  | .memrefInout => 7

def teeParamTypes (t₀ t₁ t₂ t₃ : ParamType) : UInt32 :=
  t₀.code ||| t₁.code <<< 4 ||| t₂.code <<< 8 ||| t₃.code <<< 12

structure TeeValue where
  a : UInt32
  b : UInt32
  deriving DecidableEq, Repr

/-- A memory reference: `buffer` is the memory seen from its base address, also outside
the `size` bytes that belong to the client. -/
structure TeeMemref where
  buffer : Memory UInt8
  size : UInt32

/-- `TEE_Param` is a union; every handler checks the type word before it reads a member. -/
structure TeeParam where
  value : TeeValue
  memref : TeeMemref

abbrev TeeParams := Fin 4 → TeeParam

instance paramNumbers : NeZero 4 := ⟨by decide⟩

end TeeApi
