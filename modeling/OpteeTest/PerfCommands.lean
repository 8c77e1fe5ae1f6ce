import OpteeTest.TeeApi

/-! # The commands of the performance TAs

`cmd_process` of `aes_perf` and of `sha_perf`. A pointer into a memref is its distance from the
buffer, modulo the machine word. The operation is a parameter: an update gives out at most what it
has taken in and what the announced output can hold. -/
namespace PerfCommands

open TeeApi

variable {σ : Type}

/-- `TEE_CipherUpdate` or `TEE_AEUpdate` of an operation that holds back `held` bytes. The result
comes with the new `*destLen`. -/
structure Update (σ : Type) (held : σ → ℕ) where
  run : σ → ℕ → ℕ → TeeResult × ℕ × σ
  room : ∀ op len outsz, (run op len outsz).1 = teeSuccess → (run op len outsz).2.1 ≤ outsz
  given : ∀ op len outsz, (run op len outsz).1 = teeSuccess →
    (run op len outsz).2.1 + held (run op len outsz).2.2 ≤ held op + len

structure Machine (σ : Type) where
  held : σ → ℕ
  cipherUpdate : Update σ held
  aeUpdate : Update σ held
  /-- Answers of `TEE_CheckMemoryAccessRights`. -/
  secureIn : Bool
  secureOut : Bool
  /-- Results of `flush_memref_buffer`. -/
  preFlushIn : TeeResult
  preFlushOut : TeeResult
  postFlushOut : TeeResult

structure UpdateCall where
  inp : ℕ
  len : ℕ
  out : ℕ
  outsz : ℕ
  deriving DecidableEq

structure Cursor (σ : Type) where
  op : σ
  inp : ℕ
  out : ℕ
  outsz : ℕ

structure Trace where
  res : Option TeeResult
  rounds : List (List UpdateCall)

def teeAlgAesGcm : UInt32 := 0x40000810

def Machine.doUpdate (E : Machine σ) (algo : UInt32) : Update σ E.held :=
  if algo = teeAlgAesGcm then E.aeUpdate else E.cipherUpdate

def advance (A : Arch) (ptr unit : ℕ) : ℕ := ((ptr + toInt unit) % A.word).toNat

def Cursor.call (c : Cursor σ) (len : ℕ) : UpdateCall := ⟨c.inp, len, c.out, c.outsz⟩

variable {held : σ → ℕ}

def update (U : Update σ held) (len : ℕ) (c : Cursor σ) : TeeResult × Cursor σ :=
  let (res, outsz, op) := U.run c.op len c.outsz
  (res, { c with op := op, outsz := outsz })

def unitLoop (A : Arch) (U : Update σ held) (unit : ℕ) :
    ℕ → Cursor σ → TeeResult × List UpdateCall × Cursor σ
  | 0, c => (teeSuccess, [], c)
  | count + 1, c =>
    let (res, next) := update U unit c
    if res ≠ teeSuccess then (res, [c.call unit], next)
    else
      let (res, calls, last) := unitLoop A U unit count
        { next with inp := advance A next.inp unit, out := advance A next.out unit }
      (res, c.call unit :: calls, last)

/-- One round over `insz` bytes, none when it divides by zero. -/
def runRound (A : Arch) (U : Update σ held) (insz unit : ℕ) (c : Cursor σ) :
    Option (TeeResult × List UpdateCall × Cursor σ) :=
  if unit = 0 then none
  else
    let (res, calls, c) := unitLoop A U unit (insz / unit) c
    if res ≠ teeSuccess then some (res, calls, c)
    else if insz % unit ≠ 0 then
      let (res, next) := update U (insz % unit) c
      some (res, calls ++ [c.call (insz % unit)], next)
    else some (res, calls, c)

def roundLoop (A : Arch) (U : Update σ held) (insz unit : ℕ) : ℕ → Cursor σ → Trace
  | 0, _ => ⟨some teeSuccess, []⟩
  | n + 1, c =>
    match runRound A U insz unit c with
    | none => ⟨none, []⟩
    | some (res, calls, c) =>
      if res ≠ teeSuccess then ⟨some res, [calls]⟩
      else
        let rest := roundLoop A U insz unit n c
        ⟨rest.res, calls :: rest.rounds⟩

def aesParamTypes : UInt32 := teeParamTypes .memrefInout .memrefInout .valueInput .none

/-- Whether the buffers are secure is asked for `TA_AES_PERF_CMD_PROCESS_SDP` only. -/
def Machine.preFlush (E : Machine σ) (useSdp : Bool) : TeeResult :=
  if useSdp ∧ E.secureIn ∧ E.preFlushIn ≠ teeSuccess then E.preFlushIn
  else if useSdp ∧ E.secureOut ∧ E.preFlushOut ≠ teeSuccess then E.preFlushOut
  else teeSuccess

def unitSize (params : TeeParams) : ℕ :=
  if (params 2).value.b = 0 then (params 0).memref.size.toNat else (params 2).value.b.toNat

/-- `n` counts down to zero as an `int` that wraps. -/
def aesCmdProcess (A : Arch) (E : Machine σ) (algo paramTypes : UInt32) (params : TeeParams)
    (useSdp : Bool) (op : σ) : Trace :=
  if paramTypes ≠ aesParamTypes then ⟨some teeErrorBadParameters, []⟩
  else if E.preFlush useSdp ≠ teeSuccess then ⟨some (E.preFlush useSdp), []⟩
  else
    let trace := roundLoop A (E.doUpdate algo) (params 0).memref.size.toNat (unitSize params)
      (params 2).value.a.toNat ⟨op, 0, 0, (params 1).memref.size.toNat⟩
    if trace.res = some teeSuccess ∧ useSdp ∧ E.secureOut ∧ E.postFlushOut ≠ teeSuccess then
      { trace with res := some E.postFlushOut }
    else trace

structure Range where
  start : ℕ
  len : ℕ
  deriving DecidableEq

abbrev Digest (σ : Type) := σ → ℕ → ℕ → TeeResult × ℕ × σ

def digestLoop (D : Digest σ) (hashed : Range) : ℕ → σ → ℕ → TeeResult × List Range
  | 0, _, _ => (teeSuccess, [])
  | n + 1, op, outsz =>
    let (res, outsz, op) := D op hashed.len outsz
    if res ≠ teeSuccess then (res, [hashed])
    else
      let (res, ranges) := digestLoop D hashed n op outsz
      (res, hashed :: ranges)

def shaParamTypes : UInt32 := teeParamTypes .memrefInput .memrefOutput .valueInput .none

/-- The result and the ranges hashed; `insz` wraps. -/
def shaCmdProcess (A : Arch) (D : Digest σ) (paramTypes : UInt32) (params : TeeParams) (op : σ) :
    TeeResult × List Range :=
  if paramTypes ≠ shaParamTypes then (teeErrorBadParameters, [])
  else
    let offset := (params 2).value.b
    let insz := (params 0).memref.size - offset
    digestLoop D ⟨offset.toNat % A.word, insz.toNat⟩ (params 2).value.a.toNat op
      (params 1).memref.size.toNat

end PerfCommands
