import OpteeTest.EffectRuns
import OpteeTest.HandleFreeing
import Mathlib.Data.List.Count
import Mathlib.Data.List.Nodup

/-! # The certificate commands of the crypt TA

The mbedtls library and the heap answer every call as they like, whatever went before. What the
handlers do in between is kept in a log, apart from the contexts they set up and free. -/
namespace MbedtlsTaf

open ByteMemory TeeApi FallibleRun
open HandleFreeing (taDataSize)

/-- The contexts of both commands; `writeCrt` is the certificate that is being written. -/
inductive Context where
  | crt
  | trustCrt
  | serial
  | issuerCrt
  | issuerKey
  | writeCrt
  | csr
  deriving DecidableEq, Repr

inductive Call where
  | x509CrtParse (chain : Context) (buf : List UInt8)
  | x509CrtVerify
  | pkParseKey (buf : List UInt8)
  | mpiLset (z : ℤ)
  | x509CsrParse (buf : List UInt8)
  | x509DnGets (dn : Context)
  | setSubjectName (name : List UInt8)
  | setIssuerName (name : List UInt8)
  | setSerial
  | setValidity (notBefore notAfter : String)
  | setBasicConstraints (isCa maxPathlen : ℤ)
  | setSubjectKeyIdentifier
  | setAuthorityKeyIdentifier
  | x509writeCrtPem (size : ℕ)
  | snprintf (size : ℕ)
  deriving DecidableEq, Repr

/-- The calls that only assign to the certificate and return nothing. -/
inductive Setting where
  | mdAlg
  | subjectKey
  | issuerKey
  deriving DecidableEq, Repr

inductive Work where
  | returned (c : Call) (ret : ℤ)
  | set (s : Setting)
  | allocated (size : ℕ) (granted : Bool)
  | released
  deriving DecidableEq, Repr

inductive Event where
  | initialised (c : Context)
  | did (w : Work)
  | freed (c : Context)
  deriving DecidableEq, Repr

def errBase64BufferTooSmall : ℤ := -0x002A

/-- The answers of the library and of `TEE_Malloc`, the names it prints, the signed certificate and
the embedded files. The certificate is written when it fits with its terminator; the heap has
`TA_DATA_SIZE` bytes; the texts are texts. -/
structure Mbedtls where
  ret : List Work → Call → ℤ
  grants : List Work → ℕ → Bool
  dn : Context → List UInt8
  pem : List UInt8
  midCrt : List UInt8
  midKey : List UInt8
  caCrt : List UInt8
  pem_fits : ∀ log size, ret log (.x509writeCrtPem size) = 0 → pem.length < size
  pem_small : ∀ log size, ret log (.x509writeCrtPem size) = errBase64BufferTooSmall →
    size ≤ pem.length
  grants_le : ∀ log size, grants log size → size ≤ taDataSize
  pem_text : 0 ∉ pem
  midCrt_text : 0 ∉ midCrt
  caCrt_text : 0 ∉ caCrt

def teeErrorBadFormat : TeeResult := 0xFFFF0005

section
variable (E : Mbedtls) {ρ : Type}

def call (c : Call) : Fallible Work ρ ℤ := perform (fun log => E.ret log c) (.returned c)

def note (w : Work) : Fallible Work ρ Unit := perform (fun _ => ()) fun _ => w

def teeMalloc (size : ℕ) : Fallible Work ρ Bool :=
  perform (fun log => E.grants log size) (.allocated size)

def checkTypes : UInt32 := teeParamTypes .memrefInput .memrefInput .none .none

def contents (memref : TeeMemref) : List UInt8 := slice memref.buffer 0 memref.size.toNat

def checkTrusted (params : TeeParams) : Fallible Work ρ TeeResult := do
  let ret ← call E (.x509CrtParse .trustCrt (contents (params 1).memref))
  if ret ≠ 0 then pure teeErrorBadFormat
  else do
    let ret ← call E .x509CrtVerify
    pure (if ret ≠ 0 then teeErrorBadFormat else teeSuccess)

/-- The calls between the initialisation and the end. A computation that stops is one that returns
without a jump to `out`. -/
def checkCert (params : TeeParams) : Fallible Work TeeResult TeeResult := do
  let ret ← call E (.x509CrtParse .crt (contents (params 0).memref))
  if ret ≠ 0 then throw teeErrorBadFormat
  else checkTrusted E params

def taEntryMbedtlsCheckCert (paramTypes : UInt32) (params : TeeParams) : TeeResult × List Event :=
  if paramTypes ≠ checkTypes then (teeErrorBadParameters, [])
  else
    let init := [.initialised .crt, .initialised .trustCrt]
    match checkCert E params [] with
    | (.ok res, log) => (res, init ++ log.map .did ++ [.freed .trustCrt, .freed .crt])
    | (.error res, log) => (res, init ++ log.map .did)

end

/-- Every context that a command has initialised is freed exactly once. -/
def FreedOnce (log : List Event) : Prop :=
  ∀ c, .initialised c ∈ log → log.count (.freed c) = 1

/-- Success means that both chains were parsed and the verification passed, and no chain leaks or is
freed twice. -/
structure ChecksExactly (params : TeeParams) (out : TeeResult × List Event) : Prop where
  exact : out.1 = teeSuccess ↔
    .did (.returned (.x509CrtParse .crt (contents (params 0).memref)) 0) ∈ out.2 ∧
    .did (.returned (.x509CrtParse .trustCrt (contents (params 1).memref)) 0) ∈ out.2 ∧
    .did (.returned .x509CrtVerify 0) ∈ out.2
  freed : FreedOnce out.2

variable {E : Mbedtls} {params : TeeParams}

theorem call_bind {ρ α : Type} (c : Call) (f : ℤ → Fallible Work ρ α) (log : List Work) :
    (call E c >>= f) log = f (E.ret log c) (log ++ [.returned c (E.ret log c)]) := bind_ok rfl

theorem appends_call {ρ α : Type} {c : Call} {f : ℤ → Fallible Work ρ α}
    {Q : α → List Work → Prop} {R : ρ → List Work → Prop}
    (hf : ∀ v, Appends (f v) (fun a more => Q a (.returned c v :: more))
      fun e more => R e (.returned c v :: more)) : Appends (call E c >>= f) Q R :=
  appends_perform fun log => hf (E.ret log c)

theorem badFormat_ne : teeErrorBadFormat ≠ teeSuccess := by decide

/-- After the first parse the command goes to `out` whatever happens. -/
theorem checkTrusted_appends (E : Mbedtls) (params : TeeParams) :
    Appends (checkTrusted E params : Fallible Work TeeResult TeeResult)
      (fun res new => res = teeSuccess ↔
        .returned (.x509CrtParse .trustCrt (contents (params 1).memref)) 0 ∈ new ∧
        .returned .x509CrtVerify 0 ∈ new)
      fun _ _ => False := by
  unfold checkTrusted
  refine appends_call fun v => ?_
  split_ifs with hv
  · refine appends_pure ?_
    simp [badFormat_ne, Ne.symm hv]
  · rw [not_not.mp hv]
    refine appends_call fun w => appends_pure ?_
    split_ifs with hw
    · simp [badFormat_ne, Ne.symm hw]
    · simp [not_not.mp hw]

theorem freedOnce_of_teardown (cs : List Context) {ds : List Context} (hds : ds.Nodup)
    (hcs : ∀ c ∈ cs, c ∈ ds) (log : List Work) :
    FreedOnce (cs.map .initialised ++ log.map .did ++ ds.map .freed) := by
  intro c hc
  have hmem : c ∈ cs := by simpa using hc
  have hinit : (cs.map Event.initialised).count (.freed c) = 0 := by
    rw [List.count_eq_zero]
    simp
  have hwork : (log.map Event.did).count (.freed c) = 0 := by
    rw [List.count_eq_zero]
    simp
  have hinj : Function.Injective Event.freed := fun _ _ h => Event.freed.inj h
  rw [List.count_append, List.count_append, hinit, hwork, List.count_map_of_injective _ _ hinj,
    List.count_eq_one_of_mem hds (hcs c hmem)]

theorem check_cert_exact_iff (E : Mbedtls) (paramTypes : UInt32) (params : TeeParams) :
    ChecksExactly params (taEntryMbedtlsCheckCert E paramTypes params) ↔
      paramTypes ≠ checkTypes ∨
        E.ret [] (.x509CrtParse .crt (contents (params 0).memref)) = 0 := by
  unfold taEntryMbedtlsCheckCert
  by_cases htypes : paramTypes = checkTypes
  · rw [if_neg (not_not.mpr htypes)]
    unfold checkCert
    rw [call_bind]
    by_cases hparse : E.ret [] (.x509CrtParse .crt (contents (params 0).memref)) = 0
    · refine iff_of_true ?_ (Or.inr hparse)
      rw [if_neg (not_not.mpr hparse), hparse]
      obtain ⟨new, ⟨res, hrun, hres⟩ | ⟨e, -, hfalse⟩⟩ := checkTrusted_appends E params
        ([] ++ [.returned (.x509CrtParse .crt (contents (params 0).memref)) 0])
      · rw [hrun]
        have hnodup : [Context.trustCrt, .crt].Nodup := by decide
        refine ⟨hres.trans ?_, freedOnce_of_teardown [.crt, .trustCrt] hnodup (by decide) _⟩
        simp
      · exact hfalse.elim
    · refine iff_of_false ?_ (by simp [htypes, hparse])
      rw [if_pos hparse]
      intro hexact
      have hfreed := hexact.freed .crt List.mem_cons_self
      change List.count (.freed .crt) [Event.initialised .crt, .initialised .trustCrt,
        .did (.returned _ _)] = 1 at hfreed
      simp at hfreed
  · rw [if_pos htypes]
    refine iff_of_true ⟨?_, by simp [FreedOnce]⟩ (Or.inl htypes)
    simp [teeErrorBadParameters, teeSuccess]

/-- A library that finds something to complain about everywhere, over an exhausted heap. -/
def failing : Mbedtls where
  ret _ _ := 1
  grants _ _ := false
  dn _ := []
  pem := []
  midCrt := []
  midKey := []
  caCrt := []
  pem_fits _ _ h := by cases h
  pem_small _ _ h := by cases h
  grants_le _ _ h := by cases h
  pem_text := List.not_mem_nil
  midCrt_text := List.not_mem_nil
  caCrt_text := List.not_mem_nil

def emptyParams : TeeParams := fun _ => ⟨⟨0, 0⟩, ⟨fun _ => 0, 0⟩⟩

/-- One certificate of the chain is not parsed; the nodes of the others stay allocated. -/
theorem not_exact_unparsed_certificate :
    ¬ ChecksExactly emptyParams (taEntryMbedtlsCheckCert failing checkTypes emptyParams) := by
  intro hexact
  have hfreed := hexact.freed .crt (by decide)
  revert hfreed
  decide

end MbedtlsTaf
