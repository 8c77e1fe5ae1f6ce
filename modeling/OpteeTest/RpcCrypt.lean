import OpteeTest.CryptInstance
import OpteeTest.HostDigestEcb
import OpteeTest.RpcCallCryp
import Mathlib.Data.List.Induction

/-! # Digests and ciphers through another application

The RPC test TA opens the crypt TA and hands its own parameters on, in its private memory or as
they are. The client gets what the crypt TA would have answered itself. -/
namespace RpcCrypt

open ByteMemory TeeApi ClientApi TeeCalls RpcCallCryp AesImpl AesEcbCommands CryptInstance
open Sha2Commands ArithTaf CryptHandlers
open AesEcbHistory (blockFunction blockFunction_length)

inductive CryptCall where
  | sha224 | sha256 | encrypt | decrypt
  deriving DecidableEq, Repr

def CryptCall.cmd : CryptCall → UInt32
  | .sha224 => 1
  | .sha256 => 2
  | .encrypt => 3
  | .decrypt => 4

def CryptCall.rpcCmd (c : CryptCall) (secMem : Bool) : UInt32 :=
  match c, secMem with
  | .sha224, false => 1
  | .sha256, false => 2
  | .encrypt, false => 3
  | .decrypt, false => 4
  | .sha224, true => 6
  | .sha256, true => 7
  | .encrypt, true => 8
  | .decrypt, true => 9

/-- How many bytes of its output a command of these writes for `n` bytes of input. -/
def filled (cmd : UInt32) (n : ℕ) : ℕ :=
  if cmd = 1 then 28 else if cmd = 2 then 32 else n / 16 * 16

/-- The parameters as the called application finds them; its output buffer shows nothing. -/
def shown (seen : Fin 4 → Seen) : TeeParams := fun i =>
  ⟨(seen i).value, ⟨fun j => (seen i).bytes.getD j 0, (seen i).size⟩⟩

def writesOf (n : Fin 4) (bytes : List UInt8) : List Write := bytes.mapIdx fun j b => ⟨n, j, b⟩

variable {A : Arch} {β ω : Type}

structure CryptTa (A : Arch) (β ω : Type) where
  cfg : BuildConfig
  E : TaEnv A (StateM ω)
  library : LibraryCommand → Handler (StateM ω)
  api : BigIntApi β
  tee : ω
  below : Memory UInt8
  env : Allocator β

def CryptTa.direct (C : CryptTa A β ω) (cmd types : UInt32) (params : TeeParams) : Option Reply :=
  reply C.cfg C.E C.library C.api (fresh C.tee) ⟨cmd, types, params, C.below, C.env⟩

/-- The crypt TA as an application that is called for one of the four commands. -/
def CryptTa.called (C : CryptTa A β ω) (cmd types : UInt32) (seen : Fin 4 → Seen) : Answer :=
  match C.direct cmd types (shown seen) with
  | some r => ⟨r.1, fun i => (r.2 i).value, fun i => (r.2 i).memref.size,
      if r.1 = teeSuccess then
        writesOf 1 (slice (r.2 1).memref.buffer 0 (filled cmd (seen 0).size.toNat))
      else []⟩
  | none => ⟨teeErrorGeneric, fun i => (seen i).value, fun i => (seen i).size, []⟩

def Separate (ov : Overlap) : Prop := ∀ m i n j, ov m i n j → m = n ∧ i = j

def CryptCall.answer (c : CryptCall) (input : List UInt8) : List UInt8 :=
  match c with
  | .sha224 => Sha2Spec.sha224 input
  | .sha256 => Sha2Spec.sha256 input
  | .encrypt => ecbBytes (blockFunction .encrypt) (fun j => input.getD j 0) (input.length / 16)
  | .decrypt => ecbBytes (blockFunction .decrypt) (fun j => input.getD j 0) (input.length / 16)

def CryptCall.IsDigest (c : CryptCall) : Prop := c = .sha224 ∨ c = .sha256

/-- An output has room for what the command writes, and a digest gets less than 2^29 bytes. -/
structure CryptCall.Accepts (c : CryptCall) (inSize outSize : UInt32) : Prop where
  room : filled c.cmd inSize.toNat ≤ outSize.toNat
  short : c.IsDigest → inSize.toNat < 2 ^ 29

def callTypes : UInt32 := teeParamTypes .memrefInput .memrefOutput .none .none

variable {params : TeeParams}

variable {W : World} {types : UInt32} {caller : Caller}

def inputBytes (caller : Caller) : List UInt8 :=
  slice caller.mem (caller.pParams 0).memref.buffer (caller.pParams 0).memref.size.toNat

/-- The caller's memory before the answer is in it: private memory comes back whole, with zeros
where nothing was written. -/
def cleared (secMem : Bool) (caller : Caller) : Memory UInt8 :=
  let r := (caller.pParams 1).memref
  if secMem then copyIn caller.mem r.buffer (List.replicate r.size.toNat 0) else caller.mem

def receive (caller : Caller) (mem : Memory UInt8) (out : List UInt8) : Caller :=
  ⟨caller.pParams, copyIn mem (caller.pParams 1).memref.buffer out⟩

/-- A call of the RPC test TA; buffers that are handed on as they are must not overlap. -/
structure CryptCall.Suits (c : CryptCall) (secMem : Bool) (caller : Caller) : Prop where
  accepts : c.Accepts (caller.pParams 0).memref.size (caller.pParams 1).memref.size
  apart : secMem = false →
    let input := (caller.pParams 0).memref
    let output := (caller.pParams 1).memref
    input.buffer + input.size.toNat ≤ output.buffer ∨
      output.buffer + output.size.toNat ≤ input.buffer

/-- The RPC test TA gives its clients what the crypt TA computes, and takes back by a decryption
what an encryption gave, whichever memory each of the calls goes through. -/
structure Serves (rpc : UInt32 → UInt32 → Caller → TeeResult × Caller) : Prop where
  answers : ∀ (c : CryptCall) secMem caller, c.Suits secMem caller →
    rpc (c.rpcCmd secMem) callTypes caller = (teeSuccess,
      receive caller (cleared secMem caller) (c.answer (inputBytes caller)))
  roundTrip : ∀ secMem secMem' caller caller', CryptCall.encrypt.Suits secMem caller →
    CryptCall.decrypt.Suits secMem' caller' →
    let n := (caller.pParams 0).memref.size.toNat
    let encrypted := (rpc (CryptCall.encrypt.rpcCmd secMem) callTypes caller).2
    let decrypted := (rpc (CryptCall.decrypt.rpcCmd secMem') callTypes caller').2
    n % 16 = 0 →
    inputBytes caller' = slice encrypted.mem (caller.pParams 1).memref.buffer n →
      slice decrypted.mem (caller'.pParams 1).memref.buffer n = inputBytes caller

def plainTa : CryptTa .arm64 ℤ Unit where
  cfg := ⟨true, true⟩
  E := ⟨0, fun _ => 4096, page_fits, 0, fun _ => pure true, fun c => pure (bareReply c teeSuccess),
    0, pure ()⟩
  library := fun _ _ params => pure (teeSuccess, params)
  api := TypedHandles.intApi
  tee := ()
  below := fun _ => 0
  env := ⟨fun _ => none, none⟩

end RpcCrypt
