import OpteeTest.AesEcbHistory
import OpteeTest.ClientApi
import OpteeTest.CryptHandlers
import OpteeTest.Sha2Commands
import OpteeTest.TypedHandles

/-! # An instance of the crypt TA

`TA_InvokeCommandEntryPoint` with all its cases. The static data of the TA are the switch between
the two ways to the digests, a number, the round keys and the handle database. -/
namespace CryptInstance

open ByteMemory TeeApi GuardedRun ClientApi AesSpec AesImpl AesKeySchedule AesCipher AesEcbCommands
open Sha2Commands TeeCalls CryptHandlers ArithTaf
open AesEcbHistory (freshRk)

inductive LibraryCommand where
  | mbedtlsSelfTests | mbedtlsCheckCert | mbedtlsSignCert
  | seedRngPool | deriveTaUniqueKey | deriveTaUniqueKeyShm
  deriving DecidableEq, Repr

inductive CryptEntry where
  | sha224 | sha256 | aes256ecbEnc | aes256ecbDec
  | api (c : CryptCommand)
  | setGlobal | getGlobal
  | library (c : LibraryCommand)
  | arith (c : ArithCmd)
  deriving DecidableEq, Repr

def arithCode : ArithCmd → UInt32
  | .newVar => 46
  | .newFmmCtx => 47
  | .newFmmVar => 48
  | .freeHandle => 49
  | .fromOctetString => 50
  | .fromS32 => 51
  | .getValue => 52
  | .getValueS32 => 53
  | .getBit => 54
  | .getBitCount => 55
  | .shiftRight => 56
  | .cmp => 57
  | .cmpS32 => 58
  | .add => 59
  | .sub => 60
  | .mul => 61
  | .neg => 62
  | .sqr => 63
  | .div => 64
  | .mod => 65
  | .addmod => 66
  | .submod => 67
  | .mulmod => 68
  | .sqrmod => 69
  | .invmod => 70
  | .isRelativePrime => 71
  | .computeEgcd => 72
  | .isPrime => 73
  | .toFmm => 74
  | .fromFmm => 75
  | .computeFmm => 76

def arithAll : List ArithCmd :=
  [.newVar, .newFmmCtx, .newFmmVar, .freeHandle, .fromOctetString, .fromS32, .getValue,
    .getValueS32, .getBit, .getBitCount, .shiftRight, .cmp, .cmpS32, .add, .sub, .mul, .neg, .sqr,
    .div, .mod, .addmod, .submod, .mulmod, .sqrmod, .invmod, .isRelativePrime, .computeEgcd,
    .isPrime, .toFmm, .fromFmm, .computeFmm]

structure BuildConfig where
  taMbedtls : Bool
  systemPta : Bool

def CryptEntry.code : CryptEntry → UInt32
  | .sha224 => 1
  | .sha256 => 2
  | .aes256ecbEnc => 3
  | .aes256ecbDec => 4
  | .api c => c.code
  | .setGlobal => 40
  | .getGlobal => 41
  | .library .mbedtlsSelfTests => 42
  | .library .mbedtlsCheckCert => 43
  | .library .mbedtlsSignCert => 44
  | .library .seedRngPool => 45
  | .library .deriveTaUniqueKey => 77
  | .library .deriveTaUniqueKeyShm => 78
  | .arith c => arithCode c

def CryptEntry.all (cfg : BuildConfig) : List CryptEntry :=
  [.sha224, .sha256, .aes256ecbEnc, .aes256ecbDec] ++ CryptCommand.all.map .api ++
    [.setGlobal, .getGlobal] ++
    (if cfg.taMbedtls then [.library .mbedtlsSelfTests, .library .mbedtlsCheckCert,
      .library .mbedtlsSignCert] else []) ++
    (if cfg.systemPta then [.library .seedRngPool, .library .deriveTaUniqueKey,
      .library .deriveTaUniqueKeyShm] else []) ++ arithAll.map .arith

/-- The case that a command number leads to; `none` is the default. -/
def entryOf (cfg : BuildConfig) (commandId : UInt32) : Option CryptEntry :=
  (CryptEntry.all cfg).find? fun e => e.code = commandId

structure CryptState (A : Arch) (β ω : Type) where
  useFptr : Bool
  globalvalue : Int32
  rk : Memory (U32 A)
  arith : ArithState β
  tee : ω

/-- A command with what it meets: the memory before its input, and the allocator. -/
structure Invocation (β : Type) where
  commandId : UInt32
  paramTypes : UInt32
  params : TeeParams
  below : Memory UInt8
  env : Allocator β

variable {A : Arch} {β ω : Type}

abbrev Reply := TeeResult × TeeParams

/-- The parameter types that both commands on the number check, one by one. -/
def OneValue (t : ParamType) (paramTypes : UInt32) : Prop :=
  paramTypeGet paramTypes 0 = t.code ∧ ∀ i : Fin 4, i ≠ 0 → paramTypeGet paramTypes i = 0

instance (t : ParamType) (paramTypes : UInt32) : Decidable (OneValue t paramTypes) :=
  inferInstanceAs (Decidable (_ ∧ _))

def setGlobal (globalvalue : Int32) (paramTypes : UInt32) (params : TeeParams) :
    Reply × Int32 :=
  if OneValue .valueInput paramTypes then
    ((teeSuccess, params), (params 0).value.a.toInt32)
  else ((teeErrorBadParameters, params), globalvalue)

def getGlobal (globalvalue : Int32) (paramTypes : UInt32) (params : TeeParams) : Reply :=
  if OneValue .valueOutput paramTypes then
    (teeSuccess, setValueA params 0 globalvalue.toUInt32)
  else (teeErrorBadParameters, params)

/-- `ta_cmd_entries`, a table with NULL at index 0. -/
def taCmdEntries (i : ℕ) : Option (Memory UInt8 → UInt32 → TeeParams → DigestOutcome) :=
  if i = 1 then some taEntrySha224 else if i = 2 then some taEntrySha256 else none

variable (cfg : BuildConfig) (E : TaEnv A (StateM ω))
variable (library : LibraryCommand → Handler (StateM ω)) (api : BigIntApi β)

def digest (s : CryptState A β ω) (q : Invocation β)
    (direct : Memory UInt8 → UInt32 → TeeParams → DigestOutcome) :
    Option (Reply × CryptState A β ω) :=
  let useFptr := !s.useFptr
  (if useFptr then taCmdEntries q.commandId.toNat else some direct).map fun entry =>
    let o := entry q.below q.paramTypes q.params
    ((o.res, o.params), { s with useFptr := useFptr })

def ecb (s : CryptState A β ω) (q : Invocation β)
    (crypt : Memory (U32 A) → UInt32 → TeeParams → Option (EcbOutcome A)) :
    Option (Reply × CryptState A β ω) :=
  (crypt s.rk q.paramTypes q.params).map fun o => ((o.res, o.params), { s with rk := o.rk })

def onTee (s : CryptState A β ω) (q : Invocation β) (handler : Handler (StateM ω)) :
    Reply × CryptState A β ω :=
  let (reply, tee) := (handler q.paramTypes q.params).run s.tee
  (reply, { s with tee := tee })

def onArith (s : CryptState A β ω) (q : Invocation β) (c : ArithCmd) :
    Reply × CryptState A β ω :=
  let o := invokeCommand api A s.arith ⟨c, q.paramTypes, q.params, q.env⟩
  ((o.res, o.params), { s with arith := o.state })

/-- `TA_InvokeCommandEntryPoint`; no result when it would run into undefined behaviour. -/
def invoke (s : CryptState A β ω) (q : Invocation β) : Option (Reply × CryptState A β ω) :=
  match entryOf cfg q.commandId with
  | some .sha224 => digest s q taEntrySha224
  | some .sha256 => digest s q taEntrySha256
  | some .aes256ecbEnc => ecb s q taEntryAes256ecbEncrypt
  | some .aes256ecbDec => ecb s q taEntryAes256ecbDecrypt
  | some (.api c) => some (onTee s q (c.handler E))
  | some .setGlobal =>
    let (reply, globalvalue) := setGlobal s.globalvalue q.paramTypes q.params
    some (reply, { s with globalvalue := globalvalue })
  | some .getGlobal => some (getGlobal s.globalvalue q.paramTypes q.params, s)
  | some (.library c) => some (onTee s q (library c))
  | some (.arith c) => some (onArith api s q c)
  | none => some ((teeErrorBadParameters, q.params), s)

def fresh (tee : ω) : CryptState A β ω := ⟨false, 0, freshRk, TypedHandles.initial, tee⟩

def next (s : CryptState A β ω) (q : Invocation β) : CryptState A β ω :=
  ((invoke cfg E library api s q).map Prod.snd).getD s

def reply (s : CryptState A β ω) (q : Invocation β) : Option Reply :=
  (invoke cfg E library api s q).map Prod.fst

def numberOf (q : Invocation β) : Option Int32 :=
  if entryOf cfg q.commandId = some .setGlobal ∧ OneValue .valueInput q.paramTypes then
    some (q.params 0).value.a.toInt32
  else none

def requestOf (q : Invocation β) : Option (Request β) :=
  match entryOf cfg q.commandId with
  | some (.arith c) => some ⟨c, q.paramTypes, q.params, q.env⟩
  | _ => none

def callOf (q : Invocation β) : Option (StateM ω Reply) :=
  match entryOf cfg q.commandId with
  | some (.api c) => some (c.handler E q.paramTypes q.params)
  | some (.library c) => some (library c q.paramTypes q.params)
  | _ => none

/-- The reply to a command: digests and ciphers go by the command alone, the others by one part of
the instance. -/
def replyWith (globalvalue : Int32) (arith : ArithState β) (tee : ω) (q : Invocation β) :
    Option Reply :=
  match entryOf cfg q.commandId with
  | some .sha224 =>
    let o := taEntrySha224 q.below q.paramTypes q.params
    some (o.res, o.params)
  | some .sha256 =>
    let o := taEntrySha256 q.below q.paramTypes q.params
    some (o.res, o.params)
  | some .aes256ecbEnc =>
    (taEntryAes256ecbEncrypt (A := A) freshRk q.paramTypes q.params).map fun o =>
      (o.res, o.params)
  | some .aes256ecbDec =>
    (taEntryAes256ecbDecrypt (A := A) freshRk q.paramTypes q.params).map fun o =>
      (o.res, o.params)
  | some (.api c) => some ((c.handler E q.paramTypes q.params).run tee).1
  | some .setGlobal => some (setGlobal globalvalue q.paramTypes q.params).1
  | some .getGlobal => some (getGlobal globalvalue q.paramTypes q.params)
  | some (.library c) => some ((library c q.paramTypes q.params).run tee).1
  | some (.arith c) =>
    let o := invokeCommand api A arith ⟨c, q.paramTypes, q.params, q.env⟩
    some (o.res, o.params)
  | none => some (teeErrorBadParameters, q.params)

def replyAfter (tee : ω) (before : List (Invocation β)) (q : Invocation β) : Option Reply :=
  replyWith cfg E library api ((before.filterMap (numberOf cfg)).getLast?.getD 0)
    (TypedHandles.run api A (before.filterMap (requestOf cfg)))
    (runTrace (fun tee m => (m.run tee).2) tee (before.filterMap (callOf cfg E library))) q

theorem entryOf_code {cfg : BuildConfig} {commandId : UInt32} {e : CryptEntry}
    (h : entryOf cfg commandId = some e) : e.code = commandId := by
  simpa using List.find?_some h

/-- Both ways lead to the same digest, and the table has no NULL where it is used. -/
theorem digest_eq {direct : Memory UInt8 → UInt32 → TeeParams → DigestOutcome}
    {q : Invocation β} (htable : taCmdEntries q.commandId.toNat = some direct)
    (s : CryptState A β ω) :
    digest s q direct = some (((direct q.below q.paramTypes q.params).res,
      (direct q.below q.paramTypes q.params).params), { s with useFptr := !s.useFptr }) := by
  unfold digest
  simp only [htable, ite_self, Option.map_some]

/-- A cipher command replies the same whatever the round-key array holds. -/
theorem ecb_replies {setup : Memory (U32 A) → Memory UInt8 → ℤ → ℕ × Memory (U32 A)}
    {crypt : Memory (U32 A) → ℕ → Memory UInt8 → Option (List UInt8)}
    {f : List UInt8 → List UInt8} (h : Blockwise setup crypt f) (paramTypes : UInt32)
    (params : TeeParams) : ∃ r : Reply, ∀ rk, ∃ rk' reads writes,
      taEntryAes256ecb setup crypt rk paramTypes params = some ⟨r.1, r.2, rk', reads, writes⟩ := by
  by_cases ht : paramTypes = ecbParamTypes
  · subst ht
    exact ⟨(_, _), fun rk => ⟨_, _, _, h.accepted rk params⟩⟩
  · exact ⟨(_, _), fun rk => ⟨_, _, _, rejected ht rk params⟩⟩

theorem ecb_eq {setup : Memory (U32 A) → Memory UInt8 → ℤ → ℕ × Memory (U32 A)}
    {crypt : Memory (U32 A) → ℕ → Memory UInt8 → Option (List UInt8)}
    {f : List UInt8 → List UInt8} (h : Blockwise setup crypt f) (s : CryptState A β ω)
    (q : Invocation β) : ∃ r rk, ecb s q (taEntryAes256ecb setup crypt) =
        some (r, { s with rk := rk }) ∧
      (taEntryAes256ecb setup crypt freshRk q.paramTypes q.params).map
        (fun o => (o.res, o.params)) = some r := by
  obtain ⟨r, hr⟩ := ecb_replies h q.paramTypes q.params
  obtain ⟨rk, reads, writes, hrun⟩ := hr s.rk
  obtain ⟨rk', reads', writes', hfresh⟩ := hr freshRk
  refine ⟨r, rk, ?_, ?_⟩
  · rw [ecb, hrun, Option.map_some]
  · rw [hfresh, Option.map_some]

theorem invoke_parts (s : CryptState A β ω) (q : Invocation β) :
    ∃ r useFptr rk, invoke cfg E library api s q = some (r,
        ⟨useFptr, (numberOf cfg q).getD s.globalvalue, rk,
          (requestOf cfg q).elim s.arith fun r => (invokeCommand api A s.arith r).state,
          (callOf cfg E library q).elim s.tee fun m => (m.run s.tee).2⟩) ∧
      replyWith cfg E library api s.globalvalue s.arith s.tee q = some r := by
  unfold invoke replyWith numberOf requestOf callOf
  cases hentry : entryOf cfg q.commandId with
  | none => exact ⟨_, _, _, rfl, rfl⟩
  | some e =>
    have hcode := entryOf_code hentry
    cases e with
    | sha224 =>
      have htable : taCmdEntries q.commandId.toNat = some taEntrySha224 := by
        rw [← hcode]
        rfl
      refine ⟨_, _, _, digest_eq htable s, rfl⟩
    | sha256 =>
      have htable : taCmdEntries q.commandId.toNat = some taEntrySha256 := by
        rw [← hcode]
        rfl
      refine ⟨_, _, _, digest_eq htable s, rfl⟩
    | aes256ecbEnc =>
      obtain ⟨r, rk, hrun, hfresh⟩ := ecb_eq encrypt_blockwise s q
      exact ⟨r, _, rk, hrun, hfresh⟩
    | aes256ecbDec =>
      obtain ⟨r, rk, hrun, hfresh⟩ := ecb_eq decrypt_blockwise s q
      exact ⟨r, _, rk, hrun, hfresh⟩
    | setGlobal =>
      refine ⟨_, s.useFptr, s.rk, ?_, rfl⟩
      unfold setGlobal
      split_ifs <;> simp_all
    | api c => exact ⟨_, _, _, rfl, rfl⟩
    | getGlobal => exact ⟨_, _, _, rfl, rfl⟩
    | library c => exact ⟨_, _, _, rfl, rfl⟩
    | arith c => exact ⟨_, _, _, rfl, rfl⟩

theorem next_parts (s : CryptState A β ω) (q : Invocation β) :
    (next cfg E library api s q).globalvalue = (numberOf cfg q).elim s.globalvalue id ∧
      (next cfg E library api s q).arith =
        (requestOf cfg q).elim s.arith (fun r => (invokeCommand api A s.arith r).state) ∧
      (next cfg E library api s q).tee =
        (callOf cfg E library q).elim s.tee (fun m => (m.run s.tee).2) := by
  obtain ⟨r, useFptr, rk, hrun, -⟩ := invoke_parts cfg E library api s q
  rw [next, hrun, Option.map_some, Option.getD_some]
  exact ⟨by cases numberOf cfg q <;> rfl, rfl, rfl⟩

/-- Whatever commands an instance has had, in any order, it replies to the next as if digests and
ciphers had no history, and the number, the arithmetic and the TEE only their own. -/
theorem instance_replies (tee : ω) (before : List (Invocation β)) (q : Invocation β) :
    reply cfg E library api (runTrace (next cfg E library api) (fresh tee) before) q =
      replyAfter cfg E library api tee before q := by
  have hnumber := runTrace_project CryptState.globalvalue (numberOf cfg) (fun _ v => v)
    (fun s q => (next_parts cfg E library api s q).1) (fresh tee) before
  have harith := runTrace_project CryptState.arith (requestOf cfg)
    (fun a r => (invokeCommand api A a r).state)
    (fun s q => (next_parts cfg E library api s q).2.1) (fresh tee) before
  have htee := runTrace_project CryptState.tee (callOf cfg E library) (fun tee m => (m.run tee).2)
    (fun s q => (next_parts cfg E library api s q).2.2) (fresh tee) before
  obtain ⟨r, useFptr, rk, hrun, hreply⟩ := invoke_parts cfg E library api
    (runTrace (next cfg E library api) (fresh tee) before) q
  rw [reply, hrun, Option.map_some, ← hreply, hnumber, harith, htee, runTrace_replace]
  rfl

end CryptInstance
