import OpteeTest.StorageHandlers

/-! # The command handlers of the key TA

The key TA names persistent AES keys. Its enumerator commands are those of the storage TA. -/
namespace KeyHandlers

open ByteMemory TeeApi HandleTransport TeeCalls
open StorageHandlers (teeTypeAes onHandle allocEnum startEnum nextEnum objectTypes)

variable {T : Arch} {m : Type → Type} [Monad m] (E : TaEnv T m)

def namedKeyTypes : UInt32 := teeParamTypes .valueInput .memrefInput .valueInput .valueOutput

/-- The file name is copied with a terminator; the size of the copy is a `uint32_t`. -/
def nameBlock (params : TeeParams) : ℕ := ((params 1).memref.size.toNat + 1) % 2 ^ 32

/-- From the generated key on: its info is read and it is stored under its name. -/
def storeGenerated (transient : ℕ) (params : TeeParams) : m (TeeResult × TeeParams) := do
  let i ← E.api (.getObjectInfo1 transient)
  if i.res ≠ teeSuccess then pure (i.res, params)
  else
    let granted ← E.malloc (nameBlock params)
    if ¬ granted then pure (teeErrorOutOfMemory, params)
    else if (params 1).memref.size = 0 then pure (teeErrorBadParameters, params)
    else
      let c ← E.api (.createPersistentObject (params 0).value.a (bytes (params 1).memref)
        (params 2).value.a transient [])
      if c.res ≠ teeSuccess then pure (c.res, params)
      else pure (teeSuccess, putValue 3 (truncateHandle c.handle) (params 3).value.b params)

def taKeyCmdGenerate : Handler m := fun paramTypes params =>
  if paramTypes ≠ namedKeyTypes then pure (teeErrorBadParameters, params)
  else if (params 2).value.b ≠ 128 ∧ (params 2).value.b ≠ 192 ∧ (params 2).value.b ≠ 256 then
    pure (teeErrorNotSupported, params)
  else do
    let t ← E.api (.allocateTransientObject teeTypeAes (params 2).value.b)
    if t.res ≠ teeSuccess then pure (t.res, params)
    else
      let g ← E.api (.generateKey t.handle (params 2).value.b [])
      let out ← if g.res ≠ teeSuccess then pure (g.res, params)
        else storeGenerated E t.handle params
      let _ ← E.api (.freeTransientObject t.handle)
      pure out

def taKeyCmdOpen : Handler m := fun paramTypes params =>
  if paramTypes ≠ namedKeyTypes then pure (teeErrorBadParameters, params)
  else do
    let granted ← E.malloc (nameBlock params)
    if ¬ granted then pure (teeErrorOutOfMemory, params)
    else
      let r ← E.api (.openPersistentObject (params 0).value.a (bytes (params 1).memref)
        (params 2).value.a)
      if r.res ≠ teeSuccess then pure (r.res, params)
      else pure (r.res, putValue 3 (truncateHandle r.handle) (params 3).value.b params)

def taKeyCmdClose : Handler m := onHandle E .closeObject

/-- The result of `TEE_CloseAndDeletePersistentObject1` is dropped. -/
def taKeyCmdCloseAndDelete : Handler m := onHandle E .closeAndDeletePersistentObject1

/-- The result of `TEE_GetObjectInfo1` is overwritten. -/
def taKeyCmdGetObjectBufferAttribute : Handler m := fun paramTypes params =>
  if paramTypes ≠ teeParamTypes .valueInput .memrefOutput .none .none then
    pure (teeErrorBadParameters, params)
  else do
    let o := widenVal (params 0).value.a
    let _ ← E.api (.getObjectInfo1 o)
    let r ← E.api (.getObjectBufferAttribute o (params 0).value.b (params 1).memref.size)
    pure (answerOutput 1 r params)

def taKeyCmdGetObjectValueAttribute : Handler m :=
  singleCall E (teeParamTypes .valueInput .valueOutput .none .none) (fun params =>
    .getObjectValueAttribute (widenVal (params 0).value.a) (params 0).value.b)
    fun r params => (r.res, putValue 1 r.a r.b params)

def taKeyCmdAllocEnum : Handler m := allocEnum E

def taKeyCmdFreeEnum : Handler m := onHandle E .freePersistentObjectEnumerator

def taKeyCmdResetEnum : Handler m := onHandle E .resetPersistentObjectEnumerator

def taKeyCmdStartEnum : Handler m := startEnum E

def taKeyCmdNextEnum : Handler m := nextEnum E

/-- The listing loop; the length of an object id is what the last round left. -/
def listObjects (enumerator : ℕ) (objectIDLen : UInt32) : ℕ → m Unit
  | 0 => E.stuck
  | fuel + 1 => do
    let r ← E.api (.getNextPersistentObject enumerator true objectIDLen)
    if r.res = teeSuccess then listObjects enumerator r.size fuel else pure ()

/-- `objectIDLen` is not initialised before the loop. -/
def taKeyCmdList : Handler m := fun paramTypes params =>
  if paramTypes ≠ objectTypes then pure (teeErrorBadParameters, params)
  else do
    let e ← E.api .allocatePersistentObjectEnumerator
    if e.res ≠ teeSuccess then pure (e.res, params)
    else
      let s ← E.api (.startPersistentObjectEnumerator e.handle (params 0).value.a)
      if s.res = teeSuccess then listObjects E e.handle E.stackWord E.fuel
      let _ ← E.api (.freePersistentObjectEnumerator e.handle)
      pure (s.res, params)

inductive KeyCommand where
  | generate | list | allocEnum | freeEnum | resetEnum | startEnum | nextEnum | open | close
  | closeAndDelete | getObjectBufferAttribute | getObjectValueAttribute
  deriving DecidableEq, Repr

def KeyCommand.code : KeyCommand → UInt32
  | .generate => 1
  | .list => 2
  | .allocEnum => 3
  | .freeEnum => 4
  | .resetEnum => 5
  | .startEnum => 6
  | .nextEnum => 7
  | .open => 8
  | .close => 9
  | .closeAndDelete => 10
  | .getObjectBufferAttribute => 11
  | .getObjectValueAttribute => 12

def KeyCommand.all : List KeyCommand :=
  [.generate, .list, .allocEnum, .freeEnum, .resetEnum, .startEnum, .nextEnum, .open, .close,
    .closeAndDelete, .getObjectBufferAttribute, .getObjectValueAttribute]

def KeyCommand.handler : KeyCommand → Handler m
  | .generate => taKeyCmdGenerate E
  | .list => taKeyCmdList E
  | .allocEnum => taKeyCmdAllocEnum E
  | .freeEnum => taKeyCmdFreeEnum E
  | .resetEnum => taKeyCmdResetEnum E
  | .startEnum => taKeyCmdStartEnum E
  | .nextEnum => taKeyCmdNextEnum E
  | .open => taKeyCmdOpen E
  | .close => taKeyCmdClose E
  | .closeAndDelete => taKeyCmdCloseAndDelete E
  | .getObjectBufferAttribute => taKeyCmdGetObjectBufferAttribute E
  | .getObjectValueAttribute => taKeyCmdGetObjectValueAttribute E

def keyInvoke (commandId : UInt32) : Handler m :=
  match KeyCommand.all.find? fun c => c.code = commandId with
  | some c => c.handler E
  | none => fun _ params => pure (teeErrorBadParameters, params)

theorem keyInvoke_code (c : KeyCommand) :
    keyInvoke E c.code = c.handler E := by
  have hfind : KeyCommand.all.find? (fun d => d.code = c.code) = some c := by
    cases c <;> decide
  rw [keyInvoke, hfind]

end KeyHandlers
