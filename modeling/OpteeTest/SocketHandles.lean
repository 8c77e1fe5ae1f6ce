import OpteeTest.WrapperMarshalling

/-! # Sockets of the client

The socket TA keeps no table. An open hands the two pointers of its `struct sock_handle` to the
client, and every later command takes them back from the client's bytes and calls through them. -/
namespace SocketHandles

open ByteMemory TeeApi ClientApi

def putPtr : ℕ → ℕ → List UInt8
  | 0, _ => []
  | n + 1, v => UInt8.ofNat v :: putPtr n (v / 256)

def getPtr : List UInt8 → ℕ
  | [] => 0
  | b :: bs => b.toNat + 256 * getPtr bs

@[simp] theorem length_putPtr (n v : ℕ) : (putPtr n v).length = n := by
  induction n generalizing v with
  | zero => rfl
  | succ n ih => rw [putPtr, List.length_cons, ih]

theorem getPtr_putPtr (n v : ℕ) (h : v < 256 ^ n) : getPtr (putPtr n v) = v := by
  induction n generalizing v with
  | zero =>
    rw [Nat.pow_zero] at h
    rw [putPtr, getPtr]
    omega
  | succ n ih =>
    have hdiv : v / 256 < 256 ^ n := by
      rw [Nat.div_lt_iff_lt_mul (by decide), ← Nat.pow_succ]
      exact h
    rw [putPtr, getPtr, ih _ hdiv, UInt8.toNat_ofNat', Nat.mod_add_div]

theorem getPtr_zeros (off n : ℕ) : getPtr (slice (fun _ => 0) off n) = 0 := by
  have hzeros : slice (fun _ => (0 : UInt8)) off n = List.replicate n 0 := by
    apply List.ext_getElem
    · simp
    · intro i _ _
      simp
  rw [hzeros]
  induction n with
  | zero => rfl
  | succ n ih =>
    have htail : slice (fun _ => (0 : UInt8)) off n = List.replicate n 0 := by
      apply List.ext_getElem
      · simp
      · intro i _ _
        simp
    rw [List.replicate_succ, getPtr, ih htail]
    rfl

inductive Protocol where
  | tcp | udp
  deriving DecidableEq, Repr

structure Setup where
  ipVersion : UInt32
  serverAddr : List UInt8
  serverPort : UInt16
  deriving DecidableEq

inductive SocketCall where
  | open (setup : Setup)
  | close (ctx : ℕ)
  | send (ctx : ℕ) (data : List UInt8) (timeout : UInt32)
  | recv (ctx : ℕ) (length timeout : UInt32)
  | error (ctx : ℕ)
  | ioctl (ctx : ℕ) (commandCode : UInt32) (data : List UInt8)
  deriving DecidableEq

/-- What a call leaves: the bytes go to the front of the caller's buffer, and `word` is the
protocol error of an open or the error that was asked for. -/
structure SocketReply where
  res : TeeResult
  ctx : ℕ
  word : UInt32
  data : List UInt8
  length : UInt32

variable {A : Arch} {σ : Type}

/-- A run of the TA over the state `σ` of the network; there is no result when it dies. -/
abbrev TaRun (σ : Type) := StateT σ Option

def TaRun.die {α : Type} : TaRun σ α := fun _ => none

structure Network (A : Arch) (σ : Type) where
  call : Protocol → SocketCall → TaRun σ SocketReply
  table : Protocol → ℕ
  ctx_lt : ∀ p c s r s', call p c s = some (r, s') → r.ctx < 256 ^ A.sizeofPtr
  table_lt : ∀ p, table p < 256 ^ A.sizeofPtr
  table_ne : table .tcp ≠ table .udp
  table_pos : ∀ p, table p ≠ 0

def Network.protocolAt (N : Network A σ) (ptr : ℕ) : Option Protocol :=
  if ptr = N.table .tcp then some .tcp
  else if ptr = N.table .udp then some .udp
  else none

def sizeofSockHandle (A : Arch) : ℕ := 2 * A.sizeofPtr

def sockHandle (A : Arch) (ctx socket : ℕ) : List UInt8 :=
  putPtr A.sizeofPtr ctx ++ putPtr A.sizeofPtr socket

abbrev SocketHandler (σ : Type) := UInt32 → TeeParams → TaRun σ (TeeResult × TeeParams)

def putWord (i : Fin 4) (a : UInt32) (params : TeeParams) : TeeParams :=
  Function.update params i { params i with value := { (params i).value with a := a } }

def putMemref (i : Fin 4) (r : TeeMemref) (params : TeeParams) : TeeParams :=
  Function.update params i { params i with memref := r }

def memrefBytes (r : TeeMemref) : List UInt8 := slice r.buffer 0 r.size.toNat

def strndup (r : TeeMemref) : List UInt8 := (memrefBytes r).takeWhile (· ≠ 0)

def openTypes : UInt32 := teeParamTypes .valueInput .memrefInput .memrefOutput .valueOutput

/-- `ta_entry_tcp_open` and `ta_entry_udp_open`; `granted` is the answer of the allocator. -/
def taEntryOpen (N : Network A σ) (granted : Bool) (p : Protocol) : SocketHandler σ :=
  fun types params =>
    if types ≠ openTypes then pure (teeErrorBadParameters, params)
    else if (params 2).memref.size.toNat < sizeofSockHandle A then
      pure (teeErrorShortBuffer, putMemref 2
        ⟨(params 2).memref.buffer, UInt32.ofNat (sizeofSockHandle A)⟩ params)
    else if granted = false then pure (teeErrorOutOfMemory, params)
    else do
      let r ← N.call p (.open ⟨(params 0).value.a, strndup (params 1).memref,
        (params 0).value.b.toUInt16⟩)
      let params := putWord 3 r.word params
      if r.res = teeSuccess then
        pure (r.res, putMemref 2 ⟨copyIn (params 2).memref.buffer 0
          (sockHandle A r.ctx (N.table p)), UInt32.ofNat (sizeofSockHandle A)⟩ params)
      else pure (r.res, params)

/-- The frame of the other commands: the size is all that is checked of a handle. -/
def withHandle (N : Network A σ) (expected : UInt32)
    (use : Protocol → ℕ → TeeParams → TaRun σ (TeeResult × TeeParams)) : SocketHandler σ :=
  fun types params =>
    if types ≠ expected then pure (teeErrorBadParameters, params)
    else if (params 0).memref.size.toNat ≠ sizeofSockHandle A then
      pure (teeErrorBadParameters, params)
    else
      let h := (params 0).memref.buffer
      match N.protocolAt (getPtr (slice h A.sizeofPtr A.sizeofPtr)) with
      | some p => use p (getPtr (slice h 0 A.sizeofPtr)) params
      | none => TaRun.die

def taEntryClose (N : Network A σ) : SocketHandler σ :=
  withHandle N (teeParamTypes .memrefInput .none .none .none) fun p ctx params => do
    let r ← N.call p (.close ctx)
    pure (r.res, params)

def taEntrySend (N : Network A σ) : SocketHandler σ :=
  withHandle N (teeParamTypes .memrefInput .memrefInput .valueInout .none) fun p ctx params => do
    let r ← N.call p (.send ctx (memrefBytes (params 1).memref) (params 2).value.a)
    pure (r.res, Function.update params 2
      { params 2 with value := ⟨(params 2).value.a, r.length⟩ })

def taEntryRecv (N : Network A σ) : SocketHandler σ :=
  withHandle N (teeParamTypes .memrefInput .memrefOutput .valueInput .none) fun p ctx params => do
    let r ← N.call p (.recv ctx (params 1).memref.size (params 2).value.a)
    pure (r.res, putMemref 1 ⟨copyIn (params 1).memref.buffer 0 r.data, r.length⟩ params)

def taEntryError (N : Network A σ) : SocketHandler σ :=
  withHandle N (teeParamTypes .memrefInput .valueOutput .none .none) fun p ctx params => do
    let r ← N.call p (.error ctx)
    pure (teeSuccess, putWord 1 r.word params)

def taEntryIoctl (N : Network A σ) : SocketHandler σ :=
  withHandle N (teeParamTypes .memrefInput .memrefInout .valueInput .none) fun p ctx params => do
    let r ← N.call p (.ioctl ctx (params 2).value.a (memrefBytes (params 1).memref))
    pure (r.res, putMemref 1 ⟨copyIn (params 1).memref.buffer 0 r.data, r.length⟩ params)

def socketInvoke (N : Network A σ) (granted : Bool) (commandId : UInt32) : SocketHandler σ :=
  fun types params =>
    if commandId = 0 then taEntryOpen N granted .tcp types params
    else if commandId = 1 then taEntryOpen N granted .udp types params
    else if commandId = 2 then taEntryClose N types params
    else if commandId = 3 then taEntrySend N types params
    else if commandId = 4 then taEntryRecv N types params
    else if commandId = 5 then taEntryError N types params
    else if commandId = 6 then taEntryIoctl N types params
    else pure (teeErrorBadParameters, params)

def Protocol.openCmd : Protocol → UInt32
  | .tcp => 0
  | .udp => 1

/-- `struct socket_handle`: its 16 bytes and how many of them are the handle. -/
abbrev SocketHandle := TempMemoryReference

def zeroHandle : Memory UInt8 := fun _ => 0

def cString (addr : List UInt8) : Memory UInt8 := copyIn (fun _ => 0) 0 (addr ++ [0])

def socketOpen (S : Session (TaRun σ)) (p : Protocol) (ipVers : UInt32)
    (addr : List UInt8) (port : UInt16) : TaRun σ HostResult :=
  hostCall S p.openCmd
    (operation .valueInput .memrefInput .memrefOutput .valueOutput
      (valueParameter ipVers port.toUInt32) (tmprefParameter (cString addr) (addr.length + 1))
      (tmprefParameter zeroHandle 16) zeroParameter)
    fun res op => ⟨res, [(op.params 3).value.a], [(op.params 2).tmpref]⟩

def socketSend (S : Session (TaRun σ)) (handle data : TempMemoryReference)
    (timeout : UInt32) : TaRun σ HostResult :=
  hostCall S 3 (operation .memrefInput .memrefInput .valueInout .none
      (tmprefParameter handle.buffer handle.size) (tmprefParameter data.buffer data.size)
      (valueParameter timeout 0) zeroParameter)
    fun res op => ⟨res, [(op.params 2).value.b], []⟩

def socketRecv (S : Session (TaRun σ)) (handle data : TempMemoryReference)
    (timeout : UInt32) : TaRun σ HostResult :=
  hostCall S 4 (operation .memrefInput .memrefOutput .valueInput .none
      (tmprefParameter handle.buffer handle.size) (tmprefParameter data.buffer data.size)
      (valueParameter timeout 0) zeroParameter)
    fun res op => ⟨res, [], [(op.params 1).tmpref]⟩

def socketGetError (S : Session (TaRun σ)) (handle : TempMemoryReference) :
    TaRun σ HostResult :=
  hostCall S 5 (operation .memrefInput .valueOutput .none .none
      (tmprefParameter handle.buffer handle.size) zeroParameter zeroParameter zeroParameter)
    fun res op => ⟨res, [(op.params 1).value.a], []⟩

def socketClose (S : Session (TaRun σ)) (handle : TempMemoryReference) :
    TaRun σ HostResult :=
  hostCall S 2 (operation .memrefInput .none .none .none
      (tmprefParameter handle.buffer handle.size) zeroParameter zeroParameter zeroParameter) plain

def socketIoctl (S : Session (TaRun σ)) (handle : TempMemoryReference)
    (ioctlCmd : UInt32) (data : TempMemoryReference) : TaRun σ HostResult :=
  hostCall S 6 (operation .memrefInput .memrefInout .valueInput .none
      (tmprefParameter handle.buffer handle.size) (tmprefParameter data.buffer data.size)
      (valueParameter ioctlCmd 0) zeroParameter)
    fun res op => ⟨res, [], [(op.params 1).tmpref]⟩

end SocketHandles
