import OpteeTest.GuardedRun
import OpteeTest.SocketHandles
import OpteeTest.StorageMarshalling

/-! # The client's sockets and those of the network

A client with numbered handles runs against the TA. What it sees is what it would see if it called
the interfaces itself, but for the handles that a failed open leaves. -/
namespace SocketRuns

open ByteMemory TeeApi ClientApi GuardedRun SocketHandles
open WrapperMarshalling (left left_success hostCall_eq)
open StorageMarshalling (copyBack_self)

variable {A : Arch} {σ : Type}

inductive Use where
  | send (data : TempMemoryReference) (timeout : UInt32)
  | recv (data : TempMemoryReference) (timeout : UInt32)
  | getError
  | close
  | ioctl (ioctlCmd : UInt32) (data : TempMemoryReference)

def Use.run (S : Session (TaRun σ)) (handle : SocketHandle) : Use → TaRun σ HostResult
  | .send data timeout => socketSend S handle data timeout
  | .recv data timeout => socketRecv S handle data timeout
  | .getError => socketGetError S handle
  | .close => socketClose S handle
  | .ioctl ioctlCmd data => socketIoctl S handle ioctlCmd data

def Use.Sized : Use → Prop
  | .send data _ | .recv data _ | .ioctl _ data => data.size < 2 ^ 32
  | .getError | .close => True

inductive HostCall where
  | open (slot : ℕ) (p : Protocol) (ipVers : UInt32) (addr : List UInt8) (port : UInt16)
      (granted : Bool)
  | use (slot : ℕ) (u : Use)

structure Host (σ : Type) where
  handles : ℕ → SocketHandle
  ta : Option σ

/-- The reply without the handle; there is none from a dead TA. Whether the TA can copy a name is
part of the call, so there is a session for either answer. -/
def hostStep (S : Bool → Session (TaRun σ)) (s : Host σ) : HostCall → Option HostResult × Host σ
  | .open slot p ipVers addr port granted => match s.ta with
    | none => (none, s)
    | some w => match socketOpen (S granted) p ipVers addr port w with
      | none => (none, { s with ta := none })
      | some (r, w) => (some { r with outs := [] },
        ⟨Function.update s.handles slot (r.outs.headD ⟨zeroHandle, 0⟩), some w⟩)
  | .use slot u => match s.ta with
    | none => (none, s)
    | some w => match u.run (S true) (s.handles slot) w with
      | none => (none, { s with ta := none })
      | some (r, w) => (some r, { s with ta := some w })

inductive Socket where
  | unset
  | failed
  | opened (p : Protocol) (ctx : ℕ)
  deriving DecidableEq

structure Client (σ : Type) where
  sockets : ℕ → Socket
  net : Option σ

def Use.call (ctx : ℕ) : Use → SocketCall
  | .send data timeout => .send ctx (slice data.buffer 0 data.size) timeout
  | .recv data timeout => .recv ctx (UInt32.ofNat data.size) timeout
  | .getError => .error ctx
  | .close => .close ctx
  | .ioctl ioctlCmd data => .ioctl ctx ioctlCmd (slice data.buffer 0 data.size)

def Use.result (r : SocketReply) : Use → HostResult
  | .send _ _ => ⟨r.res, [r.length], []⟩
  | .recv data _ | .ioctl _ data => ⟨r.res, [], [left data r.data r.length]⟩
  | .getError => ⟨teeSuccess, [r.word], []⟩
  | .close => ⟨r.res, [], []⟩

def Use.refused : Use → HostResult
  | .send _ _ | .getError => ⟨teeErrorBadParameters, [0], []⟩
  | .recv data _ | .ioctl _ data => ⟨teeErrorBadParameters, [], [data]⟩
  | .close => ⟨teeErrorBadParameters, [], []⟩

/-- What the client sees of a use. The handle of a failed open has 16 bytes, all of them zero: a TA
whose own handles are shorter refuses it, and the others call through it. -/
def Use.seen (N : Network A σ) (w : σ) (u : Use) : Socket → Option (HostResult × σ)
  | .unset => none
  | .opened p ctx => (N.call p (u.call ctx) w).map fun out => (u.result out.1, out.2)
  | .failed => if sizeofSockHandle A = 16 then none else some (u.refused, w)

def openSeen (N : Network A σ) (granted : Bool) (p : Protocol) (setup : Setup) (w : σ) :
    Option ((HostResult × Socket) × σ) :=
  if granted = false then some ((⟨teeErrorOutOfMemory, [0], []⟩, .failed), w)
  else (N.call p (.open setup) w).map fun out => ((⟨out.1.res, [out.1.word], []⟩,
    if out.1.res = teeSuccess then .opened p out.1.ctx else .failed), out.2)

def clientStep (N : Network A σ) (s : Client σ) : HostCall → Option HostResult × Client σ
  | .open slot p ipVers addr port granted => match s.net with
    | none => (none, s)
    | some w => match openSeen N granted p ⟨ipVers, addr, port⟩ w with
      | none => (none, { s with net := none })
      | some ((r, k), w) => (some r, ⟨Function.update s.sockets slot k, some w⟩)
  | .use slot u => match s.net with
    | none => (none, s)
    | some w => match u.seen N w (s.sockets slot) with
      | none => (none, { s with net := none })
      | some (r, w) => (some r, { s with net := some w })

/-- Names are C strings, sizes fit, and only what was opened is used. -/
def Proper (s : Client σ) : HostCall → Prop
  | .open _ _ _ addr _ _ => 0 ∉ addr ∧ addr.length + 1 < 2 ^ 32
  | .use slot u => u.Sized ∧ s.sockets slot ≠ .unset

variable {N : Network A σ} {S : Session (TaRun σ)} {w : σ} {handle : SocketHandle} {p : Protocol}
variable {ctx : ℕ}

def handleOf (N : Network A σ) : Socket → SocketHandle
  | .unset | .failed => ⟨zeroHandle, 16⟩
  | .opened p ctx => ⟨copyIn zeroHandle 0 (sockHandle A ctx (N.table p)), sizeofSockHandle A⟩

def Names (N : Network A σ) (handle : SocketHandle) : Socket → Prop
  | .unset => True
  | .failed => handle = handleOf N .failed
  | .opened p ctx => ctx < 256 ^ A.sizeofPtr ∧ handle = handleOf N (.opened p ctx)

theorem protocolAt_table (N : Network A σ) (p : Protocol) : N.protocolAt (N.table p) = some p := by
  unfold Network.protocolAt
  cases p with
  | tcp => rw [if_pos rfl]
  | udp => rw [if_neg N.table_ne.symm, if_pos rfl]

theorem protocolAt_zero (N : Network A σ) : N.protocolAt 0 = none := by
  unfold Network.protocolAt
  rw [if_neg (N.table_pos .tcp).symm, if_neg (N.table_pos .udp).symm]

theorem length_sockHandle (ctx socket : ℕ) :
    (sockHandle A ctx socket).length = sizeofSockHandle A := by
  simp only [sockHandle, List.length_append, length_putPtr, sizeofSockHandle]
  omega

theorem sockHandle_ptrs (ctx socket : ℕ) (hctx : ctx < 256 ^ A.sizeofPtr)
    (hsocket : socket < 256 ^ A.sizeofPtr) (m : Memory UInt8) :
    getPtr (slice (copyIn m 0 (sockHandle A ctx socket)) 0 A.sizeofPtr) = ctx ∧
      getPtr (slice (copyIn m 0 (sockHandle A ctx socket)) A.sizeofPtr A.sizeofPtr) = socket := by
  have hall := slice_copyIn m 0 (sockHandle A ctx socket)
  have hlen : (sockHandle A ctx socket).length = A.sizeofPtr + A.sizeofPtr := by
    rw [length_sockHandle, sizeofSockHandle]
    omega
  rw [hlen, slice_eq_append, Nat.zero_add] at hall
  obtain ⟨hfirst, hsecond⟩ := List.append_inj hall (by simp)
  rw [hfirst, hsecond, getPtr_putPtr _ _ hctx, getPtr_putPtr _ _ hsocket]
  exact ⟨rfl, rfl⟩

theorem sizeofSockHandle_lt : sizeofSockHandle A < 2 ^ 32 := by
  cases A <;> decide

variable {types : UInt32} {params : TeeParams}
variable {use : Protocol → ℕ → TeeParams → TaRun σ (TeeResult × TeeParams)}

theorem withHandle_opened (h : Names N handle (.opened p ctx))
    (hparam : (params 0).memref = ⟨handle.buffer, UInt32.ofNat handle.size⟩) :
    withHandle N types use types params = use p ctx params := by
  obtain ⟨hctx, rfl⟩ := h
  obtain ⟨hfirst, hsecond⟩ := sockHandle_ptrs ctx (N.table p) hctx (N.table_lt p) zeroHandle
  have hsize : (UInt32.ofNat (sizeofSockHandle A)).toNat = sizeofSockHandle A :=
    UInt32.toNat_ofNat_of_lt' sizeofSockHandle_lt
  unfold withHandle
  rw [if_neg (not_not.mpr rfl), hparam, handleOf, if_neg (not_not.mpr hsize)]
  dsimp only
  rw [hfirst, hsecond, protocolAt_table]

theorem withHandle_failed
    (hparam : (params 0).memref = ⟨zeroHandle, UInt32.ofNat 16⟩) :
    withHandle N types use types params =
      if sizeofSockHandle A = 16 then TaRun.die else pure (teeErrorBadParameters, params) := by
  have hsize : (UInt32.ofNat 16).toNat = 16 := rfl
  unfold withHandle
  rw [if_neg (not_not.mpr rfl), hparam, hsize]
  by_cases harch : sizeofSockHandle A = 16
  · rw [if_pos harch, if_neg (not_not.mpr harch.symm)]
    dsimp only
    unfold zeroHandle
    rw [getPtr_zeros, protocolAt_zero]
  · rw [if_neg harch, if_pos fun h => harch h.symm]

theorem size_lt {k : Socket} (h : Names N handle k) (hk : k ≠ .unset) : handle.size < 2 ^ 32 := by
  cases k with
  | unset => exact absurd rfl hk
  | failed =>
    rw [h]
    exact Nat.lt_of_sub_eq_succ rfl
  | opened p ctx =>
    rw [h.2]
    exact sizeofSockHandle_lt

def onHandle (handle : SocketHandle) (t₁ t₂ t₃ : ParamType) (p₁ p₂ p₃ : TeecParameter) :
    TeecOperation :=
  operation .memrefInput t₁ t₂ t₃ (tmprefParameter handle.buffer handle.size) p₁ p₂ p₃

variable {t₁ t₂ t₃ : ParamType} {p₁ p₂ p₃ : TeecParameter} {commandId : UInt32}
variable {finish : TeeResult → TeecOperation → HostResult} {k : Socket}

def delivered (handle : SocketHandle) (t₁ t₂ t₃ : ParamType) (p₁ p₂ p₃ : TeecParameter) :
    TeeParams :=
  ![deliverAs .memrefInput (tmprefParameter handle.buffer handle.size), deliverAs t₁ p₁,
    deliverAs t₂ p₂, deliverAs t₃ p₃]

theorem bytes_sized {r : TempMemoryReference} (h : r.size < 2 ^ 32) :
    memrefBytes ⟨r.buffer, UInt32.ofNat r.size⟩ = slice r.buffer 0 r.size := by
  rw [memrefBytes, UInt32.toNat_ofNat_of_lt' h]

theorem call_named (hS : Connects S (socketInvoke N true)) {u : Use} (h : Names N handle k)
    (hk : k ≠ .unset) (hta : socketInvoke N true commandId =
      withHandle N (teeParamTypes .memrefInput t₁ t₂ t₃) use)
    (hfit : Fits t₁ p₁ ∧ Fits t₂ p₂ ∧ Fits t₃ p₃)
    {out : SocketReply → TeeResult × TeeParams}
    (hrun : ∀ p ctx, use p ctx (delivered handle t₁ t₂ t₃ p₁ p₂ p₃) = (do
      let r ← N.call p (u.call ctx)
      pure (out r)))
    (hresult : ∀ r, finish (out r).1 (collect (onHandle handle t₁ t₂ t₃ p₁ p₂ p₃) (out r).2) =
      u.result r)
    (hrefused : finish teeErrorBadParameters (collect (onHandle handle t₁ t₂ t₃ p₁ p₂ p₃)
      (delivered handle t₁ t₂ t₃ p₁ p₂ p₃)) = u.refused) :
    hostCall S commandId (onHandle handle t₁ t₂ t₃ p₁ p₂ p₃) finish w =
      u.seen N w k := by
  have hsize : Fits .memrefInput (tmprefParameter handle.buffer handle.size) := size_lt h hk
  have htrans : Transportable (onHandle handle t₁ t₂ t₃ p₁ p₂ p₃) :=
    transportable_operation.mpr ⟨hsize, hfit⟩
  have htypes : (onHandle handle t₁ t₂ t₃ p₁ p₂ p₃).paramTypes =
    teeParamTypes .memrefInput t₁ t₂ t₃ := rfl
  have hdeliver : deliver (onHandle handle t₁ t₂ t₃ p₁ p₂ p₃) =
      delivered handle t₁ t₂ t₃ p₁ p₂ p₃ := deliver_operation
  rw [hostCall_eq hS htrans hta, htypes, hdeliver]
  cases k with
  | unset => exact absurd rfl hk
  | opened p ctx =>
    rw [withHandle_opened h rfl, hrun, Use.seen]
    cases hcall : N.call p (u.call ctx) w with
    | none => simp [bind, StateT.bind, hcall]
    | some r =>
      simp only [bind, StateT.bind, hcall, Option.bind_some]
      exact congrArg (fun h => some (h, r.2)) (hresult r.1)
  | failed =>
    have hparam : (delivered handle t₁ t₂ t₃ p₁ p₂ p₃ 0).memref =
        ⟨zeroHandle, UInt32.ofNat 16⟩ := by
      rw [show handle = ⟨zeroHandle, 16⟩ from h]
      rfl
    rw [withHandle_failed hparam, Use.seen]
    split
    · rfl
    · rw [← hrefused]
      rfl

theorem use_named (hS : Connects S (socketInvoke N true)) (h : Names N handle k)
    (hk : k ≠ .unset) (u : Use) (hu : u.Sized) :
    u.run S handle w = u.seen N w k := by
  cases u with
  | send data timeout =>
    have hta : socketInvoke N true 3 = taEntrySend N := rfl
    change hostCall S 3 (onHandle handle .memrefInput .valueInout .none
      (tmprefParameter data.buffer data.size) (valueParameter timeout 0) zeroParameter)
      (fun res op => ⟨res, [(op.params 2).value.b], []⟩) w = _
    apply call_named hS h hk hta (by exact ⟨hu, trivial, trivial⟩)
    · intro p ctx
      rw [Use.call, ← bytes_sized hu]
      rfl
    · intro r
      rw [onHandle, collect_operation]
      rfl
    · rw [onHandle, collect_operation]
      rfl
  | recv data timeout =>
    have hta : socketInvoke N true 4 = taEntryRecv N := rfl
    change hostCall S 4 (onHandle handle .memrefOutput .valueInput .none
      (tmprefParameter data.buffer data.size) (valueParameter timeout 0) zeroParameter)
      (fun res op => ⟨res, [], [(op.params 1).tmpref]⟩) w = _
    apply call_named hS h hk hta (by exact ⟨hu, trivial, trivial⟩)
    · intro p ctx
      rfl
    · intro r
      rw [onHandle, collect_operation]
      rfl
    · rw [onHandle, collect_operation]
      exact congrArg (fun r => HostResult.mk _ [] [r]) (copyBack_self hu)
  | getError =>
    have hta : socketInvoke N true 5 = taEntryError N := rfl
    change hostCall S 5 (onHandle handle .valueOutput .none .none
      zeroParameter zeroParameter zeroParameter)
      (fun res op => ⟨res, [(op.params 1).value.a], []⟩) w = _
    apply call_named hS h hk hta ⟨trivial, trivial, trivial⟩
    · intro p ctx
      rfl
    · intro r
      rw [onHandle, collect_operation]
      rfl
    · rw [onHandle, collect_operation]
      rfl
  | close =>
    have hta : socketInvoke N true 2 = taEntryClose N := rfl
    change hostCall S 2 (onHandle handle .none .none .none
      zeroParameter zeroParameter zeroParameter) plain w = _
    apply call_named hS h hk hta ⟨trivial, trivial, trivial⟩
    · intro p ctx
      rfl
    · intro r
      rfl
    · rfl
  | ioctl ioctlCmd data =>
    have hta : socketInvoke N true 6 = taEntryIoctl N := rfl
    change hostCall S 6 (onHandle handle .memrefInout .valueInput .none
      (tmprefParameter data.buffer data.size) (valueParameter ioctlCmd 0) zeroParameter)
      (fun res op => ⟨res, [], [(op.params 1).tmpref]⟩) w = _
    apply call_named hS h hk hta (by exact ⟨hu, trivial, trivial⟩)
    · intro p ctx
      rw [Use.call, ← bytes_sized hu]
      rfl
    · intro r
      rw [onHandle, collect_operation]
      rfl
    · rw [onHandle, collect_operation]
      exact congrArg (fun r => HostResult.mk _ [] [r]) (copyBack_self hu)

variable {addr : List UInt8}

theorem strndup_cString (haddr : 0 ∉ addr) (hlen : addr.length + 1 < 2 ^ 32) :
    strndup ⟨cString addr, UInt32.ofNat (addr.length + 1)⟩ = addr := by
  have hbytes : memrefBytes ⟨cString addr, UInt32.ofNat (addr.length + 1)⟩ = addr ++ [0] := by
    have hall := slice_copyIn (fun _ => (0 : UInt8)) 0 (addr ++ [0])
    rw [List.length_append, List.length_singleton] at hall
    rw [memrefBytes, UInt32.toNat_ofNat_of_lt' hlen]
    exact hall
  rw [strndup, hbytes]
  exact takeWhile_text haddr []

def afterOpen (N : Network A σ) (p : Protocol) (params : TeeParams) (r : SocketReply) : TeeParams :=
  if r.res = teeSuccess then putMemref 2 ⟨copyIn (params 2).memref.buffer 0
    (sockHandle A r.ctx (N.table p)), UInt32.ofNat (sizeofSockHandle A)⟩ (putWord 3 r.word params)
  else putWord 3 r.word params

theorem taEntryOpen_run {granted : Bool}
    (hroom : sizeofSockHandle A ≤ (params 2).memref.size.toNat) :
    taEntryOpen N granted p openTypes params =
      (if granted = false then pure (teeErrorOutOfMemory, params)
      else do
        let r ← N.call p (.open ⟨(params 0).value.a, strndup (params 1).memref,
          (params 0).value.b.toUInt16⟩)
        pure (r.res, afterOpen N p params r)) := by
  unfold taEntryOpen
  rw [if_neg (not_not.mpr rfl), if_neg (Nat.not_lt.mpr hroom)]
  split
  · rfl
  · refine bind_congr fun r => ?_
    unfold afterOpen
    by_cases hres : r.res = teeSuccess
    · rw [if_pos hres, if_pos hres]
      rfl
    · rw [if_neg hres, if_neg hres]

def openOperation (ipVers : UInt32) (addr : List UInt8) (port : UInt16) : TeecOperation :=
  operation .valueInput .memrefInput .memrefOutput .valueOutput
    (valueParameter ipVers port.toUInt32) (tmprefParameter (cString addr) (addr.length + 1))
    (tmprefParameter zeroHandle 16) zeroParameter

theorem sizeofSockHandle_le : sizeofSockHandle A ≤ 16 := by
  cases A <;> decide

theorem zeroHandle_kept :
    copyBack ⟨zeroHandle, 16⟩ ⟨zeroHandle, UInt32.ofNat 16⟩ = ⟨zeroHandle, 16⟩ :=
  copyBack_self (r := ⟨zeroHandle, 16⟩) (Nat.lt_of_sub_eq_succ rfl)

theorem collect_afterOpen (ipVers : UInt32) (addr : List UInt8) (port : UInt16)
    (r : SocketReply) :
    let op := openOperation ipVers addr port
    let left := (collect op (afterOpen N p (deliver op) r)).params
    (left 3).value.a = r.word ∧ (left 2).tmpref =
      handleOf N (if r.res = teeSuccess then .opened p r.ctx else .failed) := by
  intro op left
  have hleft : left = _ := collect_operation _
  have hdeliver : deliver op = _ := deliver_operation
  rw [hleft, hdeliver]
  unfold afterOpen
  by_cases hres : r.res = teeSuccess
  · rw [if_pos hres, if_pos hres]
    have hsize : (UInt32.ofNat (sizeofSockHandle A)).toNat =
        (sockHandle A r.ctx (N.table p)).length := by
      rw [UInt32.toNat_ofNat_of_lt' sizeofSockHandle_lt, length_sockHandle]
    have hroom : (sockHandle A r.ctx (N.table p)).length ≤ 16 := by
      rw [length_sockHandle]
      exact sizeofSockHandle_le
    refine ⟨rfl, ?_⟩
    have hback : WrapperMarshalling.left ⟨zeroHandle, 16⟩ (sockHandle A r.ctx (N.table p))
        (UInt32.ofNat (sizeofSockHandle A)) =
          ⟨copyIn zeroHandle 0 (sockHandle A r.ctx (N.table p)),
            (sockHandle A r.ctx (N.table p)).length⟩ := left_success hsize hroom
    refine hback.trans ?_
    rw [length_sockHandle, handleOf]
  · rw [if_neg hres, if_neg hres]
    exact ⟨rfl, zeroHandle_kept⟩

/-- An open through the TA is an open of the interface, and leaves the handle that names what
came of it. -/
theorem open_named {granted : Bool} (hS : Connects S (socketInvoke N granted)) (haddr : 0 ∉ addr)
    (hlen : addr.length + 1 < 2 ^ 32) (ipVers : UInt32) (port : UInt16) :
    socketOpen S p ipVers addr port w =
      (openSeen N granted p ⟨ipVers, addr, port⟩ w).map fun out =>
        (⟨out.1.1.res, out.1.1.words, [handleOf N out.1.2]⟩, out.2) := by
  have hta : socketInvoke N granted p.openCmd = taEntryOpen N granted p := by
    cases p <;> rfl
  have htrans : Transportable (openOperation ipVers addr port) :=
    transportable_operation.mpr ⟨trivial, hlen, Nat.lt_of_sub_eq_succ rfl, trivial⟩
  have htypes : (openOperation ipVers addr port).paramTypes = openTypes := rfl
  have hroom : sizeofSockHandle A ≤
      (deliver (openOperation ipVers addr port) 2).memref.size.toNat := by
    rw [openOperation, deliver_operation]
    exact sizeofSockHandle_le
  change hostCall S p.openCmd (openOperation ipVers addr port)
    (fun res op => ⟨res, [(op.params 3).value.a], [(op.params 2).tmpref]⟩) w = _
  rw [hostCall_eq hS htrans hta, htypes, taEntryOpen_run hroom, openSeen]
  cases granted with
  | false =>
    rw [if_pos rfl, if_pos rfl]
    refine congrArg some (Prod.ext ?_ rfl)
    change HostResult.mk _ [_] [_] = _
    rw [openOperation, collect_operation, deliver_operation]
    exact congrArg (fun r => HostResult.mk _ [0] [r]) zeroHandle_kept
  | true =>
    have hsetup : strndup ⟨cString addr, UInt32.ofNat (addr.length + 1)⟩ = addr :=
      strndup_cString haddr hlen
    have hport : port.toUInt32.toUInt16 = port := UInt16.toUInt16_toUInt32 port
    have hparams : (deliver (openOperation ipVers addr port) 0).value = ⟨ipVers, port.toUInt32⟩ ∧
        (deliver (openOperation ipVers addr port) 1).memref =
          ⟨cString addr, UInt32.ofNat (addr.length + 1)⟩ := by
      rw [openOperation, deliver_operation]
      exact ⟨rfl, rfl⟩
    rw [if_neg Bool.noConfusion, if_neg Bool.noConfusion, hparams.1, hparams.2, hsetup, hport]
    cases hcall : N.call p (.open ⟨ipVers, addr, port⟩) w with
    | none => simp [bind, StateT.bind, hcall]
    | some out =>
      obtain ⟨hword, hhandle⟩ := collect_afterOpen (N := N) (p := p) ipVers addr port out.1
      simp only [bind, StateT.bind, hcall, Option.bind_some]
      change some (HostResult.mk _ [_] [_], _) = _
      rw [hword, hhandle]
      rfl

theorem names_opened {setup : Setup} {granted : Bool} {r : HostResult} {w' : σ}
    (h : openSeen N granted p setup w = some ((r, k), w')) :
    Names N (handleOf N k) k ∧ r.outs = [] := by
  unfold openSeen at h
  split_ifs at h
  · cases h
    exact ⟨rfl, rfl⟩
  · obtain ⟨out, hcall, hout⟩ := Option.map_eq_some_iff.mp h
    cases hout
    refine ⟨?_, rfl⟩
    split_ifs
    · exact ⟨N.ctx_lt p _ w _ _ hcall, rfl⟩
    · rfl

structure Mirrors (N : Network A σ) (s : Host σ) (t : Client σ) : Prop where
  net : s.ta = t.net
  names : ∀ slot, Names N (s.handles slot) (t.sockets slot)

theorem step_mirrors {S : Bool → Session (TaRun σ)}
    (hS : ∀ granted, Connects (S granted) (socketInvoke N granted)) (s : Host σ) (t : Client σ)
    (c : HostCall) (h : Mirrors N s t) (hc : Proper t c) :
    (hostStep S s c).1 = (clientStep N t c).1 ∧
      Mirrors N (hostStep S s c).2 (clientStep N t c).2 := by
  cases hnet : t.net with
  | none =>
    have hta : s.ta = none := h.net.trans hnet
    cases c <;> simp only [hostStep, clientStep, hta, hnet] <;> exact ⟨trivial, h⟩
  | some w =>
    have hta : s.ta = some w := h.net.trans hnet
    cases c with
    | «open» slot p ipVers addr port granted =>
      have hrun := open_named (p := p) (w := w) (hS granted) hc.1 hc.2 ipVers port
      simp only [hostStep, clientStep, hta, hnet]
      rw [hrun]
      cases hseen : openSeen N granted p ⟨ipVers, addr, port⟩ w with
      | none => exact ⟨rfl, rfl, h.names⟩
      | some out =>
        obtain ⟨hnames, houts⟩ := names_opened hseen
        refine ⟨?_, rfl, fun j => ?_⟩
        · exact congrArg (fun l => some (HostResult.mk _ _ l)) houts.symm
        · rcases eq_or_ne j slot with rfl | hne
          · simp only [Option.map_some, List.headD_cons, Function.update_self]
            exact hnames
          · simp only [Option.map_some, Function.update_of_ne hne]
            exact h.names j
    | use slot u =>
      have hrun := use_named (w := w) (hS true) (h.names slot) hc.2 u hc.1
      simp only [hostStep, clientStep, hta, hnet]
      rw [hrun]
      cases u.seen N w (t.sockets slot) with
      | none => exact ⟨rfl, rfl, h.names⟩
      | some out => exact ⟨rfl, rfl, h.names⟩

def unsetClient (w : σ) : Client σ := ⟨fun _ => .unset, some w⟩

/-- Whatever the network is, a client that runs through the TA gets what it would get from the
interfaces, and its handles are those of the TA, byte for byte. Its numbers need not hold anything
before they are opened. -/
theorem sockets_refine (N : Network A σ) {S : Bool → Session (TaRun σ)}
    (hS : ∀ granted, Connects (S granted) (socketInvoke N granted)) (handles : ℕ → SocketHandle)
    (w : σ) (cs : List HostCall)
    (hv : ValidTrace (fun t c => (clientStep N t c).2) Proper (unsetClient w) cs) :
    runOutputs (hostStep S) ⟨handles, some w⟩ cs =
        runOutputs (clientStep N) (unsetClient w) cs ∧
      Mirrors N (runTrace (fun s c => (hostStep S s c).2) ⟨handles, some w⟩ cs)
        (runTrace (fun t c => (clientStep N t c).2) (unsetClient w) cs) :=
  runOutputs_refines (step_mirrors hS) ⟨rfl, fun _ => trivial⟩ hv

def loopback : Network .arm64 (List UInt8) where
  call := fun _ c s => match c with
    | .open _ => some (⟨teeSuccess, 7, 0, [], 0⟩, s)
    | .send _ data _ => some (⟨teeSuccess, 0, 0, [], UInt32.ofNat data.length⟩, data)
    | _ => some (⟨teeSuccess, 0, 0, s, UInt32.ofNat s.length⟩, s)
  table := fun p => match p with
    | .tcp => 1
    | .udp => 2
  ctx_lt := by
    intro p c s r s' h
    cases c <;> cases h <;> simp [Arch.sizeofPtr]
  table_lt := by
    intro p
    cases p <;> decide
  table_ne := by decide
  table_pos := by
    intro p
    cases p <;> decide

theorem sockets_refine_loopback :
    let cs := [.open 0 .udp 4 [49] 80 true, .use 0 (.send ⟨fun _ => 5, 3⟩ 9),
      .use 0 (.recv ⟨fun _ => 0, 8⟩ 9), .use 0 .close]
    let S := fun granted => carried (socketInvoke loopback granted)
    runOutputs (hostStep S) ⟨fun _ => ⟨zeroHandle, 0⟩, some []⟩ cs =
        runOutputs (clientStep loopback) (unsetClient []) cs ∧
      Mirrors loopback
        (runTrace (fun s c => (hostStep S s c).2) ⟨fun _ => ⟨zeroHandle, 0⟩, some []⟩ cs)
        (runTrace (fun t c => (clientStep loopback t c).2) (unsetClient []) cs) := by
  have hsmall : ∀ n < 9, n < 2 ^ 32 := fun n hn => by omega
  refine sockets_refine loopback (fun _ => connects_carried _) _ [] _ ⟨⟨by decide, by decide⟩,
    ⟨hsmall 3 (by decide), ?_⟩, ⟨hsmall 8 (by decide), ?_⟩, ⟨trivial, ?_⟩, trivial⟩
  all_goals exact Socket.noConfusion

end SocketRuns
