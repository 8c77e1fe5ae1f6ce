import OpteeTest.AttrRoundTrip
import OpteeTest.CryptWrappers
import OpteeTest.StorageWrappers

/-! # Wrappers and handlers put together

A wrapper that talks to its TA is the API call that it stands for: the arguments are those of
the caller, and what the call returns lands in the caller's variables. -/
namespace WrapperMarshalling

open ByteMemory TeeApi AttrWireFormat ClientApi HandleTransport TeeCalls CryptHandlers
open StorageHandlers KeyHandlers CryptWrappers StorageWrappers

variable {T : Arch} {m : Type → Type} [Monad m]

def hostBytes (r : TempMemoryReference) : List UInt8 := slice r.buffer 0 r.size

def capacity (r : TempMemoryReference) : UInt32 := UInt32.ofNat r.size

variable {c : ApiCall}

def left (sent : TempMemoryReference) (data : List UInt8) (size : UInt32) : TempMemoryReference :=
  copyBack sent ⟨copyIn sent.buffer 0 data, size⟩

/-- After a success the buffer holds the output and its length is that of the output. -/
def landed (sent : TempMemoryReference) (res : TeeResult) (data : List UInt8) (size : UInt32) :
    TempMemoryReference :=
  if res = teeSuccess then ⟨copyIn sent.buffer 0 data, data.length⟩
  else ⟨(left sent data size).buffer, sent.size⟩

theorem capacity_toNat {r : TempMemoryReference} (h : r.size < 2 ^ 32) :
    (capacity r).toNat = r.size :=
  UInt32.toNat_ofNat_of_lt' h

theorem copyIn_slice_copyIn (b : Memory UInt8) {data : List UInt8} {n : ℕ}
    (h : data.length ≤ n) : copyIn b 0 (slice (copyIn b 0 data) 0 n) = copyIn b 0 data := by
  funext i
  by_cases hi : i < n
  · have hlen : i < (slice (copyIn b 0 data) 0 n).length := by rwa [length_slice]
    have hin : copyIn b 0 (slice (copyIn b 0 data) 0 n) (0 + i) = _ := copyIn_inside b hlen
    rw [Nat.zero_add, getElem_slice, Nat.zero_add] at hin
    exact hin
  · rw [copyIn_after b (by rw [length_slice]; omega), copyIn_after b (by omega)]

theorem left_success {sent : TempMemoryReference} {data : List UInt8} {size : UInt32}
    (hsize : size.toNat = data.length) (hroom : data.length ≤ sent.size) :
    left sent data size = ⟨copyIn sent.buffer 0 data, data.length⟩ := by
  rw [left, copyBack]
  simp only [hsize, hroom, if_true, slice_copyIn]

theorem left_whole {sent : TempMemoryReference} {data : List UInt8} {size : UInt32}
    (hsize : size.toNat = sent.size) (hroom : data.length ≤ sent.size) :
    (left sent data size).buffer = copyIn sent.buffer 0 data := by
  rw [left, copyBack]
  simp only [hsize, le_refl, if_true, copyIn_slice_copyIn _ hroom]

theorem landed_eq {sent : TempMemoryReference} (hsent : sent.size < 2 ^ 32) {res : TeeResult}
    {data : List UInt8} {size : UInt32} (hroom : data.length ≤ (capacity sent).toNat)
    (hsize : res = teeSuccess → size.toNat = data.length) :
    (⟨(left sent data size).buffer, if res = teeSuccess then (left sent data size).size
      else sent.size⟩ : TempMemoryReference) = landed sent res data size := by
  rw [capacity_toNat hsent] at hroom
  unfold landed
  by_cases hres : res = teeSuccess
  · rw [if_pos hres, if_pos hres, left_success (hsize hres) hroom]
  · rw [if_neg hres, if_neg hres]

variable {E : TaEnv T m} {ta : UInt32 → Handler m} {S : Session m} {commandId : UInt32}
variable {op : TeecOperation}
variable {finish : TeeResult → TeecOperation → HostResult}

theorem hostCall_eq (hS : Connects S ta) (hfit : Transportable op) {h : Handler m}
    (hta : ta commandId = h) :
    hostCall S commandId op finish = (do
      let out ← (do
        let out ← h op.paramTypes (deliver op)
        pure (out.1, collect op out.2))
      pure (finish out.1 out.2)) := by
  rw [hostCall, hS commandId op hfit, carried, hta]

variable [LawfulMonad m]

theorem run_direct {h : Handler m} {call : ApiCall}
    (out : (c : ApiCall) → ApiReply c → TeeResult × TeeParams)
    (hS : Connects S ta) (hfit : Transportable op) (hta : ta commandId = h)
    (hrun : h op.paramTypes (deliver op) = do
      let r ← E.api call
      pure (out call r))
    (hcall : call = c) (post : ApiReply c → HostResult)
    (hpost : ∀ r : ApiReply c, finish (out c r).1 (collect op (out c r).2) = post r) :
    hostCall S commandId op finish = (do
      let r ← E.api c
      pure (post r)) := by
  subst hcall
  rw [hostCall_eq hS hfit hta, hrun]
  simp only [bind_assoc, pure_bind, hpost]

theorem single_direct {call : TeeParams → ApiCall}
    {fin : (c : ApiCall) → ApiReply c → TeeParams → TeeResult × TeeParams}
    (hS : Connects S ta) (hfit : Transportable op)
    (hta : ta commandId = singleCall E op.paramTypes call fun {c} r => fin c r)
    (hcall : call (deliver op) = c) (post : ApiReply c → HostResult)
    (hpost : ∀ r : ApiReply c,
      finish (fin c r (deliver op)).1 (collect op (fin c r (deliver op)).2) = post r) :
    hostCall S commandId op finish = (do
      let r ← E.api c
      pure (post r)) := by
  have hrun : singleCall E op.paramTypes call (fun {c} r => fin c r) op.paramTypes (deliver op) =
      (do
        let r ← E.api (call (deliver op))
        pure (fin _ r (deliver op))) := by
    rw [singleCall, if_neg (fun hne => hne rfl)]
  exact run_direct (fun c r => fin c r (deliver op)) hS hfit hta hrun hcall post hpost

theorem bytes_ofNat {r : TempMemoryReference} (h : r.size < 2 ^ 32) :
    bytes ⟨r.buffer, UInt32.ofNat r.size⟩ = hostBytes r := by
  rw [bytes, UInt32.toNat_ofNat_of_lt' h]
  rfl

section
variable {rest : UInt32 → Handler m} (hS : Connects S (cryptInvoke E rest))
include hS

theorem allocateOperation_direct (algo mode maxKeySize oph : UInt32) :
    taCryptCmdAllocateOperation S algo mode maxKeySize oph = (do
      let r ← E.api (.allocateOperation algo mode maxKeySize)
      pure ⟨r.res, [if r.res = teeSuccess then fromHandle E r.handle else oph], []⟩) := by
  have hta := cryptInvoke_code E rest .allocateOperation
  rw [CryptCommand.handler, taEntryAllocateOperation] at hta
  refine single_direct hS
    (by exact transportable_operation.mpr ⟨trivial, trivial, trivial, trivial⟩)
    hta (by rw [deliver_operation]; rfl) _ fun r => ?_
  rw [collect_operation]
  rfl

/-- A command on one or two handles whose function returns nothing. -/
theorem onHandles_void (cmd : CryptCommand) (a b : UInt32) {call : TeeParams → ApiCall}
    (hcmd : cmd.handler E = singleCall E valueTypes call succeed)
    (hcall : ∀ params, (params 0).value = ⟨a, b⟩ → call params = c) :
    onHandles S cmd a b = (do
      let _ ← E.api c
      pure ⟨teeSuccess, [], []⟩) :=
  single_direct hS (by exact transportable_operation.mpr ⟨trivial, trivial, trivial, trivial⟩)
    ((cryptInvoke_code E rest cmd).trans hcmd) (hcall _ (by rw [deliver_operation]; rfl)) _
    fun _ => rfl

theorem onHandles_result (cmd : CryptCommand) (a b : UInt32) {call : TeeParams → ApiCall}
    (hcmd : cmd.handler E = singleCall E valueTypes call answer)
    (hcall : ∀ params, (params 0).value = ⟨a, b⟩ → call params = c) :
    onHandles S cmd a b = (do
      let r ← E.api c
      pure ⟨r.res, [], []⟩) :=
  single_direct hS (by exact transportable_operation.mpr ⟨trivial, trivial, trivial, trivial⟩)
    ((cryptInvoke_code E rest cmd).trans hcmd) (hcall _ (by rw [deliver_operation]; rfl)) _
    fun _ => rfl

theorem setOperationKey2_direct (oph key1 key2 : UInt32) :
    taCryptCmdSetOperationKey2 S oph key1 key2 = (do
      let r ← E.api (.setOperationKey2 (toHandle E oph) (toHandle E key1) (toHandle E key2))
      pure ⟨r.res, [], []⟩) :=
  single_direct hS (by exact transportable_operation.mpr ⟨trivial, trivial, trivial, trivial⟩)
    (cryptInvoke_code E rest .setOperationKey2) (by rw [deliver_operation]; rfl) _ fun _ => rfl

theorem feed_direct (cmd : CryptCommand) {call : ℕ → List UInt8 → ApiCall}
    (hcmd : cmd.handler E = CryptHandlers.feed E call) (oph : UInt32)
    {chunk : TempMemoryReference} (hchunk : chunk.size < 2 ^ 32) :
    CryptWrappers.feed S cmd oph chunk = (do
      let _ ← E.api (call (toHandle E oph) (hostBytes chunk))
      pure ⟨teeSuccess, [], []⟩) := by
  have hta : cryptInvoke E rest cmd.code = singleCall E valueInputTypes _ succeed :=
    (cryptInvoke_code E rest cmd).trans hcmd
  refine single_direct hS (by exact transportable_operation.mpr ⟨trivial, hchunk, trivial, trivial⟩)
    hta ?_ _ fun _ => rfl
  rw [deliver_operation, ← bytes_ofNat hchunk]
  rfl

theorem transform_direct (cmd : CryptCommand) {call : ℕ → List UInt8 → UInt32 → ApiCall}
    (hcmd : cmd.handler E = CryptHandlers.transform E call)
    (hcap : ∀ o l n, (call o l n).outputCapacity = n) (oph : UInt32)
    {src dst : TempMemoryReference} (hs : src.size < 2 ^ 32) (hd : dst.size < 2 ^ 32) :
    CryptWrappers.transform S cmd oph src dst = (do
      let r ← E.api (call (toHandle E oph) (hostBytes src) (capacity dst))
      pure ⟨r.res, [], [landed dst r.res r.data r.size]⟩) := by
  have hta : cryptInvoke E rest cmd.code = singleCall E inputOutputTypes _ (answerOutput 2) :=
    (cryptInvoke_code E rest cmd).trans hcmd
  refine single_direct hS (by exact transportable_operation.mpr ⟨trivial, hs, hd, trivial⟩) hta ?_ _
    fun r => ?_
  · rw [deliver_operation, ← bytes_ofNat hs]
    rfl
  · have hroom := r.data_le
    rw [hcap] at hroom
    rw [← landed_eq hd hroom r.size_eq, oneOut, outAt, collect_operation, deliver_operation]
    rfl

/-- `TEE_AEUpdate` as the handler calls it: a failure is reported as a success. -/
theorem aeUpdate_direct (oph : UInt32) {src dst : TempMemoryReference} (hs : src.size < 2 ^ 32)
    (hd : dst.size < 2 ^ 32) :
    taCryptCmdAeUpdate S oph src dst = (do
      let r ← E.api (.aeUpdate (toHandle E oph) (hostBytes src) (capacity dst))
      pure (if r.res = teeSuccess then ⟨r.res, [], [landed dst r.res r.data r.size]⟩
        else ⟨teeSuccess, [], [left dst r.data r.size]⟩)) := by
  have hta := cryptInvoke_code E rest .aeUpdate
  rw [CryptCommand.handler, taEntryAeUpdate] at hta
  refine single_direct hS (by exact transportable_operation.mpr ⟨trivial, hs, hd, trivial⟩)
    hta ?_ _ fun r => ?_
  · rw [deliver_operation, ← bytes_ofNat hs]
    rfl
  · have hroom : r.data.length ≤ dst.size := by
      have hle : r.data.length ≤ (capacity dst).toNat := r.data_le
      rwa [capacity_toNat hd] at hle
    have hleft : (if r.res = teeSuccess then ⟨r.res, [], [landed dst r.res r.data r.size]⟩
        else ⟨teeSuccess, [], [left dst r.data r.size]⟩ : HostResult) =
        ⟨teeSuccess, [], [left dst r.data r.size]⟩ := by
      by_cases hres : r.res = teeSuccess
      · rw [if_pos hres, landed, if_pos hres, left_success (r.size_eq hres) hroom, hres]
      · rw [if_neg hres]
    rw [hleft, oneOut, outAt, collect_operation, deliver_operation]
    rfl

theorem initialise_direct (cmd : CryptCommand) {call : ℕ → Option (List UInt8) → ApiCall}
    (hcmd : cmd.handler E = CryptHandlers.initialise E call) (oph : UInt32)
    {iv : Option TempMemoryReference} (hiv : ∀ r ∈ iv, r.size < 2 ^ 32) :
    CryptWrappers.initialise S cmd oph iv = (do
      let _ ← E.api (call (toHandle E oph) (iv.map hostBytes))
      pure ⟨teeSuccess, [], []⟩) := by
  have hta : cryptInvoke E rest cmd.code = CryptHandlers.initialise E call :=
    (cryptInvoke_code E rest cmd).trans hcmd
  cases iv with
  | none =>
    have hrun (params : TeeParams) : CryptHandlers.initialise E call valueTypes params = (do
        let _ ← E.api (call (toHandle E (params 0).value.a) none)
        pure (teeSuccess, params)) := if_pos rfl
    rw [CryptWrappers.initialise]
    refine run_direct (fun _ _ => (teeSuccess, _)) hS
      (by exact transportable_operation.mpr ⟨trivial, trivial, trivial, trivial⟩) hta (hrun _)
      ?_ _ fun _ => rfl
    rw [deliver_operation]
    rfl
  | some r =>
    have hsize := hiv r rfl
    have htypes : valueInputTypes ≠ valueTypes := by decide
    have hrun (params : TeeParams) : CryptHandlers.initialise E call valueInputTypes params = (do
        let _ ← E.api (call (toHandle E (params 0).value.a) (some (bytes (params 1).memref)))
        pure (teeSuccess, params)) := (if_neg htypes).trans (if_pos rfl)
    rw [CryptWrappers.initialise]
    refine run_direct (fun _ _ => (teeSuccess, _)) hS
      (by exact transportable_operation.mpr ⟨trivial, hsize, trivial, trivial⟩) hta (hrun _)
      ?_ _ fun _ => rfl
    rw [deliver_operation, Option.map_some, ← bytes_ofNat hsize]
    rfl

theorem randomNumberGenerate_direct {buf : TempMemoryReference} (hbuf : buf.size < 2 ^ 32) :
    taCryptCmdRandomNumberGenerate S buf = (do
      let r ← E.api (.generateRandom (capacity buf))
      pure ⟨teeSuccess, [], [⟨copyIn buf.buffer 0 r.data, buf.size⟩]⟩) := by
  have hta := cryptInvoke_code E rest .randomNumberGenerate
  rw [CryptCommand.handler, taEntryRandomNumberGenerate] at hta
  refine single_direct hS (by exact transportable_operation.mpr ⟨hbuf, trivial, trivial, trivial⟩)
    hta (by rw [deliver_operation]; rfl) _ fun r => ?_
  have hroom : r.data.length ≤ buf.size := by
    have hle : r.data.length ≤ (capacity buf).toNat := r.data_le
    rwa [capacity_toNat hbuf] at hle
  rw [← left_whole (UInt32.toNat_ofNat_of_lt' hbuf) hroom, bufferAt, collect_operation,
    deliver_operation]
  rfl

/-- The tag length is handed over in bytes and reaches the API in bits. -/
theorem aeInit_direct (oph : UInt32) {nonce : TempMemoryReference} (hnonce : nonce.size < 2 ^ 32)
    (tagLen aadLen payloadLen : ℕ) :
    taCryptCmdAeInit S oph nonce tagLen aadLen payloadLen = (do
      let r ← E.api (.aeInit (toHandle E oph) (hostBytes nonce) (UInt32.ofNat (tagLen * 8))
        (UInt32.ofNat aadLen) (UInt32.ofNat payloadLen))
      pure ⟨r.res, [], []⟩) := by
  refine single_direct hS (by exact transportable_operation.mpr ⟨trivial, hnonce, trivial, trivial⟩)
    (cryptInvoke_code E rest .aeInit) ?_ _ fun _ => rfl
  rw [deliver_operation, ← bytes_ofNat hnonce, UInt32.ofNat_mul]
  rfl

theorem aeEncryptFinal_direct (oph : UInt32) {src dst tag : TempMemoryReference}
    (hs : src.size < 2 ^ 32) (hd : dst.size < 2 ^ 32) (ht : tag.size < 2 ^ 32) :
    taCryptCmdAeEncryptFinal S oph src dst tag = (do
      let r ← E.api (.aeEncryptFinal (toHandle E oph) (hostBytes src) (capacity dst)
        (capacity tag))
      pure ⟨r.res, [], [landed dst r.res r.data r.size, landed tag r.res r.tag r.tagSize]⟩) := by
  have hta := cryptInvoke_code E rest .aeEncryptFinal
  rw [CryptCommand.handler, taEntryAeEncryptFinal] at hta
  refine single_direct hS (by exact transportable_operation.mpr ⟨trivial, hs, hd, ht⟩)
    hta ?_ _ fun r => ?_
  · rw [deliver_operation, ← bytes_ofNat hs]
    rfl
  · rw [← landed_eq hd r.data_le r.size_eq, ← landed_eq ht r.tag_le r.tagSize_eq, outAt, outAt,
      collect_operation, deliver_operation]
    rfl

theorem aeDecryptFinal_direct (oph : UInt32) {src dst tag : TempMemoryReference}
    (hs : src.size < 2 ^ 32) (hd : dst.size < 2 ^ 32) (ht : tag.size < 2 ^ 32) :
    taCryptCmdAeDecryptFinal S oph src dst tag = (do
      let r ← E.api (.aeDecryptFinal (toHandle E oph) (hostBytes src) (capacity dst)
        (hostBytes tag))
      pure ⟨r.res, [], [landed dst r.res r.data r.size]⟩) := by
  refine single_direct hS (by exact transportable_operation.mpr ⟨trivial, hs, hd, ht⟩)
    (cryptInvoke_code E rest .aeDecryptFinal) ?_ _ fun r => ?_
  · rw [deliver_operation, ← bytes_ofNat hs, ← bytes_ofNat ht]
    rfl
  · rw [← landed_eq hd r.data_le r.size_eq, oneOut, outAt, collect_operation, deliver_operation]
    rfl

end

/-- Every allocation of the TA is granted and client buffers are mapped at word boundaries. -/
structure Granting (E : TaEnv T m) : Prop where
  malloc : ∀ n, E.malloc n = pure true
  aligned : ∀ size, E.base size % 4 = 0

structure Packable (h : Host) (attrs : AttrArray) : Prop where
  calloc : h.calloc = true
  size : packedSize attrs.attrs < 2 ^ 32
  count : 24 * attrs.attrs.length < 2 ^ 32

def hostAttrs (h : Host) (attrs : AttrArray) : List ApiAttr := attrs.attrs.map (apiAttr h.mem)

def packedBuffer (h : Host) (attrs : AttrArray) : TempMemoryReference :=
  ⟨(AttrPack.packAttrs h.arch h.mem attrs true).block,
    (AttrPack.packAttrs h.arch h.mem attrs true).blen⟩

theorem apiAttr_same {mem mem' : Memory UInt8} {t t' : TeeAttribute}
    (h : SameAttribute mem mem' t t') : apiAttr mem t = apiAttr mem' t' := by
  obtain ⟨hid, hcontent⟩ := h
  cases ht : t.content with
  | value a b =>
    cases ht' : t'.content with
    | value a' b' =>
      rw [ht, ht'] at hcontent
      simp only [apiAttr, ht, ht', hid, hcontent.1, hcontent.2]
    | ref p' l' =>
      rw [ht, ht'] at hcontent
      exact hcontent.elim
  | ref p l =>
    cases ht' : t'.content with
    | value a' b' =>
      rw [ht, ht'] at hcontent
      exact hcontent.elim
    | ref p' l' =>
      rw [ht, ht'] at hcontent
      obtain ⟨hl, hnull, hbytes⟩ := hcontent
      simp only [apiAttr, ht, ht', hid, hl]
      by_cases hp : p = 0
      · rw [if_pos hp, if_pos (hnull.mp hp)]
      · rw [if_neg hp, if_neg fun hp' => hp (hnull.mpr hp'), ← hl, hbytes hp, ← hl]

theorem map_apiAttr {mem mem' : Memory UInt8} {ts ts' : List TeeAttribute}
    (h : List.Forall₂ (SameAttribute mem mem') ts ts') :
    ts'.map (apiAttr mem') = ts.map (apiAttr mem) := by
  induction h with
  | nil => rfl
  | cons hsame _ ih => rw [List.map_cons, List.map_cons, ih, apiAttr_same hsame]

variable {h : Host} {attrs : AttrArray}

theorem packedBuffer_size (hp : Packable h attrs) : (packedBuffer h attrs).size < 2 ^ 32 := by
  by_cases hne : attrs.attrs = []
  · simp [packedBuffer, AttrPack.packAttrs, hne]
  · obtain ⟨hblen, -⟩ := AttrRoundTrip.packAttrs_packed h.arch h.mem hne hp.size
    rw [packedBuffer, hblen]
    exact hp.size

omit [LawfulMonad m] in
theorem withPacked_eq (hp : Packable h attrs) (next : TempMemoryReference → m HostResult)
    (failed : TeeResult → HostResult) :
    withPacked h attrs next failed = next (packedBuffer h attrs) := by
  have hres : (AttrPack.packAttrs h.arch h.mem attrs true).res = teeSuccess := by
    simp only [AttrPack.packAttrs, if_true]
    split_ifs <;> rfl
  rw [withPacked, hp.calloc]
  simp only [hres, ne_eq, not_true_eq_false, if_false]
  rfl

theorem withAttrs_eq {E : TaEnv T m} (hE : Granting E) (hp : Packable h attrs) {params : TeeParams}
    (hparam : (params 1).memref = ⟨(packedBuffer h attrs).buffer, capacity (packedBuffer h attrs)⟩)
    (next : List ApiAttr → m (TeeResult × TeeParams)) :
    withAttrs E params next = next (hostAttrs h attrs) := by
  have hblen : (E.clientBuffer (params 1).memref).blen.toNat = (packedBuffer h attrs).size := by
    rw [TaEnv.clientBuffer, hparam]
    exact capacity_toNat (packedBuffer_size hp)
  have hbytes (i : ℕ) : (E.clientBuffer (params 1).memref).mem
      ((E.clientBuffer (params 1).memref).buf + i) = (packedBuffer h attrs).buffer i := by
    simp only [TaEnv.clientBuffer, hparam, Nat.add_sub_cancel_left]
  obtain ⟨hres, -, hsame⟩ := AttrRoundTrip.unpack_granted h.arch T h.mem attrs
    (E.clientBuffer (params 1).memref) hp.size hp.count hblen (hE.aligned _) fun i _ => hbytes i
  rw [withAttrs]
  by_cases halloc : AttrUnpack.Allocates (E.clientBuffer (params 1).memref)
  · simp only [halloc, if_true, hE.malloc, pure_bind, hres, ne_eq, not_true_eq_false, if_false,
      map_apiAttr hsame]
    rfl
  · have hsame' := AttrUnpack.unpackAttrs_unallocated halloc true
    rw [hsame'] at hres hsame
    simp only [halloc, if_false, hres, ne_eq, not_true_eq_false, map_apiAttr hsame]
    rfl

theorem attrsCall_eq {E : TaEnv T m} (hE : Granting E) (hp : Packable h attrs)
    {params : TeeParams}
    (hparam : (params 1).memref = ⟨(packedBuffer h attrs).buffer, capacity (packedBuffer h attrs)⟩)
    (types : UInt32) (call : TeeParams → List ApiAttr → ApiCall)
    (fin : (c : ApiCall) → ApiReply c → TeeParams → TeeResult × TeeParams) :
    attrsCall E types call (fun {c} r => fin c r) types params = (do
      let r ← E.api (call params (hostAttrs h attrs))
      pure (fin _ r params)) := by
  rw [attrsCall, if_neg fun hne => hne rfl, withAttrs_eq hE hp hparam]

section
variable {rest : UInt32 → Handler m} (hS : Connects S (cryptInvoke E rest))
include hS

theorem sendAttrs_direct (hE : Granting E) (hp : Packable h attrs) (cmd : CryptCommand)
    (a b : UInt32) {call : TeeParams → List ApiAttr → ApiCall}
    {fin : (c : ApiCall) → ApiReply c → TeeParams → TeeResult × TeeParams}
    (hcmd : cmd.handler E = attrsCall E valueInputTypes call fun {c} r => fin c r)
    (hcall : ∀ params, (params 0).value = ⟨a, b⟩ → call params (hostAttrs h attrs) = c)
    (post : ApiReply c → HostResult)
    (hpost : ∀ (r : ApiReply c) (params : TeeParams), ⟨(fin c r params).1, [], []⟩ = post r) :
    sendAttrs S h cmd a b attrs = (do
      let r ← E.api c
      pure (post r)) := by
  have hta := (cryptInvoke_code E rest cmd).trans hcmd
  rw [sendAttrs, withPacked_eq hp]
  refine run_direct (fun c r => fin c r _) hS
    (by exact transportable_operation.mpr ⟨trivial, packedBuffer_size hp, trivial, trivial⟩) hta
    (attrsCall_eq hE hp (by rw [deliver_operation]; rfl) valueInputTypes call fin)
    (hcall _ (by rw [deliver_operation]; rfl)) _ fun r => hpost r _

theorem populateTransientObject_direct (hE : Granting E) (hp : Packable h attrs) (oh : UInt32) :
    taCryptCmdPopulateTransientObject S h oh attrs = (do
      let r ← E.api (.populateTransientObject (toHandle E oh) (hostAttrs h attrs))
      pure ⟨r.res, [], []⟩) :=
  sendAttrs_direct hS hE hp .populateTransientObject oh 0 rfl (fun _ hv => by rw [hv]) _
    fun _ _ => rfl

theorem generateKey_direct (hE : Granting E) (hp : Packable h attrs) (oh keySize : UInt32) :
    taCryptCmdGenerateKey S h oh keySize attrs = (do
      let r ← E.api (.generateKey (toHandle E oh) keySize (hostAttrs h attrs))
      pure ⟨r.res, [], []⟩) :=
  sendAttrs_direct hS hE hp .generateKey oh keySize rfl (fun _ hv => by rw [hv]) _ fun _ _ => rfl

theorem deriveKey_direct (hE : Granting E) (hp : Packable h attrs) (oph oh : UInt32) :
    taCryptCmdDeriveKey S h oph oh attrs = (do
      let _ ← E.api (.deriveKey (toHandle E oph) (hostAttrs h attrs) (toHandle E oh))
      pure ⟨teeSuccess, [], []⟩) :=
  sendAttrs_direct hS hE hp .deriveKey oph oh rfl (fun _ hv => by rw [hv]) _ fun _ _ => rfl

theorem asymmetric_direct (hE : Granting E) (hp : Packable h attrs) (cmd : CryptCommand)
    {call : ℕ → List ApiAttr → List UInt8 → UInt32 → ApiCall}
    (hcmd : cmd.handler E = asymmetric E call)
    (hcap : ∀ o l d n, (call o l d n).outputCapacity = n) (oph : UInt32)
    {src dst : TempMemoryReference} (hs : src.size < 2 ^ 32) (hd : dst.size < 2 ^ 32) :
    taCryptCmdAsymmetricOperate S h cmd oph attrs src dst = (do
      let r ← E.api (call (toHandle E oph) (hostAttrs h attrs) (hostBytes src) (capacity dst))
      pure ⟨r.res, [], [landed dst r.res r.data r.size]⟩) := by
  have hta : cryptInvoke E rest cmd.code =
      attrsCall E asymmetricTypes _ fun {c} r => answerOutput 3 r :=
    (cryptInvoke_code E rest cmd).trans hcmd
  rw [taCryptCmdAsymmetricOperate, withPacked_eq hp]
  refine run_direct (fun c r => answerOutput 3 r _) hS
    (by exact transportable_operation.mpr ⟨trivial, packedBuffer_size hp, hs, hd⟩) hta
    (attrsCall_eq hE hp (by rw [deliver_operation]; rfl) asymmetricTypes _ _) ?_ _ fun r => ?_
  · rw [deliver_operation, ← bytes_ofNat hs]
    rfl
  · have hroom := r.data_le
    rw [hcap] at hroom
    rw [← landed_eq hd hroom r.size_eq, oneOut, outAt, collect_operation, deliver_operation]
    rfl

theorem asymmetricVerify_direct (hE : Granting E) (hp : Packable h attrs) (oph : UInt32)
    {digest signature : TempMemoryReference} (hd : digest.size < 2 ^ 32)
    (hs : signature.size < 2 ^ 32) :
    taCryptCmdAsymmetricVerify S h oph attrs digest signature = (do
      let r ← E.api (.asymmetricVerifyDigest (toHandle E oph) (hostAttrs h attrs)
        (hostBytes digest) (hostBytes signature))
      pure ⟨r.res, [], []⟩) := by
  have hta := cryptInvoke_code E rest .asymmetricVerifyDigest
  rw [CryptCommand.handler, taEntryAsymmetricVerifyDigest] at hta
  rw [taCryptCmdAsymmetricVerify, withPacked_eq hp]
  refine run_direct (fun c r => answer r _) hS
    (by exact transportable_operation.mpr ⟨trivial, packedBuffer_size hp, hd, hs⟩) hta
    (attrsCall_eq hE hp (by rw [deliver_operation]; rfl) _ _ _) ?_ _ fun r => rfl
  rw [deliver_operation, ← bytes_ofNat hd, ← bytes_ofNat hs]
  rfl

theorem allocateTransientObject_direct (objType maxObjSize oh : UInt32) :
    taCryptCmdAllocateTransientObject S objType maxObjSize oh = (do
      let r ← E.api (.allocateTransientObject objType maxObjSize)
      pure ⟨r.res, [if r.res = teeSuccess then fromHandle E r.handle else oh], []⟩) := by
  have hta := cryptInvoke_code E rest .allocateTransientObject
  rw [CryptCommand.handler, taEntryAllocateTransientObject] at hta
  refine single_direct hS
    (by exact transportable_operation.mpr ⟨trivial, trivial, trivial, trivial⟩)
    hta (by rw [deliver_operation]; rfl) _ fun r => ?_
  rw [collect_operation, deliver_operation]
  by_cases hres : r.res = teeSuccess
  · simp only [hres, if_true]
    rfl
  · simp only [hres, if_false]

theorem getObjectBufferAttribute_direct (oh attrId : UInt32) {buf : TempMemoryReference}
    (hbuf : buf.size < 2 ^ 32) :
    taCryptCmdGetObjectBufferAttribute S oh attrId buf = (do
      let r ← E.api (.getObjectBufferAttribute (toHandle E oh) attrId (capacity buf))
      pure ⟨r.res, [], [landed buf r.res r.data r.size]⟩) := by
  have hta : cryptInvoke E rest CryptCommand.getObjectBufferAttribute.code =
      singleCall E _ _ (answerOutput 1) := cryptInvoke_code E rest .getObjectBufferAttribute
  refine single_direct hS (by exact transportable_operation.mpr ⟨trivial, hbuf, trivial, trivial⟩)
    hta (by rw [deliver_operation]; rfl) _ fun r => ?_
  rw [← landed_eq hbuf r.data_le r.size_eq, oneOut, outAt, collect_operation, deliver_operation]
  rfl

theorem getObjectValueAttribute_direct (oh attrId valuea valueb : UInt32) :
    taCryptCmdGetObjectValueAttribute S oh attrId valuea valueb = (do
      let r ← E.api (.getObjectValueAttribute (toHandle E oh) attrId)
      pure ⟨r.res, if r.res = teeSuccess then [r.a, r.b] else [valuea, valueb], []⟩) := by
  have hta := cryptInvoke_code E rest .getObjectValueAttribute
  rw [CryptCommand.handler, taEntryGetObjectValueAttribute] at hta
  refine single_direct hS
    (by exact transportable_operation.mpr ⟨trivial, trivial, trivial, trivial⟩)
    hta (by rw [deliver_operation]; rfl) _ fun r => ?_
  rw [collect_operation, deliver_operation]
  by_cases hres : r.res = teeSuccess
  · simp only [hres, if_true]
    rfl
  · simp only [hres, if_false]

end

/-- A call of a wrapper of the crypt library, with the words its out-parameters hold before. -/
inductive CryptRequest where
  | allocateOperation (algo mode maxKeySize oph : UInt32)
  | freeOperation (oph : UInt32)
  | resetOperation (oph : UInt32)
  | copyOperation (dstOph srcOph : UInt32)
  | setOperationKey (oph key : UInt32)
  | setOperationKey2 (oph key1 key2 : UInt32)
  | digestUpdate (oph : UInt32) (chunk : TempMemoryReference)
  | digestDoFinal (oph : UInt32) (chunk hash : TempMemoryReference)
  | cipherInit (oph : UInt32) (iv : Option TempMemoryReference)
  | cipherUpdate (oph : UInt32) (src dst : TempMemoryReference)
  | cipherDoFinal (oph : UInt32) (src dst : TempMemoryReference)
  | macInit (oph : UInt32) (iv : Option TempMemoryReference)
  | macUpdate (oph : UInt32) (chunk : TempMemoryReference)
  | macFinalCompute (oph : UInt32) (chunk hash : TempMemoryReference)
  | randomNumberGenerate (buf : TempMemoryReference)
  | aeInit (oph : UInt32) (nonce : TempMemoryReference) (tagLen aadLen payloadLen : ℕ)
  | aeUpdateAad (oph : UInt32) (aad : TempMemoryReference)
  | aeUpdate (oph : UInt32) (src dst : TempMemoryReference)
  | aeEncryptFinal (oph : UInt32) (src dst tag : TempMemoryReference)
  | aeDecryptFinal (oph : UInt32) (src dst tag : TempMemoryReference)
  | asymmetricEncrypt (oph : UInt32) (params : AttrArray) (src dst : TempMemoryReference)
  | asymmetricDecrypt (oph : UInt32) (params : AttrArray) (src dst : TempMemoryReference)
  | asymmetricSign (oph : UInt32) (params : AttrArray) (digest signature : TempMemoryReference)
  | asymmetricVerify (oph : UInt32) (params : AttrArray) (digest signature : TempMemoryReference)
  | populateTransientObject (oh : UInt32) (attrs : AttrArray)
  | generateKey (oh keySize : UInt32) (params : AttrArray)
  | deriveKey (oph oh : UInt32) (params : AttrArray)
  | allocateTransientObject (objType maxObjSize oh : UInt32)
  | freeTransientObject (oh : UInt32)
  | resetTransientObject (oh : UInt32)
  | getObjectBufferAttribute (oh attrId : UInt32) (buf : TempMemoryReference)
  | getObjectValueAttribute (oh attrId valuea valueb : UInt32)

def CryptRequest.run (S : Session m) (h : Host) : CryptRequest → m HostResult
  | .allocateOperation algo mode maxKeySize oph =>
    taCryptCmdAllocateOperation S algo mode maxKeySize oph
  | .freeOperation oph => taCryptCmdFreeOperation S oph
  | .resetOperation oph => taCryptCmdResetOperation S oph
  | .copyOperation dstOph srcOph => taCryptCmdCopyOperation S dstOph srcOph
  | .setOperationKey oph key => taCryptCmdSetOperationKey S oph key
  | .setOperationKey2 oph key1 key2 => taCryptCmdSetOperationKey2 S oph key1 key2
  | .digestUpdate oph chunk => taCryptCmdDigestUpdate S oph chunk
  | .digestDoFinal oph chunk hash => taCryptCmdDigestDoFinal S oph chunk hash
  | .cipherInit oph iv => taCryptCmdCipherInit S oph iv
  | .cipherUpdate oph src dst => taCryptCmdCipherUpdate S oph src dst
  | .cipherDoFinal oph src dst => taCryptCmdCipherDoFinal S oph src dst
  | .macInit oph iv => taCryptCmdMacInit S oph iv
  | .macUpdate oph chunk => taCryptCmdMacUpdate S oph chunk
  | .macFinalCompute oph chunk hash => taCryptCmdMacFinalCompute S oph chunk hash
  | .randomNumberGenerate buf => taCryptCmdRandomNumberGenerate S buf
  | .aeInit oph nonce tagLen aadLen payloadLen =>
    taCryptCmdAeInit S oph nonce tagLen aadLen payloadLen
  | .aeUpdateAad oph aad => taCryptCmdAeUpdateAad S oph aad
  | .aeUpdate oph src dst => taCryptCmdAeUpdate S oph src dst
  | .aeEncryptFinal oph src dst tag => taCryptCmdAeEncryptFinal S oph src dst tag
  | .aeDecryptFinal oph src dst tag => taCryptCmdAeDecryptFinal S oph src dst tag
  | .asymmetricEncrypt oph params src dst => taCryptCmdAsymmetricEncrypt S h oph params src dst
  | .asymmetricDecrypt oph params src dst => taCryptCmdAsymmetricDecrypt S h oph params src dst
  | .asymmetricSign oph params digest signature =>
    taCryptCmdAsymmetricSign S h oph params digest signature
  | .asymmetricVerify oph params digest signature =>
    taCryptCmdAsymmetricVerify S h oph params digest signature
  | .populateTransientObject oh attrs => taCryptCmdPopulateTransientObject S h oh attrs
  | .generateKey oh keySize params => taCryptCmdGenerateKey S h oh keySize params
  | .deriveKey oph oh params => taCryptCmdDeriveKey S h oph oh params
  | .allocateTransientObject objType maxObjSize oh =>
    taCryptCmdAllocateTransientObject S objType maxObjSize oh
  | .freeTransientObject oh => taCryptCmdFreeTransientObject S oh
  | .resetTransientObject oh => taCryptCmdResetTransientObject S oh
  | .getObjectBufferAttribute oh attrId buf => taCryptCmdGetObjectBufferAttribute S oh attrId buf
  | .getObjectValueAttribute oh attrId valuea valueb =>
    taCryptCmdGetObjectValueAttribute S oh attrId valuea valueb

def Sized (r : TempMemoryReference) : Prop := r.size < 2 ^ 32

/-- Sizes are below 2^32, a tag length in bits too, and attributes can be packed. -/
def CryptRequest.Fits (h : Host) : CryptRequest → Prop
  | .digestUpdate _ r | .macUpdate _ r | .randomNumberGenerate r | .aeUpdateAad _ r
  | .getObjectBufferAttribute _ _ r => Sized r
  | .digestDoFinal _ r r' | .cipherUpdate _ r r' | .cipherDoFinal _ r r'
  | .macFinalCompute _ r r' | .aeUpdate _ r r' => Sized r ∧ Sized r'
  | .cipherInit _ iv | .macInit _ iv => ∀ r ∈ iv, Sized r
  | .aeInit _ nonce tagLen aadLen payloadLen =>
    Sized nonce ∧ tagLen < 2 ^ 29 ∧ aadLen < 2 ^ 32 ∧ payloadLen < 2 ^ 32
  | .aeEncryptFinal _ src dst tag | .aeDecryptFinal _ src dst tag =>
    Sized src ∧ Sized dst ∧ Sized tag
  | .asymmetricEncrypt _ params r r' | .asymmetricDecrypt _ params r r'
  | .asymmetricSign _ params r r' | .asymmetricVerify _ params r r' =>
    Packable h params ∧ Sized r ∧ Sized r'
  | .populateTransientObject _ attrs | .generateKey _ _ attrs | .deriveKey _ _ attrs =>
    Packable h attrs
  | _ => True

def voidCall (E : TaEnv T m) (c : ApiCall) : m HostResult := do
  let _ ← E.api c
  pure ⟨teeSuccess, [], []⟩

def resultCall (E : TaEnv T m) (c : ApiCall) : m HostResult := do
  let r ← E.api c
  pure ⟨r.res, [], []⟩

def outputCall (E : TaEnv T m) (dst : TempMemoryReference) (c : ApiCall) : m HostResult := do
  let r ← E.api c
  pure ⟨r.res, [], [landed dst r.res r.data r.size]⟩

/-- What the caller asks for: a call of the API with the caller's arguments, whose results land
in the caller's variables. What a handler that drops a result reports after a failure is
`unreported`. -/
def CryptRequest.direct (E : TaEnv T m) (h : Host) (unreported : TeeResult → TeeResult) :
    CryptRequest → m HostResult
  | .allocateOperation algo mode maxKeySize oph => do
    let r ← E.api (.allocateOperation algo mode maxKeySize)
    pure ⟨r.res, [if r.res = teeSuccess then fromHandle E r.handle else oph], []⟩
  | .freeOperation oph => voidCall E (.freeOperation (toHandle E oph))
  | .resetOperation oph => voidCall E (.resetOperation (toHandle E oph))
  | .copyOperation dstOph srcOph =>
    voidCall E (.copyOperation (toHandle E dstOph) (toHandle E srcOph))
  | .setOperationKey oph key => resultCall E (.setOperationKey (toHandle E oph) (toHandle E key))
  | .setOperationKey2 oph key1 key2 =>
    resultCall E (.setOperationKey2 (toHandle E oph) (toHandle E key1) (toHandle E key2))
  | .digestUpdate oph chunk => voidCall E (.digestUpdate (toHandle E oph) (hostBytes chunk))
  | .digestDoFinal oph chunk hash =>
    outputCall E hash (.digestDoFinal (toHandle E oph) (hostBytes chunk) (capacity hash))
  | .cipherInit oph iv => voidCall E (.cipherInit (toHandle E oph) (iv.map hostBytes))
  | .cipherUpdate oph src dst =>
    outputCall E dst (.cipherUpdate (toHandle E oph) (hostBytes src) (capacity dst))
  | .cipherDoFinal oph src dst =>
    outputCall E dst (.cipherDoFinal (toHandle E oph) (hostBytes src) (capacity dst))
  | .macInit oph iv => voidCall E (.macInit (toHandle E oph) (iv.map hostBytes))
  | .macUpdate oph chunk => voidCall E (.macUpdate (toHandle E oph) (hostBytes chunk))
  | .macFinalCompute oph chunk hash =>
    outputCall E hash (.macComputeFinal (toHandle E oph) (hostBytes chunk) (capacity hash))
  | .randomNumberGenerate buf => do
    let r ← E.api (.generateRandom (capacity buf))
    pure ⟨teeSuccess, [], [⟨copyIn buf.buffer 0 r.data, buf.size⟩]⟩
  | .aeInit oph nonce tagLen aadLen payloadLen =>
    resultCall E (.aeInit (toHandle E oph) (hostBytes nonce) (UInt32.ofNat (tagLen * 8))
      (UInt32.ofNat aadLen) (UInt32.ofNat payloadLen))
  | .aeUpdateAad oph aad => voidCall E (.aeUpdateAAD (toHandle E oph) (hostBytes aad))
  | .aeUpdate oph src dst => do
    let r ← E.api (.aeUpdate (toHandle E oph) (hostBytes src) (capacity dst))
    pure (if r.res = teeSuccess then ⟨r.res, [], [landed dst r.res r.data r.size]⟩
      else ⟨unreported r.res, [], [left dst r.data r.size]⟩)
  | .aeEncryptFinal oph src dst tag => do
    let r ← E.api (.aeEncryptFinal (toHandle E oph) (hostBytes src) (capacity dst) (capacity tag))
    pure ⟨r.res, [], [landed dst r.res r.data r.size, landed tag r.res r.tag r.tagSize]⟩
  | .aeDecryptFinal oph src dst tag => outputCall E dst
    (.aeDecryptFinal (toHandle E oph) (hostBytes src) (capacity dst) (hostBytes tag))
  | .asymmetricEncrypt oph params src dst => outputCall E dst
    (.asymmetricEncrypt (toHandle E oph) (hostAttrs h params) (hostBytes src) (capacity dst))
  | .asymmetricDecrypt oph params src dst => outputCall E dst
    (.asymmetricDecrypt (toHandle E oph) (hostAttrs h params) (hostBytes src) (capacity dst))
  | .asymmetricSign oph params digest signature => outputCall E signature (.asymmetricSignDigest
      (toHandle E oph) (hostAttrs h params) (hostBytes digest) (capacity signature))
  | .asymmetricVerify oph params digest signature => resultCall E (.asymmetricVerifyDigest
      (toHandle E oph) (hostAttrs h params) (hostBytes digest) (hostBytes signature))
  | .populateTransientObject oh attrs =>
    resultCall E (.populateTransientObject (toHandle E oh) (hostAttrs h attrs))
  | .generateKey oh keySize params =>
    resultCall E (.generateKey (toHandle E oh) keySize (hostAttrs h params))
  | .deriveKey oph oh params =>
    voidCall E (.deriveKey (toHandle E oph) (hostAttrs h params) (toHandle E oh))
  | .allocateTransientObject objType maxObjSize oh => do
    let r ← E.api (.allocateTransientObject objType maxObjSize)
    pure ⟨r.res, [if r.res = teeSuccess then fromHandle E r.handle else oh], []⟩
  | .freeTransientObject oh => voidCall E (.freeTransientObject (toHandle E oh))
  | .resetTransientObject oh => voidCall E (.resetTransientObject (toHandle E oh))
  | .getObjectBufferAttribute oh attrId buf =>
    outputCall E buf (.getObjectBufferAttribute (toHandle E oh) attrId (capacity buf))
  | .getObjectValueAttribute oh attrId valuea valueb => do
    let r ← E.api (.getObjectValueAttribute (toHandle E oh) attrId)
    pure ⟨r.res, if r.res = teeSuccess then [r.a, r.b] else [valuea, valueb], []⟩

theorem crypt_direct {rest : UInt32 → Handler m} (hS : Connects S (cryptInvoke E rest))
    (hE : Granting E) (h : Host) (req : CryptRequest) (hfit : req.Fits h) :
    req.run S h = req.direct E h (fun _ => teeSuccess) := by
  cases req with
  | allocateOperation => exact allocateOperation_direct hS _ _ _ _
  | freeOperation => exact onHandles_void hS .freeOperation _ _ rfl fun _ hv => by rw [hv]
  | resetOperation => exact onHandles_void hS .resetOperation _ _ rfl fun _ hv => by rw [hv]
  | copyOperation => exact onHandles_void hS .copyOperation _ _ rfl fun _ hv => by rw [hv]
  | setOperationKey => exact onHandles_result hS .setOperationKey _ _ rfl fun _ hv => by rw [hv]
  | setOperationKey2 => exact setOperationKey2_direct hS _ _ _
  | digestUpdate => exact feed_direct hS .digestUpdate rfl _ hfit
  | digestDoFinal =>
    exact transform_direct hS .digestDoFinal rfl (fun _ _ _ => rfl) _ hfit.1 hfit.2
  | cipherInit => exact initialise_direct hS .cipherInit rfl _ hfit
  | cipherUpdate =>
    exact transform_direct hS .cipherUpdate rfl (fun _ _ _ => rfl) _ hfit.1 hfit.2
  | cipherDoFinal =>
    exact transform_direct hS .cipherDoFinal rfl (fun _ _ _ => rfl) _ hfit.1 hfit.2
  | macInit => exact initialise_direct hS .macInit rfl _ hfit
  | macUpdate => exact feed_direct hS .macUpdate rfl _ hfit
  | macFinalCompute =>
    exact transform_direct hS .macFinalCompute rfl (fun _ _ _ => rfl) _ hfit.1 hfit.2
  | randomNumberGenerate => exact randomNumberGenerate_direct hS hfit
  | aeInit => exact aeInit_direct hS _ hfit.1 _ _ _
  | aeUpdateAad => exact feed_direct hS .aeUpdateAad rfl _ hfit
  | aeUpdate => exact aeUpdate_direct hS _ hfit.1 hfit.2
  | aeEncryptFinal => exact aeEncryptFinal_direct hS _ hfit.1 hfit.2.1 hfit.2.2
  | aeDecryptFinal => exact aeDecryptFinal_direct hS _ hfit.1 hfit.2.1 hfit.2.2
  | asymmetricEncrypt =>
    exact asymmetric_direct hS hE hfit.1 .asymmetricEncrypt rfl (fun _ _ _ _ => rfl) _ hfit.2.1
      hfit.2.2
  | asymmetricDecrypt =>
    exact asymmetric_direct hS hE hfit.1 .asymmetricDecrypt rfl (fun _ _ _ _ => rfl) _ hfit.2.1
      hfit.2.2
  | asymmetricSign =>
    exact asymmetric_direct hS hE hfit.1 .asymmetricSignDigest rfl (fun _ _ _ _ => rfl) _
      hfit.2.1 hfit.2.2
  | asymmetricVerify => exact asymmetricVerify_direct hS hE hfit.1 _ hfit.2.1 hfit.2.2
  | populateTransientObject => exact populateTransientObject_direct hS hE hfit _
  | generateKey => exact generateKey_direct hS hE hfit _ _
  | deriveKey => exact deriveKey_direct hS hE hfit _ _
  | allocateTransientObject => exact allocateTransientObject_direct hS _ _ _
  | freeTransientObject =>
    exact onHandles_void hS .freeTransientObject _ _ rfl fun _ hv => by rw [hv]
  | resetTransientObject =>
    exact onHandles_void hS .resetTransientObject _ _ rfl fun _ hv => by rw [hv]
  | getObjectBufferAttribute => exact getObjectBufferAttribute_direct hS _ _ hfit
  | getObjectValueAttribute => exact getObjectValueAttribute_direct hS _ _ _ _

end WrapperMarshalling
