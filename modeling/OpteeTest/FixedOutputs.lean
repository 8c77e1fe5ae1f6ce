import OpteeTest.ErrorReporting

/-! # Handlers that write a fixed-size structure into a buffer of the client

The API does not learn the size of a buffer for an object's info or an operation's info, and may
write an object id of maximal length. The handler has to compare the sizes before it calls. -/
namespace FixedOutputs

open ByteMemory TeeApi ClientApi HandleTransport TeeCalls CryptHandlers StorageHandlers KeyHandlers
open LoggedRun ErrorReporting

inductive FixedOutput where
  | storageNextEnum | storageGetObjInfo | keyNextEnum | getOperationInfo
  deriving DecidableEq, Repr

def FixedOutput.handler {T : Arch} {m : Type → Type} [Monad m] (E : TaEnv T m) :
    FixedOutput → Handler m
  | .storageNextEnum => taStorageCmdNextEnum E
  | .storageGetObjInfo => taStorageCmdGetObjInfo E
  | .keyNextEnum => taKeyCmdNextEnum E
  | .getOperationInfo => taEntryGetOperationInfo E

/-- The parameters whose buffers a call of these handlers fills, and how many bytes at most. -/
def mayWrite : ApiCall → List (Fin 4 × UInt32)
  | .getObjectInfo1 _ => [(1, sizeofObjectInfo)]
  | .getOperationInfo _ => [(1, sizeofOperationInfo)]
  | .getNextPersistentObject _ true _ => [(1, sizeofObjectInfo), (2, teeObjectIdMaxLen)]
  | .getNextPersistentObject _ false _ => [(2, teeObjectIdMaxLen)]
  | _ => []

def written : (c : ApiCall) → ApiReply c → List (Fin 4 × List UInt8)
  | .getObjectInfo1 _, r => [(1, r.info.bytes)]
  | .getOperationInfo _, r => [(1, r.data)]
  | .getNextPersistentObject _ true _, r => [(1, r.info.bytes), (2, r.data)]
  | .getNextPersistentObject _ false _, r => [(2, r.data)]
  | _, _ => []

def WritesFixed {T : Arch} (O : Oracle T) : Prop :=
  ∀ log o, (O.answer log (.getOperationInfo o)).data.length = sizeofOperationInfo.toNat

/-- The buffers that a request of the type of `TEE_GetNextPersistentObject` asks to be filled. -/
def nextOutputs (paramTypes : UInt32) : List (Fin 4 × UInt32) :=
  if paramTypeGet paramTypes 0 = ParamType.code .valueInput ∧
      paramTypeGet paramTypes 2 = ParamType.code .memrefOutput ∧
      paramTypeGet paramTypes 3 = ParamType.code .none then
    if paramTypeGet paramTypes 1 = ParamType.code .none then [(2, teeObjectIdMaxLen)]
    else if paramTypeGet paramTypes 1 = ParamType.code .memrefOutput then
      [(1, sizeofObjectInfo), (2, teeObjectIdMaxLen)]
    else []
  else []

abbrev infoTypes : UInt32 := teeParamTypes .valueInput .memrefOutput .none .none

/-- The buffers to be filled for a request that a handler accepts, and the sizes they need. -/
def FixedOutput.outputs (h : FixedOutput) (paramTypes : UInt32) : List (Fin 4 × UInt32) :=
  match h with
  | .storageNextEnum | .keyNextEnum => nextOutputs paramTypes
  | .storageGetObjInfo => if paramTypes = infoTypes then [(1, sizeofObjectInfo)] else []
  | .getOperationInfo => if paramTypes = infoTypes then [(1, sizeofOperationInfo)] else []

structure Respects (outputs : List (Fin 4 × UInt32)) (params : TeeParams)
    (out : TeeResult × TeeParams) (log : List Event) : Prop where
  room : ∀ c r, .answered c r ∈ log → ∀ w ∈ mayWrite c, w.2 ≤ (params w.1).memref.size
  frame : ∀ i k, (params i).memref.size.toNat ≤ k →
    (out.2 i).memref.buffer k = (params i).memref.buffer k
  short : (∃ w ∈ outputs, (params w.1).memref.size < w.2) → out.1 = teeErrorShortBuffer ∧
    (∀ i, (out.2 i).memref.buffer = (params i).memref.buffer) ∧ log = []
  reported : out.1 = teeSuccess → ∃ c r, log = [.answered c r] ∧
    (written c r).map Prod.fst = outputs.map Prod.fst ∧
    ∀ w ∈ written c r, (out.2 w.1).memref.buffer = copyIn (params w.1).memref.buffer 0 w.2 ∧
      (out.2 w.1).memref.size.toNat = w.2.length

/-- The handler does so for this request in every state of the API's objects. -/
def FixedOutput.Sound (h : FixedOutput) (paramTypes : UInt32) (params : TeeParams) : Prop :=
  ∀ (T : Arch) (O : Oracle T), WritesFixed O →
    Yields (h.handler (observed O) paramTypes params) (Respects (h.outputs paramTypes) params)

section
variable {outputs : List (Fin 4 × UInt32)} {params : TeeParams} {out : TeeResult × TeeParams}

theorem respects_stop (hres : out.1 ≠ teeSuccess)
    (hbuffer : ∀ i, (out.2 i).memref.buffer = (params i).memref.buffer)
    (hshort : outputs ≠ [] → out.1 = teeErrorShortBuffer) : Respects outputs params out [] where
  room := fun _ _ h => absurd h List.not_mem_nil
  frame := fun i k _ => congrFun (hbuffer i) k
  short := by
    rintro ⟨w, hw, -⟩
    exact ⟨hshort (List.ne_nil_of_mem hw), hbuffer, rfl⟩
  reported := fun h => absurd h hres

theorem respects_call {c : ApiCall} {r : ApiReply c} (hcall : mayWrite c = outputs)
    (hroom : ∀ w ∈ outputs, w.2 ≤ (params w.1).memref.size)
    (hframe : ∀ i k, (params i).memref.size.toNat ≤ k →
      (out.2 i).memref.buffer k = (params i).memref.buffer k)
    (hwritten : (written c r).map Prod.fst = outputs.map Prod.fst)
    (hreported : out.1 = teeSuccess → ∀ w ∈ written c r,
      (out.2 w.1).memref.buffer = copyIn (params w.1).memref.buffer 0 w.2 ∧
        (out.2 w.1).memref.size.toNat = w.2.length) :
    Respects outputs params out [.answered c r] where
  room := by
    intro c' r' hmem w hw
    cases List.mem_singleton.mp hmem
    exact hroom w (hcall ▸ hw)
  frame := hframe
  short := by
    rintro ⟨w, hw, hlt⟩
    exact absurd (hroom w hw) (UInt32.not_le.mpr hlt)
  reported := fun h => ⟨c, r, rfl, hwritten, hreported h⟩

theorem putOutput_frame {i j : Fin 4} {data : List UInt8} {size : UInt32} {k : ℕ}
    (hk : j = i → data.length ≤ k) :
    (putOutput i data size params j).memref.buffer k = (params j).memref.buffer k := by
  by_cases hj : j = i
  · subst hj
    have hend : 0 + data.length ≤ k := (Nat.zero_add _).trans_le (hk rfl)
    rw [putOutput_self]
    exact copyIn_after _ hend
  · rw [putOutput_ne hj]

end

theorem putSize_buffer (i : Fin 4) (size : UInt32) (params : TeeParams) (j : Fin 4) :
    (putSize i size params j).memref.buffer = (params j).memref.buffer := by
  by_cases hj : j = i
  · subst hj
    rw [putSize, Function.update_self]
  · rw [putSize, Function.update_of_ne hj]

theorem length_info (i : TeeObjectInfo) : i.bytes.length = sizeofObjectInfo.toNat := rfl

section
variable {T : Arch} {O : Oracle T} (hO : WritesFixed O) (params : TeeParams)
include hO

theorem getOperationInfo_respects (paramTypes : UInt32) :
    Yields (taEntryGetOperationInfo (observed O) paramTypes params)
      (Respects (FixedOutput.outputs .getOperationInfo paramTypes) params) := by
  rw [taEntryGetOperationInfo, FixedOutput.outputs]
  by_cases htypes : paramTypes = infoTypes
  · rw [if_neg (not_not.mpr htypes), if_pos htypes]
    split_ifs with hsize
    · exact yields_pure (respects_stop (show teeErrorShortBuffer ≠ teeSuccess by decide)
        (fun _ => rfl) fun _ => rfl)
    · refine yields_perform fun log => yields_pure ?_
      have hroom : sizeofOperationInfo ≤ (params 1).memref.size := UInt32.not_lt.mp hsize
      have hdata := hO log (toHandle (observed O) (params 0).value.a)
      refine respects_call rfl ?_ ?_ rfl ?_
      · intro w hw
        rw [List.mem_singleton.mp hw]
        exact hroom
      · intro i k hk
        refine putOutput_frame fun hi => ?_
        rw [hdata]
        exact (UInt32.le_iff_toNat_le.mp hroom).trans (hi ▸ hk)
      · intro _ w hw
        rw [List.mem_singleton.mp hw, putOutput_self]
        exact ⟨rfl, hdata.symm⟩
  · rw [if_pos htypes, if_neg htypes]
    exact yields_pure (respects_stop (show teeErrorBadParameters ≠ teeSuccess by decide)
      (fun _ => rfl) fun h => absurd rfl h)

end

section
variable {wantsInfo : Bool} {params params' : TeeParams}

/-- The buffers of one round, with the info wanted or not. -/
def roundOutputs (wantsInfo : Bool) : List (Fin 4 × UInt32) :=
  if wantsInfo then [(1, sizeofObjectInfo), (2, teeObjectIdMaxLen)] else [(2, teeObjectIdMaxLen)]

/-- A round that may start: the parameters are the client's, up to the size of a checked info. -/
structure Started (wantsInfo : Bool) (params params' : TeeParams) : Prop where
  buffer : ∀ i, (params' i).memref.buffer = (params i).memref.buffer
  id : (params' 2).memref.size = (params 2).memref.size
  info : wantsInfo = true → sizeofObjectInfo ≤ (params 1).memref.size ∧
    (params' 1).memref.size = sizeofObjectInfo

def roundEnd {c : ApiCall} (wantsInfo : Bool) (r : ApiReply c) (params' : TeeParams) : TeeParams :=
  putOutput 2 r.data r.size
    (if wantsInfo = true ∧ r.res = teeSuccess then putInfo r.info params' else params')

theorem roundEnd_frame {c : ApiCall} {r : ApiReply c} (hstart : Started wantsInfo params params')
    (hid : r.data.length ≤ (params 2).memref.size.toNat) (i : Fin 4) {k : ℕ}
    (hk : (params i).memref.size.toNat ≤ k) :
    (roundEnd wantsInfo r params' i).memref.buffer k = (params i).memref.buffer k := by
  rw [roundEnd, putOutput_frame fun hi => hid.trans (hi ▸ hk)]
  split_ifs with hinfo
  · have hroom := UInt32.le_iff_toNat_le.mp (hstart.info hinfo.1).1
    rw [putInfo, putOutput_frame fun hi => (length_info _).trans_le (hroom.trans (hi ▸ hk)),
      hstart.buffer]
  · rw [hstart.buffer]

theorem roundEnd_id {c : ApiCall} {r : ApiReply c} (hstart : Started wantsInfo params params') :
    (roundEnd wantsInfo r params' 2).memref =
      ⟨copyIn (params 2).memref.buffer 0 r.data, r.size⟩ := by
  have hother : (2 : Fin 4) ≠ 1 := by decide
  rw [roundEnd, putOutput_self]
  split_ifs
  · rw [putInfo, putOutput_ne hother, hstart.buffer]
  · rw [hstart.buffer]

theorem roundEnd_info {c : ApiCall} {r : ApiReply c} (hstart : Started true params params')
    (hres : r.res = teeSuccess) :
    (roundEnd true r params' 1).memref =
      ⟨copyIn (params 1).memref.buffer 0 r.info.bytes, sizeofObjectInfo⟩ := by
  have hother : (1 : Fin 4) ≠ 2 := by decide
  rw [roundEnd, putOutput_ne hother, if_pos ⟨rfl, hres⟩, putInfo, putOutput_self, hstart.buffer,
    (hstart.info rfl).2]

theorem round_respects {e : ℕ} {n : UInt32} (r : ApiReply (.getNextPersistentObject e wantsInfo n))
    (hstart : Started wantsInfo params params') (hdata : r.data.length ≤ teeObjectIdMaxLen.toNat)
    (hid : teeObjectIdMaxLen ≤ (params 2).memref.size) :
    Respects (roundOutputs wantsInfo) params (r.res, roundEnd wantsInfo r params')
      [.answered _ r] := by
  have hfit := hdata.trans (UInt32.le_iff_toNat_le.mp hid)
  have hframe : ∀ i k, (params i).memref.size.toNat ≤ k →
      (roundEnd wantsInfo r params' i).memref.buffer k = (params i).memref.buffer k :=
    fun i _ hk => roundEnd_frame hstart hfit i hk
  cases wantsInfo with
  | false =>
    refine respects_call rfl ?_ hframe rfl ?_
    · intro w hw
      rw [List.mem_singleton.mp hw]
      exact hid
    · intro hres w hw
      rw [List.mem_singleton.mp hw, roundEnd_id hstart]
      exact ⟨rfl, r.size_eq hres⟩
  | true =>
    refine respects_call rfl ?_ hframe rfl ?_
    · intro w hw
      rcases List.mem_pair.mp hw with rfl | rfl
      · exact (hstart.info rfl).1
      · exact hid
    · intro hres w hw
      rcases List.mem_pair.mp hw with rfl | rfl
      · rw [roundEnd_info hstart hres]
        exact ⟨rfl, (length_info _).symm⟩
      · rw [roundEnd_id hstart]
        exact ⟨rfl, r.size_eq hres⟩

end

section
variable {T : Arch} {O : Oracle T}

theorem nextObject_respects {wantsInfo : Bool} {params params' : TeeParams}
    (hstart : Started wantsInfo params params') :
    Yields (nextObject (observed O) wantsInfo params')
      (Respects (roundOutputs wantsInfo) params) := by
  rw [nextObject]
  split_ifs with hsize
  · exact yields_pure (respects_stop (show teeErrorShortBuffer ≠ teeSuccess by decide)
      hstart.buffer fun _ => rfl)
  · have hid : teeObjectIdMaxLen ≤ (params 2).memref.size := by
      rw [← hstart.id]
      exact UInt32.not_lt.mp hsize
    exact yields_perform fun log => yields_pure
      (round_respects _ hstart (O.answer log _).data_le hid)

theorem nextOutput_respects (paramTypes : UInt32) (params : TeeParams) :
    Yields (if paramTypeGet paramTypes 1 = ParamType.code .none then
        nextObject (observed O) false params
      else if paramTypeGet paramTypes 1 = ParamType.code .memrefOutput then
        if (params 1).memref.size < sizeofObjectInfo then
          pure (teeErrorShortBuffer, putSize 1 sizeofObjectInfo params)
        else nextObject (observed O) true (putSize 1 sizeofObjectInfo params)
      else pure (teeErrorBadParameters, params))
      (Respects (if paramTypeGet paramTypes 1 = ParamType.code .none then roundOutputs false
        else if paramTypeGet paramTypes 1 = ParamType.code .memrefOutput then roundOutputs true
        else []) params) := by
  by_cases hnone : paramTypeGet paramTypes 1 = ParamType.code .none
  · rw [if_pos hnone, if_pos hnone]
    exact nextObject_respects ⟨fun _ => rfl, rfl, fun h => absurd h Bool.false_ne_true⟩
  · rw [if_neg hnone, if_neg hnone]
    by_cases hinfo : paramTypeGet paramTypes 1 = ParamType.code .memrefOutput
    · rw [if_pos hinfo, if_pos hinfo]
      split_ifs with hsize
      · exact yields_pure (respects_stop (show teeErrorShortBuffer ≠ teeSuccess by decide)
          (putSize_buffer 1 sizeofObjectInfo params) fun _ => rfl)
      · exact nextObject_respects ⟨putSize_buffer 1 sizeofObjectInfo params, rfl,
          fun _ => ⟨UInt32.not_lt.mp hsize, rfl⟩⟩
    · rw [if_neg hinfo, if_neg hinfo]
      exact yields_pure (respects_stop (show teeErrorBadParameters ≠ teeSuccess by decide)
        (fun _ => rfl) fun h => absurd rfl h)

theorem nextEnum_respects (paramTypes : UInt32) (params : TeeParams) :
    Yields (nextEnum (observed O) paramTypes params)
      (Respects (nextOutputs paramTypes) params) := by
  have hrefused (houtputs : nextOutputs paramTypes = []) :
      Yields (pure (teeErrorBadParameters, params) : Logged Event _)
        (Respects (nextOutputs paramTypes) params) :=
    yields_pure (respects_stop (show teeErrorBadParameters ≠ teeSuccess by decide)
      (fun _ => rfl) fun h => absurd houtputs h)
  rw [nextEnum]
  by_cases h0 : paramTypeGet paramTypes 0 = ParamType.code .valueInput
  · rw [if_neg (not_not.mpr h0)]
    by_cases h2 : paramTypeGet paramTypes 2 = ParamType.code .memrefOutput
    · rw [if_neg (not_not.mpr h2)]
      by_cases h3 : paramTypeGet paramTypes 3 = ParamType.code .none
      · rw [if_neg (not_not.mpr h3), nextOutputs, if_pos (And.intro h0 ⟨h2, h3⟩)]
        exact nextOutput_respects paramTypes params
      · rw [if_pos h3]
        exact hrefused (if_neg fun h => h3 h.2.2)
    · rw [if_pos h2]
      exact hrefused (if_neg fun h => h2 h.2.1)
  · rw [if_pos h0]
    exact hrefused (if_neg fun h => h0 h.1)

end

section
variable {T : Arch} {O : Oracle T} {params : TeeParams}

/-- The info of an object goes where its buffer begins, whatever the size of that is. -/
theorem getObjInfo_respects {paramTypes : UInt32}
    (h : paramTypes = infoTypes → (params 1).memref.size = sizeofObjectInfo) :
    Yields (taStorageCmdGetObjInfo (observed O) paramTypes params)
      (Respects (FixedOutput.outputs .storageGetObjInfo paramTypes) params) := by
  rw [taStorageCmdGetObjInfo, singleCall, FixedOutput.outputs]
  by_cases htypes : paramTypes = infoTypes
  · have hsize := h htypes
    rw [if_neg (not_not.mpr htypes), if_pos htypes]
    refine yields_perform fun log => yields_pure (respects_call rfl ?_ ?_ rfl ?_)
    · intro w hw
      rw [List.mem_singleton.mp hw, hsize]
      exact UInt32.le_refl _
    · intro i k hk
      dsimp only
      split_ifs
      · refine putOutput_frame fun hi => ?_
        rw [length_info, ← hsize]
        exact hi ▸ hk
      · rfl
    · intro hres w hw
      rw [List.mem_singleton.mp hw, if_pos hres, putInfo, putOutput_self, hsize]
      exact ⟨rfl, (length_info _).symm⟩
  · rw [if_pos htypes, if_neg htypes]
    exact yields_pure (respects_stop (show teeErrorBadParameters ≠ teeSuccess by decide)
      (fun _ => rfl) fun h => absurd rfl h)

end

def answering : Oracle .arm64 where
  taHead := 0
  base := fun _ => 4096
  base_fits := page_fits
  stackWord := 0
  fuel := 0
  grant := fun _ _ => true
  answer := fun _ c => match c with
    | .getOperationInfo o =>
      { bareReply (.getOperationInfo o) teeSuccess with
        data := List.replicate 32 0
        size := 32
        data_le := Nat.le_refl _
        size_eq := fun _ => rfl }
    | c => bareReply c teeSuccess

theorem answering_writes : WritesFixed answering := fun _ _ => rfl

/-- What a run of `ta_storage_cmd_get_obj_info` leaves behind when the object is there. -/
theorem getObjInfo_run (params : TeeParams) :
    taStorageCmdGetObjInfo (observed answering) infoTypes params [] =
      some ((teeSuccess, putInfo ⟨0, 0, 0, 0, 0, 0, 0⟩ params),
        [.answered (.getObjectInfo1 (widenVal (params 0).value.a)) (bareReply _ teeSuccess)]) :=
  rfl

/-- The info needs all of the buffer's bytes, and no other size than that of the info is told. -/
theorem size_of_sound {params : TeeParams}
    (h : FixedOutput.Sound .storageGetObjInfo infoTypes params) :
    (params 1).memref.size = sizeofObjectInfo := by
  obtain ⟨out, log, hrun, hrespects⟩ := h .arm64 answering answering_writes []
  have hpair := hrun.symm.trans (getObjInfo_run params)
  simp only [List.nil_append, Option.some.injEq, Prod.mk.injEq] at hpair
  obtain ⟨rfl, rfl⟩ := hpair
  obtain ⟨c, r, hlog, -, hsize⟩ := hrespects.reported rfl
  cases hlog
  have hreported := (hsize _ (List.mem_singleton.mpr rfl)).2
  rw [putInfo, putOutput_self] at hreported
  exact UInt32.toNat_inj.mp hreported

/-- All four handlers keep to the buffers, except that `ta_storage_cmd_get_obj_info` relies on a
buffer of exactly the size of the info. -/
theorem sound_iff (h : FixedOutput) (paramTypes : UInt32) (params : TeeParams) :
    h.Sound paramTypes params ↔ (h = .storageGetObjInfo → paramTypes = infoTypes →
      (params 1).memref.size = sizeofObjectInfo) := by
  constructor
  · rintro hsound rfl rfl
    exact size_of_sound hsound
  · intro hsize T O hO
    cases h with
    | storageNextEnum => exact nextEnum_respects paramTypes params
    | keyNextEnum => exact nextEnum_respects paramTypes params
    | getOperationInfo => exact getOperationInfo_respects hO params paramTypes
    | storageGetObjInfo => exact getObjInfo_respects (hsize rfl)

def shortInfo : TeeParams := fun _ => ⟨⟨7, 0⟩, ⟨fun _ => 0, 4⟩⟩

theorem short_info_overrun : ¬ FixedOutput.Sound .storageGetObjInfo infoTypes shortInfo := by
  intro hsound
  have hsize : (4 : UInt32) = sizeofObjectInfo := size_of_sound hsound
  exact absurd hsize (by decide)

end FixedOutputs
