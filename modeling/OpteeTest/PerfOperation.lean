import OpteeTest.EffectRuns
import OpteeTest.PerfCommands
import OpteeTest.StorageHandlers
import OpteeTest.TeeRecord

/-! # The operation that the performance TAs keep

Both TAs keep one operation in a static variable. A prepare command frees it and allocates the
next, process commands use it, and the end of a session frees it; nobody resets the variable. -/
namespace PerfOperation

open ByteMemory TeeApi TeeCalls EffectRuns HandleLedger TeeRecord
open PerfCommands (aesParamTypes shaParamTypes teeAlgAesGcm unitSize)
open StorageHandlers (teeAlgAesCbcNopad teeModeEncrypt teeTypeAes)

section
variable {m : Type → Type} [Monad m] (C : Calls m)

def cmdCleanRes (op : ℕ) : m Unit :=
  if op ≠ 0 then do
    let _ ← C.api (.freeOperation op)
    pure ()
  else pure ()

/-- `TEE_AllocateOperation` into the variable, after what it held has been freed. When it fails, the
variable is as before or null. -/
def reallocate (op : ℕ) (alloc : ApiCall) : m (TeeResult × ℕ) := do
  cmdCleanRes C op
  let r ← C.api alloc
  pure (r.res, if r.res = teeSuccess then r.handle else if r.handle = 0 then 0 else op)

structure AesStatics where
  cryptoOp : ℕ
  useIv : Bool
  algo : UInt32

def teeAlgAesEcbNopad : UInt32 := 0x10000010
def teeAlgAesCtr : UInt32 := 0x10000210
def teeAlgAesXts : UInt32 := 0x10000410
def teeAttrSecretValue : UInt32 := 0xC0000000
def teeModeDecrypt : UInt32 := 1
def teeModeDigest : UInt32 := 5
def tagLen : UInt32 := 128

def prepareTypes : UInt32 := teeParamTypes .valueInput .valueInput .none .none

def aesKey : Memory UInt8 := fun i => UInt8.ofNat i

def aesKey2 : Memory UInt8 := fun i => UInt8.ofNat (0x20 + i)

def iv : List UInt8 := (List.range 16).map fun i => UInt8.ofNat (0xA0 + i)

/-- The algorithms of `TA_AES_ECB` to `TA_AES_GCM`, and whether they take an initialisation
vector. -/
def aesAlgorithm (selector : UInt32) : Option (UInt32 × Bool) :=
  [(teeAlgAesEcbNopad, false), (teeAlgAesCbcNopad, true), (teeAlgAesCtr, true),
    (teeAlgAesXts, true), (teeAlgAesGcm, true)][selector.toNat]?

def aesAllocation (params : TeeParams) (algo : UInt32) : ApiCall :=
  .allocateOperation algo (if (params 0).value.a ≠ 0 then teeModeDecrypt else teeModeEncrypt)
    (if algo = teeAlgAesXts then (params 0).value.b * 2 else (params 0).value.b)

def keyAllocation (keysize : UInt32) : ApiCall := .allocateTransientObject teeTypeAes keysize

def keyPopulation (key : Memory UInt8) (keysize : UInt32) (hkey : ℕ) : ApiCall :=
  .populateTransientObject hkey
    [.ref teeAttrSecretValue (some (slice key 0 (keysize / 8).toNat)) (keysize / 8)]

/-- The second key of XTS. Like the first it is only freed when nothing fails. -/
def setSecondKey (op hkey : ℕ) (keysize : UInt32) : m TeeResult := do
  let t ← C.api (keyAllocation keysize)
  if t.res ≠ teeSuccess then pure t.res
  else
    let p ← C.api (keyPopulation aesKey2 keysize t.handle)
    if p.res ≠ teeSuccess then pure p.res
    else
      let s ← C.api (.setOperationKey2 op hkey t.handle)
      if s.res ≠ teeSuccess then pure s.res
      else
        let _ ← C.api (.freeTransientObject t.handle)
        pure teeSuccess

def setOneKey (op hkey : ℕ) : m TeeResult := do
  let s ← C.api (.setOperationKey op hkey)
  pure s.res

def setOperationKeys (op hkey : ℕ) (algo keysize : UInt32) : m TeeResult :=
  if algo = teeAlgAesXts then setSecondKey C op hkey keysize else setOneKey C op hkey

def setKeys (op : ℕ) (algo keysize : UInt32) : m TeeResult := do
  let t ← C.api (keyAllocation keysize)
  if t.res ≠ teeSuccess then pure t.res
  else
    let p ← C.api (keyPopulation aesKey keysize t.handle)
    if p.res ≠ teeSuccess then pure p.res
    else
      let res ← setOperationKeys C op t.handle algo keysize
      if res ≠ teeSuccess then pure res
      else
        let _ ← C.api (.freeTransientObject t.handle)
        pure teeSuccess

/-- The operation starts with the static vector or none. -/
def initOperation (op : ℕ) (algo : UInt32) (useIv : Bool) : m TeeResult :=
  if algo = teeAlgAesGcm then do
    let r ← C.api (.aeInit op (if useIv then iv else []) tagLen 0 0)
    pure r.res
  else do
    let _ ← C.api (.cipherInit op (if useIv then some iv else none))
    pure teeSuccess

def cmdPrepareKey (paramTypes : UInt32) (params : TeeParams) (g : AesStatics) :
    m (TeeResult × AesStatics) :=
  if paramTypes ≠ prepareTypes then pure (teeErrorBadParameters, g)
  else match aesAlgorithm (params 1).value.a with
    | none => pure (teeErrorBadParameters, g)
    | some (algo, useIv) => do
      let out ← reallocate C g.cryptoOp (aesAllocation params algo)
      let g := ⟨out.2, useIv, algo⟩
      if out.1 ≠ teeSuccess then pure (out.1, g)
      else
        let res ← setKeys C out.2 algo (params 0).value.b
        if res ≠ teeSuccess then pure (res, g)
        else
          let res ← initOperation C out.2 algo useIv
          pure (res, g)

/-- What the TEE says about the memory of a process command for secure data. -/
structure SdpAnswers where
  secureIn : Bool
  secureOut : Bool
  preFlushIn : TeeResult
  preFlushOut : TeeResult
  postFlushOut : TeeResult

def SdpAnswers.preFlush (a : SdpAnswers) (useSdp : Bool) : TeeResult :=
  if useSdp ∧ a.secureIn ∧ a.preFlushIn ≠ teeSuccess then a.preFlushIn
  else if useSdp ∧ a.secureOut ∧ a.preFlushOut ≠ teeSuccess then a.preFlushOut
  else teeSuccess

def updateCall (g : AesStatics) (inp : List UInt8) (outsz : UInt32) : ApiCall :=
  if g.algo = teeAlgAesGcm then .aeUpdate g.cryptoOp inp outsz
  else .cipherUpdate g.cryptoOp inp outsz

def unitLoop (A : Arch) (g : AesStatics) (buffer : Memory UInt8) (unit : ℕ) :
    ℕ → ℕ → UInt32 → m (TeeResult × ℕ × UInt32)
  | 0, inp, outsz => pure (teeSuccess, inp, outsz)
  | count + 1, inp, outsz => do
    let r ← C.api (updateCall g (slice buffer inp unit) outsz)
    if r.res ≠ teeSuccess then pure (r.res, inp, r.size)
    else unitLoop A g buffer unit count (PerfCommands.advance A inp unit) r.size

/-- The `while` loop. A division by zero ends the TA before it uses the operation. -/
def roundLoop (A : Arch) (g : AesStatics) (buffer : Memory UInt8) (insz unit : ℕ) :
    ℕ → ℕ → UInt32 → m TeeResult
  | 0, _, _ => pure teeSuccess
  | n + 1, inp, outsz => do
    let out ← unitLoop C A g buffer unit (insz / unit) inp outsz
    if out.1 ≠ teeSuccess then pure out.1
    else if insz % unit ≠ 0 then
      let r ← C.api (updateCall g (slice buffer out.2.1 (insz % unit)) out.2.2)
      if r.res ≠ teeSuccess then pure r.res
      else roundLoop A g buffer insz unit n out.2.1 r.size
    else roundLoop A g buffer insz unit n out.2.1 out.2.2

def aesCmdProcess (A : Arch) (paramTypes : UInt32) (params : TeeParams) (useSdp : Bool)
    (sdp : SdpAnswers) (g : AesStatics) : m TeeResult :=
  if paramTypes ≠ aesParamTypes then pure teeErrorBadParameters
  else if sdp.preFlush useSdp ≠ teeSuccess then pure (sdp.preFlush useSdp)
  else do
    let res ← roundLoop C A g (params 0).memref.buffer (params 0).memref.size.toNat
      (unitSize params) (params 2).value.a.toNat 0 (params 1).memref.size
    if res ≠ teeSuccess then pure res
    else if useSdp ∧ sdp.secureOut ∧ sdp.postFlushOut ≠ teeSuccess then pure sdp.postFlushOut
    else pure teeSuccess

/-- What may be asked of an instance of a TA; `sdp` is for the process commands of `aes_perf`. -/
inductive Request where
  | closeSession
  | invoke (commandId paramTypes : UInt32) (params : TeeParams) (sdp : SdpAnswers)

/-- `TA_CloseSessionEntryPoint` and `TA_InvokeCommandEntryPoint` of `aes_perf`. -/
def aesCall (A : Arch) (cfgSecureDataPath : Bool) (r : Request) (g : AesStatics) :
    m (TeeResult × AesStatics) :=
  match r with
  | .closeSession => do
    cmdCleanRes C g.cryptoOp
    pure (teeSuccess, g)
  | .invoke commandId paramTypes params sdp =>
    if commandId = 0 then cmdPrepareKey C paramTypes params g
    else if commandId = 1 then do
      let res ← aesCmdProcess C A paramTypes params false sdp g
      pure (res, g)
    else if commandId = 2 then
      if cfgSecureDataPath then do
        let res ← aesCmdProcess C A paramTypes params true sdp g
        pure (res, g)
      else pure (teeErrorNotSupported, g)
    else pure (teeErrorBadParameters, g)

def shaPrepareTypes : UInt32 := teeParamTypes .valueInput .none .none .none

def shaAlgorithm (selector : UInt32) : Option UInt32 :=
  [0x50000002, 0x50000003, 0x50000004, 0x50000005, 0x50000006][selector.toNat]?

def shaAllocation (algo : UInt32) : ApiCall := .allocateOperation algo teeModeDigest 0

def cmdPrepareOp (paramTypes : UInt32) (params : TeeParams) (digestOp : ℕ) :
    m (TeeResult × ℕ) :=
  if paramTypes ≠ shaPrepareTypes then pure (teeErrorBadParameters, digestOp)
  else match shaAlgorithm (params 0).value.a with
    | none => pure (teeErrorBadParameters, digestOp)
    | some algo => reallocate C digestOp (shaAllocation algo)

def digestLoop (digestOp : ℕ) (inp : List UInt8) : ℕ → UInt32 → m TeeResult
  | 0, _ => pure teeSuccess
  | n + 1, outsz => do
    let r ← C.api (.digestDoFinal digestOp inp outsz)
    if r.res ≠ teeSuccess then pure r.res else digestLoop digestOp inp n r.size

def shaCmdProcess (paramTypes : UInt32) (params : TeeParams) (digestOp : ℕ) : m TeeResult :=
  if paramTypes ≠ shaParamTypes then pure teeErrorBadParameters
  else
    let offset := (params 2).value.b
    let insz := (params 0).memref.size - offset
    digestLoop C digestOp (slice (params 0).memref.buffer offset.toNat insz.toNat)
      (params 2).value.a.toNat (params 1).memref.size

/-- `TA_CloseSessionEntryPoint` and `TA_InvokeCommandEntryPoint` of `sha_perf`. -/
def shaCall (r : Request) (digestOp : ℕ) : m (TeeResult × ℕ) :=
  match r with
  | .closeSession => do
    cmdCleanRes C digestOp
    pure (teeSuccess, digestOp)
  | .invoke commandId paramTypes params _ =>
    if commandId = 0 then cmdPrepareOp C paramTypes params digestOp
    else if commandId = 1 then do
      let res ← shaCmdProcess C paramTypes params digestOp
      pure (res, digestOp)
    else pure (teeErrorBadParameters, digestOp)
end

section
variable {σ : Type} {held : σ → ℕ} {U : PerfCommands.Update σ held} {g : AesStatics}
variable {C : Calls (StateM (σ × List ApiCall))} {buffer : Memory UInt8}

def Performs (C : Calls (StateM (σ × List ApiCall))) (g : AesStatics)
    (U : PerfCommands.Update σ held) : Prop :=
  ∀ inp outsz op log, ∃ r : ApiReply (updateCall g inp outsz),
    (C.api (updateCall g inp outsz)).run (op, log) =
      (r, (U.run op inp.length outsz.toNat).2.2, log ++ [updateCall g inp outsz]) ∧
    r.res = (U.run op inp.length outsz.toNat).1 ∧
    r.size.toNat = (U.run op inp.length outsz.toNat).2.1

def rangeCall (g : AesStatics) (buffer : Memory UInt8) (u : PerfCommands.UpdateCall) : ApiCall :=
  updateCall g (slice buffer u.inp u.len) (UInt32.ofNat u.outsz)

theorem update_performs (hC : Performs C g U) (buffer : Memory UInt8)
    (c : PerfCommands.Cursor σ) {outsz : UInt32} (hout : outsz.toNat = c.outsz) (len : ℕ)
    (log : List ApiCall) :
    ∃ r : ApiReply (updateCall g (slice buffer c.inp len) outsz),
      (C.api (updateCall g (slice buffer c.inp len) outsz)).run (c.op, log) =
        (r, (PerfCommands.update U len c).2.op, log ++ [rangeCall g buffer (c.call len)]) ∧
      r.res = (PerfCommands.update U len c).1 ∧
      r.size.toNat = (PerfCommands.update U len c).2.outsz := by
  have hcall : rangeCall g buffer (c.call len) =
      updateCall g (slice buffer c.inp len) outsz := by
    rw [rangeCall, PerfCommands.Cursor.call, ← hout, UInt32.ofNat_toNat]
  obtain ⟨r, hrun, hres, hsize⟩ := hC (slice buffer c.inp len) outsz c.op log
  rw [length_slice, hout] at hrun hres hsize
  exact ⟨r, by rw [hrun, hcall]; rfl, hres, hsize⟩

theorem unitLoop_performs (hC : Performs C g U) (A : Arch) (buffer : Memory UInt8)
    (unit count : ℕ) (c : PerfCommands.Cursor σ) {outsz : UInt32}
    (hout : outsz.toNat = c.outsz) (log : List ApiCall) :
    let out := PerfCommands.unitLoop A U unit count c
    ∃ inp size, (unitLoop C A g buffer unit count c.inp outsz).run (c.op, log) =
        ((out.1, inp, size), out.2.2.op, log ++ out.2.1.map (rangeCall g buffer)) ∧
      (out.1 = teeSuccess → inp = out.2.2.inp ∧ size.toNat = out.2.2.outsz) := by
  induction count generalizing c outsz log with
  | zero =>
    refine ⟨c.inp, outsz, ?_, fun _ => ⟨rfl, hout⟩⟩
    rw [PerfCommands.unitLoop, List.map_nil, List.append_nil]
    rfl
  | succ count ih =>
    obtain ⟨r, hrun, hres, hsize⟩ := update_performs hC buffer c hout unit log
    have hinp : (PerfCommands.update U unit c).2.inp = c.inp := rfl
    rw [PerfCommands.unitLoop, unitLoop, run_bind_eq hrun]
    generalize PerfCommands.update U unit c = step at *
    obtain ⟨res, next⟩ := step
    dsimp only at hres hsize hinp ⊢
    by_cases hok : res = teeSuccess
    · obtain ⟨inp, size, hrest, hlast⟩ := ih ⟨next.op, PerfCommands.advance A c.inp unit,
        PerfCommands.advance A next.out unit, next.outsz⟩ hsize
        (log ++ [rangeCall g buffer (c.call unit)])
      dsimp only at hrest
      rw [if_neg (not_not.mpr (hres.trans hok)), if_neg (not_not.mpr hok), hinp, hrest]
      exact ⟨inp, size, by rw [List.map_cons, List.append_assoc]; rfl, hlast⟩
    · rw [if_pos (hres ▸ hok), if_pos hok]
      exact ⟨c.inp, r.size, by rw [hres]; rfl, fun h => absurd h hok⟩

/-- A round has made `calls`, and the rounds behind it only run after a success. -/
theorem nextRounds_performs (buffer : Memory UInt8) (calls : List PerfCommands.UpdateCall)
    (log : List ApiCall) (op : σ) (rest : StateM (σ × List ApiCall) TeeResult)
    {roundRes res : TeeResult} {t : PerfCommands.Trace}
    (hrest : roundRes = teeSuccess → t.res = some res →
      ∃ op', rest.run (op, log ++ calls.map (rangeCall g buffer)) = (res, op',
        log ++ calls.map (rangeCall g buffer) ++ t.rounds.flatten.map (rangeCall g buffer)))
    {trace : PerfCommands.Trace} (htrace : trace =
      if roundRes ≠ teeSuccess then ⟨some roundRes, [calls]⟩ else ⟨t.res, calls :: t.rounds⟩)
    (hres : trace.res = some res) :
    ∃ op', StateT.run (if roundRes ≠ teeSuccess then pure roundRes else rest)
        (op, log ++ calls.map (rangeCall g buffer)) =
      (res, op', log ++ trace.rounds.flatten.map (rangeCall g buffer)) := by
  subst htrace
  by_cases hok : roundRes = teeSuccess
  · rw [if_neg (not_not.mpr hok)] at hres ⊢
    obtain ⟨op', hrun⟩ := hrest hok hres
    rw [if_neg (not_not.mpr hok)]
    exact ⟨op', by rw [hrun, List.flatten_cons, List.map_append, List.append_assoc]⟩
  · rw [if_pos hok] at hres ⊢
    rw [if_pos hok]
    cases hres
    exact ⟨op, by rw [List.flatten_singleton]; rfl⟩

theorem roundLoop_performs (hC : Performs C g U) (A : Arch) (buffer : Memory UInt8)
    (insz unit n : ℕ) (c : PerfCommands.Cursor σ) {outsz : UInt32} (hout : outsz.toNat = c.outsz)
    (log : List ApiCall) (res : TeeResult)
    (hres : (PerfCommands.roundLoop A U insz unit n c).res = some res) :
    ∃ op, (roundLoop C A g buffer insz unit n c.inp outsz).run (c.op, log) =
      (res, op, log ++ (PerfCommands.roundLoop A U insz unit n c).rounds.flatten.map
        (rangeCall g buffer)) := by
  induction n generalizing c outsz log with
  | zero =>
    cases hres
    refine ⟨c.op, ?_⟩
    rw [PerfCommands.roundLoop, List.flatten_nil, List.map_nil, List.append_nil]
    rfl
  | succ n ih =>
    obtain ⟨inp, size, hunits, hlast⟩ :=
      unitLoop_performs hC A buffer unit (insz / unit) c hout log
    rw [PerfCommands.roundLoop, PerfCommands.runRound] at hres ⊢
    by_cases hunit : unit = 0
    · rw [if_pos hunit] at hres
      cases hres
    rw [if_neg hunit] at hres ⊢
    rw [roundLoop, run_bind_eq hunits]
    generalize PerfCommands.unitLoop A U unit (insz / unit) c = units at *
    obtain ⟨unitsRes, calls, c₁⟩ := units
    dsimp only at hres hlast ⊢
    by_cases hok : unitsRes = teeSuccess
    · obtain ⟨rfl, hsize⟩ := hlast hok
      rw [if_neg (not_not.mpr hok)] at hres ⊢
      rw [if_neg (not_not.mpr hok)]
      by_cases hpart : insz % unit ≠ 0
      · obtain ⟨r, hrun, hpartRes, hpartSize⟩ := update_performs hC buffer c₁ hsize
          (insz % unit) (log ++ calls.map (rangeCall g buffer))
        rw [if_pos hpart] at hres ⊢
        rw [if_pos hpart, run_bind_eq hrun, hpartRes]
        have hrest := nextRounds_performs buffer (calls ++ [c₁.call (insz % unit)]) log _ _
          (fun _ => ih _ hpartSize _) rfl hres
        rwa [List.map_append, ← List.append_assoc] at hrest
      · rw [if_neg hpart] at hres ⊢
        rw [if_neg hpart]
        have hrest := nextRounds_performs buffer calls log _ _ (fun _ => ih c₁ hsize _) rfl hres
        rwa [if_neg (not_not.mpr hok)] at hrest
    · rw [if_pos hok] at hres ⊢
      have hrest := nextRounds_performs (g := g) buffer calls log c₁.op (pure res)
        (fun h => absurd h hok) rfl hres
      rw [if_pos hok] at hrest ⊢
      exact hrest

def sdpAnswers (E : PerfCommands.Machine σ) : SdpAnswers :=
  ⟨E.secureIn, E.secureOut, E.preFlushIn, E.preFlushOut, E.postFlushOut⟩

/-- The command calls the API for the ranges that it runs over, and for no other. -/
theorem aesCmdProcess_performs (E : PerfCommands.Machine σ)
    (hC : Performs C g (E.doUpdate g.algo)) (A : Arch) (paramTypes : UInt32) (params : TeeParams)
    (useSdp : Bool) (op : σ) (log : List ApiCall) {res : TeeResult}
    (hres : (PerfCommands.aesCmdProcess A E g.algo paramTypes params useSdp op).res = some res) :
    ∃ op', (aesCmdProcess C A paramTypes params useSdp (sdpAnswers E) g).run (op, log) =
      (res, op', log ++
        (PerfCommands.aesCmdProcess A E g.algo paramTypes params useSdp op).rounds.flatten.map
          (rangeCall g (params 0).memref.buffer)) := by
  have hflush : (sdpAnswers E).preFlush useSdp = E.preFlush useSdp := rfl
  rw [PerfCommands.aesCmdProcess] at hres ⊢
  rw [aesCmdProcess, hflush]
  by_cases htypes : paramTypes = aesParamTypes
  case neg =>
    rw [if_pos htypes] at hres ⊢
    cases hres
    exact ⟨op, by rw [if_pos htypes, List.flatten_nil, List.map_nil, List.append_nil]; rfl⟩
  by_cases hpre : E.preFlush useSdp = teeSuccess
  case neg =>
    rw [if_neg (not_not.mpr htypes), if_pos hpre] at hres ⊢
    cases hres
    refine ⟨op, ?_⟩
    rw [if_neg (not_not.mpr htypes), if_pos hpre, List.flatten_nil, List.map_nil, List.append_nil]
    rfl
  rw [if_neg (not_not.mpr htypes), if_neg (not_not.mpr hpre)] at hres ⊢
  rw [if_neg (not_not.mpr htypes), if_neg (not_not.mpr hpre)]
  have hrounds := roundLoop_performs hC A (params 0).memref.buffer (params 0).memref.size.toNat
    (unitSize params) (params 2).value.a.toNat ⟨op, 0, 0, (params 1).memref.size.toNat⟩
    rfl log
  dsimp only at hres hrounds ⊢
  generalize PerfCommands.roundLoop A (E.doUpdate g.algo) (params 0).memref.size.toNat
    (unitSize params) (params 2).value.a.toNat
    ⟨op, 0, 0, (params 1).memref.size.toNat⟩ = trace at *
  by_cases hpost : trace.res = some teeSuccess ∧ useSdp = true ∧ E.secureOut = true ∧
      E.postFlushOut ≠ teeSuccess
  · rw [if_pos hpost] at hres ⊢
    cases hres
    obtain ⟨op', hrun⟩ := hrounds _ hpost.1
    have hyes : useSdp = true ∧ (sdpAnswers E).secureOut = true ∧
        (sdpAnswers E).postFlushOut ≠ teeSuccess := hpost.2
    rw [run_bind_eq hrun, if_neg (not_not.mpr rfl), if_pos hyes]
    exact ⟨op', rfl⟩
  · rw [if_neg hpost] at hres ⊢
    obtain ⟨op', hrun⟩ := hrounds _ hres
    rw [run_bind_eq hrun]
    by_cases hok : res = teeSuccess
    · have hno : ¬ (useSdp = true ∧ (sdpAnswers E).secureOut = true ∧
          (sdpAnswers E).postFlushOut ≠ teeSuccess) := fun h => hpost ⟨hok ▸ hres, h⟩
      rw [if_neg (not_not.mpr hok), if_neg hno, hok]
      exact ⟨op', rfl⟩
    · rw [if_pos hok]
      exact ⟨op', rfl⟩

variable {D : PerfCommands.Digest σ} {digestOp : ℕ}

def PerformsDigest (C : Calls (StateM (σ × List ApiCall))) (digestOp : ℕ)
    (D : PerfCommands.Digest σ) : Prop :=
  ∀ inp outsz op log, ∃ r : ApiReply (.digestDoFinal digestOp inp outsz),
    (C.api (.digestDoFinal digestOp inp outsz)).run (op, log) =
      (r, (D op inp.length outsz.toNat).2.2, log ++ [.digestDoFinal digestOp inp outsz]) ∧
    r.res = (D op inp.length outsz.toNat).1 ∧ r.size.toNat = (D op inp.length outsz.toNat).2.1

def Hashes (digestOp : ℕ) (buffer : Memory UInt8) (calls : List ApiCall)
    (ranges : List PerfCommands.Range) : Prop :=
  List.Forall₂ (fun c r => ∃ outsz,
    c = .digestDoFinal digestOp (slice buffer r.start r.len) outsz) calls ranges

theorem digestLoop_performs (hC : PerformsDigest C digestOp D) (hashed : PerfCommands.Range)
    (n : ℕ) (outsz : UInt32) (op : σ) (log : List ApiCall) :
    let out := PerfCommands.digestLoop D hashed n op outsz.toNat
    ∃ op' calls, (digestLoop C digestOp (slice buffer hashed.start hashed.len) n outsz).run
        (op, log) = (out.1, op', log ++ calls) ∧ Hashes digestOp buffer calls out.2 := by
  induction n generalizing outsz op log with
  | zero => exact ⟨op, [], by rw [List.append_nil]; rfl, .nil⟩
  | succ n ih =>
    obtain ⟨r, hrun, hres, hsize⟩ := hC (slice buffer hashed.start hashed.len) outsz op log
    rw [length_slice] at hrun hres hsize
    rw [PerfCommands.digestLoop, digestLoop, run_bind_eq hrun]
    generalize D op hashed.len outsz.toNat = step at *
    obtain ⟨res, size, op₁⟩ := step
    dsimp only at hres hsize ⊢
    by_cases hok : res = teeSuccess
    · obtain ⟨op', calls, hrest, hhashes⟩ := ih r.size op₁
        (log ++ [.digestDoFinal digestOp (slice buffer hashed.start hashed.len) outsz])
      rw [hsize] at hrest hhashes
      rw [if_neg (not_not.mpr (hres.trans hok)), if_neg (not_not.mpr hok), hrest]
      exact ⟨op', _ :: calls, by rw [List.append_assoc]; rfl, .cons ⟨outsz, rfl⟩ hhashes⟩
    · rw [if_pos (hres ▸ hok), if_pos hok]
      exact ⟨op₁, [_], by rw [hres]; rfl, .cons ⟨outsz, rfl⟩ .nil⟩

theorem shaCmdProcess_performs (hC : PerformsDigest C digestOp D) (A : Arch) (paramTypes : UInt32)
    (params : TeeParams) (op : σ) (log : List ApiCall) :
    let out := PerfCommands.shaCmdProcess A D paramTypes params op
    ∃ op' calls, (shaCmdProcess C paramTypes params digestOp).run (op, log) =
        (out.1, op', log ++ calls) ∧ Hashes digestOp (params 0).memref.buffer calls out.2 := by
  have hstart : (params 2).value.b.toNat % A.word = (params 2).value.b.toNat :=
    Nat.mod_eq_of_lt (Nat.lt_of_lt_of_le (UInt32.toNat_lt _) A.word_ge)
  rw [PerfCommands.shaCmdProcess, shaCmdProcess]
  by_cases htypes : paramTypes = shaParamTypes
  · rw [if_neg (not_not.mpr htypes), if_neg (not_not.mpr htypes)]
    dsimp only
    rw [hstart]
    exact digestLoop_performs hC ⟨_, _⟩ _ _ op log
  · rw [if_pos htypes, if_pos htypes]
    exact ⟨op, [], by rw [List.append_nil]; rfl, .nil⟩

def writtenReply (c : ApiCall) (res : TeeResult) (size : ℕ)
    (hroom : res = teeSuccess → size ≤ c.outputCapacity.toNat) : ApiReply c :=
  { bareReply c res with
    data := if res = teeSuccess then List.replicate size 0 else []
    size := UInt32.ofNat size
    data_le := by
      by_cases hok : res = teeSuccess
      · rw [if_pos hok, List.length_replicate]
        exact hroom hok
      · rw [if_neg hok]
        exact Nat.zero_le _
    size_eq := fun hok => by
      have hok : res = teeSuccess := hok
      rw [if_pos hok, List.length_replicate]
      exact UInt32.toNat_ofNat_of_lt' (Nat.lt_of_le_of_lt (hroom hok) (UInt32.toNat_lt _)) }

def performing (f : σ → ℕ → ℕ → TeeResult × ℕ × σ)
    (hroom : ∀ op len outsz, (f op len outsz).1 = teeSuccess → (f op len outsz).2.1 ≤ outsz) :
    Calls (StateM (σ × List ApiCall)) where
  api c := fun s => match c with
    | .aeUpdate _ inp outsz | .cipherUpdate _ inp outsz | .digestDoFinal _ inp outsz =>
      let out := f s.1 inp.length outsz.toNat
      (writtenReply _ out.1 out.2.1 (hroom _ _ _), out.2.2, s.2 ++ [c])
    | c => (bareReply c teeErrorGeneric, s.1, s.2 ++ [c])
  malloc _ := pure false
  free := pure ()
  wrote _ := pure ()

theorem performing_performs (g : AesStatics)
    (hfits : ∀ op len outsz, outsz < 2 ^ 32 → (U.run op len outsz).2.1 < 2 ^ 32) :
    Performs (performing U.run U.room) g U := by
  intro inp outsz op log
  have hsize := UInt32.toNat_ofNat_of_lt' (hfits op inp.length outsz.toNat outsz.toNat_lt)
  by_cases hgcm : g.algo = teeAlgAesGcm
  · rw [updateCall, if_pos hgcm]
    exact ⟨_, rfl, rfl, hsize⟩
  · rw [updateCall, if_neg hgcm]
    exact ⟨_, rfl, rfl, hsize⟩

theorem performing_performsDigest (digestOp : ℕ)
    (hroom : ∀ op len outsz, (D op len outsz).1 = teeSuccess → (D op len outsz).2.1 ≤ outsz)
    (hfits : ∀ op len outsz, outsz < 2 ^ 32 → (D op len outsz).2.1 < 2 ^ 32) :
    PerformsDigest (performing D hroom) digestOp D := fun inp outsz op _ =>
  ⟨_, rfl, rfl, UInt32.toNat_ofNat_of_lt' (hfits op inp.length outsz.toNat outsz.toNat_lt)⟩
end

end PerfOperation
