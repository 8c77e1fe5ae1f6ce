import OpteeTest.MbedtlsTaf

/-! # Signing a certificate request

A step of `ta_entry_mbedtls_sign_cert` that fails goes to the label `out`, where the contexts are
freed. The computation of the steps stops there with the result and the parameters so far. -/
namespace CertSigning

open ByteMemory TeeApi FallibleRun MbedtlsTaf
open HandleFreeing (taDataSize)

abbrev Steps : Type → Type := Fallible Work (TeeResult × TeeParams)

section
variable (E : Mbedtls)

/-- `parse_issuer_cert` and `parse_issuer_key`: an embedded file is parsed from a copy that is one
zero byte longer. -/
def parseCopy (file : List UInt8) (parse : List UInt8 → Call) : Steps TeeResult := do
  let buf ← teeMalloc E (file.length + 1)
  if buf = false then pure teeErrorOutOfMemory
  else do
    let ret ← call E (parse (file ++ [0]))
    note .released
    pure (if ret ≠ 0 then teeErrorBadFormat else teeSuccess)

def parseIssuerCert : Steps TeeResult := parseCopy E E.midCrt (.x509CrtParse .issuerCrt)

def parseIssuerKey : Steps TeeResult := parseCopy E E.midKey .pkParseKey

variable (params : TeeParams)

/-- Only `ret` is set when a part of the issuer is not parsed: `res` is still `TEE_SUCCESS`. -/
def parseIssuer (parse : Steps TeeResult) : Steps Unit := do
  let ret ← parse
  if ret ≠ teeSuccess then throw (teeSuccess, params) else pure ()

def step (c : Call) : Steps Unit := do
  let ret ← call E c
  if ret ≠ 0 then throw (teeErrorBadFormat, params) else pure ()

def dnGets (dn : Context) : Steps (List UInt8) := do
  let ret ← call E (.x509DnGets dn)
  if ret < 0 then throw (teeErrorBadFormat, params) else pure (E.dn dn)

def setFields : Steps Unit := do
  step E params (.mpiLset 1)
  step E params (.x509CsrParse (contents (params 0).memref))
  let subject ← dnGets E params .csr
  step E params (.setSubjectName subject)
  let issuer ← dnGets E params .issuerCrt
  step E params (.setIssuerName issuer)
  note (.set .mdAlg)
  note (.set .subjectKey)
  note (.set .issuerKey)
  step E params .setSerial
  step E params (.setValidity "19700101000000" "20301231235959")
  step E params (.setBasicConstraints 0 0)
  step E params .setSubjectKeyIdentifier
  step E params .setAuthorityKeyIdentifier

def cString (s : List UInt8) : List UInt8 := s.takeWhile (· ≠ 0)

/-- The loop of `write_cert` at buffer size `bl`: the result, and the size it reports. -/
def findSize (bl : ℕ) (hbl : 0 < bl) : Steps (TeeResult × Option ℕ) := fun log =>
  if h : E.grants log bl then
    let ret := E.ret (log ++ [.allocated bl true]) (.x509writeCrtPem bl)
    let log := log ++ [.allocated bl true, .returned (.x509writeCrtPem bl) ret, .released]
    if ret = 0 then (.ok (teeErrorShortBuffer, some ((cString (E.pem ++ [0])).length + 1)), log)
    else if ret ≠ errBase64BufferTooSmall then (.ok (teeErrorGeneric, none), log)
    else findSize (bl * 2) (by omega) log
  else (.ok (teeErrorOutOfMemory, none), log ++ [.allocated bl false])
termination_by 2 * taDataSize - bl
decreasing_by
  have hle := E.grants_le _ bl h
  simp only [taDataSize] at hle ⊢
  omega

/-- `write_cert`: the result, what becomes of the buffer, and the size to report. -/
def writeCert (memref : TeeMemref) : Steps (TeeResult × TeeMemref) := do
  let ret ← call E (.x509writeCrtPem memref.size.toNat)
  if ret = 0 then
    pure (teeSuccess, { memref with buffer := copyIn memref.buffer 0 (E.pem ++ [0]) })
  else if ret ≠ errBase64BufferTooSmall then pure (teeErrorGeneric, memref)
  else do
    let (res, blen) ← findSize E 1024 (by decide)
    pure (res, { memref with size := (blen.map UInt32.ofNat).getD memref.size })

/-- The conversion `%*s`: blanks up to the width, on the right when it is negative. -/
def padded (width : ℤ) (s : List UInt8) : List UInt8 :=
  let pad := List.replicate (width.natAbs - s.length) 0x20
  if width < 0 then s ++ pad else pad ++ s

/-- `"%*s\n%*s"` with the embedded certificates: terminated arrays, with the size of the text. -/
def chainText : List UInt8 :=
  padded (toInt E.midCrt.length) (cString (E.midCrt ++ [0])) ++ [0x0A] ++
    padded (toInt E.caCrt.length) (cString (E.caCrt ++ [0]))

/-- `snprintf` fails when it likes, and for a text that is too long for an `int`. -/
def snprintfRet (log : List Work) (size : ℕ) (text : List UInt8) : ℤ :=
  if E.ret log (.snprintf size) < 0 then E.ret log (.snprintf size)
  else if text.length < 2 ^ 31 then text.length else -1

def printed (memref : TeeMemref) (text : List UInt8) : Memory UInt8 :=
  if memref.size = 0 then memref.buffer
  else copyIn memref.buffer 0 (text.take (memref.size.toNat - 1) ++ [0])

def snprintf (size : ℕ) (text : List UInt8) : Steps ℤ :=
  perform (fun log => snprintfRet E log size text) (.returned (.snprintf size))

def setMemref (params : TeeParams) (i : Fin 4) (memref : TeeMemref) : TeeParams :=
  Function.update params i { params i with memref := memref }

def writeChain (res : TeeResult) (params : TeeParams) : Steps (TeeResult × TeeParams) := do
  let memref := (params 2).memref
  let ret ← snprintf E memref.size.toNat (chainText E)
  if ret < 0 then throw (teeErrorBadFormat, params)
  else pure (if (memref.size.toNat : ℤ) ≤ ret then teeErrorShortBuffer else res,
    setMemref params 2 ⟨printed memref (chainText E), UInt32.ofNat (ret.toNat + 1)⟩)

def writeOutputs : Steps (TeeResult × TeeParams) := do
  let (res, memref) ← writeCert E (params 1).memref
  if res ≠ teeSuccess ∧ res ≠ teeErrorShortBuffer then throw (res, params)
  else writeChain E res (setMemref params 1 memref)

def signCert : Steps (TeeResult × TeeParams) := do
  parseIssuer params (parseIssuerCert E)
  parseIssuer params (parseIssuerKey E)
  setFields E params
  writeOutputs E params

def signTypes : UInt32 := teeParamTypes .memrefInput .memrefOutput .memrefOutput .none

def signContexts : List Context := [.serial, .issuerCrt, .issuerKey, .writeCrt, .csr]

structure SignOutcome where
  res : TeeResult
  params : TeeParams
  log : List Event

def taEntryMbedtlsSignCert (paramTypes : UInt32) : SignOutcome :=
  if paramTypes ≠ signTypes then ⟨teeErrorBadParameters, params, []⟩
  else
    let (outcome, log) := signCert E params []
    let (res, params) := match outcome with
      | .ok out => out
      | .error out => out
    ⟨res, params, signContexts.map .initialised ++ log.map .did ++ signContexts.map .freed⟩

end

/-- A call that fails; for `mbedtls_x509write_crt_pem` a small buffer is no failure. -/
def Fails : Work → Prop
  | .returned (.x509DnGets _) ret | .returned (.snprintf _) ret => ret < 0
  | .returned (.x509writeCrtPem _) ret => ret ≠ 0 ∧ ret ≠ errBase64BufferTooSmall
  | .returned _ ret => ret ≠ 0
  | .allocated _ granted => granted = false
  | .set _ | .released => False

/-- The calls that must return 0: they parse the issuer and the request and set the fields. -/
def signSteps (E : Mbedtls) (csr : List UInt8) : List Call :=
  [.x509CrtParse .issuerCrt (E.midCrt ++ [0]), .pkParseKey (E.midKey ++ [0]), .mpiLset 1,
    .x509CsrParse csr, .setSubjectName (E.dn .csr), .setIssuerName (E.dn .issuerCrt), .setSerial,
    .setValidity "19700101000000" "20301231235959", .setBasicConstraints 0 0,
    .setSubjectKeyIdentifier, .setAuthorityKeyIdentifier]

def works (log : List Event) : List Work :=
  log.filterMap fun e => match e with
    | .did w => some w
    | _ => none

structure AllSucceeded (E : Mbedtls) (csr : List UInt8) (ws : List Work) : Prop where
  steps : ∀ c ∈ signSteps E csr, .returned c 0 ∈ ws
  settings : ∀ s, .set s ∈ ws
  certificate : ∃ size, .returned (.x509writeCrtPem size) 0 ∈ ws
  chain : ∃ size ret, .returned (.snprintf size) ret ∈ ws
  clean : ∀ w ∈ ws, ¬ Fails w

/-- The certificate of the issuer and that of its authority, a line between them. -/
def chain (E : Mbedtls) : List UInt8 := E.midCrt ++ [0x0A] ++ E.caCrt

/-- Success means that all steps succeeded and both outputs are written, a short buffer that only
an output was too small, whose size is then reported, and every context is freed once. -/
structure SignsExactly (E : Mbedtls) (params : TeeParams) (out : SignOutcome) : Prop where
  success : out.res = teeSuccess →
    AllSucceeded E (contents (params 0).memref) (works out.log) ∧
    slice (out.params 1).memref.buffer 0 (E.pem.length + 1) = E.pem ++ [0] ∧
    slice (out.params 2).memref.buffer 0 ((chain E).length + 1) = chain E ++ [0]
  failed : (∃ w ∈ works out.log, Fails w) → out.res ≠ teeSuccess
  short : out.res = teeErrorShortBuffer ↔
    AllSucceeded E (contents (params 0).memref) (works out.log) ∧
    ((params 1).memref.size.toNat ≤ E.pem.length ∨ (params 2).memref.size.toNat ≤ (chain E).length)
  certificateSize : out.res = teeErrorShortBuffer →
    (params 1).memref.size.toNat ≤ E.pem.length →
    (out.params 1).memref.size.toNat = E.pem.length + 1
  chainSize : out.res = teeErrorShortBuffer →
    (params 2).memref.size.toNat ≤ (chain E).length →
    (out.params 2).memref.size.toNat = (chain E).length + 1
  freed : FreedOnce out.log

def CopyParsed (E : Mbedtls) (file : List UInt8) (parse : List UInt8 → Call) (log : List Work) :
    Prop :=
  E.grants log (file.length + 1) = true ∧
    E.ret (log ++ [.allocated (file.length + 1) true]) (parse (file ++ [0])) = 0

def copyLog (file : List UInt8) (parse : List UInt8 → Call) : List Work :=
  [.allocated (file.length + 1) true, .returned (parse (file ++ [0])) 0, .released]

def IssuerParsed (E : Mbedtls) : Prop :=
  CopyParsed E E.midCrt (.x509CrtParse .issuerCrt) [] ∧
    CopyParsed E E.midKey .pkParseKey (copyLog E.midCrt (.x509CrtParse .issuerCrt))

variable {E : Mbedtls} {params : TeeParams} {file : List UInt8} {parse : List UInt8 → Call}
  {log : List Work}

theorem teeMalloc_bind {ρ α : Type} (size : ℕ) (f : Bool → Fallible Work ρ α) (log : List Work) :
    (teeMalloc E size >>= f) log =
      f (E.grants log size) (log ++ [.allocated size (E.grants log size)]) := bind_ok rfl

theorem parseCopy_parsed (h : CopyParsed E file parse log) :
    parseCopy E file parse log = (.ok teeSuccess, log ++ copyLog file parse) := by
  unfold parseCopy
  rw [teeMalloc_bind, h.1, if_neg (by decide), call_bind, h.2]
  change (Except.ok teeSuccess, log ++ [_] ++ [_] ++ [_]) = _
  simp [copyLog]

theorem parseCopy_failed (hparse : ∀ v, Fails (.returned (parse (file ++ [0])) v) ↔ v ≠ 0)
    (h : ¬ CopyParsed E file parse log) :
    ∃ res new, parseCopy E file parse log = (.ok res, log ++ new) ∧ res ≠ teeSuccess ∧
      ∃ w ∈ new, Fails w := by
  unfold parseCopy
  rw [teeMalloc_bind]
  cases hg : E.grants log (file.length + 1) with
  | false =>
    refine ⟨teeErrorOutOfMemory, [.allocated (file.length + 1) false], rfl, by decide, ?_⟩
    exact ⟨_, List.mem_cons_self, rfl⟩
  | true =>
    rw [if_neg (by decide), call_bind]
    have hret : E.ret (log ++ [.allocated (file.length + 1) true]) (parse (file ++ [0])) ≠ 0 :=
      fun hret => h ⟨hg, hret⟩
    generalize E.ret (log ++ [.allocated (file.length + 1) true]) (parse (file ++ [0])) = v
      at hret ⊢
    refine ⟨teeErrorBadFormat, [.allocated (file.length + 1) true,
      .returned (parse (file ++ [0])) v, .released], ?_, badFormat_ne,
      .returned (parse (file ++ [0])) v, by simp, (hparse v).mpr hret⟩
    rw [if_pos hret]
    change (Except.ok teeErrorBadFormat, log ++ [_] ++ [_] ++ [_]) = _
    simp

/-- A result that is neither success nor a short buffer, after a failure. -/
def Failed (res : TeeResult) (ws : List Work) : Prop :=
  res ≠ teeSuccess ∧ res ≠ teeErrorShortBuffer ∧ ∃ w ∈ ws, Fails w

def Stopped (out : TeeResult × TeeParams) (ws : List Work) : Prop := Failed out.1 ws

theorem Failed.after {res : TeeResult} {ws : List Work} (h : Failed res ws)
    (before : List Work) : Failed res (before ++ ws) := by
  obtain ⟨hres, hshort, w, hw, hfails⟩ := h
  exact ⟨hres, hshort, w, List.mem_append_right before hw, hfails⟩

theorem stopped_badFormat {ws : List Work} (params : TeeParams) (h : ∃ w ∈ ws, Fails w) :
    Stopped (teeErrorBadFormat, params) ws := by
  have hshort : teeErrorBadFormat ≠ teeErrorShortBuffer := by decide
  exact ⟨badFormat_ne, hshort, h⟩

variable {α β : Type} {Q : α → List Work → Prop}

/-- What a computation appends, then what its continuation appends to that. -/
theorem steps_bind {x : Steps β} {f : β → Steps α} {P : β → List Work → Prop}
    (hx : Appends x P Stopped)
    (hf : ∀ b new, P b new → Appends (f b) (fun a more => Q a (new ++ more)) Stopped) :
    Appends (x >>= f) Q Stopped :=
  appends_bind hx (fun _ _ h => h) fun b new hb =>
    appends_mono (hf b new hb) (fun _ _ h => h) fun _ _ h => Failed.after h new

theorem step_appends {c : Call} (hc : ∀ v, Fails (.returned c v) ↔ v ≠ 0) :
    Appends (step E params c) (fun _ new => new = [.returned c 0]) Stopped := by
  refine appends_call fun v => ?_
  split_ifs with hv
  · exact appends_throw (stopped_badFormat params ⟨_, List.mem_cons_self, (hc v).mpr hv⟩)
  · rw [not_not.mp hv]
    exact appends_pure rfl

theorem step_bind {c : Call} {f : Unit → Steps α} (hc : ∀ v, Fails (.returned c v) ↔ v ≠ 0)
    (hf : Appends (f ()) (fun a more => Q a (.returned c 0 :: more)) Stopped) :
    Appends (step E params c >>= f) Q Stopped := by
  refine steps_bind (step_appends hc) ?_
  rintro ⟨⟩ new rfl
  exact hf

theorem dnGets_bind {dn : Context} {f : List UInt8 → Steps α}
    (hf : ∀ v, 0 ≤ v → Appends (f (E.dn dn))
      (fun a more => Q a (.returned (.x509DnGets dn) v :: more)) Stopped) :
    Appends (dnGets E params dn >>= f) Q Stopped := by
  have hdn : Appends (dnGets E params dn) (fun name new => name = E.dn dn ∧
      ∃ v, 0 ≤ v ∧ new = [.returned (.x509DnGets dn) v]) Stopped := by
    refine appends_call fun v => ?_
    split_ifs with hv
    · exact appends_throw (stopped_badFormat params ⟨_, List.mem_cons_self, hv⟩)
    · exact appends_pure ⟨rfl, v, not_lt.mp hv, rfl⟩
  refine steps_bind hdn ?_
  rintro name new ⟨rfl, v, hv, rfl⟩
  exact hf v hv

theorem note_bind {w : Work} {f : Unit → Steps α}
    (hf : Appends (f ()) (fun a more => Q a (w :: more)) Stopped) :
    Appends (note w >>= f) Q Stopped :=
  appends_perform fun _ => appends_mono hf (fun _ _ h => h) fun _ _ h => Failed.after h [w]

structure FieldsSet (E : Mbedtls) (csr : List UInt8) (ws : List Work) : Prop where
  steps : ∀ c ∈ (signSteps E csr).drop 2, .returned c 0 ∈ ws
  settings : ∀ s, .set s ∈ ws
  clean : ∀ w ∈ ws, ¬ Fails w

theorem setFields_appends (E : Mbedtls) (params : TeeParams) :
    Appends (setFields E params) (fun _ new => FieldsSet E (contents (params 0).memref) new)
      Stopped := by
  unfold setFields
  refine step_bind (fun _ => Iff.rfl) (step_bind (fun _ => Iff.rfl) (dnGets_bind fun v hv => ?_))
  refine step_bind (fun _ => Iff.rfl) (dnGets_bind fun w hw => step_bind (fun _ => Iff.rfl) ?_)
  refine note_bind (note_bind (note_bind (step_bind (fun _ => Iff.rfl) ?_)))
  refine step_bind (fun _ => Iff.rfl) (step_bind (fun _ => Iff.rfl) ?_)
  refine step_bind (fun _ => Iff.rfl) (appends_mono (step_appends fun _ => Iff.rfl) ?_
    fun _ _ h => h)
  rintro ⟨⟩ new rfl
  constructor
  · simp [signSteps]
  · rintro ⟨⟩ <;> simp
  · simp [Fails, hv, hw]

theorem cString_terminated {s : List UInt8} (h : 0 ∉ s) : cString (s ++ [0]) = s := by
  unfold cString
  rw [List.takeWhile_append_of_pos]
  · simp
  · intro b hb
    have hne : b ≠ 0 := fun heq => h (heq ▸ hb)
    simpa using hne

structure Written (ws : List Work) : Prop where
  certificate : ∃ size, .returned (.x509writeCrtPem size) 0 ∈ ws
  clean : ∀ w ∈ ws, ¬ Fails w

/-- Neither a certificate that is written nor one that finds too little room is a failure. -/
theorem attempt_clean {bl : ℕ} {ret : ℤ} (h : ret = 0 ∨ ret = errBase64BufferTooSmall) :
    ∀ w ∈ [Work.allocated bl true, .returned (.x509writeCrtPem bl) ret, .released], ¬ Fails w := by
  simpa [Fails] using h.resolve_left

theorem Written.after {ws before : List Work} (hb : ∀ w ∈ before, ¬ Fails w) (h : Written ws) :
    Written (before ++ ws) := by
  obtain ⟨⟨size, hsize⟩, hclean⟩ := h
  refine ⟨⟨size, List.mem_append_right before hsize⟩, fun w hw => ?_⟩
  rcases List.mem_append.mp hw with hw | hw
  · exact hb w hw
  · exact hclean w hw

/-- The loop ends, as the heap does not have room for every size it tries. Before that it finds out
the size of the certificate, or fails. -/
theorem findSize_appends (bl : ℕ) (hbl : 0 < bl) (log : List Work) :
    ∃ res n new, findSize E bl hbl log = (.ok (res, n), log ++ new) ∧
      (res = teeErrorShortBuffer ∧ n = some (E.pem.length + 1) ∧ E.pem.length < taDataSize ∧
        Written new ∨ Failed res new) := by
  induction bl, hbl, log using findSize.induct E with
  | case1 bl hbl log hgrant ret hret =>
    have hfits := E.pem_fits _ bl hret
    have hle := E.grants_le log bl hgrant
    rw [findSize, dif_pos hgrant]
    dsimp only
    rw [if_pos hret, cString_terminated E.pem_text]
    refine ⟨_, _, _, rfl, Or.inl ⟨rfl, rfl, by omega, ⟨bl, ?_⟩, attempt_clean (Or.inl hret)⟩⟩
    have hmem : Work.returned (.x509writeCrtPem bl) ret = .returned (.x509writeCrtPem bl) 0 := by
      rw [hret]
    exact List.mem_cons_of_mem _ (hmem ▸ List.mem_cons_self)
  | case2 bl hbl log hgrant ret hret hother =>
    rw [findSize, dif_pos hgrant]
    dsimp only
    rw [if_neg hret, if_pos hother]
    exact ⟨_, _, _, rfl, Or.inr ⟨by decide, by decide, .returned (.x509writeCrtPem bl) ret,
      by simp [ret], hret, hother⟩⟩
  | case3 bl hbl log hgrant ret log' hret hsmall ih =>
    obtain ⟨res, n, new, hrun, hnew⟩ := ih
    rw [findSize, dif_pos hgrant]
    dsimp only
    rw [if_neg hret, if_neg hsmall]
    refine ⟨res, n, _, hrun.trans (by rw [List.append_assoc]), ?_⟩
    rcases hnew with ⟨hres, hn, hlt, hwritten⟩ | hfailed
    · exact Or.inl ⟨hres, hn, hlt, .after (attempt_clean (Or.inr (not_not.mp hsmall))) hwritten⟩
    · exact Or.inr (hfailed.after _)
  | case4 bl hbl log hgrant =>
    rw [findSize, dif_neg hgrant]
    exact ⟨_, _, _, rfl, Or.inr ⟨by decide, by decide, _, List.mem_cons_self, rfl⟩⟩

/-- How `write_cert` ends when nothing fails: the certificate fits and is in the buffer, or it does
not, and its size is reported. -/
def CertResult (E : Mbedtls) (memref : TeeMemref) (res : TeeResult) (memref' : TeeMemref) : Prop :=
  (res = teeSuccess ∧ E.pem.length < memref.size.toNat ∧
    slice memref'.buffer 0 (E.pem.length + 1) = E.pem ++ [0]) ∨
  (res = teeErrorShortBuffer ∧ memref.size.toNat ≤ E.pem.length ∧
    memref'.size.toNat = E.pem.length + 1)

theorem toNat_reported {n : ℕ} (h : n < taDataSize) : (UInt32.ofNat (n + 1)).toNat = n + 1 := by
  unfold taDataSize at h
  exact UInt32.toNat_ofNat_of_lt' (by simp only [UInt32.size]; omega)

theorem slice_terminated (m : Memory UInt8) (text : List UInt8) :
    slice (copyIn m 0 (text ++ [0])) 0 (text.length + 1) = text ++ [0] := by
  have hlen : text.length + 1 = (text ++ [0]).length := by simp
  rw [hlen, slice_copyIn]

theorem writeCert_appends (E : Mbedtls) (memref : TeeMemref) :
    Appends (writeCert E memref)
      (fun out new => CertResult E memref out.1 out.2 ∧ Written new ∨ Failed out.1 new)
      Stopped := by
  intro log
  unfold writeCert
  rw [call_bind]
  have hfits := E.pem_fits log memref.size.toNat
  have hsmall := E.pem_small log memref.size.toNat
  generalize E.ret log (.x509writeCrtPem memref.size.toNat) = ret at hfits hsmall ⊢
  by_cases hret : ret = 0
  · rw [if_pos hret]
    refine ⟨[.returned (.x509writeCrtPem memref.size.toNat) ret],
      Or.inl ⟨_, rfl, Or.inl ⟨?_, ?_⟩⟩⟩
    · exact Or.inl ⟨rfl, hfits hret, slice_terminated _ _⟩
    · exact ⟨⟨memref.size.toNat, by simp [hret]⟩, by simp [Fails, hret]⟩
  rw [if_neg hret]
  by_cases hother : ret = errBase64BufferTooSmall
  · rw [if_neg (not_not.mpr hother)]
    obtain ⟨res, n, new, hrun, hnew⟩ := findSize_appends 1024 (by decide)
      (log ++ [.returned (.x509writeCrtPem memref.size.toNat) ret])
    rw [bind_ok hrun]
    refine ⟨.returned (.x509writeCrtPem memref.size.toNat) ret :: new, Or.inl
      ⟨(res, { memref with size := (n.map UInt32.ofNat).getD memref.size }), ?_, ?_⟩⟩
    · rw [List.append_assoc]
      rfl
    · rcases hnew with ⟨hres, hn, hlt, hwritten⟩ | hfailed
      · have hattempt : ∀ w ∈ [Work.returned (.x509writeCrtPem memref.size.toNat) ret],
            ¬ Fails w := by simp [Fails, hother]
        refine Or.inl ⟨Or.inr ⟨hres, hsmall hother, ?_⟩, .after hattempt hwritten⟩
        rw [hn]
        exact toNat_reported hlt
      · exact Or.inr (hfailed.after [_])
  · rw [if_pos hother]
    have hfailed : Failed teeErrorGeneric [.returned (.x509writeCrtPem memref.size.toNat) ret] :=
      ⟨by decide, by decide, _, List.mem_cons_self, hret, hother⟩
    exact ⟨[.returned (.x509writeCrtPem memref.size.toNat) ret], Or.inl ⟨_, rfl, Or.inr hfailed⟩⟩

theorem natAbs_toInt_le (n : ℕ) : (toInt n).natAbs ≤ n := by
  by_cases h : n < 2 ^ 31
  · rw [toInt_of_lt h, Int.natAbs_natCast]
  · unfold toInt
    have hle := Int.le_bmod (x := (n : ℤ)) (m := 2 ^ 32) (by decide)
    have hlt := Int.bmod_lt (x := (n : ℤ)) (m := 2 ^ 32) (by decide)
    omega

theorem padded_full {s : List UInt8} {n : ℕ} (h : s.length = n) : padded (toInt n) s = s := by
  have hle := natAbs_toInt_le n
  have hpad : (toInt n).natAbs - s.length = 0 := by omega
  unfold padded
  rw [hpad]
  split_ifs <;> simp

theorem chainText_eq (E : Mbedtls) : chainText E = chain E := by
  unfold chainText chain
  rw [cString_terminated E.midCrt_text, cString_terminated E.caCrt_text, padded_full rfl,
    padded_full rfl]

theorem printed_fits {memref : TeeMemref} {text : List UInt8}
    (h : text.length < memref.size.toNat) :
    slice (printed memref text) 0 (text.length + 1) = text ++ [0] := by
  have hsize : memref.size ≠ 0 := by
    rintro hzero
    rw [hzero] at h
    cases h
  unfold printed
  rw [if_neg hsize, List.take_of_length_le (by omega), slice_terminated]

structure ChainWritten (ws : List Work) : Prop where
  chain : ∃ size ret, .returned (.snprintf size) ret ∈ ws
  clean : ∀ w ∈ ws, ¬ Fails w

/-- A negative return is a failure; any other is the length of the text. -/
theorem snprintfRet_nonneg {size : ℕ} {text : List UInt8}
    (h : ¬ snprintfRet E log size text < 0) :
    text.length < 2 ^ 31 ∧ snprintfRet E log size text = text.length := by
  unfold snprintfRet at h ⊢
  split_ifs at h ⊢ with hneg hlen
  · exact (h hneg).elim
  · exact ⟨hlen, rfl⟩
  · exact (h (by decide)).elim

theorem writeChain_appends (E : Mbedtls) (res : TeeResult) (params : TeeParams) :
    Appends (writeChain E res params)
      (fun out new => ChainWritten new ∧ (chain E).length < 2 ^ 31 ∧
        out = (if (params 2).memref.size.toNat ≤ (chain E).length then teeErrorShortBuffer
          else res, setMemref params 2 ⟨printed (params 2).memref (chain E),
            UInt32.ofNat ((chain E).length + 1)⟩)) Stopped := by
  unfold writeChain
  rw [chainText_eq]
  refine appends_perform fun log => ?_
  by_cases hneg : snprintfRet E log (params 2).memref.size.toNat (chain E) < 0
  · rw [if_pos hneg]
    exact appends_throw (stopped_badFormat params ⟨_, List.mem_cons_self, hneg⟩)
  · obtain ⟨hlen, hret⟩ := snprintfRet_nonneg hneg
    rw [if_neg hneg, hret]
    refine appends_pure ⟨⟨⟨_, _, List.mem_cons_self⟩, ?_⟩, hlen, ?_⟩
    · simp [Fails]
    · simp

structure OutputsResult (E : Mbedtls) (params : TeeParams) (out : TeeResult × TeeParams) :
    Prop where
  ended : out.1 = teeSuccess ∨ out.1 = teeErrorShortBuffer
  short : out.1 = teeErrorShortBuffer ↔ (params 1).memref.size.toNat ≤ E.pem.length ∨
    (params 2).memref.size.toNat ≤ (chain E).length
  written : out.1 = teeSuccess →
    slice (out.2 1).memref.buffer 0 (E.pem.length + 1) = E.pem ++ [0] ∧
    slice (out.2 2).memref.buffer 0 ((chain E).length + 1) = chain E ++ [0]
  certificateSize : (params 1).memref.size.toNat ≤ E.pem.length →
    (out.2 1).memref.size.toNat = E.pem.length + 1
  chainSize : (out.2 2).memref.size.toNat = (chain E).length + 1

theorem success_ne_short : teeSuccess ≠ teeErrorShortBuffer := by decide

theorem outputsResult_of {memref : TeeMemref} {res : TeeResult}
    (hcert : CertResult E (params 1).memref res memref) (hlen : (chain E).length < 2 ^ 31) :
    OutputsResult E params
      (if (params 2).memref.size.toNat ≤ (chain E).length then teeErrorShortBuffer else res,
        setMemref (setMemref params 1 memref) 2 ⟨printed (params 2).memref (chain E),
          UInt32.ofNat ((chain E).length + 1)⟩) := by
  have hmemref₁ : ∀ m, (setMemref (setMemref params 1 memref) 2 m 1).memref = memref :=
    fun _ => rfl
  have hmemref₂ : ∀ m, (setMemref (setMemref params 1 memref) 2 m 2).memref = m := fun _ => rfl
  have hsize : (UInt32.ofNat ((chain E).length + 1)).toNat = (chain E).length + 1 :=
    UInt32.toNat_ofNat_of_lt' (by simp only [UInt32.size]; omega)
  by_cases hchain : (params 2).memref.size.toNat ≤ (chain E).length
  · rw [if_pos hchain]
    refine ⟨Or.inr rfl, iff_of_true rfl (Or.inr hchain), fun h => ?_, fun hcap => ?_, hsize⟩
    · exact (success_ne_short h.symm).elim
    · rw [hmemref₁]
      rcases hcert with ⟨-, hfits, -⟩ | ⟨-, -, hreported⟩
      · omega
      · exact hreported
  · rw [if_neg hchain]
    rcases hcert with ⟨rfl, hfits, hslice⟩ | ⟨rfl, hcap, hreported⟩
    · refine ⟨Or.inl rfl, iff_of_false success_ne_short (by omega), fun _ => ⟨?_, ?_⟩,
        fun hcap => by omega, hsize⟩
      · rw [hmemref₁]
        exact hslice
      · rw [hmemref₂]
        exact printed_fits (not_le.mp hchain)
    · refine ⟨Or.inr rfl, iff_of_true rfl (Or.inl hcap), fun h => ?_, fun _ => ?_, hsize⟩
      · exact (success_ne_short h.symm).elim
      · rw [hmemref₁]
        exact hreported

theorem writeOutputs_appends (E : Mbedtls) (params : TeeParams) :
    Appends (writeOutputs E params)
      (fun out new => (∃ size, .returned (.x509writeCrtPem size) 0 ∈ new) ∧
        (∃ size ret, .returned (.snprintf size) ret ∈ new) ∧ (∀ w ∈ new, ¬ Fails w) ∧
        OutputsResult E params out) Stopped := by
  unfold writeOutputs
  refine appends_bind (writeCert_appends E (params 1).memref) (fun _ _ h => h) ?_
  rintro ⟨res, memref⟩ new hnew
  dsimp only at hnew ⊢
  rcases hnew with ⟨hcert, ⟨size, hsize⟩, hclean⟩ | hfailed
  · have hres : res = teeSuccess ∨ res = teeErrorShortBuffer := by
      rcases hcert with ⟨hres, -⟩ | ⟨hres, -⟩
      · exact Or.inl hres
      · exact Or.inr hres
    rw [if_neg (by tauto)]
    refine appends_mono (writeChain_appends E res _) ?_ fun _ _ h => h.after new
    rintro out more ⟨⟨⟨size₂, ret, hret⟩, hclean₂⟩, hlen, rfl⟩
    refine ⟨⟨size, List.mem_append_left more hsize⟩, ⟨size₂, ret, List.mem_append_right new hret⟩,
      fun w hw => ?_, outputsResult_of hcert hlen⟩
    rcases List.mem_append.mp hw with hw | hw
    · exact hclean w hw
    · exact hclean₂ w hw
  · rw [if_pos ⟨hfailed.1, hfailed.2.1⟩]
    refine appends_throw ?_
    rw [List.append_nil]
    exact hfailed

theorem parseIssuer_ok (params : TeeParams) {parse : Steps TeeResult} {log' : List Work}
    (h : parse log = (.ok teeSuccess, log')) :
    parseIssuer params parse log = (.ok (), log') := by
  unfold parseIssuer
  rw [bind_ok h, if_neg (not_not.mpr rfl)]
  rfl

theorem parseIssuer_stops {parse : Steps TeeResult} {log' : List Work} {res : TeeResult}
    (h : parse log = (.ok res, log')) (hres : res ≠ teeSuccess) :
    parseIssuer params parse log = (.error (teeSuccess, params), log') := by
  unfold parseIssuer
  rw [bind_ok h, if_pos hres]
  rfl

theorem afterIssuer_appends (E : Mbedtls) (params : TeeParams) :
    Appends (setFields E params >>= fun _ => writeOutputs E params)
      (fun out new => FieldsSet E (contents (params 0).memref) new ∧
        (∃ size, .returned (.x509writeCrtPem size) 0 ∈ new) ∧
        (∃ size ret, .returned (.snprintf size) ret ∈ new) ∧ OutputsResult E params out)
      Stopped := by
  refine steps_bind (setFields_appends E params) fun _ new hnew => ?_
  refine appends_mono (writeOutputs_appends E params) ?_ fun _ _ h => h
  rintro out more ⟨⟨size, hsize⟩, ⟨size₂, ret, hret⟩, hclean, hout⟩
  refine ⟨⟨fun c hc => ?_, fun s => ?_, fun w hw => ?_⟩, ⟨size, ?_⟩, ⟨size₂, ret, ?_⟩, hout⟩
  · exact List.mem_append_left more (hnew.steps c hc)
  · exact List.mem_append_left more (hnew.settings s)
  · rcases List.mem_append.mp hw with hw | hw
    · exact hnew.clean w hw
    · exact hclean w hw
  · exact List.mem_append_right new hsize
  · exact List.mem_append_right new hret

theorem copyLog_clean (hparse : ∀ v, Fails (.returned (parse (file ++ [0])) v) ↔ v ≠ 0) :
    ∀ w ∈ copyLog file parse, ¬ Fails w := by
  have hret : ¬ Fails (.returned (parse (file ++ [0])) 0) := fun h => (hparse 0).mp h rfl
  have hmalloc : ¬ Fails (.allocated (file.length + 1) true) := by simp [Fails]
  have hfree : ¬ Fails .released := id
  simp [copyLog, hret, hmalloc, hfree]

/-- When the issuer is parsed, the rest of the command takes all steps or stops at a failure. -/
theorem signCert_parsed (h : IssuerParsed E) (params : TeeParams) :
    ∃ ws, (∃ out, signCert E params [] = (.ok out, ws) ∧
        AllSucceeded E (contents (params 0).memref) ws ∧ OutputsResult E params out) ∨
      ∃ out, signCert E params [] = (.error out, ws) ∧ Stopped out ws := by
  have hcert := parseIssuer_ok params (parseCopy_parsed h.1)
  have hkey := parseIssuer_ok params (parseCopy_parsed h.2)
  have hclean : ∀ w ∈ copyLog E.midCrt (.x509CrtParse .issuerCrt) ++
      copyLog E.midKey .pkParseKey, ¬ Fails w := by
    intro w hw
    rcases List.mem_append.mp hw with hw | hw
    · exact copyLog_clean (fun _ => Iff.rfl) w hw
    · exact copyLog_clean (fun _ => Iff.rfl) w hw
  have hparsed : .returned (.x509CrtParse .issuerCrt (E.midCrt ++ [0])) 0 ∈
      copyLog E.midCrt (.x509CrtParse .issuerCrt) ++ copyLog E.midKey .pkParseKey := by
    simp [copyLog]
  have hparsed' : .returned (.pkParseKey (E.midKey ++ [0])) 0 ∈
      copyLog E.midCrt (.x509CrtParse .issuerCrt) ++ copyLog E.midKey .pkParseKey := by
    simp [copyLog]
  rw [List.nil_append] at hcert
  unfold signCert parseIssuerCert parseIssuerKey
  rw [bind_ok hcert, bind_ok hkey]
  generalize copyLog E.midCrt (.x509CrtParse .issuerCrt) ++ copyLog E.midKey .pkParseKey = pre
    at hclean hparsed hparsed' ⊢
  obtain ⟨new, ⟨out, hrun, hset, ⟨size, hsize⟩, ⟨size₂, ret, hret⟩, hout⟩ | ⟨out, hrun, hstop⟩⟩ :=
    afterIssuer_appends E params pre
  · refine ⟨pre ++ new, Or.inl ⟨out, hrun, ⟨?_, fun s => ?_, ⟨size, ?_⟩, ⟨size₂, ret, ?_⟩, ?_⟩,
      hout⟩⟩
    · intro c hc
      rcases List.mem_cons.mp hc with rfl | hc
      · exact List.mem_append_left new hparsed
      rcases List.mem_cons.mp hc with rfl | hc
      · exact List.mem_append_left new hparsed'
      · exact List.mem_append_right pre (hset.steps c hc)
    · exact List.mem_append_right pre (hset.settings s)
    · exact List.mem_append_right pre hsize
    · exact List.mem_append_right pre hret
    · intro w hw
      rcases List.mem_append.mp hw with hw | hw
      · exact hclean w hw
      · exact hset.clean w hw
  · exact ⟨pre ++ new, Or.inr ⟨out, hrun, hstop.after pre⟩⟩

theorem signCert_unparsed (h : ¬ IssuerParsed E) (params : TeeParams) :
    ∃ ws, signCert E params [] = (.error (teeSuccess, params), ws) ∧ ∃ w ∈ ws, Fails w := by
  unfold signCert parseIssuerCert parseIssuerKey
  by_cases hcert : CopyParsed E E.midCrt (.x509CrtParse .issuerCrt) []
  · have hkey : ¬ CopyParsed E E.midKey .pkParseKey
        (copyLog E.midCrt (.x509CrtParse .issuerCrt)) := fun hkey => h ⟨hcert, hkey⟩
    obtain ⟨res, new, hrun, hres, w, hw, hfails⟩ := parseCopy_failed (fun _ => Iff.rfl) hkey
    rw [bind_ok (parseIssuer_ok params (parseCopy_parsed hcert)), List.nil_append,
      bind_error (parseIssuer_stops hrun hres)]
    exact ⟨_, rfl, w, List.mem_append_right _ hw, hfails⟩
  · obtain ⟨res, new, hrun, hres, hfails⟩ := parseCopy_failed (fun _ => Iff.rfl) hcert
    rw [bind_error (parseIssuer_stops hrun hres)]
    exact ⟨_, rfl, hfails⟩

theorem works_log (cs ds : List Context) (ws : List Work) :
    works (cs.map .initialised ++ ws.map .did ++ ds.map .freed) = ws := by
  simp [works, List.filterMap_append, List.filterMap_map]

theorem not_allSucceeded_of_fails {csr : List UInt8} {ws : List Work}
    (h : ∃ w ∈ ws, Fails w) : ¬ AllSucceeded E csr ws := by
  intro hall
  obtain ⟨w, hw, hfails⟩ := h
  exact hall.clean w hw hfails

/-- The outcome with result and parameters `out`, when the steps left `ws`. -/
def outcomeOf (out : TeeResult × TeeParams) (ws : List Work) : SignOutcome :=
  ⟨out.1, out.2, signContexts.map .initialised ++ ws.map .did ++ signContexts.map .freed⟩

theorem outcomeOf_freed (out : TeeResult × TeeParams) (ws : List Work) :
    FreedOnce (outcomeOf out ws).log :=
  freedOnce_of_teardown signContexts (by decide) (fun _ hc => hc) ws

theorem signsExactly_done {out : TeeResult × TeeParams} {ws : List Work}
    (hall : AllSucceeded E (contents (params 0).memref) ws) (hout : OutputsResult E params out) :
    SignsExactly E params (outcomeOf out ws) := by
  have hworks : works (outcomeOf out ws).log = ws := works_log _ _ ws
  constructor
  · intro hres
    rw [hworks]
    exact ⟨hall, hout.written hres⟩
  · rw [hworks]
    exact fun hfails => (not_allSucceeded_of_fails hfails hall).elim
  · rw [hworks]
    exact hout.short.trans (and_iff_right hall).symm
  · exact fun _ hcap => hout.certificateSize hcap
  · exact fun _ _ => hout.chainSize
  · exact outcomeOf_freed out ws

theorem signsExactly_stopped {out : TeeResult × TeeParams} {ws : List Work}
    (h : Stopped out ws) : SignsExactly E params (outcomeOf out ws) := by
  have hworks : works (outcomeOf out ws).log = ws := works_log _ _ ws
  obtain ⟨hres, hshort, hfails⟩ := h
  constructor
  · exact fun hsuccess => (hres hsuccess).elim
  · exact fun _ => hres
  · rw [hworks]
    exact iff_of_false hshort fun hall => not_allSucceeded_of_fails hfails hall.1
  · exact fun h => (hshort h).elim
  · exact fun h => (hshort h).elim
  · exact outcomeOf_freed out ws

theorem signsExactly_rejected (E : Mbedtls) (params : TeeParams) :
    SignsExactly E params ⟨teeErrorBadParameters, params, []⟩ := by
  have hres : teeErrorBadParameters ≠ teeSuccess := by decide
  have hshort : teeErrorBadParameters ≠ teeErrorShortBuffer := by decide
  constructor
  · exact fun h => (hres h).elim
  · exact fun _ => hres
  · exact iff_of_false hshort fun hall => List.not_mem_nil (hall.1.settings .mdAlg)
  · exact fun h => (hshort h).elim
  · exact fun h => (hshort h).elim
  · exact fun c hc => (List.not_mem_nil hc).elim

theorem sign_cert_exact_iff (E : Mbedtls) (paramTypes : UInt32) (params : TeeParams) :
    SignsExactly E params (taEntryMbedtlsSignCert E params paramTypes) ↔
      paramTypes ≠ signTypes ∨ IssuerParsed E := by
  unfold taEntryMbedtlsSignCert
  by_cases htypes : paramTypes = signTypes
  · rw [if_neg (not_not.mpr htypes)]
    by_cases hissuer : IssuerParsed E
    · refine iff_of_true ?_ (Or.inr hissuer)
      obtain ⟨ws, ⟨out, hrun, hall, hout⟩ | ⟨out, hrun, hstop⟩⟩ := signCert_parsed hissuer params
      · rw [hrun]
        exact signsExactly_done hall hout
      · rw [hrun]
        exact signsExactly_stopped hstop
    · refine iff_of_false (fun hexact => ?_) (by simp [htypes, hissuer])
      obtain ⟨ws, hrun, hfails⟩ := signCert_unparsed hissuer params
      rw [hrun] at hexact
      refine hexact.failed ?_ rfl
      change ∃ w ∈ works (outcomeOf (teeSuccess, params) ws).log, Fails w
      rwa [outcomeOf, works_log]
  · rw [if_pos htypes]
    exact iff_of_true (signsExactly_rejected E params) (Or.inl htypes)

/-- A library that does what it is asked for, with a certificate of three bytes. -/
def signing : Mbedtls where
  ret _ c := match c with
    | .x509writeCrtPem size => if 3 < size then 0 else errBase64BufferTooSmall
    | _ => 0
  grants _ size := size ≤ taDataSize
  dn _ := [0x43, 0x4E]
  pem := [0x2D, 0x2D, 0x2D]
  midCrt := [0x6D]
  midKey := [0x6B]
  caCrt := [0x63]
  pem_fits _ size h := by
    dsimp only at h
    split_ifs at h with hlt
    · exact hlt
    · cases h
  pem_small _ size h := by
    dsimp only at h
    split_ifs at h with hlt
    · cases h
    · exact Nat.not_lt.mp hlt
  grants_le _ _ h := of_decide_eq_true h
  pem_text := by decide
  midCrt_text := by decide
  caCrt_text := by decide

def signRequest : TeeParams :=
  ![⟨⟨0, 0⟩, ⟨fun _ => 1, 2⟩⟩, ⟨⟨0, 0⟩, ⟨fun _ => 0, 16⟩⟩, ⟨⟨0, 0⟩, ⟨fun _ => 0, 16⟩⟩,
    ⟨⟨0, 0⟩, ⟨fun _ => 0, 0⟩⟩]

theorem signing_signs :
    SignsExactly signing signRequest (taEntryMbedtlsSignCert signing signRequest signTypes) ∧
      (taEntryMbedtlsSignCert signing signRequest signTypes).res = teeSuccess :=
  ⟨(sign_cert_exact_iff signing signTypes signRequest).mpr (.inr ⟨⟨rfl, rfl⟩, rfl, rfl⟩),
    by decide +kernel⟩

/-- No memory for a copy of the issuer's certificate: nothing is signed, and the result is
`TEE_SUCCESS`. -/
theorem not_exact_no_memory :
    ¬ SignsExactly failing emptyParams
      (taEntryMbedtlsSignCert failing emptyParams signTypes) := by
  intro hexact
  refine hexact.failed ⟨.allocated 1 false, ?_, rfl⟩ ?_
  · decide
  · decide

end CertSigning
