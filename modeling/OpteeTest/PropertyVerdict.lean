import OpteeTest.OsTestProperties

/-! # What the property test accepts

Over any service that answers as documented, the test succeeds exactly when every set has
properties, their names and values have the sizes that it asks for, and each property of the table
is there once and of its type. -/
namespace PropertyVerdict

open ByteMemory TeeApi DecidedRun OsTestProperties

structure Property where
  name : List UInt8
  value : List UInt8
  binary : List UInt8
  hasType : PType → Bool
  name_text : 0 ∉ name
  value_text : 0 ∉ value
  name_lt : name.length + 1 < 2 ^ 32
  value_lt : value.length + 1 < 2 ^ 32
  binary_lt : binary.length < 2 ^ 32

abbrev Sets := PropSet → List Property

structure Outputs (r : PropReply) (len : UInt32) (bytes : List UInt8) : Prop where
  size : r.len = UInt32.ofNat bytes.length
  fits : bytes.length ≤ len.toNat → r.res = teeSuccess ∧ r.data = bytes
  short : len.toNat < bytes.length → r.res = teeErrorShortBuffer

abbrev Cursor := PropSet × ℕ

def current (props : Sets) (c : Cursor) : Option Property := (props c.1)[c.2]?

def typeOf : PropCall → Option PType
  | .asBool => some .bool
  | .asU32 => some .int
  | .asUuid => some .uuid
  | .asIdentity => some .identity
  | _ => none

def Reads : PropCall → Prop
  | .name _ | .asString _ _ | .asBool | .asU32 | .asUuid | .asIdentity | .asBinaryBlock _ => True
  | .allocate | .free | .start _ | .next => False

variable {σ : Type}

structure Serves (api : PropApi σ) (props : Sets) (view : σ → Cursor) : Prop where
  start : ∀ set s, view (api (.start set) s).2 = (set, 0)
  next : ∀ s, view (api .next s).2 = ((view s).1, (view s).2 + 1) ∧
    (api .next s).1.res = if (view s).2 + 1 < (props (view s).1).length then teeSuccess
      else teeErrorItemNotFound
  reads : ∀ c s, Reads c → view (api c s).2 = view s
  unnamed : ∀ s len, current props (view s) = none → (api (.name len) s).1.res ≠ teeSuccess
  name : ∀ s len p, current props (view s) = some p →
    Outputs (api (.name len) s).1 len (p.name ++ [0])
  value : ∀ s len p, current props (view s) = some p →
    Outputs (api (.asString .enumerator len) s).1 len (p.value ++ [0])
  named : ∀ s len set p, p ∈ props set →
    Outputs (api (.asString (.named set p.name) len) s).1 len (p.value ++ [0])
  typed : ∀ c t s p, typeOf c = some t → current props (view s) = some p →
    ((api c s).1.res = teeSuccess ↔ p.hasType t = true)
  binary : ∀ s len p, current props (view s) = some p →
    if p.hasType .binaryBlock = true then Outputs (api (.asBinaryBlock len) s).1 len p.binary
    else (api (.asBinaryBlock len) s).1.res ≠ teeSuccess

structure Sized (p : Property) : Prop where
  name : 2 ≤ p.name.length ∧ p.name.length < 256
  value : 1 ≤ p.value.length ∧ p.value.length < 256
  hello : p.name = ascii "myprop.hello" → p.value.length = helloProperty.length

def Has (p : Property) : PType → Prop
  | .string => True
  | .binaryBlock => p.hasType .binaryBlock = true ∧ p.binary.length ≤ 80 ∧
    (p.name = ascii "myprop.binaryblock" → p.binary = binaryValue)
  | .bool => p.hasType .bool = true
  | .int => p.hasType .int = true
  | .uuid => p.hasType .uuid = true
  | .identity => p.hasType .identity = true

def allProperties (props : Sets) : List Property :=
  props .currentTa ++ (props .currentClient ++ props .teeImplementation)

structure Passes (props : Sets) : Prop where
  shown : ∀ set, props set ≠ []
  sized : ∀ p ∈ allProperties props, Sized p
  once : ∀ a ∈ pAttrs, ((allProperties props).map Property.name).count a.str = 1
  typed : ∀ a ∈ pAttrs, ∀ p ∈ allProperties props, p.name = a.str → Has p a.type

variable {api : PropApi σ} {props : Sets} {view : σ → Cursor} {c : Cursor} {p : Property}
variable {call : PropCall} {len : UInt32} {bytes : List UInt8}

abbrev IsError (res : TeeResult) : Prop := res ≠ teeSuccess

theorem generic_error : IsError teeErrorGeneric := by
  decide

theorem notFound_error : IsError teeErrorItemNotFound := by
  decide

theorem checkReturnedProp_success {r e : TeeResult} {m n : UInt32} :
    checkReturnedProp r e m n = teeSuccess ↔ r = e ∧ m = n := by
  unfold checkReturnedProp
  split_ifs with hres hlen
  · exact ⟨fun h => absurd h generic_error, fun h => absurd h.1 hres⟩
  · exact ⟨fun h => absurd h generic_error, fun h => absurd h.2 hlen⟩
  · exact ⟨fun _ => ⟨not_not.mp hres, not_not.mp hlen⟩, fun _ => rfl⟩

theorem decides_checked {r : PropReply} {e : TeeResult} {n : UInt32} :
    Decides view IsError (checked r e n) c (r.res = e ∧ r.len = n) () c :=
  decides_iff checkReturnedProp_success (decides_require id)

theorem short_iff {r : PropReply} (h : Outputs r len bytes) :
    r.res = teeErrorShortBuffer ∧ r.len = UInt32.ofNat bytes.length ↔
      len.toNat < bytes.length := by
  constructor
  · rintro ⟨hres, -⟩
    by_contra hlt
    rw [(h.fits (Nat.not_lt.mp hlt)).1] at hres
    exact absurd hres (by decide)
  · intro hlt
    exact ⟨h.short hlt, h.size⟩

theorem fits_iff {r : PropReply} (h : Outputs r len bytes) :
    r.res = teeSuccess ↔ bytes.length ≤ len.toNat := by
  constructor
  · intro hres
    by_contra hlt
    rw [h.short (Nat.not_le.mp hlt)] at hres
    exact absurd hres (by decide)
  · exact fun hle => (h.fits hle).1

theorem decides_probe_short
    (h : ∀ s, view s = c → view (api call s).2 = c ∧ Outputs (api call s).1 len bytes) :
    Decides view IsError (probe api call teeErrorShortBuffer (UInt32.ofNat bytes.length)) c
      (len.toNat < bytes.length) () c :=
  decides_act (fun r => Outputs r len bytes) h fun _ hr =>
    decides_iff (short_iff hr) decides_checked

theorem decides_probe_fits
    (h : ∀ s, view s = c → view (api call s).2 = c ∧ Outputs (api call s).1 len bytes) :
    Decides view IsError (probe api call teeSuccess (UInt32.ofNat bytes.length)) c
      (bytes.length ≤ len.toNat) () c := by
  refine decides_act (fun r => Outputs r len bytes) h fun r hr => decides_iff ?_ decides_checked
  rw [fits_iff hr]
  exact and_iff_left hr.size

theorem cText_filled {r : PropReply} {t : List UInt8} (hdata : r.data = t ++ [0])
    (htext : 0 ∉ t) (hlen : t.length < 256) : cText (filled r) = t := by
  have hsplit : 256 = (t ++ [0]).length + (255 - t.length) := by
    rw [List.length_append, List.length_singleton]
    omega
  have hbytes : slice (filled r) 0 256 =
      t ++ ([0] ++ slice (filled r) (0 + (t ++ [0]).length) (255 - t.length)) := by
    rw [hsplit, slice_eq_append, filled, hdata, slice_copyIn, List.append_assoc]
  rw [cText, hbytes]
  exact takeWhile_text htext _

theorem cText_outputs {r : PropReply} {t : List UInt8} (h : Outputs r 256 (t ++ [0]))
    (htext : 0 ∉ t) (hlen : t.length < 256) : r.res = teeSuccess ∧ cText (filled r) = t := by
  have hle : (t ++ [0]).length ≤ (256 : UInt32).toNat := by
    rw [List.length_append, List.length_singleton]
    exact hlen
  obtain ⟨hres, hdata⟩ := h.fits hle
  exact ⟨hres, cText_filled hdata htext hlen⟩

theorem long_refused {r : PropReply} {t : List UInt8} (h : Outputs r 256 (t ++ [0]))
    (hlen : ¬ t.length < 256) : r.res ≠ teeSuccess := by
  rw [h.short]
  · decide
  · rw [List.length_append, List.length_singleton]
    exact Nat.lt_succ_of_le (Nat.not_lt.mp hlen)

theorem toNat_size {t : List UInt8} (h : t.length + 1 < 2 ^ 32) :
    (UInt32.ofNat (t ++ [0]).length).toNat = t.length + 1 := by
  rw [List.length_append, List.length_singleton, UInt32.toNat_ofNat_of_lt' h]

theorem toNat_less {t : List UInt8} (h : t.length + 1 < 2 ^ 32) :
    (UInt32.ofNat (t ++ [0]).length - 1).toNat = t.length := by
  have hone : (1 : UInt32) ≤ UInt32.ofNat (t ++ [0]).length := by
    rw [UInt32.le_iff_toNat_le, toNat_size h]
    exact Nat.le_add_left 1 _
  rw [UInt32.toNat_sub_of_le _ _ hone, toNat_size h]
  rfl

theorem serves_reads (h : Serves api props view) {K : PropReply → Prop} (call : PropCall)
    (hcall : Reads call) (c : Cursor) (hk : ∀ s, view s = c → K (api call s).1) (s : σ)
    (hs : view s = c) :
    view (api call s).2 = c ∧ K (api call s).1 :=
  ⟨(h.reads call s hcall).trans hs, hk s hs⟩

theorem name_outputs (h : Serves api props view) (hp : current props c = some p) (len : UInt32) :
    ∀ s, view s = c →
      view (api (.name len) s).2 = c ∧ Outputs (api (.name len) s).1 len (p.name ++ [0]) :=
  serves_reads (K := fun r => Outputs r len (p.name ++ [0])) h _ (by trivial) c fun s hs =>
    h.name s len p (hs ▸ hp)

theorem readName_decides (h : Serves api props view) (hp : current props c = some p) :
    Decides view IsError (readName api) c (2 ≤ p.name.length ∧ p.name.length < 256) p.name c := by
  refine decides_act (fun r => Outputs r 256 (p.name ++ [0])) (name_outputs h hp 256)
    fun r hr => ?_
  by_cases hfit : p.name.length < 256
  · obtain ⟨hres, htext⟩ := cText_outputs hr p.name_text hfit
    have hsize : (UInt32.ofNat (p.name ++ [0]).length).toNat = p.name.length + 1 :=
      toNat_size p.name_lt
    have hless := toNat_less p.name_lt
    rw [hres, htext, hr.size]
    refine decides_iff ?_ (decides_bind (decides_require id) fun _ =>
      decides_bind (decides_require fun _ => generic_error) fun _ =>
      decides_bind (decides_probe_short (name_outputs h hp 2)) fun _ =>
      decides_bind (decides_probe_short (name_outputs h hp _)) fun _ =>
      decides_bind (decides_probe_fits (name_outputs h hp _)) fun _ => decides_pure _)
    rw [hsize, hless, List.length_append, List.length_singleton]
    have htwo : (2 : UInt32).toNat = 2 := rfl
    rw [htwo]
    constructor
    · rintro ⟨-, -, hmin, -⟩
      omega
    · intro hmin
      refine ⟨rfl, rfl, ?_, ?_, ?_, trivial⟩ <;> omega
  · exact decides_stop (decides_require id) (long_refused hr hfit) fun hn => hfit hn.2

theorem value_outputs (h : Serves api props view) (hp : current props c = some p) (len : UInt32) :
    ∀ s, view s = c → view (api (.asString .enumerator len) s).2 = c ∧
      Outputs (api (.asString .enumerator len) s).1 len (p.value ++ [0]) :=
  serves_reads (K := fun r => Outputs r len (p.value ++ [0])) h _ (by trivial) c fun s hs =>
    h.value s len p (hs ▸ hp)

theorem named_outputs (h : Serves api props view) (hp : current props c = some p) (len : UInt32) :
    ∀ s, view s = c → view (api (.asString (.named c.1 p.name) len) s).2 = c ∧
      Outputs (api (.asString (.named c.1 p.name) len) s).1 len (p.value ++ [0]) :=
  serves_reads (K := fun r => Outputs r len (p.value ++ [0])) h _ (by trivial) c fun s _ =>
    h.named s len c.1 p (List.mem_of_getElem? hp)

theorem readValue_decides (h : Serves api props view) (hp : current props c = some p) :
    Decides view IsError (readValue api c.1 p.name) c
      ((1 ≤ p.value.length ∧ p.value.length < 256) ∧
        (p.name = ascii "myprop.hello" → p.value.length = helloProperty.length)) () c := by
  refine decides_act (fun r => Outputs r 256 (p.value ++ [0])) (value_outputs h hp 256)
    fun r hr => ?_
  by_cases hfit : p.value.length < 256
  · obtain ⟨hres, htext⟩ := cText_outputs hr p.value_text hfit
    have hsize : (UInt32.ofNat (p.value ++ [0]).length).toNat = p.value.length + 1 :=
      toNat_size p.value_lt
    have hless := toNat_less p.value_lt
    have hlength : p.value.length + 1 = (p.value ++ [0]).length := by
      rw [List.length_append, List.length_singleton]
    dsimp only
    rw [htext, hlength, hr.size]
    refine decides_iff (and_iff_right ⟨hres, hr.size⟩) (decides_bind decides_checked fun _ => ?_)
    refine decides_act (fun r => Outputs r 256 (p.value ++ [0])) (named_outputs h hp 256)
      fun r2 hr2 => ?_
    obtain ⟨hres2, htext2⟩ := cText_outputs hr2 p.value_text hfit
    rw [htext2, hlength]
    refine decides_iff ?_ (decides_bind decides_checked fun _ =>
      decides_bind (decides_require fun _ => generic_error) fun _ =>
      decides_bind (decides_probe_short (named_outputs h hp 1)) fun _ =>
      decides_bind (decides_probe_short (named_outputs h hp _)) fun _ =>
      decides_bind (decides_probe_fits (named_outputs h hp _)) fun _ =>
      decides_require fun _ => generic_error)
    have hone : (1 : UInt32).toNat = 1 := rfl
    rw [hone, hsize, hless, hr2.size, ← hlength]
    constructor
    · rintro ⟨-, -, hmin, -, -, hhello⟩
      refine ⟨by omega, fun hname => ?_⟩
      by_contra hlen
      exact hhello ⟨hname, by omega⟩
    · rintro ⟨hmin, hhello⟩
      refine ⟨⟨hres2, rfl⟩, rfl, by omega, by omega, by omega, ?_⟩
      rintro ⟨hname, hlen⟩
      exact hlen (by rw [hhello hname, Nat.add_comm])
  · refine decides_stop decides_checked (fun hres => long_refused hr hfit hres.1)
      fun hn => hfit hn.1.2

theorem asType_decides (h : Serves api props view) (hp : current props c = some p) {t : PType}
    (ht : typeOf call = some t) :
    Decides view IsError (asType api call) c (p.hasType t = true) () c := by
  have hreads : Reads call := by
    cases call <;> trivial
  refine decides_act (fun r => r.res = teeSuccess ↔ p.hasType t = true) ?_ fun r hr =>
    decides_iff hr (decides_require id)
  exact serves_reads (K := fun r => r.res = teeSuccess ↔ p.hasType t = true) h call hreads c
    fun s hs => h.typed call t s p ht (hs ▸ hp)

theorem slice_filled {r : PropReply} {n : ℕ} (hn : r.data.length = n) :
    slice (filled r) 0 n = r.data := by
  rw [← hn]
  exact slice_copyIn _ 0 r.data

theorem binary_decides (h : Serves api props view) (hp : current props c = some p) :
    Decides view IsError (retrieve api p.name .binaryBlock) c (Has p .binaryBlock) () c := by
  have hknown := serves_reads (K := fun r => if p.hasType .binaryBlock = true then
      Outputs r 80 p.binary else r.res ≠ teeSuccess) h (.asBinaryBlock 80) (by trivial) c
    fun s hs => h.binary s 80 p (hs ▸ hp)
  refine decides_act (fun r => if p.hasType .binaryBlock = true then Outputs r 80 p.binary
    else r.res ≠ teeSuccess) hknown fun r hr => ?_
  by_cases htype : p.hasType .binaryBlock = true
  · rw [if_pos htype] at hr
    refine decides_iff ?_ (decides_bind (decides_require id) fun _ =>
      decides_require fun _ => generic_error)
    have heighty : (80 : UInt32).toNat = 80 := rfl
    have hlen : r.len.toNat = p.binary.length := by
      rw [hr.size, UInt32.toNat_ofNat_of_lt' p.binary_lt]
    have hblock (hfit : p.binary.length ≤ 80) : slice (filled r) 0 p.binary.length = p.binary := by
      obtain ⟨-, hdata⟩ := hr.fits (heighty ▸ hfit)
      rw [slice_filled (by rw [hdata]), hdata]
    rw [fits_iff hr, heighty, hlen]
    constructor
    · rintro ⟨hfit, hvalue⟩
      refine ⟨htype, hfit, fun hname => ?_⟩
      by_contra hne
      rw [hblock hfit] at hvalue
      exact hvalue ⟨hname, Or.inr fun heq => hne heq.symm⟩
    · rintro ⟨-, hfit, hvalue⟩
      refine ⟨hfit, ?_⟩
      rw [hblock hfit]
      rintro ⟨hname, hne | hne⟩
      · exact hne (congrArg List.length (hvalue hname))
      · exact hne (hvalue hname).symm
  · rw [if_neg htype] at hr
    exact decides_stop (decides_require id) hr fun hhas => htype hhas.1

theorem retrieve_decides (h : Serves api props view) (hp : current props c = some p) (t : PType) :
    Decides view IsError (retrieve api p.name t) c (Has p t) () c := by
  cases t with
  | bool => exact asType_decides h hp rfl
  | int => exact asType_decides h hp rfl
  | uuid => exact asType_decides h hp rfl
  | identity => exact asType_decides h hp rfl
  | string => exact decides_pure ()
  | binaryBlock => exact binary_decides h hp

def mark (p : Property) (a : PAttr) : PAttr :=
  if a.str = p.name then { a with retrieved := true } else a

/-- The property is neither a second one of its entry nor of another type. -/
def Suits (p : Property) (a : PAttr) : Prop := a.str = p.name → a.retrieved = false ∧ Has p a.type

theorem markEntry_decides (h : Serves api props view) (hp : current props c = some p) (a : PAttr) :
    Decides view IsError (markEntry api p.name a) c (Suits p a) (mark p a) c := by
  unfold markEntry mark
  by_cases hname : a.str = p.name
  · rw [if_neg (not_not.mpr hname.symm), if_pos hname]
    refine decides_iff ?_ (decides_bind (decides_require fun _ => generic_error) fun _ =>
      decides_bind (retrieve_decides h hp a.type) fun _ => decides_pure _)
    rw [Suits, and_true]
    exact ⟨fun hboth _ => hboth, fun hboth => hboth hname⟩
  · rw [if_pos fun heq => hname heq.symm, if_neg hname]
    exact decides_iff (iff_of_true trivial fun heq => absurd heq hname) (decides_pure a)

theorem markRetrieved_decides (h : Serves api props view) (hp : current props c = some p)
    (attrs : List PAttr) : Decides view IsError (markRetrieved api p.name attrs) c
      (∀ a ∈ attrs, Suits p a) (attrs.map (mark p)) c := by
  induction attrs with
  | nil => exact decides_iff (iff_of_true trivial (by simp)) (decides_pure _)
  | cons a rest ih =>
    refine decides_iff ?_ (decides_bind (markEntry_decides h hp a) fun _ =>
      decides_bind ih fun _ => decides_pure _)
    rw [and_true, List.forall_mem_cons]

/-- The properties are of the sizes that are asked for, and each suits the table that those
before it leave. -/
def Accepts : List Property → List PAttr → Prop
  | [], _ => True
  | p :: ps, attrs => Sized p ∧ (∀ a ∈ attrs, Suits p a) ∧ Accepts ps (attrs.map (mark p))

def markAll (ps : List Property) (attrs : List PAttr) : List PAttr :=
  ps.foldl (fun attrs p => attrs.map (mark p)) attrs

theorem accepts_iff {p : Property} {ps : List Property} {attrs : List PAttr} :
    Accepts (p :: ps) attrs ↔ (2 ≤ p.name.length ∧ p.name.length < 256) ∧
      ((1 ≤ p.value.length ∧ p.value.length < 256) ∧
        (p.name = ascii "myprop.hello" → p.value.length = helloProperty.length)) ∧
      (∀ a ∈ attrs, Suits p a) ∧ Accepts ps (attrs.map (mark p)) := by
  constructor
  · rintro ⟨hsized, hsuits, hrest⟩
    exact ⟨hsized.name, ⟨hsized.value, hsized.hello⟩, hsuits, hrest⟩
  · rintro ⟨hname, ⟨hvalue, hhello⟩, hsuits, hrest⟩
    exact ⟨⟨hname, hvalue, hhello⟩, hsuits, hrest⟩

theorem round_decides (h : Serves api props view) {set : PropSet} {ps : List Property}
    {p : Property} {i fuel : ℕ} (hp : current props (set, i) = some p) {attrs out : List PAttr}
    (hrest : ∀ r : PropReply, r.res = (if i + 1 < (props set).length then teeSuccess
        else teeErrorItemNotFound) →
      Decides view IsError (if r.res = teeSuccess then printLoop api set fuel (attrs.map (mark p))
        else if r.res = teeErrorItemNotFound then pure (attrs.map (mark p)) else throw r.res)
        (set, i + 1) (Accepts ps (attrs.map (mark p))) out (set, (props set).length)) :
    Decides view IsError (printLoop api set (fuel + 1) attrs) (set, i) (Accepts (p :: ps) attrs)
      out (set, (props set).length) := by
  have hnext (s : σ) (hs : view s = (set, i)) : view (api .next s).2 = (set, i + 1) ∧
      (api .next s).1.res = if i + 1 < (props set).length then teeSuccess
        else teeErrorItemNotFound := by
    have hstep := h.next s
    rwa [hs] at hstep
  have hname := readName_decides h hp
  have hvalue := readValue_decides h hp
  have hmark := markRetrieved_decides h hp attrs
  rw [printLoop]
  refine decides_iff accepts_iff.symm ?_
  refine decides_bind hname fun _ => decides_bind hvalue fun _ => decides_bind hmark fun _ => ?_
  exact decides_act (fun r => r.res = if i + 1 < (props set).length then teeSuccess
    else teeErrorItemNotFound) hnext hrest

theorem drop_cons {ps qs : List Property} {i : ℕ} (h : qs.drop i = p :: ps) :
    qs[i]? = some p ∧ qs.length = i + ps.length + 1 ∧ qs.drop (i + 1) = ps := by
  have hlen := congrArg List.length h
  rw [List.length_drop, List.length_cons] at hlen
  refine ⟨?_, by omega, ?_⟩
  · have hhead := congrArg (fun l => l[0]?) h
    simpa using hhead
  · have htail := congrArg List.tail h
    rwa [List.tail_drop] at htail

theorem printLoop_decides (h : Serves api props view) {set : PropSet} {ps : List Property}
    {p : Property} {i fuel : ℕ} (hps : (props set).drop i = p :: ps) (hfuel : ps.length < fuel)
    (attrs : List PAttr) : Decides view IsError (printLoop api set fuel attrs) (set, i)
      (Accepts (p :: ps) attrs) (markAll (p :: ps) attrs) (set, (props set).length) := by
  induction ps generalizing i fuel attrs p with
  | nil =>
    obtain ⟨fuel, rfl⟩ := Nat.exists_eq_succ_of_ne_zero (Nat.ne_zero_of_lt hfuel)
    obtain ⟨hp, hlen, -⟩ := drop_cons hps
    refine round_decides h hp fun r hr => ?_
    rw [if_neg (by rw [hlen, List.length_nil]; omega)] at hr
    have hlast : i + 1 = (props set).length := hlen.symm
    rw [hr, if_neg (by decide), if_pos rfl, ← hlast]
    exact decides_pure _
  | cons q ps ih =>
    obtain ⟨fuel, rfl⟩ := Nat.exists_eq_succ_of_ne_zero (Nat.ne_zero_of_lt hfuel)
    obtain ⟨hp, hlen, hrest⟩ := drop_cons hps
    refine round_decides h hp fun r hr => ?_
    rw [if_pos (by rw [hlen, List.length_cons]; omega)] at hr
    rw [hr, if_pos rfl]
    exact ih hrest (Nat.lt_of_succ_lt_succ hfuel) _

theorem printLoop_empty (h : Serves api props view) {set : PropSet} {fuel : ℕ}
    (hempty : props set = []) (hfuel : 0 < fuel) (attrs : List PAttr) {out : List PAttr} :
    Decides view IsError (printLoop api set fuel attrs) (set, 0) False out c := by
  obtain ⟨fuel, rfl⟩ := Nat.exists_eq_succ_of_ne_zero (Nat.ne_zero_of_lt hfuel)
  have hnone : current props (set, 0) = none := by
    rw [current, hempty]
    rfl
  have hknown := serves_reads (K := fun r => r.res ≠ teeSuccess) h (.name 256) (by trivial)
    (set, 0) fun s hs => h.unnamed s 256 (hs ▸ hnone)
  have hname : Decides view IsError (readName api) (set, 0) False [] (set, 0) :=
    decides_act (fun r => r.res ≠ teeSuccess) hknown fun r hr =>
      decides_stop (decides_require id) hr id
  rw [printLoop]
  exact decides_stop hname id id

theorem printProperties_decides (h : Serves api props view) {set : PropSet} {fuel : ℕ}
    (hfuel : (props set).length < fuel) (attrs : List PAttr) (c : Cursor) :
    Decides view IsError (printProperties api set fuel attrs) c
      (props set ≠ [] ∧ Accepts (props set) attrs) (markAll (props set) attrs)
      (set, (props set).length) := by
  refine decides_act (fun _ => True) (fun s _ => ⟨h.start set s, trivial⟩) fun _ _ => ?_
  cases hps : props set with
  | nil =>
    rw [hps] at hfuel
    exact decides_iff (iff_of_false id fun hn => hn.1 rfl) (printLoop_empty h hps hfuel attrs)
  | cons p ps =>
    rw [hps] at hfuel
    have hloop := printLoop_decides h (i := 0) hps (Nat.lt_of_succ_lt hfuel) attrs
    rw [hps] at hloop
    exact decides_iff (iff_of_eq (by simp)) hloop

structure Once (ps : List Property) (a : PAttr) : Prop where
  count : (ps.map Property.name).count a.str + (if a.retrieved = true then 1 else 0) ≤ 1
  typed : ∀ p ∈ ps, p.name = a.str → Has p a.type

theorem mark_other {a : PAttr} (hne : a.str ≠ p.name) : mark p a = a := if_neg hne

theorem mark_self {a : PAttr} (heq : a.str = p.name) :
    mark p a = { a with retrieved := true } := if_pos heq

theorem once_cons {ps : List Property} {a : PAttr} :
    Once (p :: ps) a ↔ Suits p a ∧ Once ps (mark p a) := by
  by_cases hname : a.str = p.name
  · rw [mark_self hname]
    constructor
    · rintro ⟨hcount, htyped⟩
      rw [List.map_cons, hname, List.count_cons_self] at hcount
      have hnot : ¬ a.retrieved = true := by
        intro hr
        rw [if_pos hr] at hcount
        omega
      refine ⟨fun _ => ⟨Bool.eq_false_of_not_eq_true hnot, htyped p List.mem_cons_self hname.symm⟩,
        ?_, fun q hq => htyped q (List.mem_cons_of_mem p hq)⟩
      rw [if_neg hnot] at hcount
      dsimp only
      rw [hname, if_pos rfl]
      omega
    · rintro ⟨hsuits, hcount, htyped⟩
      obtain ⟨hnot, hhas⟩ := hsuits hname
      dsimp only at hcount htyped
      rw [if_pos rfl] at hcount
      refine ⟨?_, ?_⟩
      · rw [List.map_cons, ← hname, List.count_cons_self, hnot, if_neg Bool.false_ne_true]
        omega
      · intro q hq hqname
        rcases List.mem_cons.mp hq with rfl | hq
        · exact hhas
        · exact htyped q hq hqname
  · have hne : p.name ≠ a.str := fun heq => hname heq.symm
    rw [mark_other hname]
    constructor
    · rintro ⟨hcount, htyped⟩
      rw [List.map_cons, List.count_cons_of_ne hne] at hcount
      exact ⟨fun heq => absurd heq hname, hcount,
        fun q hq => htyped q (List.mem_cons_of_mem p hq)⟩
    · rintro ⟨-, hcount, htyped⟩
      refine ⟨?_, ?_⟩
      · rwa [List.map_cons, List.count_cons_of_ne hne]
      · intro q hq hqname
        rcases List.mem_cons.mp hq with rfl | hq
        · exact absurd hqname hne
        · exact htyped q hq hqname

theorem once_nil (a : PAttr) : Once [] a := by
  refine ⟨?_, fun p hp => absurd hp List.not_mem_nil⟩
  rw [List.map_nil, List.count_nil]
  split <;> omega

theorem accepts_once (ps : List Property) (attrs : List PAttr) :
    Accepts ps attrs ↔ (∀ p ∈ ps, Sized p) ∧ ∀ a ∈ attrs, Once ps a := by
  induction ps generalizing attrs with
  | nil => exact iff_of_true trivial ⟨fun p hp => absurd hp List.not_mem_nil, fun a _ => once_nil a⟩
  | cons p ps ih =>
    rw [Accepts, ih, List.forall_mem_cons, List.forall_mem_map]
    simp only [once_cons]
    constructor
    · rintro ⟨hp, hsuits, hps, honce⟩
      exact ⟨⟨hp, hps⟩, fun a ha => ⟨hsuits a ha, honce a ha⟩⟩
    · rintro ⟨⟨hp, hps⟩, hall⟩
      exact ⟨hp, fun a ha => (hall a ha).1, hps, fun a ha => (hall a ha).2⟩

theorem markAll_cons (p : Property) (ps : List Property) (attrs : List PAttr) :
    markAll (p :: ps) attrs = markAll ps (attrs.map (mark p)) := rfl

theorem accepts_append (ps qs : List Property) (attrs : List PAttr) :
    Accepts (ps ++ qs) attrs ↔ Accepts ps attrs ∧ Accepts qs (markAll ps attrs) := by
  induction ps generalizing attrs with
  | nil => exact iff_of_eq (true_and _).symm
  | cons p ps ih =>
    rw [List.cons_append, Accepts, Accepts, ih, markAll_cons]
    simp only [and_assoc]

theorem markAll_append (ps qs : List Property) (attrs : List PAttr) :
    markAll (ps ++ qs) attrs = markAll qs (markAll ps attrs) := List.foldl_append

theorem markAll_retrieved (ps : List Property) (attrs : List PAttr) :
    (∀ a ∈ markAll ps attrs, a.retrieved = true) ↔
      ∀ a ∈ attrs, a.retrieved = true ∨ a.str ∈ ps.map Property.name := by
  induction ps generalizing attrs with
  | nil => simp [markAll]
  | cons p ps ih =>
    rw [markAll_cons, ih, List.forall_mem_map]
    refine forall₂_congr fun a _ => ?_
    by_cases hname : a.str = p.name
    · rw [mark_self hname, List.map_cons, ← hname]
      exact iff_of_true (Or.inl rfl) (Or.inr List.mem_cons_self)
    · rw [mark_other hname, List.map_cons, List.mem_cons, or_iff_right hname]

theorem passes_iff {props : Sets} : Passes props ↔ (∀ set, props set ≠ []) ∧
    Accepts (allProperties props) pAttrs ∧
      ∀ a ∈ markAll (allProperties props) pAttrs, a.retrieved = true := by
  have hfresh : ∀ a ∈ pAttrs, a.retrieved = false := by decide
  rw [accepts_once, markAll_retrieved]
  constructor
  · rintro ⟨hshown, hsized, honce, htyped⟩
    refine ⟨hshown, ⟨hsized, fun a ha => ⟨?_, htyped a ha⟩⟩, fun a ha => Or.inr ?_⟩
    · rw [honce a ha, hfresh a ha]
      decide
    · rw [← List.count_pos_iff, honce a ha]
      exact Nat.one_pos
  · rintro ⟨hshown, ⟨hsized, honce⟩, hall⟩
    refine ⟨hshown, hsized, fun a ha => ?_, fun a ha => (honce a ha).typed⟩
    have hmem := (hall a ha).resolve_left (by rw [hfresh a ha]; decide)
    have hpos := List.count_pos_iff.mpr hmem
    have hcount := (honce a ha).count
    omega

theorem testSets_decides (h : Serves api props view) {fuel : ℕ}
    (hfuel : ∀ set, (props set).length < fuel) (c : Cursor) :
    Decides view IsError (testSets api fuel) c (Passes props) ()
      (.teeImplementation, (props .teeImplementation).length) := by
  refine decides_iff ?_ (decides_bind (printProperties_decides h (hfuel _) _ _) fun _ =>
    decides_bind (printProperties_decides h (hfuel _) _ _) fun _ =>
    decides_bind (printProperties_decides h (hfuel _) _ _) fun _ =>
    decides_require fun _ => generic_error)
  rw [passes_iff, allProperties, accepts_append, accepts_append, markAll_append, markAll_append]
  constructor
  · rintro ⟨⟨hta, hta'⟩, ⟨hclient, hclient'⟩, ⟨htee, htee'⟩, hall⟩
    refine ⟨fun set => ?_, ⟨hta', hclient', htee'⟩, hall⟩
    cases set with
    | currentTa => exact hta
    | currentClient => exact hclient
    | teeImplementation => exact htee
  · rintro ⟨hshown, ⟨hta, hclient, htee⟩, hall⟩
    exact ⟨⟨hshown _, hta⟩, ⟨hshown _, hclient⟩, ⟨hshown _, htee⟩, hall⟩

/-- The test ends, and its verdict is exact. -/
theorem properties_verdict (h : Serves api props view) (fuel : ℕ)
    (hfuel : ∀ set, (props set).length < fuel) (s : σ) :
    ∃ res s', testProperties api fuel s = some (res, s') ∧
      (res = teeSuccess ↔ (api .allocate s).1.res = teeSuccess ∧ Passes props) := by
  by_cases halloc : (api .allocate s).1.res = teeSuccess
  · obtain ⟨out, s', hrun, hout⟩ := testSets_decides h hfuel _ (api .allocate s).2 rfl
    have htest : testProperties api fuel s = some (match out with
        | .ok () => teeSuccess
        | .error res => res, (api .free s').2) := by
      simp only [testProperties, bind, StateT.bind, Option.bind_some, halloc, ne_eq, not_true,
        if_false, ExceptT.run, hrun]
      cases out <;> rfl
    refine ⟨_, _, htest, ?_⟩
    rcases hout with ⟨hpasses, rfl, -⟩ | ⟨hfails, e, rfl, he⟩
    · exact iff_of_true rfl ⟨halloc, hpasses⟩
    · exact iff_of_false he fun hboth => hfails hboth.2
  · refine ⟨teeErrorGeneric, (api .allocate s).2, ?_,
      iff_of_false generic_error fun hboth => halloc hboth.1⟩
    simp only [testProperties, bind, StateT.bind, Option.bind_some, ne_eq, halloc,
      not_false_eq_true, if_true]
    rfl

def sampleValue (name : List UInt8) : List UInt8 :=
  if name = ascii "myprop.hello" then helloProperty else ascii "1"

theorem names_good : (pAttrs.map PAttr.str).Nodup ∧
    ∀ a ∈ pAttrs, 0 ∉ a.str ∧ 2 ≤ a.str.length ∧ a.str.length < 256 := by
  decide +kernel

theorem sampleValue_clean (name : List UInt8) : 0 ∉ sampleValue name ∧
    1 ≤ (sampleValue name).length ∧ (sampleValue name).length < 256 := by
  unfold sampleValue
  split <;> decide +kernel

def sampleProperty (a : { a // a ∈ pAttrs }) : Property where
  name := a.val.str
  value := sampleValue a.val.str
  binary := binaryValue
  hasType := fun _ => true
  name_text := (names_good.2 a.val a.property).1
  value_text := (sampleValue_clean a.val.str).1
  name_lt := by
    have := (names_good.2 a.val a.property).2.2
    omega
  value_lt := by
    have := (sampleValue_clean a.val.str).2.2
    omega
  binary_lt := by decide

def sampleSets : Sets
  | .currentTa => (pAttrs.attach.take 8).map sampleProperty
  | .currentClient => ((pAttrs.attach.drop 8).take 1).map sampleProperty
  | .teeImplementation => ((pAttrs.attach.drop 8).drop 1).map sampleProperty

def put (len : UInt32) (bytes : List UInt8) : PropReply :=
  if bytes.length ≤ len.toNat then ⟨teeSuccess, bytes, UInt32.ofNat bytes.length⟩
  else ⟨teeErrorShortBuffer, [], UInt32.ofNat bytes.length⟩

theorem outputs_put (len : UInt32) (bytes : List UInt8) : Outputs (put len bytes) len bytes := by
  unfold put
  split
  · next hle => exact ⟨rfl, fun _ => ⟨rfl, rfl⟩, fun hlt => absurd hle (Nat.not_le.mpr hlt)⟩
  · next hlt => exact ⟨rfl, fun hle => absurd hle hlt, fun _ => rfl⟩

def sampleApi : PropApi Cursor := fun call c => match call with
  | .start set => (⟨teeSuccess, [], 0⟩, (set, 0))
  | .next => (⟨if c.2 + 1 < (sampleSets c.1).length then teeSuccess else teeErrorItemNotFound,
      [], 0⟩, (c.1, c.2 + 1))
  | .name len => ((current sampleSets c).elim ⟨teeErrorItemNotFound, [], 0⟩
      fun p => put len (p.name ++ [0]), c)
  | .asString .enumerator len => ((current sampleSets c).elim ⟨teeErrorItemNotFound, [], 0⟩
      fun p => put len (p.value ++ [0]), c)
  | .asString (.named _ name) len => (put len (sampleValue name ++ [0]), c)
  | .asBinaryBlock len => (put len binaryValue, c)
  | .allocate | .free | .asBool | .asU32 | .asUuid | .asIdentity => (⟨teeSuccess, [], 0⟩, c)

theorem mem_sampleSets {set : PropSet} (hp : p ∈ sampleSets set) : ∃ a, sampleProperty a = p := by
  cases set <;> exact (List.mem_map.mp hp).imp fun _ ha => ha.2

theorem sample_serves : Serves sampleApi sampleSets id where
  start := fun _ _ => rfl
  next := fun _ => ⟨rfl, rfl⟩
  reads := by
    intro call c hcall
    cases call with
    | asString source len => cases source <;> rfl
    | _ => first | rfl | cases hcall
  unnamed := by
    intro c len hnone
    change ((current sampleSets c).elim _ _ : PropReply).res ≠ teeSuccess
    rw [show current sampleSets c = none from hnone]
    exact notFound_error
  name := by
    intro c len p hp
    change Outputs ((current sampleSets c).elim _ _) len _
    rw [show current sampleSets c = some p from hp]
    exact outputs_put len _
  value := by
    intro c len p hp
    change Outputs ((current sampleSets c).elim _ _) len _
    rw [show current sampleSets c = some p from hp]
    exact outputs_put len _
  named := by
    intro c len set p hp
    obtain ⟨a, rfl⟩ := mem_sampleSets hp
    exact outputs_put len _
  typed := by
    intro call t c p ht hp
    obtain ⟨a, rfl⟩ := mem_sampleSets (List.mem_of_getElem? hp)
    cases call <;> first | exact iff_of_true rfl rfl | cases ht
  binary := by
    intro c len p hp
    obtain ⟨a, rfl⟩ := mem_sampleSets (List.mem_of_getElem? hp)
    exact outputs_put len _

theorem sample_all : allProperties sampleSets = pAttrs.attach.map sampleProperty := by
  rw [allProperties, sampleSets, sampleSets, sampleSets, ← List.map_append, ← List.map_append,
    List.take_append_drop, List.take_append_drop]

theorem sample_passes : Passes sampleSets where
  shown := by
    intro set
    cases set <;> exact List.cons_ne_nil _ _
  sized := by
    intro p hp
    rw [sample_all] at hp
    obtain ⟨a, -, rfl⟩ := List.mem_map.mp hp
    refine ⟨(names_good.2 a.val a.property).2, (sampleValue_clean a.val.str).2, fun hname => ?_⟩
    exact congrArg List.length (if_pos hname)
  once := by
    intro a ha
    have hnames : (allProperties sampleSets).map Property.name = pAttrs.map PAttr.str := by
      rw [sample_all, List.map_map]
      exact List.attach_map_val (f := PAttr.str)
    rw [hnames]
    rw [names_good.1.count, if_pos (List.mem_map_of_mem ha)]
  typed := by
    intro a _ p hp _
    rw [sample_all] at hp
    obtain ⟨b, -, rfl⟩ := List.mem_map.mp hp
    have hfit : binaryValue.length ≤ 80 := by decide
    cases a.type <;> first | trivial | exact ⟨rfl, hfit, fun _ => rfl⟩

theorem sample_verdict :
    ∃ s', testProperties sampleApi 30 (.currentTa, 0) = some (teeSuccess, s') := by
  have hfuel : ∀ set, (sampleSets set).length < 30 := by
    intro set
    cases set <;> decide +kernel
  obtain ⟨res, s', hrun, hiff⟩ := properties_verdict sample_serves 30 hfuel (.currentTa, 0)
  rw [hiff.mpr ⟨rfl, sample_passes⟩] at hrun
  exact ⟨s', hrun⟩

end PropertyVerdict
