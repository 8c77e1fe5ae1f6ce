import OpteeTest.AttrPackLayout
import OpteeTest.AttrUnpackContract
import Mathlib.Data.List.Forall2

/-! # Unpacking undoes packing

The bytes of the packer, seen by the TA at any 4-aligned address, decode to the packed
attributes. The invariant of the fill pass ties a table row to its payload. -/
namespace AttrRoundTrip

open ByteMemory TeeApi AttrWireFormat AttrPack AttrPackLayout AttrUnpack AttrUnpackContract

def fieldA (c : ℕ) (t : TeeAttribute) : UInt32 :=
  if isValueId t.attributeID then t.content.valueA
  else if t.content.refBuffer = 0 then 0 else UInt32.ofNat c

def fieldB (t : TeeAttribute) : UInt32 :=
  if isValueId t.attributeID then t.content.valueB else t.content.refLength

structure RowHolds (hostMem m : Memory UInt8) (n c : ℕ) (t : TeeAttribute) : Prop where
  id : load32 m (rowOffset n) = t.attributeID
  a : load32 m (rowOffset n + 4) = fieldA c t
  b : load32 m (rowOffset n + 8) = fieldB t
  payload : t.HasPayload → slice m c t.content.refLength.toNat =
    slice hostMem t.content.refBuffer t.content.refLength.toNat

def Packed (hostMem m : Memory UInt8) : List TeeAttribute → ℕ → ℕ → Prop
  | [], _, _ => True
  | t :: ts, n, c => RowHolds hostMem m n c t ∧ Packed hostMem m ts (n + 1) (c + advance t)

def payloadLength (t : TeeAttribute) : ℕ :=
  if t.HasPayload then t.content.refLength.toNat else 0

theorem fillRow_frame (hostMem : Memory UInt8) (s : FillState) (n : ℕ) (t : TeeAttribute) {i : ℕ}
    (hrow : i < rowOffset n ∨ rowOffset (n + 1) ≤ i)
    (hpay : i < s.b ∨ s.b + payloadLength t ≤ i) : (fillRow hostMem s n t).mem i = s.mem i := by
  have hs := rowOffset_succ n
  rcases t.trichotomy with h | ⟨h, h0⟩ | h
  · simp only [fillRow, FillState.store, h, if_true]
    rw [store32_frame _ _ (by omega), store32_frame _ _ (by omega), store32_frame _ _ (by omega)]
  · simp only [fillRow, FillState.store, h, h0, if_true, Bool.false_eq_true, if_false]
    rw [store32_frame _ _ (by omega), store32_frame _ _ (by omega), store32_frame _ _ (by omega)]
  · simp only [fillRow, FillState.store, h.1, h.2, Bool.false_eq_true, if_false]
    simp only [payloadLength, h, if_true] at hpay
    rw [store32_frame _ _ (by omega), copyIn_frame _ (by simpa using hpay),
      store32_frame _ _ (by omega), store32_frame _ _ (by omega)]

theorem fillRow_holds (hostMem : Memory UInt8) (s : FillState) (n : ℕ) (t : TeeAttribute)
    (hb : rowOffset (n + 1) ≤ s.b) :
    RowHolds hostMem (fillRow hostMem s n t).mem n s.b t := by
  rw [rowOffset_succ] at hb
  rcases t.trichotomy with h | ⟨h, h0⟩ | h
  · simp only [fillRow, FillState.store, h, if_true]
    constructor
    · rw [load32_store32_apart _ _ (by omega), load32_store32_apart _ _ (by omega), load32_store32]
    · rw [load32_store32_apart _ _ (by omega), load32_store32]
      simp [fieldA, h]
    · rw [load32_store32]
      simp [fieldB, h]
    · exact fun hp => (t.not_hasPayload_of_value h hp).elim
  · simp only [fillRow, FillState.store, h, h0, if_true, Bool.false_eq_true, if_false]
    constructor
    · rw [load32_store32_apart _ _ (by omega), load32_store32_apart _ _ (by omega), load32_store32]
    · rw [load32_store32]
      simp [fieldA, h, h0]
    · rw [load32_store32_apart _ _ (by omega), load32_store32]
      simp [fieldB, h]
    · exact fun hp => (t.not_hasPayload_of_null h0 hp).elim
  · simp only [fillRow, FillState.store, h.1, h.2, Bool.false_eq_true, if_false]
    constructor
    · rw [load32_store32_apart _ _ (by omega), load32_copyIn_apart _ (by omega),
        load32_store32_apart _ _ (by omega), load32_store32]
    · rw [load32_store32]
      simp [fieldA, h.1, h.2]
    · rw [load32_store32_apart _ _ (by omega), load32_copyIn_apart _ (by omega), load32_store32]
      simp [fieldB, h.1]
    · intro _
      have hcopy := slice_copyIn (store32 (store32 s.mem (rowOffset n) t.attributeID)
        (rowOffset n + 8) t.content.refLength) s.b
        (slice hostMem t.content.refBuffer t.content.refLength.toNat)
      rw [length_slice] at hcopy
      refine (slice_congr fun i _ => ?_).trans hcopy
      exact store32_frame _ _ (by omega)

theorem rowHolds_congr {hostMem m m' : Memory UInt8} {n c : ℕ} {t : TeeAttribute}
    (hrow : ∀ i, rowOffset n ≤ i → i < rowOffset (n + 1) → m' i = m i)
    (hpay : ∀ i, c ≤ i → i < c + payloadLength t → m' i = m i)
    (h : RowHolds hostMem m n c t) : RowHolds hostMem m' n c t := by
  rw [rowOffset_succ] at hrow
  constructor
  · rw [← h.id]
    exact load32_congr fun i hi => hrow _ (by omega) (by omega)
  · rw [← h.a]
    exact load32_congr fun i hi => hrow _ (by omega) (by omega)
  · rw [← h.b]
    exact load32_congr fun i hi => hrow _ (by omega) (by omega)
  · intro hp
    rw [← h.payload hp]
    refine slice_congr fun i hi => hpay _ (by omega) ?_
    simp only [payloadLength, hp, if_true]
    omega

theorem payloadLength_le_advance {t : TeeAttribute}
    (h : t.HasPayload → t.content.refLength.toNat + 3 < 2 ^ 32) : payloadLength t ≤ advance t := by
  by_cases ht : t.HasPayload
  · rw [advance_of_payload ht (h ht)]
    simpa [payloadLength, ht] using length_le_paddedLength _
  · simp [payloadLength, ht]

/-- The fill pass writes every row and every payload, and later rows leave them alone. -/
theorem fillLoop_packed (hostMem : Memory UInt8) {ts : List TeeAttribute} {n : ℕ} {s : FillState}
    (hl : LengthsFit ts) (hb : rowOffset (n + ts.length) ≤ s.b) :
    Packed hostMem (fillLoop hostMem ts n s).mem ts n s.b ∧
    ∀ i, i < rowOffset n ∨ rowOffset (n + ts.length) ≤ i ∧ i < s.b →
      (fillLoop hostMem ts n s).mem i = s.mem i := by
  induction ts generalizing n s with
  | nil => exact ⟨trivial, fun _ _ => rfl⟩
  | cons t ts ih =>
    have hlen : n + (t :: ts).length = n + 1 + ts.length := by
      rw [List.length_cons, Nat.add_right_comm, Nat.add_assoc]
    have hpad := payloadLength_le_advance (hl t List.mem_cons_self)
    rw [hlen] at hb
    have hn : rowOffset (n + 1) ≤ rowOffset (n + 1 + ts.length) := by
      unfold rowOffset
      exact Nat.add_le_add_left (Nat.mul_le_mul_left _ (by omega)) _
    have hs := rowOffset_succ n
    obtain ⟨hpacked, hframe⟩ := ih (n := n + 1) (s := fillRow hostMem s n t) hl.tail
      (by rw [fillRow_b]; omega)
    rw [fillRow_b] at hpacked hframe
    refine ⟨⟨?_, hpacked⟩, ?_⟩
    · refine rowHolds_congr ?_ ?_ (fillRow_holds hostMem s n t (by omega))
      · intro i _ hi
        exact hframe i (Or.inl hi)
      · intro i hi hi'
        exact hframe i (Or.inr ⟨by omega, by omega⟩)
    · intro i hi
      rw [hlen] at hi
      rw [fillLoop, hframe i (by omega), fillRow_frame hostMem s n t (by omega) (by omega)]

variable {T : Arch}

theorem load32_client {B : ClientBuffer T} {blk : Memory UInt8}
    (hbytes : ∀ i < B.blen.toNat, B.mem (B.buf + i) = blk i) (off : ℕ)
    (h : off + 4 ≤ B.blen.toNat) :
    load32 B.mem (B.buf + off) = load32 blk off := by
  apply load32_congr
  intro i hi
  rw [Nat.add_assoc]
  exact hbytes _ (by omega)

/-- One row: what the packer wrote decodes to the attribute it came from. -/
theorem decodeRow_same {hostMem blk : Memory UInt8} {B : ClientBuffer T} {n c : ℕ}
    {t : TeeAttribute} (hbytes : ∀ i < B.blen.toNat, B.mem (B.buf + i) = blk i)
    (hrow : rowOffset (n + 1) ≤ B.blen.toNat) (hc : 0 < c)
    (hpay : t.HasPayload → c + t.content.refLength.toNat ≤ B.blen.toNat)
    (h : RowHolds hostMem blk n c t) :
    InBounds B n ∧ SameAttribute hostMem B.mem t (decodeRow B n) := by
  rw [rowOffset_succ] at hrow
  have hspace := B.in_space
  have hblen := B.blen.toNat_lt
  have hid : B.id n = t.attributeID := by
    rw [← h.id]
    exact load32_client hbytes _ (by omega)
  have ha : B.a n = fieldA c t := by
    rw [← h.a]
    exact load32_client hbytes _ (by omega)
  have hb : B.b n = fieldB t := by
    rw [← h.b]
    exact load32_client hbytes _ (by omega)
  have hdid := decodeRow_id B n
  have hdc := decodeRow_content B n
  rw [hid] at hdid hdc
  rcases t.trichotomy with hv | ⟨hr, h0⟩ | hp
  · obtain ⟨x, y, hxy⟩ := t.isValue_of_id hv
    refine ⟨fun hn => ?_, hdid.symm, ?_⟩
    · rw [hid, hv] at hn
      exact absurd hn (by decide)
    · rw [if_pos hv, ha, hb] at hdc
      simp [hxy, hdc, fieldA, fieldB, hv, Content.valueA, Content.valueB]
  · obtain ⟨p, l, hpl⟩ := t.isRef_of_id hr
    have ha0 : (B.a n).toNat = 0 := by simp [ha, fieldA, hr, h0]
    refine ⟨fun _ hn => (hn ha0).elim, hdid.symm, ?_⟩
    rw [hpl] at h0
    rw [hdc, hpl, hb]
    simp_all [fieldB, Content.refLength, Content.refBuffer]
  · obtain ⟨p, l, hpl⟩ := t.isRef_of_id hp.1
    have hpay := hpay hp
    have hlen : B.b n = l := by simp [hb, fieldB, hp.1, hpl, Content.refLength]
    have ha' : (B.a n).toNat = c := by
      rw [ha, fieldA, hp.1, if_neg (by decide), if_neg hp.2]
      exact UInt32.toNat_ofNat_of_lt' (by simp only [UInt32.size]; omega)
    have hp0 : p ≠ 0 := by simpa [hpl, Content.refBuffer] using hp.2
    have hbytes' := h.payload hp
    rw [hpl] at hpay hbytes'
    simp only [Content.refLength, Content.refBuffer] at hpay hbytes'
    refine ⟨fun _ _ => by rw [ha', hlen]; exact hpay, hdid.symm, ?_⟩
    have hmod : (c + B.buf) % T.word = B.buf + c := by
      rw [Nat.mod_eq_of_lt (by omega), Nat.add_comm]
    rw [hdc, hp.1, if_neg (by decide), ha', hlen, if_pos (by omega), hmod, hpl]
    refine ⟨rfl, by simp [hp0]; omega, fun _ => ?_⟩
    rw [← hbytes']
    refine slice_congr fun i hi => ?_
    rw [Nat.add_assoc]
    exact (hbytes _ (by omega)).symm

theorem decode_packed {hostMem blk : Memory UInt8} {B : ClientBuffer T}
    (hbytes : ∀ i < B.blen.toNat, B.mem (B.buf + i) = blk i) {ts : List TeeAttribute} {n c : ℕ}
    (hl : LengthsFit ts) (hrow : rowOffset (n + ts.length) ≤ B.blen.toNat) (hc : 0 < c)
    (hpay : c + payloadSize ts ≤ B.blen.toNat) (h : Packed hostMem blk ts n c) :
    (∀ i, n ≤ i → i < n + ts.length → InBounds B i) ∧
    List.Forall₂ (SameAttribute hostMem B.mem) ts
      ((List.range' n ts.length).map (decodeRow B)) := by
  induction ts generalizing n c with
  | nil => exact ⟨fun i hi hi' => by simp at hi'; omega, .nil⟩
  | cons t ts ih =>
    have hlen : n + (t :: ts).length = n + 1 + ts.length := by
      rw [List.length_cons, Nat.add_right_comm, Nat.add_assoc]
    rw [hlen] at hrow
    have hn : rowOffset (n + 1) ≤ rowOffset (n + 1 + ts.length) := by
      unfold rowOffset
      exact Nat.add_le_add_left (Nat.mul_le_mul_left _ (by omega)) _
    have hsum : advance t + payloadSize ts = payloadSize (t :: ts) := by
      by_cases ht : t.HasPayload
      · rw [payloadSize_cons_of_payload ht, advance_of_payload ht (hl t List.mem_cons_self ht)]
      · rw [payloadSize_cons_of_not ht, advance_of_not ht, Nat.zero_add]
    have hpad := payloadLength_le_advance (hl t List.mem_cons_self)
    obtain ⟨hin, hsame⟩ := decodeRow_same hbytes (by omega) hc
      (fun ht => by simp only [payloadLength, ht, if_true] at hpad; omega) h.1
    obtain ⟨hrest, hrests⟩ := ih hl.tail hrow (by omega) (by omega) h.2
    refine ⟨fun i hi hi' => ?_, ?_⟩
    · rcases Nat.eq_or_lt_of_le hi with rfl | hlt
      · exact hin
      · exact hrest i hlt (by omega)
    · rw [List.length_cons, List.range'_succ, List.map_cons]
      exact .cons hsame hrests

theorem fits_of_small {H : Arch} {ts : List TeeAttribute} (h : packedSize ts < 2 ^ 32) :
    LengthsFit ts ∧ packedSize ts < H.word := by
  refine ⟨fun t ht hp => ?_, h.trans_le H.word_ge⟩
  obtain ⟨us, vs, rfl⟩ := List.append_of_mem ht
  have hpad := length_le_paddedLength t.content.refLength
  rw [packedSize, payloadSize_append, payloadSize_cons_of_payload hp, rowOffset] at h
  omega

/-- What packing a non-empty array of moderate size leaves in memory. -/
theorem packAttrs_packed (H : Arch) (hostMem : Memory UInt8) {attrs : AttrArray}
    (hne : attrs.attrs ≠ []) (hsize : packedSize attrs.attrs < 2 ^ 32) :
    let r := packAttrs H hostMem attrs true
    r.blen = packedSize attrs.attrs ∧
    load32 r.block 0 = UInt32.ofNat attrs.attrs.length ∧
    Packed hostMem r.block attrs.attrs 0 (rowOffset attrs.attrs.length) := by
  obtain ⟨hl, hw⟩ := fits_of_small (H := H) hsize
  obtain ⟨-, hblen, -⟩ := packAttrs_granted H hostMem attrs hne
  have hlen : attrs.attrs.length ≠ 0 := by simpa using hne
  have hrow : rowOffset attrs.attrs.length ≤ packedSize attrs.attrs := Nat.le_add_right _ _
  have hmod : 4 + sizeofPacked * attrs.attrs.length % H.word = rowOffset attrs.attrs.length := by
    rw [Nat.mod_eq_of_lt, rowOffset]
    unfold rowOffset at hrow
    omega
  refine ⟨?_, ?_⟩
  · rw [hblen, ← rowOffset, Nat.mod_eq_of_lt (a := rowOffset _) (by omega), advanceAll_eq hl]
    exact Nat.mod_eq_of_lt hw
  · simp only [packAttrs, hlen, if_false, if_true, hmod]
    obtain ⟨hpacked, hframe⟩ := fillLoop_packed hostMem (n := 0)
      (s := { FillState.store ⟨fun _ => 0, [], [], 0⟩ 0 (UInt32.ofNat attrs.attrs.length) with
        b := rowOffset attrs.attrs.length }) hl (by simp)
    refine ⟨?_, hpacked⟩
    have hcount := load32_congr fun i hi =>
      hframe (0 + i) (Or.inl (by simp only [rowOffset]; omega))
    rw [hcount]
    simp [FillState.store]

/-- The TA finds the packed attributes in a buffer that holds what was packed. -/
theorem unpack_granted (H T : Arch) (hostMem : Memory UInt8) (attrs : AttrArray)
    (B : ClientBuffer T) (hsize : packedSize attrs.attrs < 2 ^ 32)
    (hcount : 24 * attrs.attrs.length < 2 ^ 32)
    (hblen : B.blen.toNat = (packAttrs H hostMem attrs true).blen) (halign : B.buf % 4 = 0)
    (hbytes : ∀ i < B.blen.toNat,
      B.mem (B.buf + i) = (packAttrs H hostMem attrs true).block i) :
    (unpackAttrs B true).res = teeSuccess ∧
    (unpackAttrs B true).attrCount = attrs.attrs.length ∧
    List.Forall₂ (SameAttribute hostMem B.mem) attrs.attrs (unpackAttrs B true).attrs := by
  by_cases hne : attrs.attrs = []
  · have hblen0 : B.blen.toNat = 0 := by simp [hblen, packAttrs, hne]
    simp [unpackAttrs, hblen0, hne]
  have hlen : attrs.attrs.length ≠ 0 := by simpa using hne
  obtain ⟨hl, -⟩ := fits_of_small (H := H) hsize
  obtain ⟨hpb, hnum, hpacked⟩ := packAttrs_packed H hostMem hne hsize
  rw [hpb] at hblen
  have hrow : rowOffset attrs.attrs.length ≤ B.blen.toNat := by
    rw [hblen]
    exact Nat.le_add_right _ _
  have hn : B.numAttrs = attrs.attrs.length := by
    have hload := load32_client hbytes 0 (by unfold rowOffset at hrow; omega)
    rw [ClientBuffer.numAttrs, ← Nat.add_zero B.buf, hload, hnum]
    exact UInt32.toNat_ofNat_of_lt' attrs.count_lt
  obtain ⟨hin, hsame⟩ := decode_packed hbytes (n := 0) hl (by simpa using hrow)
    (by unfold rowOffset; omega) (by rw [hblen, packedSize]) hpacked
  have h4 : 4 ≤ B.blen.toNat := by unfold rowOffset at hrow; omega
  have hwf : WellFormed B := by
    refine Or.inr ⟨halign, h4, ?_, fun i hi => hin i (Nat.zero_le i) (by omega)⟩
    rw [hn]
    exact hrow
  have hheader := header_of_wellFormed (by omega) hwf
  have hsmall : B.numAttrs * sizeofAttribute T < 2 ^ 32 := by
    rw [hn]
    cases T <;> simp only [sizeofAttribute] <;> omega
  have hwrap : NoHarmfulWrap B := by
    refine noHarmfulWrap_of_small hheader hsmall fun i hi hw => ?_
    exact ((sumWraps_iff B i).mp hw).2 (hin i (Nat.zero_le i) (by omega))
  have hpos : 0 < B.numAttrs := by omega
  have hcontract := contract_of_noHarmfulWrap hheader hpos hwrap
  have hsucc := hcontract.accepts.mpr ⟨hwf, Or.inr (Or.inr rfl)⟩
  obtain ⟨hl1, -, -, -, hattrs, hcnt⟩ := unpackAttrs_granted hheader hpos
  rw [hl1] at hsucc
  have hall := (loop_success_iff B _ _).mp hsucc
  refine ⟨by rw [hl1]; exact hsucc, by rw [hcnt hsucc, hn], ?_⟩
  rw [hattrs hsucc, (loop_success _ fun i _ hi => hall i (by omega)).2, hn]
  simpa using hsame

theorem unpack_pack (H T : Arch) (hostMem : Memory UInt8) (attrs : AttrArray) (calloc : Bool)
    (B : ClientBuffer T) (hsize : packedSize attrs.attrs < 2 ^ 32)
    (hcount : 24 * attrs.attrs.length < 2 ^ 32)
    (hres : (packAttrs H hostMem attrs calloc).res = teeSuccess)
    (hblen : B.blen.toNat = (packAttrs H hostMem attrs calloc).blen) (halign : B.buf % 4 = 0)
    (hbytes : ∀ i < B.blen.toNat,
      B.mem (B.buf + i) = (packAttrs H hostMem attrs calloc).block i) :
    (unpackAttrs B true).res = teeSuccess ∧
    (unpackAttrs B true).attrCount = attrs.attrs.length ∧
    List.Forall₂ (SameAttribute hostMem B.mem) attrs.attrs (unpackAttrs B true).attrs ∧
    (attrs.attrs = [] → B.blen.toNat = 0 ∧ (unpackAttrs B true).attrs = []) := by
  have hempty : attrs.attrs = [] → B.blen.toNat = 0 ∧ (unpackAttrs B true).attrs = [] := by
    intro hnil
    have hblen0 : B.blen.toNat = 0 := by simp [hblen, packAttrs, hnil]
    simp [unpackAttrs, hblen0]
  by_cases hnil : attrs.attrs = []
  · obtain ⟨hblen0, hattrs⟩ := hempty hnil
    refine ⟨?_, ?_, by rw [hnil, hattrs]; exact .nil, hempty⟩
    · simp [unpackAttrs, hblen0]
    · simp [unpackAttrs, hblen0, hnil]
  have hcalloc : calloc = true := by
    have hlen : attrs.attrs.length ≠ 0 := by simpa using hnil
    by_contra hc
    simp [packAttrs, hlen, hc, teeErrorOutOfMemory, teeSuccess] at hres
  subst hcalloc
  obtain ⟨hsuccess, hlength, hsame⟩ :=
    unpack_granted H T hostMem attrs B hsize hcount hblen halign hbytes
  exact ⟨hsuccess, hlength, hsame, hempty⟩

/-- A value, a payload of five bytes and a NULL reference with a length. -/
def mixedAttrs : AttrArray where
  attrs := [⟨0x20000000, .value 7 9, by decide⟩, ⟨0xC0000000, .ref 4096 5, by decide⟩,
    ⟨0xC0000001, .ref 0 7, by decide⟩]
  count_lt := by decide

/-- The packed form of `mixedAttrs`, copied to address 8192 of a 32-bit TA. -/
def mixedBuffer (hostMem : Memory UInt8) : ClientBuffer .arm32 where
  buf := 8192
  blen := 48
  mem := fun i => (packAttrs .arm64 hostMem mixedAttrs true).block (i - 8192)
  in_space := by decide

theorem unpack_pack_mixed :
    (unpackAttrs (mixedBuffer fun _ => 1) true).res = teeSuccess ∧
    (unpackAttrs (mixedBuffer fun _ => 1) true).attrCount = 3 := by
  obtain ⟨hres, hcount, -⟩ := unpack_pack .arm64 .arm32 (fun _ => 1) mixedAttrs true
    (mixedBuffer fun _ => 1) (by decide) (by decide) rfl (by decide +kernel) rfl
    (fun i _ => by simp [mixedBuffer])
  exact ⟨hres, hcount⟩

end AttrRoundTrip
