import OpteeTest.AttrPack
import Mathlib.Data.List.Pairwise

/-! # The layout computed by the two passes of the packer

The passes agree exactly when no 32-bit padded length wraps, the total fits a `size_t`
and every payload starts below 2^32. -/
namespace AttrPackLayout

open ByteMemory TeeApi AttrWireFormat AttrPack

private theorem and_not_three {x : ℕ} (h : x < 2 ^ 32) : x &&& 4294967292 = x / 4 * 4 := by
  apply Nat.eq_of_testBit_eq
  intro i
  rw [show 4294967292 = (2 ^ 30 - 1) * 2 ^ 2 by rfl, Nat.testBit_and, Nat.testBit_mul_two_pow,
    Nat.testBit_two_pow_sub_one, show x / 4 * 4 = x / 2 ^ 2 * 2 ^ 2 by rfl,
    Nat.testBit_mul_two_pow, Nat.testBit_div_two_pow]
  by_cases hi : 2 ≤ i
  · by_cases hi' : i < 32
    · simp [hi, show i - 2 < 30 by omega]
    · have hx : x.testBit i = false :=
        Nat.testBit_lt_two_pow (h.trans_le (Nat.pow_le_pow_right (by decide) (by omega)))
      simp [hi, hx]
  · simp [hi]

theorem roundup4_toNat (v : UInt32) : (roundup4 v).toNat = (v.toNat + 3) % 2 ^ 32 / 4 * 4 := by
  have h : (roundup4 v).toNat = (v.toNat + 3) % 2 ^ 32 &&& 4294967292 := by
    simp [roundup4, UInt32.toNat_and, UInt32.toNat_add]
  rw [h, and_not_three (Nat.mod_lt _ (by decide))]

theorem roundup4_of_lt {v : UInt32} (h : v.toNat + 3 < 2 ^ 32) :
    (roundup4 v).toNat = paddedLength v := by
  rw [roundup4_toNat, Nat.mod_eq_of_lt h, paddedLength]

theorem roundup4_of_ge {v : UInt32} (h : 2 ^ 32 ≤ v.toNat + 3) : (roundup4 v).toNat = 0 := by
  have hv := v.toNat_lt
  rw [roundup4_toNat]
  omega

/-- No payload length wraps when it is padded in 32 bits. -/
def LengthsFit (ts : List TeeAttribute) : Prop :=
  ∀ t ∈ ts, t.HasPayload → t.content.refLength.toNat + 3 < 2 ^ 32

theorem LengthsFit.tail {t : TeeAttribute} {ts : List TeeAttribute} (h : LengthsFit (t :: ts)) :
    LengthsFit ts :=
  fun u hu => h u (List.mem_cons_of_mem _ hu)

theorem advance_of_payload {t : TeeAttribute} (h : t.HasPayload)
    (hl : t.content.refLength.toNat + 3 < 2 ^ 32) :
    advance t = paddedLength t.content.refLength := by
  simp [advance, h, roundup4_of_lt hl]

theorem advance_of_not {t : TeeAttribute} (h : ¬ t.HasPayload) : advance t = 0 := by
  simp [advance, h]

theorem advanceAll_eq {ts : List TeeAttribute} (h : LengthsFit ts) :
    advanceAll ts = payloadSize ts := by
  induction ts with
  | nil => rfl
  | cons t ts ih =>
    rw [advanceAll, ih h.tail]
    by_cases ht : t.HasPayload
    · rw [payloadSize_cons_of_payload ht, advance_of_payload ht (h t List.mem_cons_self ht)]
    · rw [payloadSize_cons_of_not ht, advance_of_not ht, Nat.zero_add]

structure Layout (r : PackRun) : Prop where
  table_in : ∀ a ∈ r.table, a.Within r.blen
  payload_in : ∀ p ∈ r.payloads, p.access.Within r.blen
  aligned : ∀ p ∈ r.payloads, p.off % 4 = 0
  payloads_apart : r.payloads.Pairwise fun p q => p.access.Apart q.access
  table_apart : ∀ p ∈ r.payloads, ∀ a ∈ r.table, p.access.Apart a
  stored : ∀ p ∈ r.payloads, p.stored.toNat = p.off
  cursor : r.cursor = r.blen

def OffsetsFit : List TeeAttribute → ℕ → Prop
  | [], _ => True
  | t :: ts, c => (t.HasPayload → c < 2 ^ 32) ∧
      OffsetsFit ts (c + if t.HasPayload then paddedLength t.content.refLength else 0)

structure Fits (A : Arch) (ts : List TeeAttribute) : Prop where
  lengths : LengthsFit ts
  size : packedSize ts < A.word
  offsets : OffsetsFit ts (rowOffset ts.length)

theorem layout_bounds {ts : List TeeAttribute} {c : ℕ} (hl : LengthsFit ts) {p : Payload}
    (hp : p ∈ layout ts c) : c ≤ p.off ∧ p.off + p.len ≤ c + payloadSize ts := by
  induction ts generalizing c with
  | nil => simp [layout] at hp
  | cons t ts ih =>
    rcases List.mem_append.mp hp with hp | hp
    · by_cases ht : t.HasPayload
      · simp only [rowPayload, ht, if_true, List.mem_singleton] at hp
        have hpad := length_le_paddedLength t.content.refLength
        rw [payloadSize_cons_of_payload ht]
        subst hp
        simp only
        omega
      · simp [rowPayload, ht] at hp
    · have hb := ih hl.tail hp
      by_cases ht : t.HasPayload
      · rw [advance_of_payload ht (hl t List.mem_cons_self ht)] at hb
        rw [payloadSize_cons_of_payload ht]
        omega
      · rw [advance_of_not ht] at hb
        rw [payloadSize_cons_of_not ht]
        omega

theorem layout_aligned {ts : List TeeAttribute} {c : ℕ} (hc : c % 4 = 0) {p : Payload}
    (hp : p ∈ layout ts c) : p.off % 4 = 0 := by
  induction ts generalizing c with
  | nil => simp [layout] at hp
  | cons t ts ih =>
    rcases List.mem_append.mp hp with hp | hp
    · by_cases ht : t.HasPayload <;> simp [rowPayload, ht] at hp
      subst hp
      exact hc
    · refine ih ?_ hp
      by_cases ht : t.HasPayload
      · simp only [advance, ht, if_true, roundup4_toNat]
        omega
      · rwa [advance_of_not ht]

theorem layout_apart {ts : List TeeAttribute} {c : ℕ} (hl : LengthsFit ts) :
    (layout ts c).Pairwise fun p q => p.access.Apart q.access := by
  induction ts generalizing c with
  | nil => simp [layout]
  | cons t ts ih =>
    rw [layout, List.pairwise_append]
    refine ⟨?_, ih hl.tail, ?_⟩
    · by_cases ht : t.HasPayload <;> simp [rowPayload, ht]
    · intro p hp q hq
      by_cases ht : t.HasPayload
      · simp only [rowPayload, ht, if_true, List.mem_singleton] at hp
        have hb := layout_bounds hl.tail hq
        rw [advance_of_payload ht (hl t List.mem_cons_self ht)] at hb
        have hpad := length_le_paddedLength t.content.refLength
        apply Access.apart_of_le
        subst hp
        simp only [Payload.access]
        omega
      · simp [rowPayload, ht] at hp

theorem layout_stored {ts : List TeeAttribute} {c : ℕ} (hl : LengthsFit ts)
    (ho : OffsetsFit ts c) {p : Payload} (hp : p ∈ layout ts c) : p.stored.toNat = p.off := by
  induction ts generalizing c with
  | nil => simp [layout] at hp
  | cons t ts ih =>
    obtain ⟨hc, ho⟩ := ho
    rcases List.mem_append.mp hp with hp | hp
    · by_cases ht : t.HasPayload <;> simp [rowPayload, ht] at hp
      subst hp
      exact UInt32.toNat_ofNat_of_lt' (hc ht)
    · refine ih hl.tail ?_ hp
      by_cases ht : t.HasPayload
      · rw [advance_of_payload ht (hl t List.mem_cons_self ht)]
        simpa [ht] using ho
      · rw [advance_of_not ht]
        simpa [ht] using ho

/-- Once a byte is taken, payloads that stay clear of it never move the cursor. -/
theorem advanceAll_of_blocked {ts : List TeeAttribute} {c : ℕ}
    (h : ∀ p ∈ layout ts c, ¬ p.access.Covers c) : advanceAll ts = 0 := by
  induction ts with
  | nil => rfl
  | cons t ts ih =>
    have ha : advance t = 0 := by
      by_cases ht : t.HasPayload
      · have hp := h ⟨c, t.content.refLength.toNat, UInt32.ofNat c⟩
          (List.mem_append_left _ (by simp [rowPayload, ht]))
        have hz : t.content.refLength.toNat = 0 := by
          unfold Access.Covers Payload.access at hp
          simp only at hp
          omega
        simp [advance, ht, roundup4_toNat, hz]
      · exact advance_of_not ht
    rw [advanceAll, ha, Nat.zero_add]
    apply ih
    intro p hp
    refine h p (List.mem_append_right _ ?_)
    simpa [ha] using hp

/-- Disjoint payloads inside the bytes the cursor covers leave no room for a wrap. -/
theorem lengthsFit_of_layout {ts : List TeeAttribute} {c : ℕ}
    (hapart : (layout ts c).Pairwise fun p q => p.access.Apart q.access)
    (hin : ∀ p ∈ layout ts c, p.off + p.len ≤ c + advanceAll ts) : LengthsFit ts := by
  induction ts generalizing c with
  | nil => intro t ht; simp at ht
  | cons t ts ih =>
    rw [layout, List.pairwise_append] at hapart
    obtain ⟨_, hrest, hcross⟩ := hapart
    have htail : LengthsFit ts := by
      refine ih hrest fun p hp => ?_
      have hb := hin p (List.mem_append_right _ hp)
      rw [advanceAll] at hb
      omega
    intro u hu hpay
    rcases List.mem_cons.mp hu with rfl | hu
    · by_contra hwrap
      have hz : advance u = 0 := by
        simp [advance, hpay, roundup4_of_ge (Nat.not_lt.mp hwrap)]
      have hmem : Payload.mk c u.content.refLength.toNat (UInt32.ofNat c) ∈ rowPayload c u := by
        simp [rowPayload, hpay]
      have hblocked : advanceAll ts = 0 := by
        apply advanceAll_of_blocked (c := c)
        intro p hp
        refine hcross _ hmem p (by simpa [hz] using hp) c ?_
        simp only [Access.Covers, Payload.access]
        omega
      have hb := hin _ (List.mem_append_left _ hmem)
      rw [advanceAll, hz, hblocked] at hb
      simp only at hb
      omega
    · exact htail u hu hpay

theorem offsetsFit_of_layout {ts : List TeeAttribute} {c : ℕ} (hl : LengthsFit ts)
    (h : ∀ p ∈ layout ts c, p.stored.toNat = p.off) : OffsetsFit ts c := by
  induction ts generalizing c with
  | nil => trivial
  | cons t ts ih =>
    refine ⟨fun ht => ?_, ?_⟩
    · have hp := h ⟨c, t.content.refLength.toNat, UInt32.ofNat c⟩
        (List.mem_append_left _ (by simp [rowPayload, ht]))
      simp only [UInt32.toNat_ofNat'] at hp
      omega
    · have hstep : (if t.HasPayload then paddedLength t.content.refLength else 0) = advance t := by
        by_cases ht : t.HasPayload
        · simp [ht, advance_of_payload ht (hl t List.mem_cons_self ht)]
        · simp [ht, advance_of_not ht]
      rw [hstep]
      exact ih hl.tail fun p hp => h p (List.mem_append_right _ hp)

/-- A granted run on a non-empty array, in terms of the two layouts. -/
theorem packAttrs_granted (A : Arch) (hostMem : Memory UInt8) (attrs : AttrArray)
    (hne : attrs.attrs ≠ []) :
    let r := packAttrs A hostMem attrs true
    let c := 4 + sizeofPacked * attrs.attrs.length % A.word
    r.res = teeSuccess ∧ r.blen = ((4 + sizeofPacked * attrs.attrs.length) % A.word +
      advanceAll attrs.attrs) % A.word ∧ r.table = ⟨0, 4⟩ :: tableStores attrs.attrs 0 ∧
    r.payloads = layout attrs.attrs c ∧ r.cursor = c + advanceAll attrs.attrs := by
  have hlen : attrs.attrs.length ≠ 0 := by simpa using hne
  have hw : 0 < A.word := Nat.two_pow_pos _
  simp only [packAttrs, hlen, if_false, if_true]
  obtain ⟨htable, hpay, hb⟩ := fillLoop_logs hostMem attrs.attrs 0
    { FillState.store ⟨fun _ => 0, [], [], 0⟩ 0 (UInt32.ofNat attrs.attrs.length) with
      b := 4 + sizeofPacked * attrs.attrs.length % A.word }
  refine ⟨trivial, sizeLoop_eq A _ _ (Nat.mod_lt _ hw), ?_, ?_, hb⟩
  · rw [htable]
    simp [FillState.store]
  · rw [hpay]
    simp [FillState.store]

theorem layout_of_fits {A : Arch} {hostMem : Memory UInt8} {attrs : AttrArray}
    (hne : attrs.attrs ≠ []) (h : Fits A attrs.attrs) :
    Layout (packAttrs A hostMem attrs true) := by
  obtain ⟨_, hblen, htable, hpay, hcur⟩ := packAttrs_granted A hostMem attrs hne
  have hsize := h.size
  have hadv := advanceAll_eq h.lengths
  simp only [packedSize, rowOffset] at hsize
  rw [Nat.mod_eq_of_lt (a := sizeofPacked * attrs.attrs.length) (by omega),
    ← rowOffset] at hpay hcur
  rw [Nat.mod_eq_of_lt (a := 4 + sizeofPacked * attrs.attrs.length) (by omega), hadv,
    Nat.mod_eq_of_lt hsize, ← rowOffset] at hblen
  rw [hadv] at hcur
  have htab : ∀ a ∈ (packAttrs A hostMem attrs true).table,
      a.off + a.len ≤ rowOffset attrs.attrs.length := by
    intro a ha
    rw [htable] at ha
    rcases List.mem_cons.mp ha with rfl | ha
    · simp [rowOffset]
    · simpa using (tableStores_inside ha).2
  constructor
  · intro a ha
    have := htab a ha
    unfold Access.Within
    omega
  · intro p hp
    rw [hpay] at hp
    have := layout_bounds h.lengths hp
    simp only [Access.Within, Payload.access]
    omega
  · intro p hp
    rw [hpay] at hp
    exact layout_aligned (rowOffset_mod _) hp
  · rw [hpay]
    exact layout_apart h.lengths
  · intro p hp a ha
    have := htab a ha
    rw [hpay] at hp
    have := layout_bounds h.lengths hp
    apply Access.Apart.symm
    apply Access.apart_of_le
    simp only [Payload.access]
    omega
  · intro p hp
    rw [hpay] at hp
    exact layout_stored h.lengths h.offsets hp
  · rw [hcur, hblen]

theorem fits_of_layout {A : Arch} {hostMem : Memory UInt8} {attrs : AttrArray}
    (hne : attrs.attrs ≠ []) (h : Layout (packAttrs A hostMem attrs true)) :
    Fits A attrs.attrs := by
  obtain ⟨_, hblen, htable, hpay, hcur⟩ := packAttrs_granted A hostMem attrs hne
  have hlt : (packAttrs A hostMem attrs true).blen < A.word := by
    rw [hblen]
    exact Nat.mod_lt _ (Nat.two_pow_pos _)
  obtain ⟨a, ha, hend⟩ := tableStores_last hne 0
  have hrow : rowOffset attrs.attrs.length ≤ (packAttrs A hostMem attrs true).blen := by
    have hin := h.table_in a (by rw [htable]; exact List.mem_cons_of_mem _ ha)
    simp only [Access.Within, hend, Nat.zero_add] at hin
    exact hin
  have hmod : 4 + sizeofPacked * attrs.attrs.length % A.word = rowOffset attrs.attrs.length := by
    rw [Nat.mod_eq_of_lt, rowOffset]
    unfold rowOffset at hrow
    omega
  rw [hmod] at hpay hcur
  have hcursor := h.cursor
  have hlengths : LengthsFit attrs.attrs := by
    apply lengthsFit_of_layout (c := rowOffset attrs.attrs.length)
    · rw [← hpay]
      exact h.payloads_apart
    · intro p hp
      have hin := h.payload_in p (by rw [hpay]; exact hp)
      simp only [Access.Within, Payload.access] at hin
      omega
  refine ⟨hlengths, ?_, ?_⟩
  · rw [packedSize, ← advanceAll_eq hlengths]
    omega
  · apply offsetsFit_of_layout hlengths
    intro p hp
    exact h.stored p (by rw [hpay]; exact hp)

/-- Whenever packing a non-empty array succeeds, its two passes agree on the layout. -/
def PassesAgree (A : Arch) (hostMem : Memory UInt8) (attrs : AttrArray) (calloc : Bool) : Prop :=
  (packAttrs A hostMem attrs calloc).res = teeSuccess → attrs.attrs ≠ [] →
    Layout (packAttrs A hostMem attrs calloc)

theorem passes_agree_iff_fits (A : Arch) (hostMem : Memory UInt8) (attrs : AttrArray)
    (calloc : Bool) : PassesAgree A hostMem attrs calloc ↔
      (calloc = true → attrs.attrs ≠ [] → Fits A attrs.attrs) := by
  cases calloc with
  | true =>
    constructor
    · intro h _ hne
      exact fits_of_layout hne (h (packAttrs_granted A hostMem attrs hne).1 hne)
    · intro h _ hne
      exact layout_of_fits hne (h rfl hne)
  | false =>
    refine ⟨fun _ h => by simp at h, fun _ hres hne => ?_⟩
    have hlen : attrs.attrs.length ≠ 0 := by simpa using hne
    simp [packAttrs, hlen, teeErrorOutOfMemory, teeSuccess] at hres

/-- One reference of 2^32 - 3 bytes: the size pass reserves no byte for its payload. -/
def hugeReference : AttrArray where
  attrs := [⟨0xC0000000, .ref 4096 0xFFFFFFFD, by decide⟩]
  count_lt := by decide

theorem passes_disagree_on_huge_reference :
    ¬ PassesAgree .arm64 (fun _ => 0) hugeReference true := by
  intro h
  have hne : hugeReference.attrs ≠ [] := by simp [hugeReference]
  have hfits := fits_of_layout hne (h (packAttrs_granted _ _ _ hne).1 hne)
  exact absurd (hfits.lengths ⟨0xC0000000, .ref 4096 0xFFFFFFFD, by decide⟩
    (by simp [hugeReference]) (by decide)) (by decide)

end AttrPackLayout
