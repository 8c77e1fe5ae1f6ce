import OpteeTest.TeeApi

/-! # TEE attributes and their packed wire format

`pack_attrs` of the host library and `unpack_attrs` of the crypt TA share this layout:
a 32-bit count, a table of 12-byte rows and the payloads of the memory references. -/
namespace AttrWireFormat

open ByteMemory TeeApi

def teeAttrBitValue : UInt32 := (1 : UInt32) <<< 29

def isValueId (attributeID : UInt32) : Bool := attributeID &&& teeAttrBitValue != 0

/-- The union `content`; `buffer` is an address and address 0 is NULL. -/
inductive Content where
  | ref (buffer : ℕ) (length : UInt32)
  | value (a b : UInt32)
  deriving DecidableEq, Repr

def Content.isValue : Content → Bool
  | .ref _ _ => false
  | .value _ _ => true

/-- `TEE_Attribute`. The proof field says that the union holds the member its id selects. -/
structure TeeAttribute where
  attributeID : UInt32
  content : Content
  tagged : content.isValue = isValueId attributeID
  deriving DecidableEq, Repr

/-- The accessors of the union read the member the id selects, so the zero of the
other member is never read. -/
def Content.valueA : Content → UInt32
  | .ref _ _ => 0
  | .value a _ => a

def Content.valueB : Content → UInt32
  | .ref _ _ => 0
  | .value _ b => b

def Content.refBuffer : Content → ℕ
  | .ref buffer _ => buffer
  | .value _ _ => 0

def Content.refLength : Content → UInt32
  | .ref _ length => length
  | .value _ _ => 0

def TeeAttribute.HasPayload (t : TeeAttribute) : Prop :=
  isValueId t.attributeID = false ∧ t.content.refBuffer ≠ 0

instance (t : TeeAttribute) : Decidable t.HasPayload := inferInstanceAs (Decidable (_ ∧ _))

structure AttrArray where
  attrs : List TeeAttribute
  count_lt : attrs.length < 2 ^ 32

/-- `sizeof(struct tee_attr_packed)`, the same as `sizeof(struct attr_packed)` in the TA. -/
def sizeofPacked : ℕ := 12

def sizeofAttribute : Arch → ℕ
  | .arm32 => 12
  | .arm64 => 24

def rowOffset (n : ℕ) : ℕ := 4 + sizeofPacked * n

def paddedLength (length : UInt32) : ℕ := (length.toNat + 3) / 4 * 4

def payloadSize : List TeeAttribute → ℕ
  | [] => 0
  | t :: ts => (if t.HasPayload then paddedLength t.content.refLength else 0) + payloadSize ts

def packedSize (ts : List TeeAttribute) : ℕ := rowOffset ts.length + payloadSize ts

def SameAttribute (m m' : Memory UInt8) (t t' : TeeAttribute) : Prop :=
  t.attributeID = t'.attributeID ∧
  match t.content, t'.content with
  | .value a b, .value a' b' => a = a' ∧ b = b'
  | .ref p l, .ref p' l' => l = l' ∧ (p = 0 ↔ p' = 0) ∧
      (p ≠ 0 → slice m p l.toNat = slice m' p' l'.toNat)
  | _, _ => False

theorem TeeAttribute.not_hasPayload_of_value {t : TeeAttribute}
    (h : isValueId t.attributeID = true) : ¬ t.HasPayload := by
  simp [HasPayload, h]

theorem TeeAttribute.not_hasPayload_of_null {t : TeeAttribute}
    (h : t.content.refBuffer = 0) : ¬ t.HasPayload := by
  simp [HasPayload, h]

/-- The three branches of both passes: a value, a NULL reference, a payload. -/
theorem TeeAttribute.trichotomy (t : TeeAttribute) :
    isValueId t.attributeID = true ∨
    (isValueId t.attributeID = false ∧ t.content.refBuffer = 0) ∨ t.HasPayload := by
  unfold HasPayload
  cases isValueId t.attributeID <;> simp
  exact eq_or_ne _ _

@[simp] theorem payloadSize_nil : payloadSize [] = 0 := rfl

theorem payloadSize_cons_of_payload {t : TeeAttribute} (h : t.HasPayload)
    (ts : List TeeAttribute) :
    payloadSize (t :: ts) = paddedLength t.content.refLength + payloadSize ts := by
  simp [payloadSize, h]

theorem payloadSize_cons_of_not {t : TeeAttribute} (h : ¬ t.HasPayload)
    (ts : List TeeAttribute) : payloadSize (t :: ts) = payloadSize ts := by
  simp [payloadSize, h]

theorem payloadSize_append (ts us : List TeeAttribute) :
    payloadSize (ts ++ us) = payloadSize ts + payloadSize us := by
  induction ts with
  | nil => simp
  | cons t ts ih => simp only [List.cons_append, payloadSize, ih, Nat.add_assoc]

theorem length_le_paddedLength (l : UInt32) : l.toNat ≤ paddedLength l := by
  unfold paddedLength
  omega

theorem rowOffset_succ (n : ℕ) : rowOffset (n + 1) = rowOffset n + 12 := by
  simp [rowOffset, sizeofPacked]
  omega

theorem rowOffset_mod (n : ℕ) : rowOffset n % 4 = 0 := by
  unfold rowOffset sizeofPacked
  omega

theorem TeeAttribute.isValue_of_id {t : TeeAttribute} (h : isValueId t.attributeID = true) :
    ∃ a b, t.content = .value a b := by
  have ht := t.tagged
  rw [h] at ht
  cases hc : t.content with
  | value a b => exact ⟨a, b, rfl⟩
  | ref p l => simp [hc, Content.isValue] at ht

theorem TeeAttribute.isRef_of_id {t : TeeAttribute} (h : isValueId t.attributeID = false) :
    ∃ p l, t.content = .ref p l := by
  have ht := t.tagged
  rw [h] at ht
  cases hc : t.content with
  | ref p l => exact ⟨p, l, rfl⟩
  | value a b => simp [hc, Content.isValue] at ht

end AttrWireFormat
