import Mathlib.Data.List.Basic
import Mathlib.Data.List.GetD
import Mathlib.Tactic.Ring
import Mathlib.Tactic.Common

/-! # Flat memory regions

A region is a total function from offsets to cells; its size travels separately, so
that an access outside the region is a fact about a log and never a stuck evaluation. -/
namespace ByteMemory

abbrev Memory (α : Type*) := ℕ → α

variable {α : Type*}

def copyIn (m : Memory α) (off : ℕ) (data : List α) : Memory α :=
  fun i => if i < off then m i else data.getD (i - off) (m i)

def slice (m : Memory α) (off len : ℕ) : List α := (List.range len).map fun i => m (off + i)

structure Access where
  off : ℕ
  len : ℕ
  deriving DecidableEq, Repr

def Access.Covers (a : Access) (i : ℕ) : Prop := a.off ≤ i ∧ i < a.off + a.len

def Access.Within (a : Access) (size : ℕ) : Prop := a.off + a.len ≤ size

instance (a : Access) (size : ℕ) : Decidable (a.Within size) :=
  inferInstanceAs (Decidable (_ ≤ _))

/-- No cell belongs to both accesses; an empty access is apart from every other. -/
def Access.Apart (a b : Access) : Prop := ∀ i, a.Covers i → ¬ b.Covers i

theorem Access.apart_of_le {a b : Access} (h : a.off + a.len ≤ b.off) : a.Apart b := by
  intro i ha hb
  unfold Covers at ha hb
  omega

theorem Access.Apart.symm {a b : Access} (h : a.Apart b) : b.Apart a :=
  fun i hb ha => h i ha hb

theorem copyIn_before (m : Memory α) {off i : ℕ} (data : List α) (h : i < off) :
    copyIn m off data i = m i := by
  simp [copyIn, h]

theorem copyIn_after (m : Memory α) {off i : ℕ} {data : List α}
    (h : off + data.length ≤ i) : copyIn m off data i = m i := by
  unfold copyIn
  split
  · rfl
  · exact List.getD_eq_default _ _ (by omega)

theorem copyIn_inside (m : Memory α) {off i : ℕ} {data : List α} (h : i < data.length) :
    copyIn m off data (off + i) = data[i] := by
  simp [copyIn, h]

theorem copyIn_frame (m : Memory α) {off i : ℕ} {data : List α}
    (h : i < off ∨ off + data.length ≤ i) : copyIn m off data i = m i := by
  rcases h with h | h
  · exact copyIn_before m data h
  · exact copyIn_after m h

theorem copyIn_nil (m : Memory α) (off : ℕ) : copyIn m off [] = m := by
  funext i
  exact copyIn_frame m (by rw [List.length_nil]; omega)

theorem copyIn_single (m : Memory α) (off : ℕ) (a : α) (i : ℕ) :
    copyIn m off [a] i = if off = i then a else m i := by
  rcases Nat.lt_trichotomy i off with h | rfl | h
  · rw [copyIn_before m _ h, if_neg (by omega)]
  · simp [copyIn]
  · rw [copyIn_after m (by rw [List.length_singleton]; omega), if_neg (by omega)]

theorem copyIn_append (m : Memory α) (off : ℕ) (a b : List α) :
    copyIn (copyIn m off a) (off + a.length) b = copyIn m off (a ++ b) := by
  funext i
  by_cases hi : i < off + a.length
  · rw [copyIn_before _ b hi]
    by_cases hoff : i < off
    · rw [copyIn_before m a hoff, copyIn_before m _ hoff]
    · obtain ⟨d, rfl⟩ := Nat.exists_eq_add_of_le (Nat.not_lt.mp hoff)
      have hd : d < a.length := by omega
      rw [copyIn_inside m hd, copyIn_inside m (by rw [List.length_append]; omega),
        List.getElem_append_left hd]
  · obtain ⟨d, rfl⟩ := Nat.exists_eq_add_of_le (Nat.not_lt.mp hi)
    by_cases hd : d < b.length
    · rw [copyIn_inside _ hd, Nat.add_assoc,
        copyIn_inside m (by rw [List.length_append]; omega), List.getElem_append_right (by omega)]
      simp only [Nat.add_sub_cancel_left]
    · rw [copyIn_after _ (by omega), copyIn_after m (by omega),
        copyIn_after m (by rw [List.length_append]; omega)]

/-- Where every step either sets a value or leaves it, the last one that sets it counts. -/
theorem foldl_last {σ β : Type*} {f : σ → α → σ} {g : σ → β} {p : α → Bool} {v : α → β}
    (hstep : ∀ s a, g (f s a) = if p a then v a else g s) (l : List α) (s : σ) :
    g (l.foldl f s) = ((l.reverse.find? p).map v).getD (g s) := by
  induction l generalizing s with
  | nil => rfl
  | cons a l ih =>
    rw [List.foldl_cons, ih, hstep, List.reverse_cons, List.find?_append]
    cases l.reverse.find? p with
    | some b => rfl
    | none =>
      by_cases ha : p a
      · simp [ha]
      · simp [ha]

@[simp] theorem length_slice (m : Memory α) (off len : ℕ) : (slice m off len).length = len := by
  simp [slice]

@[simp] theorem getElem_slice (m : Memory α) (off len i : ℕ) (h : i < (slice m off len).length) :
    (slice m off len)[i] = m (off + i) := by
  simp [slice]

theorem slice_congr {m m' : Memory α} {off off' len : ℕ}
    (h : ∀ i < len, m (off + i) = m' (off' + i)) : slice m off len = slice m' off' len := by
  apply List.map_congr_left
  intro i hi
  exact h i (List.mem_range.mp hi)

theorem slice_copyIn (m : Memory α) (off : ℕ) (data : List α) :
    slice (copyIn m off data) off data.length = data := by
  apply List.ext_getElem
  · simp
  · intro i _ hi
    rw [getElem_slice, copyIn_inside m hi]

theorem slice_eq_append (m : Memory α) (off a b : ℕ) :
    slice m off (a + b) = slice m off a ++ slice m (off + a) b := by
  simp [slice, List.range_add, Function.comp_def, Nat.add_assoc]

def bytes32 (v : UInt32) : List UInt8 :=
  [UInt8.ofNat v.toNat, UInt8.ofNat (v.toNat / 2 ^ 8), UInt8.ofNat (v.toNat / 2 ^ 16),
    UInt8.ofNat (v.toNat / 2 ^ 24)]

def load32 (m : Memory UInt8) (off : ℕ) : UInt32 :=
  UInt32.ofNat ((m off).toNat + 2 ^ 8 * (m (off + 1)).toNat + 2 ^ 16 * (m (off + 2)).toNat +
    2 ^ 24 * (m (off + 3)).toNat)

def store32 (m : Memory UInt8) (off : ℕ) (v : UInt32) : Memory UInt8 := copyIn m off (bytes32 v)

@[simp] theorem length_bytes32 (v : UInt32) : (bytes32 v).length = 4 := rfl

theorem load32_congr {m m' : Memory UInt8} {off off' : ℕ}
    (h : ∀ i < 4, m (off + i) = m' (off' + i)) : load32 m off = load32 m' off' := by
  have h0 := h 0 (by omega)
  have h1 := h 1 (by omega)
  have h2 := h 2 (by omega)
  have h3 := h 3 (by omega)
  simp only [Nat.add_zero] at h0
  simp only [load32, h0, h1, h2, h3]

theorem store32_frame (m : Memory UInt8) {off i : ℕ} (v : UInt32)
    (h : i < off ∨ off + 4 ≤ i) : store32 m off v i = m i :=
  copyIn_frame m h

@[simp] theorem load32_store32 (m : Memory UInt8) (off : ℕ) (v : UInt32) :
    load32 (store32 m off v) off = v := by
  have hb (i : ℕ) (hi : i < (bytes32 v).length) : store32 m off v (off + i) = (bytes32 v)[i] :=
    copyIn_inside m hi
  have h0 := hb 0 (by simp)
  have h1 := hb 1 (by simp)
  have h2 := hb 2 (by simp)
  have h3 := hb 3 (by simp)
  apply UInt32.toNat_inj.mp
  have hv := v.toNat_lt
  simp only [Nat.add_zero] at h0
  simp only [load32, h0, h1, h2, h3, bytes32, List.getElem_cons_zero, List.getElem_cons_succ,
    UInt8.toNat_ofNat', UInt32.toNat_ofNat']
  omega

/-- A store leaves every field that does not overlap it as it was. -/
theorem load32_store32_apart (m : Memory UInt8) {off off' : ℕ} (v : UInt32)
    (h : off + 4 ≤ off' ∨ off' + 4 ≤ off) : load32 (store32 m off' v) off = load32 m off := by
  apply load32_congr
  intro i hi
  exact store32_frame m v (by omega)

theorem load32_copyIn_apart (m : Memory UInt8) {off off' : ℕ} {data : List UInt8}
    (h : off + 4 ≤ off' ∨ off' + data.length ≤ off) :
    load32 (copyIn m off' data) off = load32 m off := by
  apply load32_congr
  intro i hi
  exact copyIn_frame m (by omega)

theorem takeWhile_text {t : List UInt8} (h : 0 ∉ t) (rest : List UInt8) :
    (t ++ 0 :: rest).takeWhile (· ≠ 0) = t := by
  have hpos : ∀ b ∈ t, decide (b ≠ 0) = true := by
    intro b hb
    rw [decide_eq_true_iff]
    rintro rfl
    exact h hb
  rw [List.takeWhile_append_of_pos hpos]
  exact List.append_nil t

end ByteMemory
