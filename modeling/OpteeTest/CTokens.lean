import Mathlib.Data.List.Basic
import Mathlib.Tactic.Common

/-! # Tokens of C text

A scanner that drops blanks and comments, and the tokens that tables of bytes are made of. -/
namespace CTokens

abbrev Text := List Char

def isSpace (c : Char) : Bool :=
  c = ' ' || c = '\t' || c = '\n' || c = '\r' || c = '\x0b' || c = '\x0c'

def isWord (c : Char) : Bool := c.isAlphanum || c = '_'

inductive Token where
  | word (t : Text)
  | mark (c : Char)
  deriving DecidableEq, Repr

def word (s : String) : Token := .word s.toList

inductive Scan where
  | between
  | word (t : Text)
  | slash
  | comment
  | star
  deriving DecidableEq, Repr

def start (c : Char) : List Token × Scan :=
  if isSpace c then ([], .between)
  else if c = '/' then ([], .slash)
  else if isWord c then ([], .word [c])
  else ([.mark c], .between)

def advance : Scan → Char → List Token × Scan
  | .between, c => start c
  | .word t, c =>
    if isWord c then ([], .word (t ++ [c])) else (.word t :: (start c).1, (start c).2)
  | .slash, c => if c = '*' then ([], .comment) else (.mark '/' :: (start c).1, (start c).2)
  | .comment, c => ([], if c = '*' then .star else .comment)
  | .star, c => ([], if c = '/' then .between else if c = '*' then .star else .comment)

def feed : Scan → Text → List Token × Scan
  | s, [] => ([], s)
  | s, c :: cs => ((advance s c).1 ++ (feed (advance s c).2 cs).1, (feed (advance s c).2 cs).2)

def pending : Scan → List Token
  | .word t => [.word t]
  | .slash => [.mark '/']
  | _ => []

def tokens (t : Text) : List Token :=
  (feed .between t).1 ++ pending (feed .between t).2

theorem feed_append (s : Scan) (a b : Text) :
    feed s (a ++ b) = ((feed s a).1 ++ (feed (feed s a).2 b).1, (feed (feed s a).2 b).2) := by
  induction a generalizing s with
  | nil => rfl
  | cons c cs ih => simp only [List.cons_append, feed, ih, List.append_assoc]

def Scans (t : Text) (ts : List Token) : Prop := feed .between t = (ts, .between)

instance (t : Text) (ts : List Token) : Decidable (Scans t ts) :=
  inferInstanceAs (Decidable (_ = _))

theorem scans_nil : Scans [] [] := rfl

theorem Scans.append {a b : Text} {ts us : List Token} (ha : Scans a ts) (hb : Scans b us) :
    Scans (a ++ b) (ts ++ us) := by
  unfold Scans at *
  rw [feed_append, ha, hb]

theorem Scans.tokens_eq {t : Text} {ts : List Token} (h : Scans t ts) : tokens t = ts := by
  have hfeed : feed .between t = (ts, .between) := h
  simp [tokens, hfeed, pending]

theorem not_isSpace_of_isWord {c : Char} (h : isWord c) : isSpace c = false := by
  by_contra hspace
  simp only [Bool.not_eq_false, isSpace, Bool.or_eq_true, decide_eq_true_eq] at hspace
  rcases hspace with ((((rfl | rfl) | rfl) | rfl) | rfl) | rfl <;> exact absurd h (by decide)

theorem start_word {c : Char} (h : isWord c) : start c = ([], .word [c]) := by
  have hslash : c ≠ '/' := by
    rintro rfl
    exact absurd h (by decide)
  simp [start, not_isSpace_of_isWord h, hslash, h]

theorem feed_word (t w : Text) (h : ∀ c ∈ w, isWord c) :
    feed (.word t) w = ([], .word (t ++ w)) := by
  induction w generalizing t with
  | nil => simp [feed]
  | cons c cs ih =>
    have hc := h c List.mem_cons_self
    have hcs := ih (t ++ [c]) fun c' hc' => h c' (List.mem_cons_of_mem c hc')
    simp [feed, advance, hc, hcs]

/-- A word ends at the first character that is not one of a word. -/
theorem scans_word {w : Text} {c : Char} {ts : List Token} (hne : w ≠ [])
    (hw : ∀ c ∈ w, isWord c) (hc : start c = (ts, .between)) (hend : isWord c = false) :
    Scans (w ++ [c]) (.word w :: ts) := by
  obtain ⟨d, ds, rfl⟩ := List.exists_cons_of_ne_nil hne
  have hd := start_word (hw d List.mem_cons_self)
  have hds := feed_word [d] ds fun c' hc' => hw c' (List.mem_cons_of_mem d hc')
  unfold Scans
  rw [feed_append, feed]
  simp only [advance, hd, hds]
  simp [feed, advance, hend, hc]

def hexValue (c : Char) : Option ℕ :=
  if '0' ≤ c ∧ c ≤ '9' then some (c.toNat - '0'.toNat)
  else if 'a' ≤ c ∧ c ≤ 'f' then some (c.toNat - 'a'.toNat + 10)
  else if 'A' ≤ c ∧ c ≤ 'F' then some (c.toNat - 'A'.toNat + 10)
  else none

def hexByte (a b : Char) : Option UInt8 :=
  match hexValue a, hexValue b with
  | some x, some y => some (UInt8.ofNat (16 * x + y))
  | _, _ => none

def readHex : Text → Option (List UInt8)
  | [] => some []
  | [_] => none
  | a :: b :: t => match hexByte a b, readHex t with
    | some x, some xs => some (x :: xs)
    | _, _ => none

def byteToken (a b : Char) : Token := .word ['0', 'x', a, b]

def byteOf : Token → Option UInt8
  | .word [z, x, a, b] => if z = '0' ∧ x = 'x' then hexByte a b else none
  | _ => none

/-- The elements of an initializer, each with a comma behind it, as far as they go. -/
def readElements : List Token → List UInt8 × List Token
  | t :: .mark c :: ts => match byteOf t with
    | some b =>
      if c = ',' then (b :: (readElements ts).1, (readElements ts).2) else ([], t :: .mark c :: ts)
    | none => ([], t :: .mark c :: ts)
  | ts => ([], ts)

def decimal (n : ℕ) : Text := Nat.toDigits 10 n

def readNumber : Token → Option ℕ
  | .word t => if t ≠ [] ∧ t.all Char.isDigit then some (Nat.ofDigitChars 10 t 0) else none
  | .mark _ => none

def readWord : List Token → Option (Text × List Token)
  | .word t :: ts => some (t, ts)
  | _ => none

def expect : List Token → List Token → Option (List Token)
  | [], ts => some ts
  | _ :: _, [] => none
  | e :: es, t :: ts => if t = e then expect es ts else none

theorem isWord_of_hexValue {c : Char} {x : ℕ} (h : hexValue c = some x) : isWord c := by
  have hchar : isWord c = (((decide ('A' ≤ c ∧ c ≤ 'Z') || decide ('a' ≤ c) && decide (c ≤ 'z')) ||
      decide ('0' ≤ c) && decide (c ≤ '9')) || decide (c = '_')) := rfl
  unfold hexValue at h
  rw [hchar]
  simp only [Bool.or_eq_true, Bool.and_eq_true, decide_eq_true_eq]
  split_ifs at h with hnum hlower hupper
  · exact Or.inl (Or.inr hnum)
  · exact Or.inl (Or.inl (Or.inr ⟨hlower.1, UInt32.le_trans hlower.2 (by decide)⟩))
  · exact Or.inl (Or.inl (Or.inl ⟨hupper.1, UInt32.le_trans hupper.2 (by decide)⟩))

theorem isWord_of_hexByte {a b : Char} {x : UInt8} (h : hexByte a b = some x) :
    isWord a ∧ isWord b := by
  unfold hexByte at h
  split at h
  · next ha hb => exact ⟨isWord_of_hexValue ha, isWord_of_hexValue hb⟩
  · cases h

theorem byteOf_byteToken (a b : Char) : byteOf (byteToken a b) = hexByte a b := rfl

theorem hexByte_digits (x : UInt8) :
    hexByte (Nat.digitChar (x.toNat / 16)) (Nat.digitChar (x.toNat % 16)) = some x := by
  have hdigit : ∀ n < 16, hexValue (Nat.digitChar n) = some n := by decide
  have hx := x.toNat_lt
  unfold hexByte
  rw [hdigit _ (by omega), hdigit _ (Nat.mod_lt _ (by decide))]
  simp only [Nat.div_add_mod, UInt8.ofNat_toNat]

theorem scans_element {a b : Char} {x : UInt8} (h : hexByte a b = some x) :
    Scans ['0', 'x', a, b, ','] [byteToken a b, .mark ','] := by
  obtain ⟨ha, hb⟩ := isWord_of_hexByte h
  have hdigits : ∀ c ∈ ['0', 'x', a, b], isWord c := by
    simp only [List.forall_mem_cons]
    exact ⟨rfl, rfl, ha, hb, fun _ hc => absurd hc List.not_mem_nil⟩
  exact scans_word (List.cons_ne_nil _ _) hdigits rfl rfl

theorem readElements_cons {a b : Char} {x : UInt8} (h : hexByte a b = some x)
    (ts : List Token) : readElements (byteToken a b :: .mark ',' :: ts) =
      (x :: (readElements ts).1, (readElements ts).2) := by
  rw [readElements]
  simp only [byteOf_byteToken, h, if_pos]

@[simp] theorem readWord_word (t : Text) (ts : List Token) :
    readWord (.word t :: ts) = some (t, ts) := rfl

@[simp] theorem expect_append (es ts : List Token) : expect es (es ++ ts) = some ts := by
  induction es with
  | nil => rfl
  | cons e es ih => simpa [expect] using ih

theorem isWord_of_isDigit {c : Char} (h : c.isDigit) : isWord c := by
  simp [isWord, Char.isAlphanum, h]

theorem decimal_ne_nil (n : ℕ) : decimal n ≠ [] :=
  List.length_pos_iff.mp Nat.length_toDigits_pos

theorem isDigit_of_mem_decimal {n : ℕ} {c : Char} (h : c ∈ decimal n) : c.isDigit :=
  Nat.isDigit_of_mem_toDigits (by decide) (by decide) h

theorem readNumber_decimal (n : ℕ) : readNumber (.word (decimal n)) = some n := by
  have hdigits : (decimal n).all Char.isDigit :=
    List.all_eq_true.mpr fun _ => isDigit_of_mem_decimal
  rw [readNumber, if_pos ⟨decimal_ne_nil n, hdigits⟩, decimal, Nat.ofDigitChars_ten_toDigits]

end CTokens
