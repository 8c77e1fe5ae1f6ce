import OpteeTest.CTokens
import Mathlib.Data.List.DropRight
import Mathlib.Data.List.Forall2
import Mathlib.Data.List.ReduceOption

/-! # Test vectors as C tables

`rsp_to_gcm_test.py` reads a file of test vectors line by line into a dictionary, and writes a case
of a C table when the next vector begins and at the end of the file. The script is read as
Python 2, where the lines are bytes. No value stands for an exception. -/
namespace RspToGcm

open CTokens

/-- A value of the dictionary: the number of a line or what was read from one. -/
inductive Val where
  | text (t : Text)
  | num (n : ℕ)
  deriving DecidableEq, Repr

abbrev Vars := List (Text × Val)

def Vars.get (vars : Vars) (name : Text) : Option Val :=
  (vars.find? fun e => e.1 = name).map Prod.snd

def Vars.set (vars : Vars) (name : Text) (v : Val) : Vars :=
  (name, v) :: vars.filter fun e => e.1 ≠ name

def reprVal : Val → Text
  | .text t => '\'' :: t ++ ['\'']
  | .num n => decimal n

def elements : Text → Text
  | a :: b :: t => "0x".toList ++ [a, b] ++ ", ".toList ++ elements t
  | _ => []

def toCompoundStr (val : Text) : Option Text :=
  if val.length % 2 ≠ 0 then none
  else if 0 < val.length then
    some ("(const uint8_t [])\x7b".toList ++ elements val ++
      ("\x7d, ".toList ++ decimal (val.length / 2) ++ ",".toList))
  else some "NULL, 0,".toList

def textOf : Option Val → Option Text
  | some (.text t) => some t
  | _ => none

def compound (v : Option Val) : Option Text := (textOf v).bind toCompoundStr

inductive Mode where
  | encrypt | decrypt
  deriving DecidableEq, Repr

def modeText : Mode → Text
  | .encrypt => "TEE_MODE_ENCRYPT".toList
  | .decrypt => "TEE_MODE_DECRYPT".toList

def rowText (mode : Mode) (key iv aad pt ct tag line : Text) : Text :=
  ("\x7b TEE_ALG_AES_GCM, ".toList ++ modeText mode ++ ", TEE_TYPE_AES,\n".toList) ++
    ("/* Key */ ".toList ++ key ++ "\n".toList) ++ ("/* IV  */ ".toList ++ iv ++ "\n".toList) ++
    "0,\n".toList ++ ("/* AAD */ ".toList ++ aad ++ "\n".toList) ++ "0,\n".toList ++
    ("/* PT  */ ".toList ++ pt ++ "\n".toList) ++ ("/* CT  */ ".toList ++ ct ++ "\n".toList) ++
    ("/* Tag */ ".toList ++ tag ++ "\n".toList) ++ (line ++ "\x7d,\n".toList)

def writeRow (mode : Mode) (get : Text → Option Val) : Option Text := do
  let key ← compound (get "Key".toList)
  let iv ← compound (get "IV".toList)
  let aad ← compound (get "AAD".toList)
  let pt ← compound (get "PT".toList)
  let ct ← compound (get "CT".toList)
  let tag ← compound (get "Tag".toList)
  let line ← get "Line".toList
  some (rowText mode key iv aad pt ct tag (reprVal line))

/-- A later vector of its group when only the first ones are asked for. -/
def later (limited : Bool) (get : Text → Option Val) : Option Bool :=
  if limited then (get "Count".toList).map fun v => decide (v ≠ .text "0".toList) else some false

def writeCase (limited : Bool) (mode : Mode) (get : Text → Option Val) : Option Text :=
  if (get "FAIL".toList).isSome then some []
  else (later limited get).bind fun skip =>
    if skip then some []
    else (textOf (get "Tag".toList)).bind fun tag =>
      if tag.length / 2 < 96 / 8 then some [] else writeRow mode get

def generateCase (limited : Bool) (mode : Mode) (vars : Vars) : Option Text :=
  let vars := if (vars.get "PT".toList).isNone then vars.set "PT".toList (.text []) else vars
  writeCase limited mode vars.get

def strip (t : Text) : Text := (t.dropWhile isSpace).rdropWhile isSpace

/-- `re.split('\W+', t)` after the characters `cur` of a word, or inside of a separator. -/
def splitFrom (cur : Text) (separated : Bool) : Text → List Text
  | [] => [cur]
  | c :: cs =>
    if isWord c then splitFrom (cur ++ [c]) false cs
    else if separated then splitFrom cur true cs
    else cur :: splitFrom [] true cs

def reSplit (t : Text) : List Text := splitFrom [] false t

structure State where
  lineNum : ℕ
  vars : Vars
  out : Text

def startVector (limited : Bool) (mode : Mode) (s : State) : Option State :=
  if 1 < s.vars.length then
    (generateCase limited mode s.vars).map fun text => { s with vars := [], out := s.out ++ text }
  else some s

def store (limited : Bool) (mode : Mode) (s : State) (name value : Text) : Option State := do
  let s ← if name = "Count".toList then
      (startVector limited mode s).map fun s =>
        { s with vars := s.vars.set "Line".toList (.num s.lineNum) }
    else some s
  some { s with vars := s.vars.set name (.text value) }

def readLine (limited : Bool) (mode : Mode) (s : State) (line : Text) : Option State :=
  let s := { s with lineNum := s.lineNum + 1 }
  let myl := strip line
  if myl.length = 0 ∨ myl.head? = some '#' ∨ myl.head? = some '[' then some s
  else store limited mode s ((reSplit myl).headD []) ((reSplit myl).getD 1 [])

def finish (limited : Bool) (mode : Mode) (s : State) : Option Text :=
  (startVector limited mode s).map State.out

def main (limited : Bool) (mode : Mode) (lines : List Text) : Option Text :=
  (lines.foldlM (readLine limited mode) ⟨0, [], []⟩).bind (finish limited mode)

inductive Says : Text → Option (Text × Text) → Prop
  | blank {t : Text} (ht : ∀ c ∈ t, isSpace c) : Says t none
  | note {a t : Text} {c : Char} (ha : ∀ c ∈ a, isSpace c) (hc : c = '#' ∨ c = '[') :
      Says (a ++ c :: t) none
  | bare {a name gap : Text} (ha : ∀ c ∈ a, isSpace c) (hne : name ≠ [])
      (hname : ∀ c ∈ name, isWord c) (hgap : ∀ c ∈ gap, isWord c = false) :
      Says (a ++ (name ++ gap)) (some (name, []))
  | entry {a name gap value b : Text} (ha : ∀ c ∈ a, isSpace c) (hne : name ≠ [])
      (hname : ∀ c ∈ name, isWord c) (hgap : gap ≠ []) (hsep : ∀ c ∈ gap, isWord c = false)
      (hvalue : value ≠ []) (hword : ∀ c ∈ value, isWord c) (hb : ∀ c ∈ b, isSpace c) :
      Says (a ++ (name ++ gap ++ value ++ b)) (some (name, value))

theorem dropWhile_pad {a t : Text} (ha : ∀ c ∈ a, isSpace c) :
    (a ++ t).dropWhile isSpace = t.dropWhile isSpace := by
  induction a with
  | nil => rfl
  | cons c cs ih =>
    have hc := ha c List.mem_cons_self
    rw [List.cons_append, List.dropWhile_cons_of_pos hc]
    exact ih fun c' hc' => ha c' (List.mem_cons_of_mem c hc')

theorem rdropWhile_cons {c : Char} (t : Text) (hc : isSpace c = false) :
    (c :: t).rdropWhile isSpace = c :: t.rdropWhile isSpace := by
  induction t using List.reverseRecOn with
  | nil => simp [List.rdropWhile_singleton, hc]
  | append_singleton t d ih =>
    rw [← List.cons_append, List.rdropWhile_concat, List.rdropWhile_concat]
    split
    · exact ih
    · rfl

theorem rdropWhile_append {w : Text} (t : Text) (hw : ∀ c ∈ w, isSpace c = false) :
    (w ++ t).rdropWhile isSpace = w ++ t.rdropWhile isSpace := by
  induction w with
  | nil => rfl
  | cons c cs ih =>
    rw [List.cons_append, rdropWhile_cons _ (hw c List.mem_cons_self),
      ih fun c' hc' => hw c' (List.mem_cons_of_mem c hc'), List.cons_append]

theorem rdropWhile_pad (t : Text) {b : Text} (hb : ∀ c ∈ b, isSpace c) :
    (t ++ b).rdropWhile isSpace = t.rdropWhile isSpace := by
  induction b using List.reverseRecOn with
  | nil => rw [List.append_nil]
  | append_singleton b d ih =>
    rw [← List.append_assoc, List.rdropWhile_concat_pos _ _ _ (hb d (by simp))]
    exact ih fun c hc => hb c (List.mem_append_left _ hc)

theorem strip_pad {a t : Text} {c : Char} (ha : ∀ c ∈ a, isSpace c) (hc : isSpace c = false) :
    strip (a ++ c :: t) = (c :: t).rdropWhile isSpace := by
  rw [strip, dropWhile_pad ha, List.dropWhile_cons_of_neg (by simp [hc])]

theorem splitFrom_word {w : Text} (hw : ∀ c ∈ w, isWord c) (cur t : Text) :
    splitFrom cur false (w ++ t) = splitFrom (cur ++ w) false t := by
  induction w generalizing cur with
  | nil => rw [List.append_nil, List.nil_append]
  | cons c cs ih =>
    have hcs := ih (fun c' hc' => hw c' (List.mem_cons_of_mem c hc')) (cur ++ [c])
    rw [List.cons_append, splitFrom, if_pos (hw c List.mem_cons_self), hcs, List.append_assoc,
      List.singleton_append]

theorem splitFrom_gap {gap : Text} (hgap : ∀ c ∈ gap, isWord c = false) (cur t : Text) :
    splitFrom cur true (gap ++ t) = splitFrom cur true t := by
  induction gap with
  | nil => rfl
  | cons c cs ih =>
    rw [List.cons_append, splitFrom, if_neg (by simp [hgap c List.mem_cons_self]), if_pos rfl]
    exact ih fun c' hc' => hgap c' (List.mem_cons_of_mem c hc')

theorem reSplit_bare {name gap : Text} (hname : ∀ c ∈ name, isWord c)
    (hgap : ∀ c ∈ gap, isWord c = false) :
    reSplit (name ++ gap) = if gap = [] then [name] else [name, []] := by
  rw [reSplit, splitFrom_word hname]
  cases gap with
  | nil => rfl
  | cons c cs =>
    have hcs := splitFrom_gap (fun c' hc' => hgap c' (List.mem_cons_of_mem c hc')) [] []
    rw [List.append_nil] at hcs
    rw [splitFrom, if_neg (by simp [hgap c List.mem_cons_self]), if_neg (by simp), hcs]
    rfl

theorem reSplit_entry {name gap value : Text} (hname : ∀ c ∈ name, isWord c) (hne : gap ≠ [])
    (hgap : ∀ c ∈ gap, isWord c = false) (hvalue : value ≠ []) (hword : ∀ c ∈ value, isWord c) :
    reSplit (name ++ gap ++ value) = [name, value] := by
  obtain ⟨g, gs, rfl⟩ := List.exists_cons_of_ne_nil hne
  obtain ⟨v, vs, rfl⟩ := List.exists_cons_of_ne_nil hvalue
  have hgs := splitFrom_gap (fun c' hc' => hgap c' (List.mem_cons_of_mem g hc')) [] (v :: vs)
  have hvs := splitFrom_word (fun c' hc' => hword c' (List.mem_cons_of_mem v hc')) [v] []
  rw [List.append_nil] at hvs
  rw [reSplit, List.append_assoc, splitFrom_word hname, List.cons_append, splitFrom,
    if_neg (by simp [hgap g List.mem_cons_self]), if_neg (by simp), hgs, splitFrom,
    if_pos (hword v List.mem_cons_self)]
  exact congrArg (List.cons name) hvs

variable {limited : Bool} {mode : Mode}

def hear (limited : Bool) (mode : Mode) (s : State) (m : Option (Text × Text)) : Option State :=
  match m with
  | none => some { s with lineNum := s.lineNum + 1 }
  | some (name, value) => store limited mode { s with lineNum := s.lineNum + 1 } name value

theorem readLine_name {s : State} {line name t : Text} {parts : List Text} (hne : name ≠ [])
    (hname : ∀ c ∈ name, isWord c) (hstrip : strip line = name ++ t)
    (hsplit : reSplit (name ++ t) = name :: parts) :
    readLine limited mode s line =
      store limited mode { s with lineNum := s.lineNum + 1 } name (parts.headD []) := by
  obtain ⟨c, cs, rfl⟩ := List.exists_cons_of_ne_nil hne
  have hc := hname c List.mem_cons_self
  have hhash : c ≠ '#' := by
    rintro rfl
    exact absurd hc (by decide)
  have hbracket : c ≠ '[' := by
    rintro rfl
    exact absurd hc (by decide)
  have hread : ¬ ((c :: cs ++ t).length = 0 ∨ (c :: cs ++ t).head? = some '#' ∨
      (c :: cs ++ t).head? = some '[') := by
    simp [hhash, hbracket]
  unfold readLine
  dsimp only
  rw [hstrip, if_neg hread, hsplit]
  cases parts <;> rfl

theorem readLine_says {line : Text} {m : Option (Text × Text)} (h : Says line m) (s : State) :
    readLine limited mode s line = hear limited mode s m := by
  cases h with
  | blank ht =>
    have hstrip : strip line = [] := by
      have hdrop := dropWhile_pad (t := []) ht
      rw [List.append_nil] at hdrop
      rw [strip, hdrop]
      rfl
    unfold readLine
    dsimp only
    rw [hstrip]
    rfl
  | @note a t c ha hc =>
    have hspace : isSpace c = false := by rcases hc with rfl | rfl <;> rfl
    have hstrip : strip (a ++ c :: t) = c :: t.rdropWhile isSpace := by
      rw [strip_pad ha hspace, rdropWhile_cons t hspace]
    unfold readLine
    dsimp only
    rw [hstrip, if_pos]
    · rfl
    · rcases hc with rfl | rfl <;> simp
  | @bare a name gap ha hne hname hgap =>
    have hspace : ∀ c ∈ name, isSpace c = false := fun c hc => not_isSpace_of_isWord (hname c hc)
    have hstrip : strip (a ++ (name ++ gap)) = name ++ gap.rdropWhile isSpace := by
      obtain ⟨c, cs, rfl⟩ := List.exists_cons_of_ne_nil hne
      rw [List.cons_append, strip_pad ha (hspace c List.mem_cons_self), ← List.cons_append,
        rdropWhile_append _ hspace]
    have hgap' : ∀ c ∈ gap.rdropWhile isSpace, isWord c = false :=
      fun c hc => hgap c ((List.rdropWhile_prefix _ _).subset hc)
    have hsplit := reSplit_bare hname hgap'
    by_cases hnil : gap.rdropWhile isSpace = []
    · rw [if_pos hnil] at hsplit
      exact readLine_name hne hname hstrip hsplit
    · rw [if_neg hnil] at hsplit
      exact readLine_name hne hname hstrip hsplit
  | @entry a name gap value b ha hne hname hgap hsep hvalue hword hb =>
    have hspace : ∀ c ∈ name, isSpace c = false := fun c hc => not_isSpace_of_isWord (hname c hc)
    have hlast : (name ++ gap ++ value).rdropWhile isSpace = name ++ gap ++ value := by
      rw [List.rdropWhile_eq_self_iff]
      intro hl
      rw [List.getLast_append_of_ne_nil _ hvalue]
      simp [not_isSpace_of_isWord (hword _ (List.getLast_mem hvalue))]
    have hstrip : strip (a ++ (name ++ gap ++ value ++ b)) = name ++ (gap ++ value) := by
      obtain ⟨c, cs, rfl⟩ := List.exists_cons_of_ne_nil hne
      have hpad := strip_pad (t := cs ++ gap ++ value ++ b) ha (hspace c List.mem_cons_self)
      have hdrop := rdropWhile_pad (c :: cs ++ gap ++ value) hb
      calc strip (a ++ (c :: cs ++ gap ++ value ++ b))
          = (c :: cs ++ gap ++ value ++ b).rdropWhile isSpace := hpad
        _ = c :: cs ++ gap ++ value := hdrop.trans hlast
        _ = c :: cs ++ (gap ++ value) := List.append_assoc _ _ _
    have hsplit := reSplit_entry hname hgap hsep hvalue hword
    rw [List.append_assoc] at hsplit
    exact readLine_name hne hname hstrip hsplit

theorem readLines_says {lines : List Text} {ms : List (Option (Text × Text))}
    (h : List.Forall₂ Says lines ms) (s : State) :
    lines.foldlM (readLine limited mode) s = ms.foldlM (hear limited mode) s := by
  induction h generalizing s with
  | nil => rfl
  | cons hline _ ih =>
    rw [List.foldlM_cons, List.foldlM_cons, readLine_says hline]
    exact congrArg _ (funext ih)

/-- A vector: the line with its count, and what the lines up to the next count say. -/
structure Record where
  count : Text
  rest : List (Option (Text × Text))

def Record.lines (r : Record) : List (Option (Text × Text)) :=
  some ("Count".toList, r.count) :: r.rest

def Record.value (r : Record) (name : Text) : Option Text :=
  (r.rest.reduceOption.reverse.find? fun e => e.1 = name).map Prod.snd

def Record.get (r : Record) (line : ℕ) (name : Text) : Option Val :=
  match r.value name with
  | some t => some (.text t)
  | none =>
    if name = "Count".toList then some (.text r.count)
    else if name = "Line".toList then some (.num line)
    else none

/-- No line after the first has one of the two names that the script keeps books with. -/
def Record.Separate (r : Record) : Prop :=
  ∀ e, some e ∈ r.rest → e.1 ≠ "Count".toList ∧ e.1 ≠ "Line".toList

theorem get_set (vars : Vars) (name name' : Text) (v : Val) :
    (vars.set name v).get name' = if name' = name then some v else vars.get name' := by
  unfold Vars.set Vars.get
  by_cases h : name' = name
  · subst h
    simp
  · have hne : ¬ name = name' := fun heq => h heq.symm
    rw [if_neg h, List.find?_cons_of_neg (by simpa using hne)]
    congr 1
    induction vars with
    | nil => rfl
    | cons e es ih =>
      by_cases he : e.1 = name
      · have hskip : ¬ e.1 = name' := by rw [he]; exact hne
        simpa [he, hskip, hne] using ih
      · by_cases hfound : e.1 = name'
        · simp [hfound, h]
        · simpa [he, hfound] using ih

/-- A plain text that is not there is empty. -/
def withPlain (get : Text → Option Val) (name : Text) : Option Val :=
  if name = "PT".toList ∧ (get name).isNone then some (.text []) else get name

theorem generateCase_get (vars : Vars) :
    generateCase limited mode vars = writeCase limited mode (withPlain vars.get) := by
  unfold generateCase
  dsimp only
  congr 1
  funext name
  unfold withPlain
  by_cases hplain : (vars.get "PT".toList).isNone
  · rw [if_pos hplain, get_set]
    by_cases hname : name = "PT".toList
    · rw [if_pos hname, if_pos ⟨hname, hname ▸ hplain⟩]
    · rw [if_neg hname, if_neg fun h => hname h.1]
  · rw [if_neg hplain, if_neg]
    rintro ⟨rfl, hnone⟩
    exact hplain hnone

def Record.text (limited : Bool) (mode : Mode) (line : ℕ) (r : Record) : Option Text :=
  writeCase limited mode (withPlain (r.get line))

def texts (limited : Bool) (mode : Mode) : ℕ → List Record → Option Text
  | _, [] => some []
  | line, r :: rs => do
    let text ← r.text limited mode (line + 1)
    let rest ← texts limited mode (line + r.lines.length) rs
    some (text ++ rest)

theorem value_append (count name' : Text) (rest : List (Option (Text × Text)))
    (m : Option (Text × Text)) : Record.value ⟨count, rest ++ [m]⟩ name' =
      match m with
      | none => Record.value ⟨count, rest⟩ name'
      | some (name, value) =>
        if name' = name then some value else Record.value ⟨count, rest⟩ name' := by
  unfold Record.value
  cases m with
  | none => simp [List.reduceOption_append]
  | some e =>
    by_cases h : name' = e.1
    · simp [List.reduceOption_append, h]
    · have hne : ¬ e.1 = name' := fun heq => h heq.symm
      simp [List.reduceOption_append, h, hne]

variable (limited mode)

theorem hear_rest {s : State} {count : Text} {rest : List (Option (Text × Text))} {line : ℕ}
    {m : Option (Text × Text)} (hs : s.vars.get = Record.get ⟨count, rest⟩ line)
    (hsep : ∀ e ∈ m, e.1 ≠ "Count".toList ∧ e.1 ≠ "Line".toList) :
    ∃ vars : Vars, hear limited mode s m = some ⟨s.lineNum + 1, vars, s.out⟩ ∧
      vars.get = Record.get ⟨count, rest ++ [m]⟩ line := by
  cases m with
  | none =>
    refine ⟨s.vars, rfl, hs.trans ?_⟩
    funext name'
    simp only [Record.get, value_append]
  | some e =>
    obtain ⟨name, value⟩ := e
    have hcount : name ≠ "Count".toList := (hsep _ rfl).1
    refine ⟨s.vars.set name (.text value), ?_, ?_⟩
    · unfold hear store
      dsimp only
      rw [if_neg hcount]
      rfl
    · funext name'
      rw [get_set, hs]
      by_cases h : name' = name
      · simp only [Record.get, value_append, if_pos h]
      · simp only [Record.get, value_append, if_neg h]

theorem hear_rests (s : State) {count : Text} (rest : List (Option (Text × Text)))
    {todo : List (Option (Text × Text))} {line : ℕ}
    (hs : s.vars.get = Record.get ⟨count, rest⟩ line)
    (hsep : ∀ e, some e ∈ todo → e.1 ≠ "Count".toList ∧ e.1 ≠ "Line".toList) :
    ∃ vars : Vars, todo.foldlM (hear limited mode) s =
        some ⟨s.lineNum + todo.length, vars, s.out⟩ ∧
      vars.get = Record.get ⟨count, rest ++ todo⟩ line := by
  induction todo generalizing s rest with
  | nil =>
    refine ⟨s.vars, rfl, ?_⟩
    rw [List.append_nil, hs]
  | cons m ms ih =>
    have hm : ∀ e ∈ m, e.1 ≠ "Count".toList ∧ e.1 ≠ "Line".toList := by
      rintro e rfl
      exact hsep e List.mem_cons_self
    have hms : ∀ e, some e ∈ ms → e.1 ≠ "Count".toList ∧ e.1 ≠ "Line".toList :=
      fun e he => hsep e (List.mem_cons_of_mem m he)
    obtain ⟨vars, hhear, hget⟩ := hear_rest limited mode hs hm
    obtain ⟨vars', hfold, hget'⟩ := ih ⟨s.lineNum + 1, vars, s.out⟩ (rest ++ [m]) hget hms
    refine ⟨vars', ?_, ?_⟩
    · rw [List.foldlM_cons, hhear]
      refine hfold.trans ?_
      simp only [List.length_cons, Nat.add_assoc, Nat.add_comm 1]
    · rw [hget', List.append_assoc, List.singleton_append]

theorem get_begin (count : Text) (line : ℕ) :
    ((Vars.set [] "Line".toList (.num line)).set "Count".toList (.text count)).get =
      Record.get ⟨count, []⟩ line := by
  funext name
  rw [get_set, get_set]
  rfl

theorem name_of_singleton {e : Text × Val} {name : Text} (h : (Vars.get [e] name).isSome) :
    e.1 = name := by
  by_contra hne
  rw [Vars.get, List.find?_cons_of_neg (by simpa using hne)] at h
  cases h

theorem one_lt_length {vars : Vars} {r : Record} {line : ℕ} (h : vars.get = r.get line) :
    1 < vars.length := by
  have hcount : (vars.get "Count".toList).isSome := by
    rw [h]
    unfold Record.get
    split <;> simp
  have hline : (vars.get "Line".toList).isSome := by
    rw [h]
    unfold Record.get
    split <;> simp
  have hne : "Count".toList ≠ "Line".toList := by decide
  rcases vars with _ | ⟨e, _ | ⟨e', es⟩⟩
  · cases hcount
  · exact absurd ((name_of_singleton hcount).symm.trans (name_of_singleton hline)) hne
  · simp

theorem startVector_pending (s : State) {r : Record} {line : ℕ} (h : s.vars.get = r.get line) :
    startVector limited mode s =
      (r.text limited mode line).map fun text => ⟨s.lineNum, [], s.out ++ text⟩ := by
  rw [startVector, if_pos (one_lt_length h), generateCase_get, h]
  rfl

theorem hear_count (s : State) (count : Text) :
    hear limited mode s (some ("Count".toList, count)) =
      (startVector limited mode { s with lineNum := s.lineNum + 1 }).map fun s =>
        ⟨s.lineNum, (s.vars.set "Line".toList (.num s.lineNum)).set "Count".toList (.text count),
          s.out⟩ := by
  unfold hear store
  dsimp only
  rw [if_pos rfl]
  cases startVector limited mode { s with lineNum := s.lineNum + 1 } <;> rfl

theorem hear_record (s : State) (r : Record) (hr : r.Separate) (hs : s.vars = []) :
    ∃ vars : Vars, r.lines.foldlM (hear limited mode) s =
        some ⟨s.lineNum + r.lines.length, vars, s.out⟩ ∧
      vars.get = r.get (s.lineNum + 1) := by
  obtain ⟨count, rest⟩ := r
  obtain ⟨vars, hfold, hget⟩ := hear_rests limited mode ⟨s.lineNum + 1, _, s.out⟩ []
    (get_begin count (s.lineNum + 1)) hr
  refine ⟨vars, ?_, hget⟩
  have hstart : startVector limited mode ⟨s.lineNum + 1, [], s.out⟩ =
      some ⟨s.lineNum + 1, [], s.out⟩ := rfl
  rw [Record.lines, List.foldlM_cons, hear_count limited mode s, hs, hstart]
  refine hfold.trans ?_
  simp only [List.length_cons, Nat.add_assoc, Nat.add_comm 1]

/-- The count of the next vector writes the case of the open one first. -/
theorem fold_pending {s : State} {r : Record} {line : ℕ} (r' : Record)
    (hs : s.vars.get = r.get line) :
    r'.lines.foldlM (hear limited mode) s =
      (r.text limited mode line).bind fun text =>
        r'.lines.foldlM (hear limited mode) ⟨s.lineNum, [], s.out ++ text⟩ := by
  have hstart := startVector_pending limited mode { s with lineNum := s.lineNum + 1 } hs
  rw [Record.lines, List.foldlM_cons, hear_count, hstart]
  cases r.text limited mode line with
  | none => rfl
  | some text => rfl

/-- Reading on with an open vector writes its case and those of all that follow. -/
theorem run_pending (rs : List Record) (hrs : ∀ r ∈ rs, r.Separate) (s : State) (r : Record)
    (line : ℕ) (hs : s.vars.get = r.get line) :
    ((rs.flatMap Record.lines).foldlM (hear limited mode) s).bind (finish limited mode) =
      (r.text limited mode line).bind fun text =>
        (texts limited mode s.lineNum rs).map fun rest => s.out ++ (text ++ rest) := by
  induction rs generalizing s r line with
  | nil =>
    have hfinish : ((([] : List Record).flatMap Record.lines).foldlM (hear limited mode) s).bind
        (finish limited mode) = finish limited mode s := rfl
    rw [hfinish, finish, startVector_pending limited mode s hs, Option.map_map]
    cases r.text limited mode line with
    | none => rfl
    | some text => simp [texts]
  | cons r' rs ih =>
    have hr' := hrs r' List.mem_cons_self
    have hrs' : ∀ r ∈ rs, r.Separate := fun r hr => hrs r (List.mem_cons_of_mem r' hr)
    rw [List.flatMap_cons, List.foldlM_append, fold_pending limited mode r' hs]
    cases htext : r.text limited mode line with
    | none => rfl
    | some text =>
      obtain ⟨vars, hfold, hget⟩ := hear_record limited mode
        ⟨s.lineNum, [], s.out ++ text⟩ r' hr' rfl
      have hnext := ih hrs' ⟨s.lineNum + r'.lines.length, vars, s.out ++ text⟩ r' _ hget
      rw [Option.bind_some, hfold]
      refine hnext.trans ?_
      rw [texts]
      cases r'.text limited mode (s.lineNum + 1) with
      | none => rfl
      | some text' =>
        cases texts limited mode (s.lineNum + r'.lines.length) rs with
        | none => rfl
        | some rest => simp

/-- A file of which each line says something is read vector by vector. -/
theorem main_texts {lines : List Text} {skipped : ℕ} {rs : List Record}
    (hlines : List.Forall₂ Says lines (List.replicate skipped none ++ rs.flatMap Record.lines))
    (hrs : ∀ r ∈ rs, r.Separate) : main limited mode lines = texts limited mode skipped rs := by
  have hnotes : ∀ k n, (List.replicate n none).foldlM (hear limited mode) ⟨k, [], []⟩ =
      some ⟨k + n, [], []⟩ := by
    intro k n
    induction n generalizing k with
    | zero => rfl
    | succ n ih =>
      rw [List.replicate_succ, List.foldlM_cons]
      exact (ih (k + 1)).trans (by rw [Nat.add_assoc, Nat.add_comm 1])
  rw [main, readLines_says hlines, List.foldlM_append, hnotes, Nat.zero_add, Option.bind_eq_bind,
    Option.bind_some]
  cases rs with
  | nil => rfl
  | cons r rs =>
    obtain ⟨vars, hfold, hget⟩ := hear_record limited mode ⟨skipped, [], []⟩ r
      (hrs r List.mem_cons_self) rfl
    have hrun := run_pending limited mode rs
      (fun r' hr' => hrs r' (List.mem_cons_of_mem r hr')) ⟨skipped + r.lines.length, vars, []⟩ r
      (skipped + 1) hget
    rw [List.flatMap_cons, List.foldlM_append, hfold]
    refine hrun.trans ?_
    rw [texts]
    cases r.text limited mode (skipped + 1) with
    | none => rfl
    | some text => cases texts limited mode (skipped + r.lines.length) rs <;> rfl

structure Octets where
  key : List UInt8
  iv : List UInt8
  aad : List UInt8
  pt : List UInt8
  ct : List UInt8
  tag : List UInt8
  deriving DecidableEq, Repr

structure GcmCase where
  mode : Mode
  octets : Octets
  line : ℕ
  deriving DecidableEq, Repr

def Record.octets (r : Record) : Option Octets := do
  let key ← (r.value "Key".toList).bind readHex
  let iv ← (r.value "IV".toList).bind readHex
  let aad ← (r.value "AAD".toList).bind readHex
  let pt ← readHex ((r.value "PT".toList).getD [])
  let ct ← (r.value "CT".toList).bind readHex
  let tag ← (r.value "Tag".toList).bind readHex
  some ⟨key, iv, aad, pt, ct, tag⟩

/-- The vectors that become cases: they do not fail, come first in a group when only those are
asked for, and have a tag of at least 96 bits. -/
def Record.taken (limited : Bool) (r : Record) (o : Octets) : Bool :=
  (r.value "FAIL".toList).isNone && (!limited || r.count = "0".toList) && 12 ≤ o.tag.length

def casesOf (limited : Bool) (mode : Mode) : ℕ → List Record → List GcmCase
  | _, [] => []
  | line, r :: rs =>
    ((r.octets.filter (r.taken limited)).map fun o => ⟨mode, o, line + 1⟩).toList ++
      casesOf limited mode (line + r.lines.length) rs

def readMode (t : Text) : Option Mode :=
  if t = modeText .encrypt then some .encrypt
  else if t = modeText .decrypt then some .decrypt
  else none

def openTokens : List Token := [.mark '\x7b', word "TEE_ALG_AES_GCM", .mark ',']

def typeTokens : List Token := [.mark ',', word "TEE_TYPE_AES", .mark ',']

def zeroTokens : List Token := [word "0", .mark ',']

def endTokens : List Token := [.mark '\x7d', .mark ',']

def nullTokens : List Token := [word "NULL", .mark ',', word "0", .mark ',']

def castTokens : List Token :=
  [.mark '(', word "const", word "uint8_t", .mark '[', .mark ']', .mark ')', .mark '\x7b']

def closeTokens (n : ℕ) : List Token :=
  [.mark '\x7d', .mark ',', .word (decimal n), .mark ',']

/-- A pointer and a size: none, or an array with its number of bytes. -/
def readOctets (ts : List Token) : Option (List UInt8 × List Token) :=
  match expect nullTokens ts with
  | some ts => some ([], ts)
  | none => do
    let ts ← expect castTokens ts
    let bytes := (readElements ts).1
    let ts ← expect (closeTokens bytes.length) (readElements ts).2
    some (bytes, ts)

def readCase (ts : List Token) : Option (GcmCase × List Token) := do
  let ts ← expect openTokens ts
  let (m, ts) ← readWord ts
  let mode ← readMode m
  let ts ← expect typeTokens ts
  let (key, ts) ← readOctets ts
  let (iv, ts) ← readOctets ts
  let ts ← expect zeroTokens ts
  let (aad, ts) ← readOctets ts
  let ts ← expect zeroTokens ts
  let (pt, ts) ← readOctets ts
  let (ct, ts) ← readOctets ts
  let (tag, ts) ← readOctets ts
  let (n, ts) ← readWord ts
  let line ← readNumber (.word n)
  let ts ← expect endTokens ts
  some (⟨mode, ⟨key, iv, aad, pt, ct, tag⟩, line⟩, ts)

def readCases : ℕ → List Token → Option (List GcmCase)
  | _, [] => some []
  | 0, _ :: _ => none
  | n + 1, t :: ts => match readCase (t :: ts) with
    | some (c, rest) => (readCases n rest).map (c :: ·)
    | none => none

def readTable (text : Text) : Option (List GcmCase) :=
  readCases (tokens text).length (tokens text)

def elementTokens : Text → List Token
  | a :: b :: t => byteToken a b :: .mark ',' :: elementTokens t
  | _ => []

def octetTokens (val : Text) : List Token :=
  if val = [] then nullTokens
  else castTokens ++ (elementTokens val ++ closeTokens (val.length / 2))

theorem readHex_cons {a b : Char} {t : Text} {bytes : List UInt8}
    (h : readHex (a :: b :: t) = some bytes) :
    ∃ x xs, hexByte a b = some x ∧ readHex t = some xs ∧ bytes = x :: xs := by
  rw [readHex] at h
  split at h
  · next x xs hx hxs => exact ⟨x, xs, hx, hxs, (Option.some.inj h).symm⟩
  · cases h

theorem elements_scans {val : Text} {bytes : List UInt8} (h : readHex val = some bytes) :
    Scans (elements val) (elementTokens val) := by
  induction val using List.twoStepInduction generalizing bytes with
  | nil => exact scans_nil
  | singleton c => exact scans_nil
  | cons_cons a b t ih =>
    obtain ⟨x, xs, hx, hxs, rfl⟩ := readHex_cons h
    have hblank : Scans " ".toList [] := rfl
    have helement := (scans_element hx).append hblank
    exact helement.append (ih hxs)

theorem readElements_tokens {val : Text} {bytes : List UInt8} {ts : List Token}
    (h : readHex val = some bytes) (hts : readElements ts = ([], ts)) :
    readElements (elementTokens val ++ ts) = (bytes, ts) := by
  induction val using List.twoStepInduction generalizing bytes with
  | nil =>
    obtain rfl := Option.some.inj h
    exact hts
  | singleton c => cases h
  | cons_cons a b t ih =>
    obtain ⟨x, xs, hx, hxs, rfl⟩ := readHex_cons h
    rw [elementTokens, List.cons_append, List.cons_append, readElements_cons hx, ih hxs]

theorem length_readHex {val : Text} {bytes : List UInt8} (h : readHex val = some bytes) :
    val.length = 2 * bytes.length := by
  induction val using List.twoStepInduction generalizing bytes with
  | nil =>
    obtain rfl := Option.some.inj h
    rfl
  | singleton c => cases h
  | cons_cons a b t ih =>
    obtain ⟨x, xs, hx, hxs, rfl⟩ := readHex_cons h
    have hlen := ih hxs
    simp only [List.length_cons]
    omega

theorem toCompoundStr_scans {val : Text} {bytes : List UInt8} (h : readHex val = some bytes) :
    ∃ text, toCompoundStr val = some text ∧ Scans text (octetTokens val) := by
  have hlen := length_readHex h
  by_cases hval : val = []
  · subst hval
    exact ⟨_, rfl, rfl⟩
  · have hpos : 0 < val.length := List.length_pos_iff.mpr hval
    have hcast : Scans "(const uint8_t [])\x7b".toList castTokens := rfl
    have hclose : Scans "\x7d, ".toList [.mark '\x7d', .mark ','] := rfl
    have hsize := scans_word (c := ',') (decimal_ne_nil (val.length / 2))
      (fun c hc => isWord_of_isDigit (isDigit_of_mem_decimal hc)) rfl rfl
    refine ⟨"(const uint8_t [])\x7b".toList ++ elements val ++
      ("\x7d, ".toList ++ decimal (val.length / 2) ++ ",".toList), ?_, ?_⟩
    · unfold toCompoundStr
      rw [if_neg (by omega), if_pos hpos]
    · rw [octetTokens, if_neg hval]
      have hall := (hcast.append (elements_scans h)).append (hclose.append hsize)
      rw [List.append_assoc castTokens] at hall
      exact hall

theorem readOctets_tokens {val : Text} {bytes : List UInt8} (h : readHex val = some bytes)
    (ts : List Token) : readOctets (octetTokens val ++ ts) = some (bytes, ts) := by
  have hlen := length_readHex h
  unfold readOctets
  by_cases hval : val = []
  · subst hval
    obtain rfl := Option.some.inj h
    rw [octetTokens, if_pos rfl, expect_append]
  · have hbytes : val.length / 2 = bytes.length := by omega
    have hnull : ∀ us, expect nullTokens (castTokens ++ us) = none := fun _ => rfl
    have hclose : ∀ n us, readElements (closeTokens n ++ us) = ([], closeTokens n ++ us) :=
      fun _ _ => rfl
    rw [octetTokens, if_neg hval, hbytes, List.append_assoc, hnull]
    dsimp only
    rw [expect_append, List.append_assoc, Option.bind_eq_bind, Option.bind_some,
      readElements_tokens h (hclose _ _), expect_append]
    rfl

def caseTokens (mode : Mode) (key iv aad pt ct tag : Text) (line : ℕ) : List Token :=
  openTokens ++ .word (modeText mode) :: (typeTokens ++ (octetTokens key ++ (octetTokens iv ++
    (zeroTokens ++ (octetTokens aad ++ (zeroTokens ++ (octetTokens pt ++ (octetTokens ct ++
      (octetTokens tag ++ .word (decimal line) :: endTokens)))))))))

theorem bind_found {α β : Type} {x : Option α} {a : α} (h : x = some a) (f : α → Option β) :
    (x >>= f) = f a := by
  rw [h]
  rfl

theorem readMode_modeText (mode : Mode) : readMode (modeText mode) = some mode := by
  cases mode <;> rfl

theorem readCase_tokens {mode : Mode} {key iv aad pt ct tag : Text} {o : Octets} {line : ℕ}
    (hkey : readHex key = some o.key) (hiv : readHex iv = some o.iv)
    (haad : readHex aad = some o.aad) (hpt : readHex pt = some o.pt)
    (hct : readHex ct = some o.ct) (htag : readHex tag = some o.tag) (ts : List Token) :
    readCase (caseTokens mode key iv aad pt ct tag line ++ ts) = some (⟨mode, o, line⟩, ts) := by
  simp only [caseTokens, List.append_assoc, List.cons_append]
  refine (bind_found (expect_append _ _) _).trans ?_
  refine (bind_found (readWord_word _ _) _).trans ?_
  refine (bind_found (readMode_modeText mode) _).trans ?_
  refine (bind_found (expect_append _ _) _).trans ?_
  refine (bind_found (readOctets_tokens hkey _) _).trans ?_
  refine (bind_found (readOctets_tokens hiv _) _).trans ?_
  refine (bind_found (expect_append _ _) _).trans ?_
  refine (bind_found (readOctets_tokens haad _) _).trans ?_
  refine (bind_found (expect_append _ _) _).trans ?_
  refine (bind_found (readOctets_tokens hpt _) _).trans ?_
  refine (bind_found (readOctets_tokens hct _) _).trans ?_
  refine (bind_found (readOctets_tokens htag _) _).trans ?_
  refine (bind_found (readWord_word _ _) _).trans ?_
  refine (bind_found (readNumber_decimal line) _).trans ?_
  exact bind_found (expect_append _ _) _

structure Spelled (r : Record) (key iv aad pt ct tag : Text) (o : Octets) : Prop where
  hasKey : r.value "Key".toList = some key
  hasIv : r.value "IV".toList = some iv
  hasAad : r.value "AAD".toList = some aad
  hasPt : (r.value "PT".toList).getD [] = pt
  hasCt : r.value "CT".toList = some ct
  hasTag : r.value "Tag".toList = some tag
  readKey : readHex key = some o.key
  readIv : readHex iv = some o.iv
  readAad : readHex aad = some o.aad
  readPt : readHex pt = some o.pt
  readCt : readHex ct = some o.ct
  readTag : readHex tag = some o.tag

theorem spelled {r : Record} {o : Octets} (h : r.octets = some o) :
    ∃ key iv aad pt ct tag, Spelled r key iv aad pt ct tag o := by
  unfold Record.octets at h
  simp only [Option.bind_eq_bind, Option.bind_eq_some_iff] at h
  obtain ⟨_, ⟨key, hkey, hkey'⟩, _, ⟨iv, hiv, hiv'⟩, _, ⟨aad, haad, haad'⟩, _, hpt, _,
    ⟨ct, hct, hct'⟩, _, ⟨tag, htag, htag'⟩, ho⟩ := h
  obtain rfl := Option.some.inj ho
  exact ⟨key, iv, aad, _, ct, tag,
    ⟨hkey, hiv, haad, rfl, hct, htag, hkey', hiv', haad', hpt, hct', htag'⟩⟩

theorem get_value {r : Record} (line : ℕ) {name t : Text} (h : r.value name = some t) :
    withPlain (r.get line) name = some (.text t) := by
  have hget : r.get line name = some (.text t) := by simp only [Record.get, h]
  unfold withPlain
  rw [hget, if_neg (by simp)]

theorem get_plain (r : Record) (line : ℕ) :
    withPlain (r.get line) "PT".toList = some (.text ((r.value "PT".toList).getD [])) := by
  cases h : r.value "PT".toList with
  | some t => exact get_value line h
  | none =>
    have hget : r.get line "PT".toList = none := by
      simp only [Record.get, h]
      rfl
    unfold withPlain
    rw [hget]
    rfl

theorem value_separate {r : Record} (hr : r.Separate) :
    r.value "Count".toList = none ∧ r.value "Line".toList = none := by
  have hnone : ∀ name, (∀ e, some e ∈ r.rest → e.1 ≠ name) → r.value name = none := by
    intro name h
    unfold Record.value
    rw [Option.map_eq_none_iff, List.find?_eq_none]
    intro e he
    rw [List.mem_reverse, List.reduceOption_mem_iff] at he
    simpa using h e he
  exact ⟨hnone _ fun e he => (hr e he).1, hnone _ fun e he => (hr e he).2⟩

theorem get_count {r : Record} (hr : r.Separate) (line : ℕ) :
    withPlain (r.get line) "Count".toList = some (.text r.count) := by
  have hget : r.get line "Count".toList = some (.text r.count) := by
    simp only [Record.get, (value_separate hr).1]
    rfl
  unfold withPlain
  rw [hget]
  rfl

theorem get_line {r : Record} (hr : r.Separate) (line : ℕ) :
    withPlain (r.get line) "Line".toList = some (.num line) := by
  have hget : r.get line "Line".toList = some (.num line) := by
    simp only [Record.get, (value_separate hr).2]
    rfl
  unfold withPlain
  rw [hget]
  rfl

theorem get_fail (r : Record) (line : ℕ) :
    (withPlain (r.get line) "FAIL".toList).isSome = (r.value "FAIL".toList).isSome := by
  cases h : r.value "FAIL".toList with
  | some t =>
    rw [get_value line h]
    rfl
  | none =>
    have hget : r.get line "FAIL".toList = none := by
      simp only [Record.get, h]
      rfl
    unfold withPlain
    rw [hget]
    rfl

theorem field_scans {text : Text} {ts : List Token} (note : Text) (hnote : Scans note [])
    (htext : Scans text ts) : Scans (note ++ text ++ "\n".toList) ts := by
  have hend : Scans "\n".toList [] := rfl
  have hall := (hnote.append htext).append hend
  rwa [List.append_nil] at hall

theorem head_scans (mode : Mode) :
    Scans ("\x7b TEE_ALG_AES_GCM, ".toList ++ modeText mode ++ ", TEE_TYPE_AES,\n".toList)
      (openTokens ++ .word (modeText mode) :: typeTokens) := by
  have hopen : Scans "\x7b TEE_ALG_AES_GCM, ".toList openTokens := rfl
  have htype : Scans (modeText mode ++ ", TEE_TYPE_AES,\n".toList)
      (.word (modeText mode) :: typeTokens) := by
    cases mode <;> rfl
  rw [List.append_assoc]
  exact hopen.append htype

theorem compound_scans {get : Text → Option Val} {name val : Text} {bytes : List UInt8}
    (hget : get name = some (.text val)) (h : readHex val = some bytes) :
    ∃ text, compound (get name) = some text ∧ Scans text (octetTokens val) := by
  obtain ⟨text, htext, hscans⟩ := toCompoundStr_scans h
  exact ⟨text, by rw [hget]; exact htext, hscans⟩

structure Row (ts : List Token) (c : GcmCase) : Prop where
  ne_nil : ts ≠ []
  reads : ∀ us, readCase (ts ++ us) = some (c, us)

theorem rowText_scans {key iv aad pt ct tag tKey tIv tAad tPt tCt tTag : Text} (line : ℕ)
    (hkey : Scans tKey (octetTokens key)) (hiv : Scans tIv (octetTokens iv))
    (haad : Scans tAad (octetTokens aad)) (hpt : Scans tPt (octetTokens pt))
    (hct : Scans tCt (octetTokens ct)) (htag : Scans tTag (octetTokens tag)) :
    Scans (rowText mode tKey tIv tAad tPt tCt tTag (decimal line))
      (caseTokens mode key iv aad pt ct tag line) := by
  have hzero : Scans "0,\n".toList zeroTokens := rfl
  have hword : Scans (decimal line ++ ['\x7d']) [.word (decimal line), .mark '\x7d'] :=
    scans_word (decimal_ne_nil line) (fun c hc => isWord_of_isDigit (isDigit_of_mem_decimal hc))
      rfl rfl
  have hcomma : Scans ",\n".toList [.mark ','] := rfl
  have hline := hword.append hcomma
  rw [List.append_assoc] at hline
  have hall := (((((((((head_scans mode).append (field_scans "/* Key */ ".toList rfl
    hkey)).append (field_scans "/* IV  */ ".toList rfl hiv)).append hzero).append
    (field_scans "/* AAD */ ".toList rfl haad)).append hzero).append
    (field_scans "/* PT  */ ".toList rfl hpt)).append
    (field_scans "/* CT  */ ".toList rfl hct)).append
    (field_scans "/* Tag */ ".toList rfl htag)).append hline
  have htokens : caseTokens mode key iv aad pt ct tag line = openTokens ++
      .word (modeText mode) :: typeTokens ++ octetTokens key ++ octetTokens iv ++ zeroTokens ++
      octetTokens aad ++ zeroTokens ++ octetTokens pt ++ octetTokens ct ++ octetTokens tag ++
      ([.word (decimal line), .mark '\x7d'] ++ [.mark ',']) := by
    simp only [caseTokens, endTokens, List.append_assoc, List.cons_append, List.nil_append]
  rw [htokens]
  exact hall

theorem row_scans {r : Record} (hr : r.Separate) {o : Octets} (ho : r.octets = some o)
    (line : ℕ) : ∃ text ts, writeRow mode (withPlain (r.get line)) = some text ∧ Scans text ts ∧
      Row ts ⟨mode, o, line⟩ := by
  obtain ⟨key, iv, aad, pt, ct, tag, h⟩ := spelled ho
  have hplain : withPlain (r.get line) "PT".toList = some (.text pt) := h.hasPt ▸ get_plain r line
  obtain ⟨tKey, hkey, hkey'⟩ := compound_scans (get_value line h.hasKey) h.readKey
  obtain ⟨tIv, hiv, hiv'⟩ := compound_scans (get_value line h.hasIv) h.readIv
  obtain ⟨tAad, haad, haad'⟩ := compound_scans (get_value line h.hasAad) h.readAad
  obtain ⟨tPt, hpt, hpt'⟩ := compound_scans hplain h.readPt
  obtain ⟨tCt, hct, hct'⟩ := compound_scans (get_value line h.hasCt) h.readCt
  obtain ⟨tTag, htag, htag'⟩ := compound_scans (get_value line h.hasTag) h.readTag
  refine ⟨rowText mode tKey tIv tAad tPt tCt tTag (decimal line),
    caseTokens mode key iv aad pt ct tag line, ?_,
    rowText_scans mode line hkey' hiv' haad' hpt' hct' htag', ?_, ?_⟩
  · unfold writeRow
    rw [hkey, hiv, haad, hpt, hct, htag, get_line hr]
    rfl
  · exact List.append_ne_nil_of_left_ne_nil (List.cons_ne_nil _ _) _
  · exact readCase_tokens h.readKey h.readIv h.readAad h.readPt h.readCt h.readTag

theorem text_scans {r : Record} (hr : r.Separate) {o : Octets} (ho : r.octets = some o)
    (line : ℕ) : ∃ text ts, r.text limited mode line = some text ∧ Scans text ts ∧
      if r.taken limited o then Row ts ⟨mode, o, line⟩ else ts = [] := by
  obtain ⟨key, iv, aad, pt, ct, tag, h⟩ := spelled ho
  have htag : textOf (withPlain (r.get line) "Tag".toList) = some tag := by
    rw [get_value line h.hasTag]
    rfl
  have hlen := length_readHex h.readTag
  have hlater : later limited (withPlain (r.get line)) =
      some (limited && !decide (r.count = "0".toList)) := by
    unfold later
    rw [get_count hr]
    cases limited <;> simp
  unfold Record.text writeCase Record.taken
  rw [get_fail, hlater, htag, Option.bind_some, Option.bind_some]
  cases hfail : r.value "FAIL".toList with
  | some t => exact ⟨[], [], rfl, scans_nil, rfl⟩
  | none =>
    by_cases hfirst : (limited && !decide (r.count = "0".toList)) = true
    · have hnot : (!limited || decide (r.count = "0".toList)) = false := by
        simpa using hfirst
      refine ⟨[], [], ?_, scans_nil, ?_⟩
      · rw [if_pos hfirst]
        rfl
      · rw [hnot]
        rfl
    · have hyes : (!limited || decide (r.count = "0".toList)) = true := by
        cases limited with
        | false => rfl
        | true => simpa using hfirst
      rw [if_neg hfirst, hyes]
      by_cases hshort : tag.length / 2 < 96 / 8
      · rw [if_pos hshort]
        refine ⟨[], [], rfl, scans_nil, ?_⟩
        rw [if_neg]
        simp
        omega
      · rw [if_neg hshort]
        obtain ⟨text, ts, htext, hscans, hrow⟩ := row_scans mode hr ho line
        refine ⟨text, ts, htext, hscans, ?_⟩
        rw [if_pos]
        · exact hrow
        · simp
          omega

inductive Rows : List Token → List GcmCase → Prop
  | nil : Rows [] []
  | cons {ts us : List Token} {c : GcmCase} {cs : List GcmCase} (hrow : Row ts c)
      (hrows : Rows us cs) : Rows (ts ++ us) (c :: cs)

theorem readCases_rows {ts : List Token} {cs : List GcmCase} (h : Rows ts cs) {n : ℕ}
    (hn : ts.length ≤ n) : readCases n ts = some cs := by
  induction h generalizing n with
  | nil => cases n <;> rfl
  | @cons ts us c cs hrow _ ih =>
    obtain ⟨t, ts, rfl⟩ := List.exists_cons_of_ne_nil hrow.ne_nil
    rw [List.length_append, List.length_cons] at hn
    cases n with
    | zero => omega
    | succ n =>
      have hread := hrow.reads us
      rw [List.cons_append] at hread ⊢
      rw [readCases, hread]
      dsimp only
      rw [ih (by omega)]
      rfl

theorem octets_none_fail {r : Record} {t : Text} (h : r.value "FAIL".toList = some t) (line : ℕ) :
    r.text limited mode line = some [] := by
  unfold Record.text writeCase
  rw [get_fail, h]
  rfl

/-- What the script asks of a vector that is not marked to fail. -/
def Record.Readable (r : Record) : Prop :=
  (r.value "FAIL".toList).isSome ∨ r.octets.isSome

theorem text_rows {r : Record} (hr : r.Separate) (hread : r.Readable) (line : ℕ) :
    ∃ text ts, r.text limited mode line = some text ∧ Scans text ts ∧
      ∀ us cs, Rows us cs → Rows (ts ++ us)
        (((r.octets.filter (r.taken limited)).map fun o => ⟨mode, o, line⟩).toList ++ cs) := by
  cases ho : r.octets with
  | some o =>
    obtain ⟨text, ts, htext, hscans, hrow⟩ := text_scans limited mode hr ho line
    refine ⟨text, ts, htext, hscans, fun us cs hrows => ?_⟩
    cases htaken : r.taken limited o with
    | true =>
      rw [htaken, if_pos rfl] at hrow
      rw [Option.filter_some_pos htaken]
      exact Rows.cons hrow hrows
    | false =>
      rw [htaken, if_neg Bool.false_ne_true] at hrow
      rw [Option.filter_some_neg (by simp [htaken]), hrow]
      exact hrows
  | none =>
    obtain ⟨t, ht⟩ := Option.isSome_iff_exists.mp (hread.resolve_right (by simp [ho]))
    exact ⟨[], [], octets_none_fail limited mode ht line, scans_nil, fun _ _ hrows => hrows⟩

theorem texts_rows (rs : List Record) (hrs : ∀ r ∈ rs, r.Separate ∧ r.Readable) (line : ℕ) :
    ∃ text ts, texts limited mode line rs = some text ∧ Scans text ts ∧
      Rows ts (casesOf limited mode line rs) := by
  induction rs generalizing line with
  | nil => exact ⟨[], [], rfl, scans_nil, Rows.nil⟩
  | cons r rs ih =>
    obtain ⟨hr, hread⟩ := hrs r List.mem_cons_self
    obtain ⟨text, ts, htext, hscans, hrow⟩ := text_rows limited mode hr hread (line + 1)
    obtain ⟨text', ts', htext', hscans', hrows⟩ :=
      ih (fun r' hr' => hrs r' (List.mem_cons_of_mem r hr')) (line + r.lines.length)
    refine ⟨text ++ text', ts ++ ts', ?_, hscans.append hscans', hrow _ _ hrows⟩
    rw [texts, htext, htext']
    rfl

/-- The table that is written for a file of vectors has just the cases of those that are taken, in
their order, with all their bytes and the lines that they begin in. -/
theorem readTable_main (lines : List Text) (skipped : ℕ) (rs : List Record)
    (hlines : List.Forall₂ Says lines (List.replicate skipped none ++ rs.flatMap Record.lines))
    (hrs : ∀ r ∈ rs, r.Separate ∧ r.Readable) :
    ∃ text, main limited mode lines = some text ∧
      readTable text = some (casesOf limited mode skipped rs) := by
  obtain ⟨text, ts, htext, hscans, hrows⟩ := texts_rows limited mode rs hrs skipped
  refine ⟨text, ?_, ?_⟩
  · rw [main_texts limited mode hlines fun r hr => (hrs r hr).1, htext]
  · rw [readTable, hscans.tokens_eq]
    exact readCases_rows hrows le_rfl

instance (r : Record) : Decidable r.Separate :=
  decidable_of_iff (∀ m ∈ r.rest, ∀ e ∈ m, e.1 ≠ "Count".toList ∧ e.1 ≠ "Line".toList)
    ⟨fun h e he => h _ he e rfl, fun h _ hm e he => h e (he ▸ hm)⟩

instance (r : Record) : Decidable r.Readable := inferInstanceAs (Decidable (_ ∨ _))

def entryLine (e : String × String) : Text :=
  [] ++ (e.1.toList ++ " = ".toList ++ e.2.toList ++ "\n".toList)

def entryOf (e : String × String) : Option (Text × Text) := some (e.1.toList, e.2.toList)

theorem entryLines_say (es : List (String × String))
    (h : ∀ e ∈ es, (e.1.toList ≠ [] ∧ e.1.toList.all isWord) ∧
      e.2.toList ≠ [] ∧ e.2.toList.all isWord) :
    List.Forall₂ Says (es.map entryLine) (es.map entryOf) := by
  rw [List.forall₂_map_left_iff, List.forall₂_map_right_iff, List.forall₂_same]
  intro e he
  obtain ⟨⟨hne, hname⟩, hvalue, hword⟩ := h e he
  have hgap : " = ".toList.all (fun c => !isWord c) = true := rfl
  have hend : "\n".toList.all isSpace = true := rfl
  exact Says.entry (by simp) hne (List.all_eq_true.mp hname) (by decide)
    (fun c hc => by simpa using List.all_eq_true.mp hgap c hc) hvalue
    (List.all_eq_true.mp hword) (List.all_eq_true.mp hend)

def sampleFields : List (String × String) :=
  [("Key", "0aFf"), ("IV", "01"), ("CT", "22"), ("AAD", "7f80"),
    ("Tag", "000102030405060708090a0b")]

def sampleLines : List Text :=
  "# a note\n".toList :: ((("Count", "0") :: sampleFields).map entryLine ++
    (entryLine ("Count", "1") :: ["FAIL\n".toList]))

def sampleRecords : List Record :=
  [⟨"0".toList, sampleFields.map entryOf⟩, ⟨"1".toList, [some ("FAIL".toList, [])]⟩]

theorem readTable_sample : ∃ text, main true .decrypt sampleLines = some text ∧
    readTable text = some [⟨.decrypt, ⟨[0x0a, 0xff], [1], [0x7f, 0x80], [], [0x22],
      [0, 1, 2, 3, 4, 5, 6, 7, 8, 9, 10, 11]⟩, 2⟩] := by
  have hnote : Says "# a note\n".toList none := Says.note (a := []) (by simp) (Or.inl rfl)
  have hname : ∀ c ∈ "FAIL".toList, isWord c := List.all_eq_true.mp rfl
  have hgap : ∀ c ∈ "\n".toList, isWord c = false := fun c hc => List.mem_singleton.mp hc ▸ rfl
  have hfail : Says "FAIL\n".toList (some ("FAIL".toList, [])) :=
    Says.bare (a := []) (by simp) (by decide) hname hgap
  have hfirst := entryLines_say (("Count", "0") :: sampleFields) (by decide)
  have hsecond := entryLines_say [("Count", "1")] (by decide)
  have hlines : List.Forall₂ Says sampleLines
      (List.replicate 1 none ++ sampleRecords.flatMap Record.lines) :=
    .cons hnote (List.rel_append hfirst (List.rel_append hsecond (.cons hfail .nil)))
  exact readTable_main true .decrypt sampleLines 1 sampleRecords hlines (by decide)

end RspToGcm
