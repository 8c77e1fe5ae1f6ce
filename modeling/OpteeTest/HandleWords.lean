import OpteeTest.ArithTaf

/-! # Handle words and the objects behind them

The log tells which words are live and for which objects. A word is mistyped when it puts
another type on the index of a live object. -/
namespace HandleWords

open TeeApi HandleDatabase ArithTaf

structure LiveWord where
  type : HandleType
  word : UInt32
  ptr : ℕ
  deriving DecidableEq, Repr

/-- The words issued for objects that were not freed since. -/
def liveWords : List Event → List LiveWord
  | [] => []
  | .issued T w p :: past => ⟨T, w, p⟩ :: liveWords past
  | .used _ _ _ :: past => liveWords past
  | .freed p :: past => (liveWords past).filter fun l => l.ptr ≠ p

/-- Every use of an object under a word of a type comes while that word is live, issued by
the `new` command of that type for that object. -/
def UsesSound : List Event → Prop
  | [] => True
  | .used T w p :: past => ⟨T, w, p⟩ ∈ liveWords past ∧ UsesSound past
  | .issued _ _ _ :: past => UsesSound past
  | .freed _ :: past => UsesSound past

instance decidableUsesSound : (log : List Event) → Decidable (UsesSound log)
  | [] => isTrue trivial
  | .used T w p :: past =>
    have := decidableUsesSound past
    inferInstanceAs (Decidable (⟨T, w, p⟩ ∈ liveWords past ∧ UsesSound past))
  | .issued _ _ _ :: past => decidableUsesSound past
  | .freed _ :: past => decidableUsesSound past

/-- A live word was issued for its object, and no later event freed the object. -/
theorem mem_liveWords_iff {l : LiveWord} {log : List Event} :
    l ∈ liveWords log ↔ ∃ later earlier,
      log = later ++ .issued l.type l.word l.ptr :: earlier ∧ .freed l.ptr ∉ later := by
  induction log with
  | nil => simp [liveWords]
  | cons e past ih =>
    have hpast : (∃ later earlier, e :: past = later ++ .issued l.type l.word l.ptr :: earlier ∧
        Event.freed l.ptr ∉ later) ↔
        e = .issued l.type l.word l.ptr ∨ (l ∈ liveWords past ∧ e ≠ .freed l.ptr) := by
      rw [ih]
      constructor
      · rintro ⟨_ | ⟨f, later⟩, earlier, hlog, hfree⟩
        · exact Or.inl (List.cons.inj hlog).1
        · obtain ⟨rfl, rfl⟩ := List.cons.inj hlog
          rw [List.mem_cons, not_or] at hfree
          exact Or.inr ⟨⟨later, earlier, rfl, hfree.2⟩, Ne.symm hfree.1⟩
      · rintro (rfl | ⟨⟨later, earlier, rfl, hfree⟩, hne⟩)
        · exact ⟨[], past, rfl, by simp⟩
        · exact ⟨e :: later, earlier, rfl, by simp [hfree, Ne.symm hne]⟩
    rw [hpast]
    cases e with
    | issued T w p =>
      have hl : l = ⟨T, w, p⟩ ↔ Event.issued T w p = .issued l.type l.word l.ptr := by
        cases l
        simp only [LiveWord.mk.injEq, Event.issued.injEq]
        tauto
      simp [liveWords, hl]
    | used T w p => simp [liveWords]
    | freed p =>
      simp only [liveWords, List.mem_filter, decide_eq_true_eq, reduceCtorEq, false_or, ne_eq,
        Event.freed.injEq]
      exact and_congr_right fun _ => not_congr eq_comm

/-- The same without the list of live words: before each use of an object under a word of
a type comes the issue of that word for it, with no free of it in between. -/
def HandlesSound (log : List Event) : Prop :=
  ∀ later T w p past, log = later ++ .used T w p :: past →
    ∃ since before, past = since ++ .issued T w p :: before ∧ .freed p ∉ since

theorem usesSound_of_append {later past : List Event} (h : UsesSound (later ++ past)) :
    UsesSound past := by
  induction later with
  | nil => exact h
  | cons e later ih =>
    cases e with
    | issued T w p => exact ih h
    | used T w p => exact ih h.2
    | freed p => exact ih h

theorem handlesSound_iff {log : List Event} : HandlesSound log ↔ UsesSound log := by
  constructor
  · intro h
    induction log with
    | nil => trivial
    | cons e past ih =>
      have hpast := ih fun later T w p earlier hlog => h (e :: later) T w p earlier (by simp [hlog])
      cases e with
      | issued T w p => exact hpast
      | used T w p => exact ⟨mem_liveWords_iff.mpr (h [] T w p past rfl), hpast⟩
      | freed p => exact hpast
  · rintro h later T w p past rfl
    exact mem_liveWords_iff.mp (usesSound_of_append h).1

def index (word : UInt32) : ℕ := (word &&& ~~~htMask).toNat

def wordOf (type : HandleType) (i : ℕ) : UInt32 := UInt32.ofNat i ||| type.tag

theorem index_eq (w : UInt32) : index w = w.toNat % 2 ^ 29 := by
  have hm : (~~~htMask).toNat = 2 ^ 29 - 1 := by decide
  rw [index, UInt32.toNat_and, hm, Nat.and_two_pow_sub_one_eq_mod]

theorem index_lt (w : UInt32) : index w < 2 ^ 29 := by
  rw [index_eq]
  exact Nat.mod_lt _ (by decide)

theorem index_wordOf (T : HandleType) {i : ℕ} (h : i < 2 ^ 29) : index (wordOf T i) = i := by
  have ht : T.tag.toNat % 2 ^ 29 = 0 := by cases T <;> decide
  rw [index_eq, wordOf, UInt32.toNat_or, Nat.or_mod_two_pow, ht, Nat.or_zero,
    UInt32.toNat_ofNat_of_lt' (by simp [UInt32.size]; omega), Nat.mod_eq_of_lt h]

theorem wordOf_index {T : HandleType} {w : UInt32} (h : w &&& htMask = T.tag) :
    wordOf T (index w) = w := by
  rw [wordOf, ← h, index, UInt32.ofNat_toNat]
  apply UInt32.toBitVec_inj.mp
  ext i hi
  simp only [UInt32.toBitVec_or, UInt32.toBitVec_and, UInt32.toBitVec_not, BitVec.getElem_or,
    BitVec.getElem_and, BitVec.getElem_not]
  grind

theorem htMask_bit : ∀ j : Fin 32, htMask.toBitVec[j.1] = decide (29 ≤ j.1) := by decide

theorem tag_bit (T : HandleType) : ∀ j : Fin 32, T.tag.toBitVec[j.1] = true → 29 ≤ j.1 := by
  cases T <;> decide

theorem wordOf_tag (T : HandleType) {i : ℕ} (h : i < 2 ^ 29) : wordOf T i &&& htMask = T.tag := by
  apply UInt32.toBitVec_inj.mp
  ext j hj
  have hmask := htMask_bit ⟨j, hj⟩
  have htag := tag_bit T ⟨j, hj⟩
  simp only [wordOf, UInt32.toBitVec_and, UInt32.toBitVec_or, BitVec.getElem_and,
    BitVec.getElem_or]
  dsimp only at hmask htag
  rw [hmask]
  by_cases hhigh : 29 ≤ j
  · have hbit : i.testBit j = false :=
      Nat.testBit_lt_two_pow (h.trans_le (Nat.pow_le_pow_right (by decide) hhigh))
    have hlow : (UInt32.ofNat i).toBitVec[j] = false := by
      rw [UInt32.toBitVec_ofNat', ← BitVec.getLsbD_eq_getElem, BitVec.getLsbD_ofNat, hbit,
        Bool.and_false]
    simp [hhigh, hlow]
  · have hlow : T.tag.toBitVec[j] = false := by simpa using fun hset => hhigh (htag hset)
    simp [hhigh, hlow]

/-- The word has the type wanted, on the index of a live object issued under another. -/
def Mistyped (log : List Event) (o : Operand) : Prop :=
  o.word &&& htMask = o.type.tag ∧
    ∃ l ∈ liveWords log, l.type ≠ o.type ∧ index l.word = index o.word

instance (log : List Event) (o : Operand) : Decidable (Mistyped log o) :=
  inferInstanceAs (Decidable (_ ∧ _))

def operands (params : TeeParams) : ArithCmd → List Operand
  | .newVar | .newFmmVar | .freeHandle => []
  | .newFmmCtx => [⟨.bigint, (params 0).value.b⟩]
  | .fromOctetString | .fromS32 | .getValue | .getValueS32 | .getBit | .getBitCount | .cmpS32
  | .isPrime => [⟨.bigint, (params 0).value.a⟩]
  | .cmp | .isRelativePrime | .neg | .sqr =>
    [⟨.bigint, (params 0).value.a⟩, ⟨.bigint, (params 0).value.b⟩]
  | .shiftRight => [⟨.bigint, (params 0).value.a⟩, ⟨.bigint, (params 1).value.a⟩]
  | .add | .sub | .mul | .mod | .sqrmod | .invmod =>
    [⟨.bigint, (params 0).value.a⟩, ⟨.bigint, (params 0).value.b⟩,
      ⟨.bigint, (params 1).value.a⟩]
  | .div | .addmod | .submod | .mulmod =>
    [⟨.bigint, (params 0).value.a⟩, ⟨.bigint, (params 0).value.b⟩,
      ⟨.bigint, (params 1).value.a⟩, ⟨.bigint, (params 1).value.b⟩]
  | .computeEgcd =>
    [⟨.bigint, (params 0).value.a⟩, ⟨.bigint, (params 0).value.b⟩,
      ⟨.bigint, (params 2).value.a⟩, ⟨.bigint, (params 1).value.a⟩,
      ⟨.bigint, (params 1).value.b⟩]
  | .toFmm =>
    [⟨.bigint, (params 0).value.a⟩, ⟨.bigint, (params 0).value.b⟩,
      ⟨.fmmctx, (params 1).value.a⟩, ⟨.fmmvar, (params 1).value.b⟩]
  | .fromFmm =>
    [⟨.fmmvar, (params 0).value.a⟩, ⟨.bigint, (params 0).value.b⟩,
      ⟨.fmmctx, (params 1).value.a⟩, ⟨.bigint, (params 1).value.b⟩]
  | .computeFmm =>
    [⟨.fmmvar, (params 0).value.a⟩, ⟨.fmmvar, (params 0).value.b⟩,
      ⟨.bigint, (params 1).value.a⟩, ⟨.fmmctx, (params 1).value.b⟩,
      ⟨.fmmvar, (params 2).value.a⟩]

variable {β : Type*}

/-- The table has a free slot, or may double without a wrap of its byte size, or is not
going to grow. -/
def TableRoom (A : Arch) (s : ArithState β) (env : Allocator β) : Prop :=
  emptySlot s.hdb s.hdb.maxPtrs 0 = none → env.realloc.isSome →
    FitsTable A (s.hdb.maxPtrs * 2)

instance (A : Arch) (s : ArithState β) (env : Allocator β) : Decidable (TableRoom A s env) :=
  inferInstanceAs (Decidable (_ → _ → _))

def Creates (c : ArithCmd) : Prop := c = .newVar ∨ c = .newFmmCtx ∨ c = .newFmmVar

instance (c : ArithCmd) : Decidable (Creates c) := inferInstanceAs (Decidable (_ ∨ _))

def WellTyped (A : Arch) (s : ArithState β) (r : Request β) : Prop :=
  (∀ o ∈ operands r.params r.cmd, ¬ Mistyped s.log o) ∧ (Creates r.cmd → TableRoom A s r.env)

instance (A : Arch) (s : ArithState β) (r : Request β) : Decidable (WellTyped A s r) :=
  inferInstanceAs (Decidable (_ ∧ _))

end HandleWords
