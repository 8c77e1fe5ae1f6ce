import OpteeTest.GuardedRun
import OpteeTest.HandleWords
import Mathlib.Data.Int.GCD
import Mathlib.Data.Nat.Prime.Basic
import Mathlib.Data.Nat.Size

/-! # Typed handles over whole runs

One invariant ties the cells of the table, the heap and the live words together. Well-typed
commands keep it, and under it every lookup finds an object of the type asked for. -/
namespace TypedHandles

open TeeApi GuardedRun HandleDatabase ArithTaf HandleWords

variable {β : Type*}

/-- Cells and live words determine each other, and distinct cells hold distinct objects. -/
structure Tracked (A : Arch) (s : ArithState β) : Prop where
  wellSized : WellSized A s.hdb
  live : ∀ i p, s.hdb.cell i = some p → (s.heap p).isSome
  distinct : ∀ i j p, s.hdb.cell i = some p → s.hdb.cell j = some p → i = j
  issued : ∀ i p, s.hdb.cell i = some p → ∃ T, ⟨T, wordOf T i, p⟩ ∈ liveWords s.log
  held : ∀ l ∈ liveWords s.log, s.hdb.cell (index l.word) = some l.ptr
  unique : ∀ l ∈ liveWords s.log, ∀ k ∈ liveWords s.log, index l.word = index k.word → l = k
  sound : UsesSound s.log

/-- The invariant for clients that need not be well-typed: only when they are, the uses are
sound. -/
structure Bound (typed : Prop) (A : Arch) (s : ArithState β) : Prop where
  wellSized : WellSized A s.hdb
  live : ∀ i p, s.hdb.cell i = some p → (s.heap p).isSome
  distinct : ∀ i j p, s.hdb.cell i = some p → s.hdb.cell j = some p → i = j
  issued : ∀ i p, s.hdb.cell i = some p → ∃ T, ⟨T, wordOf T i, p⟩ ∈ liveWords s.log
  held : ∀ l ∈ liveWords s.log, s.hdb.cell (index l.word) = some l.ptr
  unique : ∀ l ∈ liveWords s.log, ∀ k ∈ liveWords s.log, index l.word = index k.word → l = k
  sound : typed → UsesSound s.log

theorem tracked_iff {A : Arch} {s : ArithState β} : Tracked A s ↔ Bound True A s := by
  constructor
  · intro h
    exact { h with sound := fun _ => h.sound }
  · intro h
    exact { h with sound := h.sound trivial }

def initial : ArithState β := ⟨handleDbInitializer, fun _ => none, []⟩

theorem initial_bound (typed : Prop) (A : Arch) : Bound typed A (initial : ArithState β) where
  wellSized := wellSized_initializer A
  live := by simp [initial, handleDbInitializer, HandleDb.cell]
  distinct := by simp [initial, handleDbInitializer, HandleDb.cell]
  issued := by simp [initial, handleDbInitializer, HandleDb.cell]
  held := by simp [initial, liveWords]
  unique := by simp [initial, liveWords]
  sound := fun _ => trivial

variable {typed : Prop}

theorem toInt_index (w : UInt32) : toInt (w &&& ~~~htMask).toNat = index w :=
  toInt_of_lt ((index_lt w).trans (by decide))

theorem lookupHandle_eq {A : Arch} {s : ArithState β} (h : Bound typed A s) (T : HandleType)
    (w : UInt32) :
    lookupHandle s T w = if w &&& htMask = T.tag then s.hdb.cell (index w) else none := by
  rw [lookupHandle, toInt_index, handleLookup_natCast h.wellSized]

theorem lookup_live {A : Arch} {s : ArithState β} (h : Bound typed A s) {o : Operand} {p : ℕ}
    (hf : ¬ Mistyped s.log o) (hl : lookupHandle s o.type o.word = some p) :
    ⟨o.type, o.word, p⟩ ∈ liveWords s.log := by
  rw [lookupHandle_eq h] at hl
  split_ifs at hl with htag
  obtain ⟨T, hT⟩ := h.issued _ _ hl
  have heq : T = o.type := by
    by_contra hne
    exact hf ⟨htag, _, hT, hne, index_wordOf T (index_lt o.word)⟩
  rwa [heq, wordOf_index htag] at hT

/-- The converse: no object is rightly used under a mistyped word. -/
theorem mistyped_not_live {A : Arch} {s : ArithState β} (h : Bound typed A s) {o : Operand}
    (hf : Mistyped s.log o) (p : ℕ) : ⟨o.type, o.word, p⟩ ∉ liveWords s.log := by
  obtain ⟨-, l, hl, hne, hindex⟩ := hf
  intro hmem
  exact hne (congrArg LiveWord.type (h.unique l hl _ hmem hindex))

theorem Bound.live_tag {A : Arch} {s : ArithState β} (h : Bound typed A s) {l : LiveWord}
    (hl : l ∈ liveWords s.log) : l.word &&& htMask = l.type.tag := by
  obtain ⟨T, hT⟩ := h.issued _ _ (h.held l hl)
  have hlt := index_lt l.word
  have heq := h.unique l hl _ hT (index_wordOf T hlt).symm
  rw [heq]
  exact wordOf_tag T hlt

theorem Bound.lookup_own {A : Arch} {s : ArithState β} (h : Bound typed A s) {l : LiveWord}
    (hl : l ∈ liveWords s.log) : lookupHandle s l.type l.word = some l.ptr := by
  rw [lookupHandle_eq h, if_pos (h.live_tag hl)]
  exact h.held l hl

theorem Bound.ptr_unique {A : Arch} {s : ArithState β} (h : Bound typed A s) {l k : LiveWord}
    (hl : l ∈ liveWords s.log) (hk : k ∈ liveWords s.log) (hptr : l.ptr = k.ptr) : l = k := by
  have hcell := h.held l hl
  rw [hptr] at hcell
  exact h.unique l hl k hk (h.distinct _ _ _ hcell (h.held k hk))

/-- From `s` to `t` a command only used operands that it had found, and kept blocks live. -/
structure UsesOnly (ops : List Operand) (s t : ArithState β) : Prop where
  hdb : t.hdb = s.hdb
  heap : ∀ p, (s.heap p).isSome → (t.heap p).isSome
  log : ∃ us, t.log = us ++ s.log ∧ ∀ e ∈ us, ∃ o ∈ ops, ∃ p,
    e = .used o.type o.word p ∧ lookupHandle s o.type o.word = some p

variable {ops : List Operand} {s t : ArithState β}

theorem UsesOnly.refl (ops : List Operand) (s : ArithState β) : UsesOnly ops s s :=
  ⟨rfl, fun _ h => h, [], by simp, by simp⟩

theorem isSome_store (s : ArithState β) {p q : ℕ} (x : β) (h : (s.heap p).isSome) :
    ((s.store q x).heap p).isSome := by
  by_cases hp : p = q
  · subst hp
    simp [ArithState.store]
  · simpa [ArithState.store, Function.update_of_ne hp] using h

theorem UsesOnly.store (h : UsesOnly ops s t) (p : ℕ) (x : β) : UsesOnly ops s (t.store p x) :=
  ⟨h.hdb, fun q hq => isSome_store t x (h.heap q hq), h.log⟩

theorem UsesOnly.storeOpt (h : UsesOnly ops s t) (p : Option ℕ) (x : β) :
    UsesOnly ops s (t.storeOpt p x) := by
  cases p with
  | none => exact h
  | some p => exact h.store p x

theorem usesOnly_record {us : List Event}
    (h : ∀ e ∈ us, ∃ o ∈ ops, ∃ p,
      e = .used o.type o.word p ∧ lookupHandle s o.type o.word = some p) :
    UsesOnly ops s (s.record us) :=
  ⟨rfl, fun _ h => h, us, rfl, h⟩

theorem lookups_eq_some {n : ℕ} {os : Fin n → Operand} {p : Fin n → ℕ}
    (h : lookups s os = some p) (i : Fin n) :
    lookupHandle s (os i).type (os i).word = some (p i) := by
  unfold lookups at h
  split_ifs at h with hall
  rw [← Option.some.inj h, Option.some_get]

theorem usesOf_found {n : ℕ} {os : Fin n → Operand} {p : Fin n → ℕ}
    (h : lookups s os = some p) (hops : ∀ i, os i ∈ ops) :
    ∀ e ∈ usesOf os p, ∃ o ∈ ops, ∃ p,
      e = .used o.type o.word p ∧ lookupHandle s o.type o.word = some p := by
  intro e he
  obtain ⟨i, rfl⟩ := List.mem_ofFn.mp he
  exact ⟨os i, hops i, p i, rfl, lookups_eq_some h i⟩

theorem usesOpt_found {word : UInt32} {u : Option ℕ} (h : optionalLookup s word = some u)
    (hop : ⟨.bigint, word⟩ ∈ ops) :
    ∀ e ∈ usesOpt word u, ∃ o ∈ ops, ∃ p,
      e = .used o.type o.word p ∧ lookupHandle s o.type o.word = some p := by
  cases u with
  | none => simp [usesOpt]
  | some p =>
    intro e he
    refine ⟨⟨.bigint, word⟩, hop, p, by simpa [usesOpt] using he, ?_⟩
    unfold optionalLookup at h
    split_ifs at h
    · simpa using h
    · simp at h

theorem checkPt_usesOnly {t₀ t₁ t₂ t₃ : ParamType} {paramTypes : UInt32} {params : TeeParams}
    {body : Outcome β} (h : UsesOnly ops s body.state) :
    UsesOnly ops s (checkPt t₀ t₁ t₂ t₃ paramTypes params s body).state := by
  unfold checkPt
  split_ifs
  · exact .refl ops s
  · exact h

theorem withObjects_usesOnly {n : ℕ} {os : Fin n → Operand} {params : TeeParams}
    {body : (Fin n → ℕ) → ArithState β → Outcome β} (hops : ∀ i, os i ∈ ops)
    (h : ∀ p t, UsesOnly ops s t → UsesOnly ops s (body p t).state) :
    UsesOnly ops s (withObjects os params s body).state := by
  unfold withObjects
  cases hp : lookups s os with
  | none => exact .refl ops s
  | some p => exact h p _ (usesOnly_record (usesOf_found hp hops))

theorem computeEgcd_usesOnly (api : BigIntApi β) (paramTypes : UInt32) (params : TeeParams)
    (s : ArithState β) : UsesOnly (operands params .computeEgcd) s
      (taEntryArithComputeEgcd api paramTypes params s).state := by
  apply checkPt_usesOnly
  dsimp only
  split
  next p u v hp hu hv =>
    refine (((usesOnly_record ?_).store _ _).storeOpt _ _).storeOpt _ _
    intro e he
    rcases List.mem_append.mp he with he | he
    · rcases List.mem_append.mp he with he | he
      · exact usesOf_found hp (by simp [operands, Fin.forall_fin_succ]) e he
      · exact usesOpt_found hu (by simp [operands]) e he
    · exact usesOpt_found hv (by simp [operands]) e he
  next => exact .refl _ s

theorem plain_usesOnly (api : BigIntApi β) (A : Arch) (s : ArithState β) (r : Request β)
    (hc : ¬ Creates r.cmd) (hf : r.cmd ≠ .freeHandle) :
    UsesOnly (operands r.params r.cmd) s (invokeCommand api A s r).state := by
  obtain ⟨cmd, paramTypes, params, env⟩ := r
  cases cmd with
  | newVar => exact (hc (Or.inl rfl)).elim
  | newFmmCtx => exact (hc (Or.inr (Or.inl rfl))).elim
  | newFmmVar => exact (hc (Or.inr (Or.inr rfl))).elim
  | freeHandle => exact (hf rfl).elim
  | computeEgcd => exact computeEgcd_usesOnly api paramTypes params s
  | getValue | getValueS32 | getBit | getBitCount | cmp | cmpS32 | isRelativePrime | isPrime =>
    exact checkPt_usesOnly (withObjects_usesOnly (by simp [operands, Fin.forall_fin_succ])
      fun _ _ ht => ht)
  | div =>
    exact checkPt_usesOnly (withObjects_usesOnly (by simp [operands, Fin.forall_fin_succ])
      fun _ _ ht => (ht.store _ _).store _ _)
  | _ =>
    exact checkPt_usesOnly (withObjects_usesOnly (by simp [operands, Fin.forall_fin_succ])
      fun _ _ ht => ht.store _ _)

variable {A : Arch}

theorem liveWords_uses {us log : List Event} (h : ∀ e ∈ us, ∃ T w p, e = .used T w p) :
    liveWords (us ++ log) = liveWords log := by
  induction us with
  | nil => rfl
  | cons e us ih =>
    obtain ⟨T, w, p, rfl⟩ := h e List.mem_cons_self
    exact ih fun f hf => h f (List.mem_cons_of_mem _ hf)

theorem usesSound_uses {us log : List Event} (h : ∀ e ∈ us, ∃ T w p, e = .used T w p) :
    UsesSound (us ++ log) ↔
      (∀ T w p, .used T w p ∈ us → ⟨T, w, p⟩ ∈ liveWords log) ∧ UsesSound log := by
  induction us with
  | nil => simp
  | cons e us ih =>
    have hus : ∀ e ∈ us, ∃ T w p, e = .used T w p := fun f hf => h f (List.mem_cons_of_mem e hf)
    obtain ⟨T, w, p, rfl⟩ := h e List.mem_cons_self
    rw [List.cons_append, UsesSound, ih hus, liveWords_uses hus, ← and_assoc]
    refine and_congr_left fun _ => ?_
    constructor
    · rintro ⟨hmem, hall⟩ U v q he
      rcases List.mem_cons.mp he with heq | he
      · cases heq
        exact hmem
      · exact hall U v q he
    · exact fun hall => ⟨hall T w p List.mem_cons_self,
        fun U v q he => hall U v q (List.mem_cons_of_mem _ he)⟩

/-- A command that has found its objects uses them soundly exactly when none of the words
it found them under is mistyped. -/
theorem uses_sound_iff {n : ℕ} {os : Fin n → Operand} {p : Fin n → ℕ} (h : Tracked A s)
    (hp : lookups s os = some p) :
    UsesSound (s.record (usesOf os p)).log ↔ ∀ i, ¬ Mistyped s.log (os i) := by
  have hused : ∀ e ∈ usesOf os p, ∃ T w q, e = .used T w q := by
    intro e he
    obtain ⟨i, rfl⟩ := List.mem_ofFn.mp he
    exact ⟨_, _, _, rfl⟩
  refine (usesSound_uses hused).trans ⟨?_, ?_⟩
  · rintro ⟨hall, -⟩ i hf
    exact mistyped_not_live (tracked_iff.mp h) hf (p i) (hall _ _ _ (List.mem_ofFn.mpr ⟨i, rfl⟩))
  · refine fun hf => ⟨fun T w q he => ?_, h.sound⟩
    obtain ⟨i, hi⟩ := List.mem_ofFn.mp he
    cases hi
    exact lookup_live (tracked_iff.mp h) (hf i) (lookups_eq_some hp i)

theorem Bound.uses (h : Bound typed A s) (hu : UsesOnly ops s t)
    (hops : typed → ∀ o ∈ ops, ¬ Mistyped s.log o) : Bound typed A t := by
  obtain ⟨us, hlog, hfound⟩ := hu.log
  have hused : ∀ e ∈ us, ∃ T w p, e = .used T w p := by
    intro e he
    obtain ⟨o, -, p, rfl, -⟩ := hfound e he
    exact ⟨_, _, _, rfl⟩
  have hlive : liveWords t.log = liveWords s.log := by rw [hlog, liveWords_uses hused]
  constructor
  · rw [hu.hdb]; exact h.wellSized
  · rw [hu.hdb]; exact fun i p hc => hu.heap p (h.live i p hc)
  · rw [hu.hdb]; exact h.distinct
  · rw [hu.hdb, hlive]; exact h.issued
  · rw [hu.hdb, hlive]; exact h.held
  · rw [hlive]; exact h.unique
  · intro htyped
    rw [hlog]
    refine (usesSound_uses hused).mpr ⟨fun T w p he => ?_, h.sound htyped⟩
    obtain ⟨o, ho, q, heq, hl⟩ := hfound _ he
    cases heq
    exact lookup_live h (hops htyped o ho) hl

structure Fresh (s : ArithState β) (p : ℕ) : Prop where
  live : (s.heap p).isSome
  unheld : ∀ i, s.hdb.cell i ≠ some p

theorem teeMalloc_cases (h : Bound typed A s) (env : Allocator β) (bytes : UInt32) :
    teeMalloc env bytes s = (none, s) ∨
    ∃ p x, teeMalloc env bytes s = (some p, s.store p x) ∧ Fresh (s.store p x) p := by
  unfold teeMalloc
  cases hm : (env.malloc bytes).filter fun b => (s.heap b.1).isNone with
  | none => exact Or.inl rfl
  | some b =>
    obtain ⟨p, x⟩ := b
    have hfree : s.heap p = none := by simpa using (Option.filter_eq_some_iff.mp hm).2
    refine Or.inr ⟨p, x, rfl, by simp [ArithState.store], fun i hc => ?_⟩
    have hlive := h.live i p hc
    rw [hfree] at hlive
    exact Bool.false_ne_true hlive

theorem Bound.store (h : Bound typed A s) (p : ℕ) (x : β) : Bound typed A (s.store p x) :=
  h.uses ((UsesOnly.refl [] s).store p x) fun _ => by simp

theorem Bound.free {db : HandleDb ℕ} {p : ℕ} (h : Bound typed A s) (hws : WellSized A db)
    (hcell : ∀ i, db.cell i = if s.hdb.cell i = some p then none else s.hdb.cell i) :
    Bound typed A (teeFree (some p) { s with hdb := db }) := by
  have hold : ∀ i q, db.cell i = some q → s.hdb.cell i = some q ∧ q ≠ p := by
    intro i q hq
    rw [hcell] at hq
    split_ifs at hq with hp
    exact ⟨hq, fun hqp => hp (hqp ▸ hq)⟩
  have hmem : ∀ l, l ∈ liveWords (Event.freed p :: s.log) ↔ l ∈ liveWords s.log ∧ l.ptr ≠ p := by
    simp [liveWords]
  constructor
  · exact hws
  · intro i q hq
    obtain ⟨hq, hne⟩ := hold i q hq
    simpa [teeFree, ArithState.record, Function.update_of_ne hne] using h.live i q hq
  · exact fun i j q hi hj => h.distinct i j q (hold i q hi).1 (hold j q hj).1
  · intro i q hq
    obtain ⟨hq, hne⟩ := hold i q hq
    obtain ⟨T, hT⟩ := h.issued i q hq
    exact ⟨T, (hmem _).mpr ⟨hT, hne⟩⟩
  · intro l hl
    obtain ⟨hl, hne⟩ := (hmem l).mp hl
    have hheld := h.held l hl
    change db.cell (index l.word) = some l.ptr
    rw [hcell, hheld, if_neg (by simpa using hne)]
  · exact fun l hl k hk => h.unique l ((hmem l).mp hl).1 k ((hmem k).mp hk).1
  · exact h.sound

theorem Bound.free_fresh {p : ℕ} (h : Bound typed A s) (hp : Fresh s p) :
    Bound typed A (teeFree (some p) s) :=
  h.free h.wellSized fun i => (if_neg (hp.unheld i)).symm

/-- The pointer of a fresh block in the free cell `n`, under the word of that cell. -/
theorem Bound.issue {db : HandleDb ℕ} {n p : ℕ} {T : HandleType} (h : Bound typed A s)
    (hp : Fresh s p) (hws : WellSized A db) (hfree : s.hdb.cell n = none)
    (hcell : ∀ i, db.cell i = if i = n then some p else s.hdb.cell i) :
    Bound typed A (ArithState.record { s with hdb := db } [.issued T (wordOf T n) p]) := by
  have hn : n < 2 ^ 29 := by
    by_contra hge
    have hnone := cell_of_le hws (hws.fits.lt.trans (Nat.not_lt.mp hge))
    simp [hcell] at hnone
  have hindex : index (wordOf T n) = n := index_wordOf T hn
  have hother : ∀ l ∈ liveWords s.log, index l.word ≠ n := by
    intro l hl heq
    have hheld := h.held l hl
    rw [heq, hfree] at hheld
    exact Option.some_ne_none _ hheld.symm
  constructor
  · exact hws
  · intro i q hq
    change db.cell i = some q at hq
    rw [hcell] at hq
    split_ifs at hq with hi
    · rw [← Option.some.inj hq]; exact hp.live
    · exact h.live i q hq
  · intro i j q hi hj
    change db.cell i = some q at hi
    change db.cell j = some q at hj
    rw [hcell] at hi hj
    split_ifs at hi hj with hin hjn hjn
    · rw [hin, hjn]
    · exact (hp.unheld j (hj.trans hi.symm)).elim
    · exact (hp.unheld i (hi.trans hj.symm)).elim
    · exact h.distinct i j q hi hj
  · intro i q hq
    change db.cell i = some q at hq
    rw [hcell] at hq
    split_ifs at hq with hi
    · subst hi
      rw [← Option.some.inj hq]
      exact ⟨T, List.mem_cons_self⟩
    · obtain ⟨U, hU⟩ := h.issued i q hq
      exact ⟨U, List.mem_cons_of_mem _ hU⟩
  · intro l hl
    change db.cell (index l.word) = some l.ptr
    rw [hcell]
    rcases List.mem_cons.mp hl with rfl | hl
    · rw [if_pos hindex]
    · rw [if_neg (hother l hl), h.held l hl]
  · intro l hl k hk heq
    rcases List.mem_cons.mp hl with rfl | hl <;> rcases List.mem_cons.mp hk with rfl | hk
    · rfl
    · exact (hother k hk (heq.symm.trans hindex)).elim
    · exact (hother l hl (heq.trans hindex)).elim
    · exact h.unique l hl k hk heq
  · exact h.sound

theorem fits_handleGet {env : Allocator β} (h : WellSized A s.hdb) (hr : TableRoom A s env)
    (ptr : Option ℕ) : FitsTable A (handleGet A s.hdb ptr env.realloc).2.maxPtrs := by
  rcases handleGet_maxPtrs A s.hdb ptr env.realloc with hsame | ⟨hslot, hre, hgrow⟩
  · rw [hsame]
    exact h.fits
  · rw [hgrow, h.double]
    split_ifs
    · exact hr hslot hre
    · exact fitsTable_of_lt A (by decide)

/-- A `new` command issues the word of a free cell, or changes nothing but a fresh block. -/
theorem publish_cases {env : Allocator β} (params : TeeParams) (T : HandleType)
    (ptr : Option ℕ) (init : ℕ → ArithState β → ArithState β) (h : Bound typed A s)
    (hp : ∀ p, ptr = some p → Fresh s p) (hr : TableRoom A s env) :
    (publish A env params s T ptr init = ⟨teeErrorOutOfMemory, params, teeFree ptr s⟩) ∨
    ∃ p n s', ptr = some p ∧ Bound typed A s' ∧ s'.heap = s.heap ∧
      s'.log = .issued T (wordOf T n) p :: s.log ∧
      publish A env params s T ptr init =
        ⟨teeSuccess, setValueA params 1 (wordOf T n), init p s'⟩ := by
  rcases handleGet_cases h.wellSized (fits_handleGet h.wellSized hr ptr) with
    ⟨hrun, -⟩ | ⟨n, hres, hne, hfree, -, hws, hcell⟩
  · refine Or.inl ?_
    simp only [publish, getHandle, hrun]
    rfl
  · obtain ⟨p, rfl⟩ := Option.ne_none_iff_exists'.mp hne
    refine Or.inr ⟨p, n, _, rfl, h.issue (hp p rfl) hws hfree hcell, rfl, rfl, ?_⟩
    have hn : ¬ (n : ℤ) < 0 := by omega
    simp only [publish, getHandle, hres, if_neg hn, Int.toNat_natCast, wordOf]

theorem publish_bound {env : Allocator β} {params : TeeParams} {T : HandleType}
    {ptr : Option ℕ} {init : ℕ → ArithState β → ArithState β} (h : Bound typed A s)
    (hp : ∀ p, ptr = some p → Fresh s p) (hr : TableRoom A s env)
    (hinit : ∀ p s', Bound typed A s' → (∀ l ∈ liveWords s.log, l ∈ liveWords s'.log) →
      Bound typed A (init p s')) :
    Bound typed A (publish A env params s T ptr init).state := by
  rcases publish_cases params T ptr init h hp hr with hpub | ⟨p, n, s', -, hs', -, hlog, hpub⟩
  · rw [hpub]
    cases ptr with
    | none => exact h
    | some p => exact h.free_fresh (hp p rfl)
  · rw [hpub]
    refine hinit p s' hs' fun l hl => ?_
    rw [hlog]
    exact List.mem_cons_of_mem _ hl

theorem checkPt_bound {t₀ t₁ t₂ t₃ : ParamType} {paramTypes : UInt32} {params : TeeParams}
    {body : Outcome β} (h : Bound typed A s) (hb : Bound typed A body.state) :
    Bound typed A (checkPt t₀ t₁ t₂ t₃ paramTypes params s body).state := by
  unfold checkPt
  split_ifs
  · exact h
  · exact hb

theorem some_fresh {p : ℕ} (h : Fresh s p) : ∀ q, some p = some q → Fresh s q := by
  rintro q ⟨⟩
  exact h

theorem newObject_bound {env : Allocator β} (params : TeeParams) (T : HandleType)
    (len : UInt32) (x : β) (h : Bound typed A s) (hr : TableRoom A s env) :
    Bound typed A (newObject A env params s T len x).state := by
  unfold newObject
  rcases teeMalloc_cases h env (len * 4) with hm | ⟨p, y, hm, hp⟩
  · rw [hm]
    exact h
  · rw [hm]
    exact publish_bound (h.store p y) (some_fresh hp) hr fun q s' hs' _ => hs'.store q x

theorem newFmmCtx_bound (api : BigIntApi β) {env : Allocator β} (paramTypes : UInt32)
    (params : TeeParams) (h : Bound typed A s) (hr : TableRoom A s env)
    (hf : typed → ¬ Mistyped s.log ⟨.bigint, (params 0).value.b⟩) :
    Bound typed A (taEntryArithNewFmmCtx api A env paramTypes params s).state := by
  refine checkPt_bound h ?_
  cases hm : lookupHandle s .bigint (params 0).value.b with
  | none => exact h
  | some modulus =>
    have hlive : typed → ⟨.bigint, (params 0).value.b, modulus⟩ ∈ liveWords s.log :=
      fun htyped => lookup_live h (hf htyped) hm
    generalize api.fmmContextSizeInU32 (params 0).value.a = len
    have hinit : ∀ p (s' : ArithState β) x, Bound typed A s' →
        (∀ l ∈ liveWords s.log, l ∈ liveWords s'.log) →
        Bound typed A ((s'.record [.used .bigint (params 0).value.b modulus]).store p x) := by
      intro p s' x hs' hkeep
      have hused : Bound typed A (s'.record [.used .bigint (params 0).value.b modulus]) :=
        { hs' with sound := fun htyped => ⟨hkeep _ (hlive htyped), hs'.sound htyped⟩ }
      exact hused.store p x
    dsimp only
    rcases teeMalloc_cases h env (len * 4) with ha | ⟨p, y, ha, hp⟩
    · rw [ha]
      exact publish_bound h (by simp) hr fun q s' hs' hkeep => hinit q s' _ hs' hkeep
    · rw [ha]
      exact publish_bound (h.store p y) (some_fresh hp) hr
        fun q s' hs' hkeep => hinit q s' _ hs' hkeep

theorem putHandle_eq {w : UInt32} (s : ArithState β) {n : ℕ} (hn : index w = n) :
    putHandle w s = ((handlePut s.hdb n).1, { s with hdb := (handlePut s.hdb n).2 }) := by
  unfold putHandle
  rw [toInt_index, hn]

/-- `handle_put` either finds nothing and changes no cell, or clears the only cell of the
object it returns. -/
theorem putHandle_bound {w : UInt32} (ptr : Option ℕ) {s' : ArithState β} (h : Bound typed A s)
    (hput : putHandle w s = (ptr, s')) : Bound typed A (teeFree ptr s') := by
  obtain ⟨n, hn⟩ : ∃ n, index w = n := ⟨_, rfl⟩
  rw [putHandle_eq s hn] at hput
  obtain ⟨hptr, rfl⟩ := Prod.mk.inj hput
  rw [handlePut_fst, handleLookup_natCast h.wellSized] at hptr
  have hws := handlePut_wellSized h.wellSized (n : ℤ)
  have hcell : ∀ i, (handlePut s.hdb n).2.cell i = if i = n then none else s.hdb.cell i := by
    intro i
    have hlook := handleLookup_put h.wellSized n (i : ℤ)
    simpa only [handleLookup_natCast hws, handleLookup_natCast h.wellSized, Nat.cast_inj]
      using hlook
  cases ptr with
  | none =>
    have hsame : ∀ i, (handlePut s.hdb n).2.cell i = s.hdb.cell i := by
      intro i
      rw [hcell]
      split_ifs with hi
      · rw [hi, hptr]
      · rfl
    exact ⟨hws, fun i p => hsame i ▸ h.live i p,
      fun i j p => hsame i ▸ hsame j ▸ h.distinct i j p, fun i p => hsame i ▸ h.issued i p,
      fun l => hsame (index l.word) ▸ h.held l, h.unique, h.sound⟩
  | some p =>
    refine h.free hws fun i => ?_
    rw [hcell]
    by_cases hi : i = n
    · rw [if_pos hi, hi, if_pos hptr]
    · rw [if_neg hi, if_neg fun hip => hi (h.distinct i n p hip hptr)]

theorem freeHandle_bound (paramTypes : UInt32) (params : TeeParams) (h : Bound typed A s) :
    Bound typed A (taEntryArithFreeHandle paramTypes params s).state := by
  unfold taEntryArithFreeHandle
  refine checkPt_bound h ?_
  split
  next s' hput => exact putHandle_bound none h hput
  next p s' hput => exact putHandle_bound (some p) h hput

variable (api : BigIntApi β)

theorem invoke_bound (s : ArithState β) (r : Request β) (h : Bound typed A s)
    (hops : typed → ∀ o ∈ operands r.params r.cmd, ¬ Mistyped s.log o)
    (hroom : Creates r.cmd → TableRoom A s r.env) :
    Bound typed A (invokeCommand api A s r).state := by
  by_cases hc : Creates r.cmd
  · have hroom := hroom hc
    obtain ⟨cmd, paramTypes, params, env⟩ := r
    rcases hc with rfl | rfl | rfl
    · exact checkPt_bound h (newObject_bound params _ _ _ h hroom)
    · exact newFmmCtx_bound api paramTypes params h hroom
        fun htyped => hops htyped _ (by simp [operands])
    · exact checkPt_bound h (newObject_bound params _ _ _ h hroom)
  · by_cases hf : r.cmd = .freeHandle
    · simp only [invokeCommand, hf]
      exact freeHandle_bound r.paramTypes r.params h
    · exact h.uses (plain_usesOnly api A s r hc hf) hops

theorem invoke_tracked (s : ArithState β) (r : Request β) (h : Tracked A s)
    (hr : WellTyped A s r) : Tracked A (invokeCommand api A s r).state :=
  tracked_iff.mpr (invoke_bound api s r (tracked_iff.mp h) (fun _ => hr.1) hr.2)

def run (A : Arch) (rs : List (Request β)) : ArithState β :=
  runTrace (fun s r => (invokeCommand api A s r).state) initial rs

/-- In every run of well-typed commands an object is used under a word of a type only after a
`new` command of that type issued that word for it, with no free of the object in between. -/
theorem wellTyped_runs_use_soundly (A : Arch) (rs : List (Request β))
    (hv : ValidTrace (fun s r => (invokeCommand api A s r).state) (WellTyped A) initial rs) :
    HandlesSound (run api A rs).log :=
  have hinit := tracked_iff.mpr (initial_bound (β := β) True A)
  handlesSound_iff.mpr (invariant_run (invoke_tracked api) hinit hv).sound

def valueParams (v₀ v₁ v₂ : UInt32 × UInt32) : TeeParams :=
  ![⟨⟨v₀.1, v₀.2⟩, ⟨fun _ => 0, 0⟩⟩, ⟨⟨v₁.1, v₁.2⟩, ⟨fun _ => 0, 0⟩⟩,
    ⟨⟨v₂.1, v₂.2⟩, ⟨fun _ => 0, 0⟩⟩, ⟨⟨0, 0⟩, ⟨fun _ => 0, 0⟩⟩]

def intApi : BigIntApi ℤ :=
  let value (heap : Heap ℤ) (p : ℕ) : ℤ := (heap p).getD 0
  { fmmSizeInU32 := teeBigIntSizeInU32
    fmmContextSizeInU32 := fun _ => 1
    init := fun _ => 0
    initFmmContext := fun heap _ modulus => value heap modulus
    initFmm := fun _ => 0
    convertFromOctetString := fun _ _ buffer sign =>
      let magnitude := (ByteMemory.slice buffer.buffer 0 buffer.size.toNat).foldl
        (fun (n : ℕ) b => 256 * n + b.toNat) 0
      (teeSuccess, if sign < 0 then -(magnitude : ℤ) else magnitude)
    convertToOctetString := fun heap buffer p =>
      let len := (Nat.size (value heap p).natAbs + 7) / 8
      let octets := (List.range len).map fun i =>
        UInt8.ofNat ((value heap p).natAbs >>> (8 * (len - 1 - i)))
      if buffer.size.toNat < len then (0xFFFF0010, { buffer with size := UInt32.ofNat len })
      else (teeSuccess, ⟨ByteMemory.copyIn buffer.buffer 0 octets, UInt32.ofNat len⟩)
    convertFromS32 := fun _ _ v => v.toInt
    convertToS32 := fun heap p =>
      if (value heap p).bmod (2 ^ 32) = value heap p then (teeSuccess, Int32.ofInt (value heap p))
      else (0xFFFF300F, 0)
    cmp := fun heap p q => Int32.ofInt (value heap p - value heap q).sign
    cmpS32 := fun heap p v => Int32.ofInt (value heap p - v.toInt).sign
    shiftRight := fun heap _ p bits =>
      (value heap p).sign * ((value heap p).natAbs >>> bits.toNat : ℕ)
    getBit := fun heap p i => (value heap p).natAbs.testBit i.toNat
    getBitCount := fun heap p => UInt32.ofNat (Nat.size (value heap p).natAbs)
    add := fun heap _ p q => value heap p + value heap q
    sub := fun heap _ p q => value heap p - value heap q
    neg := fun heap _ p => -value heap p
    mul := fun heap _ p q => value heap p * value heap q
    square := fun heap _ p => value heap p ^ 2
    div := fun heap _ _ p q =>
      ((value heap p).tdiv (value heap q), (value heap p).tmod (value heap q))
    mod := fun heap _ p n => value heap p % value heap n
    addMod := fun heap _ p q n => (value heap p + value heap q) % value heap n
    subMod := fun heap _ p q n => (value heap p - value heap q) % value heap n
    mulMod := fun heap _ p q n => value heap p * value heap q % value heap n
    squareMod := fun heap _ p n => value heap p ^ 2 % value heap n
    invMod := fun heap _ p n => (value heap p).gcdA (value heap n) % value heap n
    relativePrime := fun heap p q => (value heap p).gcd (value heap q) = 1
    computeExtendedGcd := fun heap _ _ _ p q =>
      ((value heap p).gcd (value heap q), (value heap p).gcdA (value heap q),
        (value heap p).gcdB (value heap q))
    isProbablePrime := fun heap p _ => if (value heap p).natAbs.Prime then 1 else 0
    convertToFmm := fun heap _ p n _ => value heap p % value heap n
    convertFromFmm := fun heap _ p n _ => value heap p % value heap n
    computeFmm := fun heap _ p q n _ => value heap p * value heap q % value heap n }

def request (cmd : ArithCmd) (types : UInt32) (v₀ v₁ v₂ : UInt32 × UInt32) (addr : ℕ) :
    Request ℤ :=
  ⟨cmd, types, valueParams v₀ v₁ v₂, fun _ => some (addr, 0), some fun _ => none⟩

/-- The index of a freed context goes to a big integer, and a new context gets another. -/
def reuseRequests : List (Request ℤ) :=
  let inOut := teeParamTypes .valueInput .valueOutput .none .none
  let inIn := teeParamTypes .valueInput .valueInput .none .none
  let inOnly := teeParamTypes .valueInput .none .none .none
  [request .newVar inOut (64, 0) (0, 0) (0, 0) 100,
    request .fromS32 inOnly (0x80000000, 35) (0, 0) (0, 0) 0,
    request .newFmmCtx inOut (64, 0x80000000) (0, 0) (0, 0) 200,
    request .newFmmVar inOut (64, 0) (0, 0) (0, 0) 300,
    request .freeHandle inOnly (0x40000001, 0) (0, 0) (0, 0) 0,
    request .newVar inOut (64, 0) (0, 0) (0, 0) 200,
    request .newFmmCtx inOut (64, 0x80000000) (0, 0) (0, 0) 400,
    request .toFmm inIn (0x80000001, 0x80000000) (0x40000003, 0x20000002) (0, 0) 0]

theorem reuseRequests_use_soundly : HandlesSound (run intApi .arm32 reuseRequests).log :=
  wellTyped_runs_use_soundly intApi .arm32 reuseRequests (by decide +kernel)

/-- The word of a big integer with other type bits passes for a variable and a context. -/
def confusedRequests : List (Request ℤ) :=
  [request .newVar (teeParamTypes .valueInput .valueOutput .none .none) (64, 0) (0, 0) (0, 0) 100,
    request .fromFmm (teeParamTypes .valueInput .valueInput .none .none)
      (0x20000000, 0x80000000) (0x40000000, 0x80000000) (0, 0) 0]

theorem confused_types : ¬ HandlesSound (run intApi .arm32 confusedRequests).log := by
  rw [handlesSound_iff]
  decide +kernel

end TypedHandles
