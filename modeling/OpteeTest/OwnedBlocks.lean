import OpteeTest.BlockHeap
import Mathlib.Logic.Function.Basic

/-! # Cells that own heap blocks

A ledger is a heap together with the record of what was allocated and freed. Cells own its blocks
when every block that was allocated and not freed is in exactly one of them. -/
namespace OwnedBlocks

open BlockHeap

variable {β γ ι : Type*}

inductive Effect where
  | allocated (a : ℕ)
  | freed (a : ℕ)
  deriving DecidableEq, Repr

structure Ledger (β : Type*) where
  heap : Heap β
  log : List Effect

/-- An answer of null, or one that names a live block, counts as a refusal. -/
def Ledger.usable (m : Ledger β) (answer : Option (ℕ × γ)) : Option (ℕ × γ) :=
  answer.filter fun b => decide (b.1 ≠ 0) && (m.heap.lookup b.1).isNone

def Ledger.malloc (m : Ledger β) (answer : Option (ℕ × β)) : ℕ × Ledger β :=
  match m.usable answer with
  | none => (0, m)
  | some (a, v) => (a, ⟨m.heap.insert a v, .allocated a :: m.log⟩)

def Ledger.free (m : Ledger β) (a : ℕ) : Ledger β :=
  if a = 0 then m else ⟨m.heap.erase a, .freed a :: m.log⟩

def Ledger.write (m : Ledger β) (a : ℕ) (f : β → β) : Ledger β :=
  match m.heap.lookup a with
  | none => m
  | some v => ⟨m.heap.insert a (f v), m.log⟩

/-- The blocks that were allocated and not freed since. -/
def unfreed : List Effect → List ℕ
  | [] => []
  | .allocated a :: past => a :: unfreed past
  | .freed a :: past => (unfreed past).filter (· ≠ a)

def FreedOnce : List Effect → Prop
  | [] => True
  | .allocated a :: past => a ∉ unfreed past ∧ FreedOnce past
  | .freed a :: past => a ∈ unfreed past ∧ FreedOnce past

variable {m : Ledger β} {a : ℕ}

theorem usable_some {answer : Option (ℕ × γ)} {b : ℕ × γ} (h : m.usable answer = some b) :
    b.1 ≠ 0 ∧ m.heap.lookup b.1 = none := by
  have hfree := (Option.filter_eq_some_iff.mp h).2
  simp only [Bool.and_eq_true, decide_eq_true_eq, Option.isNone_iff_eq_none] at hfree
  exact hfree

theorem usable_map (m : Ledger β) (answer : Option (ℕ × γ)) (f : ℕ × γ → β) :
    m.usable (answer.map fun b => (b.1, f b)) = (m.usable answer).map fun b => (b.1, f b) := by
  cases answer with
  | none => rfl
  | some b =>
    unfold Ledger.usable
    rw [Option.map_some, Option.filter_some, Option.filter_some]
    split_ifs
    · rfl
    · rfl

theorem write_insert (heap : Heap β) (log : List Effect) (a : ℕ) (v : β) (f : β → β) :
    Ledger.write ⟨heap.insert a v, log⟩ a f = ⟨heap.insert a (f v), log⟩ := by
  unfold Ledger.write
  dsimp only
  rw [Finmap.lookup_insert]
  dsimp only
  rw [Finmap.insert_insert]

/-- The cells hold the blocks that are new with respect to `heap₀`, each of them once. -/
structure Owns (heap₀ : Heap β) (m : Ledger β) (cells : ι → ℕ) : Prop where
  apart : ∀ i j, cells i ≠ 0 → cells i = cells j → i = j
  live : ∀ i, cells i ≠ 0 → (m.heap.lookup (cells i)).isSome
  unused : ∀ a ∈ unfreed m.log, heap₀.lookup a = none
  frame : ∀ a ∉ unfreed m.log, m.heap.lookup a = heap₀.lookup a
  reachable : ∀ a, a ∈ unfreed m.log ↔ a ≠ 0 ∧ ∃ i, cells i = a
  freedOnce : FreedOnce m.log

variable {heap₀ : Heap β} {cells : ι → ℕ}

theorem owns_initial (heap₀ : Heap β) : Owns heap₀ ⟨heap₀, []⟩ fun _ : ι => 0 where
  apart := fun _ _ h => absurd rfl h
  live := fun _ h => absurd rfl h
  unused := fun _ h => absurd h List.not_mem_nil
  frame := fun _ _ => rfl
  reachable := by
    intro a
    constructor
    · exact fun h => absurd h List.not_mem_nil
    · rintro ⟨hne, -, heq⟩
      exact absurd heq.symm hne
  freedOnce := trivial

theorem Owns.fresh (h : Owns heap₀ m cells) (hfree : m.heap.lookup a = none) :
    a ∉ unfreed m.log := by
  intro hmem
  obtain ⟨hne, i, rfl⟩ := (h.reachable a).mp hmem
  have hlive := h.live i hne
  rw [hfree] at hlive
  cases hlive

variable [DecidableEq ι] {i : ι} {v : β}

/-- Cells stay apart when one of them is set to a block that no other has. -/
theorem update_apart {b : ℕ} (h : ∀ j k, cells j ≠ 0 → cells j = cells k → j = k)
    (hother : ∀ j, j ≠ i → cells j ≠ 0 → cells j ≠ b) (j k : ι)
    (hj : Function.update cells i b j ≠ 0)
    (hjk : Function.update cells i b j = Function.update cells i b k) : j = k := by
  by_cases hji : j = i
  · by_cases hki : k = i
    · rw [hji, hki]
    · rw [hji, Function.update_self] at hj
      rw [hji, Function.update_self, Function.update_of_ne hki] at hjk
      exact absurd hjk.symm (hother k hki (hjk ▸ hj))
  · rw [Function.update_of_ne hji] at hj hjk
    by_cases hki : k = i
    · rw [hki, Function.update_self] at hjk
      exact absurd hjk (hother j hji hj)
    · rw [Function.update_of_ne hki] at hjk
      exact h j k hj hjk

theorem Owns.allocate (h : Owns heap₀ m cells) (hi : cells i = 0) (ha : a ≠ 0)
    (hfree : m.heap.lookup a = none) :
    Owns heap₀ ⟨m.heap.insert a v, .allocated a :: m.log⟩ (Function.update cells i a) := by
  have hnew := h.fresh hfree
  have hother : ∀ j, cells j ≠ a := by
    intro j hj
    exact hnew ((h.reachable a).mpr ⟨ha, j, hj⟩)
  refine ⟨?_, ?_, ?_, ?_, ?_, ⟨hnew, h.freedOnce⟩⟩
  · exact update_apart h.apart fun j _ _ => hother j
  · intro j hj
    by_cases hji : j = i
    · rw [hji, Function.update_self, Finmap.lookup_insert]
      rfl
    · rw [Function.update_of_ne hji] at hj ⊢
      rw [Finmap.lookup_insert_of_ne _ (hother j)]
      exact h.live j hj
  · intro b hb
    rcases List.mem_cons.mp hb with rfl | hb
    · exact (h.frame b hnew).symm.trans hfree
    · exact h.unused b hb
  · intro b hb
    rw [unfreed, List.mem_cons, not_or] at hb
    rw [Finmap.lookup_insert_of_ne _ hb.1]
    exact h.frame b hb.2
  · intro b
    rw [unfreed, List.mem_cons, h.reachable]
    constructor
    · rintro (rfl | ⟨hb, j, rfl⟩)
      · exact ⟨ha, i, Function.update_self _ _ _⟩
      · have hji : j ≠ i := fun hji => hb (hji ▸ hi)
        exact ⟨hb, j, Function.update_of_ne hji _ _⟩
    · rintro ⟨hb, j, hj⟩
      by_cases hji : j = i
      · rw [hji, Function.update_self] at hj
        exact Or.inl hj.symm
      · rw [Function.update_of_ne hji] at hj
        exact Or.inr ⟨hb, j, hj⟩

theorem Owns.release (h : Owns heap₀ m cells) (hi : cells i ≠ 0) :
    Owns heap₀ (m.free (cells i)) (Function.update cells i 0) := by
  have hmem : cells i ∈ unfreed m.log := (h.reachable _).mpr ⟨hi, i, rfl⟩
  have hother : ∀ j, j ≠ i → cells j ≠ cells i := by
    intro j hji heq
    exact hji (h.apart i j hi heq.symm).symm
  rw [Ledger.free, if_neg hi]
  refine ⟨?_, ?_, ?_, ?_, ?_, ⟨hmem, h.freedOnce⟩⟩
  · exact update_apart h.apart fun _ _ hne => hne
  · intro j hj
    by_cases hji : j = i
    · rw [hji, Function.update_self] at hj
      exact absurd rfl hj
    · rw [Function.update_of_ne hji] at hj ⊢
      rw [Finmap.lookup_erase_ne (hother j hji)]
      exact h.live j hj
  · intro b hb
    exact h.unused b (List.mem_filter.mp hb).1
  · intro b hb
    by_cases hbi : b = cells i
    · rw [hbi, Finmap.lookup_erase, h.unused _ hmem]
    · rw [Finmap.lookup_erase_ne hbi]
      refine h.frame b fun hb' => hb ?_
      exact List.mem_filter.mpr ⟨hb', by simpa using hbi⟩
  · intro b
    rw [unfreed, List.mem_filter, h.reachable, decide_eq_true_eq]
    constructor
    · rintro ⟨⟨hb, j, rfl⟩, hne⟩
      have hji : j ≠ i := fun hji => hne (congrArg cells hji)
      exact ⟨hb, j, Function.update_of_ne hji _ _⟩
    · rintro ⟨hb, j, hj⟩
      by_cases hji : j = i
      · rw [hji, Function.update_self] at hj
        exact absurd hj.symm hb
      · rw [Function.update_of_ne hji] at hj
        exact ⟨⟨hb, j, hj⟩, hj ▸ hother j hji⟩

theorem erase_insert {heap : Heap β} (hfree : heap.lookup a = none) (v : β) :
    (heap.insert a v).erase a = heap := by
  apply Finmap.ext_lookup
  intro b
  by_cases hb : b = a
  · rw [hb, Finmap.lookup_erase, hfree]
  · rw [Finmap.lookup_erase_ne hb, Finmap.lookup_insert_of_ne _ hb]

omit [DecidableEq ι] in
theorem Owns.scratch (h : Owns heap₀ m cells) (ha : a ≠ 0) (hfree : m.heap.lookup a = none)
    (v : β) :
    Owns heap₀ (Ledger.free ⟨m.heap.insert a v, .allocated a :: m.log⟩ a) cells := by
  have hnew := h.fresh hfree
  have hunfreed : unfreed (.freed a :: .allocated a :: m.log) = unfreed m.log := by
    have hkeep : ∀ b ∈ unfreed m.log, decide (b ≠ a) = true := by
      intro b hb
      exact decide_eq_true fun heq => hnew (heq ▸ hb)
    rw [unfreed, unfreed, List.filter_cons_of_neg (by simp), List.filter_eq_self.mpr hkeep]
  rw [Ledger.free, if_neg ha]
  dsimp only
  rw [erase_insert hfree]
  exact ⟨h.apart, h.live, hunfreed ▸ h.unused, hunfreed ▸ h.frame, hunfreed ▸ h.reachable,
    ⟨List.mem_cons_self, hnew, h.freedOnce⟩⟩

/-- Every block that was allocated was freed once, and the heap is as it was. -/
structure Returned (heap₀ : Heap β) (m : Ledger β) : Prop where
  heap : m.heap = heap₀
  unfreed : unfreed m.log = []
  freedOnce : FreedOnce m.log

theorem owns_empty_iff : Owns heap₀ m (Empty.elim : Empty → ℕ) ↔ Returned heap₀ m := by
  constructor
  · intro h
    have hnone : ∀ a, a ∉ unfreed m.log := by
      intro a ha
      obtain ⟨-, i, -⟩ := (h.reachable a).mp ha
      exact i.elim
    exact ⟨Finmap.ext_lookup fun a => h.frame a (hnone a),
      List.eq_nil_iff_forall_not_mem.mpr hnone, h.freedOnce⟩
  · intro h
    refine ⟨fun i => i.elim, fun i => i.elim, ?_, fun a _ => by rw [h.heap], ?_, h.freedOnce⟩
    · rw [h.unfreed]
      exact fun a ha => absurd ha List.not_mem_nil
    · intro a
      rw [h.unfreed]
      exact iff_of_false List.not_mem_nil fun hi => hi.2.elim fun i _ => i.elim

theorem Returned.scratch (h : Returned heap₀ m) (ha : a ≠ 0) (hfree : m.heap.lookup a = none)
    (v : β) : Returned heap₀ (Ledger.free ⟨m.heap.insert a v, .allocated a :: m.log⟩ a) :=
  owns_empty_iff.mp ((owns_empty_iff.mpr h).scratch ha hfree v)

end OwnedBlocks
