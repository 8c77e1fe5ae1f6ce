import Mathlib.Data.Finmap

/-! # A heap of typed blocks and the linked records in it

An address leads to a live block or to nothing. A layout says which blocks a record is made of and
where it points to; a segment is a chain of records. -/
namespace BlockHeap

variable {β γ : Type*}

abbrev Heap (β : Type*) := Finmap fun _ : ℕ => β

/-- Which of the requests it grants; the addresses it gives then are neither null nor in use. -/
structure Allocator (β : Type*) where
  grants : ℕ → Bool
  address : Heap β → ℕ → ℕ
  nonzero : ∀ heap size, address heap size ≠ 0
  unused : ∀ (heap : Heap β) (size : ℕ), heap.lookup (address heap size) = none

/-- Request `n`, for a block that is to hold `v`; a refused request gets null. -/
def Allocator.malloc (A : Allocator β) (n : ℕ) (heap : Heap β) (size : ℕ) (v : β) : ℕ × Heap β :=
  if A.grants n then (A.address heap size, heap.insert (A.address heap size) v) else (0, heap)

def Allocator.Grants (A : Allocator β) (lo hi : ℕ) : Prop :=
  ∀ n, lo ≤ n → n < hi → A.grants n = true

def Agree (heap heap' : Heap β) (addrs : List ℕ) : Prop :=
  ∀ a ∈ addrs, heap'.lookup a = heap.lookup a

/-- A heap that differs from an earlier one by new blocks at the addresses. -/
structure Extends (heap₀ heap : Heap β) (addrs : List ℕ) : Prop where
  nodup : addrs.Nodup
  nonzero : 0 ∉ addrs
  unused : ∀ a ∈ addrs, heap₀.lookup a = none
  live : ∀ a ∈ addrs, (heap.lookup a).isSome
  frame : ∀ a ∉ addrs, heap.lookup a = heap₀.lookup a

/-- A record with its address, its blocks, and what it is to hold for a record to follow it. -/
structure Layout (β γ : Type*) where
  head : γ → ℕ
  footprint : γ → List ℕ
  Holds : Heap β → γ → ℕ → Prop
  head_mem : ∀ c, head c ∈ footprint c
  frame : ∀ {heap heap' : Heap β} {c : γ} {next : ℕ}, Agree heap heap' (footprint c) →
    Holds heap c next → Holds heap' c next

def Layout.footprints (L : Layout β γ) (cs : List γ) : List ℕ := cs.flatMap L.footprint

/-- From `a` on the records follow one another, and the last one points to `b`. -/
inductive Segment (L : Layout β γ) (heap : Heap β) : ℕ → List γ → ℕ → Prop where
  | nil (a : ℕ) : Segment L heap a [] a
  | cons {c : γ} {cs : List γ} {next b : ℕ} (hc : L.Holds heap c next)
      (hs : Segment L heap next cs b) : Segment L heap (L.head c) (c :: cs) b

variable {heap₀ heap heap' : Heap β} {addrs addrs' : List ℕ} {a b : ℕ} {v : β}

theorem Extends.refl (heap : Heap β) : Extends heap heap [] := by
  constructor <;> simp

theorem Extends.eq (h : Extends heap₀ heap []) : heap = heap₀ :=
  Finmap.ext_lookup fun a => h.frame a List.not_mem_nil

theorem Extends.perm (h : Extends heap₀ heap addrs) (hp : addrs.Perm addrs') :
    Extends heap₀ heap addrs' where
  nodup := hp.nodup_iff.mp h.nodup
  nonzero := fun hz => h.nonzero (hp.mem_iff.mpr hz)
  unused := fun a ha => h.unused a (hp.mem_iff.mpr ha)
  live := fun a ha => h.live a (hp.mem_iff.mpr ha)
  frame := fun a ha => h.frame a fun hm => ha (hp.mem_iff.mp hm)

theorem Extends.trans (h : Extends heap₀ heap addrs) (h' : Extends heap heap' addrs') :
    Extends heap₀ heap' (addrs ++ addrs') := by
  have hapart : ∀ a ∈ addrs, a ∉ addrs' := by
    intro a ha ha'
    have hlive := h.live a ha
    rw [h'.unused a ha'] at hlive
    cases hlive
  refine ⟨h.nodup.append h'.nodup hapart, ?_, fun a ha => ?_, fun a ha => ?_, fun a ha => ?_⟩
  · simp [h.nonzero, h'.nonzero]
  · rcases List.mem_append.mp ha with hm | hm
    · exact h.unused a hm
    · rw [← h.frame a fun hold => hapart a hold hm]
      exact h'.unused a hm
  · rcases List.mem_append.mp ha with hm | hm
    · rw [h'.frame a (hapart a hm)]
      exact h.live a hm
    · exact h'.live a hm
  · rw [List.mem_append, not_or] at ha
    rw [h'.frame a ha.2, h.frame a ha.1]

theorem malloc_granted {A : Allocator β} {n : ℕ} (hn : A.grants n = true) (heap : Heap β)
    (size : ℕ) (v : β) : A.malloc n heap size v =
      (A.address heap size, heap.insert (A.address heap size) v) := if_pos hn

theorem malloc_refused {A : Allocator β} {n : ℕ} (hn : A.grants n ≠ true) (heap : Heap β)
    (size : ℕ) (v : β) : A.malloc n heap size v = (0, heap) := if_neg hn

theorem Extends.malloc (h : Extends heap₀ heap addrs) (A : Allocator β) (size : ℕ) (v : β) :
    Extends heap₀ (heap.insert (A.address heap size) v) (A.address heap size :: addrs) := by
  have hnew : A.address heap size ∉ addrs := by
    intro hm
    have hlive := h.live _ hm
    rw [A.unused] at hlive
    cases hlive
  refine ⟨List.nodup_cons.mpr ⟨hnew, h.nodup⟩, ?_, fun a ha => ?_, fun a ha => ?_,
    fun a ha => ?_⟩
  · simp [h.nonzero, (A.nonzero heap size).symm]
  · rcases List.mem_cons.mp ha with rfl | hm
    · rw [← h.frame _ hnew]
      exact A.unused heap size
    · exact h.unused a hm
  · rcases eq_or_ne a (A.address heap size) with rfl | hne
    · simp
    · rw [Finmap.lookup_insert_of_ne _ hne]
      exact h.live a ((List.mem_cons.mp ha).resolve_left hne)
  · rw [List.mem_cons, not_or] at ha
    rw [Finmap.lookup_insert_of_ne _ ha.1, h.frame a ha.2]

theorem Extends.write (h : Extends heap₀ heap addrs) (ha : a ∈ addrs) (v : β) :
    Extends heap₀ (heap.insert a v) addrs where
  nodup := h.nodup
  nonzero := h.nonzero
  unused := h.unused
  live := fun a' ha' => by
    rcases eq_or_ne a' a with rfl | hne
    · simp
    · rw [Finmap.lookup_insert_of_ne _ hne]
      exact h.live a' ha'
  frame := fun a' ha' => by
    have hne : a' ≠ a := fun heq => ha' (heq ▸ ha)
    rw [Finmap.lookup_insert_of_ne _ hne, h.frame a' ha']

theorem Extends.release (h : Extends heap₀ heap (a :: addrs)) :
    Extends heap₀ (heap.erase a) addrs := by
  obtain ⟨ha, hnodup⟩ := List.nodup_cons.mp h.nodup
  refine ⟨hnodup, fun hz => h.nonzero (List.mem_cons_of_mem _ hz),
    fun a' ha' => h.unused a' (List.mem_cons_of_mem _ ha'), fun a' ha' => ?_, fun a' ha' => ?_⟩
  · have hne : a' ≠ a := fun heq => ha (heq ▸ ha')
    rw [Finmap.lookup_erase_ne hne]
    exact h.live a' (List.mem_cons_of_mem _ ha')
  · rcases eq_or_ne a' a with rfl | hne
    · rw [Finmap.lookup_erase, h.unused a' List.mem_cons_self]
    · rw [Finmap.lookup_erase_ne hne]
      exact h.frame a' fun hm => ha' ((List.mem_cons.mp hm).resolve_left hne)

theorem Extends.apart (h : Extends heap₀ heap (addrs ++ addrs')) (ha : a ∈ addrs) :
    a ∉ addrs' :=
  fun ha' => List.disjoint_of_nodup_append h.nodup ha ha'

theorem agree_insert (h : a ∉ addrs) : Agree heap (heap.insert a v) addrs :=
  fun _ ha' => Finmap.lookup_insert_of_ne _ fun heq => h (heq ▸ ha')

theorem agree_erase (h : a ∉ addrs) : Agree heap (heap.erase a) addrs :=
  fun _ ha' => Finmap.lookup_erase_ne fun heq => h (heq ▸ ha')

theorem Agree.trans {heap'' : Heap β} (h : Agree heap heap' addrs)
    (h' : Agree heap' heap'' addrs) : Agree heap heap'' addrs :=
  fun a ha => (h' a ha).trans (h a ha)

theorem Extends.agree (h : Extends heap heap' addrs')
    (hlive : ∀ a ∈ addrs, (heap.lookup a).isSome) : Agree heap heap' addrs := by
  intro a ha
  refine h.frame a fun hnew => ?_
  have hsome := hlive a ha
  rw [h.unused a hnew] at hsome
  cases hsome

variable {L : Layout β γ} {c : γ} {cs : List γ}

theorem Segment.congr (h : Segment L heap a cs b) (hagree : Agree heap heap' (L.footprints cs)) :
    Segment L heap' a cs b := by
  induction h with
  | nil a => exact .nil a
  | cons hc hs ih =>
    refine .cons (L.frame (fun a ha => hagree a ?_) hc) (ih fun a ha => hagree a ?_)
    · exact List.mem_append_left _ ha
    · exact List.mem_append_right _ ha

theorem Segment.start_mem (h : Segment L heap a cs b) (hne : cs ≠ []) : a ∈ L.footprints cs := by
  cases h with
  | nil => exact absurd rfl hne
  | @cons c => exact List.mem_append_left _ (L.head_mem c)

theorem segment_concat : Segment L heap a (cs ++ [c]) b ↔
    Segment L heap a cs (L.head c) ∧ L.Holds heap c b := by
  induction cs generalizing a with
  | nil =>
    constructor
    · rintro (_ | ⟨hc, ⟨⟩⟩)
      exact ⟨.nil _, hc⟩
    · rintro ⟨⟨⟩, hc⟩
      exact .cons hc (.nil b)
  | cons d cs ih =>
    constructor
    · rintro (_ | ⟨hd, hs⟩)
      exact ⟨.cons hd (ih.mp hs).1, (ih.mp hs).2⟩
    · rintro ⟨_ | ⟨hd, hs⟩, hc⟩
      exact .cons hd (ih.mpr ⟨hs, hc⟩)

end BlockHeap

namespace Relocation

-- A store of objects by name and a heap by address, with a map from names to addresses. A function
-- that only follows the addresses it is given cannot tell the one from the other.

variable {ι κ β γ : Type*}

structure Placed (place : ι → κ) (objects : ι → Option β) (heap : κ → Option β) : Prop where
  holds : ∀ i, (objects i).isSome → heap (place i) = objects i
  apart : ∀ i j, (objects i).isSome → (objects j).isSome → place i = place j → i = j

variable {place : ι → κ} {objects : ι → Option β} {heap : κ → Option β}

theorem Placed.congr {heap' : κ → Option β} (h : Placed place objects heap)
    (hsame : ∀ i, (objects i).isSome → heap' (place i) = heap (place i)) :
    Placed place objects heap' :=
  ⟨fun i hi => (hsame i hi).trans (h.holds i hi), h.apart⟩

/-- The result depends on the objects at the given places, and on nothing else. -/
def Blind {n : ℕ} (f : (ℕ → Option β) → (Fin n → ℕ) → γ) : Prop :=
  ∀ (place : ℕ → ℕ) objects heap, Placed place objects heap →
    ∀ p : Fin n → ℕ, (∀ i, (objects (p i)).isSome) → f heap (place ∘ p) = f objects p

variable {m n : ℕ} {f : (ℕ → Option β) → (Fin n → ℕ) → γ}

/-- The places may be passed in another order, and one of them more than once. -/
theorem Blind.reindex (h : Blind f) (σ : Fin n → Fin m) : Blind fun heap p => f heap (p ∘ σ) :=
  fun place objects heap hplaced p hp => h place objects heap hplaced (p ∘ σ) fun i => hp (σ i)

theorem Blind.comp (h : Blind f) {δ : Type*} (g : γ → δ) : Blind fun heap p => g (f heap p) :=
  fun place objects heap hplaced p hp => congrArg g (h place objects heap hplaced p hp)

end Relocation
