import OpteeTest.OwnedBlocks
import OpteeTest.SimsStore

/-! # The heap blocks behind the buckets of the sims TA

Here a bucket points into a heap, and the allocator may answer a command with any address or with
null. Without the heap the commands are those of the store. -/
namespace SimsHeap

open ByteMemory (slice copyIn)
open BlockHeap TeeApi GuardedRun OwnedBlocks
open SimsStore (Pointer ReadOutcome teeMemMove simsReadTypes simsWriteTypes)

/-- A heap block: its size, and the memory seen from its address, also past its end. -/
structure Block where
  size : ℕ
  contents : ByteMemory.Memory UInt8

/-- `struct sims_bucket`; the address 0 is null. -/
structure SimsBucket where
  size : UInt32
  data : ℕ

structure State where
  storage : Fin 4 → SimsBucket
  memory : Ledger Block

def initial (heap₀ : Heap Block) : State := ⟨fun _ => ⟨0, 0⟩, ⟨heap₀, []⟩⟩

/-- What the allocator has for a block: an address, and the memory that it found there. -/
abbrev Answer := Option (ℕ × ByteMemory.Memory UInt8)

def teeMalloc (s : State) (answer : Answer) (size : ℕ) : ℕ × State :=
  let out := s.memory.malloc
    (answer.map fun b => (b.1, ⟨size, copyIn b.2 0 (List.replicate size 0)⟩))
  (out.1, { s with memory := out.2 })

def teeFree (s : State) (a : ℕ) : State := { s with memory := s.memory.free a }

def setBucket (s : State) (i : Fin 4) (bucket : SimsBucket) : State :=
  { s with storage := Function.update s.storage i bucket }

def storeBytes (s : State) (a : ℕ) (bytes : List UInt8) : State :=
  { s with memory := s.memory.write a fun b => { b with contents := copyIn b.contents 0 bytes } }

def pointer (s : State) (a : ℕ) : Pointer :=
  if a = 0 then none else (s.memory.heap.lookup a).map Block.contents

/-- `sims_read`, which has no outcome when the TA dies; `answer` is for the scratch block. -/
def simsRead (s : State) (answer : Answer) (paramTypes : UInt32) (params : TeeParams) :
    Option (ReadOutcome × State) :=
  if paramTypes ≠ simsReadTypes then some (⟨teeErrorBadParameters, params, 0⟩, s)
  else if hindex : (params 0).value.a.toNat < 4 then
    let bucket := s.storage ⟨(params 0).value.a.toNat, hindex⟩
    if (params 1).memref.size < bucket.size then some (⟨teeErrorOverflow, params, 0⟩, s)
    else
      let (p, s) := teeMalloc s answer 16000
      if p = 0 then some (⟨teeErrorOutOfMemory, params, 0⟩, s)
      else
        (teeMemMove (params 1).memref.buffer (pointer s bucket.data)
          (params 1).memref.size.toNat).map fun buffer =>
            (⟨teeSuccess, Function.update params 1
              { params 1 with memref := { (params 1).memref with buffer := buffer } },
              (params 1).memref.size.toNat⟩, teeFree s p)
  else some (⟨teeErrorBadParameters, params, 0⟩, s)

/-- `sims_write`; between the free and the assignment the bucket points to a block that is gone. -/
def simsWrite (s : State) (answer : Answer) (paramTypes : UInt32) (params : TeeParams) :
    TeeResult × State :=
  if paramTypes ≠ simsWriteTypes then (teeErrorBadParameters, s)
  else if hindex : (params 0).value.a.toNat < 4 then
    let i : Fin 4 := ⟨(params 0).value.a.toNat, hindex⟩
    let size := (params 1).memref.size
    let s := if (s.storage i).data ≠ 0 then teeFree s (s.storage i).data else s
    let (data, s) := teeMalloc s answer size.toNat
    let s := setBucket s i { s.storage i with data := data }
    if data = 0 then (teeErrorOutOfMemory, setBucket s i { s.storage i with size := 0 })
    else
      let s := setBucket s i { s.storage i with size := size }
      (teeSuccess, storeBytes s data (slice (params 1).memref.buffer 0 size.toNat))
  else (teeErrorBadParameters, s)

inductive SimsEvent where
  | read (answer : Answer) (paramTypes : UInt32) (params : TeeParams)
  | write (answer : Answer) (paramTypes : UInt32) (params : TeeParams)

/-- A state, and for each bucket the bytes of the last write that was addressed to it. -/
structure Run where
  state : State
  requested : Fin 4 → List UInt8

def start (heap₀ : Heap Block) : Run := ⟨initial heap₀, fun _ => []⟩

def payload (params : TeeParams) : List UInt8 :=
  slice (params 1).memref.buffer 0 (params 1).memref.size.toNat

/-- A TA that died is loaded again, with the heap that it had at first. -/
def simsStep (heap₀ : Heap Block) (s : Run) : SimsEvent → Run
  | .read answer paramTypes params =>
    match simsRead s.state answer paramTypes params with
    | none => start heap₀
    | some out => { s with state := out.2 }
  | .write answer paramTypes params =>
    { state := (simsWrite s.state answer paramTypes params).2
      requested := fun i =>
        if paramTypes = simsWriteTypes ∧ (params 0).value.a.toNat = i.val then payload params
        else s.requested i }

variable {s : State} {answer : Answer} {paramTypes : UInt32} {params : TeeParams} {i : Fin 4}
variable {a : ℕ} {found : ByteMemory.Memory UInt8}

theorem teeMalloc_refused (h : s.memory.usable answer = none) (size : ℕ) :
    teeMalloc s answer size = (0, s) := by
  unfold teeMalloc Ledger.malloc
  rw [usable_map, h]
  rfl

theorem teeMalloc_granted (h : s.memory.usable answer = some (a, found)) (size : ℕ) :
    teeMalloc s answer size = (a, { s with memory :=
      ⟨s.memory.heap.insert a ⟨size, copyIn found 0 (List.replicate size 0)⟩,
        .allocated a :: s.memory.log⟩ }) := by
  unfold teeMalloc Ledger.malloc
  rw [usable_map, h]
  rfl

def emptied (s : State) (i : Fin 4) : State := teeFree s (s.storage i).data

theorem emptied_eq (s : State) (i : Fin 4) :
    (if (s.storage i).data ≠ 0 then teeFree s (s.storage i).data else s) = emptied s i := by
  split_ifs with h
  · rfl
  · rw [emptied, not_not.mp h]
    rfl

theorem simsWrite_refused (h : SimsStore.WriteAllocates paramTypes params i)
    (hanswer : (emptied s i).memory.usable answer = none) :
    simsWrite s answer paramTypes params =
      (teeErrorOutOfMemory, ⟨Function.update s.storage i ⟨0, 0⟩, (emptied s i).memory⟩) := by
  obtain ⟨rfl, hi⟩ := h
  have hindex : (params 0).value.a.toNat < 4 := hi ▸ i.isLt
  have hbucket : (⟨(params 0).value.a.toNat, hindex⟩ : Fin 4) = i := Fin.ext hi
  rw [simsWrite, if_neg (fun hne => hne rfl), dif_pos hindex]
  simp only [hbucket, emptied_eq, teeMalloc_refused hanswer, if_true]
  simp only [setBucket, Function.update_idem, Function.update_self]
  rfl

def writtenBlock (found : ByteMemory.Memory UInt8) (params : TeeParams) : Block :=
  ⟨(params 1).memref.size.toNat, SimsStore.writtenBlock found params⟩

theorem simsWrite_stored (h : SimsStore.WriteAllocates paramTypes params i)
    (hanswer : (emptied s i).memory.usable answer = some (a, found)) :
    simsWrite s answer paramTypes params = (teeSuccess,
      ⟨Function.update s.storage i ⟨(params 1).memref.size, a⟩,
        ⟨(emptied s i).memory.heap.insert a (writtenBlock found params),
          .allocated a :: (emptied s i).memory.log⟩⟩) := by
  obtain ⟨rfl, hi⟩ := h
  have hindex : (params 0).value.a.toNat < 4 := hi ▸ i.isLt
  have hbucket : (⟨(params 0).value.a.toNat, hindex⟩ : Fin 4) = i := Fin.ext hi
  have hne : a ≠ 0 := (usable_some hanswer).1
  rw [simsWrite, if_neg (fun hne => hne rfl), dif_pos hindex]
  simp only [hbucket, emptied_eq, teeMalloc_granted hanswer, if_neg hne]
  simp only [setBucket, storeBytes, write_insert, Function.update_idem, Function.update_self]
  rfl

theorem simsWrite_bad (h : ∀ i, ¬ SimsStore.WriteAllocates paramTypes params i) :
    simsWrite s answer paramTypes params = (teeErrorBadParameters, s) := by
  unfold simsWrite
  by_cases htypes : paramTypes = simsWriteTypes
  · rw [if_neg (fun hne => hne htypes)]
    exact dif_neg fun hindex => h ⟨_, hindex⟩ ⟨htypes, rfl⟩
  · exact if_pos htypes

/-- A read changes nothing but the record of its scratch block, and nothing at all otherwise. -/
theorem simsRead_cases {out : ReadOutcome × State}
    (h : simsRead s answer paramTypes params = some out) : out.2 = s ∨ ∃ a found,
      s.memory.usable answer = some (a, found) ∧
      out.2 = ⟨s.storage, Ledger.free
        ⟨s.memory.heap.insert a ⟨16000, copyIn found 0 (List.replicate 16000 0)⟩,
          .allocated a :: s.memory.log⟩ a⟩ := by
  have hsame {o : ReadOutcome} (ho : some (o, s) = some out) : out.2 = s :=
    (congrArg Prod.snd (Option.some.inj ho)).symm
  unfold simsRead at h
  by_cases htypes : paramTypes ≠ simsReadTypes
  · rw [if_pos htypes] at h
    exact Or.inl (hsame h)
  · rw [if_neg htypes] at h
    by_cases hindex : (params 0).value.a.toNat < 4
    · rw [dif_pos hindex] at h
      dsimp only at h
      by_cases hsize : (params 1).memref.size < (s.storage ⟨_, hindex⟩).size
      · rw [if_pos hsize] at h
        exact Or.inl (hsame h)
      · rw [if_neg hsize] at h
        cases hanswer : s.memory.usable answer with
        | none =>
          rw [teeMalloc_refused hanswer] at h
          exact Or.inl (hsame h)
        | some b =>
          obtain ⟨a, found⟩ := b
          rw [teeMalloc_granted hanswer] at h
          dsimp only at h
          rw [if_neg (usable_some hanswer).1] at h
          obtain ⟨buffer, -, rfl⟩ := Option.map_eq_some_iff.mp h
          exact Or.inr ⟨a, found, rfl, rfl⟩
    · rw [dif_neg hindex] at h
      exact Or.inl (hsame h)

variable {heap₀ : Heap Block}

/-- A bucket without data is empty; any other owns a block of its size with the bytes that the
last write brought. -/
structure Sound (heap₀ : Heap Block) (s : Run) : Prop where
  owns : Owns heap₀ s.state.memory fun i => (s.state.storage i).data
  null : ∀ i, (s.state.storage i).data = 0 → (s.state.storage i).size = 0
  block : ∀ i, (s.state.storage i).data ≠ 0 → ∃ b,
    s.state.memory.heap.lookup (s.state.storage i).data = some b ∧
      b.size = (s.state.storage i).size.toNat ∧ slice b.contents 0 b.size = s.requested i

theorem start_sound (heap₀ : Heap Block) : Sound heap₀ (start heap₀) where
  owns := owns_initial heap₀
  null := fun _ _ => rfl
  block := fun _ h => absurd rfl h

theorem data_update (storage : Fin 4 → SimsBucket) (i : Fin 4) (b : SimsBucket) :
    (fun j => (Function.update storage i b j).data) =
      Function.update (fun j => (storage j).data) i b.data := by
  funext j
  by_cases hj : j = i
  · rw [hj, Function.update_self, Function.update_self]
  · rw [Function.update_of_ne hj, Function.update_of_ne hj]

/-- Without its old block the bucket owns nothing, although it may still point there. -/
theorem emptied_owns (h : Owns heap₀ s.memory fun j => (s.storage j).data) (i : Fin 4) :
    Owns heap₀ (emptied s i).memory (Function.update (fun j => (s.storage j).data) i 0) := by
  by_cases hi : (s.storage i).data = 0
  · have hsame : emptied s i = s := by
      rw [emptied, hi]
      rfl
    rw [hsame, Function.update_eq_self_iff.mpr hi.symm]
    exact h
  · exact h.release hi

theorem emptied_lookup (h : Owns heap₀ s.memory fun j => (s.storage j).data) {j : Fin 4}
    (hj : j ≠ i) (hlive : (s.storage j).data ≠ 0) :
    (emptied s i).memory.heap.lookup (s.storage j).data =
      s.memory.heap.lookup (s.storage j).data := by
  have hne : (s.storage j).data ≠ (s.storage i).data := fun heq => hj (h.apart j i hlive heq)
  unfold emptied teeFree Ledger.free
  split_ifs
  · rfl
  · exact Finmap.lookup_erase_ne hne

theorem read_sound {r : Run} (h : Sound heap₀ r) {out : ReadOutcome × State}
    (hread : simsRead r.state answer paramTypes params = some out) :
    Sound heap₀ { r with state := out.2 } := by
  rcases simsRead_cases hread with hsame | ⟨a, found, hanswer, hstate⟩
  · rw [hsame]
    exact h
  · obtain ⟨hne, hfree⟩ := usable_some hanswer
    rw [hstate]
    refine ⟨h.owns.scratch hne hfree _, h.null, fun i hi => ?_⟩
    obtain ⟨b, hb, hsize, hbytes⟩ := h.block i hi
    refine ⟨b, ?_, hsize, hbytes⟩
    rw [Ledger.free, if_neg hne]
    dsimp only
    rw [erase_insert hfree]
    exact hb

/-- The bytes of the buckets that a write to bucket `i` is not for. -/
theorem other_block {r : Run} (h : Sound heap₀ r) {j : Fin 4} (hj : j ≠ i)
    (hdata : (r.state.storage j).data ≠ 0) : ∃ b,
    (emptied r.state i).memory.heap.lookup (r.state.storage j).data = some b ∧
      b.size = (r.state.storage j).size.toNat ∧ slice b.contents 0 b.size = r.requested j := by
  rw [emptied_lookup h.owns hj hdata]
  exact h.block j hdata

theorem write_refused_sound {r : Run} (h : Sound heap₀ r) (i : Fin 4)
    {requested : Fin 4 → List UInt8} (hother : ∀ j, j ≠ i → requested j = r.requested j) :
    Sound heap₀ ⟨⟨Function.update r.state.storage i ⟨0, 0⟩, (emptied r.state i).memory⟩,
      requested⟩ where
  owns := by
    dsimp only
    rw [data_update]
    exact emptied_owns h.owns i
  null := by
    intro j
    dsimp only
    by_cases hj : j = i
    · rw [hj, Function.update_self]
      exact fun _ => rfl
    · rw [Function.update_of_ne hj]
      exact h.null j
  block := by
    intro j
    dsimp only
    by_cases hj : j = i
    · rw [hj, Function.update_self]
      exact fun hne => absurd rfl hne
    · rw [Function.update_of_ne hj, hother j hj]
      exact other_block h hj

theorem write_stored_sound {r : Run} (h : Sound heap₀ r)
    (hanswer : (emptied r.state i).memory.usable answer = some (a, found))
    {requested : Fin 4 → List UInt8} (hself : requested i = payload params)
    (hother : ∀ j, j ≠ i → requested j = r.requested j) :
    Sound heap₀ ⟨⟨Function.update r.state.storage i ⟨(params 1).memref.size, a⟩,
      ⟨(emptied r.state i).memory.heap.insert a (writtenBlock found params),
        .allocated a :: (emptied r.state i).memory.log⟩⟩, requested⟩ := by
  obtain ⟨hne, hfree⟩ := usable_some hanswer
  have howns := emptied_owns h.owns i
  constructor
  · have hnew := howns.allocate (i := i) (v := writtenBlock found params)
      (Function.update_self _ _ _) hne hfree
    rw [Function.update_idem] at hnew
    dsimp only
    rw [data_update]
    exact hnew
  · intro j
    dsimp only
    by_cases hj : j = i
    · rw [hj, Function.update_self]
      exact fun hzero => absurd hzero hne
    · rw [Function.update_of_ne hj]
      exact h.null j
  · intro j
    dsimp only
    by_cases hj : j = i
    · rw [hj, Function.update_self, hself]
      exact fun _ => ⟨_, Finmap.lookup_insert _, rfl, SimsStore.writtenBlock_bytes found params⟩
    · rw [Function.update_of_ne hj, hother j hj]
      intro hdata
      obtain ⟨b, hb, hblock⟩ := other_block h hj hdata
      have hold : (r.state.storage j).data ≠ a := by
        intro heq
        rw [heq, hfree] at hb
        cases hb
      rw [Finmap.lookup_insert_of_ne _ hold]
      exact ⟨b, hb, hblock⟩

theorem step_sound (r : Run) (e : SimsEvent) (h : Sound heap₀ r) :
    Sound heap₀ (simsStep heap₀ r e) := by
  cases e with
  | read answer paramTypes params =>
    rw [simsStep]
    cases hread : simsRead r.state answer paramTypes params with
    | none => exact start_sound heap₀
    | some out => exact read_sound h hread
  | write answer paramTypes params =>
    rw [simsStep]
    by_cases hw : ∃ i, SimsStore.WriteAllocates paramTypes params i
    · obtain ⟨i, hw⟩ := hw
      have hother : ∀ j : Fin 4, j ≠ i → (if paramTypes = simsWriteTypes ∧
          (params 0).value.a.toNat = j.val then payload params else r.requested j) =
            r.requested j :=
        fun j hj => if_neg fun hreq => hj (SimsStore.index_unique hreq.2 hw.2)
      cases hanswer : (emptied r.state i).memory.usable answer with
      | none =>
        rw [simsWrite_refused hw hanswer]
        exact write_refused_sound h i hother
      | some b =>
        rw [simsWrite_stored hw hanswer]
        exact write_stored_sound h hanswer (if_pos hw) hother
    · have hnone := not_exists.mp hw
      have hkeep : (fun i : Fin 4 => if paramTypes = simsWriteTypes ∧
          (params 0).value.a.toNat = i.val then payload params else r.requested i) =
            r.requested :=
        funext fun i => if_neg (hnone i)
      rw [simsWrite_bad hnone, hkeep]
      exact h

/-- In every run, whatever the allocator answers: no block is shared, lost or freed twice. -/
theorem buckets_sound (heap₀ : Heap Block) (es : List SimsEvent) :
    Sound heap₀ (runTrace (simsStep heap₀) (start heap₀) es) :=
  invariant_runTrace step_sound (start_sound heap₀) es

def view (s : State) : SimsStore.Storage :=
  fun i => ⟨(s.storage i).size, pointer s (s.storage i).data⟩

def granted (m : Ledger Block) (answer : Answer) : Pointer := (m.usable answer).map Prod.snd

theorem view_initial (heap₀ : Heap Block) : view (initial heap₀) = SimsStore.initialStorage := rfl

/-- A pointer leads where it led before when its block is still there. -/
theorem pointer_congr {t : State} {a : ℕ}
    (h : a ≠ 0 → t.memory.heap.lookup a = s.memory.heap.lookup a) : pointer t a = pointer s a := by
  unfold pointer
  split_ifs with hzero
  · rfl
  · rw [h hzero]

theorem view_update {m : Ledger Block} {b : SimsBucket} {p : Pointer}
    (hself : pointer ⟨s.storage, m⟩ b.data = p)
    (hother : ∀ j, j ≠ i → (s.storage j).data ≠ 0 →
      m.heap.lookup (s.storage j).data = s.memory.heap.lookup (s.storage j).data) :
    view ⟨Function.update s.storage i b, m⟩ = Function.update (view s) i ⟨b.size, p⟩ := by
  funext j
  by_cases hj : j = i
  · subst hj
    rw [Function.update_self, ← hself]
    simp only [view, Function.update_self]
    rfl
  · rw [Function.update_of_ne hj]
    simp only [view, Function.update_of_ne hj]
    exact congrArg (SimsStore.SimsBucket.mk _) (pointer_congr (hother j hj))

theorem write_refines (h : Owns heap₀ s.memory fun j => (s.storage j).data)
    (hw : SimsStore.WriteAllocates paramTypes params i) :
    SimsStore.simsWrite (view s) (granted (emptied s i).memory answer) paramTypes params =
      ((simsWrite s answer paramTypes params).1,
        view (simsWrite s answer paramTypes params).2) := by
  unfold granted
  cases hanswer : (emptied s i).memory.usable answer with
  | none =>
    rw [simsWrite_refused hw hanswer]
    rw [view_update rfl fun j hj => emptied_lookup h hj]
    exact SimsStore.simsWrite_failed hw
  | some b =>
    obtain ⟨a, found⟩ := b
    obtain ⟨hne, hfree⟩ := usable_some hanswer
    rw [simsWrite_stored hw hanswer]
    rw [view_update (p := some (SimsStore.writtenBlock found params))]
    · exact SimsStore.simsWrite_stored hw found
    · unfold pointer
      rw [if_neg hne]
      dsimp only
      rw [Finmap.lookup_insert]
      rfl
    · intro j hj hdata
      have hold := emptied_lookup h hj hdata
      have hlive := h.live j hdata
      have hapart : (s.storage j).data ≠ a := by
        intro heq
        rw [← hold, heq, hfree] at hlive
        cases hlive
      dsimp only
      rw [Finmap.lookup_insert_of_ne _ hapart, hold]

theorem scratch_pointer {p : ℕ} {v : Block} {log : List Effect}
    (hlive : p ≠ 0 → (s.memory.heap.lookup p).isSome) (hfree : s.memory.heap.lookup a = none) :
    pointer ⟨s.storage, ⟨s.memory.heap.insert a v, log⟩⟩ p = pointer s p := by
  refine pointer_congr fun hp => Finmap.lookup_insert_of_ne _ fun heq => ?_
  have hsome := hlive hp
  rw [heq, hfree] at hsome
  cases hsome

theorem read_refines (h : Owns heap₀ s.memory fun j => (s.storage j).data) :
    (simsRead s answer paramTypes params).map Prod.fst =
      SimsStore.simsRead (view s) (granted s.memory answer).isSome paramTypes params := by
  unfold simsRead SimsStore.simsRead granted
  by_cases htypes : paramTypes ≠ simsReadTypes
  · rw [if_pos htypes, if_pos htypes]
    rfl
  · rw [if_neg htypes, if_neg htypes]
    by_cases hindex : (params 0).value.a.toNat < 4
    · rw [dif_pos hindex, dif_pos hindex]
      dsimp only [view]
      generalize (⟨(params 0).value.a.toNat, hindex⟩ : Fin 4) = i
      by_cases hsize : (params 1).memref.size < (s.storage i).size
      · rw [if_pos hsize, if_pos hsize]
        rfl
      · rw [if_neg hsize, if_neg hsize]
        cases hanswer : s.memory.usable answer with
        | none =>
          rw [teeMalloc_refused hanswer]
          rfl
        | some b =>
          obtain ⟨a, found⟩ := b
          obtain ⟨hne, hfree⟩ := usable_some hanswer
          rw [teeMalloc_granted hanswer]
          dsimp only
          rw [if_neg hne, scratch_pointer (h.live i) hfree, Option.map_map, Option.map_some,
            Option.isSome_some, if_pos rfl]
          rfl
    · rw [dif_neg hindex, dif_neg hindex]
      rfl

theorem read_view {out : ReadOutcome × State}
    (h : simsRead s answer paramTypes params = some out) : view out.2 = view s := by
  rcases simsRead_cases h with hsame | ⟨a, found, hanswer, hstate⟩
  · rw [hsame]
  · obtain ⟨hne, hfree⟩ := usable_some hanswer
    rw [hstate, Ledger.free, if_neg hne]
    dsimp only
    rw [erase_insert hfree]
    rfl

theorem step_refines {r : Run} (h : Sound heap₀ r) (e : SimsEvent) {t : SimsStore.SimsState}
    (ht : t.storage = view r.state) :
    ∃ e', (SimsStore.simsStep t e').storage = view (simsStep heap₀ r e).state := by
  cases e with
  | read answer paramTypes params =>
    refine ⟨.read 0 (granted r.state.memory answer).isSome paramTypes params, ?_⟩
    rw [SimsStore.simsStep, ht, ← read_refines h.owns, simsStep]
    cases hout : simsRead r.state answer paramTypes params with
    | none => rfl
    | some out => exact ht.trans (read_view hout).symm
  | write answer paramTypes params =>
    by_cases hw : ∃ i, SimsStore.WriteAllocates paramTypes params i
    · obtain ⟨i, hw⟩ := hw
      refine ⟨.write 0 (granted (emptied r.state i).memory answer) paramTypes params, ?_⟩
      rw [simsStep, SimsStore.simsStep, ht, write_refines h.owns hw]
    · refine ⟨.write 0 none paramTypes params, ?_⟩
      rw [simsStep, SimsStore.simsStep, ht, SimsStore.simsWrite_refused (not_exists.mp hw),
        simsWrite_bad (not_exists.mp hw)]

theorem run_refines (heap₀ : Heap Block) (es : List SimsEvent) :
    ∃ es', (runTrace SimsStore.simsStep SimsStore.initialState es').storage =
      view (runTrace (simsStep heap₀) (start heap₀) es).state := by
  have hrun : ∀ r t, Sound heap₀ r → SimsStore.SimsState.storage t = view r.state →
      ∃ es', (runTrace SimsStore.simsStep t es').storage =
        view (runTrace (simsStep heap₀) r es).state := by
    induction es with
    | nil => exact fun r t _ ht => ⟨[], ht⟩
    | cons e es ih =>
      intro r t h ht
      obtain ⟨e', he⟩ := step_refines h e ht
      obtain ⟨es', hes⟩ := ih _ _ (step_sound r e h) he
      exact ⟨e' :: es', hes⟩
  exact hrun _ _ (start_sound heap₀) (view_initial heap₀).symm

end SimsHeap
