import OpteeTest.GuardedRun
import OpteeTest.TeeApi
import Mathlib.Data.Fin.VecNotation
import Mathlib.Logic.Function.Basic

/-! # The storage buckets of the sims TA

Four buckets are shared by the sessions of the single instance. A read copies as much as the
output memref holds, and a write frees the stored block before it has a new one. -/
namespace SimsStore

open ByteMemory TeeApi GuardedRun

/-- A pointer is null, or stands for the memory seen from it, also past the end of its block. -/
abbrev Pointer := Option (Memory UInt8)

structure SimsBucket where
  size : UInt32
  data : Pointer

abbrev Storage := Fin 4 → SimsBucket

def initialStorage : Storage := fun _ => ⟨0, none⟩

/-- `TEE_Malloc` with hint `TEE_MALLOC_FILL_ZERO`, on the memory that the allocator found. -/
def teeMalloc (found : Pointer) (size : ℕ) : Pointer :=
  found.map fun m => copyIn m 0 (List.replicate size 0)

/-- `TEE_MemMove` from a pointer; the TA dies when it reads through null. -/
def teeMemMove (dest : Memory UInt8) (src : Pointer) (size : ℕ) : Option (Memory UInt8) :=
  match src with
  | some m => some (copyIn dest 0 (slice m 0 size))
  | none => if size = 0 then some dest else none

structure ReadOutcome where
  res : TeeResult
  params : TeeParams
  copied : ℕ

def simsReadTypes : UInt32 := teeParamTypes .valueInput .memrefOutput .none .none

/-- `sims_read`; `scratch` tells whether there was room for the 16000 bytes it never uses. -/
def simsRead (storage : Storage) (scratch : Bool) (paramTypes : UInt32) (params : TeeParams) :
    Option ReadOutcome :=
  if paramTypes ≠ simsReadTypes then some ⟨teeErrorBadParameters, params, 0⟩
  else if hindex : (params 0).value.a.toNat < 4 then
    let bucket := storage ⟨(params 0).value.a.toNat, hindex⟩
    if (params 1).memref.size < bucket.size then some ⟨teeErrorOverflow, params, 0⟩
    else if scratch then
      (teeMemMove (params 1).memref.buffer bucket.data (params 1).memref.size.toNat).map
        fun buffer => ⟨teeSuccess, Function.update params 1
          { params 1 with memref := { (params 1).memref with buffer := buffer } },
          (params 1).memref.size.toNat⟩
    else some ⟨teeErrorOutOfMemory, params, 0⟩
  else some ⟨teeErrorBadParameters, params, 0⟩

def simsWriteTypes : UInt32 := teeParamTypes .valueInput .memrefInput .none .none

def simsWrite (storage : Storage) (found : Pointer) (paramTypes : UInt32) (params : TeeParams) :
    TeeResult × Storage :=
  if paramTypes ≠ simsWriteTypes then (teeErrorBadParameters, storage)
  else if hindex : (params 0).value.a.toNat < 4 then
    let size := (params 1).memref.size
    match teeMalloc found size.toNat with
    | none => (teeErrorOutOfMemory,
        Function.update storage ⟨(params 0).value.a.toNat, hindex⟩ ⟨0, none⟩)
    | some block => (teeSuccess, Function.update storage ⟨(params 0).value.a.toNat, hindex⟩
        ⟨size, some (copyIn block 0 (slice (params 1).memref.buffer 0 size.toNat))⟩)
  else (teeErrorBadParameters, storage)

inductive SimsEvent where
  | read (session : ℕ) (scratch : Bool) (paramTypes : UInt32) (params : TeeParams)
  | write (session : ℕ) (found : Pointer) (paramTypes : UInt32) (params : TeeParams)

/-- The storage, and for each bucket the bytes of the last write that succeeded. -/
structure SimsState where
  storage : Storage
  written : Fin 4 → Option (List UInt8)

def initialState : SimsState := ⟨initialStorage, fun _ => none⟩

/-- A TA that died is loaded again with its storage empty. -/
def simsStep (s : SimsState) : SimsEvent → SimsState
  | .read _ scratch paramTypes params =>
    if (simsRead s.storage scratch paramTypes params).isSome then s
    else { s with storage := initialStorage }
  | .write _ found paramTypes params =>
    let out := simsWrite s.storage found paramTypes params
    { storage := out.2
      written := fun i => if out.1 = teeSuccess ∧ (params 0).value.a.toNat = i.val then
        some (slice (params 1).memref.buffer 0 (params 1).memref.size.toNat) else s.written i }

/-- A successful read copies from a stored block only, and delivers all of it. -/
structure ReadFaithful (written : Fin 4 → Option (List UInt8)) (params : TeeParams)
    (o : ReadOutcome) : Prop where
  delivered : o.res = teeSuccess → ∀ i bytes, (params 0).value.a.toNat = i.val →
    written i = some bytes → bytes.length ≤ (params 1).memref.size.toNat ∧
      slice (o.params 1).memref.buffer 0 bytes.length = bytes
  inside : ∀ i, (params 0).value.a.toNat = i.val → o.copied ≤ ((written i).getD []).length

/-- The TA survives a read, which is faithful; after a failed write every read does as before. -/
def Faithful (s : SimsState) : SimsEvent → Prop
  | .read _ scratch paramTypes params =>
    ∃ o, simsRead s.storage scratch paramTypes params = some o ∧ ReadFaithful s.written params o
  | .write _ found paramTypes params =>
    let out := simsWrite s.storage found paramTypes params
    out.1 ≠ teeSuccess → ∀ scratch types request,
      simsRead out.2 scratch types request = simsRead s.storage scratch types request

/-- A read that gets as far as the copy asks for the stored size; a write that finds no memory
is the first to its bucket. -/
def Exact (s : SimsState) : SimsEvent → Prop
  | .read _ scratch paramTypes params => paramTypes = simsReadTypes → scratch = true →
    ∀ i, (params 0).value.a.toNat = i.val →
      (s.storage i).size ≤ (params 1).memref.size → (params 1).memref.size = (s.storage i).size
  | .write _ found paramTypes params => paramTypes = simsWriteTypes → found = none →
    ∀ i, (params 0).value.a.toNat = i.val → (s.storage i).data = none

variable {storage : Storage} {params : TeeParams} {paramTypes : UInt32} {scratch : Bool}
variable {found : Pointer} {i : Fin 4}

def ReadCopies (storage : Storage) (scratch : Bool) (paramTypes : UInt32) (params : TeeParams)
    (i : Fin 4) : Prop :=
  paramTypes = simsReadTypes ∧ scratch = true ∧ (params 0).value.a.toNat = i.val ∧
    (storage i).size ≤ (params 1).memref.size

theorem simsRead_copies (h : ReadCopies storage scratch paramTypes params i) :
    simsRead storage scratch paramTypes params =
      (teeMemMove (params 1).memref.buffer (storage i).data (params 1).memref.size.toNat).map
        fun buffer => ⟨teeSuccess, Function.update params 1
          { params 1 with memref := { (params 1).memref with buffer := buffer } },
          (params 1).memref.size.toNat⟩ := by
  obtain ⟨rfl, rfl, hi, hsize⟩ := h
  have hindex : (params 0).value.a.toNat < 4 := hi ▸ i.isLt
  have hbucket : (⟨(params 0).value.a.toNat, hindex⟩ : Fin 4) = i := Fin.ext hi
  rw [simsRead, if_neg (fun hne => hne rfl), dif_pos hindex]
  simp only [hbucket, if_neg (UInt32.not_lt.mpr hsize), if_true]

theorem simsRead_refused (h : ∀ i, ¬ ReadCopies storage scratch paramTypes params i) :
    ∃ res, res ≠ teeSuccess ∧
      simsRead storage scratch paramTypes params = some ⟨res, params, 0⟩ := by
  have hbad : teeErrorBadParameters ≠ teeSuccess := by decide
  unfold simsRead
  by_cases htypes : paramTypes = simsReadTypes
  · rw [if_neg (fun hne => hne htypes)]
    by_cases hindex : (params 0).value.a.toNat < 4
    · rw [dif_pos hindex]
      by_cases hsize : (params 1).memref.size < (storage ⟨_, hindex⟩).size
      · exact ⟨teeErrorOverflow, by decide, by simp only [if_pos hsize]⟩
      · cases hscratch : scratch with
        | false => exact ⟨teeErrorOutOfMemory, by decide, by simp [if_neg hsize]⟩
        | true =>
          exact absurd ⟨htypes, hscratch, rfl, UInt32.not_lt.mp hsize⟩ (h ⟨_, hindex⟩)
    · exact ⟨teeErrorBadParameters, hbad, dif_neg hindex⟩
  · exact ⟨teeErrorBadParameters, hbad, if_pos htypes⟩

def WriteAllocates (paramTypes : UInt32) (params : TeeParams) (i : Fin 4) : Prop :=
  paramTypes = simsWriteTypes ∧ (params 0).value.a.toNat = i.val

theorem simsWrite_failed (h : WriteAllocates paramTypes params i) :
    simsWrite storage none paramTypes params =
      (teeErrorOutOfMemory, Function.update storage i ⟨0, none⟩) := by
  obtain ⟨rfl, hi⟩ := h
  have hindex : (params 0).value.a.toNat < 4 := hi ▸ i.isLt
  have hbucket : (⟨(params 0).value.a.toNat, hindex⟩ : Fin 4) = i := Fin.ext hi
  rw [simsWrite, if_neg (fun hne => hne rfl), dif_pos hindex, ← hbucket]
  rfl

def writtenBlock (m : Memory UInt8) (params : TeeParams) : Memory UInt8 :=
  let size := (params 1).memref.size.toNat
  copyIn (copyIn m 0 (List.replicate size 0)) 0 (slice (params 1).memref.buffer 0 size)

theorem writtenBlock_bytes (m : Memory UInt8) (params : TeeParams) :
    slice (writtenBlock m params) 0 (params 1).memref.size.toNat =
      slice (params 1).memref.buffer 0 (params 1).memref.size.toNat := by
  have h := slice_copyIn (copyIn m 0 (List.replicate (params 1).memref.size.toNat 0)) 0
    (slice (params 1).memref.buffer 0 (params 1).memref.size.toNat)
  rwa [length_slice] at h

theorem simsWrite_stored (h : WriteAllocates paramTypes params i) (m : Memory UInt8) :
    simsWrite storage (some m) paramTypes params = (teeSuccess,
      Function.update storage i ⟨(params 1).memref.size, some (writtenBlock m params)⟩) := by
  obtain ⟨rfl, hi⟩ := h
  have hindex : (params 0).value.a.toNat < 4 := hi ▸ i.isLt
  have hbucket : (⟨(params 0).value.a.toNat, hindex⟩ : Fin 4) = i := Fin.ext hi
  rw [simsWrite, if_neg (fun hne => hne rfl), dif_pos hindex, ← hbucket]
  rfl

theorem simsWrite_refused (h : ∀ i, ¬ WriteAllocates paramTypes params i) :
    simsWrite storage found paramTypes params = (teeErrorBadParameters, storage) := by
  unfold simsWrite
  by_cases htypes : paramTypes = simsWriteTypes
  · rw [if_neg (fun hne => hne htypes)]
    exact dif_neg fun hindex => h ⟨_, hindex⟩ ⟨htypes, rfl⟩
  · exact if_pos htypes

def Holds (bucket : SimsBucket) : Option (List UInt8) → Prop
  | none => bucket = ⟨0, none⟩
  | some bytes => bucket.size.toNat = bytes.length ∧
      ∃ m, bucket.data = some m ∧ slice m 0 bytes.length = bytes

def StoreInv (s : SimsState) : Prop := ∀ i, Holds (s.storage i) (s.written i)

theorem initial_inv : StoreInv initialState := fun _ => rfl

theorem holds_size {bucket : SimsBucket} {written : Option (List UInt8)}
    (h : Holds bucket written) : bucket.size.toNat = (written.getD []).length := by
  cases written with
  | none => rw [show bucket = ⟨0, none⟩ from h]; rfl
  | some bytes => exact h.1

theorem index_unique {i j : Fin 4} {n : ℕ} (hi : n = i.val) (hj : n = j.val) : i = j :=
  Fin.ext (hi.symm.trans hj)

theorem read_exact {s : SimsState} (hinv : StoreInv s)
    (h : ReadCopies s.storage scratch paramTypes params i)
    (hsize : (params 1).memref.size = (s.storage i).size) :
    ∃ o, simsRead s.storage scratch paramTypes params = some o ∧
      ReadFaithful s.written params o := by
  have hi := h.2.2.1
  have hlen := holds_size (hinv i)
  have hcopied : ∀ j : Fin 4, (params 0).value.a.toNat = j.val →
      (params 1).memref.size.toNat ≤ ((s.written j).getD []).length := fun j hj => by
    rw [hsize, index_unique hj hi, hlen]
  rw [simsRead_copies h]
  cases hw : s.written i with
  | none =>
    have hempty : s.storage i = ⟨0, none⟩ := by
      have := hinv i
      rwa [hw] at this
    rw [hempty] at hsize ⊢
    refine ⟨_, by rw [hsize]; rfl, fun _ j bytes hj hbytes => ?_, fun j hj => Nat.zero_le _⟩
    rw [index_unique hj hi, hw] at hbytes
    cases hbytes
  | some bytes =>
    obtain ⟨-, m, hdata, hm⟩ : Holds (s.storage i) (some bytes) := hw ▸ hinv i
    rw [hw, ← hsize] at hlen
    rw [hdata]
    refine ⟨_, rfl, fun _ j bytes' hj hbytes => ?_, hcopied⟩
    rw [index_unique hj hi, hw, Option.some_inj] at hbytes
    subst hbytes
    refine ⟨le_of_eq hlen.symm, ?_⟩
    have hcopy := slice_copyIn (params 1).memref.buffer 0 bytes
    rw [show (params 1).memref.size.toNat = bytes.length from hlen, hm]
    exact hcopy

/-- A read of more than the stored size copies past the block, or through null. -/
theorem read_long {s : SimsState} (hinv : StoreInv s)
    (h : ReadCopies s.storage scratch paramTypes params i)
    (hsize : (params 1).memref.size ≠ (s.storage i).size) :
    ¬ ∃ o, simsRead s.storage scratch paramTypes params = some o ∧
      ReadFaithful s.written params o := by
  rintro ⟨o, ho, hfaithful⟩
  have hlt : (s.storage i).size.toNat < (params 1).memref.size.toNat := by
    have hle := UInt32.le_iff_toNat_le.mp h.2.2.2
    exact Nat.lt_of_le_of_ne hle fun he => hsize (UInt32.toNat_inj.mp he.symm)
  have hinside := hfaithful.inside i h.2.2.1
  rw [← holds_size (hinv i)] at hinside
  rw [simsRead_copies h] at ho
  obtain ⟨buffer, -, rfl⟩ := Option.map_eq_some_iff.mp ho
  exact absurd hinside (Nat.not_le.mpr hlt)

theorem read_faithful_iff {s : SimsState} (hinv : StoreInv s) (session : ℕ) (scratch : Bool)
    (paramTypes : UInt32) (params : TeeParams) :
    Exact s (.read session scratch paramTypes params) ↔
      Faithful s (.read session scratch paramTypes params) := by
  by_cases h : ∃ i, ReadCopies s.storage scratch paramTypes params i
  · obtain ⟨i, h⟩ := h
    constructor
    · intro hexact
      exact read_exact hinv h (hexact h.1 h.2.1 i h.2.2.1 h.2.2.2)
    · intro hfaithful _ _ j hj _
      by_contra hsize
      rw [index_unique hj h.2.2.1] at hsize
      exact read_long hinv h hsize hfaithful
  · have hnone := not_exists.mp h
    refine iff_of_true (fun ht hs j hj hle => absurd ⟨ht, hs, hj, hle⟩ (hnone j)) ?_
    obtain ⟨res, hres, hread⟩ := simsRead_refused hnone
    exact ⟨_, hread, fun hsuccess => absurd hsuccess hres, fun _ _ => Nat.zero_le _⟩

def readRequest (i : Fin 4) (size : UInt32) : TeeParams :=
  ![⟨⟨UInt32.ofNat i.val, 0⟩, ⟨fun _ => 0, 0⟩⟩, ⟨⟨0, 0⟩, ⟨fun _ => 0, size⟩⟩,
    ⟨⟨0, 0⟩, ⟨fun _ => 0, 0⟩⟩, ⟨⟨0, 0⟩, ⟨fun _ => 0, 0⟩⟩]

theorem readRequest_copies (storage : Storage) (i : Fin 4) :
    ReadCopies storage true simsReadTypes (readRequest i 0xffffffff) i := by
  refine ⟨rfl, rfl, ?_, ?_⟩
  · change (UInt32.ofNat i.val).toNat = i.val
    rw [UInt32.toNat_ofNat']
    omega
  · have := (storage i).size.toNat_lt
    rw [UInt32.le_iff_toNat_le]
    change _ ≤ 0xffffffff
    omega

/-- A write that fails drops the block that was stored, so the next long read dies. -/
theorem write_lost (h : WriteAllocates paramTypes params i) (hdata : (storage i).data ≠ none) :
    ¬ ∀ scratch types request,
      simsRead (simsWrite storage none paramTypes params).2 scratch types request =
        simsRead storage scratch types request := by
  intro hsame
  rw [simsWrite_failed h] at hsame
  have hread := hsame true simsReadTypes (readRequest i 0xffffffff)
  have hafter : simsRead (Function.update storage i ⟨0, none⟩) true simsReadTypes
      (readRequest i 0xffffffff) = none := by
    rw [simsRead_copies (readRequest_copies _ i), Function.update_self]
    rfl
  obtain ⟨m, hm⟩ := Option.ne_none_iff_exists'.mp hdata
  rw [hafter, simsRead_copies (readRequest_copies _ i), hm] at hread
  cases hread

theorem write_failed_same {s : SimsState} (hinv : StoreInv s)
    (h : WriteAllocates paramTypes params i) (hdata : (s.storage i).data = none) :
    simsWrite s.storage none paramTypes params = (teeErrorOutOfMemory, s.storage) := by
  have hnull : s.storage i = ⟨0, none⟩ := by
    have hholds := hinv i
    cases hw : s.written i with
    | none => rwa [hw] at hholds
    | some bytes =>
      obtain ⟨-, m, hm, -⟩ : Holds (s.storage i) (some bytes) := hw ▸ hholds
      rw [hdata] at hm
      cases hm
  rw [simsWrite_failed h, Function.update_eq_self_iff.mpr hnull.symm]

theorem write_faithful_iff {s : SimsState} (hinv : StoreInv s) (session : ℕ) (found : Pointer)
    (paramTypes : UInt32) (params : TeeParams) :
    Exact s (.write session found paramTypes params) ↔
      Faithful s (.write session found paramTypes params) := by
  by_cases h : ∃ i, WriteAllocates paramTypes params i
  · obtain ⟨i, h⟩ := h
    cases found with
    | none =>
      constructor
      · intro hexact _ scratch types request
        rw [write_failed_same hinv h (hexact h.1 rfl i h.2)]
      · intro hfaithful _ _ j hj
        by_contra hdata
        rw [index_unique hj h.2] at hdata
        refine write_lost h hdata (hfaithful ?_)
        rw [simsWrite_failed h]
        exact show teeErrorOutOfMemory ≠ teeSuccess by decide
    | some m =>
      refine iff_of_true (fun _ hf => by cases hf) fun hfail => ?_
      rw [simsWrite_stored h m] at hfail
      exact absurd rfl hfail
  · have hnone := not_exists.mp h
    refine iff_of_true (fun ht _ j hj => absurd ⟨ht, hj⟩ (hnone j)) ?_
    intro _ scratch types request
    rw [simsWrite_refused hnone]

theorem exact_iff_faithful (s : SimsState) (e : SimsEvent) (hinv : StoreInv s) :
    Exact s e ↔ Faithful s e := by
  cases e with
  | read session scratch types params => exact read_faithful_iff hinv session scratch types params
  | write session found types params => exact write_faithful_iff hinv session found types params

theorem step_write {s : SimsState} {session : ℕ} {res : TeeResult} {storage' : Storage}
    (h : simsWrite s.storage found paramTypes params = (res, storage')) :
    simsStep s (.write session found paramTypes params) = ⟨storage', fun i =>
      if res = teeSuccess ∧ (params 0).value.a.toNat = i.val then
        some (slice (params 1).memref.buffer 0 (params 1).memref.size.toNat)
      else s.written i⟩ := by
  simp only [simsStep, h]

theorem step_write_error {s : SimsState} {session : ℕ} {res : TeeResult}
    (hres : res ≠ teeSuccess)
    (h : simsWrite s.storage found paramTypes params = (res, s.storage)) :
    simsStep s (.write session found paramTypes params) = s := by
  simp only [step_write h, hres, false_and, if_false]

theorem step_write_stored {s : SimsState} {session : ℕ} (hinv : StoreInv s)
    (h : WriteAllocates paramTypes params i) (m : Memory UInt8) :
    StoreInv (simsStep s (.write session (some m) paramTypes params)) := by
  rw [step_write (simsWrite_stored h m)]
  intro j
  by_cases hj : j = i
  · subst hj
    simp only [h.2, Function.update_self, and_self, if_true]
    refine ⟨(length_slice _ _ _).symm, _, rfl, ?_⟩
    rw [length_slice]
    exact writtenBlock_bytes m params
  · have hne : (params 0).value.a.toNat ≠ j.val := fun he => hj (index_unique he h.2)
    simp only [Function.update_of_ne hj, hne, and_false, if_false]
    exact hinv j

/-- The buckets hold what was written as long as every step is exact. -/
theorem step_inv (s : SimsState) (e : SimsEvent) (hinv : StoreInv s) (he : Exact s e) :
    StoreInv (simsStep s e) := by
  cases e with
  | read session scratch types params =>
    obtain ⟨o, ho, -⟩ := (read_faithful_iff hinv session scratch types params).mp he
    rw [simsStep, ho]
    exact hinv
  | write session found types params =>
    by_cases h : ∃ i, WriteAllocates types params i
    · obtain ⟨i, h⟩ := h
      cases found with
      | none =>
        rwa [step_write_error (by decide) (write_failed_same hinv h (he h.1 rfl i h.2))]
      | some m => exact step_write_stored hinv h m
    · rwa [step_write_error (by decide) (simsWrite_refused (not_exists.mp h))]

/-- The TA is a store in every run of exact steps, and in no other run. -/
theorem sims_store_faithful (es : List SimsEvent) :
    ValidTrace simsStep Exact initialState es ↔ ValidTrace simsStep Faithful initialState es :=
  validTrace_congr exact_iff_faithful step_inv initial_inv es

/-- A write of the byte 7 to bucket 0, and the same write when there is no memory. -/
def writeByte (found : Pointer) : SimsEvent :=
  .write 0 found simsWriteTypes ![⟨⟨0, 0⟩, ⟨fun _ => 0, 0⟩⟩, ⟨⟨0, 0⟩, ⟨fun _ => 7, 1⟩⟩,
    ⟨⟨0, 0⟩, ⟨fun _ => 0, 0⟩⟩, ⟨⟨0, 0⟩, ⟨fun _ => 0, 0⟩⟩]

/-- One byte is stored and two are read; a bucket is read that was never written; a second write
finds no memory. -/
theorem sims_store_broken :
    ¬ ValidTrace simsStep Faithful initialState
      [writeByte (some fun _ => 0), .read 1 true simsReadTypes (readRequest 0 2)] ∧
    ¬ ValidTrace simsStep Faithful initialState [.read 0 true simsReadTypes (readRequest 1 1)] ∧
    ¬ ValidTrace simsStep Faithful initialState
      [writeByte (some fun _ => 0), writeByte none] := by
  have hexact {es : List SimsEvent} (h : ValidTrace simsStep Faithful initialState es) :
      ValidTrace simsStep Exact initialState es :=
    (validTrace_congr exact_iff_faithful step_inv initial_inv es).mpr h
  refine ⟨fun h => ?_, fun h => ?_, fun h => ?_⟩
  · have hread := (hexact h).2.1 rfl rfl 0 rfl (by decide)
    exact absurd hread (by decide)
  · have hread := (hexact h).1 rfl rfl 1 rfl (by decide)
    exact absurd hread (by decide)
  · have hwrite := (hexact h).2.1 rfl rfl 0 rfl
    cases hwrite

end SimsStore
