import OpteeTest.SharedCounter
import OpteeTest.TeeApi
import Mathlib.Data.Fin.VecNotation
import Mathlib.Logic.Function.Basic

/-! # The commands of the concurrent TAs

Both TAs have the same two commands. Each call counts itself in the shared memory of its first
parameter while it works; what else it does stays in the call. -/
namespace ConcurrentCalls

open ByteMemory TeeApi GuardedRun SharedCounter

/-- What a call does outside of the counter; `tick` is one round of an empty loop. -/
inductive TaCall where
  | tick
  | malloc (size : UInt32)
  | free
  | allocateOperation (algorithm mode maxKeySize : UInt32)
  | resetOperation (operation : ℕ)
  | digestDoFinal (operation : ℕ) (chunk : List UInt8) (hashLen : UInt32)
  | freeOperation (operation : ℕ)

/-- What `TEE_DigestDoFinal` returns, and the output buffer and its length after it. -/
structure DigestReply where
  res : TeeResult
  out : Memory UInt8
  outLen : UInt32

def TaReply : TaCall → Type
  | .malloc _ => Option (Memory UInt8)
  | .allocateOperation _ _ _ => TeeResult × ℕ
  | .digestDoFinal _ _ _ => DigestReply
  | .tick | .free | .resetOperation _ | .freeOperation _ => Unit

abbrev TaTask := Task TaReply (TeeResult × TeeParams)

def teeHandleNull : ℕ := 0
def teeAlgSha256 : UInt32 := 0x50000004
def teeModeDigest : UInt32 := 5
def teeSha256HashSize : UInt32 := 32
def sizeofConcurrentShm : UInt32 := 4

def taConcurrentCmdBusyLoop : UInt32 := 0
def taConcurrentCmdSha256 : UInt32 := 1

def busyLoopTypes : UInt32 := teeParamTypes .memrefInout .valueInout .none .none
def sha256Types : UInt32 := teeParamTypes .memrefInout .valueInout .memrefInput .memrefOutput

def setCount (params : TeeParams) (count : UInt32) : TeeParams :=
  Function.update params 1 { params 1 with value := { (params 1).value with b := count } }

def setOutput (params : TeeParams) (d : DigestReply) : TeeParams :=
  Function.update params 3 { params 3 with memref :=
    ⟨copyIn (params 3).memref.buffer 0 (slice d.out 0 d.outLen.toNat), d.outLen⟩ }

def spin : ℕ → TaTask → TaTask
  | 0, k => k
  | n + 1, k => .call .tick fun _ => spin n k

def busyRounds : ℕ → TaTask → TaTask
  | 0, k => k
  | numRounds + 1, k => spin 1000 (busyRounds numRounds k)

def taEntryBusyLoop (paramTypes : UInt32) (params : TeeParams) : TaTask :=
  if paramTypes ≠ busyLoopTypes then .ret (teeErrorBadParameters, params)
  else if (params 0).memref.size < sizeofConcurrentShm then .ret (teeErrorBadParameters, params)
  else .inc fun count =>
    let params := setCount params count
    busyRounds (params 1).value.a.toNat (.dec fun _ => .ret (teeSuccess, params))

/-- The loop of `ta_entry_sha256`; a round that fails does not leave it. -/
def sha256Rounds (op : ℕ) (chunk : List UInt8) : ℕ → DigestReply → (DigestReply → TaTask) → TaTask
  | 0, d, k => k d
  | numRounds + 1, d, k => .call (.resetOperation op) fun _ =>
    .call (.digestDoFinal op chunk d.outLen) fun d' => sha256Rounds op chunk numRounds d' k

def sha256Out (allocated : Bool) (op : ℕ) (res : TeeResult) (params : TeeParams) : TaTask :=
  let finish : TaTask := .dec fun _ => .ret (res, params)
  let freeOp : TaTask :=
    if op ≠ teeHandleNull then .call (.freeOperation op) fun _ => finish else finish
  if allocated then .call .free fun _ => freeOp else freeOp

def taEntrySha256 (paramTypes : UInt32) (params : TeeParams) : TaTask :=
  if paramTypes ≠ sha256Types then .ret (teeErrorBadParameters, params)
  else if (params 0).memref.size < sizeofConcurrentShm then .ret (teeErrorBadParameters, params)
  else if (params 3).memref.size < teeSha256HashSize then .ret (teeErrorBadParameters, params)
  else .inc fun count =>
    let params := setCount params count
    let outLen := (params 3).memref.size
    .call (.malloc outLen) fun (found : Option (Memory UInt8)) =>
      match found with
      | none => sha256Out false teeHandleNull teeErrorOutOfMemory params
      | some out => .call (.allocateOperation teeAlgSha256 teeModeDigest 0)
        fun ((res, op) : TeeResult × ℕ) =>
          if res ≠ teeSuccess then sha256Out true op res params
          else
            let memref := (params 2).memref
            sha256Rounds op (slice memref.buffer 0 memref.size.toNat) (params 1).value.a.toNat
              ⟨res, out, outLen⟩ fun d => sha256Out true op d.res (setOutput params d)

structure Request where
  cmdId : UInt32
  paramTypes : UInt32
  params : TeeParams

def taInvokeCommand (r : Request) : TaTask :=
  if r.cmdId = taConcurrentCmdBusyLoop then taEntryBusyLoop r.paramTypes r.params
  else if r.cmdId = taConcurrentCmdSha256 then taEntrySha256 r.paramTypes r.params
  else .ret (teeErrorBadParameters, r.params)

def startCalls {n : ℕ} (initial : UInt32) (requests : Fin n → Request) :
    System TaReply (TeeResult × TeeParams) n :=
  start initial fun i => taInvokeCommand (requests i)

def Accepted (r : Request) : Prop :=
  sizeofConcurrentShm ≤ (r.params 0).memref.size ∧
    (r.cmdId = taConcurrentCmdBusyLoop ∧ r.paramTypes = busyLoopTypes ∨
      r.cmdId = taConcurrentCmdSha256 ∧ r.paramTypes = sha256Types ∧
        teeSha256HashSize ≤ (r.params 3).memref.size)

/-- A returned call has decremented as often as it has incremented: once if it was accepted, and
then it reports what its increment gave it. -/
structure CallExact (r : Request) (c : CallState TaReply (TeeResult × TeeParams)) : Prop where
  once : c.decs ≤ c.incs ∧ c.incs ≤ 1
  rejected : ¬ Accepted r → c.incs = 0 ∧ c.decs = 0
  returned : ∀ o, c.task = .ret o → c.incs = c.decs ∧
    (Accepted r → c.incs = 1 ∧ c.seen = some (o.2 1).value.b)

def callSteps (r : Request) : ℕ := 1000 * (r.params 1).value.a.toNat + 6

variable {good : TeeResult × TeeParams → Prop} {k : TaTask} {params : TeeParams} {r : Request}

@[simp] theorem setCount_b (params : TeeParams) (count : UInt32) :
    (setCount params count 1).value.b = count := by
  simp [setCount]

@[simp] theorem setCount_a (params : TeeParams) (count : UInt32) :
    (setCount params count 1).value.a = (params 1).value.a := by
  simp [setCount]

@[simp] theorem setOutput_value (params : TeeParams) (d : DigestReply) :
    (setOutput params d 1).value = (params 1).value := by
  simp [setOutput]

theorem spin_inside (h : k.Inside good) (n : ℕ) : (spin n k).Inside good := by
  induction n with
  | zero => exact h
  | succ n ih => exact fun _ => ih

theorem busyRounds_inside (h : k.Inside good) (n : ℕ) : (busyRounds n k).Inside good := by
  induction n with
  | zero => exact h
  | succ n ih => exact spin_inside ih 1000

theorem sha256Rounds_inside {op : ℕ} {chunk : List UInt8} {k : DigestReply → TaTask}
    (h : ∀ d, (k d).Inside good) (n : ℕ) (d : DigestReply) :
    (sha256Rounds op chunk n d k).Inside good := by
  induction n generalizing d with
  | zero => exact h d
  | succ n ih => exact fun _ d' => ih d'

theorem sha256Out_inside {res : TeeResult} (h : good (res, params)) (allocated : Bool) (op : ℕ) :
    (sha256Out allocated op res params).Inside good := by
  have hdec : (Task.dec fun _ => .ret (res, params) : TaTask).Inside good := fun _ => h
  have hop : (if op ≠ teeHandleNull then .call (.freeOperation op)
      fun _ => .dec fun _ => .ret (res, params) else .dec fun _ => .ret (res, params) :
      TaTask).Inside good := by
    split
    · exact fun _ => hdec
    · exact hdec
  cases allocated with
  | false => exact hop
  | true => exact fun _ => hop

def Reports (count : UInt32) (o : TeeResult × TeeParams) : Prop := (o.2 1).value.b = count

theorem busyLoop_before (hacc : Accepted r ↔ r.paramTypes = busyLoopTypes ∧
    sizeofConcurrentShm ≤ (r.params 0).memref.size) :
    (taEntryBusyLoop r.paramTypes r.params).Before (Accepted r) Reports := by
  rw [hacc, taEntryBusyLoop]
  split_ifs with htypes hsize
  · exact fun h => htypes h.1
  · exact fun h => absurd h.2 (UInt32.not_le.mpr hsize)
  · refine ⟨⟨not_not.mp htypes, UInt32.not_lt.mp hsize⟩, fun count => busyRounds_inside ?_ _⟩
    exact fun _ => setCount_b r.params count

theorem sha256_before (hacc : Accepted r ↔ r.paramTypes = sha256Types ∧
    sizeofConcurrentShm ≤ (r.params 0).memref.size ∧
      teeSha256HashSize ≤ (r.params 3).memref.size) :
    (taEntrySha256 r.paramTypes r.params).Before (Accepted r) Reports := by
  rw [hacc, taEntrySha256]
  split_ifs with htypes hsize hhash
  · exact fun h => htypes h.1
  · exact fun h => absurd h.2.1 (UInt32.not_le.mpr hsize)
  · exact fun h => absurd h.2.2 (UInt32.not_le.mpr hhash)
  · refine ⟨⟨not_not.mp htypes, UInt32.not_lt.mp hsize, UInt32.not_lt.mp hhash⟩, ?_⟩
    rintro count (_ | out)
    · exact sha256Out_inside (setCount_b r.params count) _ _
    · rintro ⟨res, op⟩
      by_cases hres : res ≠ teeSuccess
      · simp only [if_pos hres]
        exact sha256Out_inside (setCount_b r.params count) _ _
      · simp only [if_neg hres]
        refine sha256Rounds_inside (fun d => sha256Out_inside ?_ _ _) _ _
        simp [Reports]

theorem invoke_before (r : Request) : (taInvokeCommand r).Before (Accepted r) Reports := by
  have hcmd : taConcurrentCmdBusyLoop ≠ taConcurrentCmdSha256 := by decide
  rw [taInvokeCommand]
  split_ifs with hbusy hsha
  · apply busyLoop_before
    simp [Accepted, hbusy, hcmd, and_comm]
  · apply sha256_before
    simp [Accepted, hsha, hcmd.symm, and_left_comm]
  · exact fun h => h.2.elim (fun h => hbusy h.1) fun h => hsha h.1

theorem spin_within {j : ℕ} (h : k.Within j) (n : ℕ) : (spin n k).Within (j + n) := by
  induction n with
  | zero => exact h
  | succ n ih => exact fun _ => ih

theorem busyRounds_within {j : ℕ} (h : k.Within j) (n : ℕ) :
    (busyRounds n k).Within (1000 * n + j) := by
  induction n with
  | zero => simpa [busyRounds] using h
  | succ n ih => exact within_mono (spin_within ih 1000) (by omega)

theorem sha256Rounds_within {op j : ℕ} {chunk : List UInt8} {k : DigestReply → TaTask}
    (h : ∀ d, (k d).Within j) (n : ℕ) (d : DigestReply) :
    (sha256Rounds op chunk n d k).Within (j + 2 * n) := by
  induction n generalizing d with
  | zero => exact h d
  | succ n ih => exact fun _ d' => ih d'

theorem sha256Out_within (allocated : Bool) (op : ℕ) (res : TeeResult) (params : TeeParams) :
    (sha256Out allocated op res params).Within 3 := by
  have hdec : (Task.dec fun _ => .ret (res, params) : TaTask).Within 1 := fun _ => trivial
  have hop : (if op ≠ teeHandleNull then .call (.freeOperation op)
      fun _ => .dec fun _ => .ret (res, params) else .dec fun _ => .ret (res, params) :
      TaTask).Within 2 := by
    split
    · exact fun _ => hdec
    · exact within_mono hdec (by omega)
  cases allocated with
  | false => exact within_mono hop (by omega)
  | true => exact fun _ => hop

theorem busyLoop_within (paramTypes : UInt32) (params : TeeParams) :
    (taEntryBusyLoop paramTypes params).Within (1000 * (params 1).value.a.toNat + 6) := by
  rw [taEntryBusyLoop]
  split_ifs
  · trivial
  · trivial
  · intro count
    have hdec : (Task.dec fun _ => .ret (teeSuccess, setCount params count) : TaTask).Within 1 :=
      fun _ => trivial
    exact within_mono (busyRounds_within hdec _) (by rw [setCount_a]; omega)

theorem sha256_within (paramTypes : UInt32) (params : TeeParams) :
    (taEntrySha256 paramTypes params).Within (1000 * (params 1).value.a.toNat + 6) := by
  rw [taEntrySha256]
  split_ifs
  · trivial
  · trivial
  · trivial
  · rintro count (_ | out)
    · exact within_mono (sha256Out_within _ _ _ _) (by omega)
    · rintro ⟨res, op⟩
      by_cases hres : res ≠ teeSuccess
      · simp only [if_pos hres]
        exact within_mono (sha256Out_within _ _ _ _) (by omega)
      · simp only [if_neg hres]
        refine within_mono (sha256Rounds_within (fun d => sha256Out_within _ _ _ _) _ _) ?_
        rw [setCount_a]
        omega

theorem invoke_within (r : Request) : (taInvokeCommand r).Within (callSteps r) := by
  rw [taInvokeCommand]
  split_ifs
  · exact busyLoop_within r.paramTypes r.params
  · exact sha256_within r.paramTypes r.params
  · trivial

theorem call_exact {c : CallState TaReply (TeeResult × TeeParams)}
    (h : Stage (Accepted r) Reports c) : CallExact r c := by
  refine ⟨stage_once h, stage_rejected h, fun o ho => ?_⟩
  obtain ⟨hsame, hacc⟩ := stage_returned h ho
  refine ⟨hsame, fun ha => ?_⟩
  obtain ⟨hinc, v, hseen, hgood⟩ := hacc ha
  exact ⟨hinc, by rw [hseen, ← hgood]⟩

/-- The counter is exact in every state of every interleaving, and so is what every call does to
it; an increment gives its call the number of calls that are then active. -/
theorem active_count_exact {n : ℕ} (initial : UInt32) (requests : Fin n → Request)
    (hn : initial.toNat + n < 2 ^ 32) (ms : List (Move TaReply n)) :
    let s := runTrace step (startCalls initial requests) ms
    s.count.toNat = initial.toNat + active s ∧
    (∀ i, CallExact (requests i) (s.calls i)) ∧
    (∀ m i, (s.calls i).incs < ((step s m).calls i).incs →
      ∃ v, ((step s m).calls i).seen = some v ∧ initial.toNat + 1 ≤ v.toNat ∧
        v.toNat ≤ initial.toNat + active (step s m)) ∧
    ((∀ i, Returned (s.calls i)) → s.count = initial) ∧
    (∀ i, callSteps (requests i) ≤ movesOf i ms → Returned (s.calls i)) := by
  intro s
  have hinv : CounterInv initial (fun i => Accepted (requests i)) (fun _ => Reports) s :=
    run_inv hn (fun i => invoke_before (requests i)) ms
  refine ⟨hinv.count, fun i => call_exact (hinv.stage i), fun m i hi => ?_,
    returned_count hinv, fun i hms => run_returned (invoke_within (requests i)) hms⟩
  obtain ⟨v, hseen, hv, hpos⟩ := increment_seen hn hinv m hi
  exact ⟨v, hseen, by omega, by omega⟩

local instance twoCalls : NeZero 2 := ⟨by decide⟩

def twoRequests : Fin 2 → Request := fun _ =>
  ⟨taConcurrentCmdSha256, sha256Types, fun _ => ⟨⟨1, 0⟩, ⟨fun _ => 0, 32⟩⟩⟩

def noMemory : ∀ c, TaReply c
  | .malloc _ => none
  | .allocateOperation _ _ _ => (teeErrorOutOfMemory, teeHandleNull)
  | .digestDoFinal _ _ _ => ⟨teeErrorGeneric, fun _ => 0, 0⟩
  | .tick | .free | .resetOperation _ | .freeOperation _ => ()

/-- Both calls increment, and then neither finds memory. -/
def twoFailures : List (Move TaReply 2) :=
  [⟨0, noMemory⟩, ⟨1, noMemory⟩, ⟨0, noMemory⟩, ⟨1, noMemory⟩, ⟨1, noMemory⟩, ⟨0, noMemory⟩]

theorem two_failures_counted :
    (runTrace step (startCalls 7 twoRequests) twoFailures).count = 7 :=
  (active_count_exact 7 twoRequests (by decide) twoFailures).2.2.2.1 fun i => by
    match i with
    | 0 => exact ⟨_, rfl⟩
    | 1 => exact ⟨_, rfl⟩

end ConcurrentCalls
