import OpteeTest.ConcurrentCalls
import OpteeTest.Sha2Spec

/-! # What the sha256 command hands out

One call of `ta_entry_sha256` against a TEE that may refuse any of its steps. A round that fails
does not end the loop, and whatever the loop leaves is copied to the client. -/
namespace ConcurrentDigest

open ByteMemory TeeApi SharedCounter ConcurrentCalls Sha2Spec

/-- The answers to one call; `written` is what round `n` leaves in the buffer and its length. -/
structure Tee where
  incremented : UInt32
  decremented : UInt32
  malloc : Option (Memory UInt8)
  operation : TeeResult × ℕ
  result : ℕ → TeeResult
  written : ℕ → List UInt8 → UInt32 → Memory UInt8 → Memory UInt8 × UInt32

/-- A digest that succeeds is the SHA-256 of its input, given the room for it. -/
def Tee.Digests (E : Tee) : Prop :=
  ∀ n chunk len out, E.result n = teeSuccess → teeSha256HashSize ≤ len →
    slice (E.written n chunk len out).1 0 32 = sha256 chunk ∧
      (E.written n chunk len out).2 = teeSha256HashSize

/-- `TEE_DigestDoFinal` in round `n`, with the buffer and the length it is called with. -/
def Tee.digestDoFinal (E : Tee) (n : ℕ) (chunk : List UInt8) (len : UInt32) (out : Memory UInt8) :
    DigestReply :=
  ⟨E.result n, (E.written n chunk len out).1, (E.written n chunk len out).2⟩

/-- The outcome of a task that has had `n` rounds and has `out` in its buffer. -/
def Tee.outcome {α : Type} (E : Tee) (n : ℕ) (out : Memory UInt8) : Task TaReply α → α
  | .ret a => a
  | .inc k => E.outcome n out (k E.incremented)
  | .dec k => E.outcome n out (k E.decremented)
  | .call .tick k => E.outcome n out (k ())
  | .call (.malloc _) k => E.outcome n (E.malloc.getD out) (k E.malloc)
  | .call .free k => E.outcome n out (k ())
  | .call (.allocateOperation _ _ _) k => E.outcome n out (k E.operation)
  | .call (.resetOperation _) k => E.outcome n out (k ())
  | .call (.digestDoFinal _ chunk len) k =>
    let reply := E.digestDoFinal n chunk len out
    E.outcome (n + 1) reply.out (k reply)
  | .call (.freeOperation _) k => E.outcome n out (k ())

def numRounds (params : TeeParams) : ℕ := (params 1).value.a.toNat

def Tee.call (E : Tee) (paramTypes : UInt32) (params : TeeParams) : TeeResult × TeeParams :=
  E.outcome 0 (fun _ => 0) (taEntrySha256 paramTypes params)

def chunk (params : TeeParams) : List UInt8 :=
  slice (params 2).memref.buffer 0 (params 2).memref.size.toNat

def withOutput (params : TeeParams) (output : TeeMemref) : TeeParams :=
  Function.update params 3 { params 3 with memref := output }

/-- A success hands out the digest and no round failed; an error leaves the output alone. -/
structure DigestOrUntouched (E : Tee) (params : TeeParams) (o : TeeResult × TeeParams) :
    Prop where
  rounds : o.1 = teeSuccess → ∀ n < numRounds params, E.result n = teeSuccess
  digest : o.1 = teeSuccess → (o.2 3).memref.size = teeSha256HashSize ∧
    slice (o.2 3).memref.buffer 0 32 = sha256 (chunk params)
  untouched : o.1 ≠ teeSuccess → (o.2 3).memref = (params 3).memref

structure Loops (E : Tee) (paramTypes : UInt32) (params : TeeParams) (out : Memory UInt8) :
    Prop where
  types : paramTypes = sha256Types
  counter : sizeofConcurrentShm ≤ (params 0).memref.size
  room : teeSha256HashSize ≤ (params 3).memref.size
  granted : E.malloc = some out
  operation : E.operation.1 = teeSuccess

variable {E : Tee} {paramTypes : UInt32} {params : TeeParams} {out : Memory UInt8}

def Tee.rounds (E : Tee) (chunk : List UInt8) : ℕ → ℕ → DigestReply → DigestReply
  | _, 0, d => d
  | n, m + 1, d => E.rounds chunk (n + 1) m (E.digestDoFinal n chunk d.outLen d.out)

theorem outcome_rounds (chunk : List UInt8) (op : ℕ) (k : DigestReply → TaTask) (n m : ℕ)
    (d : DigestReply) : E.outcome n d.out (sha256Rounds op chunk m d k) =
      E.outcome (n + m) (E.rounds chunk n m d).out (k (E.rounds chunk n m d)) := by
  induction m generalizing n d with
  | zero => rfl
  | succ m ih =>
    have hnext := ih (n + 1) (E.digestDoFinal n chunk d.outLen d.out)
    rw [Nat.add_right_comm] at hnext
    exact hnext

@[simp] theorem outcome_out (allocated : Bool) (op n : ℕ) (res : TeeResult) :
    E.outcome n out (sha256Out allocated op res params) = (res, params) := by
  unfold sha256Out
  by_cases hop : op = teeHandleNull
  · cases allocated <;> simp [hop, Tee.outcome]
  · cases allocated <;> simp [hop, Tee.outcome]

/-- The result of the last round, or of what came before the loop. -/
theorem rounds_res {chunk : List UInt8} (n m : ℕ) (d : DigestReply) :
    (E.rounds chunk n (m + 1) d).res = E.result (n + m) := by
  induction m generalizing n d with
  | zero => rfl
  | succ m ih =>
    rw [Tee.rounds, ih]
    congr 1
    omega

/-- Rounds that all succeed leave the digest, and its length as the room of the next one. -/
theorem rounds_digest (hE : E.Digests) (chunk : List UInt8) {n m : ℕ} {d : DigestReply}
    (hlen : teeSha256HashSize ≤ d.outLen)
    (hsucc : ∀ i < m + 1, E.result (n + i) = teeSuccess) :
    slice (E.rounds chunk n (m + 1) d).out 0 32 = sha256 chunk ∧
      (E.rounds chunk n (m + 1) d).outLen = teeSha256HashSize := by
  induction m generalizing n d with
  | zero => exact hE n chunk d.outLen d.out (hsucc 0 Nat.one_pos) hlen
  | succ m ih =>
    have hfirst := hE n chunk d.outLen d.out (hsucc 0 (Nat.succ_pos _)) hlen
    apply ih
    · exact UInt32.le_of_eq hfirst.2.symm
    · intro i hi
      have hnext := hsucc (i + 1) (by omega)
      rwa [Nat.add_comm i 1, ← Nat.add_assoc] at hnext

def left (E : Tee) (params : TeeParams) (out : Memory UInt8) : DigestReply :=
  E.rounds (chunk params) 0 (numRounds params) ⟨teeSuccess, out, (params 3).memref.size⟩

theorem outcome_stops (h : ∀ out, ¬ Loops E paramTypes params out) :
    (E.call paramTypes params).1 ≠ teeSuccess ∧
      ((E.call paramTypes params).2 3).memref = (params 3).memref := by
  have hbad : teeErrorBadParameters ≠ teeSuccess := by decide
  have hmemory : teeErrorOutOfMemory ≠ teeSuccess := by decide
  unfold Tee.call taEntrySha256
  by_cases htypes : paramTypes = sha256Types
  case neg =>
    rw [if_pos htypes]
    exact ⟨hbad, rfl⟩
  rw [if_neg (not_not.mpr htypes)]
  by_cases hcounter : (params 0).memref.size < sizeofConcurrentShm
  · rw [if_pos hcounter]
    exact ⟨hbad, rfl⟩
  rw [if_neg hcounter]
  by_cases hroom : (params 3).memref.size < teeSha256HashSize
  · rw [if_pos hroom]
    exact ⟨hbad, rfl⟩
  rw [if_neg hroom]
  simp only [Tee.outcome]
  rcases hgranted : E.malloc with _ | out
  · simp only [outcome_out]
    exact ⟨hmemory, by simp [setCount]⟩
  · have hop : E.operation.1 ≠ teeSuccess := fun hop =>
      h out ⟨htypes, UInt32.not_lt.mp hcounter, UInt32.not_lt.mp hroom, hgranted, hop⟩
    simp only [Tee.outcome, if_pos hop, outcome_out]
    exact ⟨hop, by simp [setCount]⟩

theorem outcome_loops (h : Loops E paramTypes params out) :
    (E.call paramTypes params).1 = (left E params out).res ∧
      ((E.call paramTypes params).2 3).memref =
        ⟨copyIn (params 3).memref.buffer 0
          (slice (left E params out).out 0 (left E params out).outLen.toNat),
          (left E params out).outLen⟩ := by
  unfold Tee.call taEntrySha256
  rw [if_neg (not_not.mpr h.types), if_neg (UInt32.not_lt.mpr h.counter),
    if_neg (UInt32.not_lt.mpr h.room)]
  simp only [Tee.outcome, h.granted, Option.getD_some, h.operation]
  have hloop := outcome_rounds (E := E) (chunk params) E.operation.2
    (fun d => sha256Out true E.operation.2 d.res
      (setOutput (setCount params E.incremented) d)) 0 (numRounds params)
    ⟨teeSuccess, out, (params 3).memref.size⟩
  simp only [outcome_out] at hloop
  have hcount : (setCount params E.incremented 1).value.a = (params 1).value.a := setCount_a _ _
  have hinput : (setCount params E.incremented 2) = params 2 := by simp [setCount]
  have houtput : (setCount params E.incremented 3) = params 3 := by simp [setCount]
  rw [hcount, hinput, houtput]
  refine ⟨congrArg Prod.fst hloop, ?_⟩
  have hmemref := congrArg (fun o : TeeResult × TeeParams => (o.2 3).memref) hloop
  simp only [setOutput, Function.update_self, houtput] at hmemref
  exact hmemref

theorem untouched_of_stops (h : ∀ out, ¬ Loops E paramTypes params out) :
    DigestOrUntouched E params (E.call paramTypes params) := by
  obtain ⟨hres, hmemref⟩ := outcome_stops h
  exact ⟨fun hsucc => absurd hsucc hres, fun hsucc => absurd hsucc hres, fun _ => hmemref⟩

theorem digest_of_rounds (hE : E.Digests) (h : Loops E paramTypes params out)
    (hpos : 0 < numRounds params) (hsucc : ∀ n < numRounds params, E.result n = teeSuccess) :
    DigestOrUntouched E params (E.call paramTypes params) := by
  obtain ⟨hres, hmemref⟩ := outcome_loops h
  obtain ⟨last, hlast⟩ := Nat.exists_eq_add_of_lt hpos
  have hrounds : left E params out =
      E.rounds (chunk params) 0 (last + 1) ⟨teeSuccess, out, (params 3).memref.size⟩ := by
    rw [left, hlast, Nat.zero_add]
  have hfinal : (left E params out).res = teeSuccess := by
    rw [hrounds, rounds_res]
    exact hsucc _ (by omega)
  have hdigest := rounds_digest hE (chunk params) (n := 0) (m := last)
    (d := ⟨teeSuccess, out, (params 3).memref.size⟩) h.room
    (fun i hi => hsucc _ (by omega))
  rw [← hrounds] at hdigest
  refine ⟨fun _ => hsucc, fun _ => ?_, fun hfail => absurd (hres.trans hfinal) hfail⟩
  rw [hmemref]
  refine ⟨hdigest.2, ?_⟩
  have hcopied := slice_copyIn (params 3).memref.buffer 0 (slice (left E params out).out 0 32)
  rw [length_slice] at hcopied
  have hlen : (left E params out).outLen.toNat = 32 := congrArg UInt32.toNat hdigest.2
  dsimp only
  rw [hlen, hcopied]
  exact hdigest.1

/-- No rounds hand out the buffer as it was allocated, in all its length. -/
theorem not_digest_of_no_rounds (h : Loops E paramTypes params out) (hzero : numRounds params = 0)
    (hsize : (params 3).memref.size ≠ teeSha256HashSize) :
    ¬ DigestOrUntouched E params (E.call paramTypes params) := by
  intro hdigest
  obtain ⟨hres, hmemref⟩ := outcome_loops h
  have hleft : left E params out = ⟨teeSuccess, out, (params 3).memref.size⟩ := by
    rw [left, hzero]
    rfl
  rw [hleft] at hres hmemref
  apply hsize
  have hlen := (hdigest.digest hres).1
  rw [hmemref] at hlen
  exact hlen

theorem not_untouched_of_failed_round (h : Loops E paramTypes params out)
    (hres : (left E params out).res ≠ teeSuccess)
    (hsize : (params 3).memref.size = teeSha256HashSize)
    (hbuffer : (params 3).memref.buffer 0 ≠ (left E params out).out 0) :
    ¬ DigestOrUntouched E params (E.call paramTypes params) := by
  intro hdigest
  obtain ⟨hfail, hmemref⟩ := outcome_loops h
  rw [← hfail] at hres
  have hsame := hdigest.untouched hres
  rw [hmemref] at hsame
  have hlen : (left E params out).outLen = teeSha256HashSize :=
    (congrArg TeeMemref.size hsame).trans hsize
  have hpos : 0 < (left E params out).outLen.toNat := by
    rw [hlen]
    decide
  apply hbuffer
  have hfirst := congrFun (congrArg TeeMemref.buffer hsame) 0
  have hcopied : copyIn (params 3).memref.buffer 0
      (slice (left E params out).out 0 (left E params out).outLen.toNat) (0 + 0) = _ :=
    copyIn_inside _ (by rwa [length_slice])
  rw [← hfirst]
  refine hcopied.trans ?_
  rw [getElem_slice]

theorem left_withOutput (output : TeeMemref) : left E (withOutput params output) out =
    E.rounds (chunk params) 0 (numRounds params) ⟨teeSuccess, out, output.size⟩ := by
  simp [left, chunk, numRounds, withOutput]

/-- The output is a digest or untouched, whatever it was, exactly when the loop is not reached or
has rounds and none of them fails. -/
theorem sha256_digest_or_untouched_iff (hE : E.Digests) (paramTypes : UInt32)
    (params : TeeParams) :
    (∀ output, DigestOrUntouched E (withOutput params output)
        (E.call paramTypes (withOutput params output))) ↔
      paramTypes ≠ sha256Types ∨ (params 0).memref.size < sizeofConcurrentShm ∨
        E.malloc = none ∨ E.operation.1 ≠ teeSuccess ∨
        0 < numRounds params ∧ ∀ n < numRounds params, E.result n = teeSuccess := by
  constructor
  · intro hall
    by_contra hcond
    push Not at hcond
    obtain ⟨htypes, hcounter, hmalloc, hop, hrounds⟩ := hcond
    obtain ⟨out, hgranted⟩ := Option.ne_none_iff_exists'.mp hmalloc
    have hloops : ∀ output : TeeMemref, teeSha256HashSize ≤ output.size →
        Loops E paramTypes (withOutput params output) out := by
      intro output hroom
      refine ⟨htypes, UInt32.not_lt.mp ?_, ?_, hgranted, hop⟩
      · simpa [withOutput] using hcounter
      · simpa [withOutput] using hroom
    rcases Nat.eq_zero_or_pos (numRounds params) with hzero | hpos
    · -- no round at all: any other size is handed out as it came
      have hroom : teeSha256HashSize ≤ 64 := by decide
      have hsize : (64 : UInt32) ≠ teeSha256HashSize := by decide
      exact not_digest_of_no_rounds (hloops ⟨fun _ => 0, 64⟩ hroom) hzero hsize (hall _)
    obtain ⟨last, hlast⟩ := Nat.exists_eq_add_of_lt hpos
    rw [Nat.zero_add] at hlast
    by_cases hfinal : E.result last = teeSuccess
    · -- an earlier round failed, and the last one hid it
      obtain ⟨n, hn, hfailed⟩ := hrounds hpos
      have hloop := hloops ⟨fun _ => 0, teeSha256HashSize⟩ (UInt32.le_refl _)
      obtain ⟨hres, -⟩ := outcome_loops hloop
      rw [left_withOutput, hlast, rounds_res, Nat.zero_add, hfinal] at hres
      exact hfailed ((hall _).rounds hres n hn)
    · -- the last round failed: any other content is overwritten
      let d := E.rounds (chunk params) 0 (numRounds params) ⟨teeSuccess, out, teeSha256HashSize⟩
      have hloop := hloops ⟨fun _ => d.out 0 + 1, teeSha256HashSize⟩ (UInt32.le_refl _)
      refine not_untouched_of_failed_round hloop ?_ rfl ?_ (hall _)
      · rw [left_withOutput, hlast, rounds_res, Nat.zero_add]
        exact hfinal
      · rw [left_withOutput]
        have hother : d.out 0 + 1 ≠ d.out 0 := by simp
        exact hother
  · intro hcond output
    by_cases hstops : ∀ out, ¬ Loops E paramTypes (withOutput params output) out
    · exact untouched_of_stops hstops
    push Not at hstops
    obtain ⟨out, hloop⟩ := hstops
    rcases hcond with htypes | hcounter | hmalloc | hop | ⟨hpos, hsucc⟩
    · exact absurd hloop.types htypes
    · have hlarge := hloop.counter
      simp only [withOutput, ne_eq, Fin.reduceEq, not_false_eq_true, Function.update_of_ne]
        at hlarge
      exact absurd hcounter (UInt32.not_lt.mpr hlarge)
    · exact absurd (hloop.granted.symm.trans hmalloc) (Option.some_ne_none _)
    · exact absurd hloop.operation hop
    · exact digest_of_rounds hE hloop hpos hsucc

def hashing (result : ℕ → TeeResult) : Tee where
  incremented := 1
  decremented := 0
  malloc := some fun _ => 0
  operation := (teeSuccess, 1)
  result := result
  written n chunk len out :=
    if result n = teeSuccess then (copyIn out 0 (sha256 chunk), teeSha256HashSize) else (out, len)

theorem length_sha256 (message : List UInt8) : (sha256 message).length = 32 := by
  simp [sha256, hashBytes, BigEndian.beBytes_length]

theorem hashing_digests (result : ℕ → TeeResult) : (hashing result).Digests := by
  intro n chunk len out hsucc _
  have hwritten : (hashing result).written n chunk len out =
      (copyIn out 0 (sha256 chunk), teeSha256HashSize) := if_pos hsucc
  have hcopied := slice_copyIn out 0 (sha256 chunk)
  rw [length_sha256] at hcopied
  rw [hwritten]
  exact ⟨hcopied, rfl⟩

def request (a : UInt32) : TeeParams :=
  ![⟨⟨0, 0⟩, ⟨fun _ => 0, 4⟩⟩, ⟨⟨a, 0⟩, ⟨fun _ => 0, 0⟩⟩, ⟨⟨0, 0⟩, ⟨UInt8.ofNat, 100⟩⟩,
    ⟨⟨0, 0⟩, ⟨fun _ => 1, 64⟩⟩]

theorem digest_or_untouched_three_rounds :
    DigestOrUntouched (hashing fun _ => teeSuccess) (withOutput (request 3) ⟨fun _ => 1, 64⟩)
      ((hashing fun _ => teeSuccess).call sha256Types
        (withOutput (request 3) ⟨fun _ => 1, 64⟩)) :=
  (sha256_digest_or_untouched_iff (hashing_digests _) sha256Types (request 3)).mpr
    (Or.inr (Or.inr (Or.inr (Or.inr ⟨by decide, fun _ _ => rfl⟩)))) _

/-- Without rounds the client gets 64 zeros and `TEE_SUCCESS`. -/
theorem not_digest_no_rounds :
    ¬ DigestOrUntouched (hashing fun _ => teeSuccess) (request 0)
      ((hashing fun _ => teeSuccess).call sha256Types (request 0)) := by
  have hloops : Loops (hashing fun _ => teeSuccess) sha256Types (request 0) fun _ => 0 :=
    ⟨rfl, by decide, by decide, rfl, rfl⟩
  exact not_digest_of_no_rounds hloops (by decide) (by decide)

end ConcurrentDigest
