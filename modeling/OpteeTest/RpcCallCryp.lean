import OpteeTest.TeeCalls
import OpteeTest.ClientApi
import Mathlib.Data.List.FinRange

/-! # Calls from one trusted application to another

`rpc_call_cryp` hands its parameters on, by bounce buffers or by a copy of the parameter array.
The caller's buffers lie in one address space, where they may overlap; the blocks of `TEE_Malloc`
are apart from it and from one another. -/
namespace RpcCallCryp

open ByteMemory TeeApi ClientApi TeeCalls

inductive Pointer where
  | caller (address : ℕ)
  | block (n : Fin 4) (offset : ℕ)
  deriving DecidableEq, Repr

def Pointer.add : Pointer → ℕ → Pointer
  | .caller a, j => .caller (a + j)
  | .block n i, j => .block n (i + j)

/-- The caller's memory and the blocks that `TEE_Malloc` gives for its four parameters. -/
structure Space where
  caller : Memory UInt8
  block : Fin 4 → Memory UInt8

def Space.get (s : Space) : Pointer → UInt8
  | .caller a => s.caller a
  | .block n i => s.block n i

def Space.bytes (s : Space) (p : Pointer) (len : ℕ) : List UInt8 :=
  (List.range len).map fun j => s.get (p.add j)

-- `TEE_MemMove` to `p`: the source has been read before anything is written.
def Space.put (s : Space) (p : Pointer) (data : List UInt8) : Space :=
  match p with
  | .caller a => { s with caller := copyIn s.caller a data }
  | .block n i => { s with block := Function.update s.block n (copyIn (s.block n) i data) }

structure Memref (P : Type) where
  buffer : P
  size : UInt32

structure Param (P : Type) where
  value : TeeValue
  memref : Memref P

abbrev Params (P : Type) := Fin 4 → Param P

structure Caller where
  pParams : Params ℕ
  mem : Memory UInt8

structure Seen where
  value : TeeValue
  bytes : List UInt8
  size : UInt32
  deriving DecidableEq

def IsMemrefInput (t : UInt32) : Prop := IsMemref t ∧ t ≠ ParamType.code .memrefOutput

instance (t : UInt32) : Decidable (IsMemrefInput t) := inferInstanceAs (Decidable (_ ∧ _))

def seen (s : Space) (t : UInt32) (p : Param Pointer) : Seen where
  value := if IsValueInput t then p.value else ⟨0, 0⟩
  bytes := if IsMemrefInput t then s.bytes p.memref.buffer p.memref.size.toNat else []
  size := if IsMemref t then p.memref.size else 0

abbrev Overlap := Fin 4 → ℕ → Fin 4 → ℕ → Prop

def overlap (types : UInt32) (params : Params Pointer) : Overlap := fun m i n j =>
  IsMemrefOutput (paramTypeGet types m) ∧ i < (params m).memref.size.toNat ∧
    IsMemref (paramTypeGet types n) ∧ j < (params n).memref.size.toNat ∧
    (params m).memref.buffer.add i = (params n).memref.buffer.add j

structure Write where
  param : Fin 4
  offset : ℕ
  byte : UInt8
  deriving DecidableEq, Repr

/-- What the called application does: its result, what it leaves in the parameters, and its writes
in their order. -/
structure Answer where
  res : TeeResult
  values : Fin 4 → TeeValue
  sizes : Fin 4 → UInt32
  writes : List Write

/-- What it does depends on what it sees, and on which of its writes it sees again elsewhere. -/
abbrev CalledTa := UInt32 → UInt32 → (Fin 4 → Seen) → Overlap → Answer

def Lands (types : UInt32) {P : Type} (params : Params P) (w : Write) : Prop :=
  IsMemrefOutput (paramTypeGet types w.param) ∧ w.offset < (params w.param).memref.size.toNat

instance (types : UInt32) {P : Type} (params : Params P) (w : Write) :
    Decidable (Lands types params w) := inferInstanceAs (Decidable (_ ∧ _))

def store (types : UInt32) (params : Params Pointer) (s : Space) (w : Write) : Space :=
  if Lands types params w then s.put ((params w.param).memref.buffer.add w.offset) [w.byte] else s

def leave (types : UInt32) (a : Answer) (params : Params Pointer) : Params Pointer := fun i =>
  let t := paramTypeGet types i
  { value := if IsValueOutput t then a.values i else (params i).value
    memref := ⟨(params i).memref.buffer,
      if IsMemrefOutput t then a.sizes i else (params i).memref.size⟩ }

def teeInvokeTaCommand (ta : CalledTa) (cmd types : UInt32) (params : Params Pointer)
    (s : Space) : TeeResult × Params Pointer × Space :=
  let a := ta cmd types (fun i => seen s (paramTypeGet types i) (params i)) (overlap types params)
  (a.res, leave types a params, a.writes.foldl (store types params) s)

/-- The session that `TEE_OpenTASession` gives, the application behind it and the memory behind
the blocks of `TEE_Malloc`. -/
structure World where
  opened : TeeResult
  ta : CalledTa
  heap : Fin 4 → Memory UInt8

structure State where
  params : Params Pointer
  pParams : Params ℕ
  space : Space

def zeroParams : Params Pointer := fun _ => ⟨⟨0, 0⟩, ⟨.caller 0, 0⟩⟩

-- Hint 0: the block comes back filled with zeros.
def teeMalloc (s : Space) (n : Fin 4) (size : UInt32) : Space :=
  s.put (.block n 0) (List.replicate size.toNat 0)

def copyParamIn (types : UInt32) (s : State) (n : Fin 4) : State :=
  let t := paramTypeGet types n
  let p := s.pParams n
  { s with
    params := Function.update s.params n
      { value := if IsValueInput t then p.value else (s.params n).value
        memref := if IsMemref t then ⟨.block n 0, p.memref.size⟩ else (s.params n).memref }
    space := if IsMemref t then
        let space := teeMalloc s.space n p.memref.size
        if t ≠ ParamType.code .memrefOutput then
          space.put (.block n 0) (space.bytes (.caller p.memref.buffer) p.memref.size.toNat)
        else space
      else s.space }

/-- One round of the second loop: the size of every memref is written back, the bytes of an input
are not. -/
def copyParamOut (types : UInt32) (s : State) (n : Fin 4) : State :=
  let t := paramTypeGet types n
  let p := s.pParams n
  let q := s.params n
  { s with
    pParams := Function.update s.pParams n
      { value := if IsValueOutput t then q.value else p.value
        memref := ⟨p.memref.buffer, if IsMemref t then q.memref.size else p.memref.size⟩ }
    space := if IsMemref t ∧ t ≠ ParamType.code .memrefInput then
        s.space.put (.caller p.memref.buffer) (s.space.bytes q.memref.buffer q.memref.size.toNat)
      else s.space }

-- `TEE_MemMove(params, pParams, sizeof(params))`.
def shallow (pParams : Params ℕ) : Params Pointer := fun i =>
  ⟨(pParams i).value, ⟨.caller (pParams i).memref.buffer, (pParams i).memref.size⟩⟩

/-- Without `sec_mem` nothing is copied back: the local array is dropped. -/
def rpcCallCryp (W : World) (secMem : Bool) (types : UInt32) (c : Caller) (cmd : UInt32) :
    TeeResult × Caller :=
  if W.opened ≠ teeSuccess then (W.opened, c)
  else if secMem then
    let s := (List.finRange 4).foldl (copyParamIn types)
      ⟨zeroParams, c.pParams, ⟨c.mem, W.heap⟩⟩
    let (res, params, space) := teeInvokeTaCommand W.ta cmd types s.params s.space
    let s := (List.finRange 4).foldl (copyParamOut types) ⟨params, s.pParams, space⟩
    (res, ⟨s.pParams, s.space.caller⟩)
  else
    let (res, _, space) := teeInvokeTaCommand W.ta cmd types (shallow c.pParams) ⟨c.mem, W.heap⟩
    (res, ⟨c.pParams, space.caller⟩)

def rpcSha256 (W : World) (secMem : Bool) (types : UInt32) (c : Caller) : TeeResult × Caller :=
  rpcCallCryp W secMem types c 2

theorem Space.bytes_caller (s : Space) (a len : ℕ) :
    s.bytes (.caller a) len = slice s.caller a len := rfl

theorem Space.bytes_block (s : Space) (n : Fin 4) (len : ℕ) :
    s.bytes (.block n 0) len = slice (s.block n) 0 len := rfl

theorem Space.get_put (s : Space) (p q : Pointer) (b : UInt8) :
    (s.put p [b]).get q = if p = q then b else s.get q := by
  cases p with
  | caller a =>
    cases q with
    | caller x =>
      simp only [put, get, copyIn_single, Pointer.caller.injEq]
    | block m j => simp [put, get]
  | block n i =>
    cases q with
    | caller x => simp [put, get]
    | block m j =>
      by_cases hn : m = n
      · subst hn
        simp only [put, get, Function.update_self, copyIn_single, Pointer.block.injEq, true_and]
      · have hne : ¬ (Pointer.block n i = Pointer.block m j) := by
          rintro ⟨⟩
          exact hn rfl
        simp only [put, get, Function.update_of_ne hn, if_neg hne]

variable {types : UInt32}

def lastWrite (ws : List Write) (P : Write → Prop) [DecidablePred P] : Option UInt8 :=
  (ws.reverse.find? fun w => decide (P w)).map Write.byte

theorem lastWrite_congr {ws : List Write} {P Q : Write → Prop} [DecidablePred P]
    [DecidablePred Q] (h : ∀ w, P w ↔ Q w) : lastWrite ws P = lastWrite ws Q := by
  simp only [lastWrite, h]

theorem get_foldl_store (types : UInt32) (params : Params Pointer) (ws : List Write) (s : Space)
    (q : Pointer) :
    (ws.foldl (store types params) s).get q = (lastWrite ws fun w => Lands types params w ∧
      (params w.param).memref.buffer.add w.offset = q).getD (s.get q) := by
  refine foldl_last (g := fun s => s.get q) (fun s w => ?_) ws s
  by_cases hlands : Lands types params w
  · have hstore : store types params s w =
        s.put ((params w.param).memref.buffer.add w.offset) [w.byte] := if_pos hlands
    simp only [hstore, Space.get_put, hlands, true_and, decide_eq_true_eq]
  · have hstore : store types params s w = s := if_neg hlands
    simp only [hstore, hlands, false_and, decide_false, Bool.false_eq_true, if_false]

def inParam (t : UInt32) (n : Fin 4) (p : Param ℕ) (q : Param Pointer) : Param Pointer where
  value := if IsValueInput t then p.value else q.value
  memref := if IsMemref t then ⟨.block n 0, p.memref.size⟩ else q.memref

def inBlock (t : UInt32) (mem : Memory UInt8) (r : Memref ℕ) (block : Memory UInt8) :
    Memory UInt8 :=
  if IsMemref t then
    let zeroed := copyIn block 0 (List.replicate r.size.toNat 0)
    if t ≠ ParamType.code .memrefOutput then copyIn zeroed 0 (slice mem r.buffer r.size.toNat)
    else zeroed
  else block

theorem copyParamIn_eq (s : State) (n : Fin 4) : copyParamIn types s n =
    ⟨Function.update s.params n (inParam (paramTypeGet types n) n (s.pParams n) (s.params n)),
      s.pParams, ⟨s.space.caller, Function.update s.space.block n
        (inBlock (paramTypeGet types n) s.space.caller (s.pParams n).memref
          (s.space.block n))⟩⟩ := by
  unfold copyParamIn inParam inBlock
  by_cases hmem : IsMemref (paramTypeGet types n)
  · by_cases hin : paramTypeGet types n ≠ ParamType.code .memrefOutput
    · simp only [if_pos hmem, if_pos hin, teeMalloc, Space.put, Space.bytes_caller,
        Function.update_self, Function.update_idem]
    · simp only [if_pos hmem, if_neg hin, teeMalloc, Space.put]
  · simp only [if_neg hmem, Function.update_eq_self]

def outParam (t : UInt32) (p : Param ℕ) (q : Param Pointer) : Param ℕ where
  value := if IsValueOutput t then q.value else p.value
  memref := ⟨p.memref.buffer, if IsMemref t then q.memref.size else p.memref.size⟩

variable {ns : List (Fin 4)}

/-- Rounds that each change one place of an array change all of them at once. -/
theorem update_rounds {α : Type} (f : Fin 4 → α → α) (g : Fin 4 → α) {n : Fin 4} (hn : n ∉ ns) :
    (fun i => if i ∈ ns then f i (Function.update g n (f n (g n)) i)
      else Function.update g n (f n (g n)) i) =
      fun i => if i ∈ n :: ns then f i (g i) else g i := by
  funext i
  by_cases hi : i = n
  · subst hi
    simp [hn]
  · simp [hi]

theorem copyInLoop_eq (hnodup : ns.Nodup) (s : State) : ns.foldl (copyParamIn types) s =
    ⟨fun i => if i ∈ ns then inParam (paramTypeGet types i) i (s.pParams i) (s.params i)
        else s.params i,
      s.pParams, ⟨s.space.caller, fun i =>
        if i ∈ ns then inBlock (paramTypeGet types i) s.space.caller (s.pParams i).memref
          (s.space.block i) else s.space.block i⟩⟩ := by
  induction ns generalizing s with
  | nil => rfl
  | cons n ns ih =>
    obtain ⟨hn, hrest⟩ := List.nodup_cons.mp hnodup
    rw [List.foldl_cons, ih hrest, copyParamIn_eq]
    have hparams := update_rounds (fun i => inParam (paramTypeGet types i) i (s.pParams i))
      s.params hn
    have hblocks := update_rounds (fun i => inBlock (paramTypeGet types i) s.space.caller
      (s.pParams i).memref) s.space.block hn
    rw [State.mk.injEq, Space.mk.injEq]
    exact ⟨hparams, rfl, rfl, hblocks⟩

def backBytes (params : Params Pointer) (block : Fin 4 → Memory UInt8) (n : Fin 4) : List UInt8 :=
  slice (block n) 0 (params n).memref.size.toNat

def Bounced (types : UInt32) (params : Params Pointer) : Prop :=
  ∀ n, IsMemrefOutput (paramTypeGet types n) → (params n).memref.buffer = .block n 0

theorem isMemref_of_output {t : UInt32} (h : IsMemrefOutput t) : IsMemref t := Or.inr h

theorem isMemrefOutput_iff {t : UInt32} :
    IsMemrefOutput t ↔ IsMemref t ∧ t ≠ ParamType.code .memrefInput := by
  constructor
  · intro hout
    refine ⟨isMemref_of_output hout, ?_⟩
    rintro rfl
    exact absurd hout (by decide)
  · rintro ⟨h | h | h, hne⟩
    · exact absurd h hne
    · exact Or.inl h
    · exact Or.inr h

/-- The outputs are moved back one after the other, so that the last one stays. -/
def moveBack (types : UInt32) (pParams : Params ℕ) (params : Params Pointer)
    (block : Fin 4 → Memory UInt8) (m : Memory UInt8) (n : Fin 4) : Memory UInt8 :=
  if IsMemrefOutput (paramTypeGet types n) then
    copyIn m (pParams n).memref.buffer (backBytes params block n)
  else m

variable {params : Params Pointer}

theorem copyParamOut_eq (hb : Bounced types params) (pParams : Params ℕ) (space : Space)
    (n : Fin 4) : copyParamOut types ⟨params, pParams, space⟩ n = ⟨params,
      Function.update pParams n (outParam (paramTypeGet types n) (pParams n) (params n)),
      ⟨moveBack types pParams params space.block space.caller n, space.block⟩⟩ := by
  unfold copyParamOut moveBack outParam
  simp only [← isMemrefOutput_iff]
  by_cases hout : IsMemrefOutput (paramTypeGet types n)
  · simp only [if_pos hout, hb n hout, Space.put, Space.bytes_block, backBytes]
  · simp only [if_neg hout]

theorem copyOutLoop_eq (hnodup : ns.Nodup) (hb : Bounced types params) (pParams : Params ℕ)
    (space : Space) : ns.foldl (copyParamOut types) ⟨params, pParams, space⟩ = ⟨params, fun i =>
      if i ∈ ns then outParam (paramTypeGet types i) (pParams i) (params i) else pParams i,
      ⟨ns.foldl (moveBack types pParams params space.block) space.caller, space.block⟩⟩ := by
  induction ns generalizing pParams space with
  | nil => rfl
  | cons n ns ih =>
    obtain ⟨hn, hrest⟩ := List.nodup_cons.mp hnodup
    have hpParams := update_rounds (fun i p => outParam (paramTypeGet types i) p (params i))
      pParams hn
    -- the addresses stay, so the later rounds move the same bytes to the same places
    have hback : moveBack types
        (Function.update pParams n (outParam (paramTypeGet types n) (pParams n) (params n)))
          params space.block = moveBack types pParams params space.block := by
      funext m i
      by_cases hi : i = n
      · subst hi
        simp only [moveBack, Function.update_self, outParam]
      · simp only [moveBack, Function.update_of_ne hi]
    rw [List.foldl_cons, copyParamOut_eq hb, ih hrest, hback, State.mk.injEq]
    exact ⟨rfl, hpParams, rfl⟩

variable (W : World) (types cmd : UInt32) (c : Caller)

def inputs : Fin 4 → Seen := fun i =>
  seen ⟨c.mem, W.heap⟩ (paramTypeGet types i) (shallow c.pParams i)

def apart (pParams : Params ℕ) : Overlap := fun m i n j =>
  IsMemrefOutput (paramTypeGet types m) ∧ i < (pParams m).memref.size.toNat ∧ m = n ∧ i = j

def sharedAnswer : Answer :=
  W.ta cmd types (inputs W types c) (overlap types (shallow c.pParams))

def apartAnswer : Answer := W.ta cmd types (inputs W types c) (apart types c.pParams)

def Covers (n : Fin 4) (x : ℕ) : Prop :=
  IsMemrefOutput (paramTypeGet types n) ∧ (c.pParams n).memref.buffer ≤ x ∧
    x < (c.pParams n).memref.buffer + (c.pParams n).memref.size.toNat

instance (n : Fin 4) (x : ℕ) : Decidable (Covers types c n x) :=
  inferInstanceAs (Decidable (_ ∧ _ ∧ _))

def lastOutput (x : ℕ) : Option (Fin 4) :=
  (List.finRange 4).reverse.find? fun n => decide (Covers types c n x)

def Reaches (x : ℕ) (w : Write) : Prop :=
  Lands types c.pParams w ∧ (c.pParams w.param).memref.buffer + w.offset = x

instance (x : ℕ) : DecidablePred (Reaches types c x) :=
  fun _ => inferInstanceAs (Decidable (_ ∧ _))

/-- The called application answers the same on the caller's buffers and on copies that are apart.
It leaves values and sizes as the caller had them, and in each byte of an output the same through
all parameters as through the last one that has the byte, whose block holds the caller's bytes for
an inout and zeros otherwise. -/
structure Alike (shared apart : Answer) : Prop where
  res : apart.res = shared.res
  value : ∀ n, IsValueOutput (paramTypeGet types n) → apart.values n = (c.pParams n).value
  size : ∀ n, IsMemrefOutput (paramTypeGet types n) →
    apart.sizes n = (c.pParams n).memref.size
  byte : ∀ x n, lastOutput types c x = some n →
    (lastWrite apart.writes fun w =>
      w.param = n ∧ (c.pParams n).memref.buffer + w.offset = x).getD
        (if paramTypeGet types n = ParamType.code .memrefOutput then 0 else c.mem x) =
    (lastWrite shared.writes (Reaches types c x)).getD (c.mem x)

def bouncedParams : Params Pointer := fun n =>
  inParam (paramTypeGet types n) n (c.pParams n) (zeroParams n)

def bouncedBlocks : Fin 4 → Memory UInt8 := fun n =>
  inBlock (paramTypeGet types n) c.mem (c.pParams n).memref (W.heap n)

variable {W types cmd c}

theorem bouncedParams_memref {n : Fin 4} (hmem : IsMemref (paramTypeGet types n)) :
    (bouncedParams types c n).memref = ⟨.block n 0, (c.pParams n).memref.size⟩ := by
  simp only [bouncedParams, inParam, if_pos hmem]

theorem bouncedParams_bounced : Bounced types (bouncedParams types c) := by
  intro n hout
  rw [bouncedParams_memref (isMemref_of_output hout)]

theorem lands_bounced (w : Write) :
    Lands types (bouncedParams types c) w ↔ Lands types c.pParams w := by
  refine and_congr_right fun hout => ?_
  rw [bouncedParams_memref (isMemref_of_output hout)]

theorem seen_bounced (i : Fin 4) : seen ⟨c.mem, bouncedBlocks W types c⟩ (paramTypeGet types i)
    (bouncedParams types c i) = inputs W types c i := by
  rw [inputs, seen, seen, Seen.mk.injEq]
  refine ⟨?_, ?_, ?_⟩
  · refine if_ctx_congr Iff.rfl (fun hin => ?_) fun _ => rfl
    simp only [bouncedParams, inParam, if_pos hin, shallow]
  · refine if_ctx_congr Iff.rfl (fun hin => ?_) fun _ => rfl
    simp only [bouncedParams, inParam, if_pos hin.1, shallow, Space.bytes_block,
      Space.bytes_caller, bouncedBlocks, inBlock, if_pos hin.2]
    have hcopied := slice_copyIn (copyIn (W.heap i) 0
      (List.replicate (c.pParams i).memref.size.toNat 0)) 0
        (slice c.mem (c.pParams i).memref.buffer (c.pParams i).memref.size.toNat)
    rwa [length_slice] at hcopied
  · refine if_ctx_congr Iff.rfl (fun hmem => ?_) fun _ => rfl
    simp only [bouncedParams, inParam, if_pos hmem, shallow]

theorem overlap_bounced : overlap types (bouncedParams types c) = apart types c.pParams := by
  funext m i n j
  refine propext (and_congr_right fun hout => ?_)
  have hm := bouncedParams_memref (c := c) (isMemref_of_output hout)
  rw [hm]
  refine and_congr_right fun hi => ?_
  constructor
  · rintro ⟨hn, -, heq⟩
    rw [bouncedParams_memref hn] at heq
    simpa [Pointer.add] using heq
  · rintro ⟨rfl, rfl⟩
    rw [hm]
    exact ⟨isMemref_of_output hout, hi, rfl⟩

theorem copied_in : (List.finRange 4).foldl (copyParamIn types)
    ⟨zeroParams, c.pParams, ⟨c.mem, W.heap⟩⟩ =
      ⟨bouncedParams types c, c.pParams, ⟨c.mem, bouncedBlocks W types c⟩⟩ := by
  rw [copyInLoop_eq (List.nodup_finRange 4)]
  simp only [List.mem_finRange, if_true]
  rfl

def leftParams (W : World) (types cmd : UInt32) (c : Caller) : Params Pointer :=
  leave types (apartAnswer W types cmd c) (bouncedParams types c)

theorem leftParams_size {n : Fin 4} (hout : IsMemrefOutput (paramTypeGet types n)) :
    (leftParams W types cmd c n).memref.size = (apartAnswer W types cmd c).sizes n :=
  if_pos hout

def leftSpace (W : World) (types cmd : UInt32) (c : Caller) : Space :=
  (apartAnswer W types cmd c).writes.foldl (store types (bouncedParams types c))
    ⟨c.mem, bouncedBlocks W types c⟩

theorem invoke_bounced : teeInvokeTaCommand W.ta cmd types (bouncedParams types c)
    ⟨c.mem, bouncedBlocks W types c⟩ = ((apartAnswer W types cmd c).res,
      leftParams W types cmd c, leftSpace W types cmd c) := by
  simp only [teeInvokeTaCommand, seen_bounced, overlap_bounced]
  rfl

theorem secure_call (hopen : W.opened = teeSuccess) : rpcCallCryp W true types c cmd =
    ((apartAnswer W types cmd c).res, ⟨fun n =>
        outParam (paramTypeGet types n) (c.pParams n) (leftParams W types cmd c n),
      (List.finRange 4).foldl (moveBack types c.pParams (leftParams W types cmd c)
        (leftSpace W types cmd c).block) (leftSpace W types cmd c).caller⟩) := by
  have hb : Bounced types (leftParams W types cmd c) :=
    fun n hout => bouncedParams_bounced n hout
  rw [rpcCallCryp, if_neg (not_not.mpr hopen), if_pos rfl, copied_in]
  dsimp only
  rw [invoke_bounced]
  dsimp only
  rw [copyOutLoop_eq (List.nodup_finRange 4) hb]
  simp only [List.mem_finRange, if_true]

theorem shared_call (hopen : W.opened = teeSuccess) : rpcCallCryp W false types c cmd =
    ((sharedAnswer W types cmd c).res, ⟨c.pParams,
      ((sharedAnswer W types cmd c).writes.foldl (store types (shallow c.pParams))
        ⟨c.mem, W.heap⟩).caller⟩) := by
  rw [rpcCallCryp, if_neg (not_not.mpr hopen), if_neg Bool.false_ne_true]
  rfl

theorem lastWrite_none {ws : List Write} {P : Write → Prop} [DecidablePred P]
    (h : ∀ w, ¬ P w) : lastWrite ws P = none := by
  simp [lastWrite, h]

theorem caller_foldl_bounced (ws : List Write) (s : Space) :
    (ws.foldl (store types (bouncedParams types c)) s).caller = s.caller := by
  funext x
  have hlast := get_foldl_store types (bouncedParams types c) ws s (.caller x)
  rw [lastWrite_none] at hlast
  · exact hlast
  · rintro w ⟨hlands, heq⟩
    rw [bouncedParams_bounced w.param hlands.1] at heq
    exact absurd heq Pointer.noConfusion

theorem block_foldl_bounced (ws : List Write) (s : Space) {n : Fin 4} {x : ℕ}
    (hx : Covers types c n x) :
    (ws.foldl (store types (bouncedParams types c)) s).block n
        (x - (c.pParams n).memref.buffer) =
      (lastWrite ws fun w => w.param = n ∧ (c.pParams n).memref.buffer + w.offset = x).getD
        (s.block n (x - (c.pParams n).memref.buffer)) := by
  obtain ⟨hout, hle, hlt⟩ := hx
  have hlast := get_foldl_store types (bouncedParams types c) ws s
    (.block n (x - (c.pParams n).memref.buffer))
  rw [Space.get, Space.get] at hlast
  rw [hlast]
  congr 1
  refine lastWrite_congr fun w => ?_
  constructor
  · rintro ⟨hlands, heq⟩
    rw [bouncedParams_bounced w.param hlands.1, Pointer.add, Pointer.block.injEq] at heq
    obtain ⟨rfl, heq⟩ := heq
    exact ⟨rfl, by omega⟩
  · rintro ⟨rfl, heq⟩
    have hlands : Lands types c.pParams w := ⟨hout, by omega⟩
    refine ⟨(lands_bounced w).mpr hlands, ?_⟩
    rw [bouncedParams_bounced w.param hout, Pointer.add, Pointer.block.injEq]
    exact ⟨rfl, by omega⟩

theorem bouncedBlocks_at {n : Fin 4} {x : ℕ} (hx : Covers types c n x) :
    bouncedBlocks W types c n (x - (c.pParams n).memref.buffer) =
      if paramTypeGet types n = ParamType.code .memrefOutput then 0 else c.mem x := by
  obtain ⟨hout, hle, hlt⟩ := hx
  obtain ⟨j, rfl⟩ := Nat.exists_eq_add_of_le hle
  have hj : j < (c.pParams n).memref.size.toNat := by omega
  rw [Nat.add_sub_cancel_left, bouncedBlocks, inBlock, if_pos (isMemref_of_output hout)]
  by_cases ht : paramTypeGet types n = ParamType.code .memrefOutput
  · have hlen : j < (List.replicate (c.pParams n).memref.size.toNat (0 : UInt8)).length := by
      rwa [List.length_replicate]
    have hzero : copyIn (W.heap n) 0 (List.replicate (c.pParams n).memref.size.toNat 0)
        (0 + j) = _ := copyIn_inside (W.heap n) hlen
    rw [Nat.zero_add, List.getElem_replicate] at hzero
    simp only [ht, ne_eq, not_true_eq_false, if_false, if_true, hzero]
  · have hlen : j < (slice c.mem (c.pParams n).memref.buffer
        (c.pParams n).memref.size.toNat).length := by rwa [length_slice]
    have hcopied : copyIn (copyIn (W.heap n) 0 (List.replicate (c.pParams n).memref.size.toNat 0)) 0
        (slice c.mem (c.pParams n).memref.buffer (c.pParams n).memref.size.toNat) (0 + j) = _ :=
      copyIn_inside _ hlen
    rw [Nat.zero_add, getElem_slice] at hcopied
    simp only [ne_eq, ht, not_false_eq_true, if_true, if_false, hcopied]

/-- With the sizes kept, a byte comes back from the block of the last output that has it. -/
theorem foldl_moveBack {params : Params Pointer} {block : Fin 4 → Memory UInt8}
    (hsize : ∀ n, IsMemrefOutput (paramTypeGet types n) →
      (params n).memref.size = (c.pParams n).memref.size) (x : ℕ) :
    (List.finRange 4).foldl (moveBack types c.pParams params block) c.mem x =
      ((lastOutput types c x).map fun n => block n (x - (c.pParams n).memref.buffer)).getD
        (c.mem x) := by
  refine foldl_last (g := fun m => m x) (fun m n => ?_) (List.finRange 4) c.mem
  rw [moveBack]
  by_cases hout : IsMemrefOutput (paramTypeGet types n)
  · rw [if_pos hout, backBytes, hsize n hout]
    by_cases hx : Covers types c n x
    · obtain ⟨-, hle, hlt⟩ := id hx
      obtain ⟨j, rfl⟩ := Nat.exists_eq_add_of_le hle
      have hlen : j < (slice (block n) 0 (c.pParams n).memref.size.toNat).length := by
        rw [length_slice]
        omega
      rw [copyIn_inside m hlen, getElem_slice, Nat.zero_add, Nat.add_sub_cancel_left]
      simp only [hx, decide_true, if_true]
    · rw [copyIn_frame]
      · simp only [hx, decide_false, Bool.false_eq_true, if_false]
      · rw [length_slice]
        by_contra hin
        exact hx ⟨hout, by omega, by omega⟩
  · have hx : ¬ Covers types c n x := fun hx => hout hx.1
    simp only [if_neg hout, hx, decide_false, Bool.false_eq_true, if_false]

theorem caller_foldl_shared (ws : List Write) (s : Space) (x : ℕ) :
    (ws.foldl (store types (shallow c.pParams)) s).caller x =
      (lastWrite ws (Reaches types c x)).getD (s.caller x) := by
  have hlast := get_foldl_store types (shallow c.pParams) ws s (.caller x)
  rw [Space.get, Space.get] at hlast
  rw [hlast]
  congr 1
  refine lastWrite_congr fun w => and_congr_right fun _ => ?_
  rw [shallow, Pointer.add, Pointer.caller.injEq]

theorem lastWrite_outside {x : ℕ} (h : lastOutput types c x = none) (ws : List Write) :
    lastWrite ws (Reaches types c x) = none := by
  refine lastWrite_none ?_
  rintro w ⟨⟨hout, hlt⟩, rfl⟩
  have hno := List.find?_eq_none.mp h w.param (by simp)
  exact hno (decide_eq_true ⟨hout, by omega, by omega⟩)

theorem pParams_kept_iff : (fun n => outParam (paramTypeGet types n) (c.pParams n)
      (leftParams W types cmd c n)) = c.pParams ↔
    (∀ n, IsValueOutput (paramTypeGet types n) →
      (apartAnswer W types cmd c).values n = (c.pParams n).value) ∧
    ∀ n, IsMemrefOutput (paramTypeGet types n) →
      (apartAnswer W types cmd c).sizes n = (c.pParams n).memref.size := by
  have hparam (n : Fin 4) : outParam (paramTypeGet types n) (c.pParams n)
      (leftParams W types cmd c n) = c.pParams n ↔
      (IsValueOutput (paramTypeGet types n) →
        (apartAnswer W types cmd c).values n = (c.pParams n).value) ∧
      (IsMemrefOutput (paramTypeGet types n) →
        (apartAnswer W types cmd c).sizes n = (c.pParams n).memref.size) := by
    have hparts (p q : Param ℕ) : p = q ↔ p.value = q.value ∧
        p.memref.buffer = q.memref.buffer ∧ p.memref.size = q.memref.size := by
      obtain ⟨v, b, l⟩ := p
      obtain ⟨v', b', l'⟩ := q
      simp
    rw [hparts]
    refine and_congr ?_ ((and_iff_right rfl).trans ?_)
    · by_cases hout : IsValueOutput (paramTypeGet types n)
      · simp only [outParam, leftParams, leave, hout, if_true, forall_true_left]
      · simp only [outParam, hout, if_false, false_imp_iff]
    · by_cases hmem : IsMemref (paramTypeGet types n)
      · by_cases hout : IsMemrefOutput (paramTypeGet types n)
        · simp only [outParam, leftParams, leave, hmem, hout, if_true, forall_true_left]
        · simp only [outParam, leftParams, leave, hmem, hout, if_true, if_false, false_imp_iff,
            bouncedParams, inParam]
      · have hout : ¬ IsMemrefOutput (paramTypeGet types n) :=
          fun hout => hmem (isMemref_of_output hout)
        simp only [outParam, hmem, hout, if_false, false_imp_iff]
  rw [funext_iff, ← forall_and]
  exact forall_congr' hparam

/-- With the sizes kept, a byte of the caller after a call through bounce buffers. -/
theorem foldl_moveBack_left (hsize : ∀ n, IsMemrefOutput (paramTypeGet types n) →
      (apartAnswer W types cmd c).sizes n = (c.pParams n).memref.size) (x : ℕ) :
    (List.finRange 4).foldl (moveBack types c.pParams (leftParams W types cmd c)
      (leftSpace W types cmd c).block) c.mem x =
    ((lastOutput types c x).map fun n => (lastWrite (apartAnswer W types cmd c).writes fun w =>
      w.param = n ∧ (c.pParams n).memref.buffer + w.offset = x).getD
        (if paramTypeGet types n = ParamType.code .memrefOutput then 0 else c.mem x)).getD
      (c.mem x) := by
  rw [foldl_moveBack fun n hout => (leftParams_size hout).trans (hsize n hout)]
  congr 1
  refine Option.map_congr fun n hn => ?_
  have hfound := List.find?_some (p := fun n => decide (Covers types c n x)) hn
  have hx : Covers types c n x := of_decide_eq_true hfound
  rw [leftSpace, block_foldl_bounced _ _ hx, ← bouncedBlocks_at (W := W) hx]

theorem modes_agree_iff (hopen : W.opened = teeSuccess) :
    rpcCallCryp W true types c cmd = rpcCallCryp W false types c cmd ↔
      Alike types c (sharedAnswer W types cmd c) (apartAnswer W types cmd c) := by
  have hkept : (leftSpace W types cmd c).caller = c.mem := caller_foldl_bounced _ _
  rw [secure_call hopen, shared_call hopen, Prod.mk.injEq, Caller.mk.injEq, pParams_kept_iff,
    hkept, funext_iff]
  constructor
  · rintro ⟨hres, ⟨hvalue, hsize⟩, hmem⟩
    refine ⟨hres, hvalue, hsize, fun x n hn => ?_⟩
    have hx := hmem x
    rw [foldl_moveBack_left hsize, hn, caller_foldl_shared] at hx
    exact hx
  · intro h
    refine ⟨h.res, ⟨h.value, h.size⟩, fun x => ?_⟩
    rw [foldl_moveBack_left h.size, caller_foldl_shared]
    cases hn : lastOutput types c x with
    | none =>
      rw [lastWrite_outside hn]
      rfl
    | some n => exact h.byte x n hn

/-- The two modes agree exactly when the called application does the same on shared buffers and on
copies, and leaves all it could tell back as the caller had it. -/
theorem rpc_transparent_iff (W : World) (types cmd : UInt32) (c : Caller) :
    rpcCallCryp W true types c cmd = rpcCallCryp W false types c cmd ↔
      (W.opened = teeSuccess →
        Alike types c (sharedAnswer W types cmd c) (apartAnswer W types cmd c)) := by
  by_cases hopen : W.opened = teeSuccess
  · rw [modes_agree_iff hopen, forall_prop_of_true hopen]
  · simp only [rpcCallCryp, ne_eq, hopen, not_false_eq_true, if_true, false_imp_iff]

def OutputsApart (types : UInt32) (c : Caller) : Prop :=
  ∀ m n x, Covers types c m x → IsMemref (paramTypeGet types n) →
    (c.pParams n).memref.buffer ≤ x →
    x < (c.pParams n).memref.buffer + (c.pParams n).memref.size.toNat → m = n

theorem overlap_apart (h : OutputsApart types c) :
    overlap types (shallow c.pParams) = apart types c.pParams := by
  funext m i n j
  refine propext (and_congr_right fun hout => and_congr_right fun hi => ?_)
  rw [shallow, shallow, Pointer.add, Pointer.add, Pointer.caller.injEq]
  dsimp only
  constructor
  · rintro ⟨hmem, hj, heq⟩
    have hm : Covers types c m ((c.pParams m).memref.buffer + i) :=
      ⟨hout, Nat.le_add_right _ _, Nat.add_lt_add_left hi _⟩
    have hmn : m = n := h m n _ hm hmem (by omega) (by omega)
    subst hmn
    exact ⟨rfl, by omega⟩
  · rintro ⟨rfl, rfl⟩
    exact ⟨isMemref_of_output hout, hi, rfl⟩

theorem lastOutput_apart (h : OutputsApart types c) {n : Fin 4} {x : ℕ}
    (hx : Covers types c n x) : lastOutput types c x = some n := by
  cases hm : lastOutput types c x with
  | none => exact absurd (decide_eq_true hx) (List.find?_eq_none.mp hm n (by simp))
  | some m =>
    have hfound := List.find?_some (p := fun n => decide (Covers types c n x)) hm
    have hcover : Covers types c m x := of_decide_eq_true hfound
    rw [h m n x hcover (isMemref_of_output hx.1) hx.2.1 hx.2.2]

/-- Of outputs apart from all other buffers only three things are asked. -/
theorem alike_apart_iff (h : OutputsApart types c) (a : Answer) : Alike types c a a ↔
    (∀ n, IsValueOutput (paramTypeGet types n) → a.values n = (c.pParams n).value) ∧
    (∀ n, IsMemrefOutput (paramTypeGet types n) → a.sizes n = (c.pParams n).memref.size) ∧
    ∀ n, paramTypeGet types n = ParamType.code .memrefOutput →
      ∀ j < (c.pParams n).memref.size.toNat, (∀ w ∈ a.writes, ¬ (w.param = n ∧ w.offset = j)) →
        c.mem ((c.pParams n).memref.buffer + j) = 0 := by
  have hsame {n : Fin 4} {x : ℕ} (hx : Covers types c n x) :
      lastWrite a.writes (Reaches types c x) = lastWrite a.writes fun w =>
        w.param = n ∧ (c.pParams n).memref.buffer + w.offset = x := by
    refine lastWrite_congr fun w => ?_
    constructor
    · rintro ⟨⟨hout, hlt⟩, rfl⟩
      have hwn : n = w.param :=
        h n w.param _ hx (isMemref_of_output hout) (by omega) (by omega)
      subst hwn
      exact ⟨rfl, rfl⟩
    · rintro ⟨rfl, rfl⟩
      exact ⟨⟨hx.1, by have hlt := hx.2.2; omega⟩, rfl⟩
  constructor
  · intro ha
    refine ⟨ha.value, ha.size, fun n ht j hj hno => ?_⟩
    have hx : Covers types c n ((c.pParams n).memref.buffer + j) :=
      ⟨Or.inl ht, Nat.le_add_right _ _, Nat.add_lt_add_left hj _⟩
    have hnone : lastWrite a.writes (fun w => w.param = n ∧
        (c.pParams n).memref.buffer + w.offset = (c.pParams n).memref.buffer + j) = none := by
      rw [lastWrite, Option.map_eq_none_iff, List.find?_eq_none]
      intro w hw hin
      have hin := of_decide_eq_true hin
      exact hno w (List.mem_reverse.mp hw) ⟨hin.1, by omega⟩
    have hbyte := ha.byte _ n (lastOutput_apart h hx)
    rw [hsame hx, hnone, if_pos ht] at hbyte
    exact hbyte.symm
  · rintro ⟨hvalue, hsize, hzero⟩
    refine ⟨rfl, hvalue, hsize, fun x n hn => ?_⟩
    have hfound := List.find?_some (p := fun n => decide (Covers types c n x)) hn
    have hx : Covers types c n x := of_decide_eq_true hfound
    rw [hsame hx]
    cases hlast : lastWrite a.writes fun w =>
        w.param = n ∧ (c.pParams n).memref.buffer + w.offset = x with
    | some b => rfl
    | none =>
      by_cases ht : paramTypeGet types n = ParamType.code .memrefOutput
      · obtain ⟨-, hle, hlt⟩ := hx
        obtain ⟨j, rfl⟩ := Nat.exists_eq_add_of_le hle
        rw [lastWrite, Option.map_eq_none_iff, List.find?_eq_none] at hlast
        have hunwritten : c.mem ((c.pParams n).memref.buffer + j) = 0 := by
          refine hzero n ht j (by omega) fun w hw hin => ?_
          exact hlast w (List.mem_reverse.mpr hw) (decide_eq_true ⟨hin.1, by rw [hin.2]⟩)
        rw [if_pos ht, hunwritten]
      · rw [if_neg ht]

/-- Without overlaps the called application has one answer, and the modes agree exactly when it
leaves values and sizes as the caller had them and zeros where it writes nothing. -/
theorem rpc_transparent_apart (W : World) (cmd : UInt32) (h : OutputsApart types c) :
    rpcCallCryp W true types c cmd = rpcCallCryp W false types c cmd ↔
      (W.opened = teeSuccess →
        let a := apartAnswer W types cmd c
        (∀ n, IsValueOutput (paramTypeGet types n) → a.values n = (c.pParams n).value) ∧
        (∀ n, IsMemrefOutput (paramTypeGet types n) → a.sizes n = (c.pParams n).memref.size) ∧
        ∀ n, paramTypeGet types n = ParamType.code .memrefOutput →
          ∀ j < (c.pParams n).memref.size.toNat,
            (∀ w ∈ a.writes, ¬ (w.param = n ∧ w.offset = j)) →
              c.mem ((c.pParams n).memref.buffer + j) = 0) := by
  by_cases hopen : W.opened = teeSuccess
  · have hone : sharedAnswer W types cmd c = apartAnswer W types cmd c := by
      rw [sharedAnswer, overlap_apart h, apartAnswer]
    rw [modes_agree_iff hopen, hone, alike_apart_iff h, forall_prop_of_true hopen]
  · simp only [rpcCallCryp, ne_eq, hopen, not_false_eq_true, if_true, false_imp_iff]

def digestWorld : World where
  opened := teeSuccess
  ta := fun _ _ _ _ => ⟨teeSuccess, fun _ => ⟨0, 0⟩, fun _ => 32,
    (List.range 32).map fun j => ⟨1, j, 1⟩⟩
  heap := fun _ _ => 0

def digestTypes : UInt32 := teeParamTypes .memrefInput .memrefOutput .none .none

def digestCaller (size : UInt32) : Caller :=
  ⟨fun n => ⟨⟨0, 0⟩, ⟨n.val * size.toNat, size⟩⟩, fun _ => 0⟩

/-- Only with `sec_mem` the caller learns how long the digest is. -/
theorem digest_size_lost : rpcSha256 digestWorld true digestTypes (digestCaller 64) ≠
    rpcSha256 digestWorld false digestTypes (digestCaller 64) := by
  have hsecure : ((rpcSha256 digestWorld true digestTypes (digestCaller 64)).2.pParams
      1).memref.size = 32 := by decide
  have hshallow : ((rpcSha256 digestWorld false digestTypes (digestCaller 64)).2.pParams
      1).memref.size = 64 := by decide
  intro h
  rw [h, hshallow] at hsecure
  exact absurd hsecure (by decide)

end RpcCallCryp
