import OpteeTest.BlockHeap
import OpteeTest.StorageWrappers

/-! # The object list of the key library

The list is built at its tail, one node, one object and one copy of an id for each object that the
enumerator has, and is taken apart from its head. An access to a block that is not there, or not
yet written, has no outcome. -/
namespace EnumObjectList

open ByteMemory TeeApi ClientApi TeeCalls StorageWrappers BlockHeap

/-- `eObj`; a field is not set before it is written. -/
structure EObj where
  id : Option ℕ
  idSize : Option UInt32

structure EObjList where
  object : Option ℕ
  next : Option ℕ

inductive HostBlock where
  | obj (o : EObj)
  | list (n : EObjList)
  | bytes (mem : Memory UInt8) (size : ℕ)

abbrev HostHeap := Heap HostBlock

def deref (heap : HostHeap) (a : ℕ) : Option HostBlock := if a = 0 then none else heap.lookup a

def getObj (heap : HostHeap) (a : ℕ) : Option EObj :=
  match deref heap a with
  | some (.obj o) => some o
  | _ => none

def getList (heap : HostHeap) (a : ℕ) : Option EObjList :=
  match deref heap a with
  | some (.list n) => some n
  | _ => none

def setObj (heap : HostHeap) (a : ℕ) (f : EObj → EObj) : Option HostHeap :=
  (getObj heap a).map fun o => heap.insert a (.obj (f o))

def setList (heap : HostHeap) (a : ℕ) (f : EObjList → EObjList) : Option HostHeap :=
  (getList heap a).map fun n => heap.insert a (.list (f n))

def memcpy (heap : HostHeap) (a : ℕ) (data : List UInt8) : Option HostHeap :=
  match deref heap a with
  | some (.bytes mem size) =>
    if data.length ≤ size then some (heap.insert a (.bytes (copyIn mem 0 data) size)) else none
  | _ => none

def sizeofEObj (T : Arch) : ℕ := 2 * T.sizeofPtr

def sizeofEObjList (T : Arch) : ℕ := 2 * T.sizeofPtr

/-- The host: its allocator, what a new block of bytes holds, and its target. -/
structure HostMemory where
  target : Arch
  allocator : Allocator HostBlock
  found : Memory UInt8

/-- The variables of `keyEnumObjectList`; `info` and `id` are its buffers with their sizes. -/
structure EnumVars where
  heap : HostHeap
  list : ℕ
  prev : ℕ
  listSize : ℕ
  info : TempMemoryReference
  id : TempMemoryReference

def sizeofInfo : ℕ := 256

def sizeofId : ℕ := 256 + 1

variable (H : HostMemory)

/-- The object of a round, with requests `n` and `n + 1`: its own block, and the block of its id. -/
def newObject (n : ℕ) (heap : HostHeap) (id : TempMemoryReference) : Option (ℕ × HostHeap) := do
  let (obj, heap) := H.allocator.malloc n heap (sizeofEObj H.target) (.obj ⟨none, none⟩)
  let heap ← setObj heap obj fun o => { o with idSize := some (UInt32.ofNat id.size) }
  let (copy, heap) := H.allocator.malloc (n + 1) heap id.size (.bytes H.found id.size)
  let heap ← setObj heap obj fun o => { o with id := some copy }
  let heap ← memcpy heap copy (slice id.buffer 0 id.size)
  pure (obj, heap)

def linkPrev (heap : HostHeap) (prev node : ℕ) : Option HostHeap :=
  if prev ≠ 0 then setList heap prev fun n => { n with next := some node } else some heap

/-- A round of the loop after the next object was found. No answer of `malloc` is looked at, so a
refused block ends the run where it is written. -/
def addObject (v : EnumVars) : Option EnumVars := do
  let (node, heap) := H.allocator.malloc (3 * v.listSize) v.heap (sizeofEObjList H.target)
    (.list ⟨none, none⟩)
  let list := if v.list = 0 then node else v.list
  let (obj, heap) ← newObject H (3 * v.listSize + 1) heap v.id
  let heap ← setList heap node fun n => { n with object := some obj }
  let heap ← setList heap node fun n => { n with next := some 0 }
  let heap ← linkPrev heap v.prev node
  pure ⟨heap, list, node, v.listSize + 1, { v.info with size := sizeofInfo },
    { v.id with size := sizeofId }⟩

variable {m : Type → Type} [Monad m]
variable (S : Session m)

def enumLoop (e : UInt32) : ℕ → EnumVars → m (Option EnumVars)
  | 0, _ => pure none
  | fuel + 1, v => match keyNextEnum S e (some v.info.buffer) (some v.info.size) v.id with
    | none => pure none
    | some next => do
      let r ← next
      let v := { v with info := r.outs.getD 0 v.info, id := r.outs.getD 1 v.id }
      if r.res = teeSuccess then
        match addObject H v with
        | none => pure none
        | some v => enumLoop e fuel v
      else pure (some v)

structure ListOutcome where
  res : TeeResult
  list : ℕ
  listSize : ℕ
  heap : HostHeap

/-- `keyEnumObjectList`; the enumerator's word and the size are what was there before. -/
def keyEnumObjectList (fuel : ℕ) (sid enumHandle : UInt32) (listSize : ℕ) (heap : HostHeap) :
    m (Option ListOutcome) := do
  let a ← keyAllocEnum S enumHandle
  if a.res ≠ teeSuccess then pure (some ⟨a.res, 0, listSize, heap⟩)
  else
    let e := a.words.headD enumHandle
    let s ← keyStartEnum S e sid
    if s.res ≠ teeSuccess then pure (some ⟨s.res, 0, listSize, heap⟩)
    else
      let out ← enumLoop H S e fuel
        ⟨heap, 0, 0, 0, ⟨fun _ => 0, sizeofInfo⟩, ⟨fun _ => 0, sizeofId⟩⟩
      match out with
      | none => pure none
      | some v => do
        let f ← keyFreeEnum S e
        pure (some ⟨f.res, v.list, v.listSize, v.heap⟩)

/-- What is left of the heap, and the blocks that were freed, the last one last. -/
structure FreeVars where
  heap : HostHeap
  count : ℕ
  freed : List ℕ

/-- `free`; a block that is not there has no outcome. -/
def free (s : FreeVars) (a : ℕ) : Option FreeVars :=
  if a = 0 then some s
  else if (s.heap.lookup a).isSome then
    some { s with heap := s.heap.erase a, freed := s.freed ++ [a] }
  else none

def freeRound (s : FreeVars) (cur : ℕ) : Option (ℕ × FreeVars) := do
  let next ← (← getList s.heap cur).next
  let object ← (← getList s.heap cur).object
  let id ← (← getObj s.heap object).id
  let s ← free s id
  let object ← (← getList s.heap cur).object
  let s ← free s object
  let s ← free s cur
  pure (if next ≠ 0 then next else 0, { s with count := s.count + 1 })

def freeLoop : ℕ → ℕ → FreeVars → Option FreeVars
  | 0, _, _ => none
  | fuel + 1, cur, s =>
    if cur = 0 then some s
    else match freeRound s cur with
      | none => none
      | some (next, s) => freeLoop fuel next s

structure FreeOutcome where
  count : ℕ
  list : ℕ
  heap : HostHeap
  freed : List ℕ

def keyFreeEnumObjectList (fuel list : ℕ) (heap : HostHeap) : Option FreeOutcome :=
  (freeLoop fuel list ⟨heap, 0, []⟩).map fun s => ⟨s.count, 0, s.heap, s.freed⟩

end EnumObjectList
