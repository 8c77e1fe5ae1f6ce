import OpteeTest.TeeApi
import OpteeTest.ChunkLoop
import Mathlib.Logic.Function.Basic

/-! # The storage benchmark

The benchmark command on a store in which any call may fail. `BenchmarkTestFile` is the only
object in sight; a handle is a number, and `none` is `TEE_HANDLE_NULL`. -/
namespace StorageBenchmark

open ByteMemory TeeApi ChunkLoop

inductive Event where
  | malloc
  | free
  | created
  | deleted
  | opened (h : ℕ)
  | closed (h : ℕ)
  | read (off requested count : ℕ)
  | wrote (off len : ℕ)
  /-- A size given to `verify_buffer`. -/
  | examined (size : ℕ)
  | failed (res : TeeResult)
  deriving DecidableEq

structure Store where
  file : Option (List UInt8)
  /-- The data position of each handle. -/
  pos : ℕ → ℕ
  /-- The number of handles given out. -/
  handles : ℕ
  /-- The number of calls so far that may fail. -/
  calls : ℕ
  /-- The buffer `chunk_buf`. -/
  buf : Memory UInt8
  log : List Event

inductive Fault where
  | fail (res : {res : TeeResult // res ≠ teeSuccess})
  | short (n : ℕ)

structure TeeTime where
  seconds : UInt32
  millis : UInt32

/-- The faults of the calls, in the order of the calls, whether `TEE_Malloc` gives a block, and
the two readings of the system time. -/
structure Machine where
  faults : ℕ → Option Fault
  malloc : Bool
  start : TeeTime
  stop : TeeTime

def Store.record (s : Store) (e : Event) : Store := { s with log := s.log ++ [e] }

def Store.called (s : Store) : Store := { s with calls := s.calls + 1 }

/-- One call: `run` unless it fails; a read gets the limit of a short one. -/
def call {α : Type} (E : Machine) (fail : TeeResult → α) (run : Option ℕ → Store → α × Store)
    (s : Store) : α × Store :=
  match E.faults s.calls with
  | some (.fail res) => (fail res, s.called.record (.failed res))
  | some (.short n) => run (some n) s.called
  | none => run none s.called

abbrev Handle := Option ℕ

def newHandle (s : Store) : (TeeResult × Handle) × Store :=
  ((teeSuccess, some s.handles), { s with
    pos := Function.update s.pos s.handles 0
    handles := s.handles + 1
    log := s.log ++ [.opened s.handles] })

def teeCreatePersistentObject (E : Machine) (s : Store) : (TeeResult × Handle) × Store :=
  call E (fun res => (res, none))
    (fun _ s => newHandle ({ s with file := some [] }.record .created)) s

def teeOpenPersistentObject (E : Machine) (s : Store) : (TeeResult × Handle) × Store :=
  call E (fun res => (res, none))
    (fun _ s =>
      if s.file.isSome then newHandle s
      else ((teeErrorItemNotFound, none), s.record (.failed teeErrorItemNotFound))) s

/-- The content after a write at `pos`; a gap before it is filled with zeros. -/
def writeAt (content : List UInt8) (pos : ℕ) (data : List UInt8) : List UInt8 :=
  content.take pos ++ List.replicate (pos - content.length) 0 ++ data ++
    content.drop (pos + data.length)

def teeWriteObjectData (E : Machine) (h n : ℕ) (s : Store) : TeeResult × Store :=
  call E id
    (fun _ s => (teeSuccess, { s with
      file := s.file.map fun content => writeAt content (s.pos h) (slice s.buf 0 n)
      pos := Function.update s.pos h (s.pos h + n)
      log := s.log ++ [.wrote (s.pos h) n] })) s

def readAt (content : List UInt8) (pos n : ℕ) (limit : Option ℕ) : List UInt8 :=
  (content.drop pos).take (min n (limit.getD n))

/-- `TEE_ReadObjectData` of `n` bytes into the buffer; returns the count too. -/
def teeReadObjectData (E : Machine) (h n : ℕ) (s : Store) : (TeeResult × ℕ) × Store :=
  call E (fun res => (res, 0))
    (fun limit s =>
      let data := readAt (s.file.getD []) (s.pos h) n limit
      ((teeSuccess, data.length), { s with
        buf := copyIn s.buf 0 data
        pos := Function.update s.pos h (s.pos h + data.length)
        log := s.log ++ [.read (s.pos h) n data.length] })) s

inductive Whence where
  | set
  | cur

def teeSeekObjectData (E : Machine) (h : ℕ) (offset : ℤ) (whence : Whence) (s : Store) :
    TeeResult × Store :=
  call E id
    (fun _ s =>
      let target := match whence with
        | .set => offset
        | .cur => s.pos h + offset
      (teeSuccess, { s with pos := Function.update s.pos h target.toNat })) s

def teeCloseObject (h : ℕ) (s : Store) : Store := s.record (.closed h)

def teeCloseAndDeletePersistentObject1 : Handle → Store → Store
  | none, s => s
  | some h, s => ({ s with file := none }.record (.closed h)).record .deleted

def teeMalloc (size : ℕ) (s : Store) : Store :=
  { s with buf := copyIn s.buf 0 (List.replicate size 0) }.record .malloc

def teeFree (s : Store) : Store := s.record .free

def teeErrorCorruptObject : TeeResult := 0xF0100001

def defaultChunkSize : ℕ := 1 <<< 10

def defaultDataSize : ℕ := 1024

def scramble (x : ℕ) : UInt8 := UInt8.ofNat ((x &&& 0xff) ^^^ 0xaa)

def fillBuffer (size : ℕ) (s : Store) : Store :=
  { s with buf := copyIn s.buf 0 ((List.range size).map scramble) }

def verifyBuffer (buf : Memory UInt8) (size : ℕ) : TeeResult :=
  if (List.range size).all fun i => scramble i = buf i then teeSuccess else teeErrorCorruptObject

def teeTimeToMs (t : TeeTime) : UInt32 := t.seconds * 1000 + t.millis

def getDeltaTimeInMs (start stop : TeeTime) : UInt32 := teeTimeToMs stop - teeTimeToMs start

def prepareTestFile (E : Machine) (dataSize chunkSize : ℕ) (s : Store) :
    Option (TeeResult × Store) :=
  match teeCreatePersistentObject E s with
  | ((res, none), s) => some (res, s)
  | ((_, some h), s) =>
    (inChunks teeSuccess (teeWriteObjectData E h) chunkSize dataSize s).map fun (res, s) =>
      (res, teeCloseObject h s)

def testWrite (E : Machine) (h dataSize chunkSize : ℕ) (s : Store) : Option (TeeResult × Store) :=
  inChunks teeSuccess (teeWriteObjectData E h) chunkSize dataSize s

def readTurn (E : Machine) (h n : ℕ) (s : Store) : TeeResult × Store :=
  let ((res, _), s) := teeReadObjectData E h n s
  (res, s)

def testRead (E : Machine) (h dataSize chunkSize : ℕ) (s : Store) : Option (TeeResult × Store) :=
  inChunks teeSuccess (readTurn E h) chunkSize dataSize s

/-- `-(int32_t)write_size`, where the negation of the least value wraps. -/
def negativeChunkSize (n : ℕ) : ℤ := Int.bmod (-toInt n) (2 ^ 32)

def rewriteTurn (E : Machine) (h n : ℕ) (s : Store) : TeeResult × Store :=
  let ((res, count), s) := teeReadObjectData E h n s
  if res ≠ teeSuccess then (res, s)
  else if count ≠ n then (teeErrorCorruptObject, s)
  else
    let (res, s) := teeSeekObjectData E h (negativeChunkSize n) .cur s
    if res ≠ teeSuccess then (res, s) else teeWriteObjectData E h n s

def testRewrite (E : Machine) (h dataSize chunkSize : ℕ) (s : Store) :
    Option (TeeResult × Store) :=
  inChunks teeSuccess (rewriteTurn E h) chunkSize dataSize s

/-- The loop of `verify_file_data`, which always reads whole chunks; `tmp_data_size` wraps. -/
def verifyLoop (A : Arch) (E : Machine) (h chunkSize : ℕ) :
    ℕ → ℕ → Store → Option (TeeResult × Store)
  | 0, tmp, s => if tmp = 0 then some (teeSuccess, s) else none
  | fuel + 1, tmp, s =>
    if tmp = 0 then some (teeSuccess, s)
    else
      let ((res, count), s) := teeReadObjectData E h chunkSize s
      if res ≠ teeSuccess then some (res, s)
      else if count ≠ chunkSize then some (teeErrorCorruptObject, s)
      else
        let s := s.record (.examined chunkSize)
        let res := verifyBuffer s.buf chunkSize
        if res ≠ teeSuccess then some (res, s)
        else verifyLoop A E h chunkSize fuel ((tmp + A.word - chunkSize) % A.word) s

/-- Every turn but the last reads a chunk, so the file bounds the number of turns. -/
def verifyFileData (A : Arch) (E : Machine) (h dataSize chunkSize : ℕ) (s : Store) :
    Option (TeeResult × Store) :=
  let (res, s) := teeSeekObjectData E h 0 .set s
  if res ≠ teeSuccess then some (res, s)
  else
    let s := { s with buf := copyIn s.buf 0 (List.replicate chunkSize 0) }
    verifyLoop A E h chunkSize ((s.file.getD []).length + 1) dataSize s

def cmdTestRead : UInt32 := 0

def cmdTestWrite : UInt32 := 1

def cmdTestRewrite : UInt32 := 2

def runTest (E : Machine) (nCommandID : UInt32) (h dataSize chunkSize : ℕ) (s : Store) :
    Option (TeeResult × Store) :=
  if nCommandID = cmdTestRead then testRead E h dataSize chunkSize s
  else if nCommandID = cmdTestWrite then testWrite E h dataSize chunkSize s
  else if nCommandID = cmdTestRewrite then testRewrite E h dataSize chunkSize s
  else some (teeErrorBadParameters, s)

def setSpentTime (E : Machine) (res : TeeResult) (params : TeeParams) : TeeParams :=
  if res = teeSuccess then
    let value := { (params 2).value with a := getDeltaTimeInMs E.start E.stop }
    Function.update params 2 { params 2 with value := value }
  else params

structure Outcome where
  res : TeeResult
  params : TeeParams
  store : Store

def benchmarkParamTypes : UInt32 := teeParamTypes .valueInput .valueInput .valueOutput .none

def sizeOr (default : ℕ) (value : UInt32) : ℕ := if value = 0 then default else value.toNat

def exitRemoveObject (object : Handle) (res : TeeResult) (params : TeeParams) (s : Store) :
    Outcome :=
  ⟨res, params, teeFree (teeCloseAndDeletePersistentObject1 object s)⟩

def chunkAccessTest (A : Arch) (E : Machine) (nCommandID paramTypes : UInt32) (params : TeeParams)
    (s : Store) : Option Outcome :=
  if paramTypes ≠ benchmarkParamTypes then some ⟨teeErrorBadParameters, params, s⟩
  else
    let dataSize := sizeOr defaultDataSize (params 0).value.a
    let chunkSize := sizeOr defaultChunkSize (params 0).value.b
    let doVerify := (params 1).value.a ≠ 0
    if ¬ E.malloc then some ⟨teeErrorOutOfMemory, params, s⟩
    else
      let s := fillBuffer chunkSize (teeMalloc chunkSize s)
      (prepareTestFile E dataSize chunkSize s).bind fun (res, s) =>
        if res ≠ teeSuccess then some ⟨res, params, teeFree s⟩
        else
          match teeOpenPersistentObject E s with
          | ((res, none), s) => some (exitRemoveObject none res params s)
          | ((_, some h), s) =>
            (runTest E nCommandID h dataSize chunkSize s).bind fun (res, s) =>
              let params := setSpentTime E res params
              if res ≠ teeSuccess then some (exitRemoveObject (some h) res params s)
              else if doVerify then
                (verifyFileData A E h dataSize chunkSize s).map fun (res, s) =>
                  exitRemoveObject (some h) res params s
              else some (exitRemoveObject (some h) res params s)

def taStorageBenchmarkCmdHandler (A : Arch) (E : Machine) (nCommandID paramTypes : UInt32)
    (params : TeeParams) (s : Store) : Option Outcome :=
  if nCommandID = cmdTestRead ∨ nCommandID = cmdTestWrite ∨ nCommandID = cmdTestRewrite then
    chunkAccessTest A E nCommandID paramTypes params s
  else some ⟨teeErrorBadParameters, params, s⟩

end StorageBenchmark
