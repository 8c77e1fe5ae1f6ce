import OpteeTest.TeeApi
import Mathlib.Data.List.FinRange

/-! # SHA-224 and SHA-256 in the crypt TA

The build with loops. Message pointers are total functions of a signed offset, since the
block loop shifts a signed `int`; a log records the blocks compressed and the accesses. -/
namespace Sha2Impl

open ByteMemory TeeApi

def rotr (x n : UInt32) : UInt32 := (x >>> n) ||| (x <<< (32 - n))

def shfr (x n : UInt32) : UInt32 := x >>> n

def ch (x y z : UInt32) : UInt32 := (x &&& y) ^^^ (~~~x &&& z)

def maj (x y z : UInt32) : UInt32 := (x &&& y) ^^^ (x &&& z) ^^^ (y &&& z)

def sha256F1 (x : UInt32) : UInt32 := rotr x 2 ^^^ rotr x 13 ^^^ rotr x 22

def sha256F2 (x : UInt32) : UInt32 := rotr x 6 ^^^ rotr x 11 ^^^ rotr x 25

def sha256F3 (x : UInt32) : UInt32 := rotr x 7 ^^^ rotr x 18 ^^^ shfr x 3

def sha256F4 (x : UInt32) : UInt32 := rotr x 17 ^^^ rotr x 19 ^^^ shfr x 10

def unpack32 (x : UInt32) : List UInt8 :=
  [(x >>> 24).toUInt8, (x >>> 16).toUInt8, (x >>> 8).toUInt8, x.toUInt8]

def pack32 (str : ℕ → UInt8) (off : ℕ) : UInt32 :=
  (str (off + 3)).toUInt32 ||| (str (off + 2)).toUInt32 <<< 8 |||
    (str (off + 1)).toUInt32 <<< 16 ||| (str off).toUInt32 <<< 24

def sha224H0 : List UInt32 := [
  0xc1059ed8, 0x367cd507, 0x3070dd17, 0xf70e5939,
  0xffc00b31, 0x68581511, 0x64f98fa7, 0xbefa4fa4]

def sha256H0 : List UInt32 := [
  0x6a09e667, 0xbb67ae85, 0x3c6ef372, 0xa54ff53a,
  0x510e527f, 0x9b05688c, 0x1f83d9ab, 0x5be0cd19]

def sha256K : List UInt32 := [
  0x428a2f98, 0x71374491, 0xb5c0fbcf, 0xe9b5dba5,
  0x3956c25b, 0x59f111f1, 0x923f82a4, 0xab1c5ed5,
  0xd807aa98, 0x12835b01, 0x243185be, 0x550c7dc3,
  0x72be5d74, 0x80deb1fe, 0x9bdc06a7, 0xc19bf174,
  0xe49b69c1, 0xefbe4786, 0x0fc19dc6, 0x240ca1cc,
  0x2de92c6f, 0x4a7484aa, 0x5cb0a9dc, 0x76f988da,
  0x983e5152, 0xa831c66d, 0xb00327c8, 0xbf597fc7,
  0xc6e00bf3, 0xd5a79147, 0x06ca6351, 0x14292967,
  0x27b70a85, 0x2e1b2138, 0x4d2c6dfc, 0x53380d13,
  0x650a7354, 0x766a0abb, 0x81c2c92e, 0x92722c85,
  0xa2bfe8a1, 0xa81a664b, 0xc24b8b70, 0xc76c51a3,
  0xd192e819, 0xd6990624, 0xf40e3585, 0x106aa070,
  0x19a4c116, 0x1e376c08, 0x2748774c, 0x34b0bcb5,
  0x391c0cb3, 0x4ed8aa4a, 0x5b9cca4f, 0x682e6ff3,
  0x748f82ee, 0x78a5636f, 0x84c87814, 0x8cc70208,
  0x90befffa, 0xa4506ceb, 0xbef9a3f7, 0xc67178f2]

def sha256Scr (w : List UInt32) (i : ℕ) : List UInt32 :=
  w.set i (sha256F4 (w.getD (i - 2) 0) + w.getD (i - 7) 0 + sha256F3 (w.getD (i - 15) 0) +
    w.getD (i - 16) 0)

def fillW (subBlock : ℕ → UInt8) : List UInt32 :=
  (List.range' 16 48).foldl sha256Scr
    ((List.range 16).foldl (fun w j => w.set j (pack32 subBlock (j <<< 2)))
      (List.replicate 64 0))

scoped instance hashWords : NeZero 8 := ⟨by decide⟩

def turn (w : List UInt32) (wv : Vector UInt32 8) (j : ℕ) : Vector UInt32 8 :=
  let t1 := wv.get 7 + sha256F2 (wv.get 4) + ch (wv.get 4) (wv.get 5) (wv.get 6) +
    sha256K.getD j 0 + w.getD j 0
  let t2 := sha256F1 (wv.get 0) + maj (wv.get 0) (wv.get 1) (wv.get 2)
  #v[t1 + t2, wv.get 0, wv.get 1, wv.get 2, wv.get 3 + t1, wv.get 4, wv.get 5, wv.get 6]

def transfBlock (h : Vector UInt32 8) (subBlock : ℕ → UInt8) : Vector UInt32 8 :=
  let w := fillW subBlock
  let wv := (List.range 64).foldl (turn w) h
  Vector.ofFn fun j => h.get j + wv.get j

def blockOffset (i : ℕ) : ℤ := toInt (i * 64)

def subBlock (message : ℤ → UInt8) (i : ℕ) (j : ℕ) : UInt8 := message (blockOffset i + j)

def blockTurns (blockNb : UInt32) : List ℕ := List.range (toInt blockNb.toNat).toNat

/-- `sha256_transf`, which reads and writes only the field `h` of the context. -/
def sha256Transf (h : Vector UInt32 8) (message : ℤ → UInt8) (blockNb : UInt32) :
    Vector UInt32 8 :=
  (blockTurns blockNb).foldl (fun h i => transfBlock h (subBlock message i)) h

structure MessageRead where
  off : ℤ
  size : ℕ
  deriving DecidableEq, Repr

def MessageRead.InBounds (r : MessageRead) : Prop := 0 ≤ r.off ∧ r.off < r.size

instance (r : MessageRead) : Decidable r.InBounds := inferInstanceAs (Decidable (_ ∧ _))

/-- The blocks given to `sha256_transf`, the reads of messages, and the offsets accessed in
`ctx->block`, in order. -/
structure ShaLog where
  fed : List (List UInt8)
  reads : List MessageRead
  accesses : List ℤ

def ShaLog.append (l m : ShaLog) : ShaLog :=
  ⟨l.fed ++ m.fed, l.reads ++ m.reads, l.accesses ++ m.accesses⟩

def transfFed (message : ℤ → UInt8) (blockNb : UInt32) : List (List UInt8) :=
  (blockTurns blockNb).map fun i => (List.range 64).map (subBlock message i)

def transfReads (blockNb : UInt32) : List ℤ :=
  (blockTurns blockNb).flatMap fun i => (List.range 64).map fun j => blockOffset i + (j : ℕ)

/-- Accesses at the offsets from `start` on, one for each of `count` turns of a loop. -/
def span (start : ℤ) (count : ℕ) : List ℤ := (List.range count).map fun i => start + (i : ℕ)

structure Sha256Ctx where
  totLen : UInt32
  len : UInt32
  block : Memory UInt8
  h : Vector UInt32 8

structure ShaRun where
  ctx : Sha256Ctx
  log : ShaLog

def sha256BlockSize : UInt32 := 512 / 8

def sha224BlockSize : UInt32 := sha256BlockSize

def blockPtr (block : Memory UInt8) : ℤ → UInt8 := fun z => block z.toNat

def shaInit (h0 : List UInt32) (ctx : Sha256Ctx) : ShaRun :=
  ⟨{ ctx with h := Vector.ofFn fun i => h0.getD i 0, len := 0, totLen := 0 }, ⟨[], [], []⟩⟩

def shaUpdate (blockSize : UInt32) (run : ShaRun) (message : ℤ → UInt8) (len : UInt32) :
    ShaRun :=
  let ctx := run.ctx
  let tmpLen := blockSize - ctx.len
  let remLen := if len < tmpLen then len else tmpLen
  let block := copyIn ctx.block ctx.len.toNat ((List.range remLen.toNat).map fun i : ℕ => message i)
  let log := run.log.append
    ⟨[], (span 0 remLen.toNat).map fun off => ⟨off, len.toNat⟩, span ctx.len.toNat remLen.toNat⟩
  if ctx.len + len < blockSize then ⟨{ ctx with block := block, len := ctx.len + len }, log⟩
  else
    let newLen := len - remLen
    let blockNb := newLen / blockSize
    let shiftedMessage : ℤ → UInt8 := fun off => message (remLen.toNat + off)
    let h := sha256Transf ctx.h (blockPtr block) 1
    let log := log.append ⟨transfFed (blockPtr block) 1, [], transfReads 1⟩
    let h := sha256Transf h shiftedMessage blockNb
    let log := log.append ⟨transfFed shiftedMessage blockNb,
      (transfReads blockNb).map fun off => ⟨remLen.toNat + off, len.toNat⟩, []⟩
    let tailLen := newLen % blockSize
    let tail : ℕ → UInt8 := fun i => shiftedMessage ((blockNb <<< 6).toNat + i : ℕ)
    let block := copyIn block 0 ((List.range tailLen.toNat).map tail)
    let log := log.append ⟨[], (span (remLen.toNat + (blockNb <<< 6).toNat : ℕ)
      tailLen.toNat).map fun off => ⟨off, len.toNat⟩, span 0 tailLen.toNat⟩
    ⟨⟨ctx.totLen + (blockNb + 1) <<< 6, tailLen, block, h⟩, log⟩

/-- The common body of the two `final` functions; `words` are the words of `h` that go to
the digest. -/
def shaFinal (blockSize : UInt32) (words : List (Fin 8)) (run : ShaRun) :
    List UInt8 × ShaRun :=
  let ctx := run.ctx
  let blockNb : UInt32 := if blockSize - 9 < ctx.len % blockSize then 2 else 1
  let lenB := (ctx.totLen + ctx.len) <<< 3
  let pmLen := blockNb <<< 6
  let fill := (pmLen - ctx.len).toNat
  let block := copyIn ctx.block ctx.len.toNat (List.replicate fill 0)
  let block := copyIn block ctx.len.toNat [0x80]
  let block := copyIn block (pmLen - 4).toNat (unpack32 lenB)
  let h := sha256Transf ctx.h (blockPtr block) blockNb
  let log := run.log.append ⟨transfFed (blockPtr block) blockNb, [],
    span ctx.len.toNat fill ++ span ctx.len.toNat 1 ++ span (pmLen - 4).toNat 4 ++
      transfReads blockNb⟩
  (words.flatMap fun i => unpack32 (h.get i), ⟨{ ctx with block := block, h := h }, log⟩)

def sha256Init (ctx : Sha256Ctx) : ShaRun := shaInit sha256H0 ctx

def sha224Init (ctx : Sha256Ctx) : ShaRun := shaInit sha224H0 ctx

def sha256Update (run : ShaRun) (message : ℤ → UInt8) (len : UInt32) : ShaRun :=
  shaUpdate sha256BlockSize run message len

def sha224Update (run : ShaRun) (message : ℤ → UInt8) (len : UInt32) : ShaRun :=
  shaUpdate sha224BlockSize run message len

def sha256Final (run : ShaRun) : List UInt8 × ShaRun :=
  shaFinal sha256BlockSize (List.finRange 8) run

def sha224Final (run : ShaRun) : List UInt8 × ShaRun :=
  shaFinal sha224BlockSize ((List.finRange 8).take 7) run

def zeroCtx : Sha256Ctx := ⟨0, 0, fun _ => 0, Vector.replicate 8 0⟩

def sha256 (message : ℤ → UInt8) (len : UInt32) : List UInt8 × ShaRun :=
  sha256Final (sha256Update (sha256Init zeroCtx) message len)

def sha224 (message : ℤ → UInt8) (len : UInt32) : List UInt8 × ShaRun :=
  sha224Final (sha224Update (sha224Init zeroCtx) message len)

end Sha2Impl
