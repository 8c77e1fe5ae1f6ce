import OpteeTest.AesTables
import OpteeTest.TeeApi

/-! # The table-driven AES of the crypt TA

Key schedules and block functions, for keys of 128, 192 and 256 bits. The loops are those of
the build without `FULL_UNROLL`, the only one the source enables. -/
namespace AesImpl

open ByteMemory TeeApi AesTables

/-- The source's `u32` is `unsigned long`, so its width depends on the target. -/
abbrev U32 (A : Arch) := BitVec A.bits

variable {A : Arch}

def u32 (n : ℕ) : U32 A := BitVec.ofNat _ n

def lookup (t : List ℕ) (i : U32 A) : U32 A := u32 (t.getD i.toNat 0)

def getu32 (p : Memory UInt8) (i : ℕ) : U32 A :=
  (u32 (p i).toNat <<< 24) ^^^ (u32 (p (i + 1)).toNat <<< 16) ^^^
    (u32 (p (i + 2)).toNat <<< 8) ^^^ u32 (p (i + 3)).toNat

def putu32 (st : U32 A) : List UInt8 :=
  [UInt8.ofNat (st >>> 24).toNat, UInt8.ofNat (st >>> 16).toNat, UInt8.ofNat (st >>> 8).toNat,
    UInt8.ofNat st.toNat]

def byte3 (s : U32 A) : U32 A := s >>> 24

def byte2 (s : U32 A) : U32 A := (s >>> 16) &&& u32 0xff

def byte1 (s : U32 A) : U32 A := (s >>> 8) &&& u32 0xff

def byte0 (s : U32 A) : U32 A := s &&& u32 0xff

def roundWord (t0 t1 t2 t3 : List ℕ) (i0 i1 i2 i3 : U32 A) : U32 A :=
  lookup t0 i0 ^^^ lookup t1 i1 ^^^ lookup t2 i2 ^^^ lookup t3 i3

def lastWord (t4 : List ℕ) (i0 i1 i2 i3 : U32 A) : U32 A :=
  (lookup t4 i0 &&& u32 0xff000000) ^^^ (lookup t4 i1 &&& u32 0x00ff0000) ^^^
    (lookup t4 i2 &&& u32 0x0000ff00) ^^^ (lookup t4 i3 &&& u32 0x000000ff)

def rcon : List ℕ := [0x01000000, 0x02000000, 0x04000000, 0x08000000, 0x10000000, 0x20000000,
  0x40000000, 0x80000000, 0x1B000000, 0x36000000]

/-- The word of `rk[nk - 1]` with its bytes rotated and substituted, and the round constant. -/
def rotatedTemp (temp : U32 A) (i : ℕ) : U32 A :=
  lastWord te4 (byte2 temp) (byte1 temp) (byte0 temp) (byte3 temp) ^^^ u32 (rcon.getD i 0)

def substitutedTemp (temp : U32 A) : U32 A :=
  lastWord te4 (byte3 temp) (byte2 temp) (byte1 temp) (byte0 temp)

def fourWords (rk : Memory (U32 A)) (p : ℕ) (temp : U32 A) : List (U32 A) :=
  let w0 := rk p ^^^ temp
  let w1 := rk (p + 1) ^^^ w0
  let w2 := rk (p + 2) ^^^ w1
  let w3 := rk (p + 3) ^^^ w2
  [w0, w1, w2, w3]

-- The loops of the key expansion run 10, 8 and 7 times.

scoped instance turns128 : NeZero 10 := ⟨by decide⟩

scoped instance turns192 : NeZero 8 := ⟨by decide⟩

scoped instance turns256 : NeZero 7 := ⟨by decide⟩

def expand128 (rk : Memory (U32 A)) (p : ℕ) (i : Fin 10) : Memory (U32 A) :=
  let rk := copyIn rk (p + 4) (fourWords rk p (rotatedTemp (rk (p + 3)) i))
  if h : i + 1 = 10 then rk else expand128 rk (p + 4) ⟨i + 1, by omega⟩
termination_by 10 - i.val

def expand192 (rk : Memory (U32 A)) (p : ℕ) (i : Fin 8) : Memory (U32 A) :=
  let rk := copyIn rk (p + 6) (fourWords rk p (rotatedTemp (rk (p + 5)) i))
  if h : i + 1 = 8 then rk
  else
    let w10 := rk (p + 4) ^^^ rk (p + 9)
    let w11 := rk (p + 5) ^^^ w10
    expand192 (copyIn rk (p + 10) [w10, w11]) (p + 6) ⟨i + 1, by omega⟩
termination_by 8 - i.val

def expand256 (rk : Memory (U32 A)) (p : ℕ) (i : Fin 7) : Memory (U32 A) :=
  let rk := copyIn rk (p + 8) (fourWords rk p (rotatedTemp (rk (p + 7)) i))
  if h : i + 1 = 7 then rk
  else
    let rk := copyIn rk (p + 12) (fourWords rk (p + 4) (substitutedTemp (rk (p + 11))))
    expand256 rk (p + 8) ⟨i + 1, by omega⟩
termination_by 7 - i.val

def rijndaelSetupEncrypt (rk : Memory (U32 A)) (key : Memory UInt8) (keybits : ℤ) :
    ℕ × Memory (U32 A) :=
  let rk := copyIn rk 0 [getu32 key 0, getu32 key 4, getu32 key 8, getu32 key 12]
  if keybits = 128 then (10, expand128 rk 0 0)
  else
    let rk := copyIn rk 4 [getu32 key 16, getu32 key 20]
    if keybits = 192 then (12, expand192 rk 0 0)
    else
      let rk := copyIn rk 6 [getu32 key 24, getu32 key 28]
      if keybits = 256 then (14, expand256 rk 0 0) else (0, rk)

def swapLoop (rk : Memory (U32 A)) (i j : ℕ) : Memory (U32 A) :=
  if i < j then
    let rk := copyIn (copyIn rk i [rk j]) j [rk i]
    let rk := copyIn (copyIn rk (i + 1) [rk (j + 1)]) (j + 1) [rk (i + 1)]
    let rk := copyIn (copyIn rk (i + 2) [rk (j + 2)]) (j + 2) [rk (i + 2)]
    let rk := copyIn (copyIn rk (i + 3) [rk (j + 3)]) (j + 3) [rk (i + 3)]
    swapLoop rk (i + 4) (j - 4)
  else rk
termination_by j - i

/-- The inverse MixColumn transform of a round key word, by two lookups for each byte. -/
def invMixWord (s : U32 A) : U32 A :=
  roundWord td0 td1 td2 td3 (lookup te4 (byte3 s) &&& u32 0xff) (lookup te4 (byte2 s) &&& u32 0xff)
    (lookup te4 (byte1 s) &&& u32 0xff) (lookup te4 (byte0 s) &&& u32 0xff)

def mixLoop (rk : Memory (U32 A)) (p i nrounds : ℕ) : Memory (U32 A) :=
  if i < nrounds then
    let p := p + 4
    let rk := copyIn rk p [invMixWord (rk p)]
    let rk := copyIn rk (p + 1) [invMixWord (rk (p + 1))]
    let rk := copyIn rk (p + 2) [invMixWord (rk (p + 2))]
    let rk := copyIn rk (p + 3) [invMixWord (rk (p + 3))]
    mixLoop rk p (i + 1) nrounds
  else rk
termination_by nrounds - i

def rijndaelSetupDecrypt (rk : Memory (U32 A)) (key : Memory UInt8) (keybits : ℤ) :
    ℕ × Memory (U32 A) :=
  let (nrounds, rk) := rijndaelSetupEncrypt rk key keybits
  (nrounds, mixLoop (swapLoop rk 0 (4 * nrounds)) 0 1 nrounds)

structure Words (A : Arch) where
  s0 : U32 A
  s1 : U32 A
  s2 : U32 A
  s3 : U32 A

def keyWords (rk : Memory (U32 A)) (p : ℕ) : Words A := ⟨rk p, rk (p + 1), rk (p + 2), rk (p + 3)⟩

/-- The loop over two rounds an iteration, with `p` for the advance of `rk`. There is no result
when the count `r` starts at zero: it is decremented before it is compared with zero. -/
def roundLoop (round : Words A → Words A → Words A) (rk : Memory (U32 A)) :
    ℕ → ℕ → Words A → Option (ℕ × Words A)
  | 0, _, _ => none
  | r + 1, p, s =>
    let t := round s (keyWords rk (p + 4))
    if r = 0 then some (p + 8, t)
    else roundLoop round rk r (p + 8) (round t (keyWords rk (p + 8)))

def cryptBlock (round last : Words A → Words A → Words A) (rk : Memory (U32 A)) (nrounds : ℕ)
    (input : Memory UInt8) : Option (List UInt8) :=
  let s := ⟨getu32 input 0 ^^^ rk 0, getu32 input 4 ^^^ rk 1, getu32 input 8 ^^^ rk 2,
    getu32 input 12 ^^^ rk 3⟩
  (roundLoop round rk (nrounds >>> 1) 0 s).map fun (p, t) =>
    let s := last t (keyWords rk p)
    putu32 s.s0 ++ putu32 s.s1 ++ putu32 s.s2 ++ putu32 s.s3

def teRound (s k : Words A) : Words A where
  s0 := roundWord te0 te1 te2 te3 (byte3 s.s0) (byte2 s.s1) (byte1 s.s2) (byte0 s.s3) ^^^ k.s0
  s1 := roundWord te0 te1 te2 te3 (byte3 s.s1) (byte2 s.s2) (byte1 s.s3) (byte0 s.s0) ^^^ k.s1
  s2 := roundWord te0 te1 te2 te3 (byte3 s.s2) (byte2 s.s3) (byte1 s.s0) (byte0 s.s1) ^^^ k.s2
  s3 := roundWord te0 te1 te2 te3 (byte3 s.s3) (byte2 s.s0) (byte1 s.s1) (byte0 s.s2) ^^^ k.s3

def te4Round (t k : Words A) : Words A where
  s0 := lastWord te4 (byte3 t.s0) (byte2 t.s1) (byte1 t.s2) (byte0 t.s3) ^^^ k.s0
  s1 := lastWord te4 (byte3 t.s1) (byte2 t.s2) (byte1 t.s3) (byte0 t.s0) ^^^ k.s1
  s2 := lastWord te4 (byte3 t.s2) (byte2 t.s3) (byte1 t.s0) (byte0 t.s1) ^^^ k.s2
  s3 := lastWord te4 (byte3 t.s3) (byte2 t.s0) (byte1 t.s1) (byte0 t.s2) ^^^ k.s3

def rijndaelEncrypt (rk : Memory (U32 A)) (nrounds : ℕ) (plaintext : Memory UInt8) :
    Option (List UInt8) :=
  cryptBlock teRound te4Round rk nrounds plaintext

def tdRound (s k : Words A) : Words A where
  s0 := roundWord td0 td1 td2 td3 (byte3 s.s0) (byte2 s.s3) (byte1 s.s2) (byte0 s.s1) ^^^ k.s0
  s1 := roundWord td0 td1 td2 td3 (byte3 s.s1) (byte2 s.s0) (byte1 s.s3) (byte0 s.s2) ^^^ k.s1
  s2 := roundWord td0 td1 td2 td3 (byte3 s.s2) (byte2 s.s1) (byte1 s.s0) (byte0 s.s3) ^^^ k.s2
  s3 := roundWord td0 td1 td2 td3 (byte3 s.s3) (byte2 s.s2) (byte1 s.s1) (byte0 s.s0) ^^^ k.s3

def td4Round (t k : Words A) : Words A where
  s0 := lastWord td4 (byte3 t.s0) (byte2 t.s3) (byte1 t.s2) (byte0 t.s1) ^^^ k.s0
  s1 := lastWord td4 (byte3 t.s1) (byte2 t.s0) (byte1 t.s3) (byte0 t.s2) ^^^ k.s1
  s2 := lastWord td4 (byte3 t.s2) (byte2 t.s1) (byte1 t.s0) (byte0 t.s3) ^^^ k.s2
  s3 := lastWord td4 (byte3 t.s3) (byte2 t.s2) (byte1 t.s1) (byte0 t.s0) ^^^ k.s3

def rijndaelDecrypt (rk : Memory (U32 A)) (nrounds : ℕ) (ciphertext : Memory UInt8) :
    Option (List UInt8) :=
  cryptBlock tdRound td4Round rk nrounds ciphertext

end AesImpl
