import OpteeTest.Sha2Compression
import Mathlib.Algebra.Group.Fin.Basic
import Mathlib.Data.Fintype.Basic
import Mathlib.Tactic.FinCases

/-! # The unrolled build of SHA-2

Under `UNROLL_LOOPS` a round renames the working variables where the loop moves them, so the two
arrays differ by a rotation. The lines of the source are kept as tables of their arguments. -/
namespace Sha2Unrolled

open ByteMemory Sha2Impl Sha2Compression

structure ExpLine where
  a : Fin 8
  b : Fin 8
  c : Fin 8
  d : Fin 8
  e : Fin 8
  f : Fin 8
  g : Fin 8
  h : Fin 8
  j : ℕ
  deriving DecidableEq

def sha256Exp (w : List UInt32) (wv : Vector UInt32 8) (l : ExpLine) : Vector UInt32 8 :=
  let t1 := wv.get l.h + sha256F2 (wv.get l.e) + ch (wv.get l.e) (wv.get l.f) (wv.get l.g) +
    sha256K.getD l.j 0 + w.getD l.j 0
  let t2 := sha256F1 (wv.get l.a) + maj (wv.get l.a) (wv.get l.b) (wv.get l.c)
  let wv := wv.set l.d (wv.get l.d + t1)
  wv.set l.h (t1 + t2)

def packLines : List (ℕ × ℕ) := [
  (0, 0), (4, 1), (8, 2), (12, 3), (16, 4), (20, 5), (24, 6), (28, 7),
  (32, 8), (36, 9), (40, 10), (44, 11), (48, 12), (52, 13), (56, 14), (60, 15)]

def scrLines : List ℕ := [
  16, 17, 18, 19, 20, 21, 22, 23, 24, 25, 26, 27, 28, 29, 30, 31,
  32, 33, 34, 35, 36, 37, 38, 39, 40, 41, 42, 43, 44, 45, 46, 47,
  48, 49, 50, 51, 52, 53, 54, 55, 56, 57, 58, 59, 60, 61, 62, 63]

def expLines : List ExpLine := [
  ⟨0, 1, 2, 3, 4, 5, 6, 7, 0⟩, ⟨7, 0, 1, 2, 3, 4, 5, 6, 1⟩, ⟨6, 7, 0, 1, 2, 3, 4, 5, 2⟩,
  ⟨5, 6, 7, 0, 1, 2, 3, 4, 3⟩, ⟨4, 5, 6, 7, 0, 1, 2, 3, 4⟩, ⟨3, 4, 5, 6, 7, 0, 1, 2, 5⟩,
  ⟨2, 3, 4, 5, 6, 7, 0, 1, 6⟩, ⟨1, 2, 3, 4, 5, 6, 7, 0, 7⟩, ⟨0, 1, 2, 3, 4, 5, 6, 7, 8⟩,
  ⟨7, 0, 1, 2, 3, 4, 5, 6, 9⟩, ⟨6, 7, 0, 1, 2, 3, 4, 5, 10⟩, ⟨5, 6, 7, 0, 1, 2, 3, 4, 11⟩,
  ⟨4, 5, 6, 7, 0, 1, 2, 3, 12⟩, ⟨3, 4, 5, 6, 7, 0, 1, 2, 13⟩, ⟨2, 3, 4, 5, 6, 7, 0, 1, 14⟩,
  ⟨1, 2, 3, 4, 5, 6, 7, 0, 15⟩, ⟨0, 1, 2, 3, 4, 5, 6, 7, 16⟩, ⟨7, 0, 1, 2, 3, 4, 5, 6, 17⟩,
  ⟨6, 7, 0, 1, 2, 3, 4, 5, 18⟩, ⟨5, 6, 7, 0, 1, 2, 3, 4, 19⟩, ⟨4, 5, 6, 7, 0, 1, 2, 3, 20⟩,
  ⟨3, 4, 5, 6, 7, 0, 1, 2, 21⟩, ⟨2, 3, 4, 5, 6, 7, 0, 1, 22⟩, ⟨1, 2, 3, 4, 5, 6, 7, 0, 23⟩,
  ⟨0, 1, 2, 3, 4, 5, 6, 7, 24⟩, ⟨7, 0, 1, 2, 3, 4, 5, 6, 25⟩, ⟨6, 7, 0, 1, 2, 3, 4, 5, 26⟩,
  ⟨5, 6, 7, 0, 1, 2, 3, 4, 27⟩, ⟨4, 5, 6, 7, 0, 1, 2, 3, 28⟩, ⟨3, 4, 5, 6, 7, 0, 1, 2, 29⟩,
  ⟨2, 3, 4, 5, 6, 7, 0, 1, 30⟩, ⟨1, 2, 3, 4, 5, 6, 7, 0, 31⟩, ⟨0, 1, 2, 3, 4, 5, 6, 7, 32⟩,
  ⟨7, 0, 1, 2, 3, 4, 5, 6, 33⟩, ⟨6, 7, 0, 1, 2, 3, 4, 5, 34⟩, ⟨5, 6, 7, 0, 1, 2, 3, 4, 35⟩,
  ⟨4, 5, 6, 7, 0, 1, 2, 3, 36⟩, ⟨3, 4, 5, 6, 7, 0, 1, 2, 37⟩, ⟨2, 3, 4, 5, 6, 7, 0, 1, 38⟩,
  ⟨1, 2, 3, 4, 5, 6, 7, 0, 39⟩, ⟨0, 1, 2, 3, 4, 5, 6, 7, 40⟩, ⟨7, 0, 1, 2, 3, 4, 5, 6, 41⟩,
  ⟨6, 7, 0, 1, 2, 3, 4, 5, 42⟩, ⟨5, 6, 7, 0, 1, 2, 3, 4, 43⟩, ⟨4, 5, 6, 7, 0, 1, 2, 3, 44⟩,
  ⟨3, 4, 5, 6, 7, 0, 1, 2, 45⟩, ⟨2, 3, 4, 5, 6, 7, 0, 1, 46⟩, ⟨1, 2, 3, 4, 5, 6, 7, 0, 47⟩,
  ⟨0, 1, 2, 3, 4, 5, 6, 7, 48⟩, ⟨7, 0, 1, 2, 3, 4, 5, 6, 49⟩, ⟨6, 7, 0, 1, 2, 3, 4, 5, 50⟩,
  ⟨5, 6, 7, 0, 1, 2, 3, 4, 51⟩, ⟨4, 5, 6, 7, 0, 1, 2, 3, 52⟩, ⟨3, 4, 5, 6, 7, 0, 1, 2, 53⟩,
  ⟨2, 3, 4, 5, 6, 7, 0, 1, 54⟩, ⟨1, 2, 3, 4, 5, 6, 7, 0, 55⟩, ⟨0, 1, 2, 3, 4, 5, 6, 7, 56⟩,
  ⟨7, 0, 1, 2, 3, 4, 5, 6, 57⟩, ⟨6, 7, 0, 1, 2, 3, 4, 5, 58⟩, ⟨5, 6, 7, 0, 1, 2, 3, 4, 59⟩,
  ⟨4, 5, 6, 7, 0, 1, 2, 3, 60⟩, ⟨3, 4, 5, 6, 7, 0, 1, 2, 61⟩, ⟨2, 3, 4, 5, 6, 7, 0, 1, 62⟩,
  ⟨1, 2, 3, 4, 5, 6, 7, 0, 63⟩]

def unrolledW (w : List UInt32) (subBlock : ℕ → UInt8) : List UInt32 :=
  scrLines.foldl sha256Scr (packLines.foldl (fun w l => w.set l.2 (pack32 subBlock l.1)) w)

def unrolledRounds (w : List UInt32) (h : Vector UInt32 8) : Vector UInt32 8 :=
  expLines.foldl (sha256Exp w)
    #v[h.get 0, h.get 1, h.get 2, h.get 3, h.get 4, h.get 5, h.get 6, h.get 7]

def addLines (h wv : Vector UInt32 8) : Vector UInt32 8 :=
  #v[h.get 0 + wv.get 0, h.get 1 + wv.get 1, h.get 2 + wv.get 2, h.get 3 + wv.get 3,
    h.get 4 + wv.get 4, h.get 5 + wv.get 5, h.get 6 + wv.get 6, h.get 7 + wv.get 7]

/-- The turns of the block loop; the array `w` keeps the words of the block before. -/
def unrolledTurns (message : ℤ → UInt8) : List ℕ → Vector UInt32 8 → List UInt32 → Vector UInt32 8
  | [], h, _ => h
  | i :: turns, h, w =>
    let w := unrolledW w (subBlock message i)
    unrolledTurns message turns (addLines h (unrolledRounds w h)) w

def sha256TransfUnrolled (h : Vector UInt32 8) (message : ℤ → UInt8) (blockNb : UInt32) :
    Vector UInt32 8 :=
  unrolledTurns message (blockTurns blockNb) h (List.replicate 64 0)

def shaInitUnrolled (h0 : List UInt32) (ctx : Sha256Ctx) : Sha256Ctx :=
  { ctx with
    h := #v[h0.getD 0 0, h0.getD 1 0, h0.getD 2 0, h0.getD 3 0, h0.getD 4 0, h0.getD 5 0,
      h0.getD 6 0, h0.getD 7 0]
    len := 0
    totLen := 0 }

/-- The words and the offsets in `digest` of the `UNPACK32` lines of `sha256_final`. -/
def digestLines256 : List (Fin 8 × ℕ) :=
  [(0, 0), (1, 4), (2, 8), (3, 12), (4, 16), (5, 20), (6, 24), (7, 28)]

def digestLines224 : List (Fin 8 × ℕ) :=
  [(0, 0), (1, 4), (2, 8), (3, 12), (4, 16), (5, 20), (6, 24)]

def shaFinalUnrolled (blockSize : UInt32) (lines : List (Fin 8 × ℕ)) (ctx : Sha256Ctx)
    (digest : Memory UInt8) : Memory UInt8 × Sha256Ctx :=
  let blockNb : UInt32 := if blockSize - 9 < ctx.len % blockSize then 2 else 1
  let lenB := (ctx.totLen + ctx.len) <<< 3
  let pmLen := blockNb <<< 6
  let block := copyIn ctx.block ctx.len.toNat (List.replicate (pmLen - ctx.len).toNat 0)
  let block := copyIn block ctx.len.toNat [0x80]
  let block := copyIn block (pmLen - 4).toNat (unpack32 lenB)
  let h := sha256TransfUnrolled ctx.h (blockPtr block) blockNb
  (lines.foldl (fun digest l => copyIn digest l.2 (unpack32 (h.get l.1))) digest,
    { ctx with block := block, h := h })

def sha256InitUnrolled (ctx : Sha256Ctx) : Sha256Ctx := shaInitUnrolled sha256H0 ctx

def sha224InitUnrolled (ctx : Sha256Ctx) : Sha256Ctx := shaInitUnrolled sha224H0 ctx

def sha256FinalUnrolled (ctx : Sha256Ctx) (digest : Memory UInt8) : Memory UInt8 × Sha256Ctx :=
  shaFinalUnrolled sha256BlockSize digestLines256 ctx digest

def sha224FinalUnrolled (ctx : Sha256Ctx) (digest : Memory UInt8) : Memory UInt8 × Sha256Ctx :=
  shaFinalUnrolled sha224BlockSize digestLines224 ctx digest

variable {w : List UInt32} {u v : Vector UInt32 8} {k : Fin 8}

def Rotated (k : Fin 8) (u v : Vector UInt32 8) : Prop := ∀ i : Fin 8, u.get (i - k) = v.get i

def turnedLine (k : Fin 8) (j : ℕ) : ExpLine :=
  ⟨0 - k, 1 - k, 2 - k, 3 - k, 4 - k, 5 - k, 6 - k, 7 - k, j⟩

theorem expLines_turned :
    expLines = (List.range 64).map fun j => turnedLine (Fin.ofNat 8 j) j := by
  decide

theorem get_set {n : ℕ} (u : Vector UInt32 n) (d i : Fin n) (x : UInt32) :
    (u.set d x).get i = if i = d then x else u.get i := by
  change (u.set d x)[i] = if i = d then x else u[i]
  simp only [Fin.getElem_fin, Vector.getElem_set, Fin.ext_iff, eq_comm]

/-- What a turn of the loop leaves in the variable that comes from variable `i`. -/
theorem turn_get (w : List UInt32) (v : Vector UInt32 8) (j : ℕ) (i : Fin 8) :
    (turn w v j).get (i + 1) =
      let t1 := v.get 7 + sha256F2 (v.get 4) + ch (v.get 4) (v.get 5) (v.get 6) +
        sha256K.getD j 0 + w.getD j 0
      if i = 7 then t1 + (sha256F1 (v.get 0) + maj (v.get 0) (v.get 1) (v.get 2))
      else if i = 3 then v.get 3 + t1 else v.get i := by
  fin_cases i <;> rfl

theorem rotated_turn (h : Rotated k u v) (j : ℕ) :
    Rotated (k + 1) (sha256Exp w u (turnedLine k j)) (turn w v j) := by
  intro i
  obtain ⟨i, rfl⟩ : ∃ i', i = i' + 1 := ⟨i - 1, (sub_add_cancel i 1).symm⟩
  have hindex : i + 1 - (k + 1) = i - k := add_sub_add_right_eq_sub i k 1
  simp only [hindex, turn_get]
  simp only [sha256Exp, turnedLine, get_set, sub_left_inj, h _]

theorem rotated_turns (h : Rotated 0 u v) (n : ℕ) : Rotated (Fin.ofNat 8 n)
    (((List.range n).map fun j => turnedLine (Fin.ofNat 8 j) j).foldl (sha256Exp w) u)
    ((List.range n).foldl (turn w) v) := by
  induction n with
  | zero => exact h
  | succ n ih =>
    have hnext : Fin.ofNat 8 (n + 1) = Fin.ofNat 8 n + 1 := by
      apply Fin.ext
      simp [Fin.val_add]
    simp only [List.range_succ, List.map_append, List.foldl_append, List.map_cons, List.map_nil,
      List.foldl_cons, List.foldl_nil]
    rw [hnext]
    exact rotated_turn ih n

theorem unrolledRounds_eq (w : List UInt32) (v : Vector UInt32 8) :
    unrolledRounds w v = (List.range 64).foldl (turn w) v := by
  have hload : #v[v.get 0, v.get 1, v.get 2, v.get 3, v.get 4, v.get 5, v.get 6, v.get 7] = v :=
    toArray_vars v
  have hrot := rotated_turns (w := w) (u := v) (v := v) (fun i => by simp only [sub_zero]) 64
  rw [unrolledRounds, hload]
  rw [← expLines_turned] at hrot
  apply Vector.ext
  intro i hi
  have hzero : Fin.ofNat 8 64 = 0 := rfl
  have hget := hrot ⟨i, hi⟩
  simp only [hzero, sub_zero] at hget
  exact hget

theorem packLines_eq : packLines = (List.range 16).map fun j => (j <<< 2, j) := by
  decide

theorem scrLines_eq : scrLines = List.range' 16 48 := by
  decide

theorem fillW_length (subBlock : ℕ → UInt8) : (fillW subBlock).length = 64 := by
  have hfilled := filled subBlock (w := List.replicate 64 0) List.length_replicate
  exact hfilled.1

/-- The array is filled alike, whatever the block before left in it. -/
theorem unrolledW_eq (subBlock : ℕ → UInt8) (hw : w.length = 64) :
    unrolledW w subBlock = fillW subBlock := by
  obtain ⟨hlen, hget⟩ := filled subBlock hw
  rw [unrolledW, scrLines_eq, packLines_eq, List.foldl_map]
  apply List.ext_getElem (hlen.trans (fillW_length subBlock).symm)
  intro t ht ht'
  rw [← List.getD_eq_getElem _ 0 ht, ← List.getD_eq_getElem _ 0 ht', hget t (by omega)]
  exact (fillW_getD subBlock (by omega)).symm

theorem addLines_eq (h wv : Vector UInt32 8) :
    addLines h wv = Vector.ofFn fun j => h.get j + wv.get j := by
  apply Vector.ext
  intro i hi
  interval_cases i <;> rfl

theorem block_same (h : Vector UInt32 8) (subBlock : ℕ → UInt8) :
    addLines h (unrolledRounds (fillW subBlock) h) = transfBlock h subBlock := by
  rw [unrolledRounds_eq, addLines_eq, transfBlock]

theorem unrolledTurns_eq (message : ℤ → UInt8) (turns : List ℕ) (h : Vector UInt32 8)
    (hw : w.length = 64) : unrolledTurns message turns h w =
      turns.foldl (fun h i => transfBlock h (subBlock message i)) h := by
  induction turns generalizing h w with
  | nil => rfl
  | cons i turns ih =>
    have hnext := ih (transfBlock h (subBlock message i)) (fillW_length (subBlock message i))
    rw [unrolledTurns, unrolledW_eq _ hw, List.foldl_cons, block_same, hnext]

theorem transf_same (h : Vector UInt32 8) (message : ℤ → UInt8) (blockNb : UInt32) :
    sha256TransfUnrolled h message blockNb = sha256Transf h message blockNb := by
  rw [sha256TransfUnrolled, sha256Transf]
  exact unrolledTurns_eq message (blockTurns blockNb) h List.length_replicate

theorem init_same (h0 : List UInt32) (ctx : Sha256Ctx) :
    shaInitUnrolled h0 ctx = (shaInit h0 ctx).ctx :=
  rfl

variable {words : List (Fin 8)}

theorem unpack32_length (x : UInt32) : (unpack32 x).length = 4 := rfl

/-- Words stored one behind the other are one store of all their bytes. -/
theorem digestLines_eq (h : Vector UInt32 8) (words : List (Fin 8)) (digest : Memory UInt8)
    (n : ℕ) : (words.zipIdx n).foldl
      (fun digest l => copyIn digest (4 * l.2) (unpack32 (h.get l.1))) digest =
        copyIn digest (4 * n) (words.flatMap fun i => unpack32 (h.get i)) := by
  induction words generalizing digest n with
  | nil =>
    funext i
    exact (copyIn_frame digest (by simp only [List.flatMap_nil, List.length_nil]; omega)).symm
  | cons i words ih =>
    have hnext : 4 * (n + 1) = 4 * n + (unpack32 (h.get i)).length := by
      rw [unpack32_length]
      omega
    rw [List.zipIdx_cons, List.foldl_cons, ih, List.flatMap_cons, hnext]
    exact copyIn_append digest (4 * n) _ _

theorem final_same (blockSize : UInt32) {lines : List (Fin 8 × ℕ)}
    (hlines : lines = (words.zipIdx 0).map fun l => (l.1, 4 * l.2)) (run : ShaRun)
    (digest : Memory UInt8) : shaFinalUnrolled blockSize lines run.ctx digest =
      (copyIn digest 0 (shaFinal blockSize words run).1, (shaFinal blockSize words run).2.ctx) := by
  unfold shaFinalUnrolled shaFinal
  dsimp only
  rw [transf_same, hlines, List.foldl_map, digestLines_eq]

/-- The unrolled functions leave the state and the digest of the loops. -/
theorem unroll_loops_same :
    (∀ h message blockNb,
      sha256TransfUnrolled h message blockNb = sha256Transf h message blockNb) ∧
    (∀ ctx, sha256InitUnrolled ctx = (sha256Init ctx).ctx ∧
      sha224InitUnrolled ctx = (sha224Init ctx).ctx) ∧
    ∀ run digest,
      sha256FinalUnrolled run.ctx digest =
        (copyIn digest 0 (sha256Final run).1, (sha256Final run).2.ctx) ∧
      sha224FinalUnrolled run.ctx digest =
        (copyIn digest 0 (sha224Final run).1, (sha224Final run).2.ctx) := by
  refine ⟨transf_same, ?_, ?_⟩
  · intro ctx
    exact ⟨init_same sha256H0 ctx, init_same sha224H0 ctx⟩
  · intro run digest
    constructor
    · exact final_same sha256BlockSize (by decide) run digest
    · exact final_same sha224BlockSize (by decide) run digest

end Sha2Unrolled
