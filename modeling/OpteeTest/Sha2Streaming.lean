import OpteeTest.Sha2Compression

/-! # Streaming updates absorb the concatenation of their chunks

A run has absorbed whole blocks, which were compressed in order, and a tail shorter than a
block, which waits in `ctx->block`. -/
namespace Sha2Streaming

open ByteMemory TeeApi BigEndian Sha2Impl Sha2Compression
open Sha2Spec (HashValue blocks compress)

def above (message : ℤ → UInt8) : Memory UInt8 := fun i => message i

theorem blocks_append {a : List UInt8} (h : a.length % 64 = 0) (b : List UInt8) :
    blocks (a ++ b) = blocks a ++ blocks b := by
  obtain ⟨n, hn⟩ : ∃ n, a.length = 64 * n := ⟨a.length / 64, by omega⟩
  have hdiv : (a ++ b).length / 64 = n + b.length / 64 := by
    rw [List.length_append, hn]
    omega
  have hdiv' : a.length / 64 = n := by omega
  simp only [blocks, hdiv, hdiv', List.range_add, List.map_append, List.map_map]
  congr 1
  · refine List.map_congr_left fun k hk => ?_
    have hk := List.mem_range.mp hk
    rw [List.drop_append_of_le_length (by omega), List.take_append_of_le_length]
    rw [List.length_drop]
    omega
  · refine List.map_congr_left fun k _ => ?_
    have hdrop : 64 * (n + k) = a.length + 64 * k := by omega
    rw [Function.comp_apply, hdrop, List.drop_append]
    simp [List.drop_eq_nil_of_le]

theorem slice_drop_take (m : Memory UInt8) {off n k c : ℕ} (h : k + c ≤ n) :
    ((slice m off n).drop k).take c = slice m (off + k) c := by
  apply List.ext_getElem
  · simp
    omega
  · intro i h₁ h₂
    simp [Nat.add_assoc]

theorem blocks_slice (m : Memory UInt8) (off n : ℕ) :
    blocks (slice m off (64 * n)) = (List.range n).map fun i => slice m (off + 64 * i) 64 := by
  have hdiv : (slice m off (64 * n)).length / 64 = n := by
    rw [length_slice]
    omega
  rw [blocks, hdiv]
  refine List.map_congr_left fun k hk => ?_
  have hk := List.mem_range.mp hk
  exact slice_drop_take m (by omega)

theorem blockOffset_eq {i : ℕ} (h : i < 2 ^ 25) : blockOffset i = (64 * i : ℕ) := by
  rw [blockOffset, toInt_of_lt (by omega), Nat.mul_comm]

theorem blockTurns_eq {blockNb : UInt32} (h : blockNb.toNat < 2 ^ 31) :
    blockTurns blockNb = List.range blockNb.toNat := by
  rw [blockTurns, toInt_of_lt h, Int.toNat_natCast]

theorem transfFed_eq (message : ℤ → UInt8) {blockNb : UInt32} (h : blockNb.toNat ≤ 2 ^ 25) :
    transfFed message blockNb = blocks (slice (above message) 0 (64 * blockNb.toNat)) := by
  rw [transfFed, blockTurns_eq (by omega), blocks_slice]
  refine List.map_congr_left fun i hi => ?_
  have hi := List.mem_range.mp hi
  refine List.map_congr_left fun j _ => ?_
  rw [subBlock, blockOffset_eq (by omega), Nat.zero_add]
  rfl

theorem transfReads_bound {blockNb : UInt32} (h : blockNb.toNat ≤ 2 ^ 25) {off : ℤ}
    (hoff : off ∈ transfReads blockNb) : 0 ≤ off ∧ off < 64 * blockNb.toNat := by
  rw [transfReads, blockTurns_eq (by omega)] at hoff
  obtain ⟨i, hi, hoff⟩ := List.mem_flatMap.mp hoff
  obtain ⟨j, hj, rfl⟩ := List.mem_map.mp hoff
  have hi := List.mem_range.mp hi
  have hj := List.mem_range.mp hj
  rw [blockOffset_eq (by omega)]
  omega

theorem transfReads_block {blockNb : UInt32} (h : blockNb.toNat ≤ 2) :
    ∀ off ∈ transfReads blockNb, 0 ≤ off ∧ off < 128 := by
  intro off hoff
  have hbound := transfReads_bound (by omega) hoff
  omega

theorem span_bound {start : ℤ} {count : ℕ} {off : ℤ} (h : off ∈ span start count) :
    start ≤ off ∧ off < start + count := by
  obtain ⟨i, hi, rfl⟩ := List.mem_map.mp h
  have hi := List.mem_range.mp hi
  omega

theorem copied_eq (message : ℤ → UInt8) (n : ℕ) :
    ((List.range n).map fun i : ℕ => message i) = slice (above message) 0 n := by
  simp [slice, above]

theorem above_blockPtr (block : Memory UInt8) : above (blockPtr block) = block := by
  funext i
  simp [above, blockPtr]

structure Bounded (l : ShaLog) : Prop where
  reads : ∀ r ∈ l.reads, r.InBounds
  accesses : ∀ off ∈ l.accesses, 0 ≤ off ∧ off < 128

theorem Bounded.append {l m : ShaLog} (hl : Bounded l) (hm : Bounded m) :
    Bounded (l.append m) where
  reads r hr := (List.mem_append.mp hr).elim (hl.reads r) (hm.reads r)
  accesses off hoff := (List.mem_append.mp hoff).elim (hl.accesses off) (hm.accesses off)

/-- Reads from `base` on, at offsets that stay below the size of the message. -/
theorem reads_inBounds {offs : List ℤ} (base n : ℕ) {size : ℕ} (h : ∀ off ∈ offs, 0 ≤ off ∧ off < n)
    (hn : base + n ≤ size) :
    ∀ r ∈ offs.map fun off => (⟨base + off, size⟩ : MessageRead), r.InBounds := by
  intro r hr
  obtain ⟨off, hoff, rfl⟩ := List.mem_map.mp hr
  have hbound := h off hoff
  exact ⟨by simp only; omega, by simp only; omega⟩

theorem span_reads (base : ℕ) {n size : ℕ} (h : base + n ≤ size) :
    ∀ r ∈ (span base n).map fun off => (⟨off, size⟩ : MessageRead), r.InBounds := by
  intro r hr
  obtain ⟨off, hoff, rfl⟩ := List.mem_map.mp hr
  have hbound := span_bound hoff
  exact ⟨by simp only; omega, by simp only; omega⟩

theorem span_accesses (base : ℕ) {n : ℕ} (h : base + n ≤ 128) :
    ∀ off ∈ span base n, 0 ≤ off ∧ off < 128 := by
  intro off hoff
  have hbound := span_bound hoff
  omega

/-- The run compressed the blocks of `whole` and holds `tail` in its context. -/
structure Absorbed (H : HashValue) (run : ShaRun) (whole tail : List UInt8) : Prop where
  short : tail.length < 64
  aligned : whole.length % 64 = 0
  len : run.ctx.len.toNat = tail.length
  totLen : run.ctx.totLen = UInt32.ofNat whole.length
  held : slice run.ctx.block 0 tail.length = tail
  fed : run.log.fed = blocks whole
  hash : run.ctx.h = run.log.fed.foldl compress H
  bounded : Bounded run.log

theorem init_absorbed {H : HashValue} {h0 : List UInt32} (hh : ∀ i : Fin 8, h0.getD i 0 = H.get i)
    (ctx : Sha256Ctx) : Absorbed H (shaInit h0 ctx) [] [] where
  short := by decide
  aligned := rfl
  len := rfl
  totLen := rfl
  held := rfl
  fed := rfl
  hash := by
    apply Vector.ext
    intro i hi
    have hword : h0.getD i 0 = H[i] := hh ⟨i, hi⟩
    simpa [shaInit] using hword
  bounded := ⟨by simp [shaInit], by simp [shaInit]⟩

structure Chunk where
  message : ℤ → UInt8
  len : UInt32

def Chunk.bytes (c : Chunk) : List UInt8 := slice (above c.message) 0 c.len.toNat

variable {H : HashValue} {run : ShaRun} {whole tail : List UInt8}

/-- The first copy loop of an update takes as much as fits into the block. -/
theorem remLen_toNat {a : UInt32} (len : UInt32) (ha : a.toNat < 64) :
    (if len < 64 - a then len else 64 - a).toNat = min len.toNat (64 - a.toNat) := by
  have hsub : (64 - a).toNat = 64 - a.toNat :=
    UInt32.toNat_sub_of_le 64 a (UInt32.le_iff_toNat_le.mpr (by simpa using ha.le))
  by_cases h : len < 64 - a
  · have hlt := UInt32.lt_iff_toNat_lt.mp h
    rw [if_pos h]
    omega
  · have hge := Nat.not_lt.mp fun hlt => h (UInt32.lt_iff_toNat_lt.mpr hlt)
    rw [if_neg h]
    omega

theorem add_toNat {a b : UInt32} (h : a.toNat + b.toNat < 2 ^ 32) :
    (a + b).toNat = a.toNat + b.toNat := by
  rw [UInt32.toNat_add, Nat.mod_eq_of_lt h]

theorem slice_copyIn_tail (m : Memory UInt8) (off : ℕ) (data : List UInt8) :
    slice (copyIn m off data) 0 (off + data.length) = slice m 0 off ++ data := by
  rw [slice_eq_append, Nat.zero_add, slice_copyIn]
  congr 1
  exact slice_congr fun i hi => copyIn_before m data (by omega)

theorem update_short (h : Absorbed H run whole tail) {c : Chunk}
    (hfit : tail.length + c.len.toNat < 64) :
    Absorbed H (shaUpdate 64 run c.message c.len) whole (tail ++ c.bytes) := by
  have hlen := h.len
  have hrem := remLen_toNat c.len (by rw [hlen]; exact h.short)
  have hsum : (run.ctx.len + c.len).toNat = tail.length + c.len.toNat := by
    rw [add_toNat (by omega), hlen]
  have hbranch : run.ctx.len + c.len < 64 := UInt32.lt_iff_toNat_lt.mpr (by rw [hsum]; exact hfit)
  have hbytes : c.bytes.length = c.len.toNat := length_slice _ _ _
  unfold shaUpdate
  simp only [hbranch, if_true]
  generalize (if c.len < 64 - run.ctx.len then c.len else 64 - run.ctx.len) = remLen at hrem
  have hrem' : remLen.toNat = c.len.toNat := by omega
  rw [hrem', copied_eq, hlen]
  constructor
  · rw [List.length_append, hbytes]; exact hfit
  · exact h.aligned
  · rw [List.length_append, hbytes]; exact hsum
  · exact h.totLen
  · rw [List.length_append]
    change slice (copyIn run.ctx.block tail.length c.bytes) 0 _ = _
    rw [slice_copyIn_tail, h.held]
  · simpa [ShaLog.append] using h.fed
  · simpa [ShaLog.append] using h.hash
  · exact h.bounded.append ⟨span_reads 0 (by omega), span_accesses _ (by omega)⟩

theorem slice_shifted (message : ℤ → UInt8) (k off n : ℕ) :
    slice (above fun z => message (k + z)) off n = slice (above message) (k + off) n := by
  refine slice_congr fun i _ => ?_
  simp only [above]
  push_cast
  rw [add_assoc]

theorem shl_six {x : UInt32} (h : 64 * x.toNat < 2 ^ 32) : (x <<< 6).toNat = 64 * x.toNat := by
  rw [UInt32.toNat_shiftLeft]
  change x.toNat <<< 6 % 2 ^ 32 = _
  rw [Nat.shiftLeft_eq, Nat.mod_eq_of_lt (by omega)]
  omega

theorem totLen_grows {t x : UInt32} {n k : ℕ} (ht : t = UInt32.ofNat n) (hx : x.toNat = k)
    (hk : 64 * (k + 1) < 2 ^ 32) : t + (x + 1) <<< 6 = UInt32.ofNat (n + 64 * (k + 1)) := by
  have hone : (x + 1).toNat = k + 1 := by
    rw [add_toNat (by simpa using by omega), hx]
    rfl
  apply UInt32.toNat_inj.mp
  rw [UInt32.toNat_add, shl_six (by rw [hone]; omega), hone, ht, UInt32.toNat_ofNat',
    UInt32.toNat_ofNat']
  omega

/-- The pieces of a chunk that fills the block: what completes it, the whole blocks after
it, and the new tail. -/
def Chunk.first (c : Chunk) (held : ℕ) : List UInt8 := slice (above c.message) 0 (64 - held)

def Chunk.middle (c : Chunk) (held : ℕ) : List UInt8 :=
  slice (above c.message) (64 - held) (64 * ((c.len.toNat - (64 - held)) / 64))

def Chunk.rest (c : Chunk) (held : ℕ) : List UInt8 :=
  slice (above c.message) (64 - held + 64 * ((c.len.toNat - (64 - held)) / 64))
    ((c.len.toNat - (64 - held)) % 64)

theorem Chunk.bytes_eq {c : Chunk} {held : ℕ} (h : 64 ≤ held + c.len.toNat) :
    c.bytes = c.first held ++ c.middle held ++ c.rest held := by
  have hlen : c.len.toNat = 64 - held + 64 * ((c.len.toNat - (64 - held)) / 64) +
      (c.len.toNat - (64 - held)) % 64 := by omega
  unfold Chunk.bytes Chunk.first Chunk.middle Chunk.rest
  conv_lhs => rw [hlen, slice_eq_append, slice_eq_append]
  simp only [Nat.zero_add]

/-- The four parts of a long update: the copy up to the end of the block, the block, the whole
blocks of the message, and the copy of what remains. -/
theorem longUpdate_bounded {l : ShaLog} (hl : Bounded l) {n : ℕ} (hn : n < 64)
    {len blockNb tailLen : UInt32} (hlen : len.toNat < 2 ^ 31)
    (hfit : 64 - n + 64 * blockNb.toNat + tailLen.toNat ≤ len.toNat) (htailLen : tailLen.toNat < 64)
    (first middle : List (List UInt8)) :
    Bounded ((((l.append ⟨[], (span 0 (64 - n)).map fun off => ⟨off, len.toNat⟩,
        span n (64 - n)⟩).append ⟨first, [], transfReads 1⟩).append
      ⟨middle, (transfReads blockNb).map fun off => ⟨(64 - n : ℕ) + off, len.toNat⟩, []⟩).append
      ⟨[], (span (64 - n + 64 * blockNb.toNat : ℕ) tailLen.toNat).map
        fun off => ⟨off, len.toNat⟩, span 0 tailLen.toNat⟩) := by
  have hcopy : Bounded ⟨[], (span 0 (64 - n)).map fun off => ⟨off, len.toNat⟩,
      span n (64 - n)⟩ := ⟨span_reads 0 (by omega), span_accesses _ (by omega)⟩
  have hblock : Bounded ⟨first, [], transfReads 1⟩ :=
    ⟨by simp, by dsimp only; exact transfReads_block (by decide)⟩
  have hoffs : ∀ off ∈ transfReads blockNb, 0 ≤ off ∧ off < (64 * blockNb.toNat : ℕ) := by
    intro off hoff
    have hbound := transfReads_bound (by omega) hoff
    omega
  have hreads := reads_inBounds (64 - n) (64 * blockNb.toNat) hoffs (by omega : _ ≤ len.toNat)
  have hmiddle : Bounded ⟨middle, (transfReads blockNb).map
      fun off => ⟨(64 - n : ℕ) + off, len.toNat⟩, []⟩ := ⟨by dsimp only; exact hreads, by simp⟩
  have htail : Bounded ⟨[], (span (64 - n + 64 * blockNb.toNat : ℕ) tailLen.toNat).map
      fun off => ⟨off, len.toNat⟩, span 0 tailLen.toNat⟩ :=
    ⟨span_reads _ (by omega), span_accesses 0 (by omega)⟩
  exact (((hl.append hcopy).append hblock).append hmiddle).append htail

/-- How many whole blocks follow the bytes that complete a block, and how many bytes are left. -/
theorem remaining_toNat {len remLen : UInt32} {n : ℕ} (hrem : remLen.toNat = n)
    (hle : n ≤ len.toNat) : ((len - remLen) / 64).toNat = (len.toNat - n) / 64 ∧
      ((len - remLen) % 64).toNat = (len.toNat - n) % 64 := by
  have hnew : (len - remLen).toNat = len.toNat - n := by
    rw [UInt32.toNat_sub_of_le _ _ (UInt32.le_iff_toNat_le.mpr (hrem ▸ hle)), hrem]
  rw [UInt32.toNat_div, UInt32.toNat_mod, hnew]
  exact ⟨rfl, rfl⟩

theorem Chunk.rest_eq (c : Chunk) {n blockNb tailLen : ℕ}
    (hnb : blockNb = (c.len.toNat - (64 - n)) / 64)
    (hrest : tailLen = (c.len.toNat - (64 - n)) % 64) :
    ((List.range tailLen).map fun i =>
      c.message ((64 - n : ℕ) + ((64 * blockNb + i : ℕ) : ℤ))) = c.rest n := by
  unfold Chunk.rest slice above
  rw [hrest, hnb]
  refine List.map_congr_left fun i _ => ?_
  rw [← Nat.cast_add, Nat.add_assoc]

theorem update_long (h : Absorbed H run whole tail) {c : Chunk} (hlt : c.len.toNat < 2 ^ 31)
    (hfull : 64 ≤ tail.length + c.len.toNat) :
    Absorbed H (shaUpdate 64 run c.message c.len)
      (whole ++ (tail ++ c.first tail.length) ++ c.middle tail.length) (c.rest tail.length) := by
  have hshort := h.short
  have hlen := h.len
  have hrem := remLen_toNat c.len (by rw [hlen]; exact hshort)
  have hsum : (run.ctx.len + c.len).toNat = tail.length + c.len.toNat := by
    rw [add_toNat (by omega), hlen]
  have hbranch : ¬ run.ctx.len + c.len < 64 := by
    rw [UInt32.lt_iff_toNat_lt, hsum]
    exact Nat.not_lt.mpr hfull
  unfold shaUpdate
  simp only [hbranch, if_false]
  generalize (if c.len < 64 - run.ctx.len then c.len else 64 - run.ctx.len) = remLen at hrem
  have hrem' : remLen.toNat = 64 - tail.length := by omega
  have hcompletes : 64 - tail.length ≤ c.len.toNat := by omega
  obtain ⟨hnb, hrest⟩ := remaining_toNat hrem' hcompletes
  generalize (c.len - remLen) / 64 = blockNb at hnb
  generalize (c.len - remLen) % 64 = tailLen at hrest
  have hshl : (blockNb <<< 6).toNat = 64 * blockNb.toNat := shl_six (by omega)
  rw [hshl, hrem', copied_eq, hlen]
  generalize hblock : copyIn run.ctx.block tail.length
    (slice (above c.message) 0 (64 - tail.length)) = block
  have hfirst : slice block 0 64 = tail ++ c.first tail.length := by
    have hcopy := slice_copyIn_tail run.ctx.block tail.length (c.first tail.length)
    rw [h.held, Chunk.first, length_slice, hblock, Nat.add_sub_cancel' hshort.le] at hcopy
    exact hcopy
  have hfed₁ : transfFed (blockPtr block) 1 = blocks (tail ++ c.first tail.length) := by
    rw [transfFed_eq _ (by decide), above_blockPtr, ← hfirst]
    rfl
  have hfed₂ : transfFed (fun z => c.message ((64 - tail.length : ℕ) + z)) blockNb =
      blocks (c.middle tail.length) := by
    rw [transfFed_eq _ (by omega), slice_shifted, Nat.add_zero, hnb]
    rfl
  have hrestLen : (c.rest tail.length).length = tailLen.toNat := by
    rw [Chunk.rest, length_slice, hrest]
  have hmiddleLen : (c.middle tail.length).length % 64 = 0 := by
    rw [Chunk.middle, length_slice]
    omega
  have hfirstLen : (tail ++ c.first tail.length).length = 64 := by
    rw [← hfirst, length_slice]
  have hwhole : (whole ++ (tail ++ c.first tail.length)).length % 64 = 0 := by
    rw [List.length_append, hfirstLen]
    have := h.aligned
    omega
  rw [c.rest_eq hnb hrest, hfed₁, hfed₂, sha256Transf_eq, sha256Transf_eq, hfed₁, hfed₂]
  have hfed : run.log.fed ++ blocks (tail ++ c.first tail.length) ++
      blocks (c.middle tail.length) =
      blocks (whole ++ (tail ++ c.first tail.length) ++ c.middle tail.length) := by
    rw [blocks_append hwhole, blocks_append h.aligned, h.fed]
  constructor
  · rw [hrestLen]; omega
  · rw [List.length_append]
    omega
  · exact hrestLen.symm
  · refine (totLen_grows h.totLen hnb (by omega)).trans (congrArg UInt32.ofNat ?_)
    rw [List.length_append, List.length_append, hfirstLen, Chunk.middle, length_slice]
    omega
  · exact slice_copyIn block 0 (c.rest tail.length)
  · simpa [ShaLog.append] using hfed
  · simp only [ShaLog.append, List.foldl_append, List.append_nil, h.hash]
  · exact longUpdate_bounded h.bounded hshort (by omega) (by omega) (by omega) _ _

/-- The padding that `final` writes: the bit length modulo 2^32 under four zero bytes. -/
def wrappedPadding (len : ℕ) : List UInt8 :=
  0x80 :: (List.replicate ((119 - len % 64) % 64) 0 ++ beBytes 8 (8 * len % 2 ^ 32))

theorem wrappedPadding_eq {len : ℕ} (h : len < 2 ^ 29) :
    wrappedPadding len = Sha2Spec.padding len := by
  rw [wrappedPadding, Sha2Spec.padding, Nat.mod_eq_of_lt (by omega : 8 * len < 2 ^ 32)]

def lastBlocks (held : ℕ) : ℕ := if 55 < held then 2 else 1

theorem slice_replicate (m : Memory UInt8) (off fill : ℕ) {i k : ℕ} (h : off ≤ i)
    (hk : i + k ≤ off + fill) :
    slice (copyIn m off (List.replicate fill 0)) i k = List.replicate k 0 := by
  apply List.ext_getElem
  · simp
  · intro j hj _
    have hj' : j < k := by simpa using hj
    have hcell : copyIn m off (List.replicate fill 0) (off + (i + j - off)) = 0 := by
      rw [copyIn_inside m (by simp; omega), List.getElem_replicate]
    have hoff : off + (i + j - off) = i + j := by omega
    rw [getElem_slice, ← hoff, hcell, List.getElem_replicate]

/-- The first bytes of the block after the three stores of `final`. -/
theorem padded_block (block : Memory UInt8) (field : List UInt8) {tail : List UInt8} {pm : ℕ}
    (hheld : slice block 0 tail.length = tail) (hfield : field.length = 4)
    (hroom : tail.length + 9 ≤ pm) :
    slice (copyIn (copyIn (copyIn block tail.length (List.replicate (pm - tail.length) 0))
      tail.length [0x80]) (pm - 4) field) 0 pm =
      tail ++ (0x80 :: (List.replicate (pm - tail.length - 5) 0 ++ field)) := by
  generalize hz : copyIn block tail.length (List.replicate (pm - tail.length) 0) = zeroed
  generalize ho : copyIn zeroed tail.length [0x80] = marked
  have hpm : pm = tail.length + (1 + ((pm - tail.length - 5) + 4)) := by omega
  have hmark : slice marked tail.length 1 = [0x80] := by
    rw [← ho]
    exact slice_copyIn zeroed tail.length [0x80]
  have hzeros : slice marked (tail.length + 1) (pm - tail.length - 5) =
      List.replicate (pm - tail.length - 5) 0 := by
    rw [← slice_replicate block tail.length (pm - tail.length) (Nat.le_succ _) (by omega), hz,
      ← ho]
    exact slice_congr fun i _ => copyIn_after zeroed (by simp)
  have hkept : slice marked 0 tail.length = tail := by
    conv_rhs => rw [← hheld]
    refine slice_congr fun i hi => ?_
    rw [← ho, copyIn_before _ _ (by omega), ← hz, copyIn_before _ _ (by omega)]
  have hlast : slice (copyIn marked (pm - 4) field) (tail.length + 1 + (pm - tail.length - 5)) 4 =
      field := by
    have hstart : tail.length + 1 + (pm - tail.length - 5) = pm - 4 := by omega
    rw [hstart, ← hfield, slice_copyIn]
  have hframe : ∀ off len, off + len ≤ pm - 4 →
      slice (copyIn marked (pm - 4) field) off len = slice marked off len :=
    fun off len h => slice_congr fun i hi => copyIn_before marked field (by omega)
  calc slice (copyIn marked (pm - 4) field) 0 pm
      = slice (copyIn marked (pm - 4) field) 0
          (tail.length + (1 + ((pm - tail.length - 5) + 4))) := by rw [← hpm]
    _ = tail ++ ([0x80] ++ (List.replicate (pm - tail.length - 5) 0 ++ field)) := by
        rw [slice_eq_append, slice_eq_append, slice_eq_append, Nat.zero_add, hframe 0 _ (by omega),
          hframe tail.length 1 (by omega), hframe (tail.length + 1) _ (by omega), hkept, hmark,
          hzeros, hlast]

theorem lastBlocks_toNat {a : UInt32} (ha : a.toNat < 64) :
    (if 64 - 9 < a % 64 then 2 else 1 : UInt32).toNat = lastBlocks a.toNat := by
  have hmod : (a % 64).toNat = a.toNat := by
    rw [UInt32.toNat_mod]
    exact Nat.mod_eq_of_lt ha
  have hiff : 64 - 9 < a % 64 ↔ 55 < a.toNat := by
    rw [UInt32.lt_iff_toNat_lt, hmod]
    rfl
  unfold lastBlocks
  by_cases h : 55 < a.toNat
  · rw [if_pos (hiff.mpr h), if_pos h]
    rfl
  · rw [if_neg (mt hiff.mp h), if_neg h]
    rfl

theorem bitLength_toNat {t a : UInt32} {n k : ℕ} (ht : t = UInt32.ofNat n) (ha : a.toNat = k) :
    ((t + a) <<< 3).toNat = 8 * (n + k) % 2 ^ 32 := by
  rw [UInt32.toNat_shiftLeft]
  change (t + a).toNat <<< 3 % 2 ^ 32 = _
  rw [UInt32.toNat_add, ht, ha, UInt32.toNat_ofNat', Nat.shiftLeft_eq]
  omega

theorem last_blocks {whole tail : List UInt8} (hw : whole.length % 64 = 0)
    (ht : tail.length < 64) :
    0x80 :: (List.replicate (64 * lastBlocks tail.length - tail.length - 5) 0 ++
      beBytes 4 (8 * (whole.length + tail.length) % 2 ^ 32)) =
      wrappedPadding (whole.length + tail.length) := by
  have hzeros : 64 * lastBlocks tail.length - tail.length - 5 =
      (119 - (whole.length + tail.length) % 64) % 64 + 4 := by
    unfold lastBlocks
    split_ifs <;> omega
  rw [wrappedPadding, hzeros, beBytes_eight (Nat.mod_lt _ (by decide)), List.replicate_add,
    List.append_assoc]

def lastBytes (ctx : Sha256Ctx) : List UInt8 :=
  slice ctx.block 0 ctx.len.toNat ++ ((0x80 : UInt8) ::
    (List.replicate (64 * lastBlocks ctx.len.toNat - ctx.len.toNat - 5) (0 : UInt8) ++
      beBytes 4 ((ctx.totLen + ctx.len) <<< 3).toNat))

theorem final_feeds (run : ShaRun) (ha : run.ctx.len.toNat < 64) (words : List (Fin 8)) :
    let out := shaFinal 64 words run
    out.2.log.fed = run.log.fed ++ blocks (lastBytes run.ctx) ∧
      out.1 = Sha2Spec.hashBytes words ((blocks (lastBytes run.ctx)).foldl compress run.ctx.h) ∧
      out.2.log.reads = run.log.reads ∧ (Bounded run.log → Bounded out.2.log) := by
  have hnb := lastBlocks_toNat ha
  unfold shaFinal lastBytes
  dsimp only
  generalize (if 64 - 9 < run.ctx.len % 64 then 2 else 1 : UInt32) = blockNb at hnb
  generalize hlen : run.ctx.len.toNat = a at ha hnb
  have hle : blockNb.toNat ≤ 2 := by
    rw [hnb]
    unfold lastBlocks
    split_ifs <;> omega
  have hroom : a + 9 ≤ 64 * blockNb.toNat := by
    rw [hnb]
    unfold lastBlocks
    split_ifs <;> omega
  have hpm : (blockNb <<< 6).toNat = 64 * blockNb.toNat := shl_six (by omega)
  have hfill : (blockNb <<< 6 - run.ctx.len).toNat = 64 * blockNb.toNat - a := by
    rw [UInt32.toNat_sub_of_le _ _ (UInt32.le_iff_toNat_le.mpr (by omega)), hpm, hlen]
  have hfour : (4 : UInt32).toNat = 4 := rfl
  have hfield : (blockNb <<< 6 - 4).toNat = 64 * blockNb.toNat - 4 := by
    rw [UInt32.toNat_sub_of_le _ _ (UInt32.le_iff_toNat_le.mpr (by omega)), hpm, hfour]
  generalize (run.ctx.totLen + run.ctx.len) <<< 3 = lenB
  have hheld : (slice run.ctx.block 0 a).length = a := length_slice _ _ _
  have hpadded := padded_block run.ctx.block (beBytes 4 lenB.toNat) (by rw [hheld])
    (beBytes_length 4 _) (hheld.symm ▸ hroom)
  rw [hheld] at hpadded
  rw [hfill, hfield, unpack32_eq lenB, ← hnb, ← hpadded]
  generalize copyIn (copyIn (copyIn run.ctx.block a _) a [0x80]) _ _ = block
  have hfed : transfFed (blockPtr block) blockNb = blocks (slice block 0 (64 * blockNb.toNat)) := by
    rw [transfFed_eq _ (by omega), above_blockPtr]
  refine ⟨?_, ?_, ?_, fun hb => hb.append ⟨by simp, ?_⟩⟩
  · exact congrArg (run.log.fed ++ ·) hfed
  · simp only [sha256Transf_eq, Sha2Spec.hashBytes, unpack32_eq, hfed]
    rfl
  · exact List.append_nil _
  · intro off hoff
    dsimp only at hoff
    rcases List.mem_append.mp hoff with hoff | hoff
    · rcases List.mem_append.mp hoff with hoff | hoff
      · rcases List.mem_append.mp hoff with hoff | hoff
        · exact span_accesses _ (by omega) off hoff
        · exact span_accesses _ (by omega) off hoff
      · exact span_accesses _ (by omega) off hoff
    · exact transfReads_block hle off hoff

theorem lastBytes_absorbed (h : Absorbed H run whole tail) :
    lastBytes run.ctx = tail ++ wrappedPadding (whole.length + tail.length) := by
  rw [lastBytes, h.len, h.held, bitLength_toNat h.totLen h.len, last_blocks h.aligned h.short]

theorem final_absorbed (h : Absorbed H run whole tail) (words : List (Fin 8)) :
    let out := shaFinal 64 words run
    out.2.log.fed = blocks (whole ++ tail ++ wrappedPadding (whole.length + tail.length)) ∧
      out.1 = Sha2Spec.hashBytes words (out.2.log.fed.foldl compress H) ∧
      Bounded out.2.log := by
  obtain ⟨hfed, hout, -, hbounded⟩ := final_feeds run (by rw [h.len]; exact h.short) words
  rw [lastBytes_absorbed h] at hfed hout
  refine ⟨?_, ?_, hbounded h.bounded⟩
  · rw [hfed, h.fed, List.append_assoc, blocks_append h.aligned]
  · rw [hout, hfed, h.hash, List.foldl_append]

/-- The run has absorbed a message, cut somewhere into whole blocks and a tail. -/
def Holds (H : HashValue) (run : ShaRun) (message : List UInt8) : Prop :=
  ∃ whole tail, message = whole ++ tail ∧ Absorbed H run whole tail

theorem update_holds {message : List UInt8} (h : Holds H run message) {c : Chunk}
    (hlt : c.len.toNat < 2 ^ 31) :
    Holds H (shaUpdate 64 run c.message c.len) (message ++ c.bytes) := by
  obtain ⟨whole, tail, rfl, h⟩ := h
  by_cases hfit : tail.length + c.len.toNat < 64
  · exact ⟨whole, tail ++ c.bytes, List.append_assoc _ _ _, update_short h hfit⟩
  · have hfull := Nat.not_lt.mp hfit
    refine ⟨_, _, ?_, update_long h hlt hfull⟩
    rw [Chunk.bytes_eq hfull]
    simp only [List.append_assoc]

def updates (run : ShaRun) (chunks : List Chunk) : ShaRun :=
  chunks.foldl (fun run c => shaUpdate 64 run c.message c.len) run

theorem updates_hold {message : List UInt8} (h : Holds H run message) {chunks : List Chunk}
    (hlt : ∀ c ∈ chunks, c.len.toNat < 2 ^ 31) :
    Holds H (updates run chunks) (message ++ chunks.flatMap Chunk.bytes) := by
  induction chunks generalizing run message with
  | nil => simpa [updates] using h
  | cons c chunks ih =>
    have hc := update_holds h (hlt c List.mem_cons_self)
    have hrest := ih hc fun d hd => hlt d (List.mem_cons_of_mem c hd)
    rwa [List.append_assoc] at hrest

theorem final_holds {message : List UInt8} (h : Holds H run message) (words : List (Fin 8)) :
    let out := shaFinal 64 words run
    out.2.log.fed = blocks (message ++ wrappedPadding message.length) ∧
      out.1 = Sha2Spec.hashBytes words (out.2.log.fed.foldl compress H) ∧
      Bounded out.2.log := by
  obtain ⟨whole, tail, rfl, h⟩ := h
  rw [List.length_append]
  exact final_absorbed h words

theorem init_holds {h0 : List UInt32} (hh : ∀ i : Fin 8, h0.getD i 0 = H.get i) (ctx : Sha256Ctx) :
    Holds H (shaInit h0 ctx) [] :=
  ⟨[], [], rfl, init_absorbed hh ctx⟩

theorem final_hash {message : List UInt8} (h : Holds H run message)
    (hlt : message.length < 2 ^ 29) (words : List (Fin 8)) :
    (shaFinal 64 words run).1 = Sha2Spec.hashBytes words (Sha2Spec.hash H message) := by
  obtain ⟨hfed, hout, -⟩ := final_holds h words
  rw [hout, hfed, wrappedPadding_eq hlt]
  rfl

/-- What a context says about the input so far, with every access so far in bounds. -/
structure ContextInvariant (run : ShaRun) (input : List UInt8) : Prop where
  len : run.ctx.len.toNat < 64
  totLen : run.ctx.totLen.toNat % 64 = 0
  total : (run.ctx.totLen + run.ctx.len).toNat = input.length % 2 ^ 32
  held : slice run.ctx.block 0 run.ctx.len.toNat = input.drop (input.length - run.ctx.len.toNat)
  bounded : Bounded run.log

theorem Absorbed.context (h : Absorbed H run whole tail) :
    ContextInvariant run (whole ++ tail) where
  len := by
    rw [h.len]
    exact h.short
  totLen := by
    have hdvd : 64 ∣ 2 ^ 32 := ⟨2 ^ 26, rfl⟩
    rw [h.totLen, UInt32.toNat_ofNat', Nat.mod_mod_of_dvd _ hdvd]
    exact h.aligned
  total := by
    rw [UInt32.toNat_add, h.totLen, UInt32.toNat_ofNat', h.len, Nat.mod_add_mod,
      List.length_append]
  held := by
    rw [h.len, h.held, List.length_append, Nat.add_sub_cancel, List.drop_left]
  bounded := h.bounded

/-- The updates between `init` and `final`, and the `final` after any number of them. -/
theorem Holds.context {input : List UInt8} (h : Holds H run input) (words : List (Fin 8)) :
    ContextInvariant run input ∧ Bounded (shaFinal 64 words run).2.log := by
  have hfinal := (final_holds h words).2.2
  obtain ⟨whole, tail, rfl, habsorbed⟩ := h
  exact ⟨habsorbed.context, hfinal⟩

def sha256Updates (ctx : Sha256Ctx) (chunks : List Chunk) : ShaRun :=
  chunks.foldl (fun run c => sha256Update run c.message c.len) (sha256Init ctx)

def sha224Updates (ctx : Sha256Ctx) (chunks : List Chunk) : ShaRun :=
  chunks.foldl (fun run c => sha224Update run c.message c.len) (sha224Init ctx)

/-- Whatever the total, the counters agree with it modulo `2 ^ 32`. -/
theorem context_invariant (ctx : Sha256Ctx) (chunks : List Chunk)
    (h : ∀ c ∈ chunks, c.len.toNat < 2 ^ 31) :
    let input := chunks.flatMap Chunk.bytes
    (ContextInvariant (sha256Updates ctx chunks) input ∧
      Bounded (sha256Final (sha256Updates ctx chunks)).2.log) ∧
    (ContextInvariant (sha224Updates ctx chunks) input ∧
      Bounded (sha224Final (sha224Updates ctx chunks)).2.log) :=
  ⟨(updates_hold (init_holds sha256H0_eq ctx) h).context (List.finRange 8),
    (updates_hold (init_holds sha224H0_eq ctx) h).context ((List.finRange 8).take 7)⟩

/-- An empty chunk, one that stays inside a block, and one that spans three. -/
def threeChunks : List Chunk := [⟨fun _ => 0, 0⟩, ⟨fun z => UInt8.ofNat z.toNat, 40⟩,
  ⟨fun z => UInt8.ofNat (z.toNat * 7), 150⟩]

theorem context_invariant_threeChunks :
    ContextInvariant (sha256Updates zeroCtx threeChunks) (threeChunks.flatMap Chunk.bytes) ∧
      Bounded (sha256Final (sha256Updates zeroCtx threeChunks)).2.log :=
  (context_invariant zeroCtx threeChunks (by decide)).1

def sha256Stream (ctx : Sha256Ctx) (chunks : List Chunk) : List UInt8 :=
  (sha256Final (chunks.foldl (fun run c => sha256Update run c.message c.len)
    (sha256Init ctx))).1

def sha224Stream (ctx : Sha256Ctx) (chunks : List Chunk) : List UInt8 :=
  (sha224Final (chunks.foldl (fun run c => sha224Update run c.message c.len)
    (sha224Init ctx))).1

theorem chunk_lengths {chunks : List Chunk} (h : (chunks.flatMap Chunk.bytes).length < 2 ^ 29) :
    ∀ c ∈ chunks, c.len.toNat < 2 ^ 31 := by
  intro c hc
  obtain ⟨before, after, rfl⟩ := List.append_of_mem hc
  have hlen : c.bytes.length = c.len.toNat := length_slice _ _ _
  rw [List.flatMap_append, List.flatMap_cons, List.length_append, List.length_append, hlen] at h
  omega

theorem sha256Stream_eq (ctx : Sha256Ctx) {chunks : List Chunk}
    (h : (chunks.flatMap Chunk.bytes).length < 2 ^ 29) :
    sha256Stream ctx chunks = Sha2Spec.sha256 (chunks.flatMap Chunk.bytes) :=
  final_hash (updates_hold (init_holds sha256H0_eq ctx) (chunk_lengths h)) h (List.finRange 8)

theorem sha224Stream_eq (ctx : Sha256Ctx) {chunks : List Chunk}
    (h : (chunks.flatMap Chunk.bytes).length < 2 ^ 29) :
    sha224Stream ctx chunks = Sha2Spec.sha224 (chunks.flatMap Chunk.bytes) :=
  final_hash (updates_hold (init_holds sha224H0_eq ctx) (chunk_lengths h)) h
    ((List.finRange 8).take 7)

/-- The digest of a stream is that of the concatenation of its chunks, whatever the cuts
and whatever was in the context before. -/
theorem streaming_digest (ctx : Sha256Ctx) (chunks : List Chunk)
    (h : (chunks.flatMap Chunk.bytes).length < 2 ^ 29) :
    let message := chunks.flatMap Chunk.bytes
    (sha256Stream ctx chunks = Sha2Spec.sha256 message ∧
      sha224Stream ctx chunks = Sha2Spec.sha224 message) ∧
    (∀ ctx' chunks', chunks'.flatMap Chunk.bytes = message →
      sha256Stream ctx' chunks' = sha256Stream ctx chunks ∧
        sha224Stream ctx' chunks' = sha224Stream ctx chunks) ∧
    ∀ c : Chunk, c.bytes = message →
      (sha256 c.message c.len).1 = sha256Stream ctx chunks ∧
        (sha224 c.message c.len).1 = sha224Stream ctx chunks := by
  have hsame : ∀ ctx' chunks', chunks'.flatMap Chunk.bytes = chunks.flatMap Chunk.bytes →
      sha256Stream ctx' chunks' = sha256Stream ctx chunks ∧
        sha224Stream ctx' chunks' = sha224Stream ctx chunks := by
    intro ctx' chunks' heq
    have h' : (chunks'.flatMap Chunk.bytes).length < 2 ^ 29 := by rwa [heq]
    rw [sha256Stream_eq ctx h, sha224Stream_eq ctx h, sha256Stream_eq ctx' h',
      sha224Stream_eq ctx' h', heq]
    exact ⟨rfl, rfl⟩
  refine ⟨⟨sha256Stream_eq ctx h, sha224Stream_eq ctx h⟩, hsame, fun c hc => ?_⟩
  exact hsame zeroCtx [c] (by rw [List.flatMap_cons, List.flatMap_nil, List.append_nil, hc])

theorem streaming_digest_threeChunks :
    sha256Stream zeroCtx threeChunks = Sha2Spec.sha256 (threeChunks.flatMap Chunk.bytes) :=
  (streaming_digest zeroCtx threeChunks (by decide +kernel)).1.1

end Sha2Streaming
