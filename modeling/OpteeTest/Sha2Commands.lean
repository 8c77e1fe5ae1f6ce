import OpteeTest.Sha2Streaming
import Mathlib.Data.Fin.VecNotation
import Mathlib.Logic.Function.Basic

/-! # The digest commands of the crypt TA

The commands accept every input size, but the bit length they append is kept in 32 bits. -/
namespace Sha2Commands

open ByteMemory TeeApi BigEndian Sha2Impl Sha2Compression Sha2Streaming
open Sha2Spec (HashValue blocks compress)

def sha224DigestSize : UInt32 := 224 / 8

def sha256DigestSize : UInt32 := 256 / 8

def pointer (below buffer : Memory UInt8) : ℤ → UInt8 :=
  fun z => if 0 ≤ z then buffer z.toNat else below (-z).toNat

structure DigestOutcome where
  res : TeeResult
  params : TeeParams
  log : ShaLog

/-- The common body of the two commands. The size of the output memref stays as it was. -/
def taEntryDigest (digestSize : UInt32) (sha : (ℤ → UInt8) → UInt32 → List UInt8 × ShaRun)
    (below : Memory UInt8) (paramTypes : UInt32) (params : TeeParams) : DigestOutcome :=
  if paramTypes ≠ teeParamTypes .memrefInput .memrefOutput .none .none then
    ⟨teeErrorBadParameters, params, ⟨[], [], []⟩⟩
  else if (params 1).memref.size < digestSize then
    ⟨teeErrorBadParameters, params, ⟨[], [], []⟩⟩
  else
    let out := sha (pointer below (params 0).memref.buffer) (params 0).memref.size
    let memref := { (params 1).memref with buffer := copyIn (params 1).memref.buffer 0 out.1 }
    ⟨teeSuccess, Function.update params 1 { params 1 with memref := memref }, out.2.log⟩

def taEntrySha224 (below : Memory UInt8) (paramTypes : UInt32) (params : TeeParams) :
    DigestOutcome :=
  taEntryDigest sha224DigestSize sha224 below paramTypes params

def taEntrySha256 (below : Memory UInt8) (paramTypes : UInt32) (params : TeeParams) :
    DigestOutcome :=
  taEntryDigest sha256DigestSize sha256 below paramTypes params

def digestParamTypes : UInt32 := teeParamTypes .memrefInput .memrefOutput .none .none

def input (params : TeeParams) : List UInt8 :=
  slice (params 0).memref.buffer 0 (params 0).memref.size.toNat

/-- The command compressed the padded input, wrote its digest, and read only the input. -/
structure DigestRight (digest : List UInt8 → List UInt8) (params : TeeParams)
    (o : DigestOutcome) : Prop where
  success : o.res = teeSuccess
  fed : o.log.fed = blocks (Sha2Spec.pad (input params))
  digest : slice (o.params 1).memref.buffer 0 (digest (input params)).length =
    digest (input params)
  reads : ∀ r ∈ o.log.reads, r.InBounds

def lengthField (fed : List (List UInt8)) : List UInt8 := (fed.getLast?.getD []).drop 56

theorem lengthField_blocks (l : List (List UInt8)) {p field : List UInt8}
    (hfield : field.length = 8) (hp : (p ++ field).length % 64 = 0) :
    lengthField (l ++ blocks (p ++ field)) = field := by
  obtain ⟨k, hk⟩ : ∃ k, (p ++ field).length = 64 * k + 64 :=
    ⟨(p ++ field).length / 64 - 1, by rw [List.length_append] at *; omega⟩
  have hdiv : (64 * k + 64) / 64 = k + 1 := by omega
  have hlast : (blocks (p ++ field)).getLast? = some ((p ++ field).drop (64 * k)) := by
    rw [blocks, hk, hdiv, List.range_succ, List.map_append, List.map_singleton,
      List.getLast?_concat, List.take_of_length_le]
    rw [List.length_drop]
    omega
  have hend : 64 * k + 56 = p.length := by
    rw [List.length_append] at hk
    omega
  rw [lengthField, List.getLast?_append, hlast, Option.some_or, Option.getD_some, List.drop_drop,
    hend, List.drop_left]

theorem pad_lengthField (message : List UInt8) :
    lengthField (blocks (Sha2Spec.pad message)) = beBytes 8 (8 * message.length) := by
  have hsplit : Sha2Spec.pad message = (message ++ 0x80 ::
      List.replicate ((119 - message.length % 64) % 64) 0) ++
        beBytes 8 (8 * message.length) := by
    simp [Sha2Spec.pad, Sha2Spec.padding]
  have hlen := Sha2Spec.pad_length message
  rw [hsplit] at hlen ⊢
  exact lengthField_blocks [] (beBytes_length 8 _) hlen

theorem final_lengthField (run : ShaRun) (ha : run.ctx.len.toNat < 64) (words : List (Fin 8)) :
    lengthField (shaFinal 64 words run).2.log.fed =
      List.replicate 4 (0 : UInt8) ++ beBytes 4 ((run.ctx.totLen + run.ctx.len) <<< 3).toNat := by
  have hroom : run.ctx.len.toNat + 9 ≤ 64 * lastBlocks run.ctx.len.toNat := by
    unfold lastBlocks
    split_ifs <;> omega
  obtain ⟨k, hk⟩ : ∃ k, 64 * lastBlocks run.ctx.len.toNat - run.ctx.len.toNat - 5 = k + 4 :=
    ⟨64 * lastBlocks run.ctx.len.toNat - run.ctx.len.toNat - 9, by omega⟩
  have hsplit : lastBytes run.ctx = (slice run.ctx.block 0 run.ctx.len.toNat ++
      (0x80 : UInt8) :: List.replicate k 0) ++ (List.replicate 4 (0 : UInt8) ++
        beBytes 4 ((run.ctx.totLen + run.ctx.len) <<< 3).toNat) := by
    rw [lastBytes, hk, List.replicate_add]
    simp
  rw [(final_feeds run ha words).1, hsplit]
  refine lengthField_blocks _ (by simp [beBytes_length]) ?_
  simp only [List.length_append, List.length_cons, List.length_replicate, length_slice,
    beBytes_length]
  omega

/-- Eight bytes of a number below 2^40 have a zero upper half only below 2^32. -/
theorem upper_half_zero {n : ℕ} (hn : n < 2 ^ 40) {low : List UInt8}
    (h : beBytes 8 n = List.replicate 4 (0 : UInt8) ++ low) : n < 2 ^ 32 := by
  have hbyte := congrArg (fun l => l.getD 3 1) h
  have hzero : UInt8.ofNat (n / 256 ^ 4) = 0 := by
    simpa [beBytes, List.range, List.range.loop, List.replicate] using hbyte
  have hnat := congrArg UInt8.toNat hzero
  rw [UInt8.toNat_ofNat'] at hnat
  have hz : (0 : UInt8).toNat = 0 := rfl
  omega

theorem update_len_lt (run : ShaRun) (message : ℤ → UInt8) (len : UInt32) :
    (shaUpdate 64 run message len).ctx.len.toNat < 64 := by
  unfold shaUpdate
  by_cases h : run.ctx.len + len < 64
  · rw [if_pos h]
    exact UInt32.lt_iff_toNat_lt.mp h
  · rw [if_neg h]
    dsimp only
    rw [UInt32.toNat_mod]
    exact Nat.mod_lt _ (by decide)

def oneShot (h0 : List UInt32) (words : List (Fin 8)) (message : ℤ → UInt8) (len : UInt32) :
    List UInt8 × ShaRun :=
  shaFinal 64 words (shaUpdate 64 (shaInit h0 zeroCtx) message len)

variable {H : HashValue} {h0 : List UInt32} {digestSize : UInt32} {below : Memory UInt8}
variable {params : TeeParams} {words : List (Fin 8)}

theorem pointer_bytes (below buffer : Memory UInt8) (size : UInt32) :
    (⟨pointer below buffer, size⟩ : Chunk).bytes = slice buffer 0 size.toNat := by
  refine slice_congr fun i _ => ?_
  simp [above, pointer]

theorem digest_accepted (hout : digestSize ≤ (params 1).memref.size)
    (sha : (ℤ → UInt8) → UInt32 → List UInt8 × ShaRun) :
    taEntryDigest digestSize sha below digestParamTypes params =
      let out := sha (pointer below (params 0).memref.buffer) (params 0).memref.size
      let memref := { (params 1).memref with buffer := copyIn (params 1).memref.buffer 0 out.1 }
      ⟨teeSuccess, Function.update params 1 { params 1 with memref := memref }, out.2.log⟩ := by
  have hsize : ¬ (params 1).memref.size < digestSize := UInt32.not_lt.mpr hout
  simp [taEntryDigest, digestParamTypes, hsize]

theorem digest_right_of_lt (hh : ∀ i : Fin 8, h0.getD i 0 = H.get i)
    (hout : digestSize ≤ (params 1).memref.size)
    (hlt : (params 0).memref.size.toNat < 2 ^ 29) :
    DigestRight (fun m => Sha2Spec.hashBytes words (Sha2Spec.hash H m)) params
      (taEntryDigest digestSize (oneShot h0 words) below digestParamTypes params) := by
  rw [digest_accepted hout]
  generalize hc : (⟨pointer below (params 0).memref.buffer, (params 0).memref.size⟩ : Chunk) = c
  have hbytes : c.bytes = input params := by
    rw [← hc]
    exact pointer_bytes _ _ _
  have hlen : (input params).length = (params 0).memref.size.toNat := length_slice _ _ _
  have hholds := update_holds (init_holds hh zeroCtx) (c := c) (by rw [← hc]; dsimp only; omega)
  rw [List.nil_append, hbytes] at hholds
  obtain ⟨hfed, hdigest, hbounded⟩ := final_holds hholds words
  rw [wrappedPadding_eq (by omega)] at hfed
  have hright : (oneShot h0 words c.message c.len).1 =
      Sha2Spec.hashBytes words (Sha2Spec.hash H (input params)) := by
    rw [oneShot, hdigest, hfed]
    rfl
  have hmessage : pointer below (params 0).memref.buffer = c.message := by rw [← hc]
  have hsize : (params 0).memref.size = c.len := by rw [← hc]
  rw [hmessage, hsize]
  constructor
  · rfl
  · exact hfed
  · dsimp only
    rw [Function.update_self, hright]
    exact slice_copyIn _ 0 _
  · exact hbounded.reads

theorem digest_wrong_of_le {digest : List UInt8 → List UInt8}
    (hout : digestSize ≤ (params 1).memref.size)
    (hle : 2 ^ 29 ≤ (params 0).memref.size.toNat) :
    ¬ DigestRight digest params
      (taEntryDigest digestSize (oneShot h0 words) below digestParamTypes params) := by
  rw [digest_accepted hout]
  intro h
  have hfield := final_lengthField _ (update_len_lt (shaInit h0 zeroCtx)
    (pointer below (params 0).memref.buffer) (params 0).memref.size) words
  have hfed : (shaFinal 64 words (shaUpdate 64 (shaInit h0 zeroCtx)
    (pointer below (params 0).memref.buffer) (params 0).memref.size)).2.log.fed =
      blocks (Sha2Spec.pad (input params)) := h.fed
  rw [hfed, pad_lengthField] at hfield
  have hlen : (input params).length = (params 0).memref.size.toNat := length_slice _ _ _
  have hsize := (params 0).memref.size.toNat_lt
  have hsmall := upper_half_zero (by omega) hfield
  omega

/-- Given room for the digest, each command is right exactly below 2^29 bytes of input. -/
theorem digest_commands_right_iff (below : Memory UInt8) (params : TeeParams) :
    (sha224DigestSize ≤ (params 1).memref.size →
      (DigestRight Sha2Spec.sha224 params (taEntrySha224 below digestParamTypes params) ↔
        (params 0).memref.size.toNat < 2 ^ 29)) ∧
    (sha256DigestSize ≤ (params 1).memref.size →
      (DigestRight Sha2Spec.sha256 params (taEntrySha256 below digestParamTypes params) ↔
        (params 0).memref.size.toNat < 2 ^ 29)) := by
  constructor
  · intro hout
    refine ⟨fun h => ?_, digest_right_of_lt sha224H0_eq hout⟩
    by_contra hge
    exact digest_wrong_of_le hout (Nat.not_lt.mp hge) h
  · intro hout
    refine ⟨fun h => ?_, digest_right_of_lt sha256H0_eq hout⟩
    by_contra hge
    exact digest_wrong_of_le hout (Nat.not_lt.mp hge) h

/-- An input memref of `size` bytes that count up, and an output memref of 32 bytes. -/
def countingParams (size : UInt32) : TeeParams :=
  ![⟨⟨0, 0⟩, ⟨UInt8.ofNat, size⟩⟩, ⟨⟨0, 0⟩, ⟨fun _ => 0, 32⟩⟩, ⟨⟨0, 0⟩, ⟨fun _ => 0, 0⟩⟩,
    ⟨⟨0, 0⟩, ⟨fun _ => 0, 0⟩⟩]

theorem digest_commands_right_200 :
    DigestRight Sha2Spec.sha224 (countingParams 200)
      (taEntrySha224 (fun _ => 0) digestParamTypes (countingParams 200)) ∧
    DigestRight Sha2Spec.sha256 (countingParams 200)
      (taEntrySha256 (fun _ => 0) digestParamTypes (countingParams 200)) :=
  have h := digest_commands_right_iff (fun _ => 0) (countingParams 200)
  ⟨(h.1 (by decide)).mpr (by decide), (h.2 (by decide)).mpr (by decide)⟩

theorem half_gigabyte_wrong : ¬ DigestRight Sha2Spec.sha256 (countingParams 0x20000000)
    (taEntrySha256 (fun _ => 0) digestParamTypes (countingParams 0x20000000)) :=
  digest_wrong_of_le (by decide) (by decide)

end Sha2Commands
