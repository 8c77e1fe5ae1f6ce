import OpteeTest.StorageRewrite
import Mathlib.Data.Fin.VecNotation

/-! # Verification of the benchmark file

`verify_file_data` reads whole chunks only. It accepts a file when every chunk that starts within
the data is there and holds the pattern, so it accepts what the tests leave exactly when the
chunks divide the data. -/
namespace StorageVerify

open ByteMemory TeeApi ChunkLoop StorageBenchmark StorageCalls StorageRewrite

variable {A : Arch} {E : Machine} {s s' : Store} {h n : ℕ} {content : List UInt8}
  {chunk data done : ℕ}

def pattern (chunk i : ℕ) : UInt8 := scramble (i % chunk)

def patterned (chunk n : ℕ) : List UInt8 := (List.range n).map (pattern chunk)

def Filled (chunk : ℕ) (buf : Memory UInt8) : Prop := ∀ i < chunk, buf i = scramble i

def Event.examinedSize : Event → ℕ
  | .examined size => size
  | _ => 0

def examinedBytes (log : List Event) : ℕ := (log.map Event.examinedSize).sum

@[simp] theorem examinedBytes_append (l m : List Event) :
    examinedBytes (l ++ m) = examinedBytes l + examinedBytes m := by
  simp [examinedBytes]

theorem length_patterned (chunk n : ℕ) : (patterned chunk n).length = n := by
  rw [patterned, List.length_map, List.length_range]

theorem getElem?_patterned {i : ℕ} (hi : i < n) :
    (patterned chunk n)[i]? = some (pattern chunk i) := by
  rw [patterned, List.getElem?_map, List.getElem?_range hi, Option.map_some]

/-- A chunk of the pattern, cut from a file that starts on a chunk. -/
theorem slice_filled {buf : Memory UInt8} (hbuf : Filled chunk buf) (hn : n ≤ chunk)
    (hdone : chunk ∣ done) :
    slice buf 0 n = (List.range n).map fun i => pattern chunk (done + i) := by
  apply List.map_congr_left
  intro i hi
  have hlt : i < chunk := Nat.lt_of_lt_of_le (List.mem_range.mp hi) hn
  obtain ⟨q, rfl⟩ := hdone
  rw [Nat.zero_add, hbuf i hlt, pattern, Nat.mul_add_mod, Nat.mod_eq_of_lt hlt]

theorem verifyBuffer_success {buf : Memory UInt8} (hbuf : Filled chunk buf) :
    verifyBuffer buf chunk = teeSuccess := by
  rw [verifyBuffer, if_pos]
  rw [List.all_eq_true]
  intro i hi
  rw [hbuf i (List.mem_range.mp hi)]
  exact decide_eq_true rfl

theorem verifyBuffer_corrupt {buf : Memory UInt8} (hbuf : ¬ Filled chunk buf) :
    verifyBuffer buf chunk = teeErrorCorruptObject := by
  rw [verifyBuffer, if_neg]
  intro hall
  apply hbuf
  intro i hi
  have hi' := List.all_eq_true.mp hall i (List.mem_range.mpr hi)
  exact (of_decide_eq_true hi').symm

def ChunkGood (content : List UInt8) (chunk done : ℕ) : Prop :=
  ∀ i < chunk, content[done + i]? = some (pattern chunk (done + i))

theorem read_exact (hE : Exact E) (h n : ℕ) (hfile : s.file = some content) :
    ∃ s', teeReadObjectData E h n s =
        ((teeSuccess, ((content.drop (s.pos h)).take n).length), s') ∧
      s'.file = some content ∧ s'.buf = copyIn s.buf 0 ((content.drop (s.pos h)).take n) ∧
      Moved h (s.pos h + ((content.drop (s.pos h)).take n).length)
        [.read (s.pos h) n ((content.drop (s.pos h)).take n).length] s s' := by
  rcases read_cases E h n hfile with ⟨res, -, hfail, -⟩ |
    ⟨limit, data, s', -, hlimit, hdata, hcall, hfile', hbuf, hmove⟩
  · exact absurd hfail (hE.not_fails _)
  · have hnone : limit = none := hlimit.resolve_right fun hfault => hfault (hE _)
    have hwhole : data = (content.drop (s.pos h)).take n := by
      rw [hdata, hnone, readAt, Option.getD_none, Nat.min_self]
    rw [hwhole] at hcall hbuf hmove
    exact ⟨s', hcall, hfile', hbuf, hmove⟩

/-- A read of a whole chunk is filled with the pattern exactly when the file is. -/
theorem filled_iff (buf : Memory UInt8) (hdone : chunk ∣ done)
    (hlen : ((content.drop done).take chunk).length = chunk) :
    Filled chunk (copyIn buf 0 ((content.drop done).take chunk)) ↔
      ChunkGood content chunk done := by
  refine forall₂_congr fun i hi => ?_
  have hin : i < ((content.drop done).take chunk).length := by rwa [hlen]
  have hmod : (done + i) % chunk = i := by
    obtain ⟨q, rfl⟩ := hdone
    rw [Nat.mul_add_mod, Nat.mod_eq_of_lt hi]
  have hbuf : copyIn buf 0 ((content.drop done).take chunk) i =
      ((content.drop done).take chunk)[i] := by
    have hget : copyIn buf 0 _ (0 + i) = _ := copyIn_inside buf hin
    rwa [Nat.zero_add] at hget
  have hget : content[done + i]? = some ((content.drop done).take chunk)[i] := by
    rw [← List.getElem?_drop, ← List.getElem?_take_of_lt hi]
    exact List.getElem?_eq_getElem hin
  rw [hbuf, hget, Option.some.injEq, pattern, hmod]

theorem chunkGood_length (hgood : ChunkGood content chunk done) (hchunk : 0 < chunk) :
    ((content.drop done).take chunk).length = chunk := by
  have hlast := hgood (chunk - 1) (by omega)
  have hlt : done + (chunk - 1) < content.length := by
    by_contra hge
    rw [List.getElem?_eq_none (by omega)] at hlast
    exact absurd hlast.symm (Option.some_ne_none _)
  rw [List.length_take, List.length_drop]
  omega

theorem verifyLoop_good (hE : Exact E) (hchunk : 0 < chunk) (hfile : s.file = some content)
    (hpos : s.pos h = done) (hdone : chunk ∣ done) (hgood : ChunkGood content chunk done)
    {tmp : ℕ} (htmp : tmp ≠ 0) (fuel : ℕ) : ∃ s', s'.file = some content ∧
      s'.pos h = done + chunk ∧ examinedBytes s'.log = examinedBytes s.log + chunk ∧
      verifyLoop A E h chunk (fuel + 1) tmp s =
        verifyLoop A E h chunk fuel ((tmp + A.word - chunk) % A.word) s' := by
  have hlen := chunkGood_length hgood hchunk
  obtain ⟨s₁, hcall, hfile₁, hbuf₁, hmove₁⟩ := read_exact hE h chunk hfile
  rw [hpos, hlen] at hcall hmove₁
  rw [hpos] at hbuf₁
  have hfilled : Filled chunk (s₁.record (Event.examined chunk)).buf := by
    have hsame : (s₁.record (Event.examined chunk)).buf = s₁.buf := rfl
    rw [hsame, hbuf₁]
    exact (filled_iff s.buf hdone hlen).mpr hgood
  refine ⟨s₁.record (Event.examined chunk), hfile₁, hmove₁.pos, ?_, ?_⟩
  · have hlog : (s₁.record (Event.examined chunk)).log = s₁.log ++ [Event.examined chunk] := rfl
    rw [hlog, hmove₁.log]
    simp [examinedBytes, Event.examinedSize]
  · rw [verifyLoop, if_neg htmp, hcall]
    dsimp only
    rw [if_neg (not_not.mpr rfl), if_neg (not_not.mpr rfl), verifyBuffer_success hfilled,
      if_neg (not_not.mpr rfl)]

theorem verifyLoop_bad (hE : Exact E) (hfile : s.file = some content)
    (hpos : s.pos h = done) (hdone : chunk ∣ done) (hbad : ¬ ChunkGood content chunk done)
    {tmp : ℕ} (htmp : tmp ≠ 0) (fuel : ℕ) :
    ∃ s', verifyLoop A E h chunk (fuel + 1) tmp s = some (teeErrorCorruptObject, s') := by
  obtain ⟨s₁, hcall, hfile₁, hbuf₁, hmove₁⟩ := read_exact hE h chunk hfile
  rw [hpos] at hcall hbuf₁
  rw [verifyLoop, if_neg htmp, hcall]
  dsimp only
  rw [if_neg (not_not.mpr rfl)]
  by_cases hlen : ((content.drop done).take chunk).length = chunk
  · have hfilled : ¬ Filled chunk (s₁.record (Event.examined chunk)).buf := by
      have hsame : (s₁.record (Event.examined chunk)).buf = s₁.buf := rfl
      rw [hsame, hbuf₁, filled_iff s.buf hdone hlen]
      exact hbad
    rw [if_neg (not_not.mpr hlen), verifyBuffer_corrupt hfilled, if_pos corrupt_ne]
    exact ⟨_, rfl⟩
  · rw [if_pos hlen]
    exact ⟨_, rfl⟩

theorem verifyLoop_success (hE : Exact E) (hchunk : 0 < chunk) (hfile : s.file = some content)
    (hdata : data < A.word) (hdvd : chunk ∣ data) (fuel : ℕ) (hfuel : data - done ≤ fuel)
    (hle : done ≤ data) (hdone : chunk ∣ done) (hpos : s.pos h = done)
    (hgood : ∀ q, chunk ∣ q → q < data → ChunkGood content chunk q) :
    ∃ s', verifyLoop A E h chunk fuel (data - done) s = some (teeSuccess, s') ∧
      s'.pos h = data ∧ examinedBytes s'.log + done = examinedBytes s.log + data := by
  induction fuel generalizing s done with
  | zero =>
    have hend : done = data := by omega
    subst hend
    exact ⟨s, by rw [verifyLoop, if_pos (Nat.sub_self _)], hpos, rfl⟩
  | succ fuel ih =>
    by_cases hlt : done < data
    · have hnext : chunk ≤ data - done := Nat.le_of_dvd (by omega) (Nat.dvd_sub hdvd hdone)
      obtain ⟨s₁, hfile₁, hpos₁, hlog₁, hstep⟩ := verifyLoop_good (A := A) hE hchunk hfile hpos
        hdone (hgood done hdone hlt) (show data - done ≠ 0 by omega) fuel
      have hsub : (data - done + A.word - chunk) % A.word = data - (done + chunk) := by
        have hsum : data - done + A.word - chunk = data - (done + chunk) + A.word := by omega
        rw [hsum, Nat.add_mod_right, Nat.mod_eq_of_lt (by omega)]
      obtain ⟨s', hrun, hpos', hlog'⟩ := ih hfile₁ (by omega) (by omega)
        (Nat.dvd_add hdone (Nat.dvd_refl chunk)) hpos₁
      exact ⟨s', by rw [hstep, hsub, hrun], hpos', by omega⟩
    · have hend : done = data := by omega
      subst hend
      exact ⟨s, by rw [verifyLoop, if_pos (Nat.sub_self _)], hpos, rfl⟩

theorem verifyLoop_corrupt (hE : Exact E) (hchunk : 0 < chunk) (hfile : s.file = some content)
    (hdata : data < A.word) (fuel : ℕ) (hfuel : content.length < fuel + done) {q : ℕ}
    (hle : done ≤ q) (hdone : chunk ∣ done) (hlen : done ≤ content.length) (hpos : s.pos h = done)
    (hq : chunk ∣ q) (hqd : q < data) (hbad : ¬ ChunkGood content chunk q) :
    ∃ s', verifyLoop A E h chunk fuel (data - done) s = some (teeErrorCorruptObject, s') := by
  induction fuel generalizing s done with
  | zero => omega
  | succ fuel ih =>
    by_cases hgood : ChunkGood content chunk done
    · have hne : done ≠ q := by
        rintro rfl
        exact hbad hgood
      have hnext : chunk ≤ q - done := Nat.le_of_dvd (by omega) (Nat.dvd_sub hq hdone)
      obtain ⟨s₁, hfile₁, hpos₁, -, hstep⟩ := verifyLoop_good (A := A) hE hchunk hfile hpos hdone
        hgood (show data - done ≠ 0 by omega) fuel
      have hsub : (data - done + A.word - chunk) % A.word = data - (done + chunk) := by
        have hsum : data - done + A.word - chunk = data - (done + chunk) + A.word := by omega
        rw [hsum, Nat.add_mod_right, Nat.mod_eq_of_lt (by omega)]
      have hroom := chunkGood_length hgood hchunk
      rw [List.length_take, List.length_drop] at hroom
      rw [hstep, hsub]
      exact ih hfile₁ (by omega) (by omega) (Nat.dvd_add hdone (Nat.dvd_refl chunk)) (by omega)
        hpos₁
    · exact verifyLoop_bad hE hfile hpos hdone hgood (by omega) fuel

theorem seek_start_exact (hE : Exact E) (h : ℕ) (s : Store) :
    ∃ s', teeSeekObjectData E h 0 .set s = (teeSuccess, s') ∧ s'.file = s.file ∧
      s'.pos h = 0 ∧ s'.log = s.log := by
  rcases seek_cases E h 0 .set s with ⟨res, -, hfail, -⟩ | ⟨s', -, hcall, hfile, -, hmove⟩
  · exact absurd hfail (hE.not_fails _)
  · exact ⟨s', hcall, hfile, hmove.pos, by rw [hmove.log, List.append_nil]⟩

theorem verify_success (hE : Exact E) (hchunk : 0 < chunk) (hfile : s.file = some content)
    (hdata : data < A.word) (hdvd : chunk ∣ data) (hlen : data ≤ content.length)
    (hgood : ∀ q, chunk ∣ q → q < data → ChunkGood content chunk q) :
    ∃ s', verifyFileData A E h data chunk s = some (teeSuccess, s') ∧
      examinedBytes s'.log = examinedBytes s.log + data := by
  obtain ⟨s₁, hcall, hfile₁, hpos₁, hlog₁⟩ := seek_start_exact hE h s
  obtain ⟨s', hrun, -, hlog'⟩ := verifyLoop_success (A := A)
    (s := { s₁ with buf := copyIn s₁.buf 0 (List.replicate chunk 0) }) hE hchunk
    (hfile₁.trans hfile) hdata hdvd (content.length + 1) (by omega) (Nat.zero_le data)
    (Nat.dvd_zero chunk) hpos₁ hgood
  have hturns : (s₁.file.getD []).length + 1 = content.length + 1 := by
    rw [hfile₁, hfile, Option.getD_some]
  refine ⟨s', ?_, ?_⟩
  · rw [verifyFileData, hcall]
    dsimp only
    rw [if_neg (not_not.mpr rfl), hturns]
    exact hrun
  · rw [Nat.add_zero] at hlog'
    rw [hlog']
    exact congrArg (examinedBytes · + data) hlog₁

theorem verify_corrupt (hE : Exact E) (hchunk : 0 < chunk) (hfile : s.file = some content)
    (hdata : data < A.word) {q : ℕ} (hq : chunk ∣ q) (hqd : q < data)
    (hbad : ¬ ChunkGood content chunk q) :
    ∃ s', verifyFileData A E h data chunk s = some (teeErrorCorruptObject, s') := by
  obtain ⟨s₁, hcall, hfile₁, hpos₁, -⟩ := seek_start_exact hE h s
  obtain ⟨s', hrun⟩ := verifyLoop_corrupt (A := A)
    (s := { s₁ with buf := copyIn s₁.buf 0 (List.replicate chunk 0) }) hE hchunk
    (hfile₁.trans hfile) hdata (content.length + 1) (by omega) (Nat.zero_le q)
    (Nat.dvd_zero chunk) (Nat.zero_le _) hpos₁ hq hqd hbad
  have hturns : (s₁.file.getD []).length + 1 = content.length + 1 := by
    rw [hfile₁, hfile, Option.getD_some]
  refine ⟨s', ?_⟩
  rw [verifyFileData, hcall]
  dsimp only
  rw [if_neg (not_not.mpr rfl), hturns]
  exact hrun

theorem verify_differs (hE : Exact E) (hchunk : 0 < chunk) (hfile : s.file = some content)
    (hdata : data < A.word) {i : ℕ} (hi : i < data)
    (hdiff : content[i]? ≠ some (pattern chunk i)) :
    ∃ s', verifyFileData A E h data chunk s = some (teeErrorCorruptObject, s') := by
  have hsplit := Nat.div_add_mod i chunk
  refine verify_corrupt hE hchunk hfile hdata (Nat.dvd_mul_right chunk (i / chunk)) (by omega) ?_
  intro hgood
  have hbyte := hgood (i % chunk) (Nat.mod_lt i hchunk)
  rw [hsplit] at hbyte
  exact hdiff hbyte

def HoldsPattern (chunk data : ℕ) (content : List UInt8) : Prop :=
  data ≤ content.length ∧ ∀ i < data, content[i]? = some (pattern chunk i)

theorem HoldsPattern.good (hc : HoldsPattern chunk data content) (hdvd : chunk ∣ data) {q : ℕ}
    (hq : chunk ∣ q) (hqd : q < data) : ChunkGood content chunk q := by
  have hnext : chunk ≤ data - q := Nat.le_of_dvd (by omega) (Nat.dvd_sub hdvd hq)
  intro i hi
  exact hc.2 (q + i) (by omega)

theorem holdsPattern_patterned (chunk data : ℕ) :
    HoldsPattern chunk data (patterned chunk data) :=
  ⟨(length_patterned chunk data).ge, fun _ hi => getElem?_patterned hi⟩

theorem write_exact (hE : Exact E) (h n : ℕ) (hfile : s.file = some content) :
    ∃ s', teeWriteObjectData E h n s = (teeSuccess, s') ∧
      s'.file = some (writeAt content (s.pos h) (slice s.buf 0 n)) ∧ s'.buf = s.buf ∧
      Moved h (s.pos h + n) [Event.wrote (s.pos h) n] s s' := by
  rcases write_cases E h n hfile with ⟨res, -, hfail, -⟩ | ⟨s', -, hcall, hrest⟩
  · exact absurd hfail (hE.not_fails _)
  · exact ⟨s', hcall, hrest⟩

theorem patterned_add (chunk m n : ℕ) : patterned chunk (m + n) =
    patterned chunk m ++ (List.range n).map fun i => pattern chunk (m + i) := by
  rw [patterned, List.range_add, List.map_append, List.map_map]
  rfl

theorem drop_patterned (chunk : ℕ) (hle : done + n ≤ data) :
    ((patterned chunk data).drop done).take n =
      (List.range n).map fun i => pattern chunk (done + i) := by
  apply List.ext_getElem?
  intro i
  by_cases hi : i < n
  · rw [List.getElem?_take_of_lt hi, List.getElem?_drop, getElem?_patterned (by omega),
      List.getElem?_map, List.getElem?_range hi, Option.map_some]
  · rw [List.getElem?_eq_none (by rw [List.length_take]; omega),
      List.getElem?_eq_none (by rw [List.length_map, List.length_range]; omega)]

theorem writeAt_end (content data : List UInt8) :
    writeAt content content.length data = content ++ data := by
  rw [writeAt, List.take_length, Nat.sub_self, List.replicate_zero, List.append_nil,
    List.drop_eq_nil_of_le (by omega), List.append_nil]

theorem aligned_next (hdone : chunk ∣ done) (hlt : done < data) :
    done + min (data - done) chunk < data → chunk ∣ done + min (data - done) chunk := by
  intro hnext
  have hwhole : min (data - done) chunk = chunk := by omega
  rw [hwhole]
  exact Nat.dvd_add hdone (Nat.dvd_refl chunk)

structure Writing (chunk data h : ℕ) (file : ℕ → List UInt8) (s : Store) (done : ℕ) (t : Store) :
    Prop where
  file : t.file = some (file done)
  pos : t.pos h = done
  buf : t.buf = s.buf
  examined : examinedBytes t.log = examinedBytes s.log
  aligned : done < data → chunk ∣ done

/-- The loops of `prepare_test_file` and `test_write`: `file done` is the content when `done`
bytes have been written. -/
theorem writes_exact (hE : Exact E) (hchunk : 0 < chunk) (hbuf : Filled chunk s.buf)
    (file : ℕ → List UInt8) (hfile : s.file = some (file 0)) (hpos : s.pos h = 0)
    (hwrite : ∀ done n, done + n ≤ data →
      writeAt (file done) done ((List.range n).map fun i => pattern chunk (done + i)) =
        file (done + n)) :
    ∃ s', inChunks teeSuccess (teeWriteObjectData E h) chunk data s = some (teeSuccess, s') ∧
      s'.file = some (file data) ∧ s'.buf = s.buf ∧
      examinedBytes s'.log = examinedBytes s.log := by
  have hturn (done : ℕ) (t : Store) (hlt : done < data)
      (ht : Writing chunk data h file s done t) :
      ∃ t', teeWriteObjectData E h (min (data - done) chunk) t = (teeSuccess, t') ∧
        Writing chunk data h file s (done + min (data - done) chunk) t' := by
    obtain ⟨t', hcall, hfile', hbuf', hmove⟩ := write_exact hE h (min (data - done) chunk) ht.file
    rw [ht.pos, ht.buf, slice_filled hbuf (Nat.min_le_right _ _) (ht.aligned hlt),
      hwrite done _ (by omega)] at hfile'
    refine ⟨t', hcall, hfile', ?_, hbuf'.trans ht.buf, ?_, aligned_next (ht.aligned hlt) hlt⟩
    · rw [hmove.pos, ht.pos]
    · rw [hmove.log, examinedBytes_append, ht.examined]
      rfl
  obtain ⟨s', hrun, hend⟩ := inChunks_always hchunk hturn
    ⟨hfile, hpos, rfl, rfl, fun _ => Nat.dvd_zero chunk⟩
  exact ⟨s', hrun, hend.file, hend.buf, hend.examined⟩

theorem prepare_exact (data : ℕ) (hE : Exact E) (hchunk : 0 < chunk) (hbuf : Filled chunk s.buf) :
    ∃ s', prepareTestFile E data chunk s = some (teeSuccess, s') ∧
      s'.file = some (patterned chunk data) ∧ s'.buf = s.buf ∧
      examinedBytes s'.log = examinedBytes s.log := by
  rcases create_cases E s with ⟨res, -, hfail, -⟩ | ⟨h, s₁, -, hcall, hfile₁, hopen⟩
  · exact absurd hfail (hE.not_fails _)
  · have hbuf₁ : Filled chunk s₁.buf := by rwa [hopen.buf]
    have hwrite (done n : ℕ) (_ : done + n ≤ data) : writeAt (patterned chunk done) done
        ((List.range n).map fun i => pattern chunk (done + i)) = patterned chunk (done + n) := by
      have hend := writeAt_end (patterned chunk done)
        ((List.range n).map fun i => pattern chunk (done + i))
      rwa [length_patterned, ← patterned_add] at hend
    obtain ⟨s', hrun, hfile', hbuf', hlog'⟩ := writes_exact hE hchunk hbuf₁ (patterned chunk)
      hfile₁ hopen.pos hwrite
    refine ⟨teeCloseObject h s', ?_, hfile', hbuf'.trans hopen.buf, ?_⟩
    · rw [prepareTestFile, hcall]
      dsimp only
      rw [hrun]
      rfl
    · have hclose : (teeCloseObject h s').log = s'.log ++ [Event.closed h] := rfl
      rw [hclose, examinedBytes_append, hlog', hopen.log, examinedBytes_append,
        examinedBytes_append]
      rfl

theorem testWrite_exact (hE : Exact E) (hchunk : 0 < chunk) (hbuf : Filled chunk s.buf)
    (hfile : s.file = some (patterned chunk data)) (hpos : s.pos h = 0) :
    ∃ s', testWrite E h data chunk s = some (teeSuccess, s') ∧
      s'.file = some (patterned chunk data) ∧ examinedBytes s'.log = examinedBytes s.log := by
  have hwrite (done n : ℕ) (hle : done + n ≤ data) : writeAt (patterned chunk data) done
      ((List.range n).map fun i => pattern chunk (done + i)) = patterned chunk data := by
    rw [← drop_patterned chunk hle]
    exact writeAt_same (by rwa [length_patterned])
  obtain ⟨s', hrun, hfile', -, hlog'⟩ := writes_exact hE hchunk hbuf (fun _ => patterned chunk data)
    hfile hpos hwrite
  exact ⟨s', hrun, hfile', hlog'⟩

theorem testRead_exact (data : ℕ) (hE : Exact E) (hchunk : 0 < chunk)
    (hfile : s.file = some content) :
    ∃ s', testRead E h data chunk s = some (teeSuccess, s') ∧ s'.file = some content ∧
      examinedBytes s'.log = examinedBytes s.log := by
  have hturn (done : ℕ) (t : Store) (_ : done < data)
      (ht : t.file = some content ∧ examinedBytes t.log = examinedBytes s.log) :
      ∃ t', readTurn E h (min (data - done) chunk) t = (teeSuccess, t') ∧
        t'.file = some content ∧ examinedBytes t'.log = examinedBytes s.log := by
    obtain ⟨t', hcall, hfile', -, hmove⟩ := read_exact hE h (min (data - done) chunk) ht.1
    refine ⟨t', ?_, hfile', ?_⟩
    · rw [readTurn, hcall]
    · rw [hmove.log, examinedBytes_append, ht.2]
      rfl
  obtain ⟨s', hrun, hend⟩ := inChunks_always hchunk hturn ⟨hfile, rfl⟩
  exact ⟨s', hrun, hend⟩

/-- The seek of `test_rewrite` goes back for sizes up to `2 ^ 31`, and beyond that forward. -/
theorem rewrite_target (hn : n < 2 ^ 32) (done : ℕ) :
    ((done + n : ℕ) + negativeChunkSize n : ℤ).toNat = done ∨
      2 ^ 31 < n ∧ done + n ≤ ((done + n : ℕ) + negativeChunkSize n : ℤ).toNat := by
  have hcases : negativeChunkSize n = -n ∨ negativeChunkSize n = 2 ^ 32 - n ∧ 2 ^ 31 < n := by
    unfold negativeChunkSize toInt
    rw [Int.bmod_def, Int.bmod_def]
    split_ifs <;> omega
  rcases hcases with hneg | ⟨hneg, hlarge⟩
  · rw [hneg]
    omega
  · rw [hneg]
    omega

/-- Chunks of more than `2 ^ 31` bytes that divide the data are all of it. -/
theorem whole_of_large (hlarge : 2 ^ 31 < chunk) (hdata : data < 2 ^ 32) (hpos : 0 < data)
    (hdvd : chunk ∣ data) : chunk = data := by
  obtain ⟨q, rfl⟩ := hdvd
  rcases q with - | - | q
  · omega
  · omega
  · have htwo : chunk * 2 ≤ chunk * (q + 1 + 1) := Nat.mul_le_mul_left chunk (by omega)
    omega

theorem rewriteTurn_exact (hE : Exact E) (hfile : s.file = some content) (hpos : s.pos h = done)
    (hend : done + n ≤ content.length) {target : ℕ}
    (htarget : ((done + n : ℕ) + negativeChunkSize n : ℤ).toNat = target) :
    ∃ s', rewriteTurn E h n s = (teeSuccess, s') ∧
      s'.file = some (writeAt content target ((content.drop done).take n)) ∧
      s'.pos h = target + n ∧ examinedBytes s'.log = examinedBytes s.log := by
  have hlen : ((content.drop done).take n).length = n := by
    rw [List.length_take, List.length_drop]
    omega
  obtain ⟨s₁, hread, hfile₁, hbuf₁, hmove₁⟩ := read_exact hE h n hfile
  rw [hpos] at hread hbuf₁ hmove₁
  rw [hlen] at hread hmove₁
  have hseek : ∃ s₂, teeSeekObjectData E h (negativeChunkSize n) .cur s₁ = (teeSuccess, s₂) ∧
      s₂.file = s₁.file ∧ s₂.buf = s₁.buf ∧
      Moved h (s₁.pos h + negativeChunkSize n : ℤ).toNat [] s₁ s₂ := by
    rcases seek_cases E h (negativeChunkSize n) .cur s₁ with ⟨res, -, hfail, -⟩ | ⟨s₂, -, hseek⟩
    · exact absurd hfail (hE.not_fails _)
    · exact ⟨s₂, hseek⟩
  obtain ⟨s₂, hseek, hfile₂, hbuf₂, hmove₂⟩ := hseek
  have hpos₂ := hmove₂.pos
  rw [hmove₁.pos, htarget] at hpos₂
  obtain ⟨s₃, hwrite, hfile₃, -, hmove₃⟩ := write_exact hE h n (hfile₂.trans hfile₁)
  have hbuf : slice s₂.buf 0 n = (content.drop done).take n := by
    have hslice := slice_copyIn s.buf 0 ((content.drop done).take n)
    rwa [hlen, ← hbuf₁, ← hbuf₂] at hslice
  rw [hpos₂, hbuf] at hfile₃
  refine ⟨s₃, ?_, hfile₃, ?_, ?_⟩
  · rw [rewriteTurn, hread]
    dsimp only
    rw [if_neg (not_not.mpr rfl), if_neg (not_not.mpr rfl), hseek]
    dsimp only
    rw [if_neg (not_not.mpr rfl), hwrite]
  · rw [hmove₃.pos, hpos₂]
  · rw [hmove₃.log, hmove₂.log, hmove₁.log]
    simp [Event.examinedSize, examinedBytes]

theorem writeAt_behind {pos : ℕ} (hpos : content.length ≤ pos) (data : List UInt8) {i : ℕ}
    (hi : i < content.length) : (writeAt content pos data)[i]? = content[i]? := by
  rw [writeAt, List.take_of_length_le hpos, List.append_assoc, List.append_assoc,
    List.getElem?_append_left hi]

theorem HoldsPattern.behind (hc : HoldsPattern chunk data content) (hlen : content.length ≤ data)
    {pos : ℕ} (hpos : data ≤ pos) (new : List UInt8) :
    HoldsPattern chunk data (writeAt content pos new) := by
  have hle := hc.1
  refine ⟨?_, fun i hi => (writeAt_behind (hlen.trans hpos) new (by omega)).trans (hc.2 i hi)⟩
  rw [writeAt, List.take_of_length_le (hlen.trans hpos)]
  simp only [List.length_append]
  omega

/-- Between two turns of `test_rewrite`; after the last one the file may have grown. -/
structure Rewriting (chunk data h : ℕ) (s : Store) (done : ℕ) (t : Store) : Prop where
  file : ∃ content, t.file = some content ∧ HoldsPattern chunk data content
  exact : done < data → t.file = some (patterned chunk data) ∧ t.pos h = done ∧ chunk ∣ done
  examined : examinedBytes t.log = examinedBytes s.log

theorem testRewrite_exact (hE : Exact E) (hchunk : 0 < chunk) (hdata : data < 2 ^ 32)
    (hdvd : chunk ∣ data) (hfile : s.file = some (patterned chunk data)) (hpos : s.pos h = 0) :
    ∃ s' content, testRewrite E h data chunk s = some (teeSuccess, s') ∧
      s'.file = some content ∧ HoldsPattern chunk data content ∧
      examinedBytes s'.log = examinedBytes s.log := by
  have hlen := length_patterned chunk data
  have hpat := holdsPattern_patterned chunk data
  have hturn (done : ℕ) (t : Store) (hlt : done < data) (ht : Rewriting chunk data h s done t) :
      ∃ t', rewriteTurn E h (min (data - done) chunk) t = (teeSuccess, t') ∧
        Rewriting chunk data h s (done + min (data - done) chunk) t' := by
    obtain ⟨hfile', hpos', haligned⟩ := ht.exact hlt
    obtain ⟨n, hn⟩ : ∃ n, min (data - done) chunk = n := ⟨_, rfl⟩
    have hle : done + n ≤ data := by omega
    have hsmall : n < 2 ^ 32 := by omega
    rw [hn]
    obtain ⟨t', hrun, hfile'', hpos'', hlog''⟩ := rewriteTurn_exact hE hfile'
      hpos' (hle.trans_eq hlen.symm) rfl
    rcases rewrite_target hsmall done with htarget | ⟨hlarge, htarget⟩
    · rw [htarget] at hfile'' hpos''
      rw [writeAt_same (hle.trans_eq hlen.symm)] at hfile''
      refine ⟨t', hrun, ⟨_, hfile'', hpat⟩, fun hnext => ⟨hfile'', hpos'', ?_⟩,
        hlog''.trans ht.examined⟩
      rw [← hn] at hnext ⊢
      exact aligned_next haligned hlt hnext
    · have hchunk' : n ≤ chunk := hn ▸ Nat.min_le_right _ _
      have hwhole : chunk = data :=
        whole_of_large (hlarge.trans_le hchunk') hdata (Nat.zero_lt_of_lt hlt) hdvd
      have hend : done + n = data := by
        rcases Nat.eq_zero_of_dvd_of_lt (hwhole ▸ haligned) hlt with rfl
        rw [← hn, hwhole, Nat.sub_zero, Nat.min_self, Nat.zero_add]
      exact ⟨t', hrun, ⟨_, hfile'', hpat.behind hlen.le (hend ▸ htarget) _⟩,
        fun h => absurd hend (Nat.ne_of_lt h), hlog''.trans ht.examined⟩
  obtain ⟨s', hrun, hend⟩ := inChunks_always hchunk hturn
    ⟨⟨_, hfile, hpat⟩, fun _ => ⟨hfile, hpos, Nat.dvd_zero chunk⟩, rfl⟩
  obtain ⟨content, hfile', hcontent⟩ := hend.file
  exact ⟨s', content, hrun, hfile', hcontent, hend.examined⟩

theorem runTest_exact (hE : Exact E) (hchunk : 0 < chunk) (hdata : data < 2 ^ 32)
    (hdvd : chunk ∣ data) (hbuf : Filled chunk s.buf) (hfile : s.file = some (patterned chunk data))
    (hpos : s.pos h = 0) {nCommandID : UInt32}
    (hid : nCommandID ∈ [cmdTestRead, cmdTestWrite, cmdTestRewrite]) :
    ∃ s' content, runTest E nCommandID h data chunk s = some (teeSuccess, s') ∧
      s'.file = some content ∧ HoldsPattern chunk data content ∧
      examinedBytes s'.log = examinedBytes s.log := by
  have hpat := holdsPattern_patterned chunk data
  simp only [List.mem_cons, List.not_mem_nil, or_false] at hid
  rcases hid with rfl | rfl | rfl
  · obtain ⟨s', hrun, hfile', hlog'⟩ := testRead_exact data hE hchunk hfile
    exact ⟨s', _, hrun, hfile', hpat, hlog'⟩
  · obtain ⟨s', hrun, hfile', hlog'⟩ := testWrite_exact hE hchunk hbuf hfile hpos
    exact ⟨s', _, hrun, hfile', hpat, hlog'⟩
  · exact testRewrite_exact hE hchunk hdata hdvd hfile hpos

structure Asks (params : TeeParams) (dataSize chunkSize : UInt32) : Prop where
  sizes : (params 0).value = ⟨dataSize, chunkSize⟩
  verify : (params 1).value.a ≠ 0

def afterOpen (A : Arch) (E : Machine) (nCommandID : UInt32) (h data chunk : ℕ)
    (params : TeeParams) (s : Store) : Option Outcome :=
  (runTest E nCommandID h data chunk s).bind fun (res, s) =>
    let params := setSpentTime E res params
    if res ≠ teeSuccess then some (exitRemoveObject (some h) res params s)
    else (verifyFileData A E h data chunk s).map fun (res, s) =>
      exitRemoveObject (some h) res params s

theorem fillBuffer_filled (chunk : ℕ) (s : Store) : Filled chunk (fillBuffer chunk s).buf := by
  intro i hi
  have hlen : i < ((List.range chunk).map scramble).length := by
    rwa [List.length_map, List.length_range]
  have hget : copyIn s.buf 0 _ (0 + i) = _ := copyIn_inside s.buf hlen
  rw [Nat.zero_add, List.getElem_map, List.getElem_range] at hget
  exact hget

theorem toNat_pos {size : UInt32} (hsize : size ≠ 0) : 0 < size.toNat := by
  apply Nat.pos_of_ne_zero
  intro hzero
  exact hsize (UInt32.toNat_inj.mp hzero)

theorem command_opened {dataSize chunkSize : UInt32} (hE : Exact E) (hmalloc : E.malloc = true)
    (hd : dataSize ≠ 0) (hc : chunkSize ≠ 0) {params : TeeParams}
    (hparams : Asks params dataSize chunkSize) (nCommandID : UInt32) (s : Store) :
    ∃ h s', s'.file = some (patterned chunkSize.toNat dataSize.toNat) ∧ s'.pos h = 0 ∧
      Filled chunkSize.toNat s'.buf ∧ examinedBytes s'.log = examinedBytes s.log ∧
      chunkAccessTest A E nCommandID benchmarkParamTypes params s =
        afterOpen A E nCommandID h dataSize.toNat chunkSize.toNat params s' := by
  have hchunk := toNat_pos hc
  have hd' : sizeOr defaultDataSize (params 0).value.a = dataSize.toNat := by
    rw [hparams.sizes, sizeOr, if_neg hd]
  have hc' : sizeOr defaultChunkSize (params 0).value.b = chunkSize.toNat := by
    rw [hparams.sizes, sizeOr, if_neg hc]
  obtain ⟨s₁, hprepare, hfile₁, hbuf₁, hlog₁⟩ := prepare_exact dataSize.toNat hE hchunk
    (fillBuffer_filled chunkSize.toNat (teeMalloc chunkSize.toNat s))
  rcases open_cases E hfile₁ with ⟨res, -, hfail, -⟩ | ⟨h, s₂, -, hcall, hfile₂, hopen⟩
  · exact absurd hfail (hE.not_fails _)
  refine ⟨h, s₂, hfile₂, hopen.pos, ?_, ?_, ?_⟩
  · rw [hopen.buf, hbuf₁]
    exact fillBuffer_filled _ _
  · rw [hopen.log, examinedBytes_append, examinedBytes_append, hlog₁]
    have hmalloc : (fillBuffer chunkSize.toNat (teeMalloc chunkSize.toNat s)).log =
        s.log ++ [Event.malloc] := rfl
    rw [hmalloc, examinedBytes_append]
    rfl
  · unfold chunkAccessTest
    dsimp only
    rw [if_neg (not_not.mpr rfl), if_neg (not_not.mpr hmalloc), hd', hc', hprepare,
      Option.bind_some]
    dsimp only
    rw [if_neg (not_not.mpr rfl), hcall]
    dsimp only
    simp only [if_pos hparams.verify]
    rfl

/-- Verification accepts what the tests leave, having examined all the data, and nothing else. -/
structure VerifiesWriters (A : Arch) (dataSize chunkSize : UInt32) : Prop where
  accepts : ∀ nCommandID ∈ [cmdTestRead, cmdTestWrite, cmdTestRewrite],
    ∀ E, Exact E → E.malloc = true → ∀ params, Asks params dataSize chunkSize → ∀ s, ∃ out,
      chunkAccessTest A E nCommandID benchmarkParamTypes params s = some out ∧
      out.res = teeSuccess ∧
      examinedBytes out.store.log = examinedBytes s.log + dataSize.toNat
  rejects : ∀ E, Exact E → ∀ h content s, s.file = some content →
    (∃ i < dataSize.toNat, content[i]? ≠ some (pattern chunkSize.toNat i)) →
    ∃ s', verifyFileData A E h dataSize.toNat chunkSize.toNat s =
      some (teeErrorCorruptObject, s')

theorem accepts_of_dvd {dataSize chunkSize : UInt32} (hd : dataSize ≠ 0) (hc : chunkSize ≠ 0)
    (hdvd : chunkSize.toNat ∣ dataSize.toNat) {nCommandID : UInt32}
    (hid : nCommandID ∈ [cmdTestRead, cmdTestWrite, cmdTestRewrite]) (hE : Exact E)
    (hmalloc : E.malloc = true) {params : TeeParams} (hparams : Asks params dataSize chunkSize)
    (s : Store) : ∃ out, chunkAccessTest A E nCommandID benchmarkParamTypes params s = some out ∧
      out.res = teeSuccess ∧
      examinedBytes out.store.log = examinedBytes s.log + dataSize.toNat := by
  have hchunk := toNat_pos hc
  have hword : dataSize.toNat < A.word := dataSize.toNat_lt.trans_le A.word_ge
  obtain ⟨h, s₁, hfile₁, hpos₁, hbuf₁, hlog₁, hrun⟩ := command_opened (A := A) hE hmalloc hd hc
    hparams nCommandID s
  obtain ⟨s₂, content, htest, hfile₂, hpat, hlog₂⟩ := runTest_exact hE hchunk dataSize.toNat_lt
    hdvd hbuf₁ hfile₁ hpos₁ hid
  obtain ⟨s₃, hverify, hlog₃⟩ := verify_success (A := A) (h := h) hE hchunk hfile₂ hword hdvd
    hpat.1 fun q hq hqd => hpat.good hdvd hq hqd
  refine ⟨exitRemoveObject (some h) teeSuccess (setSpentTime E teeSuccess params) s₃, ?_, rfl, ?_⟩
  · rw [hrun, afterOpen, htest, Option.bind_some]
    dsimp only
    rw [if_neg (not_not.mpr rfl), hverify, Option.map_some]
  · have hexit : (exitRemoveObject (some h) teeSuccess (setSpentTime E teeSuccess params)
        s₃).store.log = s₃.log ++ [Event.closed h] ++ [Event.deleted] ++ [Event.free] := rfl
    rw [hexit]
    simp only [examinedBytes_append, hlog₃, hlog₂, hlog₁]
    rfl

theorem not_dvd_corrupt {dataSize chunkSize : UInt32} (hd : dataSize ≠ 0) (hc : chunkSize ≠ 0)
    (hdvd : ¬ chunkSize.toNat ∣ dataSize.toNat) (hE : Exact E) (hmalloc : E.malloc = true)
    {params : TeeParams} (hparams : Asks params dataSize chunkSize) (s : Store) :
    ∃ out, chunkAccessTest A E cmdTestRead benchmarkParamTypes params s = some out ∧
      out.res = teeErrorCorruptObject := by
  have hchunk := toNat_pos hc
  have hword : dataSize.toNat < A.word := dataSize.toNat_lt.trans_le A.word_ge
  obtain ⟨h, s₁, hfile₁, -, -, -, hrun⟩ := command_opened (A := A) hE hmalloc hd hc hparams
    cmdTestRead s
  obtain ⟨s₂, htest, hfile₂, -⟩ := testRead_exact (h := h) dataSize.toNat hE hchunk
    hfile₁
  have htail : chunkSize.toNat * (dataSize.toNat / chunkSize.toNat) < dataSize.toNat := by
    apply Nat.lt_of_le_of_ne (Nat.mul_div_le _ _)
    intro heq
    exact hdvd ⟨_, heq.symm⟩
  have hbad : ¬ ChunkGood (patterned chunkSize.toNat dataSize.toNat) chunkSize.toNat
      (chunkSize.toNat * (dataSize.toNat / chunkSize.toNat)) := by
    intro hgood
    have hlen := chunkGood_length hgood hchunk
    have hlt := Nat.lt_mul_div_succ dataSize.toNat hchunk
    rw [List.length_take, List.length_drop, length_patterned] at hlen
    rw [Nat.mul_add_one] at hlt
    omega
  obtain ⟨s₃, hverify⟩ := verify_corrupt (A := A) (h := h) hE hchunk hfile₂ hword
    (Nat.dvd_mul_right _ _) htail hbad
  refine ⟨exitRemoveObject (some h) teeErrorCorruptObject (setSpentTime E teeSuccess params) s₃, ?_,
    rfl⟩
  have hstep : runTest E cmdTestRead h dataSize.toNat chunkSize.toNat s₁ =
      some (teeSuccess, s₂) := htest
  rw [hrun, afterOpen, hstep, Option.bind_some]
  dsimp only
  rw [if_neg (not_not.mpr rfl), hverify, Option.map_some]

def benchmarkParams (dataSize chunkSize : UInt32) : TeeParams :=
  ![⟨⟨dataSize, chunkSize⟩, ⟨fun _ => 0, 0⟩⟩, ⟨⟨1, 0⟩, ⟨fun _ => 0, 0⟩⟩,
    ⟨⟨0, 0⟩, ⟨fun _ => 0, 0⟩⟩, ⟨⟨0, 0⟩, ⟨fun _ => 0, 0⟩⟩]

theorem asks_benchmarkParams (dataSize chunkSize : UInt32) :
    Asks (benchmarkParams dataSize chunkSize) dataSize chunkSize :=
  ⟨rfl, by simp [benchmarkParams]⟩

/-- Verification and the writers agree exactly when the chunks divide the data. -/
theorem verify_agrees_iff (A : Arch) (dataSize chunkSize : UInt32) (hd : dataSize ≠ 0)
    (hc : chunkSize ≠ 0) :
    VerifiesWriters A dataSize chunkSize ↔ chunkSize.toNat ∣ dataSize.toNat := by
  constructor
  · intro hagrees
    by_contra hdvd
    have hasks := asks_benchmarkParams dataSize chunkSize
    obtain ⟨out, hrun, hres⟩ := not_dvd_corrupt (A := A) (E := exactMachine) hd hc hdvd
      (fun _ => rfl) rfl hasks (openedStore [])
    obtain ⟨out', hrun', hres', -⟩ := hagrees.accepts cmdTestRead (by decide) exactMachine
      (fun _ => rfl) rfl _ hasks (openedStore [])
    rw [hrun, Option.some.injEq] at hrun'
    rw [← hrun', hres] at hres'
    exact corrupt_ne hres'
  · intro hdvd
    refine ⟨?_, ?_⟩
    · intro nCommandID hid E hE hmalloc params hparams s
      exact accepts_of_dvd hd hc hdvd hid hE hmalloc hparams s
    · rintro E hE h content s hfile ⟨i, hi, hdiff⟩
      exact verify_differs hE (toNat_pos hc) hfile (dataSize.toNat_lt.trans_le A.word_ge) hi hdiff

theorem verify_agrees_two_chunks : VerifiesWriters .arm32 4 2 :=
  (verify_agrees_iff .arm32 4 2 (by decide) (by decide)).mpr (by decide)

/-- Three bytes in chunks of two. -/
theorem tail_chunk_corrupt : ¬ VerifiesWriters .arm32 3 2 := by
  intro hagrees
  obtain ⟨out, hrun, hres, -⟩ := hagrees.accepts cmdTestRead (by decide) exactMachine
    (fun _ => rfl) rfl (benchmarkParams 3 2) (asks_benchmarkParams 3 2) (openedStore [])
  have heval : (chunkAccessTest .arm32 exactMachine cmdTestRead benchmarkParamTypes
      (benchmarkParams 3 2) (openedStore [])).map Outcome.res = some teeErrorCorruptObject := by
    decide
  rw [hrun, Option.map_some, hres] at heval
  exact absurd heval (by decide)

end StorageVerify
