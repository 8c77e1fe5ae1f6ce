import OpteeTest.StorageCalls

/-! # Rewriting a file chunk by chunk

`test_rewrite` reads a chunk, seeks back by its length and writes it again. Whatever call fails,
the file keeps its content. -/
namespace StorageRewrite

open ByteMemory TeeApi ChunkLoop StorageBenchmark StorageCalls

variable {E : Machine} {s s' : Store} {h n : ℕ} {content : List UInt8}

def Event.Faulty : Event → Prop
  | .failed _ => True
  | .read _ requested count => count < requested
  | _ => False

def Event.bytesRead : Event → List ℕ
  | .read off _ count => List.range' off count
  | _ => []

def Event.bytesWritten : Event → List ℕ
  | .wrote off len => List.range' off len
  | _ => []

/-- The first `done` bytes have been read and written, each once and in order. -/
structure Rewritten (content : List UInt8) (h : ℕ) (log : List Event) (done : ℕ) (s : Store) :
    Prop where
  file : s.file = some content
  pos : s.pos h = done
  log : ∃ new, s.log = log ++ new ∧ new.flatMap Event.bytesRead = List.range done ∧
    new.flatMap Event.bytesWritten = List.range done ∧ ∀ e ∈ new, ¬ Event.Faulty e

structure Stopped (E : Machine) (content : List UInt8) (log : List Event) (res : TeeResult)
    (s : Store) : Prop where
  res : res ≠ teeSuccess
  file : s.file = some content
  log : ∃ new, s.log = log ++ new ∧ ∃ e ∈ new, Event.Faulty e
  inexact : ¬ Exact E

theorem negativeChunkSize_of_lt (hn : n < 2 ^ 31) : negativeChunkSize n = -n := by
  rw [negativeChunkSize, toInt_of_lt hn, Int.bmod_eq_of_le] <;> omega

variable {log new : List Event} {done : ℕ} {res : TeeResult}

theorem stopped_of_last {e : Event} (hres : res ≠ teeSuccess) (hfile : s.file = some content)
    (hlog : s.log = log ++ new ++ [e]) (he : Event.Faulty e) (hE : ¬ Exact E) :
    Stopped E content log res s where
  res := hres
  file := hfile
  log := ⟨new ++ [e], by rw [hlog, List.append_assoc],
    e, List.mem_append_right _ (List.mem_singleton_self _), he⟩
  inexact := hE

theorem stopped_of_failed (hres : res ≠ teeSuccess) (hfail : Fails E s.calls)
    (hfile : s.file = some content) (hlog : s.log = log ++ new) :
    Stopped E content log res (failed s res) := by
  have hend : (failed s res).log = log ++ new ++ [Event.failed res] := by
    rw [← hlog]
    rfl
  exact stopped_of_last hres hfile hend trivial fun hE => hE.not_fails _ hfail

theorem corrupt_ne : teeErrorCorruptObject ≠ teeSuccess := by
  decide

theorem range_extend (done n : ℕ) :
    List.range done ++ List.range' done n = List.range (done + n) := by
  rw [List.range_eq_range', List.range_eq_range', ← List.range'_append_1, Nat.zero_add]

/-- The next `n` bytes have been read into the buffer and not been written yet. -/
structure Pending (content : List UInt8) (h : ℕ) (log : List Event) (done n : ℕ) (s : Store) :
    Prop where
  file : s.file = some content
  pos : s.pos h = done + n
  buf : slice s.buf 0 n = (content.drop done).take n
  log : ∃ new, s.log = log ++ new ∧ new.flatMap Event.bytesRead = List.range (done + n) ∧
    new.flatMap Event.bytesWritten = List.range done ∧ ∀ e ∈ new, ¬ Event.Faulty e

theorem clean_append {e : Event} (hclean : ∀ e ∈ new, ¬ Event.Faulty e) (he : ¬ Event.Faulty e) :
    ∀ e' ∈ new ++ [e], ¬ Event.Faulty e' := by
  intro e' he'
  rcases List.mem_append.mp he' with he' | he'
  · exact hclean e' he'
  · rwa [List.mem_singleton.mp he']

theorem read_pending (hs : Rewritten content h log done s) (hend : done + n ≤ content.length)
    (E : Machine) :
    (∃ res t, res ≠ teeSuccess ∧ teeReadObjectData E h n s = ((res, 0), t) ∧
      Stopped E content log res t) ∨
    ∃ count t, teeReadObjectData E h n s = ((teeSuccess, count), t) ∧
      (count ≠ n → Stopped E content log teeErrorCorruptObject t) ∧
      (count = n → Pending content h log done n t) := by
  obtain ⟨new, hlog, hread, hwritten, hclean⟩ := hs.log
  rcases read_cases E h n hs.file with ⟨res, hres, hfail, hcall⟩ |
    ⟨limit, data, t, -, hlimit, hdata, hcall, hfile, hbuf, hmove⟩
  · exact Or.inl ⟨res, _, hres, hcall, stopped_of_failed hres hfail hs.file hlog⟩
  have hlog' := hmove.log
  rw [hlog, hs.pos] at hlog'
  rw [hs.pos] at hdata
  refine Or.inr ⟨data.length, t, hcall, ?_, ?_⟩
  · intro hcount
    have hle := readAt_length_le content done n limit
    rw [← hdata] at hle
    refine stopped_of_last corrupt_ne hfile hlog' (Nat.lt_of_le_of_ne hle hcount) ?_
    intro hE
    rcases hlimit with rfl | hfault
    · apply hcount
      rw [hdata, readAt_none hend]
    · exact hfault (hE _)
  · intro hcount
    refine ⟨hfile, ?_, ?_, _, hlog'.trans (List.append_assoc _ _ _), ?_, ?_, ?_⟩
    · rw [hmove.pos, hs.pos, hcount]
    · rw [hbuf, ← hcount, slice_copyIn, hcount, hdata]
      exact readAt_whole (by rw [← hdata, hcount])
    · rw [List.flatMap_append, hread, hcount, List.flatMap_singleton]
      exact range_extend done n
    · rw [List.flatMap_append, hwritten]
      exact List.append_nil _
    · exact clean_append hclean (Nat.not_lt.mpr hcount.ge)

def writeBack (E : Machine) (h n : ℕ) (s : Store) : TeeResult × Store :=
  let (res, s) := teeSeekObjectData E h (negativeChunkSize n) .cur s
  if res ≠ teeSuccess then (res, s) else teeWriteObjectData E h n s

theorem writeBack_cases (hn : n < 2 ^ 31) (hs : Pending content h log done n s)
    (hend : done + n ≤ content.length) {out : TeeResult × Store} (hout : writeBack E h n s = out) :
    (out.1 = teeSuccess → Rewritten content h log (done + n) out.2) ∧
      (out.1 ≠ teeSuccess → Stopped E content log out.1 out.2) := by
  obtain ⟨new, hlog, hread, hwritten, hclean⟩ := hs.log
  unfold writeBack at hout
  rcases seek_cases E h (negativeChunkSize n) .cur s with ⟨res, hres, hfail, hcall⟩ |
    ⟨s₁, -, hcall, hfile₁, hbuf₁, hmove₁⟩
  · rw [hcall] at hout
    dsimp only at hout
    rw [if_pos hres] at hout
    subst hout
    exact ⟨fun h => absurd h hres, fun _ => stopped_of_failed hres hfail hs.file hlog⟩
  rw [hcall] at hout
  dsimp only at hout
  rw [if_neg (not_not.mpr rfl)] at hout
  have hpos₁ : s₁.pos h = done := by
    have htarget : s₁.pos h = (s.pos h + negativeChunkSize n : ℤ).toNat := hmove₁.pos
    rw [htarget, hs.pos, negativeChunkSize_of_lt hn]
    omega
  have hlog₁ : s₁.log = log ++ new := by
    rw [hmove₁.log, List.append_nil, hlog]
  rw [hs.file] at hfile₁
  rcases write_cases E h n hfile₁ with ⟨res, hres, hfail, hcall⟩ |
    ⟨s₂, -, hcall, hfile₂, -, hmove₂⟩
  · rw [hcall] at hout
    subst hout
    exact ⟨fun h => absurd h hres, fun _ => stopped_of_failed hres hfail hfile₁ hlog₁⟩
  rw [hcall] at hout
  subst hout
  rw [hpos₁, hbuf₁, hs.buf, writeAt_same hend] at hfile₂
  have hlog₂ := hmove₂.log
  rw [hlog₁, hpos₁, List.append_assoc] at hlog₂
  refine ⟨fun _ => ⟨hfile₂, ?_, _, hlog₂, ?_, ?_, clean_append hclean id⟩, fun h => absurd rfl h⟩
  · rw [hmove₂.pos, hpos₁]
  · rw [List.flatMap_append, hread]
    exact List.append_nil _
  · rw [List.flatMap_append, hwritten, List.flatMap_singleton]
    exact range_extend done n

theorem rewriteTurn_cases (hn : n < 2 ^ 31) (hs : Rewritten content h log done s)
    (hend : done + n ≤ content.length) {out : TeeResult × Store}
    (hout : rewriteTurn E h n s = out) :
    (out.1 = teeSuccess → Rewritten content h log (done + n) out.2) ∧
      (out.1 ≠ teeSuccess → Stopped E content log out.1 out.2) := by
  unfold rewriteTurn at hout
  rcases read_pending hs hend E with ⟨res, t, hres, hcall, hstopped⟩ |
    ⟨count, t, hcall, hshort, hpending⟩
  · rw [hcall] at hout
    dsimp only at hout
    rw [if_pos hres] at hout
    subst hout
    exact ⟨fun h => absurd h hres, fun _ => hstopped⟩
  rw [hcall] at hout
  dsimp only at hout
  rw [if_neg (not_not.mpr rfl)] at hout
  by_cases hcount : count = n
  · rw [if_neg (not_not.mpr hcount)] at hout
    exact writeBack_cases hn (hpending hcount) hend hout
  · rw [if_pos hcount] at hout
    subst hout
    exact ⟨fun h => absurd h corrupt_ne, fun _ => hshort hcount⟩

/-- Whatever call fails, the file keeps its content; the result tells whether one failed. Without
a fault each byte is read and written once, in order. -/
theorem rewrite_identity (E : Machine) (h chunkSize : ℕ) (content : List UInt8) (s : Store)
    (hpos : 0 < chunkSize) (hmax : chunkSize < 2 ^ 31) (hfile : s.file = some content)
    (hstart : s.pos h = 0) :
    ∃ res s' new, testRewrite E h content.length chunkSize s = some (res, s') ∧
      s'.log = s.log ++ new ∧ s'.file = some content ∧
      (res = teeSuccess ↔ ∀ e ∈ new, ¬ Event.Faulty e) ∧
      (res = teeSuccess → s'.pos h = content.length ∧
        new.flatMap Event.bytesRead = List.range content.length ∧
        new.flatMap Event.bytesWritten = List.range content.length) ∧
      (Exact E → res = teeSuccess) := by
  have hinit : Rewritten content h s.log 0 s :=
    ⟨hfile, hstart, [], (List.append_nil _).symm, rfl, rfl, fun e he => absurd he List.not_mem_nil⟩
  have hturn (done : ℕ) (t : Store) (hlt : done < content.length)
      (ht : Rewritten content h s.log done t) (out : TeeResult × Store)
      (hout : rewriteTurn E h (min (content.length - done) chunkSize) t = out) :=
    rewriteTurn_cases (by omega) ht (by omega) hout
  obtain ⟨res, s', hrun, hok, hbad⟩ := inChunks_rule _ _ hpos hturn hinit
  by_cases hres : res = teeSuccess
  · obtain ⟨hfile', hpos', new, hlog, hread, hwritten, hclean⟩ := hok hres
    exact ⟨res, s', new, hrun, hlog, hfile', ⟨fun _ => hclean, fun _ => hres⟩,
      fun _ => ⟨hpos', hread, hwritten⟩, fun _ => hres⟩
  · obtain ⟨-, hfile', ⟨new, hlog, e, he, hfaulty⟩, hinexact⟩ := hbad hres
    exact ⟨res, s', new, hrun, hlog, hfile',
      ⟨fun h => absurd h hres, fun h => absurd hfaulty (h e he)⟩, fun h => absurd h hres,
      fun hE => absurd hE hinexact⟩

theorem rewrite_five_bytes : ∃ s',
    testRewrite exactMachine 0 5 2 (openedStore [1, 2, 3, 4, 5]) = some (teeSuccess, s') ∧
      s'.file = some [1, 2, 3, 4, 5] ∧ s'.pos 0 = 5 := by
  obtain ⟨res, s', new, hrun, -, hfile, -, hdone, hexact⟩ := rewrite_identity exactMachine 0 2
    [1, 2, 3, 4, 5] (openedStore [1, 2, 3, 4, 5]) (by decide) (by decide) rfl rfl
  have hres := hexact fun _ => rfl
  subst hres
  exact ⟨s', hrun, hfile, (hdone rfl).1⟩

end StorageRewrite
