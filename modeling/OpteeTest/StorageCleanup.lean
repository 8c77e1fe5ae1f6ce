import OpteeTest.GuardedRun
import OpteeTest.StorageVerify

/-! # What the benchmark command leaves behind

The handles and the buffer are always given back. The file stays when a write or the open fails
after it has been created: the deletion hangs on the second handle. -/
namespace StorageCleanup

open ByteMemory TeeApi GuardedRun ChunkLoop StorageBenchmark StorageCalls StorageVerify

variable {A : Arch} {E : Machine} {s s' s'' : Store} {h n : ℕ} {content : List UInt8}
  {chunk data done : ℕ}

def Event.Quiet : Event → Prop
  | .read _ _ _ => True
  | .wrote _ _ => True
  | .examined _ => True
  | .failed _ => True
  | _ => False

/-- Work on an open file: the log grows by quiet entries, and the file stays. -/
structure Works (s s' : Store) : Prop where
  log : ∃ new, s'.log = s.log ++ new ∧ ∀ e ∈ new, Event.Quiet e
  handles : s'.handles = s.handles
  file : s.file ≠ none → s'.file ≠ none

theorem Works.refl (s : Store) : Works s s :=
  ⟨⟨[], (List.append_nil _).symm, fun _ he => absurd he List.not_mem_nil⟩, rfl, id⟩

theorem Works.trans (h : Works s s') (h' : Works s' s'') : Works s s'' := by
  obtain ⟨⟨new, hlog, hnew⟩, hhandles, hfile⟩ := h
  obtain ⟨⟨more, hlog', hmore⟩, hhandles', hfile'⟩ := h'
  refine ⟨⟨new ++ more, ?_, ?_⟩, hhandles'.trans hhandles, fun hs => hfile' (hfile hs)⟩
  · rw [hlog', hlog, List.append_assoc]
  · intro e he
    rcases List.mem_append.mp he with he | he
    · exact hnew e he
    · exact hmore e he

theorem works_failed (s : Store) (res : TeeResult) : Works s (failed s res) := by
  refine ⟨⟨[Event.failed res], rfl, ?_⟩, rfl, id⟩
  intro e he
  rw [List.mem_singleton.mp he]
  trivial

theorem Moved.works {pos : ℕ} {entries : List Event} (hmove : Moved h pos entries s s')
    (hentries : ∀ e ∈ entries, Event.Quiet e) (hfile : s'.file ≠ none) : Works s s' :=
  ⟨⟨entries, hmove.log, hentries⟩, hmove.handles, fun _ => hfile⟩

theorem write_works (E : Machine) (h n : ℕ) (hfile : s.file ≠ none) :
    Works s (teeWriteObjectData E h n s).2 := by
  obtain ⟨content, hcontent⟩ := Option.ne_none_iff_exists'.mp hfile
  rcases write_cases E h n hcontent with ⟨res, -, -, hcall⟩ | ⟨s', -, hcall, hfile', -, hmove⟩
  · rw [hcall]
    exact works_failed s res
  · rw [hcall]
    refine Moved.works hmove ?_ (by rw [hfile']; exact Option.some_ne_none _)
    intro e he
    rw [List.mem_singleton.mp he]
    trivial

theorem read_works (E : Machine) (h n : ℕ) (hfile : s.file ≠ none) :
    Works s (teeReadObjectData E h n s).2 := by
  obtain ⟨content, hcontent⟩ := Option.ne_none_iff_exists'.mp hfile
  rcases read_cases E h n hcontent with ⟨res, -, -, hcall⟩ |
    ⟨limit, data, s', -, -, -, hcall, hfile', -, hmove⟩
  · rw [hcall]
    exact works_failed s res
  · rw [hcall]
    refine Moved.works hmove ?_ (by rw [hfile']; exact Option.some_ne_none _)
    intro e he
    rw [List.mem_singleton.mp he]
    trivial

theorem seek_works (E : Machine) (h : ℕ) (offset : ℤ) (whence : Whence) (hfile : s.file ≠ none) :
    Works s (teeSeekObjectData E h offset whence s).2 := by
  rcases seek_cases E h offset whence s with ⟨res, -, -, hcall⟩ | ⟨s', -, hcall, hfile', -, hmove⟩
  · rw [hcall]
    exact works_failed s res
  · rw [hcall]
    exact Moved.works hmove (fun e he => absurd he List.not_mem_nil) (by rwa [hfile'])

theorem readTurn_works (E : Machine) (h n : ℕ) (hfile : s.file ≠ none) :
    Works s (readTurn E h n s).2 :=
  read_works E h n hfile

theorem rewriteTurn_works (E : Machine) (h n : ℕ) (hfile : s.file ≠ none) :
    Works s (rewriteTurn E h n s).2 := by
  have hread := read_works E h n hfile
  unfold rewriteTurn
  obtain ⟨⟨⟨res, count⟩, s₁⟩, hcall⟩ : ∃ out, teeReadObjectData E h n s = out := ⟨_, rfl⟩
  rw [hcall] at hread ⊢
  dsimp only at hread ⊢
  by_cases hres : res ≠ teeSuccess
  · rw [if_pos hres]
    exact hread
  rw [if_neg hres]
  by_cases hcount : count ≠ n
  · rw [if_pos hcount]
    exact hread
  rw [if_neg hcount]
  have hseek := hread.trans (seek_works E h (negativeChunkSize n) .cur (hread.file hfile))
  obtain ⟨⟨res', s₂⟩, hcall'⟩ : ∃ out, teeSeekObjectData E h (negativeChunkSize n) .cur s₁ = out :=
    ⟨_, rfl⟩
  rw [hcall'] at hseek ⊢
  dsimp only at hseek ⊢
  by_cases hres' : res' ≠ teeSuccess
  · rw [if_pos hres']
    exact hseek
  · rw [if_neg hres']
    exact hseek.trans (write_works E h n (hseek.file hfile))

theorem inChunks_works {body : ℕ → Store → TeeResult × Store} (hchunk : 0 < chunk)
    (hbody : ∀ n t, t.file ≠ none → Works t (body n t).2) (hfile : s.file ≠ none) :
    ∃ res s', inChunks teeSuccess body chunk data s = some (res, s') ∧ Works s s' := by
  have hturn (done : ℕ) (t : Store) (_ : done < data) (ht : Works s t) (out : TeeResult × Store)
      (hout : body (min (data - done) chunk) t = out) :
      (out.1 = teeSuccess → Works s out.2) ∧ (out.1 ≠ teeSuccess → Works s out.2) := by
    have hnext := ht.trans (hbody (min (data - done) chunk) t (ht.file hfile))
    rw [hout] at hnext
    exact ⟨fun _ => hnext, fun _ => hnext⟩
  obtain ⟨res, s', hrun, hok, hbad⟩ := inChunks_rule (fun _ => Works s) (fun _ => Works s) hchunk
    hturn (Works.refl s)
  refine ⟨res, s', hrun, ?_⟩
  by_cases hres : res = teeSuccess
  · exact hok hres
  · exact hbad hres

theorem read_pos (E : Machine) (h n : ℕ) (hfile : s.file = some content)
    {count : ℕ} {s₁ : Store} (hcall : teeReadObjectData E h n s = ((teeSuccess, count), s₁)) :
    s₁.file = some content ∧ s₁.pos h = s.pos h + count ∧ count ≤ content.length - s.pos h := by
  rcases read_cases E h n hfile with ⟨res, hres, -, hcall'⟩ |
    ⟨limit, data, s', -, -, hdata, hcall', hfile', -, hmove⟩
  · rw [hcall] at hcall'
    exact absurd (congrArg (fun out => out.1.1) hcall').symm hres
  · rw [hcall, Prod.mk.injEq, Prod.mk.injEq] at hcall'
    obtain ⟨⟨-, hcount⟩, rfl⟩ := hcall'
    refine ⟨hfile', hcount ▸ hmove.pos, ?_⟩
    rw [hcount, hdata, readAt, List.length_take, List.length_drop]
    exact Nat.min_le_right _ _

theorem verifyLoop_works (hchunk : 0 < chunk) (hfile : s.file = some content) (fuel : ℕ)
    (hfuel : content.length < fuel + s.pos h) (tmp : ℕ) (hpos : s.pos h ≤ content.length) :
    ∃ res s', verifyLoop A E h chunk fuel tmp s = some (res, s') ∧ Works s s' := by
  induction fuel generalizing s tmp with
  | zero => omega
  | succ fuel ih =>
    rw [verifyLoop]
    by_cases htmp : tmp = 0
    · rw [if_pos htmp]
      exact ⟨_, _, rfl, Works.refl s⟩
    rw [if_neg htmp]
    have hread := read_works E h chunk (s := s) (by rw [hfile]; exact Option.some_ne_none _)
    obtain ⟨⟨⟨res, count⟩, s₁⟩, hcall⟩ : ∃ out, teeReadObjectData E h chunk s = out := ⟨_, rfl⟩
    rw [hcall] at hread ⊢
    dsimp only at hread ⊢
    by_cases hres : res ≠ teeSuccess
    · rw [if_pos hres]
      exact ⟨_, _, rfl, hread⟩
    rw [if_neg hres]
    by_cases hcount : count ≠ chunk
    · rw [if_pos hcount]
      exact ⟨_, _, rfl, hread⟩
    rw [if_neg hcount]
    rw [not_not.mp hres] at hcall
    obtain ⟨hfile₁, hpos₁, hle⟩ := read_pos E h chunk hfile hcall
    have hexamined : Works s₁ (s₁.record (Event.examined chunk)) := by
      refine ⟨⟨[Event.examined chunk], rfl, ?_⟩, rfl, id⟩
      intro e he
      rw [List.mem_singleton.mp he]
      trivial
    by_cases hverify : verifyBuffer (s₁.record (Event.examined chunk)).buf chunk ≠ teeSuccess
    · rw [if_pos hverify]
      exact ⟨_, _, rfl, hread.trans hexamined⟩
    rw [if_neg hverify]
    have hmoved : (s₁.record (Event.examined chunk)).pos h = s.pos h + chunk := by
      rw [← not_not.mp hcount]
      exact hpos₁
    obtain ⟨res', s', hrun, hworks⟩ := ih (s := s₁.record (Event.examined chunk)) hfile₁
      (by rw [hmoved]; omega) ((tmp + A.word - chunk) % A.word) (by rw [hmoved]; omega)
    exact ⟨res', s', hrun, (hread.trans hexamined).trans hworks⟩

theorem verifyFileData_works (A : Arch) (E : Machine) (h data : ℕ) (hchunk : 0 < chunk)
    (hfile : s.file ≠ none) :
    ∃ res s', verifyFileData A E h data chunk s = some (res, s') ∧ Works s s' := by
  have hseek := seek_works E h 0 .set hfile
  unfold verifyFileData
  rcases seek_cases E h 0 .set s with ⟨res, hres, -, hcall⟩ | ⟨s₁, -, hcall, -, -, hmove⟩
  · rw [hcall] at hseek ⊢
    dsimp only
    rw [if_pos hres]
    exact ⟨_, _, rfl, hseek⟩
  rw [hcall] at hseek ⊢
  dsimp only at hseek ⊢
  rw [if_neg (not_not.mpr rfl)]
  obtain ⟨content, hcontent⟩ := Option.ne_none_iff_exists'.mp (hseek.file hfile)
  have hpos : s₁.pos h = 0 := hmove.pos
  have hturns : (s₁.file.getD []).length + 1 = content.length + 1 := by
    rw [hcontent, Option.getD_some]
  obtain ⟨res, s', hrun, hworks⟩ := verifyLoop_works (A := A) (E := E) (h := h)
    (s := { s₁ with buf := copyIn s₁.buf 0 (List.replicate chunk 0) }) hchunk hcontent
    (content.length + 1) (by dsimp only; omega) data (by dsimp only; omega)
  rw [hturns]
  exact ⟨res, s', hrun, hseek.trans ⟨hworks.log, hworks.handles, hworks.file⟩⟩

theorem runTest_works (E : Machine) (nCommandID : UInt32) (h data : ℕ) (hchunk : 0 < chunk)
    (hfile : s.file ≠ none) :
    ∃ res s', runTest E nCommandID h data chunk s = some (res, s') ∧ Works s s' := by
  unfold runTest
  split_ifs
  · exact inChunks_works hchunk (fun n _ => readTurn_works E h n) hfile
  · exact inChunks_works hchunk (fun n _ => write_works E h n) hfile
  · exact inChunks_works hchunk (fun n _ => rewriteTurn_works E h n) hfile
  · exact ⟨_, _, rfl, Works.refl s⟩

def rounds (data chunk : ℕ) : ℕ := (data + chunk - 1) / chunk

theorem rounds_succ (hchunk : 0 < chunk) (hdone : chunk ∣ done) (hn : 0 < n) (hle : n ≤ chunk) :
    rounds (done + n) chunk = rounds done chunk + 1 := by
  obtain ⟨q, rfl⟩ := hdone
  have hnext : chunk * q + n + chunk - 1 = n - 1 + chunk * (q + 1) := by
    rw [Nat.mul_add_one]
    omega
  have hbefore : chunk * q + chunk - 1 = chunk - 1 + chunk * q := by omega
  unfold rounds
  rw [hnext, hbefore, Nat.add_mul_div_left _ _ hchunk, Nat.add_mul_div_left _ _ hchunk,
    Nat.div_eq_of_lt (by omega), Nat.div_eq_of_lt (by omega), Nat.zero_add, Nat.zero_add]

theorem rounds_mono (chunk : ℕ) (hle : done ≤ data) : rounds done chunk ≤ rounds data chunk :=
  Nat.div_le_div_right (by omega)

theorem rounds_zero (hchunk : 0 < chunk) : rounds 0 chunk = 0 :=
  Nat.div_eq_of_lt (by omega)

structure Prepared (E : Machine) (data chunk : ℕ) (s : Store) (done : ℕ) (t : Store) : Prop where
  works : Works s t
  calls : t.calls = s.calls + rounds done chunk
  written : ∀ k < rounds done chunk, ¬ Fails E (s.calls + k)
  whole : done < data → chunk ∣ done

theorem writes_cases (E : Machine) (h data : ℕ) (hchunk : 0 < chunk) (hfile : s.file ≠ none) :
    ∃ res t, inChunks teeSuccess (teeWriteObjectData E h) chunk data s = some (res, t) ∧
      (res = teeSuccess → Prepared E data chunk s data t) ∧
      (res ≠ teeSuccess → Works s t ∧ ∃ k < rounds data chunk, Fails E (s.calls + k)) := by
  have hinit : Prepared E data chunk s 0 s := by
    refine ⟨Works.refl s, ?_, ?_, fun _ => Nat.dvd_zero chunk⟩
    · rw [rounds_zero hchunk, Nat.add_zero]
    · intro k hk
      rw [rounds_zero hchunk] at hk
      exact absurd hk (Nat.not_lt_zero k)
  have hturn (done : ℕ) (t : Store) (hlt : done < data) (ht : Prepared E data chunk s done t)
      (out : TeeResult × Store)
      (hout : teeWriteObjectData E h (min (data - done) chunk) t = out) :
      (out.1 = teeSuccess →
        Prepared E data chunk s (done + min (data - done) chunk) out.2) ∧
      (out.1 ≠ teeSuccess → Works s out.2 ∧ ∃ k < rounds data chunk, Fails E (s.calls + k)) := by
    have hworks := ht.works.trans
      (write_works E h (min (data - done) chunk) (ht.works.file hfile))
    have hnext := rounds_succ hchunk (ht.whole hlt) (show 0 < min (data - done) chunk by omega)
      (Nat.min_le_right _ _)
    obtain ⟨content, hcontent⟩ := Option.ne_none_iff_exists'.mp (ht.works.file hfile)
    rw [hout] at hworks
    rcases write_cases E h (min (data - done) chunk) hcontent with ⟨res, hres, hfail, hcall⟩ |
      ⟨t', hfine, hcall, -, -, hmove⟩
    · obtain rfl := hcall.symm.trans hout
      have hmono := rounds_mono chunk
        (show done + min (data - done) chunk ≤ data by omega)
      refine ⟨fun hok => absurd hok hres, fun _ => ⟨hworks, rounds done chunk, by omega, ?_⟩⟩
      rwa [ht.calls] at hfail
    · obtain rfl := hcall.symm.trans hout
      refine ⟨fun _ => ⟨hworks, ?_, ?_, ?_⟩, fun hbad => absurd rfl hbad⟩
      · rw [hmove.calls, ht.calls, hnext, Nat.add_assoc]
      · intro k hk
        rw [hnext] at hk
        rcases Nat.lt_succ_iff_lt_or_eq.mp hk with hk | rfl
        · exact ht.written k hk
        · rwa [ht.calls] at hfine
      · intro hmore
        have hwhole : min (data - done) chunk = chunk := by omega
        rw [hwhole]
        exact Nat.dvd_add (ht.whole hlt) (Nat.dvd_refl chunk)
  exact inChunks_rule _ _ hchunk hturn hinit

/-- Every handle opened has been closed afterwards, and none twice. -/
structure Closes (new : List Event) : Prop where
  closed : ∀ h, .opened h ∈ new → [.opened h, .closed h].Sublist new
  once : ∀ h, new.count (.closed h) ≤ 1

structure Tidy (new : List Event) : Prop extends Closes new where
  freed : .malloc ∈ new → [.malloc, .free].Sublist new
  freedOnce : new.count .free = new.count .malloc
  oneBlock : new.count .malloc ≤ 1

/-- What the call has obtained is given back, and the file it has created is gone. -/
def CleanedUp (s s' : Store) : Prop :=
  ∃ new, s'.log = s.log ++ new ∧ Tidy new ∧ (.created ∈ new → s'.file = none)

variable {new more : List Event}

theorem tidy_nil : Tidy [] :=
  ⟨⟨fun _ he => absurd he List.not_mem_nil, fun _ => Nat.zero_le _⟩,
    fun he => absurd he List.not_mem_nil, rfl, Nat.zero_le _⟩

theorem closes_of_none (hnew : ∀ h, Event.opened h ∉ new ∧ Event.closed h ∉ new) : Closes new := by
  refine ⟨fun h he => absurd he (hnew h).1, ?_⟩
  intro h
  rw [List.count_eq_zero_of_not_mem (hnew h).2]
  exact Nat.zero_le 1

theorem Closes.append (h : Closes new) (h' : Closes more)
    (hdisj : ∀ n, Event.closed n ∈ new → Event.closed n ∉ more) : Closes (new ++ more) := by
  refine ⟨?_, ?_⟩
  · intro n hn
    rcases List.mem_append.mp hn with hn | hn
    · exact (h.closed n hn).trans (List.sublist_append_left new more)
    · exact (h'.closed n hn).trans (List.sublist_append_right new more)
  · intro n
    rw [List.count_append]
    by_cases hn : Event.closed n ∈ new
    · rw [List.count_eq_zero_of_not_mem (hdisj n hn), Nat.add_zero]
      exact h.once n
    · rw [List.count_eq_zero_of_not_mem hn, Nat.zero_add]
      exact h'.once n

theorem Quiet.not_mem (hnew : ∀ e ∈ new, Event.Quiet e) {e : Event} (he : ¬ Event.Quiet e) :
    e ∉ new :=
  fun hmem => he (hnew e hmem)

theorem closes_quiet (hnew : ∀ e ∈ new, Event.Quiet e) : Closes new :=
  closes_of_none fun _ => ⟨Quiet.not_mem hnew id, Quiet.not_mem hnew id⟩

def session (h : ℕ) (new : List Event) : List Event := .opened h :: (new ++ [.closed h])

theorem mem_session {e : Event} :
    e ∈ session h new ↔ e = Event.opened h ∨ e ∈ new ∨ e = Event.closed h := by
  rw [session, List.mem_cons, List.mem_append, List.mem_singleton]

theorem closes_session (h : ℕ) (hnew : ∀ e ∈ new, Event.Quiet e) : Closes (session h new) := by
  have hopened (n : ℕ) : Event.opened n ∉ new := Quiet.not_mem hnew id
  have hclosed (n : ℕ) : Event.closed n ∉ new := Quiet.not_mem hnew id
  refine ⟨?_, ?_⟩
  · intro n hn
    rcases mem_session.mp hn with hn | hn | hn
    · cases hn
      exact (List.singleton_sublist.mpr (by simp)).cons_cons _
    · exact absurd hn (hopened n)
    · cases hn
  · intro n
    rw [session, List.count_cons_of_ne (by simp), List.count_append,
      List.count_eq_zero_of_not_mem (hclosed n), Nat.zero_add]
    exact List.count_le_length

theorem tidy_bracket (h : Closes new) (hmalloc : Event.malloc ∉ new) (hfree : Event.free ∉ new) :
    Tidy (Event.malloc :: (new ++ [Event.free])) := by
  have hblocks : (Event.malloc :: (new ++ [Event.free])).count Event.malloc = 1 := by
    simp [List.count_append, List.count_eq_zero_of_not_mem hmalloc]
  refine ⟨⟨?_, ?_⟩, ?_, ?_, hblocks.le⟩
  · intro n hn
    have hmem : Event.opened n ∈ new := by simpa using hn
    exact ((h.closed n hmem).trans (List.sublist_append_left new _)).cons _
  · intro n
    have hcount : (Event.malloc :: (new ++ [Event.free])).count (Event.closed n) =
        new.count (Event.closed n) := by
      simp [List.count_append]
    rw [hcount]
    exact h.once n
  · intro _
    exact (List.singleton_sublist.mpr (by simp)).cons_cons _
  · rw [hblocks, List.count_cons_of_ne (by simp), List.count_append,
      List.count_eq_zero_of_not_mem hfree]
    rfl

theorem sizeOr_pos {default : ℕ} (hdefault : 0 < default) (value : UInt32) :
    0 < sizeOr default value := by
  unfold sizeOr
  by_cases hvalue : value = 0
  · rwa [if_pos hvalue]
  · rw [if_neg hvalue]
    exact toNat_pos hvalue

structure Created (log : List Event) (h : ℕ) (work : List Event) (t : Store) : Prop where
  file : t.file ≠ none
  handles : t.handles = h + 1
  quiet : ∀ e ∈ work, Event.Quiet e
  log : t.log = log ++ ([Event.created] ++ session h work)

/-- `prepare_test_file` fails to create the file, or leaves it closed. -/
theorem prepare_cases (E : Machine) (data : ℕ) (hchunk : 0 < chunk) (s : Store) :
    (∃ res, res ≠ teeSuccess ∧ Fails E s.calls ∧
      prepareTestFile E data chunk s = some (res, failed s res)) ∨
    ∃ res t work, ¬ Fails E s.calls ∧ prepareTestFile E data chunk s = some (res, t) ∧
      Created s.log s.handles work t ∧
      (res = teeSuccess → t.calls = s.calls + 1 + rounds data chunk ∧
        ∀ k < rounds data chunk, ¬ Fails E (s.calls + 1 + k)) ∧
      (res ≠ teeSuccess → ∃ k < rounds data chunk, Fails E (s.calls + 1 + k)) := by
  rcases create_cases E s with ⟨res, hres, hfail, hcall⟩ | ⟨h, s₁, hfine, hcall, hfile, hopen⟩
  · refine Or.inl ⟨res, hres, hfail, ?_⟩
    rw [prepareTestFile, hcall]
  have hsome : s₁.file ≠ none := by
    rw [hfile]
    exact Option.some_ne_none _
  obtain ⟨res, t, hrun, hok, hbad⟩ := writes_cases E h data hchunk hsome
  have hworks : Works s₁ t := by
    by_cases hres : res = teeSuccess
    · exact (hok hres).works
    · exact (hbad hres).1
  obtain ⟨work, hlog, hquiet⟩ := hworks.log
  refine Or.inr ⟨res, teeCloseObject h t, work, hfine, ?_, ⟨hworks.file hsome, ?_, hquiet, ?_⟩, ?_,
    ?_⟩
  · rw [prepareTestFile, hcall]
    dsimp only
    rw [hrun]
    rfl
  · exact hworks.handles.trans hopen.handles
  · have hclose : (teeCloseObject h t).log = t.log ++ [Event.closed h] := rfl
    rw [hclose, hlog, hopen.log, ← hopen.handle, session]
    simp only [List.append_assoc, List.cons_append, List.nil_append]
  · intro hres
    have hcalls : (teeCloseObject h t).calls = t.calls := rfl
    rw [hcalls, (hok hres).calls, hopen.calls]
    refine ⟨rfl, ?_⟩
    rw [← hopen.calls]
    exact (hok hres).written
  · intro hres
    rw [← hopen.calls]
    exact (hbad hres).2

theorem tests_works (A : Arch) (E : Machine) (nCommandID : UInt32) (h data : ℕ)
    (hchunk : 0 < chunk) (doVerify : Prop) [Decidable doVerify] (params : TeeParams)
    (hfile : s.file ≠ none) :
    ∃ res params' t, Works s t ∧
      ((runTest E nCommandID h data chunk s).bind fun (res, s) =>
        let params := setSpentTime E res params
        if res ≠ teeSuccess then some (exitRemoveObject (some h) res params s)
        else if doVerify then
          (verifyFileData A E h data chunk s).map fun (res, s) =>
            exitRemoveObject (some h) res params s
        else some (exitRemoveObject (some h) res params s)) =
      some (exitRemoveObject (some h) res params' t) := by
  obtain ⟨res, t, hrun, hworks⟩ := runTest_works E nCommandID h data hchunk hfile
  rw [hrun, Option.bind_some]
  dsimp only
  by_cases hres : res ≠ teeSuccess
  · rw [if_pos hres]
    exact ⟨res, _, t, hworks, rfl⟩
  rw [if_neg hres]
  by_cases hverify : doVerify
  · rw [if_pos hverify]
    obtain ⟨res', t', hrun', hworks'⟩ := verifyFileData_works A E h data hchunk
      (hworks.file hfile)
    rw [hrun', Option.map_some]
    exact ⟨res', _, t', hworks.trans hworks', rfl⟩
  · rw [if_neg hverify]
    exact ⟨res, _, t, hworks, rfl⟩

theorem tidy_command {h h' : ℕ} {work more rest : List Event} (hne : h ≠ h')
    (hwork : ∀ e ∈ work, Event.Quiet e) (hmore : ∀ e ∈ more, Event.Quiet e)
    (hrest : rest = more ∨ rest = session h' more ++ [Event.deleted]) :
    Tidy (Event.malloc :: ([Event.created] ++ session h work ++ rest ++ [Event.free])) := by
  have hcreated : Closes [Event.created] := closes_of_none (by simp)
  have hdeleted : Closes [Event.deleted] := closes_of_none (by simp)
  have hfirst : Closes ([Event.created] ++ session h work) :=
    hcreated.append (closes_session h hwork) (by simp)
  have hclosed : ∀ n, Event.closed n ∈ [Event.created] ++ session h work → n = h := by
    intro n hn
    rcases List.mem_append.mp hn with hn | hn
    · simp at hn
    · rcases mem_session.mp hn with hn | hn | hn
      · cases hn
      · exact absurd hn (Quiet.not_mem hwork id)
      · cases hn
        rfl
  have hquiet {e : Event} (he : ¬ Event.Quiet e) : e ∉ work ∧ e ∉ more :=
    ⟨Quiet.not_mem hwork he, Quiet.not_mem hmore he⟩
  rcases hrest with rfl | rfl
  · refine tidy_bracket (hfirst.append (closes_quiet hmore) fun n _ => (hquiet id).2) ?_ ?_
    · simp [mem_session, hquiet (e := Event.malloc) id]
    · simp [mem_session, hquiet (e := Event.free) id]
  · have hsecond : Closes (session h' more ++ [Event.deleted]) :=
      (closes_session h' hmore).append hdeleted (by simp)
    refine tidy_bracket (hfirst.append hsecond ?_) ?_ ?_
    · intro n hn
      rw [hclosed n hn]
      simp [mem_session, hne, (hquiet (e := Event.closed h) id).2]
    · simp [mem_session, hquiet (e := Event.malloc) id]
    · simp [mem_session, hquiet (e := Event.free) id]

/-- The call has given back what it has obtained, and leaves the file it has created behind
exactly if `stays`. -/
def Ended (log : List Event) (stays : Prop) (t : Store) : Prop :=
  ∃ new, t.log = log ++ new ∧ Tidy new ∧ (¬ stays → Event.created ∈ new → t.file = none) ∧
    (stays → Event.created ∈ new ∧ t.file ≠ none)

variable {log work : List Event} {stays : Prop} {t : Store}

theorem ended_untouched (s : Store) (hstays : ¬ stays) : Ended s.log stays s :=
  ⟨[], (List.append_nil _).symm, tidy_nil, fun _ he => absurd he List.not_mem_nil,
    fun h => absurd h hstays⟩

theorem ended_refused (res : TeeResult) (hstays : ¬ stays)
    (hlog : t.log = log ++ [Event.malloc] ++ [Event.failed res] ++ [Event.free]) :
    Ended log stays t := by
  refine ⟨Event.malloc :: ([Event.failed res] ++ [Event.free]), ?_,
    tidy_bracket (closes_of_none (by simp)) (by simp) (by simp), ?_, fun h => absurd h hstays⟩
  · rw [hlog]
    simp only [List.append_assoc, List.cons_append, List.nil_append]
  · intro _ he
    simp at he

theorem Created.ended_left (h : Created (log ++ [Event.malloc]) n work t) (hstays : stays)
    (more : List Event) (hmore : ∀ e ∈ more, Event.Quiet e)
    (hlog : s.log = t.log ++ more ++ [Event.free]) (hfile : s.file = t.file) :
    Ended log stays s := by
  refine ⟨Event.malloc :: ([Event.created] ++ session n work ++ more ++ [Event.free]), ?_,
    tidy_command (Nat.succ_ne_self n).symm h.quiet hmore (Or.inl rfl), fun hs => absurd hstays hs,
    fun _ => ⟨by simp, ?_⟩⟩
  · rw [hlog, h.log]
    simp only [List.append_assoc, List.cons_append, List.nil_append]
  · rw [hfile]
    exact h.file

theorem Created.ended_removed (h : Created (log ++ [Event.malloc]) n work t) (hstays : ¬ stays)
    (hmore : ∀ e ∈ more, Event.Quiet e)
    (hlog : s.log = t.log ++ (session t.handles more ++ [Event.deleted]) ++ [Event.free])
    (hfile : s.file = none) : Ended log stays s := by
  rw [h.handles] at hlog
  refine ⟨Event.malloc :: ([Event.created] ++ session n work ++
    (session (n + 1) more ++ [Event.deleted]) ++ [Event.free]), ?_,
    tidy_command (Nat.succ_ne_self n).symm h.quiet hmore (Or.inr rfl), fun _ _ => hfile,
    fun hs => absurd hs hstays⟩
  rw [hlog, h.log]
  simp only [List.append_assoc, List.cons_append, List.nil_append]

def Removes (E : Machine) (paramTypes : UInt32) (params : TeeParams) (s : Store) : Prop :=
  paramTypes ≠ benchmarkParamTypes ∨ ¬ E.malloc ∨ Fails E s.calls ∨
    ∀ k ≤ rounds (sizeOr defaultDataSize (params 0).value.a)
      (sizeOr defaultChunkSize (params 0).value.b), ¬ Fails E (s.calls + 1 + k)

theorem command_ended (A : Arch) (E : Machine) (nCommandID paramTypes : UInt32)
    (params : TeeParams) (s : Store) :
    ∃ out, chunkAccessTest A E nCommandID paramTypes params s = some out ∧
      Ended s.log (¬ Removes E paramTypes params s) out.store := by
  unfold chunkAccessTest
  by_cases htypes : paramTypes ≠ benchmarkParamTypes
  · rw [if_pos htypes]
    exact ⟨_, rfl, ended_untouched s (not_not.mpr (Or.inl htypes))⟩
  rw [if_neg htypes]
  dsimp only
  by_cases hmalloc : ¬ E.malloc
  · rw [if_pos hmalloc]
    exact ⟨_, rfl, ended_untouched s (not_not.mpr (Or.inr (Or.inl hmalloc)))⟩
  rw [if_neg hmalloc]
  have hchunk : 0 < sizeOr defaultChunkSize (params 0).value.b := sizeOr_pos (by decide) _
  have hremoves : Removes E paramTypes params s ↔ Fails E s.calls ∨
      ∀ k ≤ rounds (sizeOr defaultDataSize (params 0).value.a)
        (sizeOr defaultChunkSize (params 0).value.b), ¬ Fails E (s.calls + 1 + k) := by
    rw [Removes, or_iff_right htypes, or_iff_right hmalloc]
  rw [hremoves]
  generalize sizeOr defaultChunkSize (params 0).value.b = chunk at hchunk ⊢
  generalize sizeOr defaultDataSize (params 0).value.a = data
  have hlog : (fillBuffer chunk (teeMalloc chunk s)).log = s.log ++ [Event.malloc] := rfl
  have hcalls : (fillBuffer chunk (teeMalloc chunk s)).calls = s.calls := rfl
  obtain ⟨s₀, hs₀⟩ : ∃ s₀, fillBuffer chunk (teeMalloc chunk s) = s₀ := ⟨_, rfl⟩
  rw [hs₀] at hlog hcalls ⊢
  rcases prepare_cases E data hchunk s₀ with ⟨res, hres, hfail, hrun⟩ |
    ⟨res, t, work, hfine, hrun, hcreated, hok, hbad⟩
  · rw [hcalls] at hfail
    rw [hrun, Option.bind_some]
    dsimp only
    rw [if_pos hres]
    refine ⟨_, rfl, ended_refused res (not_not.mpr (Or.inl hfail)) ?_⟩
    rw [← hlog]
    rfl
  rw [hcalls] at hfine hok hbad
  rw [hlog] at hcreated
  -- a failure from here on leaves the file behind
  have hstays {k : ℕ} (hk : k ≤ rounds data chunk) (hfail : Fails E (s.calls + 1 + k)) :
      ¬ (Fails E s.calls ∨ ∀ k ≤ rounds data chunk, ¬ Fails E (s.calls + 1 + k)) := by
    rintro (hcreate | hall)
    · exact hfine hcreate
    · exact hall k hk hfail
  rw [hrun, Option.bind_some]
  dsimp only
  by_cases hres : res ≠ teeSuccess
  · rw [if_pos hres]
    obtain ⟨k, hk, hfail⟩ := hbad hres
    refine ⟨_, rfl, hcreated.ended_left (hstays hk.le hfail) [] ?_ ?_ rfl⟩
    · exact fun e he => absurd he List.not_mem_nil
    · rw [List.append_nil]
      rfl
  rw [if_neg hres]
  obtain ⟨hcalls', hwritten⟩ := hok (not_not.mp hres)
  obtain ⟨content, hcontent⟩ := Option.ne_none_iff_exists'.mp hcreated.file
  rcases open_cases E hcontent with ⟨res', hres', hfail, hcall⟩ |
    ⟨h, t', hopened, hcall, hfile', hopen⟩
  · rw [hcall]
    dsimp only
    rw [hcalls'] at hfail
    refine ⟨_, rfl, hcreated.ended_left (hstays le_rfl hfail) [Event.failed res'] ?_ rfl
      rfl⟩
    intro e he
    rw [List.mem_singleton.mp he]
    trivial
  rw [hcall]
  dsimp only
  obtain ⟨res', params', t'', hworks, hend⟩ := tests_works A E nCommandID h data hchunk
    ((params 1).value.a ≠ 0) params (s := t') (by rw [hfile']; exact Option.some_ne_none _)
  obtain ⟨more, hlog'', hmore⟩ := hworks.log
  refine ⟨_, hend, hcreated.ended_removed (not_not.mpr (Or.inr ?_)) hmore ?_ rfl⟩
  · intro k hk
    rcases Nat.lt_or_eq_of_le hk with hk | rfl
    · exact hwritten k hk
    · rwa [hcalls'] at hopened
  · have hexit : (exitRemoveObject (some h) res' params' t'').store.log =
        t''.log ++ [Event.closed h] ++ [Event.deleted] ++ [Event.free] := rfl
    rw [hexit, hlog'', hopen.log, ← hopen.handle, session]
    simp only [List.append_assoc, List.cons_append, List.nil_append]

/-- The command cleans up exactly when it creates nothing or opens the file again. -/
theorem cleans_up_iff (A : Arch) (E : Machine) (nCommandID paramTypes : UInt32)
    (params : TeeParams) (s : Store) :
    ∃ out, chunkAccessTest A E nCommandID paramTypes params s = some out ∧
      (CleanedUp s out.store ↔ Removes E paramTypes params s) := by
  obtain ⟨out, hrun, new, hlog, htidy, hgone, hleft⟩ :=
    command_ended A E nCommandID paramTypes params s
  refine ⟨out, hrun, ?_, fun h => ⟨new, hlog, htidy, hgone (not_not.mpr h)⟩⟩
  rintro ⟨new', hlog', -, hfile⟩
  obtain rfl := List.append_cancel_left (hlog.symm.trans hlog')
  by_contra hnot
  obtain ⟨hcreated, hstays⟩ := hleft hnot
  exact hstays (hfile hcreated)

/-- A machine on which only call number `k` fails. -/
def failingMachine (k : ℕ) : Machine :=
  { exactMachine with
    faults := fun i => if i = k then some (.fail ⟨teeErrorGeneric, by decide⟩) else none }

def emptyStore : Store := ⟨none, fun _ => 0, 0, 0, fun _ => 0, []⟩

/-- The first write fails, and the empty file stays. -/
theorem failed_write_leaves_file :
    ∃ out, chunkAccessTest .arm32 (failingMachine 1) cmdTestRead benchmarkParamTypes
        (benchmarkParams 4 2) emptyStore = some out ∧ ¬ CleanedUp emptyStore out.store := by
  have heval : (chunkAccessTest .arm32 (failingMachine 1) cmdTestRead benchmarkParamTypes
      (benchmarkParams 4 2) emptyStore).map (fun out => (out.store.file, out.store.log)) =
      some (some [],
        [.malloc, .created, .opened 0, .failed teeErrorGeneric, .closed 0, .free]) := by
    decide
  obtain ⟨out, hrun, hout⟩ := Option.map_eq_some_iff.mp heval
  rw [Prod.mk.injEq] at hout
  refine ⟨out, hrun, ?_⟩
  rintro ⟨new, hlog, -, hfile⟩
  rw [hout.2] at hlog
  have hnew : new = _ := hlog.symm
  rw [hnew, hout.1] at hfile
  exact absurd (hfile (by decide)) (Option.some_ne_none _)

structure Request where
  nCommandID : UInt32
  paramTypes : UInt32
  params : TeeParams

def Request.IsTest (r : Request) : Prop :=
  r.nCommandID = cmdTestRead ∨ r.nCommandID = cmdTestWrite ∨ r.nCommandID = cmdTestRewrite

def Request.handled (A : Arch) (E : Machine) (r : Request) (s : Store) : Option Outcome :=
  taStorageBenchmarkCmdHandler A E r.nCommandID r.paramTypes r.params s

theorem handled_ended (A : Arch) (E : Machine) (r : Request) (s : Store) :
    ∃ out, r.handled A E s = some out ∧
      Ended s.log (r.IsTest ∧ ¬ Removes E r.paramTypes r.params s) out.store := by
  unfold Request.handled taStorageBenchmarkCmdHandler
  by_cases htest : r.IsTest
  · simp only [htest, true_and]
    rw [if_pos (by exact htest)]
    exact command_ended A E _ _ _ s
  · rw [if_neg (by exact htest)]
    exact ⟨_, rfl, ended_untouched s fun h => htest h.1⟩

def handledStore (A : Arch) (E : Machine) (s : Store) (r : Request) : Store :=
  ((r.handled A E s).map Outcome.store).getD s

/-- Over a run of commands, whatever fails in them, each gives back its buffer and its handles. -/
theorem commands_give_back (A : Arch) (E : Machine) (rs : List Request) (s : Store) :
    ∃ logs : List (List Event), (runTrace (handledStore A E) s rs).log = s.log ++ logs.flatten ∧
      logs.length = rs.length ∧ ∀ new ∈ logs, Tidy new := by
  induction rs generalizing s with
  | nil => exact ⟨[], (List.append_nil _).symm, rfl, fun _ h => absurd h List.not_mem_nil⟩
  | cons r rs ih =>
    obtain ⟨out, hrun, new, hlog, htidy, -⟩ := handled_ended A E r s
    have hstep : handledStore A E s r = out.store := by
      rw [handledStore, hrun]
      rfl
    obtain ⟨logs, hrest, hlen, hlogs⟩ := ih out.store
    refine ⟨new :: logs, ?_, congrArg Nat.succ hlen, List.forall_mem_cons.mpr ⟨htidy, hlogs⟩⟩
    rw [runTrace_cons, hstep, hrest, hlog, List.flatten_cons, List.append_assoc]

end StorageCleanup
