import OpteeTest.CertSigning
import OpteeTest.OwnedBlocks

/-! # How `write_cert` finds the size of a certificate

The library tells that a buffer is too small, but not which size it needs. The trial buffers double
until one is large enough, and neither the heap nor the library has to be kind to them. -/
namespace CertProbing

open ByteMemory (copyIn copyIn_nil)
open BlockHeap TeeApi OwnedBlocks
open MbedtlsTaf (errBase64BufferTooSmall Mbedtls Work)
open CertSigning (cString)

/-- The calls of `mbedtls_x509write_crt_pem`, by their number and the size they are given. The text
is written when it fits with its terminator, unless something else goes wrong; what is written then
is not known. -/
structure PemWriter where
  pem : List UInt8
  ret : ℕ → ℕ → ℤ
  scraps : ℕ → ℕ → List UInt8
  text : 0 ∉ pem
  bounded : pem.length + 1 ≤ 2 ^ 31
  fits : ∀ n size, ret n size = 0 → pem.length + 1 ≤ size
  small : ∀ n size, ret n size = errBase64BufferTooSmall → size < pem.length + 1

def PemWriter.size (W : PemWriter) : ℕ := W.pem.length + 1

def PemWriter.output (W : PemWriter) (n size : ℕ) : List UInt8 :=
  if W.ret n size = 0 then W.pem ++ [0] else W.scraps n size

/-- The heap, how often the library was called, and how often the allocator. -/
structure Probing where
  memory : Ledger (List UInt8)
  calls : ℕ
  requests : ℕ

def initial (heap₀ : Heap (List UInt8)) : Probing := ⟨⟨heap₀, []⟩, 0, 0⟩

section
variable (W : PemWriter) (answer : ℕ → Option ℕ)

/-- `TEE_Malloc` with hint `TEE_MALLOC_FILL_ZERO`; `answer` has an address for each request. -/
def teeMalloc (s : Probing) (size : ℕ) : ℕ × Probing :=
  let out := s.memory.malloc ((answer s.requests).map fun a => (a, List.replicate size (0 : UInt8)))
  (out.1, { s with memory := out.2, requests := s.requests + 1 })

def teeFree (s : Probing) (a : ℕ) : Probing := { s with memory := s.memory.free a }

def x509writeCrtPem (s : Probing) (size : ℕ) : ℤ × List UInt8 × Probing :=
  (W.ret s.calls size, W.output s.calls size, { s with calls := s.calls + 1 })

/-- The first bytes of a block, overwritten. -/
def fill (bytes block : List UInt8) : List UInt8 := bytes ++ block.drop bytes.length

def strlen (s : Probing) (a : ℕ) : ℕ := (cString ((s.memory.heap.lookup a).getD [])).length

/-- The loop at buffer size `bl`; sizes are machine words, and `TEE_Malloc` takes 32 bits. -/
def probe (A : Arch) : ℕ → ℕ → Probing → Option (TeeResult × Option ℕ × Probing)
  | 0, _, _ => none
  | fuel + 1, bl, s =>
    let (b, s) := teeMalloc answer s (bl % 2 ^ 32)
    if b = 0 then some (teeErrorOutOfMemory, none, s)
    else
      let (ret, bytes, s) := x509writeCrtPem W s bl
      let s := { s with memory := s.memory.write b (fill bytes) }
      if ret = 0 then some (teeErrorShortBuffer, some (strlen s b + 1), teeFree s b)
      else
        let s := teeFree s b
        if ret ≠ errBase64BufferTooSmall then some (teeErrorGeneric, none, s)
        else probe A fuel (bl * 2 % A.word) s

structure CertOutcome where
  res : TeeResult
  buf : ByteMemory.Memory UInt8
  blen : ℕ
  state : Probing

/-- `write_cert`; there is no outcome when the loop takes more than `fuel` rounds. -/
def writeCert (A : Arch) (fuel : ℕ) (buf : ByteMemory.Memory UInt8) (blen : ℕ) (s : Probing) :
    Option CertOutcome :=
  let (ret, bytes, s) := x509writeCrtPem W s blen
  let buf := copyIn buf 0 bytes
  if ret = 0 then some ⟨teeSuccess, buf, blen, s⟩
  else if ret ≠ errBase64BufferTooSmall then some ⟨teeErrorGeneric, buf, blen, s⟩
  else (probe W answer A fuel 1024 s).map fun out =>
    ⟨out.1, buf, out.2.1.getD blen, out.2.2⟩

end

variable {W : PemWriter} {answer : ℕ → Option ℕ} {A : Arch} {s : Probing} {a bl : ℕ}

def Granted (heap : Heap (List UInt8)) (address : Option ℕ) : Prop :=
  ∃ a, address = some a ∧ a ≠ 0 ∧ heap.lookup a = none

theorem teeMalloc_granted (ha : answer s.requests = some a) (hne : a ≠ 0)
    (hfree : s.memory.heap.lookup a = none) (size : ℕ) : teeMalloc answer s size =
      (a, ⟨⟨s.memory.heap.insert a (List.replicate size 0), .allocated a :: s.memory.log⟩,
        s.calls, s.requests + 1⟩) := by
  unfold teeMalloc Ledger.malloc Ledger.usable
  rw [ha, Option.map_some, Option.filter_some, if_pos (by simp [hne, hfree])]

theorem teeMalloc_refused (h : ¬ Granted s.memory.heap (answer s.requests)) (size : ℕ) :
    teeMalloc answer s size = (0, { s with requests := s.requests + 1 }) := by
  unfold teeMalloc Ledger.malloc Ledger.usable
  cases ha : answer s.requests with
  | none => rfl
  | some a =>
    have hunusable : ¬ (a ≠ 0 ∧ s.memory.heap.lookup a = none) := fun hn => h ⟨a, ha, hn.1, hn.2⟩
    rw [Option.map_some, Option.filter_some, if_neg (by simpa using hunusable)]

/-- The state after a round with a trial buffer at `a`, which ends up holding `block`. -/
def roundEnd (s : Probing) (a : ℕ) (block : List UInt8) : Probing :=
  ⟨Ledger.free ⟨s.memory.heap.insert a block, .allocated a :: s.memory.log⟩ a, s.calls + 1,
    s.requests + 1⟩

theorem probe_refused (h : ¬ Granted s.memory.heap (answer s.requests)) (fuel bl : ℕ) :
    probe W answer A (fuel + 1) bl s =
      some (teeErrorOutOfMemory, none, { s with requests := s.requests + 1 }) := by
  rw [probe, teeMalloc_refused h]
  rfl

theorem probe_granted (ha : answer s.requests = some a) (hne : a ≠ 0)
    (hfree : s.memory.heap.lookup a = none) (fuel bl : ℕ) :
    let block := fill (W.output s.calls bl) (List.replicate (bl % 2 ^ 32) 0)
    probe W answer A (fuel + 1) bl s =
      if W.ret s.calls bl = 0 then
        some (teeErrorShortBuffer, some ((cString block).length + 1), roundEnd s a block)
      else if W.ret s.calls bl ≠ errBase64BufferTooSmall then
        some (teeErrorGeneric, none, roundEnd s a block)
      else probe W answer A fuel (bl * 2 % A.word) (roundEnd s a block) := by
  dsimp only
  rw [probe, teeMalloc_granted ha hne hfree]
  simp only [if_neg hne, x509writeCrtPem, write_insert, strlen, Finmap.lookup_insert,
    Option.getD_some]
  rfl

theorem cString_fill (h : 0 ∉ W.pem) (block : List UInt8) :
    cString (fill (W.pem ++ [0]) block) = W.pem := by
  unfold cString fill
  rw [List.append_assoc, List.takeWhile_append_of_pos]
  · simp
  · intro b hb
    have hne : b ≠ 0 := fun heq => h (heq ▸ hb)
    simpa using hne

theorem reported_size {n : ℕ} (h : W.ret n bl = 0) (block : List UInt8) :
    (cString (fill (W.output n bl) block)).length + 1 = W.size := by
  rw [PemWriter.output, if_pos h, cString_fill W.text]
  rfl

def trialSize (k : ℕ) : ℕ := 1024 * 2 ^ k

/-- There is a buffer for trial `k`, and the library writes the text or finds it too small. -/
def Trial (W : PemWriter) (answer : ℕ → Option ℕ) (heap₀ : Heap (List UInt8)) (k : ℕ) : Prop :=
  Granted heap₀ (answer k) ∧ (W.ret (k + 1) (trialSize k) = 0 ∨
    W.ret (k + 1) (trialSize k) = errBase64BufferTooSmall)

/-- From trial `k` on all is well, up to the first buffer that is large enough. -/
def Finds (W : PemWriter) (answer : ℕ → Option ℕ) (heap₀ : Heap (List UInt8)) (k : ℕ) : Prop :=
  ∀ i, k ≤ i → (∀ j, k ≤ j → j < i → trialSize j < W.size) → Trial W answer heap₀ i

variable {heap₀ : Heap (List UInt8)} {k : ℕ}

theorem finds_step : Finds W answer heap₀ k ↔
    Trial W answer heap₀ k ∧ (trialSize k < W.size → Finds W answer heap₀ (k + 1)) := by
  constructor
  · intro h
    refine ⟨h k le_rfl fun j hj hlt => by omega, fun hsmall i hi hbefore => ?_⟩
    refine h i (by omega) fun j hj hlt => ?_
    rcases Nat.eq_or_lt_of_le hj with rfl | hj
    · exact hsmall
    · exact hbefore j hj hlt
  · rintro ⟨hk, hnext⟩ i hi hbefore
    rcases Nat.eq_or_lt_of_le hi with rfl | hi
    · exact hk
    · exact hnext (hbefore k le_rfl hi) i hi fun j hj hlt => hbefore j (by omega) hlt

structure AtTrial (heap₀ : Heap (List UInt8)) (k : ℕ) (s : Probing) : Prop where
  returned : Returned heap₀ s.memory
  calls : s.calls = k + 1
  requests : s.requests = k

def Found (W : PemWriter) (answer : ℕ → Option ℕ) (heap₀ : Heap (List UInt8)) (k : ℕ)
    (out : TeeResult × Option ℕ × Probing) : Prop :=
  Returned heap₀ out.2.2.memory ∧
    ((out.1 = teeErrorShortBuffer ∧ out.2.1 = some W.size ∧ Finds W answer heap₀ k) ∨
      ((out.1 = teeErrorOutOfMemory ∨ out.1 = teeErrorGeneric) ∧ out.2.1 = none ∧
        ¬ Finds W answer heap₀ k))

theorem trialSize_double (k : ℕ) : trialSize k * 2 = trialSize (k + 1) := by
  rw [trialSize, trialSize, Nat.pow_succ, Nat.mul_assoc]

/-- The size does not wrap around as long as a larger buffer is needed. -/
theorem trialSize_succ {A : Arch} (h : trialSize k < W.size) :
    trialSize k * 2 % A.word = trialSize (k + 1) := by
  have hword := A.word_ge
  have hsize : W.size ≤ 2 ^ 31 := W.bounded
  have hdouble := trialSize_double k
  rw [Nat.mod_eq_of_lt (by omega), hdouble]

theorem AtTrial.next (h : AtTrial heap₀ k s) (hne : a ≠ 0) (hfree : s.memory.heap.lookup a = none)
    (block : List UInt8) : AtTrial heap₀ (k + 1) (roundEnd s a block) where
  returned := h.returned.scratch hne hfree block
  calls := congrArg (· + 1) h.calls
  requests := congrArg (· + 1) h.requests

theorem round_spec (h : AtTrial heap₀ k s) {rounds : ℕ}
    (hnext : trialSize k < W.size → ∀ t, AtTrial heap₀ (k + 1) t → ∃ out,
      (∀ fuel, rounds ≤ fuel → probe W answer A fuel (trialSize (k + 1)) t = some out) ∧
        Found W answer heap₀ (k + 1) out) :
    ∃ out, (∀ fuel, rounds + 1 ≤ fuel → probe W answer A fuel (trialSize k) s = some out) ∧
      Found W answer heap₀ k out := by
  have hfuel {out : TeeResult × Option ℕ × Probing}
      (hout : ∀ fuel, rounds ≤ fuel → probe W answer A (fuel + 1) (trialSize k) s = some out) :
      ∀ fuel, rounds + 1 ≤ fuel → probe W answer A fuel (trialSize k) s = some out := by
    intro fuel hle
    obtain ⟨n, rfl⟩ : ∃ n, fuel = n + 1 := ⟨fuel - 1, by omega⟩
    exact hout n (by omega)
  have hheap := h.returned.heap
  by_cases hgrant : Granted heap₀ (answer k)
  · obtain ⟨a, ha, hne, hfree⟩ := hgrant
    have hanswer : answer s.requests = some a := by rw [h.requests, ha]
    have hunused : s.memory.heap.lookup a = none := by rw [hheap, hfree]
    have hstep := probe_granted (W := W) (A := A) hanswer hne hunused
    have hafter := h.next hne hunused
    rw [h.calls] at hstep
    by_cases hzero : W.ret (k + 1) (trialSize k) = 0
    · refine ⟨_, hfuel fun fuel _ => (hstep fuel _).trans (if_pos hzero), ?_⟩
      refine ⟨(hafter _).returned, Or.inl ⟨rfl, ?_, ?_⟩⟩
      · rw [reported_size hzero]
      · have hlarge := W.fits _ _ hzero
        refine finds_step.mpr ⟨⟨⟨a, ha, hne, hfree⟩, Or.inl hzero⟩, fun hlt => ?_⟩
        exact absurd hlt (Nat.not_lt.mpr hlarge)
    · by_cases hsmall : W.ret (k + 1) (trialSize k) = errBase64BufferTooSmall
      · have hlt : trialSize k < W.size := W.small _ _ hsmall
        obtain ⟨out, hrun, hreturned, hout⟩ := hnext hlt _ (hafter (fill
          (W.output (k + 1) (trialSize k)) (List.replicate (trialSize k % 2 ^ 32) 0)))
        have hfinds : Finds W answer heap₀ k ↔ Finds W answer heap₀ (k + 1) :=
          finds_step.trans ⟨fun hf => hf.2 hlt,
            fun hf => ⟨⟨⟨a, ha, hne, hfree⟩, Or.inr hsmall⟩, fun _ => hf⟩⟩
        refine ⟨out, hfuel fun fuel hle => ?_, hreturned, by rwa [hfinds]⟩
        rw [hstep, if_neg hzero, if_neg (not_not.mpr hsmall), trialSize_succ hlt]
        exact hrun fuel hle
      · refine ⟨_, hfuel fun fuel _ => (hstep fuel _).trans
          ((if_neg hzero).trans (if_pos hsmall)), ?_⟩
        refine ⟨(hafter _).returned, Or.inr ⟨Or.inr rfl, rfl, fun hf => ?_⟩⟩
        exact (finds_step.mp hf).1.2.elim hzero hsmall
  · have hrefused : ¬ Granted s.memory.heap (answer s.requests) := by rwa [hheap, h.requests]
    refine ⟨_, hfuel fun fuel _ => probe_refused hrefused fuel _, h.returned, Or.inr ?_⟩
    exact ⟨Or.inl rfl, rfl, fun hf => hgrant (finds_step.mp hf).1.1⟩

theorem size_le_trial (W : PemWriter) : W.size ≤ trialSize 21 := W.bounded

theorem probe_spec {rounds : ℕ} (hk : k + rounds = 21) (h : AtTrial heap₀ k s) :
    ∃ out, (∀ fuel, rounds + 1 ≤ fuel → probe W answer A fuel (trialSize k) s = some out) ∧
      Found W answer heap₀ k out := by
  induction rounds generalizing k s with
  | zero =>
    obtain rfl : k = 21 := hk
    exact round_spec h fun hlt => absurd (size_le_trial W) (Nat.not_le.mpr hlt)
  | succ rounds ih => exact round_spec h fun _ t ht => ih (by omega) ht

def TrialsSucceed (W : PemWriter) (answer : ℕ → Option ℕ) (heap₀ : Heap (List UInt8)) : Prop :=
  ∀ k, (∀ j < k, trialSize j < W.size) → Trial W answer heap₀ k

theorem finds_zero : Finds W answer heap₀ 0 ↔ TrialsSucceed W answer heap₀ := by
  constructor
  · exact fun h k hk => h k (Nat.zero_le k) fun j _ hlt => hk j hlt
  · exact fun h k _ hk => h k fun j hlt => hk j (Nat.zero_le j) hlt

structure WritesExactly (W : PemWriter) (answer : ℕ → Option ℕ) (heap₀ : Heap (List UInt8))
    (blen : ℕ) (out : CertOutcome) : Prop where
  success : out.res = teeSuccess ↔ W.ret 0 blen = 0
  short : out.res = teeErrorShortBuffer ↔
    W.ret 0 blen = errBase64BufferTooSmall ∧ TrialsSucceed W answer heap₀
  reported : out.res = teeErrorShortBuffer → out.blen = W.size
  failed : out.res ≠ teeSuccess → out.res ≠ teeErrorShortBuffer →
    (out.res = teeErrorOutOfMemory ∨ out.res = teeErrorGeneric) ∧ out.blen = blen
  returned : Returned heap₀ out.state.memory

theorem initial_atTrial (heap₀ : Heap (List UInt8)) :
    AtTrial heap₀ 0 { initial heap₀ with calls := 1 } :=
  ⟨⟨rfl, rfl, trivial⟩, rfl, rfl⟩

theorem error_ne {res : TeeResult} (h : res = teeErrorOutOfMemory ∨ res = teeErrorGeneric) :
    res ≠ teeSuccess ∧ res ≠ teeErrorShortBuffer := by
  rcases h with rfl | rfl
  · exact ⟨by decide, by decide⟩
  · exact ⟨by decide, by decide⟩

/-- It ends whatever the library and the heap do, and tells the size if it can be known. -/
theorem write_cert_exact (W : PemWriter) (answer : ℕ → Option ℕ) (A : Arch)
    (heap₀ : Heap (List UInt8)) (buf : ByteMemory.Memory UInt8) (blen : ℕ) :
    ∃ out, (∀ fuel, 22 ≤ fuel →
        writeCert W answer A fuel buf blen (initial heap₀) = some out) ∧
      WritesExactly W answer heap₀ blen out := by
  have hsmall_ne : errBase64BufferTooSmall ≠ 0 := by decide
  have hshort_ne : teeSuccess ≠ teeErrorShortBuffer := by decide
  by_cases hzero : W.ret 0 blen = 0
  · refine ⟨_, fun fuel _ => if_pos hzero, ?_⟩
    refine ⟨iff_of_true rfl hzero, ?_, fun h => absurd h hshort_ne, fun h => absurd rfl h,
      ⟨rfl, rfl, trivial⟩⟩
    exact iff_of_false hshort_ne fun h => hsmall_ne (h.1.symm.trans hzero)
  · by_cases hsmall : W.ret 0 blen = errBase64BufferTooSmall
    · obtain ⟨out, hrun, hreturned, hout⟩ : ∃ out, (∀ fuel, 21 + 1 ≤ fuel →
          probe W answer A fuel (trialSize 0) { initial heap₀ with calls := 1 } = some out) ∧
            Found W answer heap₀ 0 out :=
        probe_spec rfl (initial_atTrial heap₀)
      refine ⟨_, fun fuel hle => ((if_neg hzero).trans (if_neg (not_not.mpr hsmall))).trans
        (congrArg (Option.map _) (hrun fuel hle)), ?_⟩
      rw [finds_zero] at hout
      rcases hout with ⟨hres, hsize, hfinds⟩ | ⟨hres, hsize, hfinds⟩
      · refine ⟨iff_of_false ?_ hzero, iff_of_true hres ⟨hsmall, hfinds⟩, fun _ => ?_,
          fun _ h => absurd hres h, hreturned⟩
        · exact fun h => hshort_ne (h.symm.trans hres)
        · exact congrArg (Option.getD · blen) hsize
      · obtain ⟨hne, hshort⟩ := error_ne hres
        refine ⟨iff_of_false hne hzero, iff_of_false hshort fun h => hfinds h.2,
          fun h => absurd h hshort, fun _ _ => ⟨hres, ?_⟩, hreturned⟩
        exact congrArg (Option.getD · blen) hsize
    · refine ⟨_, fun fuel _ => (if_neg hzero).trans (if_pos hsmall), ?_⟩
      have hgeneric := error_ne (Or.inr (Eq.refl teeErrorGeneric))
      exact ⟨iff_of_false hgeneric.1 hzero, iff_of_false hgeneric.2 fun h => hsmall h.1,
        fun h => absurd h hgeneric.2, fun _ _ => ⟨Or.inr rfl, rfl⟩, ⟨rfl, rfl, trivial⟩⟩

def plainWriter : PemWriter where
  pem := List.replicate 1500 0x41
  ret := fun _ size => if 1501 ≤ size then 0 else errBase64BufferTooSmall
  scraps := fun _ _ => []
  text := fun h => absurd (List.eq_of_mem_replicate h) (by decide)
  bounded := by rw [List.length_replicate]; decide
  fits := by
    intro _ size h
    rw [List.length_replicate]
    by_contra hlt
    rw [if_neg hlt] at h
    exact absurd h (by decide)
  small := by
    intro _ size h
    rw [List.length_replicate]
    by_contra hle
    rw [if_pos (Nat.not_lt.mp hle)] at h
    exact absurd h (by decide)

example : (writeCert plainWriter (fun _ => some 4096) .arm64 22 (fun _ => 0) 10 (initial ∅)).map
    (fun out => (out.res, out.blen, out.state.requests)) =
      some (teeErrorShortBuffer, 1501, 2) := by decide +kernel

section
variable {E : Mbedtls} {log : List Work}

/-- The work of a call of the library with a buffer of `size` bytes that is too small. -/
def tooSmall (size : ℕ) : Work := .returned (.x509writeCrtPem size) errBase64BufferTooSmall

def trialLog (log : List Work) : ℕ → List Work
  | 0 => log
  | k + 1 => trialLog log k ++
      [.allocated (trialSize k) true, tooSmall (trialSize k), .released]

/-- The library of the command, from a call of `write_cert` with `blen` bytes on. -/
def pemWriter (E : Mbedtls) (hE : E.pem.length + 1 ≤ 2 ^ 31) (log : List Work) (blen : ℕ) :
    PemWriter where
  pem := E.pem
  ret := fun n size => match n with
    | 0 => E.ret log (.x509writeCrtPem size)
    | k + 1 => E.ret (trialLog (log ++ [tooSmall blen]) k ++ [.allocated size true])
        (.x509writeCrtPem size)
  scraps := fun _ _ => []
  text := E.pem_text
  bounded := hE
  fits := by
    rintro (_ | k) size h
    · exact E.pem_fits _ size h
    · exact E.pem_fits _ size h
  small := by
    rintro (_ | k) size h
    · exact Nat.lt_succ_of_le (E.pem_small _ size h)
    · exact Nat.lt_succ_of_le (E.pem_small _ size h)

/-- The heap of the command, which has the block at `a` for every request that it grants. -/
def answers (E : Mbedtls) (log : List Work) (a : ℕ) (k : ℕ) : Option ℕ :=
  if E.grants (trialLog log k) (trialSize k) then some a else none

theorem trialSize_pos (k : ℕ) : 0 < trialSize k := Nat.mul_pos (by decide) (Nat.two_pow_pos k)

theorem findSize_refines {hE : E.pem.length + 1 ≤ 2 ^ 31} {blen : ℕ} (hne : a ≠ 0)
    (hfree : heap₀.lookup a = none) (fuel : ℕ) (h : AtTrial heap₀ k s)
    {out : TeeResult × Option ℕ × Probing}
    (hrun : probe (pemWriter E hE log blen) (answers E (log ++ [tooSmall blen]) a) A fuel
      (trialSize k) s = some out) :
    (CertSigning.findSize E (trialSize k) (trialSize_pos k)
      (trialLog (log ++ [tooSmall blen]) k)).1 = .ok (out.1, out.2.1) := by
  induction fuel generalizing k s with
  | zero => cases hrun
  | succ fuel ih =>
    rw [CertSigning.findSize]
    have hunused : s.memory.heap.lookup a = none := by rw [h.returned.heap, hfree]
    by_cases hgrant : E.grants (trialLog (log ++ [tooSmall blen]) k) (trialSize k)
    · have hanswer : answers E (log ++ [tooSmall blen]) a s.requests = some a := by
        rw [h.requests, answers, if_pos hgrant]
      rw [probe_granted hanswer hne hunused, h.calls] at hrun
      rw [dif_pos hgrant]
      have hret : E.ret (trialLog (log ++ [tooSmall blen]) k ++ [.allocated (trialSize k) true])
          (.x509writeCrtPem (trialSize k)) =
            (pemWriter E hE log blen).ret (k + 1) (trialSize k) := rfl
      simp only [hret]
      by_cases hzero : (pemWriter E hE log blen).ret (k + 1) (trialSize k) = 0
      · rw [if_pos hzero, reported_size hzero] at hrun
        cases hrun
        rw [if_pos hzero, CertSigning.cString_terminated E.pem_text]
        rfl
      rw [if_neg hzero] at hrun ⊢
      by_cases hsmall : (pemWriter E hE log blen).ret (k + 1) (trialSize k) =
          errBase64BufferTooSmall
      · have hlt := (pemWriter E hE log blen).small _ _ hsmall
        rw [if_neg (not_not.mpr hsmall), trialSize_succ hlt] at hrun
        rw [if_neg (not_not.mpr hsmall)]
        have hnext := ih (h.next hne hunused _) hrun
        simp only [hsmall, trialSize_double]
        exact hnext
      · rw [if_pos hsmall] at hrun
        cases hrun
        rw [if_pos hsmall]
    · have hrefused : ¬ Granted s.memory.heap
          (answers E (log ++ [tooSmall blen]) a s.requests) := by
        rintro ⟨b, hb, -⟩
        rw [h.requests, answers, if_neg hgrant] at hb
        cases hb
      rw [probe_refused hrefused] at hrun
      cases hrun
      rw [dif_neg hgrant]

/-- What the command returns and reports is what the heap of blocks leads to. -/
theorem write_cert_refines (E : Mbedtls) (hE : E.pem.length + 1 ≤ 2 ^ 31) (log : List Work)
    (memref : TeeMemref) (A : Arch) (hne : a ≠ 0) (hfree : heap₀.lookup a = none) {fuel : ℕ}
    {out : CertOutcome}
    (hrun : writeCert (pemWriter E hE log memref.size.toNat)
      (answers E (log ++ [tooSmall memref.size.toNat]) a) A fuel memref.buffer memref.size.toNat
      (initial heap₀) = some out) :
    (CertSigning.writeCert E memref log).1 = .ok (out.res, ⟨out.buf, UInt32.ofNat out.blen⟩) := by
  set W := pemWriter E hE log memref.size.toNat
  have hret : E.ret log (.x509writeCrtPem memref.size.toNat) = W.ret 0 memref.size.toNat := rfl
  rw [CertSigning.writeCert, MbedtlsTaf.call_bind, hret]
  rw [writeCert] at hrun
  dsimp only [x509writeCrtPem, initial] at hrun
  by_cases hzero : W.ret 0 memref.size.toNat = 0
  · rw [if_pos hzero, PemWriter.output, if_pos hzero] at hrun
    cases hrun
    rw [if_pos hzero, UInt32.ofNat_toNat]
    rfl
  have hnothing : W.output 0 memref.size.toNat = [] := if_neg hzero
  rw [if_neg hzero, hnothing, copyIn_nil] at hrun
  rw [if_neg hzero]
  by_cases hsmall : W.ret 0 memref.size.toNat = errBase64BufferTooSmall
  · rw [if_neg (not_not.mpr hsmall)] at hrun ⊢
    obtain ⟨⟨res, size, last⟩, hfound, rfl⟩ := Option.map_eq_some_iff.mp hrun
    have hsize := findSize_refines hne hfree fuel (initial_atTrial heap₀) hfound
    have hlog : log ++ [.returned (.x509writeCrtPem memref.size.toNat) errBase64BufferTooSmall] =
        log ++ [tooSmall memref.size.toNat] := rfl
    rw [hsmall, hlog]
    generalize hpost : CertSigning.findSize E 1024 (by decide)
      (log ++ [tooSmall memref.size.toNat]) = post
    have hpair : post = (.ok (res, size), post.2) := Prod.ext (hpost ▸ hsize) rfl
    rw [FallibleRun.bind_ok (hpost.trans hpair)]
    cases size with
    | none =>
      simp only [Option.getD_none, Option.map_none, UInt32.ofNat_toNat]
      rfl
    | some n => rfl
  · rw [if_pos hsmall] at hrun ⊢
    cases hrun
    simp only [UInt32.ofNat_toNat]
    rfl

end

end CertProbing
