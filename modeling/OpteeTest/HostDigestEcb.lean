import OpteeTest.ClientApi
import OpteeTest.Sha2Commands
import OpteeTest.AesEcbCommands

/-! # The output length that the host reports for the digest and ECB commands

The host wrappers hand back the size of the output memref. No handler of these commands sets
it, so it is the capacity that the caller passed. -/
namespace HostDigestEcb

open ByteMemory TeeApi ClientApi AesImpl Sha2Impl Sha2Commands AesEcbCommands

variable {A : Arch}

def taCryptCmdSha256 : UInt32 := 2

def taCryptCmdAes256ecbEnc : UInt32 := 3

def taCryptCmdAes256ecbDec : UInt32 := 4

/-- The commands of the crypt TA that the three wrappers send. The state counts the bytes the
TA produces in the output memref. -/
def cryptTa (below : Memory UInt8) (rk : Memory (U32 A)) (command types : UInt32)
    (params : TeeParams) : StateT ℕ Option (TeeResult × TeeParams) := fun n =>
  if command = taCryptCmdSha256 then
    let o := taEntrySha256 below types params
    let digest := (sha256 (pointer below (params 0).memref.buffer) (params 0).memref.size).1
    some ((o.res, o.params), if o.res = teeSuccess then n + digest.length else n)
  else if command = taCryptCmdAes256ecbEnc then
    (taEntryAes256ecbEncrypt rk types params).map fun o =>
      ((o.res, o.params), n + (o.writes.map Access.len).sum)
  else if command = taCryptCmdAes256ecbDec then
    (taEntryAes256ecbDecrypt rk types params).map fun o =>
      ((o.res, o.params), n + (o.writes.map Access.len).sum)
  else some ((teeErrorBadParameters, params), n)

structure HostRun where
  res : TeeResult
  dst : Memory UInt8
  dstLen : ℕ
  produced : ℕ

def tmprefOperation (src : Memory UInt8) (srcLen : ℕ) (dst : Memory UInt8) (dstLen : ℕ) :
    TeecOperation where
  paramTypes := teeParamTypes .memrefInput .memrefOutput .none .none
  params := ![tmprefParameter src srcLen, tmprefParameter dst dstLen, zeroParameter, zeroParameter]

def taCryptCmdTmpref (S : Session (StateT ℕ Option)) (command : UInt32) (src : Memory UInt8)
    (srcLen : ℕ) (dst : Memory UInt8) (dstLen : ℕ) : Option HostRun :=
  (S command (tmprefOperation src srcLen dst dstLen) 0).map fun ((res, op), produced) =>
    ⟨res, (op.params 1).tmpref.buffer,
      if res = teeSuccess then (op.params 1).tmpref.size else dstLen, produced⟩

def taCryptCmdSha256Host (S : Session (StateT ℕ Option)) (src : Memory UInt8) (srcLen : ℕ)
    (dst : Memory UInt8) (dstLen : ℕ) : Option HostRun :=
  taCryptCmdTmpref S taCryptCmdSha256 src srcLen dst dstLen

def taCryptCmdAes256ecbEncHost (S : Session (StateT ℕ Option)) (src : Memory UInt8) (srcLen : ℕ)
    (dst : Memory UInt8) (dstLen : ℕ) : Option HostRun :=
  taCryptCmdTmpref S taCryptCmdAes256ecbEnc src srcLen dst dstLen

def taCryptCmdAes256ecbDecHost (S : Session (StateT ℕ Option)) (src : Memory UInt8) (srcLen : ℕ)
    (dst : Memory UInt8) (dstLen : ℕ) : Option HostRun :=
  taCryptCmdTmpref S taCryptCmdAes256ecbDec src srcLen dst dstLen

/-- On success the reported length is the number of bytes produced, which is `expected`. -/
def LengthReported (expected : ℕ) (run : HostRun) : Prop :=
  run.res = teeSuccess → run.dstLen = run.produced ∧ run.produced = expected

variable {below src dst : Memory UInt8} {rk : Memory (U32 A)} {srcLen dstLen : ℕ}
variable {S : Session (StateT ℕ Option)}

def tmprefTypes : UInt32 := teeParamTypes .memrefInput .memrefOutput .none .none

theorem type_input : paramTypeGet tmprefTypes 0 = ParamType.code .memrefInput := by decide

theorem type_output : paramTypeGet tmprefTypes 1 = ParamType.code .memrefOutput := by decide

theorem type_unused : ¬ IsMemref (paramTypeGet tmprefTypes 2) ∧
    ¬ IsMemref (paramTypeGet tmprefTypes 3) := by decide

theorem memref_input : IsMemref (paramTypeGet tmprefTypes 0) := Or.inl type_input

theorem memref_output : IsMemref (paramTypeGet tmprefTypes 1) := Or.inr (Or.inl type_output)

theorem transportable_iff : Transportable (tmprefOperation src srcLen dst dstLen) ↔
    srcLen < 2 ^ 32 ∧ dstLen < 2 ^ 32 := by
  constructor
  · intro h
    exact ⟨h 0 memref_input, h 1 memref_output⟩
  · rintro ⟨hs, hd⟩ i hi
    match i with
    | 0 => exact hs
    | 1 => exact hd
    | 2 => exact absurd hi type_unused.1
    | 3 => exact absurd hi type_unused.2

def delivered (src : Memory UInt8) (srcLen : ℕ) (dst : Memory UInt8) (dstLen : ℕ) : TeeParams :=
  deliver (tmprefOperation src srcLen dst dstLen)

theorem delivered_input : (delivered src srcLen dst dstLen 0).memref =
    ⟨src, UInt32.ofNat srcLen⟩ := if_pos memref_input

theorem delivered_output : (delivered src srcLen dst dstLen 1).memref =
    ⟨dst, UInt32.ofNat dstLen⟩ := if_pos memref_output

theorem collected_output (params : TeeParams) :
    ((collect (tmprefOperation src srcLen dst dstLen) params).params 1).tmpref =
      copyBack ⟨dst, dstLen⟩ (params 1).memref :=
  if_pos (Or.inl type_output)

/-- What a wrapper returns when the TA leaves the output size as it was. -/
theorem accepted_run (hS : Connects S (cryptTa below rk)) (command : UInt32)
    (hs : srcLen < 2 ^ 32) (hd : dstLen < 2 ^ 32) {res : TeeResult} {params : TeeParams}
    {produced : ℕ}
    (hta : cryptTa below rk command tmprefTypes (delivered src srcLen dst dstLen) 0 =
      some ((res, params), produced))
    (hsize : (params 1).memref.size = UInt32.ofNat dstLen) :
    ∃ run, taCryptCmdTmpref S command src srcLen dst dstLen = some run ∧ run.res = res ∧
      run.dstLen = dstLen ∧ run.produced = produced := by
  have hinvoke : S command (tmprefOperation src srcLen dst dstLen) 0 =
      some ((res, collect (tmprefOperation src srcLen dst dstLen) params), produced) := by
    rw [hS command _ (transportable_iff.mpr ⟨hs, hd⟩), carried]
    exact congrArg (fun o => Option.bind o _) hta
  refine ⟨_, by rw [taCryptCmdTmpref, hinvoke, Option.map_some], rfl, ?_, rfl⟩
  show (if res = teeSuccess then _ else dstLen) = dstLen
  rw [collected_output, copyBack, hsize, UInt32.toNat_ofNat_of_lt' hd, ite_self]

theorem final_length (blockSize : UInt32) (words : List (Fin 8)) (run : ShaRun) :
    (shaFinal blockSize words run).1.length = 4 * words.length := by
  induction words with
  | nil => rfl
  | cons w words ih =>
    change (unpack32 _ ++ (shaFinal blockSize words run).1).length = _
    rw [List.length_append, ih, List.length_cons]
    change 4 + 4 * words.length = _
    omega

theorem sha256_length (message : ℤ → UInt8) (len : UInt32) :
    (sha256 message len).1.length = 32 := final_length _ (List.finRange 8) _

theorem cryptTa_sha256 (below : Memory UInt8) (rk : Memory (U32 A)) (params : TeeParams) :
    cryptTa below rk taCryptCmdSha256 tmprefTypes params 0 =
      some (((taEntrySha256 below tmprefTypes params).res,
        (taEntrySha256 below tmprefTypes params).params),
        if (taEntrySha256 below tmprefTypes params).res = teeSuccess then 32 else 0) := by
  rw [cryptTa, if_pos rfl]
  simp only [sha256_length, Nat.zero_add]

theorem digest_short (params : TeeParams) (h : (params 1).memref.size < sha256DigestSize) :
    taEntrySha256 below tmprefTypes params =
      ⟨teeErrorBadParameters, params, ⟨[], [], []⟩⟩ := by
  rw [taEntrySha256, taEntryDigest, if_neg (fun hne => hne rfl), if_pos h]

theorem digest_room (below : Memory UInt8) (params : TeeParams)
    (h : ¬ (params 1).memref.size < sha256DigestSize) :
    (taEntrySha256 below tmprefTypes params).res = teeSuccess ∧
      ((taEntrySha256 below tmprefTypes params).params 1).memref.size =
        (params 1).memref.size := by
  rw [taEntrySha256, taEntryDigest, if_neg (fun hne => hne rfl), if_neg h]
  exact ⟨rfl, rfl⟩

theorem short_iff (hd : dstLen < 2 ^ 32) :
    (delivered src srcLen dst dstLen 1).memref.size < sha256DigestSize ↔ dstLen < 32 := by
  rw [delivered_output, UInt32.lt_iff_toNat_lt, UInt32.toNat_ofNat_of_lt' hd]
  rfl

/-- The caller of the digest command learns the number of bytes produced exactly when there is no
room for more of them. -/
theorem sha256_reported (hS : Connects S (cryptTa below rk)) (src dst : Memory UInt8)
    (hs : srcLen < 2 ^ 32) (hd : dstLen < 2 ^ 32) :
    ∃ run, taCryptCmdSha256Host S src srcLen dst dstLen = some run ∧
      (LengthReported 32 run ↔ dstLen ≤ 32) := by
  have hta := cryptTa_sha256 below rk (delivered src srcLen dst dstLen)
  by_cases hroom : (delivered src srcLen dst dstLen 1).memref.size < sha256DigestSize
  · have herr : ¬ teeErrorBadParameters = teeSuccess := by decide
    rw [digest_short _ hroom] at hta
    obtain ⟨run, hrun, hres, -, -⟩ := accepted_run hS taCryptCmdSha256 hs hd hta
      (congrArg TeeMemref.size delivered_output)
    refine ⟨run, hrun, iff_of_true (fun hsuccess => ?_) ?_⟩
    · exact absurd (hres.symm.trans hsuccess) herr
    · exact le_of_lt ((short_iff hd).mp hroom)
  · obtain ⟨hsuccess, hsize⟩ := digest_room below _ hroom
    rw [hsuccess, if_pos rfl] at hta
    obtain ⟨run, hrun, hres, hlen, hproduced⟩ := accepted_run hS taCryptCmdSha256 hs hd hta
      (hsize.trans (congrArg TeeMemref.size delivered_output))
    have hge : ¬ dstLen < 32 := fun h => hroom ((short_iff hd).mpr h)
    refine ⟨run, hrun, ?_⟩
    rw [LengthReported, hres, hlen, hproduced]
    simp only [true_implies, and_true]
    omega

theorem produced_bytes (n : ℕ) : ((blockAccesses n).map Access.len).sum = 16 * n := by
  induction n with
  | zero => rfl
  | succ n ih =>
    have hsucc : blockAccesses (n + 1) = blockAccesses n ++ [⟨n * 16, 16⟩] := by
      simp [blockAccesses, List.range_succ]
    rw [hsucc, List.map_append, List.sum_append, ih]
    simp
    omega

variable {setup : Memory (U32 A) → Memory UInt8 → ℤ → ℕ × Memory (U32 A)}
variable {cryptWith : Memory (U32 A) → ℕ → Memory UInt8 → Option (List UInt8)}
variable {f : List UInt8 → List UInt8}

theorem ecb_reported (hS : Connects S (cryptTa below rk)) (command : UInt32)
    (hblock : Blockwise setup cryptWith f)
    (hcommand : ∀ params, cryptTa below rk command tmprefTypes params 0 =
      (taEntryAes256ecb setup cryptWith rk tmprefTypes params).map fun o =>
        ((o.res, o.params), 0 + (o.writes.map Access.len).sum))
    (hs : srcLen < 2 ^ 32) (hd : dstLen < 2 ^ 32) :
    ∃ run, taCryptCmdTmpref S command src srcLen dst dstLen = some run ∧
      (LengthReported srcLen run ↔ dstLen = srcLen ∧ srcLen % 16 = 0) := by
  have hta := (hcommand (delivered src srcLen dst dstLen)).trans
    (congrArg _ (hblock.accepted rk (delivered src srcLen dst dstLen)))
  obtain ⟨run, hrun, hres, hlen, hproduced⟩ := accepted_run hS command hs hd hta
    (congrArg TeeMemref.size delivered_output)
  refine ⟨run, hrun, ?_⟩
  rw [produced_bytes, delivered_input, UInt32.toNat_ofNat_of_lt' hs] at hproduced
  rw [LengthReported, hres, hlen, hproduced]
  simp only [true_implies]
  omega

theorem ecbEnc_reported (hS : Connects S (cryptTa below rk)) (src dst : Memory UInt8)
    (hs : srcLen < 2 ^ 32) (hd : dstLen < 2 ^ 32) :
    ∃ run, taCryptCmdAes256ecbEncHost S src srcLen dst dstLen = some run ∧
      (LengthReported srcLen run ↔ dstLen = srcLen ∧ srcLen % 16 = 0) :=
  ecb_reported hS taCryptCmdAes256ecbEnc encrypt_blockwise (fun params => by
    rw [cryptTa, if_neg (by decide), if_pos rfl, taEntryAes256ecbEncrypt]) hs hd

theorem ecbDec_reported (hS : Connects S (cryptTa below rk)) (src dst : Memory UInt8)
    (hs : srcLen < 2 ^ 32) (hd : dstLen < 2 ^ 32) :
    ∃ run, taCryptCmdAes256ecbDecHost S src srcLen dst dstLen = some run ∧
      (LengthReported srcLen run ↔ dstLen = srcLen ∧ srcLen % 16 = 0) :=
  ecb_reported hS taCryptCmdAes256ecbDec decrypt_blockwise (fun params => by
    rw [cryptTa, if_neg (by decide), if_neg (by decide), if_pos rfl, taEntryAes256ecbDecrypt]) hs hd

/-- The reported lengths are right exactly for outputs of the size produced. -/
theorem reported_lengths_iff (hS : Connects S (cryptTa below rk)) (src dst : Memory UInt8)
    (hs : srcLen < 2 ^ 32) (hd : dstLen < 2 ^ 32) :
    (∃ run, taCryptCmdSha256Host S src srcLen dst dstLen = some run ∧
      (LengthReported 32 run ↔ dstLen ≤ 32)) ∧
    (∃ run, taCryptCmdAes256ecbEncHost S src srcLen dst dstLen = some run ∧
      (LengthReported srcLen run ↔ dstLen = srcLen ∧ srcLen % 16 = 0)) ∧
    (∃ run, taCryptCmdAes256ecbDecHost S src srcLen dst dstLen = some run ∧
      (LengthReported srcLen run ↔ dstLen = srcLen ∧ srcLen % 16 = 0)) :=
  ⟨sha256_reported hS src dst hs hd, ecbEnc_reported hS src dst hs hd,
    ecbDec_reported hS src dst hs hd⟩

def plainTa : UInt32 → UInt32 → TeeParams → StateT ℕ Option (TeeResult × TeeParams) :=
  cryptTa (A := .arm32) (fun _ => 0) (fun _ => 0)

theorem reported_lengths_plain :
    (∃ run, taCryptCmdSha256Host (carried plainTa) (fun _ => 1) 48 (fun _ => 0) 48 = some run ∧
      ¬ LengthReported 32 run) ∧
    (∃ run, taCryptCmdAes256ecbEncHost (carried plainTa) (fun _ => 1) 48 (fun _ => 0) 48 =
      some run ∧ LengthReported 48 run) := by
  obtain ⟨⟨run₁, hrun₁, h₁⟩, ⟨run₂, hrun₂, h₂⟩, -⟩ := reported_lengths_iff
    (connects_carried plainTa) (fun _ => 1) (fun _ => 0) (show 48 < 2 ^ 32 by decide)
    (show 48 < 2 ^ 32 by decide)
  exact ⟨⟨run₁, hrun₁, fun h => absurd (h₁.mp h) (by decide)⟩, run₂, hrun₂,
    h₂.mpr ⟨rfl, by decide⟩⟩

/-- A buffer of 64 bytes for a digest of 32, and for the cipher text of one block. -/
theorem capacity_reported :
    (∃ run, taCryptCmdSha256Host (carried plainTa) (fun _ => 0) 0 (fun _ => 0) 64 = some run ∧
      ¬ LengthReported 32 run) ∧
    (∃ run, taCryptCmdAes256ecbEncHost (carried plainTa) (fun _ => 0) 16 (fun _ => 0) 64 =
      some run ∧ ¬ LengthReported 16 run) := by
  obtain ⟨run₁, hrun₁, h₁⟩ := sha256_reported (connects_carried plainTa) (fun _ => 0) (fun _ => 0)
    (show 0 < 2 ^ 32 by decide) (show 64 < 2 ^ 32 by decide)
  obtain ⟨run₂, hrun₂, h₂⟩ := ecbEnc_reported (connects_carried plainTa) (fun _ => 0)
    (fun _ => 0) (show 16 < 2 ^ 32 by decide) (show 64 < 2 ^ 32 by decide)
  refine ⟨⟨run₁, hrun₁, fun h => ?_⟩, run₂, hrun₂, fun h => ?_⟩
  · exact absurd (h₁.mp h) (by decide)
  · exact absurd (h₂.mp h).1 (by decide)

end HostDigestEcb
