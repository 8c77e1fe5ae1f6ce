import OpteeTest.AesCipher
import OpteeTest.GuardedRun
import Mathlib.Data.Fin.VecNotation
import Mathlib.Logic.Function.Basic

/-! # The AES-256-ECB commands of the crypt TA

Both commands write their schedule to one global array. The size checks shift by eight where
eight bits a byte ask for three, so they accept every size. -/
namespace AesEcbCommands

open ByteMemory TeeApi AesSpec AesImpl AesKeySchedule AesCipher

variable {A : Arch}

def aesBlockSize : UInt32 := 128

def blockBytes : ℕ := 128 / 8

def nrounds (keybits : ℕ) : ℕ := keybits / 32 + 6

def key : Memory UInt8 := fun i => [0x00, 0x01, 0x02, 0x03, 0x04, 0x05, 0x06, 0x07, 0x08, 0x09,
  0x0a, 0x0b, 0x0c, 0x0d, 0x0e, 0x0f, 0x10, 0x11, 0x12, 0x13, 0x14, 0x15, 0x16, 0x17, 0x18, 0x19,
  0x1a, 0x1b, 0x1c, 0x1d, 0x1e, 0x1f].getD i 0

/-- The output buffer and the accesses made so far, relative to the two memrefs. -/
structure EcbRun where
  output : Memory UInt8
  reads : List Access
  writes : List Access

def ecbBlock (crypt : Memory UInt8 → Option (List UInt8)) (input : Memory UInt8) (run : EcbRun)
    (i : ℕ) : Option EcbRun :=
  (crypt fun j => input (i * blockBytes + j)).map fun block =>
    { output := copyIn run.output (i * blockBytes) block
      reads := run.reads ++ [⟨i * blockBytes, 16⟩]
      writes := run.writes ++ [⟨i * blockBytes, block.length⟩] }

def ecbLoop (crypt : Memory UInt8 → Option (List UInt8)) (input : Memory UInt8) (n : ℕ)
    (run : EcbRun) : Option EcbRun :=
  (List.range n).foldlM (ecbBlock crypt input) run

structure EcbOutcome (A : Arch) where
  res : TeeResult
  params : TeeParams
  rk : Memory (U32 A)
  reads : List Access
  writes : List Access

def ecbParamTypes : UInt32 := teeParamTypes .memrefInput .memrefOutput .none .none

def taEntryAes256ecb (setup : Memory (U32 A) → Memory UInt8 → ℤ → ℕ × Memory (U32 A))
    (crypt : Memory (U32 A) → ℕ → Memory UInt8 → Option (List UInt8)) (rk : Memory (U32 A))
    (paramTypes : UInt32) (params : TeeParams) : Option (EcbOutcome A) :=
  if paramTypes ≠ teeParamTypes .memrefInput .memrefOutput .none .none then
    some ⟨teeErrorBadParameters, params, rk, [], []⟩
  else if ((params 0).memref.size <<< 8) % aesBlockSize ≠ 0 then
    some ⟨teeErrorBadParameters, params, rk, [], []⟩
  else if ((params 1).memref.size <<< 8) % aesBlockSize ≠ 0 then
    some ⟨teeErrorBadParameters, params, rk, [], []⟩
  else
    let rk := (setup rk key 256).2
    let nInputBlocks := (params 0).memref.size.toNat / blockBytes
    (ecbLoop (crypt rk (nrounds 256)) (params 0).memref.buffer nInputBlocks
      ⟨(params 1).memref.buffer, [], []⟩).map fun run =>
        let memref := { (params 1).memref with buffer := run.output }
        ⟨teeSuccess, Function.update params 1 { params 1 with memref := memref }, rk, run.reads,
          run.writes⟩

def taEntryAes256ecbEncrypt (rk : Memory (U32 A)) (paramTypes : UInt32) (params : TeeParams) :
    Option (EcbOutcome A) :=
  taEntryAes256ecb rijndaelSetupEncrypt rijndaelEncrypt rk paramTypes params

def taEntryAes256ecbDecrypt (rk : Memory (U32 A)) (paramTypes : UInt32) (params : TeeParams) :
    Option (EcbOutcome A) :=
  taEntryAes256ecb rijndaelSetupDecrypt rijndaelDecrypt rk paramTypes params

/-- The size checks never fail: a size shifted by eight is a multiple of 128. -/
theorem shifted_size_mod (size : UInt32) : (size <<< 8) % aesBlockSize = 0 := by
  apply UInt32.toNat_inj.mp
  have hshift : (size <<< 8).toNat = size.toNat * 2 ^ 8 % 2 ^ 32 := by
    rw [UInt32.toNat_shiftLeft, Nat.shiftLeft_eq]
    rfl
  have h128 : aesBlockSize.toNat = 128 := rfl
  have h0 : (0 : UInt32).toNat = 0 := rfl
  rw [UInt32.toNat_mod, hshift, h128, h0]
  omega

/-- A setup and a block function that, for the fixed key, map each block by `f`. -/
structure Blockwise (setup : Memory (U32 A) → Memory UInt8 → ℤ → ℕ × Memory (U32 A))
    (crypt : Memory (U32 A) → ℕ → Memory UInt8 → Option (List UInt8))
    (f : List UInt8 → List UInt8) : Prop where
  run : ∀ rk p, crypt (setup rk key 256).2 (nrounds 256) p = some (f (slice p 0 16))
  length : ∀ b, (f b).length = 16

def ecbBytes (f : List UInt8 → List UInt8) (input : Memory UInt8) (n : ℕ) : List UInt8 :=
  (List.range n).flatMap fun i => f (slice input (i * 16) 16)

def blockAccesses (n : ℕ) : List Access := (List.range n).map fun i => ⟨i * 16, 16⟩

variable {f : List UInt8 → List UInt8} {crypt : Memory UInt8 → Option (List UInt8)}

theorem ecbBytes_length (hf : ∀ b, (f b).length = 16) (input : Memory UInt8) (n : ℕ) :
    (ecbBytes f input n).length = n * 16 := by
  induction n with
  | zero => rfl
  | succ n ih =>
    rw [ecbBytes, List.range_succ, List.flatMap_append, List.length_append, ← ecbBytes, ih]
    simp only [List.flatMap_cons, List.flatMap_nil, List.append_nil, hf]
    omega

theorem ecbLoop_eq (hcrypt : ∀ p, crypt p = some (f (slice p 0 16)))
    (hf : ∀ b, (f b).length = 16) (input output : Memory UInt8) (n : ℕ) :
    ecbLoop crypt input n ⟨output, [], []⟩ =
      some ⟨copyIn output 0 (ecbBytes f input n), blockAccesses n, blockAccesses n⟩ := by
  induction n with
  | zero => rfl
  | succ n ih =>
    have hlen := ecbBytes_length hf input n
    have hslice : slice (fun j => input (n * blockBytes + j)) 0 16 = slice input (n * 16) 16 :=
      slice_congr fun i _ => by simp [blockBytes]
    have hbytes : ecbBytes f input (n + 1) =
        ecbBytes f input n ++ f (slice input (n * 16) 16) := by
      simp [ecbBytes, List.range_succ]
    have haccesses : blockAccesses (n + 1) = blockAccesses n ++ [⟨n * 16, 16⟩] := by
      simp [blockAccesses, List.range_succ]
    rw [ecbLoop, List.range_succ, List.foldlM_append, ← ecbLoop, ih]
    simp only [Option.bind_eq_bind, Option.bind_some, List.foldlM_cons, List.foldlM_nil, ecbBlock,
      hcrypt, Option.map_some, hslice, hf]
    rw [hbytes, haccesses, ← copyIn_append, hlen, Nat.zero_add]
    rfl

theorem encrypt_blockwise : Blockwise (A := A) rijndaelSetupEncrypt rijndaelEncrypt
    (encryptBlock .aes256 (keyBytes .aes256 key)) :=
  ⟨fun rk p => setup_encrypt .aes256 rk key p, encryptBlock_length _⟩

theorem decrypt_blockwise : Blockwise (A := A) rijndaelSetupDecrypt rijndaelDecrypt
    (decryptBlock .aes256 (keyBytes .aes256 key)) :=
  ⟨fun rk p => setup_decrypt .aes256 rk key p, decryptBlock_length _⟩

variable {setup : Memory (U32 A) → Memory UInt8 → ℤ → ℕ × Memory (U32 A)}
variable {cryptWith : Memory (U32 A) → ℕ → Memory UInt8 → Option (List UInt8)}

/-- With the expected parameter types a command succeeds, whatever the sizes. -/
theorem Blockwise.accepted (h : Blockwise setup cryptWith f) (rk : Memory (U32 A))
    (params : TeeParams) : taEntryAes256ecb setup cryptWith rk ecbParamTypes params =
      let n := (params 0).memref.size.toNat / 16
      let output := copyIn (params 1).memref.buffer 0 (ecbBytes f (params 0).memref.buffer n)
      let memref := { (params 1).memref with buffer := output }
      some ⟨teeSuccess, Function.update params 1 { params 1 with memref := memref },
        (setup rk key 256).2, blockAccesses n, blockAccesses n⟩ := by
  have hloop := ecbLoop_eq (h.run rk) h.length (params 0).memref.buffer (params 1).memref.buffer
    ((params 0).memref.size.toNat / 16)
  have hblock : (params 0).memref.size.toNat / blockBytes =
      (params 0).memref.size.toNat / 16 := rfl
  simp only [taEntryAes256ecb, ecbParamTypes, shifted_size_mod, ne_eq, not_true_eq_false, if_false,
    hblock, hloop, Option.map_some]

theorem rejected {paramTypes : UInt32} (hp : paramTypes ≠ ecbParamTypes) (rk : Memory (U32 A))
    (params : TeeParams) : taEntryAes256ecb setup cryptWith rk paramTypes params =
      some ⟨teeErrorBadParameters, params, rk, [], []⟩ := by
  rw [taEntryAes256ecb, if_pos (show paramTypes ≠ teeParamTypes .memrefInput .memrefOutput .none
    .none from hp)]

/-- Success only for whole blocks, all inside the memrefs; an error leaves the output alone. -/
structure EcbSafe (params : TeeParams) (o : EcbOutcome A) : Prop where
  wholeInput : o.res = teeSuccess → (params 0).memref.size.toNat % 16 = 0
  wholeOutput : o.res = teeSuccess → (params 1).memref.size.toNat % 16 = 0
  reads : o.res = teeSuccess → ∀ a ∈ o.reads, a.Within (params 0).memref.size.toNat
  writes : o.res = teeSuccess → ∀ a ∈ o.writes, a.Within (params 1).memref.size.toNat
  untouched : o.res ≠ teeSuccess → o.writes = [] ∧ o.params = params

/-- Whole blocks, and an output memref that is not shorter than the input. -/
def EcbFits (params : TeeParams) : Prop :=
  (params 0).memref.size.toNat % 16 = 0 ∧ (params 1).memref.size.toNat % 16 = 0 ∧
    (params 0).memref.size.toNat ≤ (params 1).memref.size.toNat

theorem mem_blockAccesses {n : ℕ} {a : Access} :
    a ∈ blockAccesses n ↔ ∃ i < n, a = ⟨i * 16, 16⟩ := by
  simp only [blockAccesses, List.mem_map, List.mem_range]
  exact exists_congr fun i => and_congr_right fun _ => eq_comm

theorem blockAccesses_within {n size : ℕ} :
    (∀ a ∈ blockAccesses n, a.Within size) ↔ n = 0 ∨ n * 16 ≤ size := by
  constructor
  · intro h
    rcases Nat.eq_zero_or_pos n with hn | hn
    · exact Or.inl hn
    · have hlast : (⟨(n - 1) * 16, 16⟩ : Access).Within size :=
        h _ (mem_blockAccesses.mpr ⟨n - 1, by omega, rfl⟩)
      simp only [Access.Within] at hlast
      exact Or.inr (by omega)
  · intro h a ha
    obtain ⟨i, hi, rfl⟩ := mem_blockAccesses.mp ha
    simp only [Access.Within]
    omega

theorem Blockwise.safe_iff (h : Blockwise setup cryptWith f) (rk : Memory (U32 A))
    (paramTypes : UInt32) (params : TeeParams) :
    ∃ o, taEntryAes256ecb setup cryptWith rk paramTypes params = some o ∧
      (EcbSafe params o ↔ (paramTypes = ecbParamTypes → EcbFits params)) := by
  by_cases hp : paramTypes = ecbParamTypes
  · subst hp
    refine ⟨_, h.accepted rk params, ?_⟩
    constructor
    · intro hsafe _
      have hin := hsafe.wholeInput rfl
      have hout := hsafe.wholeOutput rfl
      have hwrites := blockAccesses_within.mp (hsafe.writes rfl)
      exact ⟨hin, hout, by omega⟩
    · intro hfits
      obtain ⟨hin, hout, hle⟩ := hfits rfl
      exact
        { wholeInput := fun _ => hin
          wholeOutput := fun _ => hout
          reads := fun _ => blockAccesses_within.mpr (Or.inr (by omega))
          writes := fun _ => blockAccesses_within.mpr (Or.inr (by omega))
          untouched := fun hne => absurd rfl hne }
  · have herr : ¬ teeErrorBadParameters = teeSuccess := by decide
    refine ⟨_, rejected hp rk params, fun _ heq => absurd heq hp, fun _ => ?_⟩
    exact
      { wholeInput := fun he => absurd he herr
        wholeOutput := fun he => absurd he herr
        reads := fun he => absurd he herr
        writes := fun he => absurd he herr
        untouched := fun _ => ⟨rfl, rfl⟩ }

/-- Both commands are safe exactly on whole blocks that fit the output memref. -/
theorem ecb_commands_safe_iff (rk : Memory (U32 A)) (paramTypes : UInt32) (params : TeeParams) :
    (∃ o, taEntryAes256ecbEncrypt rk paramTypes params = some o ∧
      (EcbSafe params o ↔ (paramTypes = ecbParamTypes → EcbFits params))) ∧
    (∃ o, taEntryAes256ecbDecrypt rk paramTypes params = some o ∧
      (EcbSafe params o ↔ (paramTypes = ecbParamTypes → EcbFits params))) :=
  ⟨encrypt_blockwise.safe_iff rk paramTypes params, decrypt_blockwise.safe_iff rk paramTypes params⟩

def sizedParams (input output : UInt32) : TeeParams :=
  ![⟨⟨0, 0⟩, ⟨fun _ => 0, input⟩⟩, ⟨⟨0, 0⟩, ⟨fun _ => 0, output⟩⟩, ⟨⟨0, 0⟩, ⟨fun _ => 0, 0⟩⟩,
    ⟨⟨0, 0⟩, ⟨fun _ => 0, 0⟩⟩]

/-- Half a block is accepted, and a block is written to an empty output memref. -/
theorem partial_blocks_accepted :
    (∃ o, taEntryAes256ecbEncrypt (A := .arm32) (fun _ => 0) ecbParamTypes (sizedParams 8 8) =
      some o ∧ o.res = teeSuccess ∧ ¬ EcbSafe (sizedParams 8 8) o) ∧
    (∃ o, taEntryAes256ecbDecrypt (A := .arm32) (fun _ => 0) ecbParamTypes (sizedParams 16 0) =
      some o ∧ o.res = teeSuccess ∧ ¬ EcbSafe (sizedParams 16 0) o) := by
  constructor
  · refine ⟨_, encrypt_blockwise.accepted _ _, rfl, fun h => ?_⟩
    exact absurd (h.wholeInput rfl) (by decide)
  · refine ⟨_, decrypt_blockwise.accepted _ _, rfl, fun h => ?_⟩
    exact absurd (blockAccesses_within.mp (h.writes rfl)) (by decide)

end AesEcbCommands
