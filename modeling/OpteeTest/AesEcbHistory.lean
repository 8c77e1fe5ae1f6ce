import OpteeTest.AesEcbCommands

/-! # Sequences of ECB commands over one round-key array

Every command rewrites the whole schedule it reads, so what the array held before is of no
consequence to its output. -/
namespace AesEcbHistory

open ByteMemory TeeApi AesSpec AesImpl AesKeySchedule AesCipher AesEcbCommands

variable {A : Arch}

inductive Direction where
  | encrypt
  | decrypt
  deriving DecidableEq, Repr

/-- A command on whole blocks, with an output memref of the size of the input. The two memrefs
are separate regions. -/
structure EcbCommand where
  direction : Direction
  params : TeeParams
  whole : (params 0).memref.size.toNat % 16 = 0
  same : (params 1).memref.size = (params 0).memref.size

def EcbCommand.size (c : EcbCommand) : ℕ := (c.params 0).memref.size.toNat

def EcbCommand.input (c : EcbCommand) : List UInt8 := slice (c.params 0).memref.buffer 0 c.size

def EcbCommand.invoke (c : EcbCommand) (rk : Memory (U32 A)) : Option (EcbOutcome A) :=
  match c.direction with
  | .encrypt => taEntryAes256ecbEncrypt rk ecbParamTypes c.params
  | .decrypt => taEntryAes256ecbDecrypt rk ecbParamTypes c.params

def EcbCommand.output (c : EcbCommand) (o : EcbOutcome A) : List UInt8 :=
  slice (o.params 1).memref.buffer 0 c.size

/-- The commands of one instance, in order: their outputs and the final round-key array. -/
def run (rk : Memory (U32 A)) : List EcbCommand → Option (List (List UInt8) × Memory (U32 A))
  | [] => some ([], rk)
  | c :: cs => do
    let o ← c.invoke rk
    let (outputs, rk) ← run o.rk cs
    some (c.output o :: outputs, rk)

def freshRk : Memory (U32 A) := fun _ => 0

def firstOutput (A : Arch) (c : EcbCommand) : Option (List UInt8) :=
  (c.invoke (A := A) freshRk).map c.output

def blockAt (l : List UInt8) (i : ℕ) : List UInt8 := (l.drop (i * 16)).take 16

def blockFunction : Direction → List UInt8 → List UInt8
  | .encrypt => encryptBlock .aes256 (keyBytes .aes256 key)
  | .decrypt => decryptBlock .aes256 (keyBytes .aes256 key)

theorem blockFunction_length (d : Direction) (b : List UInt8) :
    (blockFunction d b).length = 16 := by
  cases d <;> rfl

def outputBytes (c : EcbCommand) : List UInt8 :=
  ecbBytes (blockFunction c.direction) (c.params 0).memref.buffer (c.size / 16)

theorem EcbCommand.size_blocks (c : EcbCommand) : c.size / 16 * 16 = c.size := by
  have hwhole : c.size % 16 = 0 := c.whole
  omega

theorem invoke_output (c : EcbCommand) (rk : Memory (U32 A)) :
    ∃ o, c.invoke rk = some o ∧ c.output o = outputBytes c := by
  have hslice := slice_copyIn (c.params 1).memref.buffer 0 (outputBytes c)
  rw [outputBytes, ecbBytes_length (blockFunction_length _), c.size_blocks] at hslice
  have hinvoke : ∃ o, c.invoke rk = some o ∧ (o.params 1).memref.buffer =
      copyIn (c.params 1).memref.buffer 0 (outputBytes c) := by
    unfold EcbCommand.invoke outputBytes
    cases c.direction with
    | encrypt => exact ⟨_, encrypt_blockwise.accepted rk c.params, rfl⟩
    | decrypt => exact ⟨_, decrypt_blockwise.accepted rk c.params, rfl⟩
  obtain ⟨o, ho, hbuffer⟩ := hinvoke
  refine ⟨o, ho, ?_⟩
  rw [EcbCommand.output, hbuffer]
  exact hslice

theorem run_outputs (cs : List EcbCommand) (rk : Memory (U32 A)) :
    ∃ rk', run rk cs = some (cs.map outputBytes, rk') := by
  induction cs generalizing rk with
  | nil => exact ⟨rk, rfl⟩
  | cons c cs ih =>
    obtain ⟨o, ho, hout⟩ := invoke_output c rk
    obtain ⟨rk', hrun⟩ := ih o.rk
    refine ⟨rk', ?_⟩
    rw [run, ho]
    simp only [Option.bind_eq_bind, Option.bind_some, hrun, hout, List.map_cons]

theorem firstOutput_eq (c : EcbCommand) : firstOutput A c = some (outputBytes c) := by
  obtain ⟨o, ho, hout⟩ := invoke_output (A := A) c freshRk
  rw [firstOutput, ho, Option.map_some, hout]

theorem blockAt_slice (m : Memory UInt8) (n i : ℕ) (h : i < n) :
    blockAt (slice m 0 (n * 16)) i = slice m (i * 16) 16 := by
  obtain ⟨k, rfl⟩ : ∃ k, n = i + (1 + k) := ⟨n - i - 1, by omega⟩
  rw [Nat.add_mul, Nat.add_mul, slice_eq_append, slice_eq_append, blockAt,
    List.drop_left' (length_slice _ _ _), List.take_left' (length_slice _ _ _), Nat.zero_add]

theorem blockAt_nil {l : List UInt8} {n i : ℕ} (hl : l.length = n * 16) (h : n ≤ i) :
    blockAt l i = [] := by
  have hdrop : l.length ≤ i * 16 := by
    rw [hl]
    exact Nat.mul_le_mul_right 16 h
  rw [blockAt, List.drop_eq_nil_of_le hdrop, List.take_nil]

theorem blockAt_ecbBytes {f : List UInt8 → List UInt8} (hf : ∀ b, (f b).length = 16)
    (m : Memory UInt8) {n i : ℕ} (h : i < n) :
    blockAt (ecbBytes f m n) i = f (slice m (i * 16) 16) := by
  obtain ⟨k, rfl⟩ : ∃ k, n = i + 1 + k := ⟨n - (i + 1), by omega⟩
  have hsplit : ecbBytes f m (i + 1 + k) = ecbBytes f m i ++ (f (slice m (i * 16) 16) ++
      (List.range k).flatMap fun j => f (slice m ((i + 1 + j) * 16) 16)) := by
    rw [ecbBytes, List.range_add, List.flatMap_append, List.range_succ, List.flatMap_append,
      List.flatMap_map]
    simp [ecbBytes]
  rw [hsplit, blockAt, List.drop_left' (ecbBytes_length hf m i), List.take_left' (hf _)]

theorem input_blocks (c : EcbCommand) :
    c.input = slice (c.params 0).memref.buffer 0 (c.size / 16 * 16) := by
  rw [c.size_blocks, EcbCommand.input]

theorem outputBytes_block (c : EcbCommand) {i : ℕ} (hi : i < c.size / 16) :
    blockAt (outputBytes c) i = blockFunction c.direction (blockAt c.input i) := by
  rw [outputBytes, blockAt_ecbBytes (blockFunction_length _) _ hi, input_blocks,
    blockAt_slice _ _ _ hi]

theorem outputBytes_length (c : EcbCommand) : (outputBytes c).length = c.size / 16 * 16 :=
  ecbBytes_length (blockFunction_length _) _ _

/-- A block of the output is a function of the same block of the input. -/
theorem outputBytes_block_congr {c c' : EcbCommand} (hd : c.direction = c'.direction) {i : ℕ}
    (h : blockAt c.input i = blockAt c'.input i) :
    blockAt (outputBytes c) i = blockAt (outputBytes c') i := by
  have hlen (c : EcbCommand) : i < c.size / 16 ↔ blockAt c.input i ≠ [] := by
    constructor
    · intro hi hnil
      rw [input_blocks, blockAt_slice _ _ _ hi] at hnil
      have hl := congrArg List.length hnil
      rw [length_slice] at hl
      exact absurd hl (by decide)
    · intro hne
      by_contra hi
      refine hne (blockAt_nil (n := c.size / 16) ?_ (Nat.not_lt.mp hi))
      rw [input_blocks, length_slice]
  by_cases hi : i < c.size / 16
  · have hi' : i < c'.size / 16 := (hlen c').mpr (h ▸ (hlen c).mp hi)
    rw [outputBytes_block c hi, outputBytes_block c' hi', hd, h]
  · have hi' : ¬ i < c'.size / 16 := fun hi' => hi ((hlen c).mpr (h ▸ (hlen c').mp hi'))
    rw [blockAt_nil (outputBytes_length c) (Nat.not_lt.mp hi),
      blockAt_nil (outputBytes_length c') (Nat.not_lt.mp hi')]

theorem eq_of_blocks {l l' : List UInt8} {n : ℕ} (hl : l.length = n * 16)
    (hl' : l'.length = n * 16) (h : ∀ i < n, blockAt l i = blockAt l' i) : l = l' := by
  apply List.ext_getElem
  · rw [hl, hl']
  · intro i hi hi'
    have hblock := h (i / 16) (by omega)
    have hget (l : List UInt8) (hi : i < l.length) :
        (blockAt l (i / 16))[i % 16]? = some l[i] := by
      have hsum : i / 16 * 16 + i % 16 = i := by omega
      rw [blockAt, List.getElem?_take_of_lt (by omega), List.getElem?_drop, hsum,
        List.getElem?_eq_getElem hi]
    have hsome := hget l hi
    rw [hblock, hget l' hi'] at hsome
    exact (Option.some.inj hsome).symm

theorem decrypt_encrypt {e d : EcbCommand} (he : e.direction = .encrypt)
    (hd : d.direction = .decrypt) (h : d.input = outputBytes e) : outputBytes d = e.input := by
  have hsize : d.size = e.size := by
    have hlen := congrArg List.length h
    rwa [EcbCommand.input, length_slice, outputBytes_length, e.size_blocks] at hlen
  have hinput : e.input.length = e.size / 16 * 16 := by rw [input_blocks, length_slice]
  refine eq_of_blocks (n := e.size / 16) (by rw [outputBytes_length, hsize]) hinput fun i hi => ?_
  have hblock : (blockAt e.input i).length = 16 := by
    rw [input_blocks, blockAt_slice _ _ _ hi, length_slice]
  rw [outputBytes_block d (by rw [hsize]; exact hi), h, outputBytes_block e hi, he, hd]
  exact decryptBlock_encryptBlock _ hblock

/-- In any sequence of commands, each output is that of a fresh instance, each block of it
depends on one block, and a decryption of an encryption's output returns the input. -/
theorem ecb_history_free (cs : List EcbCommand) :
    ∃ outputs rk, run (A := A) freshRk cs = some (outputs, rk) ∧
      outputs.length = cs.length ∧
      (∀ p ∈ cs.zip outputs, firstOutput A p.1 = some p.2) ∧
      (∀ p ∈ cs.zip outputs, ∀ q ∈ cs.zip outputs, p.1.direction = q.1.direction →
        ∀ i, blockAt p.1.input i = blockAt q.1.input i → blockAt p.2 i = blockAt q.2 i) ∧
      (∀ p ∈ cs.zip outputs, ∀ q ∈ cs.zip outputs, p.1.direction = .encrypt →
        q.1.direction = .decrypt → q.1.input = p.2 → q.2 = p.1.input) := by
  obtain ⟨rk, hrun⟩ := run_outputs (A := A) cs freshRk
  have hzip : ∀ p ∈ cs.zip (cs.map outputBytes), p.2 = outputBytes p.1 := by
    intro p hp
    rw [← List.map_prod_left_eq_zip] at hp
    obtain ⟨c, _, rfl⟩ := List.mem_map.mp hp
    rfl
  refine ⟨cs.map outputBytes, rk, hrun, List.length_map _, ?_, ?_, ?_⟩
  · intro p hp
    rw [hzip p hp]
    exact firstOutput_eq p.1
  · intro p hp q hq hd i h
    rw [hzip p hp, hzip q hq]
    exact outputBytes_block_congr hd h
  · intro p hp q hq he hd h
    rw [hzip p hp] at h
    rw [hzip q hq]
    exact decrypt_encrypt he hd h

end AesEcbHistory
