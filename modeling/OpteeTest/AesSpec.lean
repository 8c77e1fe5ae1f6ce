import OpteeTest.AesField
import OpteeTest.KeyAlternating

/-! # The advanced encryption standard

The cipher and the key expansion over byte strings, and the inverse of each layer. -/
namespace AesSpec

open AesField KeyAlternating

@[ext] structure Word where
  b0 : UInt8
  b1 : UInt8
  b2 : UInt8
  b3 : UInt8
  deriving DecidableEq, Repr

instance : XorOp Word := ⟨fun a b => ⟨a.b0 ^^^ b.b0, a.b1 ^^^ b.b1, a.b2 ^^^ b.b2, a.b3 ^^^ b.b3⟩⟩

@[ext] structure State where
  c0 : Word
  c1 : Word
  c2 : Word
  c3 : Word
  deriving DecidableEq, Repr

instance : XorOp State := ⟨fun a b => ⟨a.c0 ^^^ b.c0, a.c1 ^^^ b.c1, a.c2 ^^^ b.c2, a.c3 ^^^ b.c3⟩⟩

def Word.ofBytes (l : List UInt8) (i : ℕ) : Word :=
  ⟨l.getD i 0, l.getD (i + 1) 0, l.getD (i + 2) 0, l.getD (i + 3) 0⟩

def Word.bytes (w : Word) : List UInt8 := [w.b0, w.b1, w.b2, w.b3]

def State.ofBlock (l : List UInt8) : State :=
  ⟨.ofBytes l 0, .ofBytes l 4, .ofBytes l 8, .ofBytes l 12⟩

def State.block (s : State) : List UInt8 := s.c0.bytes ++ s.c1.bytes ++ s.c2.bytes ++ s.c3.bytes

def Word.map (f : UInt8 → UInt8) (w : Word) : Word := ⟨f w.b0, f w.b1, f w.b2, f w.b3⟩

def State.map (f : Word → Word) (s : State) : State := ⟨f s.c0, f s.c1, f s.c2, f s.c3⟩

def subWord (w : Word) : Word := w.map sbox

def rotWord (w : Word) : Word := ⟨w.b1, w.b2, w.b3, w.b0⟩

def subBytes (s : State) : State := s.map subWord

def invSubBytes (s : State) : State := s.map (Word.map invSbox)

def shiftRows (s : State) : State where
  c0 := ⟨s.c0.b0, s.c1.b1, s.c2.b2, s.c3.b3⟩
  c1 := ⟨s.c1.b0, s.c2.b1, s.c3.b2, s.c0.b3⟩
  c2 := ⟨s.c2.b0, s.c3.b1, s.c0.b2, s.c1.b3⟩
  c3 := ⟨s.c3.b0, s.c0.b1, s.c1.b2, s.c2.b3⟩

def invShiftRows (s : State) : State where
  c0 := ⟨s.c0.b0, s.c3.b1, s.c2.b2, s.c1.b3⟩
  c1 := ⟨s.c1.b0, s.c0.b1, s.c3.b2, s.c2.b3⟩
  c2 := ⟨s.c2.b0, s.c1.b1, s.c0.b2, s.c3.b3⟩
  c3 := ⟨s.c3.b0, s.c2.b1, s.c1.b2, s.c0.b3⟩

def circulant (p q r t : UInt8) (w : Word) : Word where
  b0 := gmul p w.b0 ^^^ gmul q w.b1 ^^^ gmul r w.b2 ^^^ gmul t w.b3
  b1 := gmul t w.b0 ^^^ gmul p w.b1 ^^^ gmul q w.b2 ^^^ gmul r w.b3
  b2 := gmul r w.b0 ^^^ gmul t w.b1 ^^^ gmul p w.b2 ^^^ gmul q w.b3
  b3 := gmul q w.b0 ^^^ gmul r w.b1 ^^^ gmul t w.b2 ^^^ gmul p w.b3

def mixColumn (w : Word) : Word := circulant 0x02 0x03 0x01 0x01 w

def invMixColumn (w : Word) : Word := circulant 0x0e 0x0b 0x0d 0x09 w

def mixColumns (s : State) : State := s.map mixColumn

def invMixColumns (s : State) : State := s.map invMixColumn

inductive KeySize where
  | aes128
  | aes192
  | aes256
  deriving DecidableEq, Repr

def KeySize.words : KeySize → ℕ
  | .aes128 => 4
  | .aes192 => 6
  | .aes256 => 8

theorem KeySize.words_ge (K : KeySize) : 4 ≤ K.words := by
  cases K <;> decide

def KeySize.rounds : KeySize → ℕ
  | .aes128 => 10
  | .aes192 => 12
  | .aes256 => 14

def rconByte : ℕ → UInt8
  | 0 => 0x01
  | n + 1 => gmul 0x02 (rconByte n)

def rcon (i : ℕ) : Word := ⟨rconByte (i - 1), 0, 0, 0⟩

def keyExpansion (K : KeySize) (key : List UInt8) (i : ℕ) : Word :=
  if i < K.words then .ofBytes key (4 * i)
  else
    let temp := keyExpansion K key (i - 1)
    keyExpansion K key (i - K.words) ^^^
      if i % K.words = 0 then subWord (rotWord temp) ^^^ rcon (i / K.words)
      else if 6 < K.words ∧ i % K.words = 4 then subWord temp
      else temp
termination_by i
decreasing_by all_goals have := K.words_ge; omega

def roundKey (K : KeySize) (key : List UInt8) (r : ℕ) : State :=
  ⟨keyExpansion K key (4 * r), keyExpansion K key (4 * r + 1), keyExpansion K key (4 * r + 2),
    keyExpansion K key (4 * r + 3)⟩

def cipher (K : KeySize) (key : List UInt8) (s : State) : State :=
  let s := s ^^^ roundKey K key 0
  let s := (List.range' 1 (K.rounds - 1)).foldl
    (fun s r => mixColumns (shiftRows (subBytes s)) ^^^ roundKey K key r) s
  shiftRows (subBytes s) ^^^ roundKey K key K.rounds

def encryptBlock (K : KeySize) (key block : List UInt8) : List UInt8 :=
  (cipher K key (.ofBlock block)).block

theorem Word.xor_def (a b : Word) :
    a ^^^ b = ⟨a.b0 ^^^ b.b0, a.b1 ^^^ b.b1, a.b2 ^^^ b.b2, a.b3 ^^^ b.b3⟩ := rfl

theorem State.xor_def (a b : State) :
    a ^^^ b = ⟨a.c0 ^^^ b.c0, a.c1 ^^^ b.c1, a.c2 ^^^ b.c2, a.c3 ^^^ b.c3⟩ := rfl

theorem Word.xor_cancel (a b : Word) : (a ^^^ b) ^^^ b = a := by
  simp only [Word.xor_def, UInt8.xor_assoc, UInt8.xor_self, UInt8.xor_zero]

theorem State.xor_cancel (a b : State) : (a ^^^ b) ^^^ b = a := by
  simp only [State.xor_def, Word.xor_cancel]

theorem State.map_map {f g : Word → Word} (h : ∀ w, g (f w) = w) (s : State) :
    (s.map f).map g = s := by
  simp only [State.map, h]

theorem invSubWord_subWord (w : Word) : (subWord w).map invSbox = w := by
  simp only [subWord, Word.map, invSbox_sbox]

theorem subWord_invSubWord (w : Word) : subWord (w.map invSbox) = w := by
  simp only [subWord, Word.map, sbox_invSbox]

/-- The four sums of products that make two circulant matrices inverse to each other. -/
structure InverseRows (p q r t p' q' r' t' : UInt8) : Prop where
  diag : ∀ b, gmul p' (gmul p b) ^^^ gmul q' (gmul t b) ^^^ gmul r' (gmul r b) ^^^
    gmul t' (gmul q b) = b
  next : ∀ b, gmul p' (gmul q b) ^^^ gmul q' (gmul p b) ^^^ gmul r' (gmul t b) ^^^
    gmul t' (gmul r b) = 0
  opposite : ∀ b, gmul p' (gmul r b) ^^^ gmul q' (gmul q b) ^^^ gmul r' (gmul p b) ^^^
    gmul t' (gmul t b) = 0
  prev : ∀ b, gmul p' (gmul t b) ^^^ gmul q' (gmul r b) ^^^ gmul r' (gmul q b) ^^^
    gmul t' (gmul p b) = 0

variable {p q r t p' q' r' t' : UInt8}

/-- A row of the second matrix against the column `w` multiplied by the first. -/
theorem InverseRows.row (h : InverseRows p q r t p' q' r' t') (a b c d : UInt8) :
    gmul p' (gmul p a ^^^ gmul q b ^^^ gmul r c ^^^ gmul t d) ^^^
      gmul q' (gmul t a ^^^ gmul p b ^^^ gmul q c ^^^ gmul r d) ^^^
      gmul r' (gmul r a ^^^ gmul t b ^^^ gmul p c ^^^ gmul q d) ^^^
      gmul t' (gmul q a ^^^ gmul r b ^^^ gmul t c ^^^ gmul p d) = a := by
  have hregroup : gmul p' (gmul p a ^^^ gmul q b ^^^ gmul r c ^^^ gmul t d) ^^^
      gmul q' (gmul t a ^^^ gmul p b ^^^ gmul q c ^^^ gmul r d) ^^^
      gmul r' (gmul r a ^^^ gmul t b ^^^ gmul p c ^^^ gmul q d) ^^^
      gmul t' (gmul q a ^^^ gmul r b ^^^ gmul t c ^^^ gmul p d) =
      (gmul p' (gmul p a) ^^^ gmul q' (gmul t a) ^^^ gmul r' (gmul r a) ^^^ gmul t' (gmul q a)) ^^^
      (gmul p' (gmul q b) ^^^ gmul q' (gmul p b) ^^^ gmul r' (gmul t b) ^^^ gmul t' (gmul r b)) ^^^
      (gmul p' (gmul r c) ^^^ gmul q' (gmul q c) ^^^ gmul r' (gmul p c) ^^^ gmul t' (gmul t c)) ^^^
      (gmul p' (gmul t d) ^^^ gmul q' (gmul r d) ^^^ gmul r' (gmul q d) ^^^
        gmul t' (gmul p d)) := by
    simp only [gmul_xor]
    ac_rfl
  rw [hregroup, h.diag, h.next, h.opposite, h.prev]
  simp only [UInt8.xor_zero]

theorem circulant_circulant (h : InverseRows p q r t p' q' r' t') (w : Word) :
    circulant p' q' r' t' (circulant p q r t w) = w := by
  have h₀ := h.row w.b0 w.b1 w.b2 w.b3
  have h₁ := h.row w.b1 w.b2 w.b3 w.b0
  have h₂ := h.row w.b2 w.b3 w.b0 w.b1
  have h₃ := h.row w.b3 w.b0 w.b1 w.b2
  ext1
  · exact h₀
  · rw [← h₁]
    simp only [circulant]
    ac_rfl
  · rw [← h₂]
    simp only [circulant]
    ac_rfl
  · rw [← h₃]
    simp only [circulant]
    ac_rfl

theorem invMix_mix_rows : InverseRows 0x02 0x03 0x01 0x01 0x0e 0x0b 0x0d 0x09 where
  diag := productSum_ext (fun _ _ => rfl) (by decide)
  next := productSum_ext (fun _ _ => rfl) (by decide)
  opposite := productSum_ext (fun _ _ => rfl) (by decide)
  prev := productSum_ext (fun _ _ => rfl) (by decide)

theorem mix_invMix_rows : InverseRows 0x0e 0x0b 0x0d 0x09 0x02 0x03 0x01 0x01 where
  diag := productSum_ext (fun _ _ => rfl) (by decide)
  next := productSum_ext (fun _ _ => rfl) (by decide)
  opposite := productSum_ext (fun _ _ => rfl) (by decide)
  prev := productSum_ext (fun _ _ => rfl) (by decide)

theorem invMixColumn_mixColumn (w : Word) : invMixColumn (mixColumn w) = w :=
  circulant_circulant invMix_mix_rows w

theorem mixColumn_invMixColumn (w : Word) : mixColumn (invMixColumn w) = w :=
  circulant_circulant mix_invMix_rows w

theorem mixColumn_xor (a b : Word) : mixColumn (a ^^^ b) = mixColumn a ^^^ mixColumn b := by
  simp only [mixColumn, circulant, Word.xor_def, gmul_xor, Word.mk.injEq]
  refine ⟨?_, ?_, ?_, ?_⟩ <;> ac_rfl

theorem mixColumns_xor (a b : State) : mixColumns (a ^^^ b) = mixColumns a ^^^ mixColumns b := by
  simp only [mixColumns, State.map, State.xor_def, mixColumn_xor]

/-- The layers of the standard, with the inverses that the decryption uses. -/
def layers : Layers State where
  layer :=
    { toFun := fun s => shiftRows (subBytes s)
      invFun := fun s => invSubBytes (invShiftRows s)
      left_inv := fun s => State.map_map invSubWord_subWord s
      right_inv := fun s => by
        have h := State.map_map subWord_invSubWord (invShiftRows s)
        exact congrArg shiftRows h }
  mix :=
    { toFun := mixColumns
      invFun := invMixColumns
      left_inv := State.map_map invMixColumn_mixColumn
      right_inv := State.map_map mixColumn_invMixColumn }
  mix_xor := mixColumns_xor
  xor_cancel := State.xor_cancel

/-- The reference cipher is the key-alternating cipher of its layers. -/
theorem cipher_eq (K : KeySize) (key : List UInt8) (s : State) :
    cipher K key s = layers.cipher (roundKey K key) (K.rounds - 1) s := by
  have hrounds (n : ℕ) : (List.range' 1 n).foldl
      (fun s r => mixColumns (shiftRows (subBytes s)) ^^^ roundKey K key r)
        (s ^^^ roundKey K key 0) =
      rounds (fun x => layers.mix (layers.layer x)) (roundKey K key) s n := by
    induction n with
    | zero => rfl
    | succ n ih =>
      rw [List.range'_concat, List.foldl_append, ih, List.foldl_cons, List.foldl_nil]
      simp only [Nat.one_mul, Nat.add_comm 1 n]
      rfl
  have hlast : K.rounds - 1 + 1 = K.rounds := by cases K <;> rfl
  unfold cipher Layers.cipher
  rw [← hrounds, hlast]
  rfl

end AesSpec
