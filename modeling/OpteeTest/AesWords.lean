import OpteeTest.AesImpl

/-! # Words of the implementation and columns of the state

A word of four bytes is held in the low 32 bits of an `unsigned long`. Each fused lookup of the
implementation is one row operation of the standard. -/
namespace AesWords

open ByteMemory TeeApi BigEndian AesField AesSpec AesTables AesImpl

variable {A : Arch}

def word (w : Word) : U32 A := u32 (number w)

def words (s : State) : Words A := ⟨word s.c0, word s.c1, word s.c2, word s.c3⟩

theorem number_xor (v w : Word) : number (v ^^^ w) = number v ^^^ number w := by
  simp only [number, Word.xor_def, UInt8.toNat_xor]
  exact (be32_xor v.b1.toNat_lt v.b2.toNat_lt v.b3.toNat_lt w.b1.toNat_lt w.b2.toNat_lt
    w.b3.toNat_lt).symm

theorem number_and (v w : Word) : number v &&& number w =
    number ⟨v.b0 &&& w.b0, v.b1 &&& w.b1, v.b2 &&& w.b2, v.b3 &&& w.b3⟩ := by
  simp only [number, UInt8.toNat_and]
  exact be32_and v.b1.toNat_lt v.b2.toNat_lt v.b3.toNat_lt w.b1.toNat_lt w.b2.toNat_lt
    w.b3.toNat_lt

theorem number_lt (w : Word) : number w < 2 ^ 32 :=
  be32_lt w.b0.toNat_lt w.b1.toNat_lt w.b2.toNat_lt w.b3.toNat_lt

theorem word_xor (v w : Word) : (word (v ^^^ w) : U32 A) = word v ^^^ word w := by
  rw [word, number_xor]
  exact BitVec.ofNat_xor

theorem word_and (v w : Word) : (word v &&& word w : U32 A) =
    word ⟨v.b0 &&& w.b0, v.b1 &&& w.b1, v.b2 &&& w.b2, v.b3 &&& w.b3⟩ := by
  have h : u32 (number v &&& number w) = (word v &&& word w : U32 A) := BitVec.ofNat_and
  rw [← h, number_and]
  rfl

theorem u32_toNat {n : ℕ} (h : n < 2 ^ 32) : (u32 n : U32 A).toNat = n := by
  rw [u32, BitVec.toNat_ofNat]
  exact Nat.mod_eq_of_lt (Nat.lt_of_lt_of_le h A.word_ge)

theorem word_toNat (w : Word) : (word w : U32 A).toNat = number w := u32_toNat (number_lt w)

theorem getu32_eq (p : Memory UInt8) (i : ℕ) :
    (getu32 p i : U32 A) = word ⟨p i, p (i + 1), p (i + 2), p (i + 3)⟩ := by
  have hshift (n k : ℕ) : (u32 n <<< k : U32 A) = u32 (n * 2 ^ k) := by
    apply BitVec.eq_of_toNat_eq
    simp [u32, Nat.shiftLeft_eq]
  have h₀ : (p i).toNat * 2 ^ 24 = number ⟨p i, 0, 0, 0⟩ := by
    simp [number, be32, Nat.mul_assoc]
  have h₁ : (p (i + 1)).toNat * 2 ^ 16 = number ⟨0, p (i + 1), 0, 0⟩ := by
    simp [number, be32, Nat.mul_assoc]
  have h₂ : (p (i + 2)).toNat * 2 ^ 8 = number ⟨0, 0, p (i + 2), 0⟩ := by
    simp [number, be32]
  have h₃ : (p (i + 3)).toNat = number ⟨0, 0, 0, p (i + 3)⟩ := by
    simp [number, be32]
  have hfold (w : Word) : (u32 (number w) : U32 A) = word w := rfl
  rw [getu32, hshift, hshift, hshift, h₀, h₁, h₂, h₃]
  simp only [hfold, ← word_xor, Word.xor_def, UInt8.xor_zero, UInt8.zero_xor]

theorem putu32_word (w : Word) : putu32 (word w : U32 A) = w.bytes := by
  have h₀ := w.b0.toNat_lt
  have h₁ := w.b1.toNat_lt
  have h₂ := w.b2.toNat_lt
  have h₃ := w.b3.toNat_lt
  simp only [putu32, Word.bytes, BitVec.toNat_ushiftRight, word_toNat, List.cons.injEq, and_true,
    ← UInt8.toNat_inj, UInt8.toNat_ofNat', Nat.shiftRight_eq_div_pow, number, be32]
  omega

variable {t : List ℕ}

theorem lookup_byte (b : UInt8) : lookup t (u32 b.toNat : U32 A) = u32 (entry t b) := by
  have hb := b.toNat_lt
  rw [lookup, u32_toNat (by omega), entry]

theorem byte3_word (w : Word) : byte3 (word w : U32 A) = u32 w.b0.toNat := by
  have h₀ := w.b0.toNat_lt
  apply BitVec.eq_of_toNat_eq
  rw [byte3, BitVec.toNat_ushiftRight, word_toNat, u32_toNat (by omega),
    Nat.shiftRight_eq_div_pow, number]
  exact be32_div_24 w.b1.toNat_lt w.b2.toNat_lt w.b3.toNat_lt

theorem mask_toNat (s : U32 A) : (s &&& u32 0xff).toNat = s.toNat % 2 ^ 8 := by
  rw [BitVec.toNat_and, u32_toNat (by decide)]
  exact Nat.and_two_pow_sub_one_eq_mod _ 8

theorem byte2_word (w : Word) : byte2 (word w : U32 A) = u32 w.b1.toNat := by
  have h₁ := w.b1.toNat_lt
  apply BitVec.eq_of_toNat_eq
  rw [byte2, mask_toNat, BitVec.toNat_ushiftRight, word_toNat, u32_toNat (by omega),
    Nat.shiftRight_eq_div_pow, number]
  exact be32_div_16 h₁ w.b2.toNat_lt w.b3.toNat_lt

theorem byte1_word (w : Word) : byte1 (word w : U32 A) = u32 w.b2.toNat := by
  have h₂ := w.b2.toNat_lt
  apply BitVec.eq_of_toNat_eq
  rw [byte1, mask_toNat, BitVec.toNat_ushiftRight, word_toNat, u32_toNat (by omega),
    Nat.shiftRight_eq_div_pow, number]
  exact be32_div_8 h₂ w.b3.toNat_lt

theorem byte0_word (w : Word) : byte0 (word w : U32 A) = u32 w.b3.toNat := by
  have h₃ := w.b3.toNat_lt
  apply BitVec.eq_of_toNat_eq
  rw [byte0, mask_toNat, word_toNat, u32_toNat (by omega), number]
  exact be32_mod h₃

theorem lookup_word {w : Word} (b : UInt8) (h : entry t b = number w) :
    lookup t (u32 b.toNat : U32 A) = word w := by
  rw [lookup_byte, h]
  rfl

theorem rotate_entry {t' : List ℕ} {b : UInt8} {w : Word} (h : entry t b = number w)
    (hrot : entry t' b = rotate (entry t b)) :
    entry t' b = number ⟨w.b3, w.b0, w.b1, w.b2⟩ := by
  rw [hrot, h, rotate_number]

/-- Four lookups in the tables of a circulant matrix are its product with a column. -/
theorem roundWord_circulant {t0 t1 t2 t3 : List ℕ} {p q r s : UInt8} {f : UInt8 → UInt8}
    (h₀ : ∀ b, entry t0 b = number ⟨gmul p (f b), gmul s (f b), gmul r (f b), gmul q (f b)⟩)
    (h₁ : ∀ b, entry t1 b = rotate (entry t0 b)) (h₂ : ∀ b, entry t2 b = rotate (entry t1 b))
    (h₃ : ∀ b, entry t3 b = rotate (entry t2 b)) (a b c d : UInt8) :
    roundWord t0 t1 t2 t3 (u32 a.toNat : U32 A) (u32 b.toNat) (u32 c.toNat) (u32 d.toNat) =
      word (circulant p q r s ⟨f a, f b, f c, f d⟩) := by
  have hb := rotate_entry (h₀ b) (h₁ b)
  have hc := rotate_entry (rotate_entry (h₀ c) (h₁ c)) (h₂ c)
  have hd := rotate_entry (rotate_entry (rotate_entry (h₀ d) (h₁ d)) (h₂ d)) (h₃ d)
  rw [roundWord, lookup_word a (h₀ a), lookup_word b hb, lookup_word c hc, lookup_word d hd,
    ← word_xor, ← word_xor, ← word_xor]
  rfl

theorem te_row (a b c d : UInt8) :
    roundWord te0 te1 te2 te3 (u32 a.toNat : U32 A) (u32 b.toNat) (u32 c.toNat) (u32 d.toNat) =
      word (mixColumn (subWord ⟨a, b, c, d⟩)) :=
  roundWord_circulant te0_entry te1_entry te2_entry te3_entry a b c d

theorem td_row (a b c d : UInt8) :
    roundWord td0 td1 td2 td3 (u32 a.toNat : U32 A) (u32 b.toNat) (u32 c.toNat) (u32 d.toNat) =
      word (invMixColumn (Word.map invSbox ⟨a, b, c, d⟩)) :=
  roundWord_circulant td0_entry td1_entry td2_entry td3_entry a b c d

/-- Four masked lookups in a table that repeats a byte put the four bytes together. -/
theorem lastWord_map {f : UInt8 → UInt8}
    (h : ∀ b, entry t b = number ⟨f b, f b, f b, f b⟩) (a b c d : UInt8) :
    lastWord t (u32 a.toNat : U32 A) (u32 b.toNat) (u32 c.toNat) (u32 d.toNat) =
      word (Word.map f ⟨a, b, c, d⟩) := by
  have hmask (x : UInt8) : x &&& 0xff = x := by
    apply UInt8.toNat_inj.mp
    rw [UInt8.toNat_and]
    have hand := Nat.and_two_pow_sub_one_eq_mod x.toNat 8
    rw [Nat.mod_eq_of_lt x.toNat_lt] at hand
    exact hand
  have h₀ : (u32 0xff000000 : U32 A) = word ⟨0xff, 0, 0, 0⟩ := rfl
  have h₁ : (u32 0x00ff0000 : U32 A) = word ⟨0, 0xff, 0, 0⟩ := rfl
  have h₂ : (u32 0x0000ff00 : U32 A) = word ⟨0, 0, 0xff, 0⟩ := rfl
  have h₃ : (u32 0x000000ff : U32 A) = word ⟨0, 0, 0, 0xff⟩ := rfl
  rw [lastWord, lookup_word a (h a), lookup_word b (h b), lookup_word c (h c),
    lookup_word d (h d), h₀, h₁, h₂, h₃]
  simp only [word_and, ← word_xor, Word.xor_def, Word.map, hmask, UInt8.and_zero, UInt8.xor_zero,
    UInt8.zero_xor]

theorem te4_row (a b c d : UInt8) :
    lastWord te4 (u32 a.toNat : U32 A) (u32 b.toNat) (u32 c.toNat) (u32 d.toNat) =
      word (subWord ⟨a, b, c, d⟩) :=
  lastWord_map te4_entry a b c d

theorem td4_row (a b c d : UInt8) :
    lastWord td4 (u32 a.toNat : U32 A) (u32 b.toNat) (u32 c.toNat) (u32 d.toNat) =
      word (Word.map invSbox ⟨a, b, c, d⟩) :=
  lastWord_map td4_entry a b c d

/-- The lookups in `Td0 … Td3` substitute back what `Te4` substituted. -/
theorem invMixWord_word (w : Word) : invMixWord (word w : U32 A) = word (invMixColumn w) := by
  have hindex (b : UInt8) :
      lookup te4 (u32 b.toNat : U32 A) &&& u32 0xff = u32 (sbox b).toNat := by
    have hs := (sbox b).toNat_lt
    apply BitVec.eq_of_toNat_eq
    rw [mask_toNat, lookup_word b (te4_entry b), word_toNat, u32_toNat (by omega), number]
    exact be32_mod hs
  rw [invMixWord, byte3_word, byte2_word, byte1_word, byte0_word, hindex, hindex, hindex, hindex,
    td_row]
  simp only [Word.map, invSbox_sbox]

end AesWords
