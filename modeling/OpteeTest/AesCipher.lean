import OpteeTest.AesKeySchedule
import Mathlib.Tactic.IntervalCases

/-! # The block functions are the standard's ciphers

One simulation serves both directions: the loop over two rounds an iteration runs the rounds of
a key-alternating cipher. Encryption is the reference cipher; decryption is its equivalent
inverse. -/
namespace AesCipher

open ByteMemory TeeApi KeyAlternating AesSpec AesTables AesImpl AesWords AesKeySchedule

variable {A : Arch} {K : KeySize}

theorem teRound_words (s k : State) : teRound (words s : Words A) (words k) =
    words (mixColumns (shiftRows (subBytes s)) ^^^ k) := by
  simp only [teRound, words, byte3_word, byte2_word, byte1_word, byte0_word, te_row, ← word_xor]
  rfl

theorem te4Round_words (s k : State) : te4Round (words s : Words A) (words k) =
    words (shiftRows (subBytes s) ^^^ k) := by
  simp only [te4Round, words, byte3_word, byte2_word, byte1_word, byte0_word, te4_row, ← word_xor]
  rfl

theorem tdRound_words (s k : State) : tdRound (words s : Words A) (words k) =
    words (invMixColumns (invSubBytes (invShiftRows s)) ^^^ k) := by
  simp only [tdRound, words, byte3_word, byte2_word, byte1_word, byte0_word, td_row, ← word_xor]
  rfl

theorem td4Round_words (s k : State) : td4Round (words s : Words A) (words k) =
    words (invSubBytes (invShiftRows s) ^^^ k) := by
  simp only [td4Round, words, byte3_word, byte2_word, byte1_word, byte0_word, td4_row, ← word_xor]
  rfl

def Computes (round : Words A → Words A → Words A) (f : State → State) : Prop :=
  ∀ s k, round (words s) (words k) = words (f s ^^^ k)

def HoldsKeys (k : ℕ → State) (n : ℕ) (rk : Memory (U32 A)) : Prop :=
  ∀ r ≤ n, keyWords rk (4 * r) = words (k r)

variable {round last : Words A → Words A → Words A} {f g : State → State} {k : ℕ → State}
variable {rk : Memory (U32 A)} {n : ℕ}

/-- Started after an even number of rounds, the loop ends after an odd one. -/
theorem roundLoop_eq (hround : Computes round f) (hk : HoldsKeys k n rk) (s : State) (r j : ℕ)
    (hn : 2 * (j + r + 1) ≤ n) :
    roundLoop round rk (r + 1) (8 * j) (words (rounds f k s (2 * j))) =
      some (8 * (j + r + 1), words (rounds f k s (2 * (j + r) + 1))) := by
  have hodd (j : ℕ) (hj : 2 * j + 1 ≤ n) : round (words (rounds f k s (2 * j)))
      (keyWords rk (8 * j + 4)) = words (rounds f k s (2 * j + 1)) := by
    have hp : 8 * j + 4 = 4 * (2 * j + 1) := by omega
    rw [hp, hk _ hj, hround]
    rfl
  have heven (j : ℕ) (hj : 2 * j + 2 ≤ n) : round (words (rounds f k s (2 * j + 1)))
      (keyWords rk (8 * j + 8)) = words (rounds f k s (2 * (j + 1))) := by
    have hp : 8 * j + 8 = 4 * (2 * j + 2) := by omega
    rw [hp, hk _ hj, hround]
    rfl
  induction r generalizing j with
  | zero =>
    rw [roundLoop, hodd j (by omega)]
    rfl
  | succ r ih =>
    have hnext := ih (j + 1) (by omega)
    have hcount : j + 1 + r = j + (r + 1) := by omega
    rw [hcount] at hnext
    rw [roundLoop, hodd j (by omega), if_neg (Nat.succ_ne_zero r), heven j (by omega)]
    exact hnext

theorem getu32_block (input : Memory UInt8) :
    (⟨getu32 input 0, getu32 input 4, getu32 input 8, getu32 input 12⟩ : Words A) =
      words (.ofBlock (slice input 0 16)) := by
  simp only [getu32_eq, words, State.ofBlock, Word.ofBytes, slice]
  rfl

theorem cryptBlock_eq (hround : Computes round f) (hlast : Computes last g)
    (hk : HoldsKeys k (2 * (n + 1)) rk) (input : Memory UInt8) :
    cryptBlock round last rk (2 * (n + 1)) input =
      some (g (rounds f k (.ofBlock (slice input 0 16)) (2 * n + 1)) ^^^
        k (2 * (n + 1))).block := by
  have hstart : (⟨getu32 input 0 ^^^ rk 0, getu32 input 4 ^^^ rk 1, getu32 input 8 ^^^ rk 2,
      getu32 input 12 ^^^ rk 3⟩ : Words A) =
        words (rounds f k (.ofBlock (slice input 0 16)) (2 * 0)) := by
    have hinput := getu32_block (A := A) input
    have hkey := hk 0 (Nat.zero_le _)
    simp only [words, keyWords, Words.mk.injEq] at hinput hkey
    obtain ⟨hi₀, hi₁, hi₂, hi₃⟩ := hinput
    obtain ⟨hk₀, hk₁, hk₂, hk₃⟩ := hkey
    simp only [Nat.mul_zero, Nat.zero_add] at hk₀ hk₁ hk₂ hk₃
    rw [hi₀, hi₁, hi₂, hi₃, hk₀, hk₁, hk₂, hk₃]
    simp only [← word_xor]
    rfl
  have hloop := roundLoop_eq hround hk (.ofBlock (slice input 0 16)) n 0 (by omega)
  have hcount : (2 * (n + 1)) >>> 1 = n + 1 := by
    rw [Nat.shiftRight_eq_div_pow]
    omega
  have hend : 8 * (0 + n + 1) = 4 * (2 * (n + 1)) := by omega
  rw [hend, Nat.zero_add] at hloop
  unfold cryptBlock
  dsimp only
  rw [hstart, hcount, ← Nat.mul_zero 8, hloop, Option.map_some]
  dsimp only
  rw [hk _ (Nat.le_refl _), hlast]
  simp only [words, putu32_word]
  rfl

theorem rounds_even (K : KeySize) : ∃ n, K.rounds = 2 * (n + 1) := by
  cases K
  · exact ⟨4, rfl⟩
  · exact ⟨5, rfl⟩
  · exact ⟨6, rfl⟩

theorem encrypt_keys {key : List UInt8} (hk : HoldsKeys (roundKey K key) K.rounds rk)
    (plaintext : Memory UInt8) : rijndaelEncrypt rk K.rounds plaintext =
      some (encryptBlock K key (slice plaintext 0 16)) := by
  obtain ⟨n, hn⟩ := rounds_even K
  rw [hn] at hk
  rw [rijndaelEncrypt, hn, cryptBlock_eq teRound_words te4Round_words hk, encryptBlock, cipher_eq,
    hn]
  rfl

def decryptBlock (K : KeySize) (key block : List UInt8) : List UInt8 :=
  (layers.symm.cipher (decryptionKey K key) (K.rounds - 1) (.ofBlock block)).block

theorem decrypt_keys {key : List UInt8} (hk : HoldsKeys (decryptionKey K key) K.rounds rk)
    (ciphertext : Memory UInt8) : rijndaelDecrypt rk K.rounds ciphertext =
      some (decryptBlock K key (slice ciphertext 0 16)) := by
  obtain ⟨n, hn⟩ := rounds_even K
  rw [hn] at hk
  rw [rijndaelDecrypt, hn, cryptBlock_eq tdRound_words td4Round_words hk, decryptBlock, hn]
  rfl

theorem setup_encrypt (K : KeySize) (rk : Memory (U32 A)) (key plaintext : Memory UInt8) :
    let ek := rijndaelSetupEncrypt rk key (keyBits K)
    rijndaelEncrypt ek.2 ek.1 plaintext =
      some (encryptBlock K (keyBytes K key) (slice plaintext 0 16)) := by
  dsimp only
  rw [setupEncrypt_rounds]
  exact encrypt_keys (fun _ hr => setupEncrypt_keys rk key hr) plaintext

theorem setup_decrypt (K : KeySize) (rk : Memory (U32 A)) (key ciphertext : Memory UInt8) :
    let dk := rijndaelSetupDecrypt rk key (keyBits K)
    rijndaelDecrypt dk.2 dk.1 ciphertext =
      some (decryptBlock K (keyBytes K key) (slice ciphertext 0 16)) := by
  dsimp only
  rw [setupDecrypt_rounds]
  exact decrypt_keys (fun _ hr => setupDecrypt_keys rk key hr) ciphertext

/-- Key setup and block function together are the cipher of the standard. -/
theorem rijndael_encrypt_fips (K : KeySize) (rk : Memory (U32 A)) (key plaintext : Memory UInt8) :
    let ek := rijndaelSetupEncrypt rk key (keyBits K)
    rijndaelEncrypt ek.2 ek.1 plaintext =
      some (cipher K (slice key 0 (4 * K.words)) (.ofBlock (slice plaintext 0 16))).block :=
  setup_encrypt K rk key plaintext

theorem ofBlock_block (s : State) : State.ofBlock s.block = s := rfl

theorem block_ofBlock {l : List UInt8} (h : l.length = 16) : (State.ofBlock l).block = l := by
  apply List.ext_getElem
  · rw [h]
    rfl
  · intro i hi _
    have hi' : i < 16 := hi
    have hget (j : ℕ) (hj : j < 16) : l.getD j 0 = l[j] := List.getD_eq_getElem _ _ (by omega)
    simp only [State.ofBlock, Word.ofBytes, State.block, Word.bytes]
    rw [← hget i hi']
    interval_cases i <;> rfl

theorem encryptBlock_length (key block : List UInt8) : (encryptBlock K key block).length = 16 :=
  rfl

theorem decryptBlock_length (key block : List UInt8) : (decryptBlock K key block).length = 16 :=
  rfl

theorem decryptBlock_encryptBlock (key : List UInt8) {block : List UInt8}
    (h : block.length = 16) : decryptBlock K key (encryptBlock K key block) = block := by
  rw [decryptBlock, encryptBlock, ofBlock_block, cipher_eq,
    cipher_symm_cipher (decryptionKey_inverse K key), block_ofBlock h]

theorem encryptBlock_decryptBlock (key : List UInt8) {block : List UInt8}
    (h : block.length = 16) : encryptBlock K key (decryptBlock K key block) = block := by
  rw [encryptBlock, decryptBlock, ofBlock_block, cipher_eq,
    cipher_cipher_symm (decryptionKey_inverse K key), block_ofBlock h]

/-- Each direction undoes the other, whatever the schedule arrays and `out` held before. -/
theorem rijndael_inverse (K : KeySize) (rk rk' : Memory (U32 A)) (key p out : Memory UInt8) :
    let ek := rijndaelSetupEncrypt rk key (keyBits K)
    let dk := rijndaelSetupDecrypt rk' key (keyBits K)
    ek.1 = dk.1 ∧
    (∃ c, rijndaelEncrypt ek.2 ek.1 p = some c ∧
      rijndaelDecrypt dk.2 dk.1 (copyIn out 0 c) = some (slice p 0 16)) ∧
    (∃ c, rijndaelDecrypt dk.2 dk.1 p = some c ∧
      rijndaelEncrypt ek.2 ek.1 (copyIn out 0 c) = some (slice p 0 16)) := by
  refine ⟨?_, ⟨_, setup_encrypt K rk key p, ?_⟩, ⟨_, setup_decrypt K rk' key p, ?_⟩⟩
  · rw [setupEncrypt_rounds, setupDecrypt_rounds]
  · have hslice := slice_copyIn out 0 (encryptBlock K (keyBytes K key) (slice p 0 16))
    rw [encryptBlock_length] at hslice
    rw [setup_decrypt, hslice, decryptBlock_encryptBlock _ (length_slice _ _ _)]
  · have hslice := slice_copyIn out 0 (decryptBlock K (keyBytes K key) (slice p 0 16))
    rw [decryptBlock_length] at hslice
    rw [setup_encrypt, hslice, encryptBlock_decryptBlock _ (length_slice _ _ _)]

end AesCipher
