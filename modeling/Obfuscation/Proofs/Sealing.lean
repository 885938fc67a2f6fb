import Obfuscation.Proofs.Base64
import Obfuscation.Proofs.Utf8
import Obfuscation.Proofs.Run
import Obfuscation.Proofs.Outcome
/-!
Sealed strings open to what was sealed. Padding adds one to sixteen copies of its own length and
unpadding cuts them again; the padded text is valid UTF-8 material, the cipher feedback register
runs the same in both directions under any block function, and base64 reads back what it wrote.
So for every string, every block function and every block-sized vector, opening the sealed bytes
gives the string back; with AES under a key of an AES size, the `decrypt_string` function opens
the sealed text to the string itself.
-/

namespace Obfuscation.Cipher

open Obfuscation.Text Obfuscation.Bytes

theorem padLength_bounds (t : Text) : 0 < padLength t ∧ padLength t ≤ 16 := by
  simp only [padLength]
  omega

theorem unpad_pad (t : Text) : unpad (pad t) = .ok t := by
  obtain ⟨j, hj⟩ : ∃ j, padLength t = j + 1 :=
    ⟨padLength t - 1, by have := padLength_bounds t; omega⟩
  simp only [unpad, pad, hj, List.getLast?_append, List.getLast?_replicate]
  simp

theorem pad_isValidChar (t : Text) (valid : ∀ c ∈ t, c.isValidChar) :
    ∀ c ∈ pad t, c.isValidChar := by
  intro c member
  simp only [pad, List.mem_append, List.mem_replicate] at member
  rcases member with original | ⟨-, rfl⟩
  · exact valid c original
  · have bounds := padLength_bounds t
    simp only [Nat.isValidChar]
    omega

theorem pad_not_isSurrogate {t : Text} (plain : ∀ c ∈ t, isSurrogate c = false) :
    ∀ c ∈ pad t, isSurrogate c = false := by
  intro c member
  rcases List.mem_append.mp member with inner | padding
  · exact plain c inner
  · -- the padding code points are the padding length, at most sixteen
    rw [List.eq_of_mem_replicate padding]
    have short := (padLength_bounds t).2
    simp only [isSurrogate, Bool.and_eq_false_iff, decide_eq_false_iff_not]
    omega

theorem mapError_ok {ε ε' α : Type} (f : ε → ε') (a : α) :
    (Except.ok a : Except ε α).mapError f = .ok a := rfl

theorem mapError_error {ε ε' α : Type} (f : ε → ε') (e : ε) :
    (Except.error e : Except ε α).mapError f = .error (f e) := rfl

theorem prepareKey_ok (key : List UInt8)
    (keySize : key.length = 16 ∨ key.length = 24 ∨ key.length = 32) :
    prepareKey key = .ok (roundKeys key) := by
  rcases keySize with size | size | size <;> simp [prepareKey, size]

theorem prepareVector_ok (iv : List UInt8) (ivSize : iv.length = 16) :
    prepareVector iv = .ok iv.toArray := by
  simp [prepareVector, ivSize]

theorem prepareKey_eq_ok {key : List UInt8} {keys : List Block}
    (prepared : prepareKey key = .ok keys) :
    (key.length = 16 ∨ key.length = 24 ∨ key.length = 32) ∧ keys = roundKeys key := by
  unfold prepareKey at prepared
  split at prepared
  · rename_i size
    cases prepared
    simpa [or_assoc] using size
  · cases prepared

theorem prepareVector_eq_ok {iv : List UInt8} {block : Block}
    (prepared : prepareVector iv = .ok block) :
    iv.length = 16 ∧ block = iv.toArray := by
  unfold prepareVector at prepared
  split at prepared
  · rename_i size
    cases prepared
    simpa using size
  · cases prepared

theorem not_isSurrogate_of_sealWith {E : Block → Block} {iv : Block} {plain : Text}
    {sealed : String} (h : sealWith E iv plain = .ok sealed) :
    ∀ c ∈ plain, isSurrogate c = false := by
  rcases encoded : encodeUtf8 (pad plain) with _ | bytes
  · simp only [sealWith, encoded, mapError_error] at h
    cases h
  · intro c member
    exact not_isSurrogate_of_encodeFrom encoded c (List.mem_append_left _ member)

theorem openWith_sealWith (E : Block → Block) (plain : Text) (valid : ∀ c ∈ plain, c.isValidChar)
    (iv : List UInt8) (ivSize : iv.length = 16) :
    ∃ bytes, sealWith E iv.toArray plain = .ok (toBase64 bytes) ∧ openWith E bytes = .ok plain := by
  obtain ⟨encoded, decoded⟩ := decodeUtf8_encodeUtf8 (pad plain) (pad_isValidChar plain valid)
  let ciphertext := encryptFeedback E iv.toArray ((pad plain).flatMap utf8Code)
  refine ⟨iv ++ ciphertext, ?_, ?_⟩
  · simp only [sealWith, encoded, mapError_ok]
    rfl
  · -- the first block of the sealed bytes is the vector, the rest the ciphertext
    have front : (iv ++ ciphertext).take 16 = iv := by simp [ivSize]
    have back : (iv ++ ciphertext).drop 16 = ciphertext := by simp [ivSize]
    simp only [openWith, Bind.bind, Except.bind, front, back, prepareVector_ok iv ivSize,
      ciphertext, decryptFeedback_encryptFeedback, decoded, mapError_ok, unpad_pad]

/-- Sealing a text of valid code points with AES succeeds, and `reveal` opens the sealed text
with the base64 form of the key. -/
theorem reveal_sealWith (plain : Text) (valid : ∀ c ∈ plain, c.isValidChar) (key : List UInt8)
    (keySize : key.length = 16 ∨ key.length = 24 ∨ key.length = 32) (iv : List UInt8)
    (ivSize : iv.length = 16) :
    ∃ sealed, sealWith (encryptBlock (roundKeys key)) iv.toArray plain = .ok sealed ∧
      reveal (Text.ofString sealed) (Text.ofString (toBase64 key)) = .ok plain := by
  obtain ⟨bytes, sealed, opens⟩ :=
    openWith_sealWith (encryptBlock (roundKeys key)) plain valid iv ivSize
  refine ⟨toBase64 bytes, sealed, ?_⟩
  simp only [reveal, ofBase64_toBase64, Bind.bind, Except.bind, prepareKey_ok key keySize, opens]

end Obfuscation.Cipher

namespace Obfuscation

open Text Bytes Cipher

theorem sealText_run (key : List UInt8)
    (keySize : key.length = 16 ∨ key.length = 24 ∨ key.length = 32) (σ : Session)
    (iv : List UInt8) (drawn : σ.entropy.drawVector.1 = .ok iv) (ivSize : iv.length = 16)
    (plain : Text) :
    (Run.sealText key plain).run.run σ =
      (sealWith (encryptBlock (roundKeys key)) iv.toArray plain,
        { σ with entropy := σ.entropy.drawVector.2 }) := by
  have draw := Run.run_drawVector σ
  rw [drawn] at draw
  simp only [Run.sealText, prepareKey_ok key keySize]
  rw [Run.run_bind_ok (Run.run_ofExcept _ _), Run.run_bind_ok draw, prepareVector_ok iv ivSize,
    Run.run_bind_ok (Run.run_ofExcept _ _), Run.run_ofExcept]

/-- Every string (so every text without surrogates), sealed under a key of 16, 24 or 32 bytes
with a drawn vector of 16 bytes, is given back whole by `decrypt_string` on the sealed text and
the base64 form of the key. -/
theorem reveal_sealText (s : String) (key : List UInt8)
    (keySize : key.length = 16 ∨ key.length = 24 ∨ key.length = 32) (σ : Session)
    (iv : List UInt8) (drawn : σ.entropy.drawVector.1 = .ok iv) (ivSize : iv.length = 16) :
    ∃ sealed, ((Run.sealText key (Text.ofString s)).run.run σ).1 = .ok sealed ∧
      reveal (Text.ofString sealed) (Text.ofString (toBase64 key)) = .ok (Text.ofString s) := by
  rw [sealText_run key keySize σ iv drawn ivSize]
  exact reveal_sealWith (Text.ofString s) (ofString_isValidChar s) key keySize iv ivSize

theorem reveal_sealText_twoAndFourByte :
    let key : List UInt8 := (List.range 16).map Nat.toUInt8
    let iv : List UInt8 := (List.range 16).map fun t => (16 * 0 + t).toUInt8
    (key.length = 16 ∨ key.length = 24 ∨ key.length = 32) ∧
      ({} : Session).entropy.drawVector.1 = .ok iv ∧ iv.length = 16 ∧
      ∃ sealed, ((Run.sealText key (Text.ofString "é😀")).run.run {}).1 = .ok sealed ∧
        reveal (Text.ofString sealed) (Text.ofString (toBase64 key)) =
          .ok (Text.ofString "é😀") :=
  ⟨Or.inl rfl, rfl, rfl, reveal_sealText "é😀" _ (Or.inl rfl) {} _ rfl rfl⟩

theorem reveal_of_sealText {key : List UInt8} {plain : Text} {sealed : String}
    (h : Run.Returns (Run.sealText key plain) sealed) (range : ∀ c ∈ plain, c < 0x110000) :
    reveal (Text.ofString sealed) (Text.ofString (toBase64 key)) = .ok plain := by
  simp only [Run.sealText] at h
  obtain ⟨keys, prepared, h⟩ := Run.returns_bind h
  obtain ⟨ivBytes, -, h⟩ := Run.returns_bind h
  obtain ⟨iv, vector, h⟩ := Run.returns_bind h
  obtain ⟨keySize, rfl⟩ := prepareKey_eq_ok (Run.returns_ofExcept prepared)
  obtain ⟨ivSize, rfl⟩ := prepareVector_eq_ok (Run.returns_ofExcept vector)
  have sealedOk := Run.returns_ofExcept h
  have valid : ∀ c ∈ plain, c.isValidChar := fun c member =>
    isValidChar_of_not_isSurrogate (not_isSurrogate_of_sealWith sealedOk c member) (range c member)
  obtain ⟨sealed', sealedOk', opens⟩ := reveal_sealWith plain valid key keySize ivBytes ivSize
  rw [sealedOk'] at sealedOk
  cases sealedOk
  exact opens

end Obfuscation
