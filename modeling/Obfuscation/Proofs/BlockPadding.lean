import Obfuscation.Proofs.Sealing
/-!
Padding in bytes. Padding counts code points, so the UTF-8 form of a padded text is the text's
bytes followed by the count once per padding code point. Main statement
(`encodeUtf8_pad_blockPadding_iff`): this is the PKCS#7 padding of the text's bytes exactly when
the text's byte and code-point counts agree modulo 16.
-/

namespace Obfuscation.Cipher

open Obfuscation.Text

/-- `padded` is `bytes` followed by `n` copies of the byte `n`, for an `n` from 1 to 16: its
last byte says how many to cut, and cutting them leaves `bytes`. -/
def EndsInCount (bytes padded : List UInt8) : Prop :=
  ∃ n, 1 ≤ n ∧ n ≤ 16 ∧ padded = bytes ++ List.replicate n n.toUInt8

/-- `padded` is the PKCS#7 padding of `bytes` to 16-byte blocks: a positive whole number of
blocks that ends in its own count. -/
def IsBlockPadding (bytes padded : List UInt8) : Prop :=
  padded.length % 16 = 0 ∧ EndsInCount bytes padded

theorem utf8Code_of_lt {c : Nat} (ascii : c < 0x80) : utf8Code c = [c.toUInt8] := by
  simp [utf8Code, ascii]

theorem flatMap_utf8Code_replicate {c : Nat} (ascii : c < 0x80) (n : Nat) :
    (List.replicate n c).flatMap utf8Code = List.replicate n c.toUInt8 := by
  induction n with
  | zero => rfl
  | succ n ih => simp [List.replicate_succ, utf8Code_of_lt ascii, ih]

theorem encodeUtf8_pad (t : Text) (plain : ∀ c ∈ t, isSurrogate c = false) :
    encodeUtf8 (pad t) =
      .ok (t.flatMap utf8Code ++ List.replicate (padLength t) (padLength t).toUInt8) := by
  have ascii : padLength t < 0x80 := by
    have := (padLength_bounds t).2
    omega
  rw [encodeUtf8, encodeFrom_flatMap 0 _ (pad_not_isSurrogate plain), pad, List.flatMap_append,
    flatMap_utf8Code_replicate ascii]

theorem endsInCount_padLength (t : Text) (bytes : List UInt8) :
    EndsInCount bytes (bytes ++ List.replicate (padLength t) (padLength t).toUInt8) :=
  ⟨padLength t, (padLength_bounds t).1, (padLength_bounds t).2, rfl⟩

theorem length_append_padLength_mod (t : Text) (bytes : List UInt8) :
    (bytes ++ List.replicate (padLength t) (padLength t).toUInt8).length % 16 = 0 ↔
      bytes.length % 16 = t.length % 16 := by
  simp only [List.length_append, List.length_replicate, padLength]
  omega

/-- Bytes followed by code-point padding are PKCS#7-padded exactly when the bytes and the text
agree in length modulo 16: the count at the end is always right, the block length not. -/
theorem isBlockPadding_padLength_iff (t : Text) (bytes : List UInt8) :
    IsBlockPadding bytes (bytes ++ List.replicate (padLength t) (padLength t).toUInt8) ↔
      bytes.length % 16 = t.length % 16 := by
  rw [IsBlockPadding, length_append_padLength_mod]
  exact and_iff_left (endsInCount_padLength t _)

theorem encodeUtf8_pad_blockPadding_iff (t : Text) (plain : ∀ c ∈ t, isSurrogate c = false) :
    ∃ bytes padded, encodeUtf8 t = .ok bytes ∧ encodeUtf8 (pad t) = .ok padded ∧
      EndsInCount bytes padded ∧
      (IsBlockPadding bytes padded ↔ bytes.length % 16 = t.length % 16) :=
  ⟨t.flatMap utf8Code, _, encodeFrom_flatMap 0 t plain, encodeUtf8_pad t plain,
    endsInCount_padLength t _, isBlockPadding_padLength_iff t _⟩

theorem encodeUtf8_pad_threeByteChars :
    let t : Text := [0x4E2D, 0x6587]
    (∀ c ∈ t, isSurrogate c = false) ∧
      ∃ bytes padded, encodeUtf8 t = .ok bytes ∧ encodeUtf8 (pad t) = .ok padded ∧
        EndsInCount bytes padded ∧
        (IsBlockPadding bytes padded ↔ bytes.length % 16 = t.length % 16) :=
  ⟨by decide, encodeUtf8_pad_blockPadding_iff _ (by decide)⟩

/-- A single two-byte character is not PKCS#7-padded: `é` is the bytes `C3 A9`, and padding
adds fifteen bytes `0F`, one per missing code point, seventeen bytes in all. -/
theorem pad_two_byte_char_not_blockPadding :
    encodeUtf8 (pad [0xE9]) = .ok ([0xC3, 0xA9] ++ List.replicate 15 15) ∧
      ¬ ∃ bytes padded, encodeUtf8 [0xE9] = .ok bytes ∧ encodeUtf8 (pad [0xE9]) = .ok padded ∧
        IsBlockPadding bytes padded := by
  have encoded : encodeUtf8 (pad [0xE9]) = .ok ([0xC3, 0xA9] ++ List.replicate 15 15) := by
    rw [encodeUtf8_pad _ (by decide)]
    rfl
  refine ⟨encoded, ?_⟩
  rintro ⟨bytes, padded, -, padEncoded, whole, -⟩
  rw [encoded] at padEncoded
  cases padEncoded
  exact absurd whole (by decide)

theorem length_flatMap_utf8Code_of_ascii {t : Text} (ascii : ∀ c ∈ t, c < 0x80) :
    (t.flatMap utf8Code).length = t.length := by
  induction t with
  | nil => rfl
  | cons c rest ih =>
    rw [List.flatMap_cons, List.length_append, utf8Code_of_lt (ascii c (by simp)),
      ih (fun d member => ascii d (by simp [member])), List.length_singleton, List.length_cons,
      Nat.add_comm]

theorem encodeUtf8_pad_isBlockPadding_of_ascii {t : Text} (ascii : ∀ c ∈ t, c < 0x80) :
    ∃ bytes padded, encodeUtf8 t = .ok bytes ∧ encodeUtf8 (pad t) = .ok padded ∧
      IsBlockPadding bytes padded := by
  have plain : ∀ c ∈ t, isSurrogate c = false := fun c member =>
    isSurrogate_of_isValidChar (by have := ascii c member; simp only [Nat.isValidChar]; omega)
  refine ⟨t.flatMap utf8Code, _, encodeFrom_flatMap 0 t plain, encodeUtf8_pad t plain,
    (isBlockPadding_padLength_iff t _).mpr ?_⟩
  rw [length_flatMap_utf8Code_of_ascii ascii]

end Obfuscation.Cipher
