import Obfuscation.Text.Utf8
/-!
Reading UTF-8 back. Each byte form that the encoder writes for a valid code point (no surrogate,
nothing above U+10FFFF) is a well-formed sequence that the decoder reads as that code point, so
decoding undoes encoding on every text of valid code points, and the encoding of such a text
never fails.
-/

namespace Obfuscation.Text

theorem continuation_byte : ∀ y, y < 64 →
    isContinuation (0x80 + y).toUInt8 = true ∧ payload (0x80 + y).toUInt8 = y := by
  decide +kernel

theorem lead_two : ∀ y, y < 32 → ((0xC0 + y).toUInt8 &&& 0x1F).toNat = y := by
  decide +kernel

theorem lead_three : ∀ y, y < 16 → ((0xE0 + y).toUInt8 &&& 0x0F).toNat = y := by
  decide +kernel

theorem lead_four : ∀ y, y < 8 → ((0xF0 + y).toUInt8 &&& 0x07).toNat = y := by
  decide +kernel

theorem decodeFrom_one (pos : Nat) (b : UInt8) (rest : List UInt8) (lead : b.toNat < 0x80) :
    decodeFrom pos (b :: rest) = (b.toNat :: ·) <$> decodeFrom (pos + 1) rest := by
  have n1 : b < 0x80 := by rw [UInt8.lt_iff_toNat_lt]; simpa using lead
  cases rest <;> simp only [decodeFrom, n1, if_true]

theorem decodeFrom_two (pos : Nat) (b c : UInt8) (rest : List UInt8)
    (lead : 0xC2 ≤ b.toNat ∧ b.toNat < 0xE0) (second : isContinuation c = true) :
    decodeFrom pos (b :: c :: rest) =
      (((b &&& 0x1F).toNat * 0x40 + payload c) :: ·) <$> decodeFrom (pos + 2) rest := by
  have n1 : ¬ b < 0x80 := by rw [UInt8.lt_iff_toNat_lt]; simp; omega
  have n2 : ¬ b < 0xC2 := by rw [UInt8.lt_iff_toNat_lt]; simp; omega
  have n3 : b < 0xE0 := by rw [UInt8.lt_iff_toNat_lt]; simp; omega
  simp only [decodeFrom, n1, n2, n3, if_false, if_true, second]


theorem decodeFrom_three (pos : Nat) (b c d : UInt8) (rest : List UInt8)
    (lead : 0xE0 ≤ b.toNat ∧ b.toNat < 0xF0) (second : isContinuation c = true)
    (third : isContinuation d = true) (low : b.toNat = 0xE0 → 0xA0 ≤ c.toNat)
    (high : b.toNat = 0xED → c.toNat < 0xA0) :
    decodeFrom pos (b :: c :: d :: rest) =
      (((b &&& 0x0F).toNat * 0x1000 + payload c * 0x40 + payload d) :: ·) <$>
        decodeFrom (pos + 3) rest := by
  have n1 : ¬ b < 0x80 := by rw [UInt8.lt_iff_toNat_lt]; simp; omega
  have n2 : ¬ b < 0xC2 := by rw [UInt8.lt_iff_toNat_lt]; simp; omega
  have n3 : ¬ b < 0xE0 := by rw [UInt8.lt_iff_toNat_lt]; simp; omega
  have n4 : b < 0xF0 := by rw [UInt8.lt_iff_toNat_lt]; simp; omega
  have ok : (isContinuation c && !(b == 0xE0 && c < 0xA0) && !(b == 0xED && c ≥ 0xA0)) = true := by
    simp only [second, Bool.true_and, Bool.and_eq_true, Bool.not_eq_true', Bool.and_eq_false_iff,
      decide_eq_false_iff_not, UInt8.lt_iff_toNat_lt, UInt8.le_iff_toNat_le, beq_eq_false_iff_ne,
      ne_eq, ← UInt8.toNat_inj]
    simp
    omega
  simp only [decodeFrom, n1, n2, n3, n4, if_false, if_true, ok, third]
  rfl

theorem decodeFrom_four (pos : Nat) (b c d e : UInt8) (rest : List UInt8)
    (lead : 0xF0 ≤ b.toNat ∧ b.toNat < 0xF5) (second : isContinuation c = true)
    (third : isContinuation d = true) (fourth : isContinuation e = true)
    (low : b.toNat = 0xF0 → 0x90 ≤ c.toNat) (high : b.toNat = 0xF4 → c.toNat < 0x90) :
    decodeFrom pos (b :: c :: d :: e :: rest) =
      (((b &&& 0x07).toNat * 0x40000 + payload c * 0x1000 + payload d * 0x40 + payload e) :: ·) <$>
        decodeFrom (pos + 4) rest := by
  have n1 : ¬ b < 0x80 := by rw [UInt8.lt_iff_toNat_lt]; simp; omega
  have n2 : ¬ b < 0xC2 := by rw [UInt8.lt_iff_toNat_lt]; simp; omega
  have n3 : ¬ b < 0xE0 := by rw [UInt8.lt_iff_toNat_lt]; simp; omega
  have n4 : ¬ b < 0xF0 := by rw [UInt8.lt_iff_toNat_lt]; simp; omega
  have n5 : b < 0xF5 := by rw [UInt8.lt_iff_toNat_lt]; simp; omega
  have ok : (isContinuation c && !(b == 0xF0 && c < 0x90) && !(b == 0xF4 && c ≥ 0x90)) = true := by
    simp only [second, Bool.true_and, Bool.and_eq_true, Bool.not_eq_true', Bool.and_eq_false_iff,
      decide_eq_false_iff_not, UInt8.lt_iff_toNat_lt, UInt8.le_iff_toNat_le, beq_eq_false_iff_ne,
      ne_eq, ← UInt8.toNat_inj]
    simp
    omega
  simp only [decodeFrom, n1, n2, n3, n4, n5, if_false, if_true, ok, third, fourth]
  rfl

theorem decodeFrom_utf8Code (pos c : Nat) (rest : List UInt8) (valid : c.isValidChar) :
    decodeFrom pos (utf8Code c ++ rest) =
      (c :: ·) <$> decodeFrom (pos + (utf8Code c).length) rest := by
  simp only [Nat.isValidChar] at valid
  by_cases one : c < 0x80
  · have byte : c.toUInt8.toNat = c := by simp; omega
    simp only [utf8Code, one, if_true, List.singleton_append, List.length_singleton]
    rw [decodeFrom_one _ _ _ (by omega), byte]
  by_cases two : c < 0x800
  · obtain ⟨cont, value⟩ := continuation_byte (c % 0x40) (by omega)
    have lead : (0xC0 + c / 0x40).toUInt8.toNat = 0xC0 + c / 0x40 := by simp; omega
    simp only [utf8Code, one, two, if_true, if_false, List.cons_append, List.nil_append,
      List.length_cons, List.length_nil, Nat.zero_add, Nat.reduceAdd]
    have step := decodeFrom_two pos (0xC0 + c / 0x40).toUInt8 _ rest (by omega) cont
    have whole : c / 0x40 * 0x40 + c % 0x40 = c := by omega
    rw [step, lead_two _ (by omega), value, whole]
  by_cases three : c < 0x10000
  · obtain ⟨cont2, value2⟩ := continuation_byte (c / 0x40 % 0x40) (by omega)
    obtain ⟨cont3, value3⟩ := continuation_byte (c % 0x40) (by omega)
    have lead : (0xE0 + c / 0x1000).toUInt8.toNat = 0xE0 + c / 0x1000 := by simp; omega
    have mid : (0x80 + c / 0x40 % 0x40).toUInt8.toNat = 0x80 + c / 0x40 % 0x40 := by simp; omega
    simp only [utf8Code, one, two, three, if_true, if_false, List.cons_append, List.nil_append,
      List.length_cons, List.length_nil, Nat.zero_add, Nat.reduceAdd]
    have step := decodeFrom_three pos (0xE0 + c / 0x1000).toUInt8
      (0x80 + c / 0x40 % 0x40).toUInt8 _ rest (by omega) cont2 cont3 (by omega) (by omega)
    have whole : c / 0x1000 * 0x1000 + c / 0x40 % 0x40 * 0x40 + c % 0x40 = c := by omega
    rw [step, lead_three _ (by omega), value2, value3, whole]
  · obtain ⟨cont2, value2⟩ := continuation_byte (c / 0x1000 % 0x40) (by omega)
    obtain ⟨cont3, value3⟩ := continuation_byte (c / 0x40 % 0x40) (by omega)
    obtain ⟨cont4, value4⟩ := continuation_byte (c % 0x40) (by omega)
    have lead : (0xF0 + c / 0x40000).toUInt8.toNat = 0xF0 + c / 0x40000 := by simp; omega
    have mid : (0x80 + c / 0x1000 % 0x40).toUInt8.toNat = 0x80 + c / 0x1000 % 0x40 := by
      simp; omega
    simp only [utf8Code, one, two, three, if_false, List.cons_append, List.nil_append,
      List.length_cons, List.length_nil, Nat.zero_add, Nat.reduceAdd]
    have step := decodeFrom_four pos (0xF0 + c / 0x40000).toUInt8
      (0x80 + c / 0x1000 % 0x40).toUInt8 _ _ rest (by omega) cont2 cont3 cont4 (by omega)
      (by omega)
    have whole : c / 0x40000 * 0x40000 + c / 0x1000 % 0x40 * 0x1000 + c / 0x40 % 0x40 * 0x40 +
        c % 0x40 = c := by omega
    rw [step, lead_four _ (by omega), value2, value3, value4, whole]
theorem decodeFrom_flatMap (pos : Nat) (t : Text) (valid : ∀ c ∈ t, c.isValidChar) :
    decodeFrom pos (t.flatMap utf8Code) = .ok t := by
  induction t generalizing pos with
  | nil => simp [decodeFrom]
  | cons c rest ih =>
    rw [List.flatMap_cons, decodeFrom_utf8Code _ _ _ (valid c (by simp)),
      ih _ (fun d member => valid d (by simp [member]))]
    rfl

theorem encodeFrom_flatMap (pos : Nat) (t : Text) (plain : ∀ c ∈ t, isSurrogate c = false) :
    encodeFrom pos t = .ok (t.flatMap utf8Code) := by
  induction t generalizing pos with
  | nil => rfl
  | cons c rest ih =>
    rw [encodeFrom, if_neg (by simp [plain c (by simp)]),
      ih _ (fun d member => plain d (by simp [member]))]
    rfl

theorem isSurrogate_of_isValidChar {c : Nat} (valid : c.isValidChar) : isSurrogate c = false := by
  simp only [Nat.isValidChar] at valid
  simp only [isSurrogate, Bool.and_eq_false_iff, decide_eq_false_iff_not]
  omega

/-- Encoding a text of valid code points gives the concatenated byte forms, and decoding them
gives the text back. -/
theorem decodeUtf8_encodeUtf8 (t : Text) (valid : ∀ c ∈ t, c.isValidChar) :
    encodeUtf8 t = .ok (t.flatMap utf8Code) ∧ decodeUtf8 (t.flatMap utf8Code) = .ok t :=
  ⟨encodeFrom_flatMap 0 t (fun c member => isSurrogate_of_isValidChar (valid c member)),
    decodeFrom_flatMap 0 t valid⟩

theorem ofString_isValidChar (s : String) : ∀ c ∈ Text.ofString s, c.isValidChar := by
  intro c member
  simp only [Text.ofString, List.mem_map] at member
  obtain ⟨ch, -, rfl⟩ := member
  exact ch.valid

theorem not_isSurrogate_of_encodeFrom {pos : Nat} {t : Text} {bs : List UInt8}
    (encoded : encodeFrom pos t = .ok bs) : ∀ c ∈ t, isSurrogate c = false := by
  induction t generalizing pos bs with
  | nil => simp
  | cons c rest ih =>
    rw [encodeFrom] at encoded
    split at encoded
    · cases encoded
    · rename_i plain
      rcases later : encodeFrom (pos + 1) rest with _ | tail
      · rw [later] at encoded
        cases encoded
      · intro d member
        rcases List.mem_cons.mp member with rfl | inner
        · simpa using plain
        · exact ih later d inner

theorem isValidChar_of_not_isSurrogate {c : Nat} (plain : isSurrogate c = false)
    (range : c < 0x110000) : c.isValidChar := by
  simp only [isSurrogate, Bool.and_eq_false_iff, decide_eq_false_iff_not] at plain
  simp only [Nat.isValidChar]
  omega

end Obfuscation.Text
