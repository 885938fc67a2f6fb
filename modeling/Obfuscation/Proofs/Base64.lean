import Obfuscation.Bytes.Base64
/-!
Reading base64 back. Written base64 is ASCII, every letter reads as its own six-bit value, and
the lenient reader gives back exactly the bytes that were written: full groups one by one, and a
last group of one or two bytes stopped by its `=` padding.
-/

namespace Obfuscation.Bytes

open Obfuscation.Text

theorem base64Value?_letter : ∀ n, n < 64 →
    base64Value? (base64Letter n).toNat = some n ∧ (base64Letter n).toNat ≠ 0x3D := by
  decide +kernel

theorem equals_toNat : '='.toNat = 0x3D := rfl

theorem base64Letter_mem (n : Nat) : base64Letter n = '=' ∨ base64Letter n ∈ base64Alphabet := by
  simp only [base64Letter, List.getD_eq_getElem?_getD]
  cases letter : base64Alphabet[n]? with
  | none => simp
  | some c => exact Or.inr (List.mem_of_getElem? letter)

theorem toBase64_letters (bs : List UInt8) : ∀ c ∈ (toBase64 bs).toList, c ∈ '=' :: base64Alphabet := by
  induction bs using toBase64.induct with
  | case1 => simp [toBase64]
  | case2 a => simp [toBase64, base64Letter_mem]
  | case3 a b => simp [toBase64, base64Letter_mem]
  | case4 a b c rest ih =>
    simp only [toBase64, String.toList_append, String.toList_ofList, List.mem_append]
    rintro c (letter | later)
    · simp only [List.mem_cons, List.not_mem_nil, or_false] at letter
      rcases letter with rfl | rfl | rfl | rfl <;> exact List.mem_cons.mpr (base64Letter_mem _)
    · exact ih c later

theorem toBase64_visible (bs : List UInt8) : ∀ c ∈ (toBase64 bs).toList,
    0x20 ≤ c.toNat ∧ c.toNat ≤ 0x7E ∧ c ≠ '\\' ∧ c ≠ '\'' ∧ c ≠ '"' := by
  -- the table is checked as one Boolean: the propositional form sends instance search deep
  have table : (('=' :: base64Alphabet).all fun c =>
      0x20 ≤ c.toNat && c.toNat ≤ 0x7E && c != '\\' && c != '\'' && c != '"') = true := by
    decide +kernel
  intro c written
  have visible := List.all_eq_true.mp table c (toBase64_letters bs c written)
  simp only [Bool.and_eq_true, decide_eq_true_eq, bne_iff_ne, ne_eq] at visible
  obtain ⟨⟨⟨⟨low, high⟩, notSlash⟩, notQuote⟩, notDouble⟩ := visible
  exact ⟨low, high, notSlash, notQuote, notDouble⟩

theorem toBase64_ascii (bs : List UInt8) : ∀ c ∈ Text.ofString (toBase64 bs), c < 0x80 := by
  intro c mem
  obtain ⟨letter, written, rfl⟩ := List.mem_map.mp mem
  have high := (toBase64_visible bs letter written).2.1
  omega

theorem readBase64_toBase64_group (out : List UInt8) (a b c : UInt8) (rest : List UInt8) :
    readBase64 ⟨0, 0, 0, out⟩ (Text.ofString (toBase64 (a :: b :: c :: rest))) =
      readBase64 ⟨0, 0, 0, out ++ [a, b, c]⟩ (Text.ofString (toBase64 rest)) := by
  have ha := a.toNat_lt
  have hb := b.toNat_lt
  have hc := c.toNat_lt
  simp only [toBase64, Text.ofString, String.toList_append, String.toList_ofList,
    List.map_cons, List.cons_append, List.nil_append]
  generalize hn : a.toNat * 65536 + b.toNat * 256 + c.toNat = n
  obtain ⟨v1, p1⟩ := base64Value?_letter (n / 0x40000) (by omega)
  obtain ⟨v2, p2⟩ := base64Value?_letter (n / 0x1000 % 64) (by omega)
  obtain ⟨v3, p3⟩ := base64Value?_letter (n / 0x40 % 64) (by omega)
  obtain ⟨v4, p4⟩ := base64Value?_letter (n % 64) (by omega)
  simp only [readBase64, beq_iff_eq, p1, p2, p3, p4, v1, v2, v3, v4, if_false, List.append_assoc,
    List.cons_append, List.nil_append]
  congr
  · apply UInt8.toNat_inj.mp; simp only [Nat.toUInt8_eq, UInt8.toNat_ofNat']; omega
  · apply UInt8.toNat_inj.mp; simp only [Nat.toUInt8_eq, UInt8.toNat_ofNat']; omega
  · apply UInt8.toNat_inj.mp; simp only [Nat.toUInt8_eq, UInt8.toNat_ofNat']; omega

theorem readBase64_toBase64_single (out : List UInt8) (a : UInt8) :
    let result := readBase64 ⟨0, 0, 0, out⟩ (Text.ofString (toBase64 [a]))
    result.1.out = out ++ [a] ∧ result.2 = true := by
  have ha := a.toNat_lt
  simp only [toBase64, Text.ofString, String.toList_ofList, List.map_cons, List.map_nil]
  generalize hn : a.toNat * 65536 = n
  obtain ⟨v1, p1⟩ := base64Value?_letter (n / 0x40000) (by omega)
  obtain ⟨v2, p2⟩ := base64Value?_letter (n / 0x1000 % 64) (by omega)
  simp only [readBase64, beq_iff_eq, p1, p2, v1, v2, equals_toNat, if_false, if_true]
  -- the second `=` completes the group and stops the reading
  simp only [ge_iff_le, Nat.le_refl, if_true, Nat.reduceAdd, Nat.reduceLeDiff, if_false]
  refine ⟨?_, trivial⟩
  congr
  apply UInt8.toNat_inj.mp
  simp only [Nat.toUInt8_eq, UInt8.toNat_ofNat']
  omega

theorem readBase64_toBase64_pair (out : List UInt8) (a b : UInt8) :
    let result := readBase64 ⟨0, 0, 0, out⟩ (Text.ofString (toBase64 [a, b]))
    result.1.out = out ++ [a, b] ∧ result.2 = true := by
  have ha := a.toNat_lt
  have hb := b.toNat_lt
  simp only [toBase64, Text.ofString, String.toList_ofList, List.map_cons, List.map_nil]
  generalize hn : a.toNat * 65536 + b.toNat * 256 = n
  obtain ⟨v1, p1⟩ := base64Value?_letter (n / 0x40000) (by omega)
  obtain ⟨v2, p2⟩ := base64Value?_letter (n / 0x1000 % 64) (by omega)
  obtain ⟨v3, p3⟩ := base64Value?_letter (n / 0x40 % 64) (by omega)
  simp only [readBase64, beq_iff_eq, p1, p2, p3, v1, v2, v3, equals_toNat, if_false, if_true]
  simp only [ge_iff_le, Nat.le_refl, if_true, Nat.reduceAdd, Nat.reduceLeDiff]
  refine ⟨?_, trivial⟩
  simp only [List.append_assoc, List.cons_append, List.nil_append]
  congr
  · apply UInt8.toNat_inj.mp; simp only [Nat.toUInt8_eq, UInt8.toNat_ofNat']; omega
  · apply UInt8.toNat_inj.mp; simp only [Nat.toUInt8_eq, UInt8.toNat_ofNat']; omega

/-- Reading written base64 appends the written bytes, and ends with a complete group or stops
at the padding. -/
theorem readBase64_toBase64 (out bs : List UInt8) :
    let result := readBase64 ⟨0, 0, 0, out⟩ (Text.ofString (toBase64 bs))
    result.1.out = out ++ bs ∧ (result.2 || result.1.filled == 0) = true := by
  induction bs using toBase64.induct generalizing out with
  | case1 => simp [toBase64, Text.ofString, readBase64]
  | case2 a =>
    obtain ⟨bytes, stopped⟩ := readBase64_toBase64_single out a
    exact ⟨bytes, by simp [stopped]⟩
  | case3 a b =>
    obtain ⟨bytes, stopped⟩ := readBase64_toBase64_pair out a b
    exact ⟨bytes, by simp [stopped]⟩
  | case4 a b c rest ih =>
    rw [readBase64_toBase64_group]
    obtain ⟨bytes, finished⟩ := ih (out ++ [a, b, c])
    exact ⟨by simp [bytes], finished⟩

theorem ofBase64_toBase64 (bs : List UInt8) :
    ofBase64 (Text.ofString (toBase64 bs)) = .ok bs := by
  have ascii : (Text.ofString (toBase64 bs)).any (· ≥ 0x80) = false := by
    rw [List.any_eq_false]
    intro c member
    have bound := toBase64_ascii bs c member
    simp
    omega
  obtain ⟨bytes, finished⟩ := readBase64_toBase64 [] bs
  simp only [ofBase64, ascii, Bool.false_eq_true, if_false, finished, if_true, bytes,
    List.nil_append]

end Obfuscation.Bytes
