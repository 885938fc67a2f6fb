/-!
Text as a list of code points.

A code point here is any number below `0x110000`, surrogates included: text that arrives with a
lone surrogate keeps it, and only encoding to bytes refuses it. Source code, names and output
lines are ordinary `String`s; string values that a program can compute are `Text`.
-/

namespace Obfuscation

abbrev Text := List Nat

namespace Text

def ofString (s : String) : Text := s.toList.map Char.toNat

def isSurrogate (c : Nat) : Bool := 0xD800 ≤ c && c ≤ 0xDFFF

def charOf (c : Nat) : Char :=
  if c.isValidChar then Char.ofNat c else '\uFFFD'

def toString (t : Text) : String := String.ofList (t.map charOf)

theorem charOf_toNat (c : Char) : charOf c.toNat = c := by
  have h : c.toNat.isValidChar := by
    have := c.valid
    simp only [UInt32.isValidChar, Nat.isValidChar] at this ⊢
    exact this
  simp [charOf, h]

@[simp] theorem toString_ofString (s : String) : toString (ofString s) = s := by
  simp [toString, ofString, Function.comp_def, charOf_toNat]

end Text

end Obfuscation
