import Obfuscation.Text.Basic
import Obfuscation.Text.Printable
/-!
Quoted literals: the standard written form of a string or byte string value.

A literal is delimited by a single quote, or by a double quote when the value holds a single
quote and no double quote. Inside it the backslash and the delimiter take a backslash, tab,
newline and carriage return are written `\t`, `\n`, `\r`, and any other character that is not
printable is written as a hexadecimal escape of two, four or eight digits.
-/

namespace Obfuscation.Text

def hexPadded (width n : Nat) : String :=
  let digits := Nat.toDigits 16 n
  String.ofList (List.replicate (width - digits.length) '0' ++ digits)

def hexEscape (c : Nat) : String :=
  if c < 0x100 then "\\x" ++ hexPadded 2 c
  else if c < 0x10000 then "\\u" ++ hexPadded 4 c
  else "\\U" ++ hexPadded 8 c

/-- The escape form of one code point: the backslash doubled, tab, newline and carriage return
by letter, other control and non-ASCII characters by hexadecimal escape, the rest as itself. -/
def escapeCode (c : Nat) : String :=
  if c == 0x5C then "\\\\"
  else if c == 0x09 then "\\t"
  else if c == 0x0A then "\\n"
  else if c == 0x0D then "\\r"
  else if c < 0x20 || c ≥ 0x7F then hexEscape c
  else String.singleton (charOf c)

/-- The delimiter of a quoted literal: a double quote only when the value holds a single quote
and no double quote. -/
def quoteMark (t : List Nat) : Char :=
  if t.contains 0x27 && !t.contains 0x22 then '"' else '\''

def quoteCode (q : Char) (c : Nat) : String :=
  if c == q.toNat || c == 0x5C then "\\" ++ String.singleton (charOf c)
  else if c == 0x09 then "\\t"
  else if c == 0x0A then "\\n"
  else if c == 0x0D then "\\r"
  else if c < 0x20 || c == 0x7F then hexEscape c
  else if c < 0x7F || isPrintable c then String.singleton (charOf c)
  else hexEscape c

def quote (t : Text) : String :=
  let q := quoteMark t
  let body := t.foldl (fun acc c => acc ++ quoteCode q c) ""
  String.singleton q ++ body ++ String.singleton q

def quoteByte (q : Char) (b : Nat) : String :=
  if b == q.toNat || b == 0x5C then "\\" ++ String.singleton (charOf b)
  else if b == 0x09 then "\\t"
  else if b == 0x0A then "\\n"
  else if b == 0x0D then "\\r"
  else if b < 0x20 || b ≥ 0x7F then "\\x" ++ hexPadded 2 b
  else String.singleton (charOf b)

def quoteBytes (bs : List UInt8) : String :=
  let codes := bs.map UInt8.toNat
  let q := quoteMark codes
  let body := codes.foldl (fun acc b => acc ++ quoteByte q b) ""
  "b" ++ String.singleton q ++ body ++ String.singleton q

example : quote (ofString "it's") = "\"it's\"" := by decide +kernel
example : quote (ofString "a\nb") = "'a\\nb'" := by decide +kernel
example : quote [0xD800] = "'\\ud800'" := by decide +kernel

end Obfuscation.Text
