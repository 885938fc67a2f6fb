import Obfuscation.Syntax.Tree
/-!
Numeric literals: integers in bases 10, 16, 8 and 2, decimal floats and imaginary numbers.

Underscores between digits are ignored. A float is rounded to the nearest double; beyond the
range of doubles it is infinite, and below it zero.
-/

namespace Obfuscation.Syntax

def digitsValue (base : Nat) (cs : List Char) : Nat :=
  cs.foldl (fun acc c =>
    let d := if c.isDigit then c.toNat - 48
      else if 'a' ≤ c && c ≤ 'f' then c.toNat - 87
      else if 'A' ≤ c && c ≤ 'F' then c.toNat - 55 else 0
    acc * base + d) 0

def decimalToFloat (m : Nat) (e : Int) : Float :=
  let size : Int := (Nat.toDigits 10 m).length
  if m == 0 then 0.0
  else if e + size > 310 then Float.ofScientific 1 false 400
  else if e + size < -330 then 0.0
  else if e < 0 then Float.ofScientific m true e.natAbs
  else Float.ofScientific m false e.toNat

def floatOfText (cs : List Char) : Float :=
  let mantissa := cs.takeWhile fun c => c != 'e' && c != 'E'
  let expPart := (cs.drop (mantissa.length + 1))
  let whole := mantissa.takeWhile (· != '.')
  let fraction := mantissa.drop (whole.length + 1)
  let expValue : Int := match expPart with
    | '-' :: ds => -(digitsValue 10 ds : Int)
    | '+' :: ds => digitsValue 10 ds
    | ds => digitsValue 10 ds
  decimalToFloat (digitsValue 10 (whole ++ fraction)) (expValue - fraction.length)

def Literal.ofDecimalText (cs : List Char) : Literal :=
  match cs.getLast? with
  | some 'j' | some 'J' => .imaginary (floatOfText cs.dropLast)
  | _ =>
    if cs.any (fun c => c == '.' || c == 'e' || c == 'E') then .float (floatOfText cs)
    else .int (digitsValue 10 cs)

/-- Integers with more decimal digits than this are neither read nor printed: converting between
their decimal text and their value is refused. -/
def integerDigitLimit : Nat := 4300

/-- The number of digits of a decimal integer literal that does not start with `0`, whose value
is converted from its digits in base ten; `none` for other numbers, which are read another way.
-/
def convertedDigits (text : String) : Option Nat :=
  let cs := text.toList.filter (· != '_')
  match cs with
  | c :: _ => if c != '0' && cs.all Char.isDigit then some cs.length else none
  | [] => none

def digitLimitMessage (count : Nat) : String :=
  "Exceeds the limit (" ++ Nat.repr integerDigitLimit ++ " digits) for integer string " ++
    "conversion: value has " ++ Nat.repr count ++ " digits; use sys.set_int_max_str_digits() " ++
    "to increase the limit - Consider hexadecimal for huge integer literals to avoid decimal " ++
    "conversion limits."

def Literal.ofNumberText (text : String) : Literal :=
  let cs := text.toList.filter (· != '_')
  match cs with
  | '0' :: x :: rest =>
    if x == 'x' || x == 'X' then .int (digitsValue 16 rest)
    else if x == 'o' || x == 'O' then .int (digitsValue 8 rest)
    else if x == 'b' || x == 'B' then .int (digitsValue 2 rest)
    else Literal.ofDecimalText cs
  | _ => Literal.ofDecimalText cs

end Obfuscation.Syntax
