import Obfuscation.Text.Basic
import Obfuscation.Fault
/-!
Hexadecimal byte strings.

A hexadecimal text is read two digits per byte, either case. ASCII whitespace may stand between
bytes but not inside one. The first character that breaks these rules is reported by position;
running out in the middle of a byte points just past the end, and a text with a non-ASCII
character is refused at the first such character.
-/

namespace Obfuscation.Bytes

def hexValue? (c : Nat) : Option Nat :=
  if 0x30 ≤ c && c ≤ 0x39 then some (c - 0x30)
  else if 0x61 ≤ c && c ≤ 0x66 then some (c - 0x61 + 10)
  else if 0x41 ≤ c && c ≤ 0x46 then some (c - 0x41 + 10)
  else none

def isAsciiSpace (c : Nat) : Bool := c == 0x20 || (0x09 ≤ c && c ≤ 0x0D)

/-- Reading hexadecimal pairs from position `pos`; the error is the position of the first
character that is not a digit where one is needed. -/
def readPairs (pos : Nat) : Text → Except Nat (List UInt8)
  | [] => .ok []
  | c :: rest =>
    if isAsciiSpace c then readPairs (pos + 1) rest
    else match hexValue? c with
      | none => .error pos
      | some high =>
        match rest with
        | [] => .error (pos + 1)
        | d :: rest' =>
          match hexValue? d with
          | none => .error (pos + 1)
          | some low => ((high * 16 + low).toUInt8 :: ·) <$> readPairs (pos + 2) rest'

def ofHex (t : Text) : Except Fault (List UInt8) :=
  let refuse (pos : Nat) : Fault :=
    ⟨.valueError, "non-hexadecimal number found in fromhex() arg at position " ++ Nat.repr pos⟩
  match t.findIdx? (· ≥ 0x80) with
  | some pos => .error (refuse pos)
  | none => (readPairs 0 t).mapError refuse

def toHex (bs : List UInt8) : String :=
  let digit (n : Nat) : Char := if n < 10 then Char.ofNat (0x30 + n) else Char.ofNat (0x57 + n)
  String.ofList (bs.flatMap fun b => [digit (b.toNat / 16), digit (b.toNat % 16)])

example : (ofHex (Text.ofString "0a FF")).toOption = some [10, 255] := by decide +kernel
example : toHex [0, 171] = "00ab" := by decide +kernel

end Obfuscation.Bytes
