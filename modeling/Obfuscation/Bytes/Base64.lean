import Obfuscation.Text.Basic
import Obfuscation.Fault
/-!
Base64: bytes as text over a 64-letter alphabet, three bytes to four letters, with `=` to fill
the last group.

Reading is lenient. Characters outside the alphabet are skipped; a `=` counts only after at
least two letters of a group, and once the group is full with letters and `=` reading stops.
A group left with one letter, or with two or three letters and too few `=`, is refused.
-/

namespace Obfuscation.Bytes

def base64Alphabet : List Char :=
  "ABCDEFGHIJKLMNOPQRSTUVWXYZabcdefghijklmnopqrstuvwxyz0123456789+/".toList

def base64Letter (n : Nat) : Char := base64Alphabet.getD n '='

def base64Value? (c : Nat) : Option Nat :=
  if 0x41 ≤ c && c ≤ 0x5A then some (c - 0x41)
  else if 0x61 ≤ c && c ≤ 0x7A then some (c - 0x61 + 26)
  else if 0x30 ≤ c && c ≤ 0x39 then some (c - 0x30 + 52)
  else if c == 0x2B then some 62
  else if c == 0x2F then some 63
  else none

def toBase64 : List UInt8 → String
  | [] => ""
  | [a] =>
    let n := a.toNat * 0x10000
    String.ofList [base64Letter (n / 0x40000), base64Letter (n / 0x1000 % 64), '=', '=']
  | [a, b] =>
    let n := a.toNat * 0x10000 + b.toNat * 0x100
    String.ofList [base64Letter (n / 0x40000), base64Letter (n / 0x1000 % 64),
      base64Letter (n / 0x40 % 64), '=']
  | a :: b :: c :: rest =>
    let n := a.toNat * 0x10000 + b.toNat * 0x100 + c.toNat
    String.ofList [base64Letter (n / 0x40000), base64Letter (n / 0x1000 % 64),
      base64Letter (n / 0x40 % 64), base64Letter (n % 64)] ++ toBase64 rest

/-- Reading state: letters of the current group (`filled`, 0 to 3), the bits that wait for
the next letter, and the count of `=` seen since the last letter. -/
structure Base64Reader where
  filled : Nat
  pending : Nat
  pads : Nat
  out : List UInt8

/-- Reading base64 letters into bytes; the flag says that a complete padded group ended the
reading before the input did. -/
def readBase64 (r : Base64Reader) : Text → Base64Reader × Bool
  | [] => (r, false)
  | c :: rest =>
    if c == 0x3D then
      if r.filled ≥ 2 then
        if r.filled + (r.pads + 1) ≥ 4 then (r, true)
        else readBase64 { r with pads := r.pads + 1 } rest
      else readBase64 r rest
    else match base64Value? c with
      | none => readBase64 r rest
      | some v =>
        let next : Base64Reader := match r.filled with
          | 0 => ⟨1, v, 0, r.out⟩
          | 1 => ⟨2, v % 16, 0, r.out ++ [(r.pending * 4 + v / 16).toUInt8]⟩
          | 2 => ⟨3, v % 4, 0, r.out ++ [(r.pending * 16 + v / 4).toUInt8]⟩
          | _ => ⟨0, 0, 0, r.out ++ [(r.pending * 64 + v).toUInt8]⟩
        readBase64 next rest

def ofBase64 (t : Text) : Except Fault (List UInt8) :=
  if t.any (· ≥ 0x80) then
    .error ⟨.valueError, "string argument should contain only ASCII characters"⟩
  else
    let (r, stopped) := readBase64 ⟨0, 0, 0, []⟩ t
    if stopped || r.filled == 0 then .ok r.out
    else if r.filled == 1 then
      .error ⟨.base64Error, "Invalid base64-encoded string: number of data characters (" ++
        Nat.repr (r.out.length / 3 * 4 + 1) ++ ") cannot be 1 more than a multiple of 4"⟩
    else .error ⟨.base64Error, "Incorrect padding"⟩

example : toBase64 [0, 1, 2, 3] = "AAECAw==" := by decide +kernel
example : (ofBase64 (Text.ofString "AAECAw==")).toOption = some [0, 1, 2, 3] := by decide +kernel

end Obfuscation.Bytes
