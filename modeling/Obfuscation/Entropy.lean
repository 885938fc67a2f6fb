import Obfuscation.Text.Basic
import Obfuscation.Bytes.Hex
/-!
A deterministic source of entropy.

Every draw is a function of a counter, so a run can be repeated exactly. Names count up in base
62 over the letters and digits. Integers in a range cycle through a given list of numbers,
reduced into the range. Keys are a fixed hexadecimal text; initialisation vectors cycle through a
given list of hexadecimal texts, or, when none is given, count up sixteen bytes at a time.
-/

namespace Obfuscation

structure Entropy where
  /-- Numbers that integer draws cycle through (never empty in use; the default is `[0]`). -/
  numbers : List Int := [0]
  keyHex : Text := Text.ofString "000102030405060708090a0b0c0d0e0f"
  vectors : List Text := []
  nameDraws : Nat := 0
  integerDraws : Nat := 0
  vectorDraws : Nat := 0
  deriving Inhabited

namespace Entropy

def nameAlphabet : List Char :=
  "abcdefghijklmnopqrstuvwxyzABCDEFGHIJKLMNOPQRSTUVWXYZ0123456789".toList

/-- The `k` base-62 digits of `n`, most significant first, as letters of the alphabet
(digits above the `k`-th are dropped). -/
def nameDigits (n k : Nat) : List Char :=
  (List.range k).map fun i => nameAlphabet.getD (n / Nat.pow 62 (k - 1 - i) % 62) 'a'

def drawChars (e : Entropy) (k : Int) : List Char × Entropy :=
  (nameDigits e.nameDraws k.toNat, { e with nameDraws := e.nameDraws + 1 })

/-- Draw a fresh variable name: `v_` followed by `k` characters (eight by default). -/
def drawName (e : Entropy) (k : Int) : String × Entropy :=
  let (cs, e') := e.drawChars k
  ("v_" ++ String.ofList cs, e')

def drawBetween (e : Entropy) (lo hi : Int) : Int × Entropy :=
  let numbers := if e.numbers.isEmpty then [0] else e.numbers
  let n := numbers.getD (e.integerDraws % numbers.length) 0
  (lo + Int.fmod n (hi - lo + 1), { e with integerDraws := e.integerDraws + 1 })

def key (e : Entropy) : Except Fault (List UInt8) := Bytes.ofHex e.keyHex

def drawVector (e : Entropy) : Except Fault (List UInt8) × Entropy :=
  let i := e.vectorDraws
  let e' := { e with vectorDraws := i + 1 }
  match e.vectors with
  | [] => (.ok ((List.range 16).map fun t => (16 * i + t).toUInt8), e')
  | vs => (Bytes.ofHex (vs.getD (i % vs.length) []), e')

def reseed (e : Entropy) : Entropy := { e with nameDraws := 0, integerDraws := 0 }

example : (drawName {} 8).1 = "v_aaaaaaaa" := by decide +kernel
example : (drawName { nameDraws := 62 } 2).1 = "v_ba" := by decide +kernel

end Entropy

end Obfuscation
