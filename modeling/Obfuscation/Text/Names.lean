import Std.Data.HashMap
import Obfuscation.Text.NameList
/-!
Characters by name, as a `\N{...}` escape names them: looked up among the names and aliases of
Unicode 14.0 regardless of ASCII case, with Hangul syllables and unified ideographs named by rule.
-/

namespace Obfuscation.Text

/-- Where a front-coded record is being read: its step, its shared length, or its own letters. -/
inductive RecordPart where
  | step
  | shared
  | rest
  deriving DecidableEq, Inhabited

/-- The state of reading a front-coded table. `base` is the previous record's code point and
`step` the part of the step read so far; `name` holds the current record's letters in reverse
once its own letters have begun. -/
structure RecordReader where
  base : Nat := 0
  step : Nat := 0
  shared : Nat := 0
  part : RecordPart := .step
  name : List Char := []
  previous : List Char := []
  table : Std.HashMap String Nat := {}

def RecordReader.currentName (r : RecordReader) : List Char :=
  if r.part = .rest then r.name.reverse else r.previous.take r.shared

def RecordReader.finish (r : RecordReader) : RecordReader :=
  let n := r.currentName
  let code := r.base + r.step
  { r with base := code, step := 0, shared := 0, part := .step, name := [], previous := n,
           table := r.table.insert (String.ofList n) code }

/-- Read one character of a front-coded table. A step digit after anything but a step digit
begins a new record. -/
def RecordReader.feed (r : RecordReader) (c : Char) : RecordReader :=
  if 'a' ≤ c ∧ c ≤ 'm' then
    let r := if r.part = .step then r else r.finish
    { r with step := r.step * 13 + (c.toNat - 'a'.toNat) }
  else if 'n' ≤ c ∧ c ≤ 'z' then
    { r with part := .shared, shared := r.shared * 13 + (c.toNat - 'n'.toNat) }
  else if r.part = .rest then { r with name := c :: r.name }
  else { r with part := .rest, name := c :: (r.previous.take r.shared).reverse }

def readRecords (r : RecordReader) (records : String) : RecordReader :=
  (records.foldl RecordReader.feed { table := r.table }).finish

def characterNameTable : Std.HashMap String Nat :=
  (readRecords (readRecords {} characterNameRecords) nameAliasRecords).table

def leadingJamo : List String :=
  ["G", "GG", "N", "D", "DD", "R", "M", "B", "BB", "S", "SS", "", "J", "JJ", "C", "K", "T", "P",
   "H"]

def vowelJamo : List String :=
  ["A", "AE", "YA", "YAE", "EO", "E", "YEO", "YE", "O", "WA", "WAE", "OE", "YO", "U", "WEO", "WE",
   "WI", "YU", "EU", "YI", "I"]

/-- The romanized names of the trailing consonants of Hangul syllables, in order; the first is
no consonant at all. -/
def trailingJamo : List String :=
  ["", "G", "GG", "GS", "N", "NJ", "NH", "D", "L", "LG", "LM", "LB", "LS", "LT", "LP", "LH", "M",
   "B", "BS", "S", "SS", "NG", "J", "C", "K", "T", "P", "H"]

/-- The index and length of the longest of `names` that begins `s`; among names of one length
the earliest wins. -/
def longestJamo (names : List String) (s : List Char) : Option (Nat × Nat) :=
  names.zipIdx.foldl
    (fun best (n, i) =>
      let len := n.length
      let longer := match best with
        | none => true
        | some (_, l) => l < len
      if longer && s.take len == n.toList then some (i, len) else best)
    none

/-- The Hangul syllable named by the part of a name after `HANGUL SYLLABLE `: the longest
leading consonant, then the longest vowel, then the longest trailing consonant, which must end
the name. -/
def hangulSyllableNamed (s : List Char) : Option Nat := do
  let (l, ll) ← longestJamo leadingJamo s
  let (v, vl) ← longestJamo vowelJamo (s.drop ll)
  let rest := s.drop (ll + vl)
  let (t, tl) ← longestJamo trailingJamo rest
  if rest.length = tl then some (0xAC00 + (l * 21 + v) * 28 + t) else none

def unifiedIdeographRanges : List (Nat × Nat) :=
  [(0x3400, 0x4DBF), (0x4E00, 0x9FFF), (0x20000, 0x2A6DF), (0x2A700, 0x2B738),
   (0x2B740, 0x2B81D), (0x2B820, 0x2CEA1), (0x2CEB0, 0x2EBE0), (0x30000, 0x3134A)]

def capitalHexValue (c : Char) : Option Nat :=
  if '0' ≤ c ∧ c ≤ '9' then some (c.toNat - '0'.toNat)
  else if 'A' ≤ c ∧ c ≤ 'F' then some (c.toNat - 'A'.toNat + 10)
  else none

/-- The unified ideograph named by the part of a name after `CJK UNIFIED IDEOGRAPH-`: four or
five capital hexadecimal digits giving a code point in one of the ranges. -/
def unifiedIdeographNamed (s : List Char) : Option Nat := do
  if s.length = 4 ∨ s.length = 5 then
    let v ← s.foldlM (fun v c => (v * 16 + ·) <$> capitalHexValue c) 0
    if unifiedIdeographRanges.any (fun (lo, hi) => lo ≤ v ∧ v ≤ hi) then some v else none
  else none

def characterNamed (name : String) : Option Char :=
  let cs := name.toList
  let hangul := "HANGUL SYLLABLE ".toList
  let ideograph := "CJK UNIFIED IDEOGRAPH-".toList
  if cs.take hangul.length = hangul then
    Char.ofNat <$> hangulSyllableNamed (cs.drop hangul.length)
  else if cs.take ideograph.length = ideograph then
    Char.ofNat <$> unifiedIdeographNamed (cs.drop ideograph.length)
  else
    Char.ofNat <$> characterNameTable[String.ofList (cs.map Char.toUpper)]?

end Obfuscation.Text
