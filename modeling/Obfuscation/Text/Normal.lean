import Std.Data.HashMap
import Obfuscation.Text.NormalData
/-!
Compatibility normalization (NFKC) of identifiers: full compatibility decomposition, canonical
ordering of combining marks, and canonical composition.
-/

namespace Obfuscation.Text

def hexDigitValue (c : Char) : Nat :=
  if '0' ≤ c ∧ c ≤ '9' then c.toNat - '0'.toNat
  else if 'A' ≤ c ∧ c ≤ 'F' then c.toNat - 'A'.toNat + 10
  else if 'a' ≤ c ∧ c ≤ 'f' then c.toNat - 'a'.toNat + 10
  else 0

def hexNumeral (s : String) : Nat := s.foldl (fun v c => v * 16 + hexDigitValue c) 0

def hexNumerals (s : String) : List Nat :=
  ((s.splitOn " ").filter (· ≠ "")).map hexNumeral

def addDecomposition (table : Std.HashMap Nat (List Nat)) (record : String) :
    Std.HashMap Nat (List Nat) :=
  match record.splitOn "=" with
  | [source, target] =>
    let into := hexNumerals target
    match source.splitOn "+" with
    | [first, count] =>
      let d := into.headD 0
      (List.range (hexNumeral count)).foldl
        (fun t i => t.insert (hexNumeral first + i) [d + i]) table
    | _ => table.insert (hexNumeral source) into
  | _ => table

def compatDecompositions : Std.HashMap Nat (List Nat) :=
  (compatDecompositionRecords.splitOn ";").foldl addDecomposition {}

def combiningClasses : Std.HashMap Nat Nat :=
  combiningClassRanges.foldl
    (fun t (lo, hi, k) => (List.range (hi + 1 - lo)).foldl (fun t i => t.insert (lo + i) k) t) {}

def combiningClass (c : Nat) : Nat := combiningClasses.getD c 0

def primaryComposites : Std.HashMap (Nat × Nat) Nat :=
  (primaryCompositeRecords.splitOn ";").foldl
    (fun t r => match hexNumerals r with
      | [a, b, p] => t.insert (a, b) p
      | _ => t)
    {}

def hangulSyllableBase : Nat := 0xAC00

def hangulLeadBase : Nat := 0x1100

def hangulVowelBase : Nat := 0x1161

def hangulTrailBase : Nat := 0x11A7

def hangulLeadCount : Nat := 19

def hangulVowelCount : Nat := 21

def hangulTrailCount : Nat := 28

def hangulSyllableCount : Nat := hangulLeadCount * hangulVowelCount * hangulTrailCount

def decomposeCode (c : Nat) : List Nat :=
  if hangulSyllableBase ≤ c ∧ c < hangulSyllableBase + hangulSyllableCount then
    let s := c - hangulSyllableBase
    let perLead := hangulVowelCount * hangulTrailCount
    let lead := hangulLeadBase + s / perLead
    let vowel := hangulVowelBase + s % perLead / hangulTrailCount
    let trail := s % hangulTrailCount
    if trail = 0 then [lead, vowel] else [lead, vowel, hangulTrailBase + trail]
  else compatDecompositions.getD c [c]

/-- Insert a combining mark into a run kept in order of class, after every mark of no greater
class, so that marks of one class keep their order. -/
def insertByClass (c : Nat) : List Nat → List Nat
  | [] => [c]
  | d :: ds => if combiningClass c < combiningClass d then c :: d :: ds else d :: insertByClass c ds

/-- Put each run of combining marks in canonical order; `run` holds the marks met since the last
starter, already in order. -/
def canonicalOrderFrom (run : List Nat) : List Nat → List Nat
  | [] => run
  | c :: cs =>
    if combiningClass c = 0 then run ++ c :: canonicalOrderFrom [] cs
    else canonicalOrderFrom (insertByClass c run) cs

def canonicalOrder (cs : List Nat) : List Nat := canonicalOrderFrom [] cs

def canonicallyOrdered (cs : List Nat) : Bool :=
  (cs.zip cs.tail).all fun (a, b) => combiningClass b = 0 || combiningClass a ≤ combiningClass b

/-- The state of composition: the output before the last starter (reversed), that starter, the
marks kept after it (reversed), and the class of the last of those marks, zero if none. -/
structure Composer where
  done : List Nat := []
  starter : Option Nat := none
  marks : List Nat := []
  lastClass : Nat := 0

def Composer.result (k : Composer) : List Nat :=
  k.done.reverse ++ k.starter.toList ++ k.marks.reverse

/-- The Hangul syllable a starter and the next character make, when the starter is a leading
consonant and the character a vowel, or the starter a syllable without a trailing consonant and
the character a trailing consonant. -/
def hangulComposite (s c : Nat) : Option Nat :=
  if hangulLeadBase ≤ s ∧ s < hangulLeadBase + hangulLeadCount ∧
      hangulVowelBase ≤ c ∧ c < hangulVowelBase + hangulVowelCount then
    some (hangulSyllableBase +
      ((s - hangulLeadBase) * hangulVowelCount + (c - hangulVowelBase)) * hangulTrailCount)
  else if hangulSyllableBase ≤ s ∧ s < hangulSyllableBase + hangulSyllableCount ∧
      (s - hangulSyllableBase) % hangulTrailCount = 0 ∧
      hangulTrailBase < c ∧ c < hangulTrailBase + hangulTrailCount then
    some (s + (c - hangulTrailBase))
  else none

/-- Compose one more character: with the starter, when nothing blocks it and the pair has a
composite; otherwise it starts a new run if it is a starter, or is kept as a mark. -/
def Composer.feed (k : Composer) (c : Nat) : Composer :=
  let cls := combiningClass c
  let composite := match k.starter with
    | none => none
    | some s =>
      if k.marks.isEmpty then
        match hangulComposite s c with
        | some h => some h
        | none => primaryComposites.get? (s, c)
      else if k.lastClass < cls then primaryComposites.get? (s, c)
      else none
  match composite with
  | some p => { k with starter := some p }
  | none =>
    if cls = 0 then
      { done := k.marks ++ k.starter.toList ++ k.done, starter := some c, marks := [],
        lastClass := 0 }
    else { k with marks := c :: k.marks, lastClass := cls }

def compose (cs : List Nat) : List Nat := (cs.foldl Composer.feed {}).result

def nfkc (s : String) : String :=
  String.ofList ((compose (canonicalOrder (s.toList.flatMap (decomposeCode ·.toNat)))).map
    Char.ofNat)

def identifierName (s : String) : String :=
  if s.toList.all (fun c => c.toNat < 128) then s else nfkc s

end Obfuscation.Text
