import Obfuscation.Text.Quote
/-!
Delimiters of printed string literals. The delimiter is the first allowed one that does not occur
in the escaped text; when none fits, the standard quoted form is used. `Delimiter.all` lists every
delimiter once, triples last.
-/

namespace Obfuscation.Syntax

inductive Delimiter where
  | single
  | double
  | tripleDouble
  | tripleSingle
  deriving DecidableEq, Repr, Inhabited

def Delimiter.text : Delimiter → List Char
  | .single => ['\'']
  | .double => ['"']
  | .tripleDouble => ['"', '"', '"']
  | .tripleSingle => ['\'', '\'', '\'']

def Delimiter.mark : Delimiter → Char
  | .single | .tripleSingle => '\''
  | .double | .tripleDouble => '"'

def Delimiter.isTriple : Delimiter → Bool
  | .tripleDouble | .tripleSingle => true
  | _ => false

def Delimiter.all : List Delimiter := [.single, .double, .tripleDouble, .tripleSingle]

def Delimiter.triples : List Delimiter := [.tripleDouble, .tripleSingle]

theorem Delimiter.mem_all (d : Delimiter) : d ∈ Delimiter.all := by
  cases d <;> simp [Delimiter.all]

def occursIn (needle : List Char) : List Char → Bool
  | [] => needle.isEmpty
  | c :: rest => needle.isPrefixOf (c :: rest) || occursIn needle rest

/-- One code point of a literal that avoids backslashes: the backslash and characters that are not
printable in their escape form, newline and tab kept when `keepBreaks` holds. -/
def softEscape (keepBreaks : Bool) (c : Nat) : List Char :=
  if keepBreaks && (c == 0x0A || c == 0x09) then [Text.charOf c]
  else if c == 0x5C || !Text.isPrintable c then (Text.escapeCode c).toList
  else [Text.charOf c]

def quotedParts (t : Text) : Char × List Char :=
  let written := (Text.quote t).toList
  (written.headD '\'', (written.drop 1).dropLast)

/-- The body of a literal for `t` among the `allowed` delimiters, and the delimiters that may
enclose it, the one to use first. `escapeBreaks` escapes newline and tab too. -/
def literalBody (t : Text) (allowed : List Delimiter) (escapeBreaks : Bool) :
    List Char × List Delimiter :=
  let escaped := t.flatMap (softEscape (!escapeBreaks))
  let roomy := if escaped.contains '\n' then allowed.filter Delimiter.isTriple else allowed
  let fitting := roomy.filter fun d => !occursIn d.text escaped
  match fitting, escaped.getLast? with
  | [], _ =>
    let (q, body) := quotedParts t
    let fallback : Delimiter := if q == '"' then .double else .single
    (body, [(allowed.find? fun d => d.text.contains q).getD fallback])
  | _, none => (escaped, fitting)
  | _, some last =>
    let ordered :=
      fitting.filter (fun d => d.mark != last) ++ fitting.filter (fun d => d.mark == last)
    if ordered.head?.map Delimiter.mark == some last then
      (escaped.dropLast ++ ['\\', last], ordered)
    else (escaped, ordered)

def writeAvoiding (t : Text) (allowed : List Delimiter) : String :=
  let (body, ds) := literalBody t allowed false
  let d := ds.headD .single
  String.ofList (d.text ++ body ++ d.text)

/-- The body of the standard quoted form of a text that starts with a double quote, without
that quote; its delimiter is always the single quote. -/
def singleQuotedBody (t : Text) : List Char :=
  (quotedParts (0x22 :: t)).2.drop 1

/-- The literal of a formatted string made of parts, each a text and whether it is a constant
part (whose newline and tab are escaped). Each part narrows the delimiters that fit all parts so
far; when a part leaves none of them, every part is written in its standard quoted form between
triple single quotes. -/
def joinedLiteral (parts : List (Text × Bool)) : String :=
  let rec narrow (allowed : List Delimiter) :
      List (Text × Bool) → Option (List Char × List Delimiter)
    | [] => some ([], allowed)
    | (t, constant) :: rest =>
      let (body, ds) := literalBody t allowed constant
      if ds.all (fun d => !allowed.contains d) then none
      else (narrow ds rest).map fun (more, final) => (body ++ more, final)
  match narrow Delimiter.all parts with
  | some (body, ds) =>
    let d := ds.headD .single
    String.ofList (d.text ++ body ++ d.text)
  | none =>
    "'''" ++ String.ofList (parts.flatMap fun (t, _) => singleQuotedBody t) ++ "'''"

end Obfuscation.Syntax
