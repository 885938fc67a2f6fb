import Obfuscation.Syntax.Parser.Stmt
import Obfuscation.Syntax.Checking.Stmt
import Obfuscation.Text.Utf8
/-!
Reading a module from source text. The source is read into tokens and parsed by the statement
grammar; when no rule accepts it, the checking grammar looks for specific mistakes, and otherwise
the fault is at the furthest token looked at.
-/

namespace Obfuscation.Syntax

open Obfuscation.Syntax.Parser

/-- Enough fuel for the grammar on `n` tokens: every level of nesting reads a token, and each
takes a bounded number of rules. -/
def grammarFuel (n : Nat) : Nat := 25 * n + 100

def fieldDepth : Nat := 8

def tokenAtOrLast (tokens : Array Token) (i : Nat) : Token :=
  tokens[i]?.getD (tokens.back?.getD default)

/-- The fault of input that no rule accepts. `last` is the furthest token the first pass looked
at and `fill` the number of tokens the second pass looked at: when `last` is an indent or a
dedent, the fault is an indentation error where reading stands, else invalid syntax at
`last`. -/
def unmatchedFault (tokens : Array Token) (last : Token) (fill : Nat) : SyntaxFault :=
  let (l, c, el, ec) := Checking.Check.placeOf tokens fill
  match last.kind with
  | .indent => ⟨.indentationError, "unexpected indent", l, c, el, ec, .file⟩
  | .dedent => ⟨.indentationError, "unexpected unindent", l, c, el, ec, .file⟩
  | _ => SyntaxFault.atToken "invalid syntax" last

/-- The fault that stands after reading the whole source, when parsing looked at tokens up to
line `reach`: a fault reported by reading wins, and so does a bracket left open on a line before
`reach`, whether reading ended at the end of input or at a fault it only signals. A signalled
fault that parsing met itself is what `f` is then, and it stands. -/
def LexEnd.prevailing (ending : LexEnd) (reach : Nat) (f : SyntaxFault) : SyntaxFault :=
  match ending with
  | .raised g => g
  | .unclosed b line col => if line < reach then unclosedFault b line col else f
  | .halted sig (some (b, line, col)) =>
    if line < reach && f != sig.report (some (b, line, col)) then unclosedFault b line col else f
  | _ => f

/-- Parse tokens with a grammar rule. When it does not match, the checking grammar `check` runs
from the start for a specific mistake; when it finds none, the fault is that of unmatched input.
Only an indentation fault of unmatched input does not give way to what reading the rest of the
source reports. -/
def parseTokens {α : Type} (rule : Nat → Parser α) (check : Nat → Checking.Check Unit)
    (tokens : Array Token) (ending : LexEnd)
    (readField : List Char → Except SyntaxFault Expr) : Except SyntaxFault α :=
  match (rule (grammarFuel tokens.size)).run ⟨tokens, ending, readField⟩ with
  | .ok a _ => .ok a
  | .fault f reach => .error (ending.prevailing reach f)
  | .noMatch c =>
    let source : Checking.Source := ⟨tokens, Checking.bracketLevels tokens, ending, readField, true⟩
    let last := tokenAtOrLast tokens c.furthest
    let unmatched (fill : Nat) : SyntaxFault :=
      let f := unmatchedFault tokens last fill
      if f.kind == .indentationError then f
      else ending.prevailing (Checking.Check.reachOf tokens fill) f
    match check (Checking.checkFuel tokens.size) source (Checking.Probe.start (c.furthest + 1)) with
    | .raised f reach => .error (ending.prevailing reach f)
    | .ok _ p => .error (unmatched p.fill)
    | .miss p => .error (unmatched p.fill)

def fieldCheck (n : Nat) : Checking.Check Unit := do
  let _ ← Checking.starExpressions n
  pure ()

/-- Read the expression of a formatted field, formatted literals inside it at most `depth` levels
deep. -/
def readField : Nat → List Char → Except SyntaxFault Expr
  | 0, _ => .error (SyntaxFault.spanning "f-string: expressions nested too deeply" 1 0 0)
  | depth + 1, text =>
    let (tokens, ending) := tokenize (normaliseLines ('(' :: text ++ [')']))
    (parseTokens starExpressions fieldCheck tokens ending (readField depth)).mapError fun f =>
      match ending with
      | .raised g => if f = g then f else f.withPrefix "f-string: "
      | _ => f.withPrefix "f-string: "

def Fault.nullInSource : Fault := ⟨.syntaxError, "source code string cannot contain null bytes"⟩

/-- Why source text is not a module: a fault of the text as a whole, or a syntax fault at a place
in it. -/
inductive ReadFailure where
  | whole (f : Fault)
  | located (f : SyntaxFault)

def Module.read (source : Text) : Except ReadFailure Module := do
  match Text.encodeUtf8 source with
  | .error e => throw (.whole e.toFault)
  | .ok _ => pure ()
  if source.contains 0 then throw (.whole Fault.nullInSource)
  let (tokens, ending) := tokenize (normaliseLines (Text.toString source).toList)
  (parseTokens moduleBody Checking.file tokens ending (readField fieldDepth)).mapError .located

def ReadFailure.toFault (file : String) : ReadFailure → Fault
  | .whole f => f
  | .located f => f.toFault file

/-- Read a module from source text; faults of the text name the file `file`. -/
def Module.parse (source : Text) (file : String) : Except Fault Module :=
  (Module.read source).mapError (·.toFault file)

end Obfuscation.Syntax
