import Obfuscation.Fault
/-!
Tokens of Python source, and the faults that reading source can report.

A token records its kind, its text and where it starts and ends: lines count from 1 and columns
from 0, both in characters. A syntax fault records its kind, its message and the place it points
at, with columns counted from 1 as error reports count them.
-/

namespace Obfuscation.Syntax

inductive TokenKind where
  | name
  | number
  | string
  | op
  | newline
  | indent
  | dedent
  | endMarker
  deriving DecidableEq, Repr, Inhabited

structure Token where
  kind : TokenKind
  text : String
  line : Nat
  col : Nat
  endLine : Nat
  endCol : Nat
  deriving Repr, Inhabited

/-- Whether a token has a place in the text. Indentation tokens and the end marker have none;
their column is where reading stood when they were made: after the indentation, or at the end of
the last line. -/
def Token.hasPlace (t : Token) : Bool :=
  !(t.kind == .indent || t.kind == .dedent || t.kind == .endMarker)

def Token.isOp (t : Token) (s : String) : Bool := t.kind == .op && t.text == s

def Token.isName (t : Token) (s : String) : Bool := t.kind == .name && t.text == s

def Token.isImaginary (t : Token) : Bool :=
  t.kind == .number && (t.text.endsWith "j" || t.text.endsWith "J")

/-- Where the line shown with a syntax fault comes from. A fault the parser finds in the source
is shown with the line read back from the source file; one the lexer finds, with the line it was
reading. A fault in a field of a formatted string is shown with a line of the field's text, which
is the field's expression between parentheses. -/
inductive LineSource where
  /-- The source file's line; the offsets count characters of the whole line. -/
  | file
  /-- The whole line the lexer was reading; the offsets count its characters. -/
  | lexer
  /-- A line of a field's text, found by the lexer; the offsets count its characters. -/
  | fieldText (text : Text)
  /-- A line of a field's text, found by the parser, and the line where the fault ends; each
  offset counts characters of its own line. `first`
  and `endFirst` say whether the fault starts and ends on the text's first line. The field is
  placed `braceCol` bytes after column
  `tokenCol` (in characters) of source line `tokenLine`: the column is where the string token
  holding the field starts when the field's brace is on the token's first line, and zero
  otherwise; `braceCol` is how far into its line of the token the brace stands, or zero when
  only blanks follow the brace on that line. -/
  | fieldParse (text endText : Text) (first endFirst : Bool) (tokenLine tokenCol braceCol : Nat)
  deriving Repr, Inhabited, DecidableEq

/-- A fault found in source text: a syntax, indentation or tab error, and where its line comes
from. -/
structure SyntaxFault where
  kind : FaultKind
  message : String
  line : Nat
  offset : Nat
  endLine : Nat
  endOffset : Nat
  shown : LineSource
  deriving Repr, Inhabited, DecidableEq

namespace SyntaxFault

def spanning (message : String) (line col endCol : Nat) : SyntaxFault :=
  ⟨.syntaxError, message, line, col + 1, line, endCol + 1, .file⟩

def atToken (message : String) (t : Token) : SyntaxFault :=
  if t.hasPlace then ⟨.syntaxError, message, t.line, t.col + 1, t.endLine, t.endCol + 1, .file⟩
  else ⟨.syntaxError, message, t.line, 0, t.endLine, 0, .file⟩

/-- A syntax error at the last token read, which has no place of its own when it is an
indentation token or the end marker: it then points where reading stands, the token's column. -/
def whereReading (message : String) (t : Token) : SyntaxFault :=
  if t.hasPlace then atToken message t
  else ⟨.syntaxError, message, t.line, t.col, t.endLine, 0, .file⟩

def shiftLines (f : SyntaxFault) (n : Nat) : SyntaxFault :=
  { f with line := f.line + n, endLine := f.endLine + n }

def withPrefix (f : SyntaxFault) (pre : String) : SyntaxFault :=
  { f with message := pre ++ f.message }

def baseName (path : String) : String :=
  match (path.splitOn "/").getLast? with
  | some last => last
  | none => path

/-- The report of a syntax fault in the file named `file`: the message, then the file's base name
and the line. -/
def toFault (f : SyntaxFault) (file : String) : Fault :=
  ⟨f.kind, f.message ++ " (" ++ baseName file ++ ", line " ++ Nat.repr f.line ++ ")"⟩

end SyntaxFault

end Obfuscation.Syntax
