import Obfuscation.Syntax.Lexer
import Obfuscation.Syntax.Tree
import Obfuscation.Text.Normal
/-!
The parsing monad: a cursor over an array of tokens with ordered choice.

A parser either matches and moves the cursor, or does not match, or stops with a fault. The
cursor also records the furthest token that any attempt looked at, which is where a generic
syntax error points. Looking past the last token read yields the fault that ended reading, so a
lexical fault is reported exactly when parsing needs the token it would have been.
-/

namespace Obfuscation.Syntax

/-- What a parser reads: the tokens, how reading them ended, and the reader of expressions inside
formatted strings. -/
structure ParseInput where
  tokens : Array Token
  ending : LexEnd
  readField : List Char → Except SyntaxFault Expr

/-- The identifier a name token stands for: its text, in compatibility normal form when it holds
a character beyond ASCII. Reserved words are recognized on the text as written. -/
def Token.identifier (t : Token) : String := Obfuscation.Text.identifierName t.text

structure Cursor where
  pos : Nat
  furthest : Nat
  deriving Inhabited

/-- The outcome of a parser. A fault keeps the line of the furthest token looked at when it was
reported. -/
inductive Parsed (α : Type) where
  | ok (a : α) (c : Cursor)
  | noMatch (c : Cursor)
  | fault (f : SyntaxFault) (reach : Nat)

def Parser (α : Type) := ParseInput → Cursor → Parsed α

namespace Parser

instance : Monad Parser where
  pure a := fun _ c => .ok a c
  bind p f := fun inp c =>
    match p inp c with
    | .ok a c' => f a inp c'
    | .noMatch c' => .noMatch c'
    | .fault e r => .fault e r

instance : Inhabited (Parser α) := ⟨fun _ c => .noMatch c⟩

def miss {α : Type} : Parser α := fun _ c => .noMatch c

def reachOf (inp : ParseInput) (c : Cursor) : Nat :=
  ((inp.tokens[c.furthest]?).getD (inp.tokens.back?.getD default)).line

def fault {α : Type} (f : SyntaxFault) : Parser α := fun inp c => .fault f (reachOf inp c)

/-- Ordered choice: the second parser runs from the same position if the first does not match,
and the furthest position of both attempts is kept. -/
def orElse {α : Type} (p q : Parser α) : Parser α := fun inp c =>
  match p inp c with
  | .noMatch c' => q inp { c with furthest := max c.furthest c'.furthest }
  | r => r

instance {α : Type} : OrElse (Parser α) := ⟨fun p q => orElse p (q ())⟩

def optional {α : Type} (p : Parser α) : Parser (Option α) :=
  orElse (do let a ← p; pure (some a)) (pure none)

def lookahead {α : Type} (p : Parser α) : Parser Bool := fun inp c =>
  match p inp c with
  | .ok _ c' => .ok true { c with furthest := max c.furthest c'.furthest }
  | .noMatch c' => .ok false { c with furthest := max c.furthest c'.furthest }
  | .fault e r => .fault e r

def mark : Parser Nat := fun _ c => .ok c.pos c

def reset (pos : Nat) : Parser Unit := fun _ c => .ok () { c with pos := pos }

def endingFault (inp : ParseInput) : SyntaxFault :=
  match inp.ending with
  | .raised f => f
  | .halted sig innermost => sig.report innermost
  | .unclosed b line col => unclosedFault b line col
  | .complete => SyntaxFault.spanning "unexpected EOF while parsing" 1 0 0

def peek : Parser Token := fun inp c =>
  let c' := { c with furthest := max c.furthest c.pos }
  if h : c.pos < inp.tokens.size then .ok inp.tokens[c.pos] c'
  else match inp.ending with
    | .complete => .ok (inp.tokens.back?.getD default) c'
    | _ => .fault (endingFault inp) (reachOf inp c')

def previous : Parser (Option Token) := fun inp c =>
  .ok (if c.pos = 0 then none else inp.tokens[c.pos - 1]?) c

def next : Parser Token := do
  let t ← peek
  fun _ c => .ok t { c with pos := c.pos + 1 }

def expect (test : Token → Bool) : Parser Token := do
  let t ← peek
  if test t then next else miss

def op (s : String) : Parser Token := expect (·.isOp s)

def keyword (s : String) : Parser Token := expect (·.isName s)

def atOp (s : String) : Parser Bool := do return (← peek).isOp s

def atKeyword (s : String) : Parser Bool := do return (← peek).isName s

def reserved : List String :=
  ["False", "None", "True", "and", "as", "assert", "async", "await", "break", "class",
    "continue", "def", "del", "elif", "else", "except", "finally", "for", "from", "global",
    "if", "import", "in", "is", "lambda", "nonlocal", "not", "or", "pass", "raise", "return",
    "try", "while", "with", "yield"]

def isPlainName (t : Token) : Bool := t.kind == .name && !reserved.contains t.text

def name : Parser String := do
  let t ← expect isPlainName
  return t.identifier

def kind (k : TokenKind) : Parser Token := expect (·.kind == k)

def many {α : Type} (p : Parser α) : Nat → Parser (List α)
  | 0 => pure []
  | fuel + 1 => do
    match ← optional p with
    | some a => return a :: (← many p fuel)
    | none => return []

/-- Read one or more `p` separated by the operator `sep`, at most `fuel` items; a separator
not followed by an item is left unread. -/
def sepBy1 {α : Type} (p : Parser α) (sep : String) (fuel : Nat) : Parser (List α) := do
  let first ← p
  let rest ← many (do let _ ← op sep; p) fuel
  return first :: rest

def faultAt {α : Type} (message : String) (t : Token) : Parser α :=
  fault (SyntaxFault.atToken message t)

def faultBetween {α : Type} (message : String) (a b : Token) : Parser α :=
  fault ⟨.syntaxError, message, a.line, a.col + 1, b.endLine,
    if b.hasPlace then b.endCol + 1 else 0, .file⟩

def faultHere {α : Type} (message : String) : Parser α := fun inp c =>
  .fault (SyntaxFault.whereReading message
      ((inp.tokens[c.furthest]?).getD (inp.tokens.back?.getD default)))
    (reachOf inp c)

/-- Read the operator or delimiter `s`, which must follow: anything else is a fault at the token
found. -/
def forced (s : String) : Parser Token := do
  let t ← peek
  if t.isOp s then next else faultAt ("expected '" ++ s ++ "'") t

def indentationFaultAt {α : Type} (message : String) (t : Token) : Parser α :=
  fault ⟨.indentationError, message, t.line, t.col + 1, t.endLine, t.endCol + 1, .file⟩

def run {α : Type} (p : Parser α) (inp : ParseInput) : Parsed α := p inp ⟨0, 0⟩

end Parser

end Obfuscation.Syntax
