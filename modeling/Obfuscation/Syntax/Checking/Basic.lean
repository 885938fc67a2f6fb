import Std.Data.HashMap
import Obfuscation.Syntax.Parser.Basic
/-!
The checking grammar's parser: ordered choice over tokens, with results remembered. It runs when no
rule of the grammar accepts a source, following the rules in order so that the first mistake met
wins, and keeps how many tokens have been looked at besides its position.
-/

namespace Obfuscation.Syntax.Checking

/-- Where a piece of source stands: first line and column, last line and column (columns from
0, the end exclusive). -/
structure Span where
  line : Nat
  col : Nat
  endLine : Nat
  endCol : Nat
  deriving Inhabited, Repr

def Span.ofTokens (a b : Token) : Span := ⟨a.line, a.col, b.endLine, b.endCol⟩

def Span.ofToken (t : Token) : Span := Span.ofTokens t t

def Span.join (a b : Span) : Span := ⟨a.line, a.col, b.endLine, b.endCol⟩

/-- The kinds of expression, as far as the messages tell them apart. -/
inductive Form where
  | name (id : String)
  | attribute
  | subscript
  | starred
  | list
  | tuple
  | lambda
  | call
  | boolOp
  | binOp
  | unaryOp
  | generator
  | yield
  | await
  | listComp
  | setComp
  | dictComp
  | dict
  | set
  | formatted
  | none
  | true
  | false
  | ellipsis
  | literal
  | compare (firstIsIn : Bool)
  | conditional
  | named
  | slice
  deriving Inhabited, Repr

/-- An expression as the checking grammar reads it: its kind, its span, and its parts: the
elements of a tuple or list, the value of a starred expression, the left side of a comparison. -/
inductive Shape where
  | mk (form : Form) (span : Span) (parts : List Shape)
  deriving Inhabited, Repr

def Shape.form : Shape → Form
  | .mk f _ _ => f

def Shape.span : Shape → Span
  | .mk _ s _ => s

def Shape.parts : Shape → List Shape
  | .mk _ _ ps => ps

def Form.describe : Form → String
  | .attribute => "attribute"
  | .subscript => "subscript"
  | .starred => "starred"
  | .name _ => "name"
  | .list => "list"
  | .tuple => "tuple"
  | .lambda => "lambda"
  | .call => "function call"
  | .boolOp => "expression"
  | .binOp => "expression"
  | .unaryOp => "expression"
  | .generator => "generator expression"
  | .yield => "yield expression"
  | .await => "await expression"
  | .listComp => "list comprehension"
  | .setComp => "set comprehension"
  | .dictComp => "dict comprehension"
  | .dict => "dict literal"
  | .set => "set display"
  | .formatted => "f-string expression"
  | .none => "None"
  | .true => "True"
  | .false => "False"
  | .ellipsis => "ellipsis"
  | .literal => "literal"
  | .compare _ => "comparison"
  | .conditional => "conditional expression"
  | .named => "named expression"
  | .slice => "slice"

/-- What a target is for: assignment, deletion, or a `for` loop. -/
inductive TargetUse where
  | assign
  | delete
  | loop
  deriving DecidableEq

mutual
/-- The first part of an expression that cannot be a target of the given use: tuples and lists
are searched element by element, a starred expression through its value (it cannot be deleted),
and for a loop the left side of an `in` comparison, which is how `for a in b` reads as an
expression. Names, attributes and subscripts are targets. -/
def Shape.invalidTarget (use : TargetUse) : Shape → Option Shape
  | .mk (.name _) _ _ => none
  | .mk .attribute _ _ => none
  | .mk .subscript _ _ => none
  | .mk .list _ ps => invalidTargetIn use ps
  | .mk .tuple _ ps => invalidTargetIn use ps
  | s@(.mk .starred _ ps) =>
    if use == .delete then some s else invalidTargetIn use ps
  | s@(.mk (.compare _) _ []) => if use == .loop then none else some s
  | s@(.mk (.compare firstIsIn) _ (left :: _)) =>
    if use == .loop then
      if firstIsIn then left.invalidTarget use else none
    else some s
  | s => some s

def invalidTargetIn (use : TargetUse) : List Shape → Option Shape
  | [] => none
  | s :: rest =>
    match s.invalidTarget use with
    | some t => some t
    | none => invalidTargetIn use rest
end

/-- What the checking grammar reads: the tokens, the bracket depth after each token, how
reading the tokens ended, the reader of formatted fields, and whether the rules for mistakes are
active (they are not inside the expression that follows a suspected missing comma). -/
structure Source where
  tokens : Array Token
  levels : Array Nat
  ending : LexEnd
  readField : List Char → Except SyntaxFault Expr
  checking : Bool

def bracketLevels (tokens : Array Token) : Array Nat :=
  (tokens.foldl (fun (acc : Array Nat × Nat) t =>
    let depth :=
      if t.kind == .op && ["(", "[", "\x7b"].contains t.text then acc.2 + 1
      else if t.kind == .op && [")", "]", "\x7d"].contains t.text then acc.2 - 1
      else acc.2
    (acc.1.push depth, depth)) (#[], 0)).1

/-- A remembered result: what the rule read and where it stopped, or that it did not match. -/
abbrev Remembered := Option (Shape × Nat)

/-- The state of the checking parser: the position, the number of tokens looked at, and the
remembered results by rule and position. -/
structure Probe where
  pos : Nat
  fill : Nat
  memo : Std.HashMap (Nat × Nat) Remembered

inductive Outcome (α : Type) where
  | ok (a : α) (p : Probe)
  | miss (p : Probe)
  | raised (f : SyntaxFault) (reach : Nat)

def Check (α : Type) := Source → Probe → Outcome α

namespace Check

instance : Monad Check where
  pure a := fun _ p => .ok a p
  bind c f := fun s p =>
    match c s p with
    | .ok a p' => f a s p'
    | .miss p' => .miss p'
    | .raised e r => .raised e r

instance {α : Type} : Inhabited (Check α) := ⟨fun _ p => .miss p⟩

def miss {α : Type} : Check α := fun _ p => .miss p

def reachOf (tokens : Array Token) (fill : Nat) : Nat :=
  ((tokens[fill - 1]?).getD (tokens.back?.getD default)).line

def raise {α : Type} (f : SyntaxFault) : Check α := fun s p => .raised f (reachOf s.tokens p.fill)

/-- Ordered choice: the second rule runs from the same position if the first does not match;
what was looked at and remembered is kept. -/
def orElse {α : Type} (c d : Check α) : Check α := fun s p =>
  -- only the position is kept from the probe, so that the table of results stays unshared
  let pos := p.pos
  match c s p with
  | .miss p' => d s { p' with pos := pos }
  | r => r

instance {α : Type} : OrElse (Check α) := ⟨fun c d => orElse c (d ())⟩

/-- Ordered choice where the first alternative, once its tokens match, decides: its action may
report a mistake, give a result, or make the whole rule fail without trying the rest. -/
def committed {α β : Type} (c : Check α) (action : α → Check β) (rest : Check β) : Check β :=
  fun s p =>
    let pos := p.pos
    match c s p with
    | .ok a p' => action a s p'
    | .miss p' => rest s { p' with pos := pos }
    | .raised e r => .raised e r

def invalid {α : Type} (c : Check α) : Check α := fun s p =>
  if s.checking then c s p else .miss p

def withoutInvalid {α : Type} (c : Check α) : Check α := fun s p => c { s with checking := false } p

def optional {α : Type} (c : Check α) : Check (Option α) :=
  orElse (do let a ← c; pure (some a)) (pure none)

def ahead {α : Type} (c : Check α) : Check Bool := fun s p =>
  let pos := p.pos
  match c s p with
  | .ok _ p' => .ok true { p' with pos := pos }
  | .miss p' => .ok false { p' with pos := pos }
  | .raised e r => .raised e r

def positive {α : Type} (c : Check α) : Check Unit := do
  if ← ahead c then pure () else miss

def negative {α : Type} (c : Check α) : Check Unit := do
  if ← ahead c then miss else pure ()

def endingFault (s : Source) : SyntaxFault :=
  match s.ending with
  | .raised f => f
  | .halted sig innermost => sig.report innermost
  | .unclosed b line col => unclosedFault b line col
  | .complete => SyntaxFault.spanning "unexpected EOF while parsing" 1 0 0

/-- The token at the position, which is then looked at. Past the end it is the end marker, or
the fault that stopped reading. -/
def peek : Check Token := fun s p =>
  let p' := { p with fill := max p.fill (p.pos + 1) }
  if h : p.pos < s.tokens.size then .ok s.tokens[p.pos] p'
  else match s.ending with
    | .complete => .ok (s.tokens.back?.getD default) p'
    | _ => .raised (endingFault s) (reachOf s.tokens p'.fill)

def next : Check Token := do
  let t ← peek
  fun _ p => .ok t { p with pos := p.pos + 1 }

def expect (test : Token → Bool) : Check Token := do
  let t ← peek
  if test t then next else miss

def op (s : String) : Check Token := expect (·.isOp s)

def keyword (s : String) : Check Token := expect (·.isName s)

def kind (k : TokenKind) : Check Token := expect (·.kind == k)

def name : Check Token := expect Parser.isPlainName

/-- A type comment, which plain parsing never produces: looks at the token and does not match. -/
def typeComment : Check Unit := do
  let _ ← peek
  miss

def mark : Check Nat := fun _ p => .ok p.pos p

def last : Check Token := fun s p =>
  .ok ((s.tokens[p.pos - 1]?).getD (s.tokens.back?.getD default)) p

def spanFrom (t : Token) : Check Span := do return Span.ofTokens t (← last)

def levelBefore : Check Nat := fun s p => .ok ((s.levels[p.pos - 1]?).getD 0) p

def loopFuel : Check Nat := fun s p => .ok (s.tokens.size + 1) p

def many {α : Type} (c : Check α) : Nat → Check (List α)
  | 0 => pure []
  | fuel + 1 => do
    match ← optional c with
    | some a => return a :: (← many c fuel)
    | none => return []

def repeated {α : Type} (c : Check α) : Check (List α) := do many c (← loopFuel)

def repeated1 {α : Type} (c : Check α) : Check (List α) := do
  let first ← c
  return first :: (← repeated c)

/-- Read one or more matches of a rule separated by the operator `sep`; a separator not followed
by a match is left unread. -/
def separated {α : Type} (c : Check α) (sep : String) : Check (List α) := do
  let first ← c
  let rest ← repeated (do let _ ← op sep; c)
  return first :: rest

/-- Run a rule remembered under a key: the result of an earlier run at the same position is
used again. -/
def remember (key : Nat) (c : Check Shape) : Check Shape := fun s p =>
  let pos := p.pos
  match p.memo.get? (key, pos) with
  | some (some (a, stop)) => .ok a { p with pos := stop }
  | some none => .miss p
  | none =>
    match c s p with
    | .ok a ⟨stop, fill, memo⟩ => .ok a ⟨stop, fill, memo.insert (key, pos) (some (a, stop))⟩
    | .miss ⟨stop, fill, memo⟩ => .miss ⟨stop, fill, memo.insert (key, pos) none⟩
    | .raised e r => .raised e r

/-- The place a mistake without a place of its own points at when `fill` tokens were looked at:
the last of them. An indentation token or the end marker has no extent; it points where reading
stood, after the indentation or at the end of the last line. -/
def placeOf (tokens : Array Token) (fill : Nat) : Nat × Nat × Nat × Nat :=
  let t := (tokens[fill - 1]?).getD (tokens.back?.getD default)
  if t.hasPlace then (t.line, t.col + 1, t.endLine, t.endCol + 1)
  else (t.line, t.col, t.endLine, 0)

def lookedAt : Check (Nat × Nat × Nat × Nat) := fun s p => .ok (placeOf s.tokens p.fill) p

def raiseHere {α : Type} (message : String) : Check α := do
  let (l, c, el, ec) ← lookedAt
  raise ⟨.syntaxError, message, l, c, el, ec, .file⟩

def raiseIndentation {α : Type} (message : String) : Check α := do
  let (l, c, el, ec) ← lookedAt
  raise ⟨.indentationError, message, l, c, el, ec, .file⟩

def raiseAt {α : Type} (message : String) (place : Span) : Check α :=
  raise ⟨.syntaxError, message, place.line, place.col + 1, place.endLine, place.endCol + 1, .file⟩

def raiseBetween {α : Type} (message : String) (a b : Span) : Check α :=
  raiseAt message (Span.join a b)

def raiseFrom {α : Type} (message : String) (a : Span) : Check α := fun s p =>
  let t := (s.tokens[p.fill - 1]?).getD (s.tokens.back?.getD default)
  .raised ⟨.syntaxError, message, a.line, a.col + 1, t.endLine, t.endCol, .file⟩ t.line

def forced (s : String) : Check Token := do
  let t ← peek
  if t.isOp s then next
  else raise (SyntaxFault.atToken ("expected '" ++ s ++ "'") t)

def shape (f : Form) (t : Token) (parts : List Shape) : Check Shape := do
  return .mk f (← spanFrom t) parts

/-- Extend a left operand by `ext` as often as it matches, each time into a binary operation
spanning from the token `t`. -/
def chainLeft (t : Token) (first : Shape) (ext : Check Unit) : Check Shape := do
  let rec go : Nat → Shape → Check Shape
    | 0, acc => pure acc
    | fuel + 1, acc => do
      match ← optional ext with
      | some _ => go fuel (← shape .binOp t [])
      | none => pure acc
  go (← loopFuel) first

/-- Extend an expression spanning from the token `t` by `ext` as often as it matches, each time
into an expression of the kind `ext` gives. -/
def extendWhile (t : Token) (first : Shape) (ext : Check Form) : Check Shape := do
  let rec go : Nat → Shape → Check Shape
    | 0, acc => pure acc
    | fuel + 1, acc => do
      match ← optional ext with
      | some f => go fuel (← shape f t [])
      | none => pure acc
  go (← loopFuel) first

def tooDeep {α : Type} : Check α := do
  raiseHere "too many nested parentheses"

end Check

end Obfuscation.Syntax.Checking
