import Obfuscation.Text.Basic
/-!
The syntax tree of a Python module (the language of version 3.11).

Expressions, statements and match patterns are separate types. Each constructor lists its
children in the order in which a traversal visits them, so a pass that walks the fields from left
to right sees the nodes in source order, except where the grammar says otherwise: a function's
body comes before its decorators, and a dictionary's keys all come before its values.
-/

namespace Obfuscation.Syntax

/-- Literal values. Integers are non-negative, a sign being an operator; `str` records whether
the literal carried the `u` prefix. -/
inductive Literal where
  | none
  | true
  | false
  | ellipsis
  | int (n : Nat)
  | float (x : Float)
  | imaginary (x : Float)
  | str (t : Text) (uPrefix : Bool)
  | bytes (bs : List UInt8)
  deriving Inhabited

inductive BinaryOp where
  | add | sub | mult | matMult | div | mod | pow | lShift | rShift | bitOr | bitXor | bitAnd
  | floorDiv
  deriving DecidableEq, Repr, Inhabited

inductive UnaryOp where
  | invert | not | uAdd | uSub
  deriving DecidableEq, Repr, Inhabited

inductive CompareOp where
  | eq | notEq | lt | ltE | gt | gtE | is | isNot | isIn | notIn
  deriving DecidableEq, Repr, Inhabited

inductive BoolOp where
  | and | or
  deriving DecidableEq, Repr, Inhabited

mutual

/-- Expressions. A formatted value's conversion is `-1` (none) or the code of `s`, `r` or
`a`; its format specification is always a joined string. -/
inductive Expr where
  | boolOp (op : BoolOp) (values : List Expr)
  | namedExpr (target value : Expr)
  | binOp (left : Expr) (op : BinaryOp) (right : Expr)
  | unaryOp (op : UnaryOp) (operand : Expr)
  | lambda (args : Arguments) (body : Expr)
  | ifExp (test body orelse : Expr)
  | dict (keys : List (Option Expr)) (values : List Expr)
  | set (elts : List Expr)
  | listComp (elt : Expr) (generators : List Comprehension)
  | setComp (elt : Expr) (generators : List Comprehension)
  | dictComp (key value : Expr) (generators : List Comprehension)
  | generatorExp (elt : Expr) (generators : List Comprehension)
  | await (value : Expr)
  | yield (value : Option Expr)
  | yieldFrom (value : Expr)
  | compare (left : Expr) (ops : List CompareOp) (comparators : List Expr)
  | call (func : Expr) (args : List Expr) (keywords : List Keyword)
  | formattedValue (value : Expr) (conversion : Int) (formatSpec : Option Expr)
  | joinedStr (values : List Expr)
  | constant (value : Literal)
  | attribute (value : Expr) (attr : String)
  | subscript (value slice : Expr)
  | starred (value : Expr)
  | name (id : String)
  | list (elts : List Expr)
  | tuple (elts : List Expr)
  | slice (lower upper step : Option Expr)

inductive Comprehension where
  | mk (target iter : Expr) (ifs : List Expr) (isAsync : Bool)

inductive Arg where
  | mk (name : String) (hint : Option Expr)

/-- A parameter list. `kwDefaults` has one entry per keyword-only parameter; `defaults` belong
to the last positional parameters. -/
inductive Arguments where
  | mk (posOnly args : List Arg) (vararg : Option Arg) (kwOnly : List Arg)
      (kwDefaults : List (Option Expr)) (kwarg : Option Arg) (defaults : List Expr)

inductive Keyword where
  | mk (arg : Option String) (value : Expr)

end

instance : Inhabited Expr := ⟨.constant .none⟩

def Arguments.empty : Arguments := .mk [] [] none [] [] none []

inductive Pattern where
  | value (e : Expr)
  | singleton (v : Literal)
  | sequence (patterns : List Pattern)
  | mapping (keys : List Expr) (patterns : List Pattern) (rest : Option String)
  | classPattern (cls : Expr) (patterns : List Pattern) (kwdAttrs : List String)
      (kwdPatterns : List Pattern)
  | star (name : Option String)
  | capture (pattern : Option Pattern) (name : Option String)
  | alternatives (patterns : List Pattern)

structure Alias where
  name : String
  asName : Option String

/-- A context manager of a `with` statement and its optional target. -/
structure WithItem where
  context : Expr
  vars : Option Expr

mutual

/-- Statements. `functionDef`, `forLoop` and `withBlock` carry whether they are `async`;
`tryBlock` carries whether its handlers are `except*`. -/
inductive Stmt where
  | functionDef (name : String) (args : Arguments) (body : List Stmt) (decorators : List Expr)
      (returns : Option Expr) (isAsync : Bool)
  | classDef (name : String) (bases : List Expr) (keywords : List Keyword) (body : List Stmt)
      (decorators : List Expr)
  | returnStmt (value : Option Expr)
  | delete (targets : List Expr)
  | assign (targets : List Expr) (value : Expr)
  | augAssign (target : Expr) (op : BinaryOp) (value : Expr)
  | annAssign (target hint : Expr) (value : Option Expr) (simple : Bool)
  | forLoop (target iter : Expr) (body orelse : List Stmt) (isAsync : Bool)
  | whileLoop (test : Expr) (body orelse : List Stmt)
  | ifStmt (test : Expr) (body orelse : List Stmt)
  | withBlock (items : List WithItem) (body : List Stmt) (isAsync : Bool)
  | matchStmt (subject : Expr) (cases : List MatchCase)
  | raise (exc cause : Option Expr)
  | tryBlock (body : List Stmt) (handlers : List Handler) (orelse finalbody : List Stmt)
      (isStar : Bool)
  | assert (test : Expr) (msg : Option Expr)
  | importNames (names : List Alias)
  | importFrom (module : Option String) (names : List Alias) (level : Nat)
  | global (names : List String)
  | nonlocal (names : List String)
  | expr (value : Expr)
  | pass
  | breakStmt
  | continueStmt

inductive MatchCase where
  | mk (pattern : Pattern) (guard : Option Expr) (body : List Stmt)

inductive Handler where
  | mk (type : Option Expr) (name : Option String) (body : List Stmt)

end

instance : Inhabited Stmt := ⟨.pass⟩

abbrev Module := List Stmt

/-- Whether a statement is an expression statement of a string literal (a docstring when it
comes first in a body). -/
def Stmt.isStringExpr : Stmt → Bool
  | .expr (.constant (.str _ _)) => true
  | _ => false

end Obfuscation.Syntax
