import Obfuscation.Syntax.Tree
import Obfuscation.Syntax.Number
import Obfuscation.Syntax.Printer.Delimiter
import Obfuscation.Decimal.Notation
import Obfuscation.Fault
/-!
Printing expressions as source text. An expression takes parentheses exactly when its own operator
binds more loosely than its place expects. A formatted field whose text still needs a backslash
cannot be printed.
-/

namespace Obfuscation.Syntax

open Decimal

inductive Precedence where
  | namedExpr | tuple | yield | test | or | and | not | compare | bitOr | bitXor | bitAnd
  | shift | arith | term | factor | power | await | atom
  deriving DecidableEq, Repr, Inhabited

def Precedence.rank : Precedence → Nat
  | .namedExpr => 1 | .tuple => 2 | .yield => 3 | .test => 4 | .or => 5 | .and => 6
  | .not => 7 | .compare => 8 | .bitOr => 9 | .bitXor => 10 | .bitAnd => 11 | .shift => 12
  | .arith => 13 | .term => 14 | .factor => 15 | .power => 16 | .await => 17 | .atom => 18

def Precedence.next : Precedence → Precedence
  | .namedExpr => .tuple | .tuple => .yield | .yield => .test | .test => .or | .or => .and
  | .and => .not | .not => .compare | .compare => .bitOr | .bitOr => .bitXor
  | .bitXor => .bitAnd | .bitAnd => .shift | .shift => .arith | .arith => .term
  | .term => .factor | .factor => .power | .power => .await | .await => .atom | .atom => .atom

def Precedence.wraps (expected own : Precedence) : Bool := own.rank < expected.rank

def parenthesize (wrap : Bool) (s : String) : String := if wrap then "(" ++ s ++ ")" else s

def inBraces (s : String) : String := "\x7b" ++ s ++ "\x7d"

def itemsView : List String → String
  | [x] => x ++ ","
  | xs => ", ".intercalate xs

def BinaryOp.symbol : BinaryOp → String
  | .add => "+" | .sub => "-" | .mult => "*" | .matMult => "@" | .div => "/" | .mod => "%"
  | .pow => "**" | .lShift => "<<" | .rShift => ">>" | .bitOr => "|" | .bitXor => "^"
  | .bitAnd => "&" | .floorDiv => "//"

def BinaryOp.precedence : BinaryOp → Precedence
  | .add | .sub => .arith
  | .mult | .matMult | .div | .mod | .floorDiv => .term
  | .lShift | .rShift => .shift
  | .bitOr => .bitOr
  | .bitXor => .bitXor
  | .bitAnd => .bitAnd
  | .pow => .power

def UnaryOp.symbol : UnaryOp → String
  | .invert => "~" | .not => "not" | .uAdd => "+" | .uSub => "-"

def UnaryOp.precedence : UnaryOp → Precedence
  | .not => .not
  | _ => .factor

def CompareOp.symbol : CompareOp → String
  | .eq => "==" | .notEq => "!=" | .lt => "<" | .ltE => "<=" | .gt => ">" | .gtE => ">="
  | .is => "is" | .isNot => "is not" | .isIn => "in" | .notIn => "not in"

def BoolOp.keyword : BoolOp → String
  | .and => "and" | .or => "or"

def BoolOp.precedence : BoolOp → Precedence
  | .and => .and | .or => .or

/-- Floats are written positionally from `1e-4` up to below `1e16`, keep `.0` when integral,
and give the exponent a sign and at least two digits. -/
def Notation.float : Notation := ⟨-4, 16, true, 2⟩

def Notation.imaginary : Notation := ⟨-4, 16, false, 2⟩

/-- The characters of a number text with each `inf` read as the overflowing literal `1e309`
and each `nan` as its difference with itself, from the left. -/
def spellFinite : List Char → List Char
  | 'i' :: 'n' :: 'f' :: rest => "1e309".toList ++ spellFinite rest
  | 'n' :: 'a' :: 'n' :: rest => "(1e309-1e309)".toList ++ spellFinite rest
  | c :: rest => c :: spellFinite rest
  | [] => []

/-- A number text in which infinity is the overflowing literal `1e309` and not-a-number its
difference with itself. -/
def finiteSpelling (s : String) : String := String.ofList (spellFinite s.toList)

def integerText (n : Nat) : Except Fault String :=
  let s := Nat.repr n
  if s.length > integerDigitLimit then
    throw ⟨.valueError, "Exceeds the limit (4300 digits) for integer string conversion; " ++
      "use sys.set_int_max_str_digits() to increase the limit"⟩
  else pure s

def Literal.render (avoid : Bool) : Literal → Except Fault String
  | .none => pure "None"
  | .true => pure "True"
  | .false => pure "False"
  | .ellipsis => pure "..."
  | .int n => integerText n
  | .float x => pure (finiteSpelling (Notation.float.render x))
  | .imaginary x => pure (finiteSpelling (Notation.imaginary.render x ++ "j"))
  | .str t u =>
    pure ((if u then "u" else "") ++
      (if avoid then writeAvoiding t Delimiter.all else Text.quote t))
  | .bytes bs => pure (Text.quoteBytes bs)

def doubleBraces (t : Text) : Text :=
  t.flatMap fun c => if c == 0x7B || c == 0x7D then [c, c] else [c]

def Expr.isConstant : Expr → Bool
  | .constant _ => true
  | _ => false

/-- Whether an expression is an integer or boolean constant, after which an attribute needs a
space before its dot. -/
def Expr.isIntegral : Expr → Bool
  | .constant (.int _) | .constant .true | .constant .false => true
  | _ => false

def conversionMark (conversion : Int) : String :=
  if conversion == -1 then "" else "!" ++ String.singleton (Char.ofNat conversion.toNat)

def Fault.backslashInField : Fault :=
  ⟨.valueError, "Unable to avoid backslash in f-string expression part"⟩

def Fault.strayFormattedPart : Fault :=
  ⟨.valueError, "Unexpected node inside JoinedStr"⟩

/-- The parameter list assembled from its rendered pieces, in the order they are written; the
first fault among them wins. Positional parameters pair with the defaults of the last ones, and
a `/` follows the last positional-only one. -/
def assembleParameters (posCount : Nat) (positional defaults : List (Except Fault String))
    (vararg : Option (Except Fault String)) (kwOnly : List (Except Fault String))
    (kwDefaults : List (Except Fault (Option String))) (kwarg : Option (Except Fault String)) :
    Except Fault String :=
  let n := positional.length
  let padded := List.replicate (n - defaults.length) none ++ defaults.map some
  let separator (first : Bool) : Except Fault String := pure (if first then "" else ", ")
  let posPieces := ((positional.zip padded).zipIdx.map fun ((a, d), i) =>
    [separator (i == 0), a] ++ (match d with | some d => [pure "=", d] | none => []) ++
      (if i + 1 == posCount then [pure ", /"] else [])).flatten
  let starred := vararg.isSome || !kwOnly.isEmpty
  let varPieces := if starred then
      [separator (n == 0), pure "*"] ++ (match vararg with | some v => [v] | none => [])
    else []
  let kwPieces := ((kwOnly.zip kwDefaults).map fun (a, d) =>
    [pure ", ", a, d.map fun o => (o.map ("=" ++ ·)).getD ""]).flatten
  let kwargPieces := match kwarg with
    | some k => [separator (n == 0 && !starred), k.map ("**" ++ ·)]
    | none => []
  String.join <$> (posPieces ++ varPieces ++ kwPieces ++ kwargPieces).mapM id

mutual

/-- The text of an expression printed where binding `p` is expected; `avoid` writes string
literals without backslashes where possible, as inside a formatted field. -/
def Expr.render (avoid : Bool) (p : Precedence) : Expr → Except Fault String
  | .boolOp o values => do
    let parts ← Expr.renderRising avoid o.precedence values
    pure (parenthesize (p.wraps o.precedence) ((" " ++ o.keyword ++ " ").intercalate parts))
  | .namedExpr target value => do
    let t ← target.render avoid .atom
    let v ← value.render avoid .atom
    pure (parenthesize (p.wraps .namedExpr) (t ++ " := " ++ v))
  | .binOp left o right => do
    let own := o.precedence
    let l ← left.render avoid (if o == .pow then own.next else own)
    let r ← right.render avoid (if o == .pow then own else own.next)
    pure (parenthesize (p.wraps own) (l ++ " " ++ o.symbol ++ " " ++ r))
  | .unaryOp o operand => do
    let s ← operand.render avoid o.precedence
    let gap := if o == .not then " " else ""
    pure (parenthesize (p.wraps o.precedence) (o.symbol ++ gap ++ s))
  | .lambda args body => do
    let a ← args.render avoid
    let b ← body.render avoid .test
    let head := if a.isEmpty then "lambda" else "lambda " ++ a
    pure (parenthesize (p.wraps .test) (head ++ ": " ++ b))
  | .ifExp test body orelse => do
    let b ← body.render avoid .or
    let t ← test.render avoid .or
    let e ← orelse.render avoid .test
    pure (parenthesize (p.wraps .test) (b ++ " if " ++ t ++ " else " ++ e))
  | .dict keys values => do
    let items ← Expr.renderEntries avoid keys values
    pure (inBraces (", ".intercalate items))
  | .set elts => do
    let items ← (Expr.renderEach avoid .test elts).mapM id
    pure (if items.isEmpty then inBraces "*()" else inBraces (", ".intercalate items))
  | .listComp elt gens => do
    let e ← elt.render avoid .test
    let g ← Comprehension.renderAll avoid gens
    pure ("[" ++ e ++ g ++ "]")
  | .setComp elt gens => do
    let e ← elt.render avoid .test
    let g ← Comprehension.renderAll avoid gens
    pure (inBraces (e ++ g))
  | .dictComp key value gens => do
    let k ← key.render avoid .test
    let v ← value.render avoid .test
    let g ← Comprehension.renderAll avoid gens
    pure (inBraces (k ++ ": " ++ v ++ g))
  | .generatorExp elt gens => do
    let e ← elt.render avoid .test
    let g ← Comprehension.renderAll avoid gens
    pure ("(" ++ e ++ g ++ ")")
  | .await value => do
    let v ← value.render avoid .atom
    pure (parenthesize (p.wraps .await) ("await " ++ v))
  | .yield value => do
    let v ← Expr.renderOption avoid .atom value
    pure (parenthesize (p.wraps .yield) ("yield" ++ ((v.map (" " ++ ·)).getD "")))
  | .yieldFrom value => do
    let v ← value.render avoid .atom
    pure (parenthesize (p.wraps .yield) ("yield from " ++ v))
  | .compare left ops comparators => do
    let l ← left.render avoid .bitOr
    let cs ← (Expr.renderEach avoid .bitOr comparators).mapM id
    let tail := String.join ((ops.zip cs).map fun (o, c) => " " ++ o.symbol ++ " " ++ c)
    pure (parenthesize (p.wraps .compare) (l ++ tail))
  | .call func args keywords => do
    let f ← func.render avoid .atom
    let a ← (Expr.renderEach avoid .test args).mapM id
    let k ← (Keyword.renderEach avoid keywords).mapM id
    pure (f ++ "(" ++ ", ".intercalate (a ++ k) ++ ")")
  | .formattedValue value conversion spec => do
    let t ← Expr.renderField conversion value spec
    pure (Text.toString t)
  | .joinedStr values => do
    let parts ← Expr.fieldParts values
    if avoid then pure ("f" ++ writeAvoiding (parts.flatMap (·.1)) Delimiter.all)
    else pure ("f" ++ joinedLiteral parts)
  | .constant v => v.render avoid
  | .attribute value attr => do
    let v ← value.render avoid .atom
    pure (v ++ (if value.isIntegral then " " else "") ++ "." ++ attr)
  | .subscript value slice => do
    let v ← value.render avoid .atom
    let s ← Expr.renderIndex avoid slice
    pure (v ++ "[" ++ s ++ "]")
  | .starred value => do
    let v ← value.render avoid .bitOr
    pure ("*" ++ v)
  | .name id => pure id
  | .list elts => do
    let items ← (Expr.renderEach avoid .test elts).mapM id
    pure ("[" ++ ", ".intercalate items ++ "]")
  | .tuple elts => do
    let items ← (Expr.renderEach avoid .test elts).mapM id
    pure (parenthesize (elts.isEmpty || p.wraps .tuple) (itemsView items))
  | .slice lower upper step => do
    let l ← Expr.renderOption avoid .test lower
    let u ← Expr.renderOption avoid .test upper
    let s ← Expr.renderOption avoid .test step
    pure (l.getD "" ++ ":" ++ u.getD "" ++ ((s.map (":" ++ ·)).getD ""))
termination_by e => 2 * sizeOf e

def Expr.renderEach (avoid : Bool) (p : Precedence) : List Expr → List (Except Fault String)
  | [] => []
  | e :: es => e.render avoid p :: Expr.renderEach avoid p es
termination_by es => 2 * sizeOf es

def Expr.renderRising (avoid : Bool) (p : Precedence) : List Expr → Except Fault (List String)
  | [] => pure []
  | e :: es => do
    let s ← e.render avoid p.next
    let rest ← Expr.renderRising avoid p.next es
    pure (s :: rest)
termination_by es => 2 * sizeOf es

def Expr.renderOption (avoid : Bool) (p : Precedence) : Option Expr → Except Fault (Option String)
  | none => pure none
  | some e => some <$> e.render avoid p
termination_by o => 2 * sizeOf o

def Expr.renderOptionEach (avoid : Bool) (p : Precedence) :
    List (Option Expr) → List (Except Fault (Option String))
  | [] => []
  | o :: os => Expr.renderOption avoid p o :: Expr.renderOptionEach avoid p os
termination_by os => 2 * sizeOf os

def Expr.renderEntries (avoid : Bool) : List (Option Expr) → List Expr → Except Fault (List String)
  | some k :: ks, v :: vs => do
    let a ← k.render avoid .test
    let b ← v.render avoid .test
    let rest ← Expr.renderEntries avoid ks vs
    pure ((a ++ ": " ++ b) :: rest)
  | none :: ks, v :: vs => do
    let b ← v.render avoid .bitOr
    let rest ← Expr.renderEntries avoid ks vs
    pure (("**" ++ b) :: rest)
  | _, _ => pure []
termination_by ks vs => 2 * (sizeOf ks + sizeOf vs)

def Expr.renderIndex (avoid : Bool) : Expr → Except Fault String
  | .tuple (e :: es) => do
    let items ← (Expr.renderEach avoid .test (e :: es)).mapM id
    pure (itemsView items)
  | e => e.render avoid .test
termination_by e => 2 * sizeOf e + 1

def Expr.renderField (conversion : Int) (value : Expr) (spec : Option Expr) :
    Except Fault Text := do
  let e ← value.render true .or
  if e.toList.contains '\\' then throw Fault.backslashInField
  let gap := if e.startsWith "\x7b" then " " else ""
  let s ← Expr.specText spec
  pure (Text.ofString ("\x7b" ++ gap ++ e ++ conversionMark conversion) ++ s ++
    Text.ofString "\x7d")
termination_by 2 * (sizeOf value + sizeOf spec) + 1

def Expr.specText : Option Expr → Except Fault Text
  | none => pure []
  | some s => do
    let t ← s.fieldText
    pure (0x3A :: t)
termination_by o => 2 * sizeOf o

/-- The text of a formatted-string part as it stands between the delimiters, before escaping:
constant text with doubled braces, or a field. -/
def Expr.fieldText : Expr → Except Fault Text
  | .joinedStr values => do
    let parts ← Expr.fieldParts values
    pure (parts.flatMap (·.1))
  | .constant (.str t _) => pure (doubleBraces t)
  | .formattedValue value conversion spec => Expr.renderField conversion value spec
  | _ => throw Fault.strayFormattedPart
termination_by e => 2 * sizeOf e

def Expr.fieldParts : List Expr → Except Fault (List (Text × Bool))
  | [] => pure []
  | v :: vs => do
    let t ← v.fieldText
    let rest ← Expr.fieldParts vs
    pure ((t, v.isConstant) :: rest)
termination_by vs => 2 * sizeOf vs

def Comprehension.renderAll (avoid : Bool) : List Comprehension → Except Fault String
  | [] => pure ""
  | .mk target iter ifs isAsync :: rest => do
    let t ← target.render avoid .tuple
    let i ← iter.render avoid .or
    let cs ← (Expr.renderEach avoid .or ifs).mapM id
    let more ← Comprehension.renderAll avoid rest
    let head := if isAsync then " async for " else " for "
    pure (head ++ t ++ " in " ++ i ++ String.join (cs.map (" if " ++ ·)) ++ more)
termination_by gs => 2 * sizeOf gs

def Keyword.renderEach (avoid : Bool) : List Keyword → List (Except Fault String)
  | [] => []
  | .mk name value :: rest =>
    let prefixText := match name with
      | some n => n ++ "="
      | none => "**"
    ((prefixText ++ ·) <$> value.render avoid .test) :: Keyword.renderEach avoid rest
termination_by ks => 2 * sizeOf ks

def Arg.render (avoid : Bool) : Arg → Except Fault String
  | .mk name none => pure name
  | .mk name (some hint) => do
    let a ← hint.render avoid .test
    pure (name ++ ": " ++ a)
termination_by a => 2 * sizeOf a

def Arg.renderEach (avoid : Bool) : List Arg → List (Except Fault String)
  | [] => []
  | a :: rest => a.render avoid :: Arg.renderEach avoid rest
termination_by as => 2 * sizeOf as

def Arg.renderOption (avoid : Bool) : Option Arg → Option (Except Fault String)
  | none => none
  | some a => some (a.render avoid)
termination_by o => 2 * sizeOf o

def Arguments.render (avoid : Bool) : Arguments → Except Fault String
  | .mk posOnly args vararg kwOnly kwDefaults kwarg defaults =>
    assembleParameters posOnly.length
      (Arg.renderEach avoid posOnly ++ Arg.renderEach avoid args)
      (Expr.renderEach avoid .test defaults)
      (Arg.renderOption avoid vararg)
      (Arg.renderEach avoid kwOnly)
      (Expr.renderOptionEach avoid .test kwDefaults)
      (Arg.renderOption avoid kwarg)
termination_by a => 2 * sizeOf a

end

end Obfuscation.Syntax
