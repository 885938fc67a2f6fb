import Obfuscation.Syntax.Checking.Basic
import Obfuscation.Syntax.Literal
/-!
The expression rules of the checking grammar, following the expression grammar alternative by
alternative, with the rules for mistakes at the places the grammar tries them.
-/

namespace Obfuscation.Syntax.Checking

open Check

def softKeywords : List String := ["_", "case", "match"]

/-- Read a soft keyword. A name counts as one when a soft keyword begins with it: only as many
characters are compared as the name has, so `m` and `ca` count too. -/
def softKeyword : Check Token :=
  expect fun t => t.kind == .name && !t.text.isEmpty && softKeywords.any (t.text.isPrefixOf ·)

def Shape.isLegacy : Shape → Bool
  | .mk (.name id) _ _ => id == "print" || id == "exec"
  | _ => false

def isFormatted (t : Token) : Bool :=
  (t.text.toList.takeWhile fun c => c != '\'' && c != '"').any fun c => c == 'f' || c == 'F'

/-- What a call's arguments hold: the positional arguments with unpacked ones, and whether a
keyword argument unpacks a mapping. -/
def argumentsShape (start : Token) (positional : List Shape) (unpacking : Bool) : Check Shape := do
  shape (if unpacking then .dict else .call) start positional

def Shape.unpacksMapping : Shape → Bool
  | .mk .dict _ _ => true
  | _ => false

/-- An item of keyword arguments: an unpacked positional argument, a named argument, or an
unpacked mapping. -/
inductive KeywordItem where
  | starred (s : Shape)
  | named
  | mapping

/-- The expression a comprehension clause ends with: its last condition, or its iterable. -/
structure Clause where
  last : Shape

mutual

def expressions : Nat → Check Shape
  | 0 => tooDeep
  | n + 1 => do
    let t ← peek
    (do
        let a ← expression n
        let rest ← repeated1 (do let _ ← op ","; expression n)
        let _ ← optional (op ",")
        shape .tuple t (a :: rest))
      <|> (do
        let a ← expression n
        let _ ← op ","
        shape .tuple t [a])
      <|> expression n

/-- `expression`: a conditional expression, a disjunction or a lambda, after the rules for a
missing comma, a missing `else` and a missing call. -/
def expression : Nat → Check Shape
  | 0 => tooDeep
  | n + 1 => remember 1 do
    let t ← peek
    invalid (invalidExpression n)
      <|> invalid (invalidLegacyExpression n)
      <|> (do
        let _ ← disjunction n
        let _ ← keyword "if"
        let _ ← disjunction n
        let _ ← keyword "else"
        let _ ← expression n
        shape .conditional t [])
      <|> disjunction n
      <|> lambdef n

/-- Two expressions side by side inside brackets: a missing comma; or a conditional expression
without `else`. -/
def invalidExpression : Nat → Check Shape
  | 0 => tooDeep
  | n + 1 =>
    committed (do
        negative ((do let _ ← name; let _ ← kind .string; pure ()) <|>
          (do let _ ← softKeyword; pure ()))
        let a ← disjunction n
        let b ← expressionWithoutInvalid n
        let level ← levelBefore
        pure (a, b, level))
      (fun (a, b, level) =>
        if a.isLegacy || level == 0 then miss
        else raiseBetween "invalid syntax. Perhaps you forgot a comma?" a.span b.span)
      (do
        let a ← disjunction n
        let _ ← keyword "if"
        let b ← disjunction n
        negative ((do let _ ← keyword "else"; pure ()) <|> (do let _ ← op ":"; pure ()))
        raiseBetween "expected 'else' after 'if' expression" a.span b.span)

def expressionWithoutInvalid : Nat → Check Shape
  | 0 => tooDeep
  | n + 1 => withoutInvalid do
    let t ← peek
    (do
        let _ ← disjunction n
        let _ ← keyword "if"
        let _ ← disjunction n
        let _ ← keyword "else"
        let _ ← expression n
        shape .conditional t [])
      <|> disjunction n
      <|> lambdef n

def invalidLegacyExpression : Nat → Check Shape
  | 0 => tooDeep
  | n + 1 => do
    let t ← name
    negative (op "(")
    let b ← starExpressions n
    if t.text == "print" || t.text == "exec" then
      raiseBetween ("Missing parentheses in call to '" ++ t.text ++ "'. Did you mean " ++
        t.text ++ "(...)?") (Span.ofToken t) b.span
    else miss

def yieldExpr : Nat → Check Shape
  | 0 => tooDeep
  | n + 1 => do
    let t ← peek
    (do
        let _ ← keyword "yield"
        let _ ← keyword "from"
        let _ ← expression n
        shape .yield t [])
      <|> (do
        let _ ← keyword "yield"
        let _ ← optional (starExpressions n)
        shape .yield t [])

def starExpressions : Nat → Check Shape
  | 0 => tooDeep
  | n + 1 => do
    let t ← peek
    (do
        let a ← starExpression n
        let rest ← repeated1 (do let _ ← op ","; starExpression n)
        let _ ← optional (op ",")
        shape .tuple t (a :: rest))
      <|> (do
        let a ← starExpression n
        let _ ← op ","
        shape .tuple t [a])
      <|> starExpression n

def starExpression : Nat → Check Shape
  | 0 => tooDeep
  | n + 1 => remember 14 do
    let t ← peek
    (do
        let _ ← op "*"
        let a ← bitwiseOr n
        shape .starred t [a])
      <|> expression n

def starNamedExpressions : Nat → Check (List Shape)
  | 0 => tooDeep
  | n + 1 => do
    let items ← separated (starNamedExpression n) ","
    let _ ← optional (op ",")
    pure items

def starNamedExpression : Nat → Check Shape
  | 0 => tooDeep
  | n + 1 => do
    let t ← peek
    (do
        let _ ← op "*"
        let a ← bitwiseOr n
        shape .starred t [a])
      <|> namedExpression n

def assignmentExpression : Nat → Check Shape
  | 0 => tooDeep
  | n + 1 => do
    let t ← peek
    committed (do let _ ← name; let _ ← op ":="; pure ())
      (fun _ => do
        let _ ← expression n
        shape .named t [])
      miss

def namedExpression : Nat → Check Shape
  | 0 => tooDeep
  | n + 1 => do
    let _ ← peek
    assignmentExpression n
      <|> invalid (invalidNamedExpression n)
      <|> (do
        let a ← expression n
        negative (op ":=")
        pure a)

def invalidNamedExpression : Nat → Check Shape
  | 0 => tooDeep
  | n + 1 => remember 20 do
    let _ ← peek
    (do
        let a ← expression n
        let _ ← op ":="
        let _ ← expression n
        raiseAt ("cannot use assignment expressions with " ++ a.form.describe) a.span)
      <|> (do
        let a ← name
        let _ ← op "="
        let b ← bitwiseOr n
        negative ((do let _ ← op "="; pure ()) <|> (do let _ ← op ":="; pure ()))
        raiseBetween "invalid syntax. Maybe you meant '==' or ':=' instead of '='?"
          (Span.ofToken a) b.span)
      <|> (do
        negative ((do let _ ← list n; pure ()) <|> (do let _ ← tuple n; pure ()) <|>
          (do let _ ← genexp n; pure ()) <|> (do let _ ← keyword "True"; pure ()) <|>
          (do let _ ← keyword "None"; pure ()) <|> (do let _ ← keyword "False"; pure ()))
        let a ← bitwiseOr n
        let _ ← op "="
        let _ ← bitwiseOr n
        negative ((do let _ ← op "="; pure ()) <|> (do let _ ← op ":="; pure ()))
        raiseAt ("cannot assign to " ++ a.form.describe ++
          " here. Maybe you meant '==' instead of '='?") a.span)

def disjunction : Nat → Check Shape
  | 0 => tooDeep
  | n + 1 => remember 2 do
    let t ← peek
    (do
        let _ ← conjunction n
        let _ ← repeated1 (do let _ ← keyword "or"; conjunction n)
        shape .boolOp t [])
      <|> conjunction n

def conjunction : Nat → Check Shape
  | 0 => tooDeep
  | n + 1 => remember 3 do
    let t ← peek
    (do
        let _ ← inversion n
        let _ ← repeated1 (do let _ ← keyword "and"; inversion n)
        shape .boolOp t [])
      <|> inversion n

def inversion : Nat → Check Shape
  | 0 => tooDeep
  | n + 1 => remember 4 do
    let t ← peek
    (do
        let _ ← keyword "not"
        let _ ← inversion n
        shape .unaryOp t [])
      <|> comparison n

def comparison : Nat → Check Shape
  | 0 => tooDeep
  | n + 1 => do
    let t ← peek
    (do
        let a ← bitwiseOr n
        let ops ← repeated1 (comparePair n)
        shape (.compare (ops.headD false)) t [a])
      <|> bitwiseOr n

def comparePair : Nat → Check Bool
  | 0 => tooDeep
  | n + 1 => do
    let _ ← peek
    let pairWith (first : Check Unit) (isIn : Bool) : Check Bool := do
      first
      let _ ← bitwiseOr n
      pure isIn
    pairWith (do let _ ← op "=="; pure ()) false
      <|> pairWith (do let _ ← op "!="; pure ()) false
      <|> pairWith (do let _ ← op "<="; pure ()) false
      <|> pairWith (do let _ ← op "<"; pure ()) false
      <|> pairWith (do let _ ← op ">="; pure ()) false
      <|> pairWith (do let _ ← op ">"; pure ()) false
      <|> pairWith (do let _ ← keyword "not"; let _ ← keyword "in"; pure ()) false
      <|> pairWith (do let _ ← keyword "in"; pure ()) true
      <|> pairWith (do let _ ← keyword "is"; let _ ← keyword "not"; pure ()) false
      <|> pairWith (do let _ ← keyword "is"; pure ()) false

def bitwiseOr : Nat → Check Shape
  | 0 => tooDeep
  | n + 1 => remember 5 do
    let t ← peek
    let first ← bitwiseXor n
    chainLeft t first (do let _ ← op "|"; let _ ← bitwiseXor n; pure ())

def bitwiseXor : Nat → Check Shape
  | 0 => tooDeep
  | n + 1 => remember 6 do
    let t ← peek
    let first ← bitwiseAnd n
    chainLeft t first (do let _ ← op "^"; let _ ← bitwiseAnd n; pure ())

def bitwiseAnd : Nat → Check Shape
  | 0 => tooDeep
  | n + 1 => remember 7 do
    let t ← peek
    let first ← shiftExpr n
    chainLeft t first (do let _ ← op "&"; let _ ← shiftExpr n; pure ())

def shiftExpr : Nat → Check Shape
  | 0 => tooDeep
  | n + 1 => remember 8 do
    let t ← peek
    let first ← sum n
    chainLeft t first ((do let _ ← op "<<"; let _ ← sum n; pure ()) <|>
      (do let _ ← op ">>"; let _ ← sum n; pure ()))

def sum : Nat → Check Shape
  | 0 => tooDeep
  | n + 1 => remember 9 do
    let t ← peek
    let first ← term n
    chainLeft t first ((do let _ ← op "+"; let _ ← term n; pure ()) <|>
      (do let _ ← op "-"; let _ ← term n; pure ()))

def term : Nat → Check Shape
  | 0 => tooDeep
  | n + 1 => remember 10 do
    let t ← peek
    let first ← factor n
    chainLeft t first ((do let _ ← op "*"; let _ ← factor n; pure ()) <|>
      (do let _ ← op "/"; let _ ← factor n; pure ()) <|>
      (do let _ ← op "//"; let _ ← factor n; pure ()) <|>
      (do let _ ← op "%"; let _ ← factor n; pure ()) <|>
      (do let _ ← op "@"; let _ ← factor n; pure ()))

def factor : Nat → Check Shape
  | 0 => tooDeep
  | n + 1 => remember 11 do
    let t ← peek
    (do
        let _ ← op "+"
        let _ ← factor n
        shape .unaryOp t [])
      <|> (do
        let _ ← op "-"
        let _ ← factor n
        shape .unaryOp t [])
      <|> (do
        let _ ← op "~"
        let _ ← factor n
        shape .unaryOp t [])
      <|> power n

def power : Nat → Check Shape
  | 0 => tooDeep
  | n + 1 => do
    let t ← peek
    (do
        let _ ← awaitPrimary n
        let _ ← op "**"
        let _ ← factor n
        shape .binOp t [])
      <|> awaitPrimary n

def awaitPrimary : Nat → Check Shape
  | 0 => tooDeep
  | n + 1 => remember 12 do
    let t ← peek
    (do
        let _ ← keyword "await"
        let _ ← primary n
        shape .await t [])
      <|> primary n

def primary : Nat → Check Shape
  | 0 => tooDeep
  | n + 1 => remember 13 do
    let t ← peek
    let first ← atom n
    extendWhile t first
      ((do let _ ← op "."; let _ ← name; pure .attribute)
        <|> (do let _ ← genexp n; pure .call)
        <|> (do
          let _ ← op "("
          let _ ← optional (arguments n)
          let _ ← op ")"
          pure .call)
        <|> (do
          let _ ← op "["
          let _ ← slices n
          let _ ← op "]"
          pure .subscript))

def slices : Nat → Check Shape
  | 0 => tooDeep
  | n + 1 => do
    let t ← peek
    (do
        let a ← slice n
        negative (op ",")
        pure a)
      <|> (do
        let items ← separated (slice n <|> starredExpression n) ","
        let _ ← optional (op ",")
        shape .tuple t items)

def slice : Nat → Check Shape
  | 0 => tooDeep
  | n + 1 => do
    let t ← peek
    (do
        let _ ← optional (expression n)
        let _ ← op ":"
        let _ ← optional (expression n)
        let _ ← optional (do let _ ← op ":"; optional (expression n))
        shape .slice t [])
      <|> namedExpression n

def atom : Nat → Check Shape
  | 0 => tooDeep
  | n + 1 => do
    let t ← peek
    (do let _ ← name; shape (.name t.text) t [])
      <|> (do let _ ← keyword "True"; shape .true t [])
      <|> (do let _ ← keyword "False"; shape .false t [])
      <|> (do let _ ← keyword "None"; shape .none t [])
      <|> (do positive (kind .string); strings n)
      <|> (do let _ ← kind .number; shape .literal t [])
      <|> (do positive (op "("); tuple n <|> group n <|> genexp n)
      <|> (do positive (op "["); list n <|> listcomp n)
      <|> (do positive (op "\x7b"); dict n <|> set n <|> dictcomp n <|> setcomp n)
      <|> (do let _ ← op "..."; shape .ellipsis t [])

def strings : Nat → Check Shape
  | 0 => tooDeep
  | _ + 1 => remember 15 do
    let t ← peek
    let toks ← repeated1 (kind .string)
    let site ← peek
    let read ← fun s p => Outcome.ok s.readField p
    match joinStrings toks site read with
    | .ok _ => shape (if toks.any isFormatted then .formatted else .literal) t []
    | .error f => raise f

def list : Nat → Check Shape
  | 0 => tooDeep
  | n + 1 => do
    let t ← op "["
    let items ← optional (starNamedExpressions n)
    let _ ← op "]"
    shape .list t (items.getD [])

def tuple : Nat → Check Shape
  | 0 => tooDeep
  | n + 1 => do
    let t ← op "("
    let items ← optional (do
      let first ← starNamedExpression n
      let _ ← op ","
      let rest ← optional (starNamedExpressions n)
      pure (first :: rest.getD []))
    let _ ← op ")"
    shape .tuple t (items.getD [])

def group : Nat → Check Shape
  | 0 => tooDeep
  | n + 1 => do
    let _ ← peek
    (do
        let _ ← op "("
        let a ← yieldExpr n <|> namedExpression n
        let _ ← op ")"
        pure a)
      <|> invalid (invalidGroup n)

def invalidGroup : Nat → Check Shape
  | 0 => tooDeep
  | n + 1 => do
    let _ ← peek
    (do
        let _ ← op "("
        let a ← starredExpression n
        let _ ← op ")"
        raiseAt "cannot use starred expression here" a.span)
      <|> (do
        let _ ← op "("
        let a ← op "**"
        let _ ← expression n
        let _ ← op ")"
        raiseAt "cannot use double starred expression here" (Span.ofToken a))

def lambdef : Nat → Check Shape
  | 0 => tooDeep
  | n + 1 => do
    let t ← keyword "lambda"
    let _ ← optional (lambdaParams n)
    let _ ← op ":"
    let _ ← expression n
    shape .lambda t []

def lambdaParams : Nat → Check Unit
  | 0 => tooDeep
  | n + 1 => do
    let _ ← peek
    invalid (invalidLambdaParameters n) <|> lambdaParameters n

def lambdaParameters : Nat → Check Unit
  | 0 => tooDeep
  | n + 1 => do
    let _ ← peek
    (do
        lambdaSlashNoDefault n
        let _ ← repeated (lambdaParamNoDefault n)
        let _ ← repeated (lambdaParamWithDefault n)
        let _ ← optional (lambdaStarEtc n)
        pure ())
      <|> (do
        lambdaSlashWithDefault n
        let _ ← repeated (lambdaParamWithDefault n)
        let _ ← optional (lambdaStarEtc n)
        pure ())
      <|> (do
        let _ ← repeated1 (lambdaParamNoDefault n)
        let _ ← repeated (lambdaParamWithDefault n)
        let _ ← optional (lambdaStarEtc n)
        pure ())
      <|> (do
        let _ ← repeated1 (lambdaParamWithDefault n)
        let _ ← optional (lambdaStarEtc n)
        pure ())
      <|> lambdaStarEtc n

def lambdaSlashNoDefault : Nat → Check Unit
  | 0 => tooDeep
  | n + 1 => do
    let _ ← peek
    (do
        let _ ← repeated1 (lambdaParamNoDefault n)
        let _ ← op "/"
        let _ ← op ","
        pure ())
      <|> (do
        let _ ← repeated1 (lambdaParamNoDefault n)
        let _ ← op "/"
        positive (op ":"))

def lambdaSlashWithDefault : Nat → Check Unit
  | 0 => tooDeep
  | n + 1 => do
    let _ ← peek
    (do
        let _ ← repeated (lambdaParamNoDefault n)
        let _ ← repeated1 (lambdaParamWithDefault n)
        let _ ← op "/"
        let _ ← op ","
        pure ())
      <|> (do
        let _ ← repeated (lambdaParamNoDefault n)
        let _ ← repeated1 (lambdaParamWithDefault n)
        let _ ← op "/"
        positive (op ":"))

def lambdaStarEtc : Nat → Check Unit
  | 0 => tooDeep
  | n + 1 => do
    let _ ← peek
    invalid (invalidLambdaStarEtc n)
      <|> (do
        let _ ← op "*"
        lambdaParamNoDefault n
        let _ ← repeated (lambdaParamMaybeDefault n)
        let _ ← optional (lambdaKwds n)
        pure ())
      <|> (do
        let _ ← op "*"
        let _ ← op ","
        let _ ← repeated1 (lambdaParamMaybeDefault n)
        let _ ← optional (lambdaKwds n)
        pure ())
      <|> lambdaKwds n

def lambdaKwds : Nat → Check Unit
  | 0 => tooDeep
  | n + 1 => do
    let _ ← peek
    invalid (invalidLambdaKwds n)
      <|> (do
        let _ ← op "**"
        lambdaParamNoDefault n)

def lambdaParamNoDefault : Nat → Check Unit
  | 0 => tooDeep
  | _ + 1 => do
    let _ ← peek
    (do let _ ← name; let _ ← op ","; pure ())
      <|> (do let _ ← name; positive (op ":"))

def lambdaParamWithDefault : Nat → Check Unit
  | 0 => tooDeep
  | n + 1 => do
    let _ ← peek
    (do let _ ← name; defaultValue n; let _ ← op ","; pure ())
      <|> (do let _ ← name; defaultValue n; positive (op ":"))

def lambdaParamMaybeDefault : Nat → Check Unit
  | 0 => tooDeep
  | n + 1 => do
    let _ ← peek
    (do let _ ← name; let _ ← optional (defaultValue n); let _ ← op ","; pure ())
      <|> (do let _ ← name; let _ ← optional (defaultValue n); positive (op ":"))

def defaultValue : Nat → Check Unit
  | 0 => tooDeep
  | n + 1 => do
    let _ ← peek
    (do let _ ← op "="; let _ ← expression n; pure ())
      <|> invalid (do
        let a ← op "="
        positive ((do let _ ← op ")"; pure ()) <|> (do let _ ← op ","; pure ()))
        raiseAt "expected default value expression" (Span.ofToken a))

def invalidLambdaParameters : Nat → Check Unit
  | 0 => tooDeep
  | n + 1 => do
    let _ ← peek
    (do
        let _ ← repeated (lambdaParamNoDefault n)
        (do lambdaSlashWithDefault n) <|> (do let _ ← repeated1 (lambdaParamWithDefault n); pure ())
        let a ← peek
        lambdaParamNoDefault n
        raiseAt "non-default argument follows default argument" (Span.ofToken a))
      <|> (do
        let _ ← repeated (lambdaParamNoDefault n)
        let a ← op "("
        let _ ← separated name ","
        let _ ← optional (op ",")
        let b ← op ")"
        raiseBetween "Lambda expression parameters cannot be parenthesized" (Span.ofToken a)
          (Span.ofToken b))
      <|> (do
        let a ← op "/"
        let _ ← op ","
        raiseAt "at least one argument must precede /" (Span.ofToken a))
      <|> (do
        lambdaSlashNoDefault n <|> lambdaSlashWithDefault n
        let _ ← repeated (lambdaParamMaybeDefault n)
        let a ← op "/"
        raiseAt "/ may appear only once" (Span.ofToken a))
      <|> (do
        let _ ← optional (lambdaSlashNoDefault n <|> lambdaSlashWithDefault n)
        let _ ← repeated (lambdaParamMaybeDefault n)
        let _ ← op "*"
        (do let _ ← op ","; pure ()) <|> lambdaParamNoDefault n
        let _ ← repeated (lambdaParamMaybeDefault n)
        let a ← op "/"
        raiseAt "/ must be ahead of *" (Span.ofToken a))
      <|> (do
        let _ ← repeated1 (lambdaParamMaybeDefault n)
        let _ ← op "/"
        let a ← op "*"
        raiseAt "expected comma between / and *" (Span.ofToken a))

def invalidLambdaStarEtc : Nat → Check Unit
  | 0 => tooDeep
  | n + 1 => do
    let _ ← peek
    (do
        let _ ← op "*"
        (do let _ ← op ":"; pure ()) <|> (do
          let _ ← op ","
          (do let _ ← op ":"; pure ()) <|> (do let _ ← op "**"; pure ()))
        raiseHere "named arguments must follow bare *")
      <|> (do
        let _ ← op "*"
        let _ ← name
        let a ← op "="
        raiseAt "var-positional argument cannot have default value" (Span.ofToken a))
      <|> (do
        let _ ← op "*"
        lambdaParamNoDefault n <|> (do let _ ← op ","; pure ())
        let _ ← repeated (lambdaParamMaybeDefault n)
        let a ← op "*"
        lambdaParamNoDefault n <|> (do let _ ← op ","; pure ())
        raiseAt "* argument may appear only once" (Span.ofToken a))

def invalidLambdaKwds : Nat → Check Unit
  | 0 => tooDeep
  | _ + 1 => do
    let _ ← peek
    (do
        let _ ← op "**"
        let _ ← name
        let a ← op "="
        raiseAt "var-keyword argument cannot have default value" (Span.ofToken a))
      <|> (do
        let _ ← op "**"
        let _ ← name
        let _ ← op ","
        let a ← name
        raiseAt "arguments cannot follow var-keyword argument" (Span.ofToken a))
      <|> (do
        let _ ← op "**"
        let _ ← name
        let _ ← op ","
        let a ← op "*" <|> op "**" <|> op "/"
        raiseAt "arguments cannot follow var-keyword argument" (Span.ofToken a))

def set : Nat → Check Shape
  | 0 => tooDeep
  | n + 1 => do
    let t ← op "\x7b"
    let _ ← starNamedExpressions n
    let _ ← op "\x7d"
    shape .set t []

def dict : Nat → Check Shape
  | 0 => tooDeep
  | n + 1 => do
    let t ← peek
    (do
        let _ ← op "\x7b"
        let _ ← optional (doubleStarredKvpairs n)
        let _ ← op "\x7d"
        shape .dict t [])
      <|> (do
        -- this alternative reads more than the rule for mistakes, so it runs in every pass
        let _ ← op "\x7b"
        invalidDoubleStarredKvpairs n
        let _ ← op "\x7d"
        shape .dict t [])

def doubleStarredKvpairs : Nat → Check Unit
  | 0 => tooDeep
  | n + 1 => do
    let _ ← separated (doubleStarredKvpair n) ","
    let _ ← optional (op ",")
    pure ()

def doubleStarredKvpair : Nat → Check Unit
  | 0 => tooDeep
  | n + 1 => do
    let _ ← peek
    (do let _ ← op "**"; let _ ← bitwiseOr n; pure ()) <|> kvpair n

def kvpair : Nat → Check Unit
  | 0 => tooDeep
  | n + 1 => do
    let _ ← expression n
    let _ ← op ":"
    let _ ← expression n
    pure ()

def invalidDoubleStarredKvpairs : Nat → Check Unit
  | 0 => tooDeep
  | n + 1 => do
    let _ ← peek
    (do
        let _ ← separated (doubleStarredKvpair n) ","
        let _ ← op ","
        invalidKvpair n)
      <|> (do
        let _ ← expression n
        let _ ← op ":"
        let a ← op "*"
        let _ ← bitwiseOr n
        raiseFrom "cannot use a starred expression in a dictionary value" (Span.ofToken a))
      <|> (do
        let _ ← expression n
        let a ← op ":"
        positive ((do let _ ← op "\x7d"; pure ()) <|> (do let _ ← op ","; pure ()))
        raiseAt "expression expected after dictionary key and ':'" (Span.ofToken a))

def invalidKvpair : Nat → Check Unit
  | 0 => tooDeep
  | n + 1 => do
    let _ ← peek
    (do
        let a ← expression n
        negative (op ":")
        let e := a.span
        raise ⟨.syntaxError, "':' expected after dictionary key", e.line, e.endCol, e.endLine, 0, .file⟩)
      <|> (do
        let _ ← expression n
        let _ ← op ":"
        let a ← op "*"
        let _ ← bitwiseOr n
        raiseFrom "cannot use a starred expression in a dictionary value" (Span.ofToken a))
      <|> (do
        let _ ← expression n
        let a ← op ":"
        positive ((do let _ ← op "\x7d"; pure ()) <|> (do let _ ← op ","; pure ()))
        raiseAt "expression expected after dictionary key and ':'" (Span.ofToken a))

/-- `for_if_clauses`: one or more comprehension clauses; the expression the last one ends
with. -/
def forIfClauses : Nat → Check Shape
  | 0 => tooDeep
  | n + 1 => do
    let clauses ← repeated1 (forIfClause n)
    pure ((clauses.getLast?.map (·.last)).getD (default : Shape))

/-- `for_if_clause`: `for` targets `in` an iterable, with conditions; after `in` no other
reading. -/
def forIfClause : Nat → Check Clause
  | 0 => tooDeep
  | n + 1 => do
    let _ ← peek
    let afterIn : Check Clause := do
      let iter ← disjunction n
      let conditions ← repeated (do let _ ← keyword "if"; disjunction n)
      pure ⟨(conditions.getLast?).getD iter⟩
    committed (do
        let _ ← keyword "async"
        let _ ← keyword "for"
        let _ ← starTargets n
        let _ ← keyword "in"
        pure ())
      (fun _ => afterIn)
      (committed (do
          let _ ← keyword "for"
          let _ ← starTargets n
          let _ ← keyword "in"
          pure ())
        (fun _ => afterIn)
        (invalid (invalidForTarget n)))

def invalidForTarget : Nat → Check Clause
  | 0 => tooDeep
  | n + 1 => do
    let _ ← optional (keyword "async")
    let _ ← keyword "for"
    let a ← starExpressions n
    match a.invalidTarget .loop with
    | some bad => raiseAt ("cannot assign to " ++ bad.form.describe) bad.span
    | none => miss

def listcomp : Nat → Check Shape
  | 0 => tooDeep
  | n + 1 => do
    let t ← peek
    (do
        let _ ← op "["
        let _ ← namedExpression n
        let _ ← forIfClauses n
        let _ ← op "]"
        shape .listComp t [])
      <|> invalid (invalidComprehension n)

def setcomp : Nat → Check Shape
  | 0 => tooDeep
  | n + 1 => do
    let t ← peek
    (do
        let _ ← op "\x7b"
        let _ ← namedExpression n
        let _ ← forIfClauses n
        let _ ← op "\x7d"
        shape .setComp t [])
      <|> invalid (invalidComprehension n)

def genexp : Nat → Check Shape
  | 0 => tooDeep
  | n + 1 => do
    let t ← peek
    (do
        let _ ← op "("
        let _ ← assignmentExpression n <|> (do
          let a ← expression n
          negative (op ":=")
          pure a)
        let _ ← forIfClauses n
        let _ ← op ")"
        shape .generator t [])
      <|> invalid (invalidComprehension n)

def dictcomp : Nat → Check Shape
  | 0 => tooDeep
  | n + 1 => do
    let t ← peek
    (do
        let _ ← op "\x7b"
        kvpair n
        let _ ← forIfClauses n
        let _ ← op "\x7d"
        shape .dictComp t [])
      <|> invalid (do
        let _ ← op "\x7b"
        let a ← op "**"
        let _ ← bitwiseOr n
        let _ ← forIfClauses n
        let _ ← op "\x7d"
        raiseAt "dict unpacking cannot be used in dict comprehension" (Span.ofToken a))

def invalidComprehension : Nat → Check Shape
  | 0 => tooDeep
  | n + 1 => do
    let _ ← peek
    let opening : Check Unit :=
      (do let _ ← op "["; pure ()) <|> (do let _ ← op "\x7b"; pure ())
    (do
        opening <|> (do let _ ← op "("; pure ())
        let a ← starredExpression n
        let _ ← forIfClauses n
        raiseAt "iterable unpacking cannot be used in comprehension" a.span)
      <|> (do
        opening
        let a ← starNamedExpression n
        let _ ← op ","
        let b ← starNamedExpressions n
        let _ ← forIfClauses n
        raiseBetween "did you forget parentheses around the comprehension target?" a.span
          ((b.getLast?.map (·.span)).getD a.span))
      <|> (do
        opening
        let a ← starNamedExpression n
        let b ← op ","
        let _ ← forIfClauses n
        raiseBetween "did you forget parentheses around the comprehension target?" a.span
          (Span.ofToken b))

def arguments : Nat → Check Shape
  | 0 => tooDeep
  | n + 1 => remember 21 do
    let _ ← peek
    (do
        let a ← args n
        let _ ← optional (op ",")
        positive (op ")")
        pure a)
      <|> invalid (invalidArguments n)

def positionalArgument : Nat → Check Shape
  | 0 => tooDeep
  | n + 1 => do
    let _ ← peek
    starredExpression n
      <|> (do
        let a ← assignmentExpression n <|> (do
          let a ← expression n
          negative (op ":=")
          pure a)
        negative (op "=")
        pure a)

def args : Nat → Check Shape
  | 0 => tooDeep
  | n + 1 => do
    let t ← peek
    (do
        let positional ← separated (positionalArgument n) ","
        let more ← optional (do let _ ← op ","; kwargs n)
        let items := more.getD []
        argumentsShape t (positional ++ items.filterMap fun i => match i with
            | .starred s => some s
            | _ => none)
          (items.any fun i => match i with
            | .mapping => true
            | _ => false))
      <|> (do
        let items ← kwargs n
        argumentsShape t (items.filterMap fun i => match i with
            | .starred s => some s
            | _ => none)
          (items.any fun i => match i with
            | .mapping => true
            | _ => false))

def kwargs : Nat → Check (List KeywordItem)
  | 0 => tooDeep
  | n + 1 => do
    let _ ← peek
    (do
        let a ← separated (kwargOrStarred n) ","
        let _ ← op ","
        let b ← separated (kwargOrDoubleStarred n) ","
        pure (a ++ b))
      <|> separated (kwargOrStarred n) ","
      <|> separated (kwargOrDoubleStarred n) ","

def starredExpression : Nat → Check Shape
  | 0 => tooDeep
  | n + 1 => do
    let t ← peek
    (do
        let _ ← op "*"
        let a ← expression n
        shape .starred t [a])
      <|> (do
        let _ ← op "*"
        raiseHere "Invalid star expression")

def kwargOrStarred : Nat → Check KeywordItem
  | 0 => tooDeep
  | n + 1 => do
    let _ ← peek
    invalid (invalidKwarg n)
      <|> (do
        let _ ← name
        let _ ← op "="
        let _ ← expression n
        pure .named)
      <|> (do
        let a ← starredExpression n
        pure (.starred a))

def kwargOrDoubleStarred : Nat → Check KeywordItem
  | 0 => tooDeep
  | n + 1 => do
    let _ ← peek
    invalid (invalidKwarg n)
      <|> (do
        let _ ← name
        let _ ← op "="
        let _ ← expression n
        pure .named)
      <|> (do
        let _ ← op "**"
        let _ ← expression n
        pure .mapping)

def invalidKwarg : Nat → Check KeywordItem
  | 0 => tooDeep
  | n + 1 => do
    let _ ← peek
    (do
        let a ← keyword "True" <|> keyword "False" <|> keyword "None"
        let b ← op "="
        raiseBetween ("cannot assign to " ++ a.text) (Span.ofToken a) (Span.ofToken b))
      <|> (do
        let a ← name
        let b ← op "="
        let _ ← expression n
        let _ ← forIfClauses n
        raiseBetween "invalid syntax. Maybe you meant '==' or ':=' instead of '='?"
          (Span.ofToken a) (Span.ofToken b))
      <|> (do
        negative (do let _ ← name; op "=")
        let a ← expression n
        let b ← op "="
        raiseBetween "expression cannot contain assignment, perhaps you meant \"==\"?" a.span
          (Span.ofToken b))

/-- Arguments with a mistake: unpacking after keyword unpacking, a generator expression without
parentheses, `=` in a comprehension, positional after keyword arguments. -/
def invalidArguments : Nat → Check Shape
  | 0 => tooDeep
  | n + 1 => do
    let _ ← peek
    (do
        (do
            let _ ← separated (positionalArgument n) ","
            let _ ← op ","
            let _ ← kwargs n
            pure ())
          <|> (do let _ ← kwargs n; pure ())
        let a ← op ","
        let _ ← separated (do
          let s ← starredExpression n
          negative (op "=")
          pure s) ","
        raiseFrom "iterable argument unpacking follows keyword argument unpacking"
          (Span.ofToken a))
      <|> (do
        let a ← expression n
        let b ← forIfClauses n
        let _ ← op ","
        let _ ← optional ((do let _ ← args n; pure ()) <|> (do
          let _ ← expression n
          let _ ← forIfClauses n
          pure ()))
        raiseBetween "Generator expression must be parenthesized" a.span b.span)
      <|> (do
        let a ← name
        let b ← op "="
        let _ ← expression n
        let _ ← forIfClauses n
        raiseBetween "invalid syntax. Maybe you meant '==' or ':=' instead of '='?"
          (Span.ofToken a) (Span.ofToken b))
      <|> committed (do
          let a ← args n
          let b ← forIfClauses n
          pure (a, b))
        (fun (a, b) =>
          match a.parts.getLast? with
          | some lastArg =>
            if a.parts.length ≤ 1 then miss
            else raiseBetween "Generator expression must be parenthesized" lastArg.span b.span
          | none => miss)
        ((do
            let _ ← args n
            let _ ← op ","
            let a ← expression n
            let b ← forIfClauses n
            raiseBetween "Generator expression must be parenthesized" a.span b.span)
          <|> (do
            let a ← args n
            let _ ← op ","
            let _ ← args n
            raiseHere (if a.unpacksMapping then
              "positional argument follows keyword argument unpacking"
              else "positional argument follows keyword argument")))

def starTargets : Nat → Check Shape
  | 0 => tooDeep
  | n + 1 => do
    let t ← peek
    (do
        let a ← starTarget n
        negative (op ",")
        pure a)
      <|> (do
        let a ← starTarget n
        let rest ← repeated (do let _ ← op ","; starTarget n)
        let _ ← optional (op ",")
        shape .tuple t (a :: rest))

def starTargetsListSeq : Nat → Check (List Shape)
  | 0 => tooDeep
  | n + 1 => do
    let items ← separated (starTarget n) ","
    let _ ← optional (op ",")
    pure items

def starTargetsTupleSeq : Nat → Check (List Shape)
  | 0 => tooDeep
  | n + 1 => do
    let _ ← peek
    (do
        let a ← starTarget n
        let rest ← repeated1 (do let _ ← op ","; starTarget n)
        let _ ← optional (op ",")
        pure (a :: rest))
      <|> (do
        let a ← starTarget n
        let _ ← op ","
        pure [a])

def starTarget : Nat → Check Shape
  | 0 => tooDeep
  | n + 1 => remember 17 do
    let t ← peek
    (do
        let _ ← op "*"
        negative (op "*")
        let a ← starTarget n
        shape .starred t [a])
      <|> targetWithStarAtom n

def targetWithStarAtom : Nat → Check Shape
  | 0 => tooDeep
  | n + 1 => remember 18 do
    let t ← peek
    (do
        let _ ← tPrimary n
        let _ ← op "."
        let _ ← name
        negative (tLookahead n)
        shape .attribute t [])
      <|> (do
        let _ ← tPrimary n
        let _ ← op "["
        let _ ← slices n
        let _ ← op "]"
        negative (tLookahead n)
        shape .subscript t [])
      <|> starAtom n

def starAtom : Nat → Check Shape
  | 0 => tooDeep
  | n + 1 => do
    let t ← peek
    (do let _ ← name; shape (.name t.text) t [])
      <|> (do
        let _ ← op "("
        let a ← targetWithStarAtom n
        let _ ← op ")"
        pure a)
      <|> (do
        let _ ← op "("
        let items ← optional (starTargetsTupleSeq n)
        let _ ← op ")"
        shape .tuple t (items.getD []))
      <|> (do
        let _ ← op "["
        let items ← optional (starTargetsListSeq n)
        let _ ← op "]"
        shape .list t (items.getD []))

def singleTarget : Nat → Check Shape
  | 0 => tooDeep
  | n + 1 => do
    let t ← peek
    singleSubscriptAttributeTarget n
      <|> (do let _ ← name; shape (.name t.text) t [])
      <|> (do
        let _ ← op "("
        let a ← singleTarget n
        let _ ← op ")"
        pure a)

def singleSubscriptAttributeTarget : Nat → Check Shape
  | 0 => tooDeep
  | n + 1 => do
    let t ← peek
    (do
        let _ ← tPrimary n
        let _ ← op "."
        let _ ← name
        negative (tLookahead n)
        shape .attribute t [])
      <|> (do
        let _ ← tPrimary n
        let _ ← op "["
        let _ ← slices n
        let _ ← op "]"
        negative (tLookahead n)
        shape .subscript t [])

/-- `t_primary`: the primary before the last attribute or subscript of a target: an atom and
extensions, each followed by another. -/
def tPrimary : Nat → Check Shape
  | 0 => tooDeep
  | n + 1 => remember 16 do
    let t ← peek
    let first ← atom n
    positive (tLookahead n)
    extendWhile t first
      ((do
          let _ ← op "."
          let _ ← name
          positive (tLookahead n)
          pure .attribute)
        <|> (do
          let _ ← op "["
          let _ ← slices n
          let _ ← op "]"
          positive (tLookahead n)
          pure .subscript)
        <|> (do
          let _ ← genexp n
          positive (tLookahead n)
          pure .call)
        <|> (do
          let _ ← op "("
          let _ ← optional (arguments n)
          let _ ← op ")"
          positive (tLookahead n)
          pure .call))

def tLookahead : Nat → Check Unit
  | 0 => tooDeep
  | _ + 1 => do
    let _ ← peek
    (do let _ ← op "("; pure ()) <|> (do let _ ← op "["; pure ()) <|> (do let _ ← op "."; pure ())

def delTargets : Nat → Check (List Shape)
  | 0 => tooDeep
  | n + 1 => do
    let items ← separated (delTarget n) ","
    let _ ← optional (op ",")
    pure items

def delTarget : Nat → Check Shape
  | 0 => tooDeep
  | n + 1 => remember 19 do
    let t ← peek
    (do
        let _ ← tPrimary n
        let _ ← op "."
        let _ ← name
        negative (tLookahead n)
        shape .attribute t [])
      <|> (do
        let _ ← tPrimary n
        let _ ← op "["
        let _ ← slices n
        let _ ← op "]"
        negative (tLookahead n)
        shape .subscript t [])
      <|> delTAtom n

def delTAtom : Nat → Check Shape
  | 0 => tooDeep
  | n + 1 => do
    let t ← peek
    (do let _ ← name; shape (.name t.text) t [])
      <|> (do
        let _ ← op "("
        let a ← delTarget n
        let _ ← op ")"
        pure a)
      <|> (do
        let _ ← op "("
        let items ← optional (delTargets n)
        let _ ← op ")"
        shape .tuple t (items.getD []))
      <|> (do
        let _ ← op "["
        let items ← optional (delTargets n)
        let _ ← op "]"
        shape .list t (items.getD []))

end

end Obfuscation.Syntax.Checking
