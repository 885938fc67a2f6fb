import Obfuscation.Syntax.Checking.Expr
/-!
The statement, parameter and pattern rules of the checking grammar, in the grammar's order, with
the rules for mistakes at the places the grammar tries them.
-/

namespace Obfuscation.Syntax.Checking

open Check

def finished : Shape := default

def augmentedOperators : List String :=
  ["+=", "-=", "*=", "@=", "/=", "%=", "&=", "|=", "^=", "<<=", ">>=", "**=", "//="]

def augassign : Check Unit := do
  let _ ← expect fun t => t.kind == .op && augmentedOperators.contains t.text
  pure ()

def missingBlock (what : String) (line : Nat) : Check Unit := do
  let _ ← op ":"
  let _ ← kind .newline
  negative (kind .indent)
  raiseIndentation ("expected an indented block after " ++ what ++ " on line " ++ Nat.repr line)

def asName : Check Unit := do
  let _ ← optional (do let _ ← keyword "as"; name)
  pure ()

def dottedParts : Check (List Token) := do
  let first ← name
  let rest ← repeated (do let _ ← op "."; name)
  return first :: rest

mutual

def file : Nat → Check Unit
  | 0 => tooDeep
  | n + 1 => do
    let _ ← optional (statements n)
    let _ ← kind .endMarker
    pure ()

def statements : Nat → Check Unit
  | 0 => tooDeep
  | n + 1 => do
    let _ ← repeated1 (statement n)
    pure ()

def statement : Nat → Check Unit
  | 0 => tooDeep
  | n + 1 => do
    let _ ← peek
    compoundStmt n <|> simpleStmts n

def simpleStmts : Nat → Check Unit
  | 0 => tooDeep
  | n + 1 => do
    let _ ← peek
    (do
        let _ ← simpleStmt n
        negative (op ";")
        let _ ← kind .newline
        pure ())
      <|> (do
        let _ ← separated (simpleStmt n) ";"
        let _ ← optional (op ";")
        let _ ← kind .newline
        pure ())

def simpleStmt : Nat → Check Shape
  | 0 => tooDeep
  | n + 1 => remember 23 do
    let _ ← peek
    let led (word : String) (c : Check Unit) : Check Shape := do
      positive (keyword word)
      c
      pure finished
    (do assignment n; pure finished)
      <|> (do let _ ← starExpressions n; pure finished)
      <|> led "return" (do
        let _ ← keyword "return"
        let _ ← optional (starExpressions n)
        pure ())
      <|> (do
        positive ((do let _ ← keyword "import"; pure ()) <|> (do let _ ← keyword "from"; pure ()))
        importStmt n
        pure finished)
      <|> led "raise" (raiseStmt n)
      <|> (do let _ ← keyword "pass"; pure finished)
      <|> led "del" (delStmt n)
      <|> led "yield" (do let _ ← yieldExpr n; pure ())
      <|> led "assert" (do
        let _ ← keyword "assert"
        let _ ← expression n
        let _ ← optional (do let _ ← op ","; expression n)
        pure ())
      <|> (do let _ ← keyword "break"; pure finished)
      <|> (do let _ ← keyword "continue"; pure finished)
      <|> led "global" (do
        let _ ← keyword "global"
        let _ ← separated name ","
        pure ())
      <|> led "nonlocal" (do
        let _ ← keyword "nonlocal"
        let _ ← separated name ","
        pure ())

def compoundStmt : Nat → Check Unit
  | 0 => tooDeep
  | n + 1 => do
    let _ ← peek
    let word (w : String) : Check Unit := do let _ ← keyword w; pure ()
    let sign (w : String) : Check Unit := do let _ ← op w; pure ()
    (do positive (word "def" <|> sign "@" <|> word "async"); functionDef n)
      <|> (do positive (word "if"); ifStmt n)
      <|> (do positive (word "class" <|> sign "@"); classDef n)
      <|> (do positive (word "with" <|> word "async"); withStmt n)
      <|> (do positive (word "for" <|> word "async"); forStmt n)
      <|> (do positive (word "try"); tryStmt n)
      <|> (do positive (word "while"); whileStmt n)
      <|> matchStmt n

def assignment : Nat → Check Unit
  | 0 => tooDeep
  | n + 1 => do
    let _ ← peek
    let value : Check Unit := do
      let _ ← yieldExpr n <|> starExpressions n
      pure ()
    (do
        let _ ← name
        let _ ← op ":"
        let _ ← expression n
        let _ ← optional (do let _ ← op "="; value)
        pure ())
      <|> (do
        let _ ← (do
            let _ ← op "("
            let a ← singleTarget n
            let _ ← op ")"
            pure a)
          <|> singleSubscriptAttributeTarget n
        let _ ← op ":"
        let _ ← expression n
        let _ ← optional (do let _ ← op "="; value)
        pure ())
      <|> (do
        let _ ← repeated1 (do let _ ← starTargets n; let _ ← op "="; pure ())
        value
        negative (op "=")
        let _ ← optional typeComment
        pure ())
      <|> committed (do let _ ← singleTarget n; augassign) (fun _ => value)
        (invalid (invalidAssignment n))

/-- Annotations of several targets or of an expression, and assignments to what cannot be
assigned to. -/
def invalidAssignment : Nat → Check Unit
  | 0 => tooDeep
  | n + 1 => do
    let _ ← peek
    let targetsBefore : Check Unit := do
      let _ ← repeated (do let _ ← starTargets n; let _ ← op "="; pure ())
      pure ()
    (do
        let a ← invalidAnnAssignTarget n
        let _ ← op ":"
        let _ ← expression n
        raiseAt ("only single target (not " ++ a.form.describe ++ ") can be annotated") a.span)
      <|> (do
        let a ← starNamedExpression n
        let _ ← op ","
        let _ ← repeated (starNamedExpressions n)
        let _ ← op ":"
        let _ ← expression n
        raiseAt "only single target (not tuple) can be annotated" a.span)
      <|> (do
        let a ← expression n
        let _ ← op ":"
        let _ ← expression n
        raiseAt "illegal target for annotation" a.span)
      <|> committed (do
          targetsBefore
          let a ← starExpressions n
          let _ ← op "="
          pure a)
        (fun a => match a.invalidTarget .assign with
          | some bad => raiseAt ("cannot assign to " ++ bad.form.describe) bad.span
          | none => miss)
        ((do
            targetsBefore
            let a ← yieldExpr n
            let _ ← op "="
            raiseAt "assignment to yield expression not possible" a.span)
          <|> (do
            let a ← starExpressions n
            augassign
            let _ ← yieldExpr n <|> starExpressions n
            raiseAt ("'" ++ a.form.describe ++
              "' is an illegal expression for augmented assignment") a.span))

def invalidAnnAssignTarget : Nat → Check Shape
  | 0 => tooDeep
  | n + 1 => do
    let _ ← peek
    list n
      <|> tuple n
      <|> (do
        let _ ← op "("
        let a ← invalidAnnAssignTarget n
        let _ ← op ")"
        pure a)

def raiseStmt : Nat → Check Unit
  | 0 => tooDeep
  | n + 1 => do
    let _ ← peek
    (do
        let _ ← keyword "raise"
        let _ ← expression n
        let _ ← optional (do let _ ← keyword "from"; expression n)
        pure ())
      <|> (do let _ ← keyword "raise"; pure ())

def delStmt : Nat → Check Unit
  | 0 => tooDeep
  | n + 1 => do
    let _ ← peek
    (do
        let _ ← keyword "del"
        let _ ← delTargets n
        positive ((do let _ ← op ";"; pure ()) <|> (do let _ ← kind .newline; pure ())))
      <|> invalid (do
        let _ ← keyword "del"
        let a ← starExpressions n
        match a.invalidTarget .delete with
        | some bad => raiseAt ("cannot delete " ++ bad.form.describe) bad.span
        | none => miss)

def importStmt : Nat → Check Unit
  | 0 => tooDeep
  | n + 1 => do
    let _ ← peek
    let dottedAsName : Check Unit := do
      let _ ← dottedParts
      asName
    let dots : Check Unit := do
      let _ ← op "." <|> op "..."
      pure ()
    (do
        let _ ← keyword "import"
        let _ ← separated dottedAsName ","
        pure ())
      <|> (do
        let _ ← keyword "from"
        let _ ← repeated dots
        let _ ← dottedParts
        let _ ← keyword "import"
        importFromTargets n)
      <|> (do
        let _ ← keyword "from"
        let _ ← repeated1 dots
        let _ ← keyword "import"
        importFromTargets n)

def importFromTargets : Nat → Check Unit
  | 0 => tooDeep
  | _ + 1 => do
    let _ ← peek
    let names : Check Unit := do
      let _ ← separated (do let _ ← name; asName) ","
      pure ()
    (do
        let _ ← op "("
        names
        let _ ← optional (op ",")
        let _ ← op ")"
        pure ())
      <|> (do names; negative (op ","))
      <|> (do let _ ← op "*"; pure ())
      <|> invalid (do
        names
        let _ ← op ","
        let _ ← kind .newline
        raiseHere "trailing comma not allowed without surrounding parentheses")

/-- `block`: an indented block of statements, simple statements on the line, or a missing
indented block. -/
def block : Nat → Check Shape
  | 0 => tooDeep
  | n + 1 => remember 22 do
    let _ ← peek
    (do
        let _ ← kind .newline
        let _ ← kind .indent
        statements n
        let _ ← kind .dedent
        pure finished)
      <|> (do simpleStmts n; pure finished)
      <|> invalid (do
        let _ ← kind .newline
        negative (kind .indent)
        raiseIndentation "expected an indented block")

def decorators : Nat → Check Unit
  | 0 => tooDeep
  | n + 1 => do
    let _ ← repeated1 (do
      let _ ← op "@"
      let _ ← namedExpression n
      kind .newline)
    pure ()

def classDef : Nat → Check Unit
  | 0 => tooDeep
  | n + 1 => do
    let _ ← peek
    (do decorators n; classDefRaw n) <|> classDefRaw n

def classDefRaw : Nat → Check Unit
  | 0 => tooDeep
  | n + 1 => do
    let _ ← peek
    let bases : Check Unit := do
      let _ ← optional (do
        let _ ← op "("
        let _ ← optional (arguments n)
        op ")")
      pure ()
    invalid ((do
          let _ ← keyword "class"
          let _ ← name
          bases
          let _ ← kind .newline
          raiseHere "expected ':'")
        <|> (do
          let a ← keyword "class"
          let _ ← name
          bases
          missingBlock "class definition" a.line))
      <|> (do
        let _ ← keyword "class"
        let _ ← name
        bases
        let _ ← op ":"
        let _ ← block n
        pure ())

def functionDef : Nat → Check Unit
  | 0 => tooDeep
  | n + 1 => do
    let _ ← peek
    (do decorators n; functionDefRaw n) <|> functionDefRaw n

/-- `function_def_raw`: `def`, a name, parameters in parentheses, a return annotation, `:` and a
block; `async` before `def` is allowed. -/
def functionDefRaw : Nat → Check Unit
  | 0 => tooDeep
  | n + 1 => do
    let _ ← peek
    let returns : Check Unit := do
      let _ ← optional (do let _ ← op "->"; expression n)
      pure ()
    let rest : Check Unit := do
      let _ ← name
      let _ ← forced "("
      let _ ← optional (params n)
      let _ ← op ")"
      returns
      let _ ← forced ":"
      let _ ← optional (funcTypeComment n)
      let _ ← block n
      pure ()
    invalid (do
        let _ ← optional (keyword "async")
        let a ← keyword "def"
        let _ ← name
        let _ ← op "("
        let _ ← optional (params n)
        let _ ← op ")"
        returns
        missingBlock "function definition" a.line)
      <|> (do let _ ← keyword "def"; rest)
      <|> (do let _ ← keyword "async"; let _ ← keyword "def"; rest)

def funcTypeComment : Nat → Check Unit
  | 0 => tooDeep
  | _ + 1 => do
    let _ ← peek
    (do let _ ← kind .newline; typeComment) <|> invalid typeComment <|> typeComment

def params : Nat → Check Unit
  | 0 => tooDeep
  | n + 1 => do
    let _ ← peek
    invalid (invalidParameters n) <|> parameters n

def parameters : Nat → Check Unit
  | 0 => tooDeep
  | n + 1 => do
    let _ ← peek
    (do
        slashNoDefault n
        let _ ← repeated (paramNoDefault n)
        let _ ← repeated (paramWithDefault n)
        let _ ← optional (starEtc n)
        pure ())
      <|> (do
        slashWithDefault n
        let _ ← repeated (paramWithDefault n)
        let _ ← optional (starEtc n)
        pure ())
      <|> (do
        let _ ← repeated1 (paramNoDefault n)
        let _ ← repeated (paramWithDefault n)
        let _ ← optional (starEtc n)
        pure ())
      <|> (do
        let _ ← repeated1 (paramWithDefault n)
        let _ ← optional (starEtc n)
        pure ())
      <|> starEtc n

def slashNoDefault : Nat → Check Unit
  | 0 => tooDeep
  | n + 1 => do
    let _ ← peek
    (do
        let _ ← repeated1 (paramNoDefault n)
        let _ ← op "/"
        let _ ← op ","
        pure ())
      <|> (do
        let _ ← repeated1 (paramNoDefault n)
        let _ ← op "/"
        positive (op ")"))

def slashWithDefault : Nat → Check Unit
  | 0 => tooDeep
  | n + 1 => do
    let _ ← peek
    (do
        let _ ← repeated (paramNoDefault n)
        let _ ← repeated1 (paramWithDefault n)
        let _ ← op "/"
        let _ ← op ","
        pure ())
      <|> (do
        let _ ← repeated (paramNoDefault n)
        let _ ← repeated1 (paramWithDefault n)
        let _ ← op "/"
        positive (op ")"))

def starEtc : Nat → Check Unit
  | 0 => tooDeep
  | n + 1 => do
    let _ ← peek
    invalid (invalidStarEtc n)
      <|> (do
        let _ ← op "*"
        let _ ← paramNoDefault n
        let _ ← repeated (paramMaybeDefault n)
        let _ ← optional (kwds n)
        pure ())
      <|> (do
        let _ ← op "*"
        paramNoDefaultStarAnnotation n
        let _ ← repeated (paramMaybeDefault n)
        let _ ← optional (kwds n)
        pure ())
      <|> (do
        let _ ← op "*"
        let _ ← op ","
        let _ ← repeated1 (paramMaybeDefault n)
        let _ ← optional (kwds n)
        pure ())
      <|> kwds n

def kwds : Nat → Check Unit
  | 0 => tooDeep
  | n + 1 => do
    let _ ← peek
    invalid (invalidKwds n)
      <|> (do
        let _ ← op "**"
        let _ ← paramNoDefault n
        pure ())

def paramNoDefault : Nat → Check Span
  | 0 => tooDeep
  | n + 1 => do
    let _ ← peek
    (do
        let a ← param n
        let _ ← op ","
        let _ ← optional typeComment
        pure a)
      <|> (do
        let a ← param n
        let _ ← optional typeComment
        positive (op ")")
        pure a)

def paramNoDefaultStarAnnotation : Nat → Check Unit
  | 0 => tooDeep
  | n + 1 => do
    let _ ← peek
    let starAnnotated : Check Unit := do
      let _ ← name
      let _ ← op ":"
      let _ ← starExpression n
      pure ()
    (do
        starAnnotated
        let _ ← op ","
        let _ ← optional typeComment
        pure ())
      <|> (do
        starAnnotated
        let _ ← optional typeComment
        positive (op ")"))

def paramWithDefault : Nat → Check Unit
  | 0 => tooDeep
  | n + 1 => do
    let _ ← peek
    (do
        let _ ← param n
        defaultValue n
        let _ ← op ","
        let _ ← optional typeComment
        pure ())
      <|> (do
        let _ ← param n
        defaultValue n
        let _ ← optional typeComment
        positive (op ")"))

def paramMaybeDefault : Nat → Check Unit
  | 0 => tooDeep
  | n + 1 => do
    let _ ← peek
    (do
        let _ ← param n
        let _ ← optional (defaultValue n)
        let _ ← op ","
        let _ ← optional typeComment
        pure ())
      <|> (do
        let _ ← param n
        let _ ← optional (defaultValue n)
        let _ ← optional typeComment
        positive (op ")"))

def param : Nat → Check Span
  | 0 => tooDeep
  | n + 1 => do
    let t ← name
    let _ ← optional (do let _ ← op ":"; expression n)
    spanFrom t

def invalidParameters : Nat → Check Unit
  | 0 => tooDeep
  | n + 1 => do
    let _ ← peek
    let slash : Check Unit := slashNoDefault n <|> slashWithDefault n
    (do
        let _ ← repeated (paramNoDefault n)
        slashWithDefault n <|> (do let _ ← repeated1 (paramWithDefault n); pure ())
        let a ← paramNoDefault n
        raiseAt "non-default argument follows default argument" a)
      <|> (do
        let _ ← repeated (paramNoDefault n)
        let a ← op "("
        let _ ← repeated1 (paramNoDefault n)
        let _ ← optional (op ",")
        let b ← op ")"
        raiseBetween "Function parameters cannot be parenthesized" (Span.ofToken a)
          (Span.ofToken b))
      <|> (do
        let a ← op "/"
        let _ ← op ","
        raiseAt "at least one argument must precede /" (Span.ofToken a))
      <|> (do
        slash
        let _ ← repeated (paramMaybeDefault n)
        let a ← op "/"
        raiseAt "/ may appear only once" (Span.ofToken a))
      <|> (do
        let _ ← optional slash
        let _ ← repeated (paramMaybeDefault n)
        let _ ← op "*"
        (do let _ ← op ","; pure ()) <|> (do let _ ← paramNoDefault n; pure ())
        let _ ← repeated (paramMaybeDefault n)
        let a ← op "/"
        raiseAt "/ must be ahead of *" (Span.ofToken a))
      <|> (do
        let _ ← repeated1 (paramMaybeDefault n)
        let _ ← op "/"
        let a ← op "*"
        raiseAt "expected comma between / and *" (Span.ofToken a))

def invalidStarEtc : Nat → Check Unit
  | 0 => tooDeep
  | n + 1 => do
    let _ ← peek
    (do
        let a ← op "*"
        (do let _ ← op ")"; pure ()) <|> (do
          let _ ← op ","
          (do let _ ← op ")"; pure ()) <|> (do let _ ← op "**"; pure ()))
        raiseAt "named arguments must follow bare *" (Span.ofToken a))
      <|> (do
        let _ ← op "*"
        let _ ← op ","
        typeComment)
      <|> (do
        let _ ← op "*"
        let _ ← param n
        let a ← op "="
        raiseAt "var-positional argument cannot have default value" (Span.ofToken a))
      <|> (do
        let _ ← op "*"
        (do let _ ← paramNoDefault n; pure ()) <|> (do let _ ← op ","; pure ())
        let _ ← repeated (paramMaybeDefault n)
        let a ← op "*"
        (do let _ ← paramNoDefault n; pure ()) <|> (do let _ ← op ","; pure ())
        raiseAt "* argument may appear only once" (Span.ofToken a))

def invalidKwds : Nat → Check Unit
  | 0 => tooDeep
  | n + 1 => do
    let _ ← peek
    (do
        let _ ← op "**"
        let _ ← param n
        let a ← op "="
        raiseAt "var-keyword argument cannot have default value" (Span.ofToken a))
      <|> (do
        let _ ← op "**"
        let _ ← param n
        let _ ← op ","
        let a ← param n
        raiseAt "arguments cannot follow var-keyword argument" a)
      <|> (do
        let _ ← op "**"
        let _ ← param n
        let _ ← op ","
        let a ← op "*" <|> op "**" <|> op "/"
        raiseAt "arguments cannot follow var-keyword argument" (Span.ofToken a))

def ifStmt : Nat → Check Unit
  | 0 => tooDeep
  | n + 1 => do
    let _ ← peek
    let head : Check Unit := do
      let _ ← keyword "if"
      let _ ← namedExpression n
      let _ ← op ":"
      let _ ← block n
      pure ()
    invalid ((do
          let _ ← keyword "if"
          let _ ← namedExpression n
          let _ ← kind .newline
          raiseHere "expected ':'")
        <|> (do
          let _ ← keyword "if"
          let a ← namedExpression n
          missingBlock "'if' statement" a.span.line))
      <|> (do head; elifStmt n)
      <|> (do head; let _ ← optional (elseBlock n); pure ())

def elifStmt : Nat → Check Unit
  | 0 => tooDeep
  | n + 1 => do
    let _ ← peek
    let head : Check Unit := do
      let _ ← keyword "elif"
      let _ ← namedExpression n
      let _ ← op ":"
      let _ ← block n
      pure ()
    invalid ((do
          let _ ← keyword "elif"
          let _ ← namedExpression n
          let _ ← kind .newline
          raiseHere "expected ':'")
        <|> (do
          let a ← keyword "elif"
          let _ ← namedExpression n
          missingBlock "'elif' statement" a.line))
      <|> (do head; elifStmt n)
      <|> (do head; let _ ← optional (elseBlock n); pure ())

def elseBlock : Nat → Check Unit
  | 0 => tooDeep
  | n + 1 => do
    let _ ← peek
    invalid (do
        let a ← keyword "else"
        missingBlock "'else' statement" a.line)
      <|> (do
        let _ ← keyword "else"
        let _ ← forced ":"
        let _ ← block n
        pure ())

def whileStmt : Nat → Check Unit
  | 0 => tooDeep
  | n + 1 => do
    let _ ← peek
    invalid ((do
          let _ ← keyword "while"
          let _ ← namedExpression n
          let _ ← kind .newline
          raiseHere "expected ':'")
        <|> (do
          let a ← keyword "while"
          let _ ← namedExpression n
          missingBlock "'while' statement" a.line))
      <|> (do
        let _ ← keyword "while"
        let _ ← namedExpression n
        let _ ← op ":"
        let _ ← block n
        let _ ← optional (elseBlock n)
        pure ())

/-- `for_stmt`: `for` targets `in` expressions, `:`, a block and `else`; after `in` no other
reading. -/
def forStmt : Nat → Check Unit
  | 0 => tooDeep
  | n + 1 => do
    let _ ← peek
    let head : Check Unit := do
      let _ ← starTargets n
      let _ ← keyword "in"
      pure ()
    let body : Check Unit := do
      let _ ← starExpressions n
      let _ ← op ":"
      let _ ← optional typeComment
      let _ ← block n
      let _ ← optional (elseBlock n)
      pure ()
    invalid ((do
          let _ ← optional (keyword "async")
          let _ ← keyword "for"
          head
          let _ ← starExpressions n
          let _ ← kind .newline
          raiseHere "expected ':'")
        <|> (do
          let _ ← optional (keyword "async")
          let a ← keyword "for"
          head
          let _ ← starExpressions n
          missingBlock "'for' statement" a.line))
      <|> committed (do let _ ← keyword "for"; head) (fun _ => body)
        (committed (do let _ ← keyword "async"; let _ ← keyword "for"; head) (fun _ => body)
          (invalid (do let _ ← invalidForTarget n; pure ())))

def withStmt : Nat → Check Unit
  | 0 => tooDeep
  | n + 1 => do
    let _ ← peek
    let items : Check Unit := do
      let _ ← separated (withItem n) ","
      pure ()
    let parenthesised : Check Unit := do
      let _ ← op "("
      items
      let _ ← optional (op ",")
      let _ ← op ")"
      let _ ← op ":"
      let _ ← block n
      pure ()
    let plain : Check Unit := do
      items
      let _ ← op ":"
      let _ ← optional typeComment
      let _ ← block n
      pure ()
    let asTarget : Check Unit := do
      let _ ← optional (do let _ ← keyword "as"; starTarget n)
      pure ()
    let loose : Check Unit := do
      let _ ← separated (do let _ ← expression n; asTarget) ","
      pure ()
    let grouped : Check Unit := do
      let _ ← op "("
      let _ ← separated (do let _ ← expressions n; asTarget) ","
      let _ ← optional (op ",")
      let _ ← op ")"
      pure ()
    invalid ((do
          let _ ← optional (keyword "async")
          let a ← keyword "with"
          loose
          missingBlock "'with' statement" a.line)
        <|> (do
          let _ ← optional (keyword "async")
          let a ← keyword "with"
          grouped
          missingBlock "'with' statement" a.line))
      <|> (do let _ ← keyword "with"; parenthesised)
      <|> (do let _ ← keyword "with"; plain)
      <|> (do let _ ← keyword "async"; let _ ← keyword "with"; parenthesised)
      <|> (do let _ ← keyword "async"; let _ ← keyword "with"; plain)
      <|> invalid ((do
          let _ ← optional (keyword "async")
          let _ ← keyword "with"
          loose
          let _ ← kind .newline
          raiseHere "expected ':'")
        <|> (do
          let _ ← optional (keyword "async")
          let _ ← keyword "with"
          grouped
          let _ ← kind .newline
          raiseHere "expected ':'"))

def withItem : Nat → Check Unit
  | 0 => tooDeep
  | n + 1 => do
    let _ ← peek
    let follows : Check Unit :=
      (do let _ ← op ","; pure ()) <|> (do let _ ← op ")"; pure ()) <|> (do let _ ← op ":"; pure ())
    (do
        let _ ← expression n
        let _ ← keyword "as"
        let _ ← starTarget n
        positive follows)
      <|> invalid (do
        let _ ← expression n
        let _ ← keyword "as"
        let a ← expression n
        positive follows
        match a.invalidTarget .assign with
        | some bad => raiseAt ("cannot assign to " ++ bad.form.describe) bad.span
        | none => miss)
      <|> (do let _ ← expression n; pure ())

def tryStmt : Nat → Check Unit
  | 0 => tooDeep
  | n + 1 => do
    let _ ← peek
    let head : Check Unit := do
      let _ ← keyword "try"
      let _ ← forced ":"
      let _ ← block n
      pure ()
    let tail : Check Unit := do
      let _ ← optional (elseBlock n)
      let _ ← optional (finallyBlock n)
      pure ()
    invalid (invalidTryStmt n)
      <|> (do head; finallyBlock n)
      <|> (do head; let _ ← repeated1 (exceptBlock n); tail)
      <|> (do head; let _ ← repeated1 (exceptStarBlock n); tail)

def invalidTryStmt : Nat → Check Unit
  | 0 => tooDeep
  | n + 1 => do
    let _ ← peek
    let blocks : Check Unit := do
      let _ ← keyword "try"
      let _ ← op ":"
      let _ ← repeated (block n)
      pure ()
    (do
        let a ← keyword "try"
        missingBlock "'try' statement" a.line)
      <|> (do
        let _ ← keyword "try"
        let _ ← op ":"
        let _ ← block n
        negative ((do let _ ← keyword "except"; pure ()) <|>
          (do let _ ← keyword "finally"; pure ()))
        raiseHere "expected 'except' or 'finally' block")
      <|> (do
        blocks
        let _ ← repeated1 (exceptBlock n)
        let a ← keyword "except"
        let b ← op "*"
        let _ ← expression n
        asName
        let _ ← op ":"
        raiseBetween "cannot have both 'except' and 'except*' on the same 'try'" (Span.ofToken a)
          (Span.ofToken b))
      <|> (do
        blocks
        let _ ← repeated1 (exceptStarBlock n)
        let a ← keyword "except"
        let _ ← optional (do let _ ← expression n; asName)
        let _ ← op ":"
        raiseAt "cannot have both 'except' and 'except*' on the same 'try'" (Span.ofToken a))

def exceptBlock : Nat → Check Unit
  | 0 => tooDeep
  | n + 1 => do
    let _ ← peek
    invalid ((do
          let a ← keyword "except"
          let _ ← expression n
          asName
          missingBlock "'except' statement" a.line)
        <|> (do
          let a ← keyword "except"
          missingBlock "'except' statement" a.line))
      <|> (do
        let _ ← keyword "except"
        let _ ← expression n
        asName
        let _ ← op ":"
        let _ ← block n
        pure ())
      <|> (do
        let _ ← keyword "except"
        let _ ← op ":"
        let _ ← block n
        pure ())
      <|> invalid (invalidExceptStmt n)

def exceptStarBlock : Nat → Check Unit
  | 0 => tooDeep
  | n + 1 => do
    let _ ← peek
    invalid (do
        let a ← keyword "except"
        let _ ← op "*"
        let _ ← expression n
        asName
        missingBlock "'except*' statement" a.line)
      <|> (do
        let _ ← keyword "except"
        let _ ← op "*"
        let _ ← expression n
        asName
        let _ ← op ":"
        let _ ← block n
        pure ())
      <|> invalid (invalidExceptStmt n)

def invalidExceptStmt : Nat → Check Unit
  | 0 => tooDeep
  | n + 1 => do
    let _ ← peek
    (do
        let _ ← keyword "except"
        let _ ← optional (op "*")
        let a ← expression n
        let _ ← op ","
        let _ ← expressions n
        asName
        let _ ← op ":"
        raiseFrom "multiple exception types must be parenthesized" a.span)
      <|> (do
        let _ ← keyword "except"
        let _ ← optional (op "*")
        let _ ← expression n
        asName
        let _ ← kind .newline
        raiseHere "expected ':'")
      <|> (do
        let _ ← keyword "except"
        let _ ← kind .newline
        raiseHere "expected ':'")
      <|> (do
        let _ ← keyword "except"
        let _ ← op "*"
        let _ ← kind .newline <|> op ":"
        raiseHere "expected one or more exception types")

def finallyBlock : Nat → Check Unit
  | 0 => tooDeep
  | n + 1 => do
    let _ ← peek
    invalid (do
        let a ← keyword "finally"
        missingBlock "'finally' statement" a.line)
      <|> (do
        let _ ← keyword "finally"
        let _ ← forced ":"
        let _ ← block n
        pure ())

def matchStmt : Nat → Check Unit
  | 0 => tooDeep
  | n + 1 => do
    let _ ← peek
    (do
        let _ ← keyword "match"
        subjectExpr n
        let _ ← op ":"
        let _ ← kind .newline
        let _ ← kind .indent
        let _ ← repeated1 (caseBlock n)
        let _ ← kind .dedent
        pure ())
      <|> invalid ((do
          let _ ← keyword "match"
          subjectExpr n
          let _ ← kind .newline
          raiseHere "expected ':'")
        <|> (do
          let a ← keyword "match"
          subjectExpr n
          missingBlock "'match' statement" a.line))

def subjectExpr : Nat → Check Unit
  | 0 => tooDeep
  | n + 1 => do
    let _ ← peek
    (do
        let _ ← starNamedExpression n
        let _ ← op ","
        let _ ← optional (starNamedExpressions n)
        pure ())
      <|> (do let _ ← namedExpression n; pure ())

def caseBlock : Nat → Check Unit
  | 0 => tooDeep
  | n + 1 => do
    let _ ← peek
    let head : Check Unit := do
      let _ ← patterns n
      let _ ← optional (do let _ ← keyword "if"; namedExpression n)
      pure ()
    invalid ((do
          let _ ← keyword "case"
          head
          let _ ← kind .newline
          raiseHere "expected ':'")
        <|> (do
          let a ← keyword "case"
          head
          missingBlock "'case' statement" a.line))
      <|> (do
        let _ ← keyword "case"
        head
        let _ ← op ":"
        let _ ← block n
        pure ())

def patterns : Nat → Check Span
  | 0 => tooDeep
  | n + 1 => do
    let t ← peek
    (do let _ ← openSequencePattern n; spanFrom t) <|> pattern n

def pattern : Nat → Check Span
  | 0 => tooDeep
  | n + 1 => do
    let _ ← peek
    asPattern n <|> orPattern n

def asPattern : Nat → Check Span
  | 0 => tooDeep
  | n + 1 => do
    let t ← peek
    (do
        let _ ← orPattern n
        let _ ← keyword "as"
        patternCaptureTarget n
        spanFrom t)
      <|> invalid ((do
          let _ ← orPattern n
          let _ ← keyword "as"
          let a ← keyword "_"
          raiseAt "cannot use '_' as a target" (Span.ofToken a))
        <|> (do
          let _ ← orPattern n
          let _ ← keyword "as"
          negative name
          let a ← expression n
          raiseAt "invalid pattern target" a.span))

def orPattern : Nat → Check Span
  | 0 => tooDeep
  | n + 1 => do
    let t ← peek
    let _ ← separated (closedPattern n) "|"
    spanFrom t

/-- `closed_pattern`: a literal, capture, wildcard, value, group, sequence, mapping or class
pattern. -/
def closedPattern : Nat → Check Shape
  | 0 => tooDeep
  | n + 1 => remember 24 do
    let t ← peek
    let done : Check Shape := shape .literal t []
    (do literalPattern n; done)
      <|> (do patternCaptureTarget n; done)
      <|> (do let _ ← keyword "_"; done)
      <|> (do
        let _ ← attr
        negative ((do let _ ← op "."; pure ()) <|> (do let _ ← op "("; pure ()) <|>
          (do let _ ← op "="; pure ()))
        done)
      <|> (do
        let _ ← op "("
        let _ ← pattern n
        let _ ← op ")"
        done)
      <|> (do sequencePattern n; done)
      <|> (do mappingPattern n; done)
      <|> (do classPattern n; done)

/-- `literal_pattern`: a signed number, a complex number, strings, or `None`, `True`,
`False`. -/
def literalPattern : Nat → Check Unit
  | 0 => tooDeep
  | n + 1 => do
    let _ ← peek
    (do
        signedNumber
        negative ((do let _ ← op "+"; pure ()) <|> (do let _ ← op "-"; pure ())))
      <|> complexNumber
      <|> (do let _ ← strings n; pure ())
      <|> (do let _ ← keyword "None"; pure ())
      <|> (do let _ ← keyword "True"; pure ())
      <|> (do let _ ← keyword "False"; pure ())

def signedNumber : Check Unit := do
  let _ ← peek
  (do let _ ← kind .number; pure ()) <|> (do let _ ← op "-"; let _ ← kind .number; pure ())

def complexNumber : Check Unit := do
  let _ ← peek
  let real : Check Unit := do
    let t ← kind .number
    if t.isImaginary then raiseAt "real number required in complex literal" (Span.ofToken t)
    else pure ()
  let signedReal : Check Unit := do
    let _ ← peek
    real <|> (do let _ ← op "-"; real)
  let imaginary : Check Unit := do
    let t ← kind .number
    if t.isImaginary then pure ()
    else raiseAt "imaginary number required in complex literal" (Span.ofToken t)
  (do signedReal; let _ ← op "+"; imaginary) <|> (do signedReal; let _ ← op "-"; imaginary)

def patternCaptureTarget : Nat → Check Unit
  | 0 => tooDeep
  | _ + 1 => do
    negative (keyword "_")
    let _ ← name
    negative ((do let _ ← op "."; pure ()) <|> (do let _ ← op "("; pure ()) <|>
      (do let _ ← op "="; pure ()))

def attr : Check Unit := do
  let parts ← dottedParts
  if parts.length ≥ 2 then pure () else miss

def sequencePattern : Nat → Check Unit
  | 0 => tooDeep
  | n + 1 => do
    let _ ← peek
    (do
        let _ ← op "["
        let _ ← optional (maybeSequencePattern n)
        let _ ← op "]"
        pure ())
      <|> (do
        let _ ← op "("
        let _ ← optional (openSequencePattern n)
        let _ ← op ")"
        pure ())

def openSequencePattern : Nat → Check Unit
  | 0 => tooDeep
  | n + 1 => do
    maybeStarPattern n
    let _ ← op ","
    let _ ← optional (maybeSequencePattern n)
    pure ()

def maybeSequencePattern : Nat → Check Unit
  | 0 => tooDeep
  | n + 1 => do
    let _ ← separated (maybeStarPattern n) ","
    let _ ← optional (op ",")
    pure ()

def maybeStarPattern : Nat → Check Unit
  | 0 => tooDeep
  | n + 1 => do
    let _ ← peek
    (do let _ ← starPattern n; pure ()) <|> (do let _ ← pattern n; pure ())

def starPattern : Nat → Check Shape
  | 0 => tooDeep
  | n + 1 => remember 25 do
    let t ← peek
    (do let _ ← op "*"; patternCaptureTarget n; shape .starred t [])
      <|> (do let _ ← op "*"; let _ ← keyword "_"; shape .starred t [])

def mappingPattern : Nat → Check Unit
  | 0 => tooDeep
  | n + 1 => do
    let _ ← peek
    let doubleStar : Check Unit := do
      let _ ← op "**"
      patternCaptureTarget n
    let items : Check Unit := do
      let _ ← separated (do
        (do literalExpr n) <|> attr
        let _ ← op ":"
        let _ ← pattern n
        pure ()) ","
      pure ()
    (do let _ ← op "\x7b"; let _ ← op "\x7d"; pure ())
      <|> (do
        let _ ← op "\x7b"
        doubleStar
        let _ ← optional (op ",")
        let _ ← op "\x7d"
        pure ())
      <|> (do
        let _ ← op "\x7b"
        items
        let _ ← op ","
        doubleStar
        let _ ← optional (op ",")
        let _ ← op "\x7d"
        pure ())
      <|> (do
        let _ ← op "\x7b"
        items
        let _ ← optional (op ",")
        let _ ← op "\x7d"
        pure ())

def literalExpr : Nat → Check Unit
  | 0 => tooDeep
  | n + 1 => literalPattern n

def classPattern : Nat → Check Unit
  | 0 => tooDeep
  | n + 1 => do
    let _ ← peek
    let cls : Check Unit := do
      let _ ← dottedParts
      pure ()
    let positional : Check (List Span) := separated (pattern n) ","
    let keywords : Check Unit := do
      let _ ← separated (do
        let _ ← name
        let _ ← op "="
        let _ ← pattern n
        pure ()) ","
      pure ()
    (do cls; let _ ← op "("; let _ ← op ")"; pure ())
      <|> (do
        cls
        let _ ← op "("
        let _ ← positional
        let _ ← optional (op ",")
        let _ ← op ")"
        pure ())
      <|> (do
        cls
        let _ ← op "("
        keywords
        let _ ← optional (op ",")
        let _ ← op ")"
        pure ())
      <|> (do
        cls
        let _ ← op "("
        let _ ← positional
        let _ ← op ","
        keywords
        let _ ← optional (op ",")
        let _ ← op ")"
        pure ())
      <|> invalid (do
        cls
        let _ ← op "("
        let _ ← optional (do let _ ← positional; op ",")
        keywords
        let _ ← op ","
        let a ← positional
        match a.head?, a.getLast? with
        | some first, some lastOne =>
          raiseBetween "positional patterns follow keyword patterns" first lastOne
        | _, _ => miss)

end

/-- Enough fuel for the checking grammar on `n` tokens: every level of nesting reads a token,
and each takes a bounded number of rules. -/
def checkFuel (n : Nat) : Nat := 40 * n + 200

def Probe.start (fill : Nat) : Probe := ⟨0, fill, {}⟩

end Obfuscation.Syntax.Checking
