import Obfuscation.Syntax.Parser.Pattern
/-!
The statement grammar. A module is a sequence of statements and the end marker; a compound
statement has a header ending in `:` and a block.
-/

namespace Obfuscation.Syntax

open Obfuscation.Syntax.Parser

def Expr.isSingleTarget : Expr → Bool
  | .name _ => true
  | .attribute _ _ => true
  | .subscript _ _ => true
  | _ => false

def dottedName : Parser String := do
  let first ← name
  let parts ← many (do let _ ← op "."; name) (← loopFuel)
  pure (".".intercalate (first :: parts))

def aliased (item : Parser String) : Parser Alias := do
  let n ← item
  let asName ← optional (do let _ ← keyword "as"; name)
  pure ⟨n, asName⟩

def importNames : Parser Stmt := do
  let _ ← keyword "import"
  let names ← sepBy1 (aliased dottedName) "," (← loopFuel)
  pure (.importNames names)

def importFrom : Parser Stmt := do
  let _ ← keyword "from"
  let dots ← many (do
    let t ← peek
    if t.isOp "." then let _ ← next; pure 1
    else if t.isOp "..." then let _ ← next; pure 3
    else miss) (← loopFuel)
  let level := dots.foldl (· + ·) 0
  let module ← if level == 0 then some <$> dottedName else optional dottedName
  let _ ← keyword "import"
  let t ← peek
  let names ← if t.isOp "*" then do
      let _ ← next
      pure [⟨"*", none⟩]
    else if t.isOp "(" then do
      let _ ← next
      let (names, _) ← commaItems (aliased name)
      let _ ← op ")"
      pure names
    else do
      let names ← sepBy1 (aliased name) "," (← loopFuel)
      if ← atOp "," then miss else pure names
  pure (.importFrom module names level)

mutual

def moduleBody : Nat → Parser Module
  | 0 => tooDeep
  | n + 1 => do
    let body ← statements n
    let _ ← kind .endMarker
    pure body

def statements : Nat → Parser (List Stmt)
  | 0 => tooDeep
  | n + 1 => do
    let groups ← many (statement n) (← loopFuel)
    pure groups.flatten

def statement : Nat → Parser (List Stmt)
  | 0 => tooDeep
  | n + 1 => do
    match ← optional (compoundStatement n) with
    | some s => pure [s]
    | none => simpleStatements n

def simpleStatements : Nat → Parser (List Stmt)
  | 0 => tooDeep
  | n + 1 => do
    let first ← simpleStatement n
    let rest ← many (do let _ ← op ";"; simpleStatement n) (← loopFuel)
    let _ ← optional (op ";")
    let _ ← kind .newline
    pure (first :: rest)

def block : Nat → Parser (List Stmt)
  | 0 => tooDeep
  | n + 1 => do
    if (← peek).kind == .newline then
      let _ ← next
      let _ ← kind .indent
      let body ← statements n
      if body.isEmpty then miss
      else
        let _ ← kind .dedent
        pure body
    else simpleStatements n

def simpleStatement : Nat → Parser Stmt
  | 0 => tooDeep
  | n + 1 => do
    let t ← peek
    if t.isName "return" then
      let _ ← next
      pure (.returnStmt (← optional (starExpressions n)))
    else if t.isName "import" then importNames
    else if t.isName "from" then importFrom
    else if t.isName "raise" then
      let _ ← next
      match ← optional (expression n) with
      | some exc =>
        let cause ← optional (do let _ ← keyword "from"; expression n)
        pure (.raise (some exc) cause)
      | none => pure (.raise none none)
    else if t.isName "pass" then let _ ← next; pure .pass
    else if t.isName "break" then let _ ← next; pure .breakStmt
    else if t.isName "continue" then let _ ← next; pure .continueStmt
    else if t.isName "del" then
      let _ ← next
      let (targets, _) ← commaItems (primary n)
      let after ← peek
      if targets.all Expr.isDeleteTarget && (after.isOp ";" || after.kind == .newline) then
        pure (.delete targets)
      else miss
    else if t.isName "yield" then pure (.expr (← yieldExpr n))
    else if t.isName "assert" then
      let _ ← next
      let test ← expression n
      let msg ← optional (do let _ ← op ","; expression n)
      pure (.assert test msg)
    else if t.isName "global" then
      let _ ← next
      pure (.global (← sepBy1 name "," (← loopFuel)))
    else if t.isName "nonlocal" then
      let _ ← next
      pure (.nonlocal (← sepBy1 name "," (← loopFuel)))
    else assignmentOrExpression n

def assignmentOrExpression : Nat → Parser Stmt
  | 0 => tooDeep
  | n + 1 => do
    let first ← peek
    let rhs : Parser Expr := do
      if ← atKeyword "yield" then yieldExpr n else starExpressions n
    let target ← starExpressions n
    let t ← peek
    if t.isOp ":" then
      -- only a single target is annotated; nothing after a wrong one is read
      let simple ← match target with
        | .name _ => pure (!first.isOp "(")
        | .attribute _ _ | .subscript _ _ => pure false
        | _ => miss
      let _ ← next
      let hint ← expression n
      let value ← optional (do let _ ← op "="; rhs)
      pure (.annAssign target hint value simple)
    else if t.isOp "=" then
      -- each part before an `=` must be a target before what follows it is read
      let rec chain : Nat → List Expr → Parser Stmt
        | 0, _ => miss
        | fuel + 1, targets => do
          let _ ← op "="
          let value ← rhs
          if ← atOp "=" then
            if value.isTarget then chain fuel (targets ++ [value]) else miss
          else pure (.assign targets value)
      if target.isTarget then chain (← loopFuel) [target] else miss
    else
      match augmentedOps.find? (fun (s, _) => t.isOp s) with
      | some (_, o) =>
        if target.isSingleTarget then
          let _ ← next
          pure (.augAssign target o (← rhs))
        else miss
      | none => pure (.expr target)

def compoundStatement : Nat → Parser Stmt
  | 0 => tooDeep
  | n + 1 => do
    let t ← peek
    if t.isName "def" || t.isOp "@" then functionOrClass n
    else if t.isName "if" then ifStatement n
    else if t.isName "class" then functionOrClass n
    else if t.isName "with" then withStatement n false
    else if t.isName "for" then forStatement n false
    else if t.isName "try" then tryStatement n
    else if t.isName "while" then
      let _ ← next
      let test ← namedExpression n
      let _ ← op ":"
      let body ← block n
      let orelse ← elseBlock n
      pure (.whileLoop test body orelse)
    else if t.isName "async" then
      let start ← mark
      let _ ← next
      let u ← peek
      if u.isName "def" then
        reset start
        functionOrClass n
      else if u.isName "with" then withStatement n true
      else if u.isName "for" then forStatement n true
      else miss
    else if t.isName "match" then matchStatement n
    else miss

def elseBlock : Nat → Parser (List Stmt)
  | 0 => tooDeep
  | n + 1 => do
    if ← atKeyword "else" then
      let _ ← next
      let _ ← forced ":"
      block n
    else pure []

def ifStatement : Nat → Parser Stmt
  | 0 => tooDeep
  | n + 1 => do
    let _ ← next
    let test ← namedExpression n
    let _ ← op ":"
    let body ← block n
    if ← atKeyword "elif" then
      pure (.ifStmt test body [← ifStatement n])
    else pure (.ifStmt test body (← elseBlock n))

/-- A function or class definition with its decorators (an `async` has been read when
`async def` is seen). -/
def functionOrClass : Nat → Parser Stmt
  | 0 => tooDeep
  | n + 1 => do
    let decorators ← many (do
      let _ ← op "@"
      let e ← namedExpression n
      let _ ← kind .newline
      pure e) (← loopFuel)
    let t ← peek
    if t.isName "class" then
      let _ ← next
      let className ← name
      let callArgs ← if ← atOp "(" then do
          let _ ← next
          let a ← callArguments n false
          let _ ← op ")"
          pure a
        else pure ⟨[], []⟩
      let _ ← op ":"
      let body ← block n
      pure (.classDef className callArgs.args callArgs.keywords body decorators)
    else
      let isAsync ← if t.isName "async" then do let _ ← next; pure true else pure false
      let _ ← keyword "def"
      let functionName ← name
      let _ ← forced "("
      let args ← if ← atOp ")" then pure Arguments.empty
        else readParameters true ")" (expression n) (starExpression n) (expression n)
      let _ ← op ")"
      let returns ← optional (do let _ ← op "->"; expression n)
      let _ ← forced ":"
      let body ← block n
      pure (.functionDef functionName args body decorators returns isAsync)

def forStatement : Nat → Bool → Parser Stmt
  | 0, _ => tooDeep
  | n + 1, isAsync => do
    let _ ← keyword "for"
    let target ← starTargets n
    let _ ← keyword "in"
    let iter ← starExpressions n
    let _ ← op ":"
    let body ← block n
    let orelse ← elseBlock n
    pure (.forLoop target iter body orelse isAsync)

def withStatement : Nat → Bool → Parser Stmt
  | 0, _ => tooDeep
  | n + 1, isAsync => do
    let _ ← keyword "with"
    let item : Parser WithItem := do
      let context ← expression n
      if ← atKeyword "as" then
        let _ ← next
        let target ← starTarget n
        let after ← peek
        if after.isOp "," || after.isOp ")" || after.isOp ":" then pure ⟨context, some target⟩
        else miss
      else pure ⟨context, none⟩
    let parenthesised : Parser (List WithItem) := do
      let _ ← op "("
      let (items, _) ← commaItems item
      let _ ← op ")"
      let _ ← op ":"
      pure items
    let plain : Parser (List WithItem) := do
      let items ← sepBy1 item "," (← loopFuel)
      let _ ← op ":"
      pure items
    let items ← parenthesised <|> plain
    let body ← block n
    pure (.withBlock items body isAsync)

def tryStatement : Nat → Parser Stmt
  | 0 => tooDeep
  | n + 1 => do
    let _ ← keyword "try"
    let _ ← forced ":"
    let body ← block n
    let handler : Parser (Handler × Bool) := do
      let _ ← keyword "except"
      let star ← if ← atOp "*" then do let _ ← next; pure true else pure false
      if !star && (← atOp ":") then
        let _ ← next
        pure (.mk none none (← block n), false)
      else
        let type ← expression n
        let asName ← optional (do let _ ← keyword "as"; name)
        let _ ← op ":"
        pure (.mk (some type) asName (← block n), star)
    let handlers ← many handler (← loopFuel)
    let stars := handlers.map (·.2)
    if stars.any id && !stars.all id then miss
    else
      let orelse ← if handlers.isEmpty then pure [] else elseBlock n
      let finalbody ← if ← atKeyword "finally" then do
          let _ ← next
          let _ ← forced ":"
          block n
        else pure []
      if handlers.isEmpty && finalbody.isEmpty then miss
      else pure (.tryBlock body (handlers.map (·.1)) orelse finalbody (stars.any id))

def matchStatement : Nat → Parser Stmt
  | 0 => tooDeep
  | n + 1 => do
    let _ ← next
    let first ← starNamedExpression n
    let subject ← if ← atOp "," then do
        let _ ← next
        let rest ← if ← atOp ":" then pure []
          else do
            let (items, _) ← commaItems (starNamedExpression n)
            pure items
        pure (Expr.tuple (first :: rest))
      else
        match first with
        | .starred _ => miss
        | e => pure e
    let _ ← op ":"
    let _ ← kind .newline
    let _ ← kind .indent
    let caseBlock : Parser MatchCase := do
      let t ← peek
      if !t.isName "case" then miss
      else
        let _ ← next
        let p ← casePatterns n
        let guard ← optional (do let _ ← keyword "if"; namedExpression n)
        let _ ← op ":"
        pure (.mk p guard (← block n))
    let first ← caseBlock
    let rest ← many caseBlock (← loopFuel)
    let _ ← kind .dedent
    pure (.matchStmt subject (first :: rest))

end

end Obfuscation.Syntax
