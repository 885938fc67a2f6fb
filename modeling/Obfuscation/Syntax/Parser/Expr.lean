import Obfuscation.Syntax.Parser.Basic
import Obfuscation.Syntax.Literal
import Obfuscation.Syntax.Number
/-!
The expression grammar. Each rule takes a fuel that bounds the depth of rule calls, and the caller
gives enough for any input it holds. A display is read once and classified by the token after its
first element.
-/

namespace Obfuscation.Syntax

open Obfuscation.Syntax.Parser

def tooDeep {α : Type} : Parser α := do
  faultAt "too many nested parentheses" (← peek)

def loopFuel : Parser Nat := fun inp c => .ok (inp.tokens.size + 1) c

/-- Items separated by commas with an optional trailing comma: the items and whether any comma
was read. -/
def commaItems {α : Type} (item : Parser α) : Parser (List α × Bool) := do
  let first ← item
  let rec more : Nat → Parser (List α × Bool)
    | 0 => pure ([], false)
    | fuel + 1 => do
      if ← atOp "," then
        let _ ← next
        match ← optional item with
        | some a =>
          let (rest, _) ← more fuel
          pure (a :: rest, true)
        | none => pure ([], true)
      else pure ([], false)
  let (rest, comma) ← more (← loopFuel)
  return (first :: rest, comma)

/-- A left-associative chain of binary operators over an operand. An operator without an operand
after it ends the chain before the operator. -/
def leftChain (operand : Parser Expr) (ops : List (String × BinaryOp)) : Parser Expr := do
  let first ← operand
  let rec go : Nat → Expr → Parser Expr
    | 0, acc => pure acc
    | fuel + 1, acc => do
      let t ← peek
      match ops.find? (fun (s, _) => t.isOp s) with
      | some (_, o) =>
        match ← optional (do let _ ← next; operand) with
        | some right => go fuel (.binOp acc o right)
        | none => pure acc
      | none => pure acc
  go (← loopFuel) first

def compareOp : Parser CompareOp := do
  let t ← peek
  if t.isOp "==" then let _ ← next; pure .eq
  else if t.isOp "!=" then let _ ← next; pure .notEq
  else if t.isOp "<=" then let _ ← next; pure .ltE
  else if t.isOp "<" then let _ ← next; pure .lt
  else if t.isOp ">=" then let _ ← next; pure .gtE
  else if t.isOp ">" then let _ ← next; pure .gt
  else if t.isName "in" then let _ ← next; pure .isIn
  else if t.isName "not" then
    let _ ← next
    let _ ← keyword "in"
    pure .notIn
  else if t.isName "is" then
    let _ ← next
    if ← atKeyword "not" then let _ ← next; pure .isNot else pure .is
  else miss

def augmentedOps : List (String × BinaryOp) :=
  [("+=", .add), ("-=", .sub), ("*=", .mult), ("@=", .matMult), ("/=", .div), ("%=", .mod),
    ("&=", .bitAnd), ("|=", .bitOr), ("^=", .bitXor), ("<<=", .lShift), (">>=", .rShift),
    ("**=", .pow), ("//=", .floorDiv)]

/-- Whether an expression can be assigned to, with starred parts allowed inside tuples and
lists. -/
def Expr.isTarget : Expr → Bool
  | .name _ => true
  | .attribute _ _ => true
  | .subscript _ _ => true
  | .starred e => e.isTarget
  | .tuple es => es.attach.all fun ⟨e, _⟩ => e.isTarget
  | .list es => es.attach.all fun ⟨e, _⟩ => e.isTarget
  | _ => false

def Expr.isDeleteTarget : Expr → Bool
  | .name _ => true
  | .attribute _ _ => true
  | .subscript _ _ => true
  | .tuple es => es.attach.all fun ⟨e, _⟩ => e.isDeleteTarget
  | .list es => es.attach.all fun ⟨e, _⟩ => e.isDeleteTarget
  | _ => false

def Expr.kindName : Expr → String
  | .attribute _ _ => "attribute"
  | .subscript _ _ => "subscript"
  | .starred _ => "starred"
  | .name _ => "name"
  | .list _ => "list"
  | .tuple _ => "tuple"
  | .lambda _ _ => "lambda"
  | .call _ _ _ => "function call"
  | .boolOp _ _ => "expression"
  | .binOp _ _ _ => "expression"
  | .unaryOp _ _ => "expression"
  | .generatorExp _ _ => "generator expression"
  | .yield _ => "yield expression"
  | .yieldFrom _ => "yield expression"
  | .await _ => "await expression"
  | .listComp _ _ => "list comprehension"
  | .setComp _ _ => "set comprehension"
  | .dictComp _ _ _ => "dict comprehension"
  | .dict _ _ => "dict literal"
  | .set _ => "set display"
  | .joinedStr _ => "f-string expression"
  | .formattedValue _ _ _ => "f-string expression"
  | .constant .none => "None"
  | .constant .true => "True"
  | .constant .false => "False"
  | .constant .ellipsis => "ellipsis"
  | .constant _ => "literal"
  | .compare _ _ _ => "comparison"
  | .ifExp _ _ _ => "conditional expression"
  | .namedExpr _ _ => "named expression"
  | .slice _ _ _ => "slice"

structure ParamItem where
  arg : Arg
  default : Option Expr

def assembleArguments (posOnly args : List ParamItem) (vararg : Option Arg)
    (kwOnly : List ParamItem) (kwarg : Option Arg) : Arguments :=
  let positional := posOnly ++ args
  .mk (posOnly.map (·.arg)) (args.map (·.arg)) vararg (kwOnly.map (·.arg))
    (kwOnly.map (·.default)) kwarg (positional.filterMap (·.default))

/-- Where a parameter list stands: before `/`, after it, or after `*`. -/
inductive ParamPhase where
  | positional
  | afterSlash
  | keywordOnly
  deriving DecidableEq

structure ParamState where
  phase : ParamPhase
  posOnly : List ParamItem
  args : List ParamItem
  vararg : Option Arg
  kwOnly : List ParamItem
  kwarg : Option Arg
  bareStar : Bool

/-- Read a parameter list up to (not including) the closing token `closer`. Annotations are read
by `hint`, defaults by `default`; without `annotated` no annotations are allowed. -/
def readParameters (annotated : Bool) (closer : String) (hint starAnnotation default :
    Parser Expr) : Parser Arguments := do
  let param : Parser ParamItem := do
    let n ← name
    let ann ← if annotated then optional (do let _ ← op ":"; hint) else pure none
    let d ← optional (do let _ ← op "="; default)
    pure ⟨.mk n ann, d⟩
  let rec loop : Nat → ParamState → Parser ParamState
    | 0, st => pure st
    | fuel + 1, st => do
      let t ← peek
      if t.isOp closer then pure st
      else
        let st ← (if t.isOp "/" then do
            if st.phase != .positional || st.args.isEmpty then miss
            else
              let _ ← next
              pure { st with phase := .afterSlash, posOnly := st.args, args := [] }
          else if t.isOp "**" then do
            let _ ← next
            let n ← name
            let ann ← if annotated then optional (do let _ ← op ":"; hint) else pure none
            if (← peek).isOp "=" then miss
            else pure { st with kwarg := some (.mk n ann) }
          else if t.isOp "*" then do
            if st.phase == .keywordOnly then miss
            else
              let _ ← next
              match ← optional name with
              | some n =>
                let ann ← if annotated then optional (do let _ ← op ":"; starAnnotation)
                  else pure none
                pure { st with phase := .keywordOnly, vararg := some (.mk n ann) }
              | none =>
                if (← peek).isOp "," then pure { st with phase := .keywordOnly, bareStar := true }
                else miss
          else do
            let p ← param
            if st.phase == .keywordOnly then pure { st with kwOnly := st.kwOnly ++ [p] }
            else
              let previous := st.posOnly ++ st.args
              let defaulted := previous.any (·.default.isSome)
              if defaulted && p.default.isNone then miss
              else pure { st with args := st.args ++ [p] })
        if st.kwarg.isSome then
          let _ ← optional (op ",")
          if (← peek).isOp closer then pure st else miss
        else if (← peek).isOp "," then
          let _ ← next
          loop fuel st
        else if (← peek).isOp closer then pure st
        else miss
  let st ← loop (← loopFuel) ⟨.positional, [], [], none, [], none, false⟩
  if st.bareStar && st.kwOnly.isEmpty then miss
  else pure (assembleArguments st.posOnly st.args st.vararg st.kwOnly st.kwarg)

def numberLiteral (t : Token) : Literal := Literal.ofNumberText t.text

/-- The value of a number token, read as the token is taken. A decimal integer of more digits
than the limit is refused, with a fault that points at no column. -/
def numberConstant (t : Token) : Parser Literal :=
  match convertedDigits t.text with
  | some count =>
    if count > integerDigitLimit then
      fault ⟨.syntaxError, digitLimitMessage count, t.line, 0, t.endLine, 0, .file⟩
    else pure (numberLiteral t)
  | none => pure (numberLiteral t)

/-- A call's arguments as read: positional ones (starred included) and keywords. -/
structure CallArgs where
  args : List Expr
  keywords : List Keyword

mutual

def starExpressions : Nat → Parser Expr
  | 0 => tooDeep
  | n + 1 => do
    let (items, comma) ← commaItems (starExpression n)
    match items, comma with
    | [e], false => pure e
    | es, _ => pure (.tuple es)

def starExpression : Nat → Parser Expr
  | 0 => tooDeep
  | n + 1 => do
    if ← atOp "*" then
      let _ ← next
      pure (.starred (← bitwiseOr n))
    else expression n

def starNamedExpression : Nat → Parser Expr
  | 0 => tooDeep
  | n + 1 => do
    if ← atOp "*" then
      let _ ← next
      pure (.starred (← bitwiseOr n))
    else namedExpression n

def namedExpression : Nat → Parser Expr
  | 0 => tooDeep
  | n + 1 => do
    let t ← peek
    let walrus ← if isPlainName t then do
        let start ← mark
        let _ ← next
        if ← atOp ":=" then
          let _ ← next
          pure (some (.namedExpr (.name t.identifier) (← expression n)))
        else
          reset start
          pure none
      else pure none
    match walrus with
    | some e => pure e
    | none =>
      let e ← expression n
      if ← atOp ":=" then miss else pure e

def expression : Nat → Parser Expr
  | 0 => tooDeep
  | n + 1 => do
    if ← atKeyword "lambda" then lambdef n
    else
      let body ← disjunction n
      if ← atKeyword "if" then
        let start ← mark
        let conditional ← optional (do
          let _ ← keyword "if"
          let test ← disjunction n
          let _ ← keyword "else"
          let orelse ← expression n
          pure (Expr.ifExp test body orelse))
        match conditional with
        | some e => pure e
        | none => reset start; pure body
      else pure body

def lambdef : Nat → Parser Expr
  | 0 => tooDeep
  | n + 1 => do
    let _ ← keyword "lambda"
    let args ← if ← atOp ":" then pure Arguments.empty
      else readParameters false ":" (expression n) (expression n) (expression n)
    let _ ← op ":"
    pure (.lambda args (← expression n))

def disjunction : Nat → Parser Expr
  | 0 => tooDeep
  | n + 1 => do
    let first ← conjunction n
    let rest ← many (do let _ ← keyword "or"; conjunction n) (← loopFuel)
    pure (if rest.isEmpty then first else .boolOp .or (first :: rest))

def conjunction : Nat → Parser Expr
  | 0 => tooDeep
  | n + 1 => do
    let first ← inversion n
    let rest ← many (do let _ ← keyword "and"; inversion n) (← loopFuel)
    pure (if rest.isEmpty then first else .boolOp .and (first :: rest))

def inversion : Nat → Parser Expr
  | 0 => tooDeep
  | n + 1 => do
    if ← atKeyword "not" then
      let _ ← next
      pure (.unaryOp .not (← inversion n))
    else comparison n

def comparison : Nat → Parser Expr
  | 0 => tooDeep
  | n + 1 => do
    let first ← bitwiseOr n
    let pairs ← many (do
      let o ← compareOp
      let e ← bitwiseOr n
      pure (o, e)) (← loopFuel)
    pure (if pairs.isEmpty then first else .compare first (pairs.map (·.1)) (pairs.map (·.2)))

def bitwiseOr : Nat → Parser Expr
  | 0 => tooDeep
  | n + 1 => leftChain (bitwiseXor n) [("|", .bitOr)]

def bitwiseXor : Nat → Parser Expr
  | 0 => tooDeep
  | n + 1 => leftChain (bitwiseAnd n) [("^", .bitXor)]

def bitwiseAnd : Nat → Parser Expr
  | 0 => tooDeep
  | n + 1 => leftChain (shiftExpr n) [("&", .bitAnd)]

def shiftExpr : Nat → Parser Expr
  | 0 => tooDeep
  | n + 1 => leftChain (sumExpr n) [("<<", .lShift), (">>", .rShift)]

def sumExpr : Nat → Parser Expr
  | 0 => tooDeep
  | n + 1 => leftChain (termExpr n) [("+", .add), ("-", .sub)]

def termExpr : Nat → Parser Expr
  | 0 => tooDeep
  | n + 1 => leftChain (factor n)
    [("*", .mult), ("/", .div), ("//", .floorDiv), ("%", .mod), ("@", .matMult)]

def factor : Nat → Parser Expr
  | 0 => tooDeep
  | n + 1 => do
    let t ← peek
    if t.isOp "+" then let _ ← next; pure (.unaryOp .uAdd (← factor n))
    else if t.isOp "-" then let _ ← next; pure (.unaryOp .uSub (← factor n))
    else if t.isOp "~" then let _ ← next; pure (.unaryOp .invert (← factor n))
    else power n

def power : Nat → Parser Expr
  | 0 => tooDeep
  | n + 1 => do
    let base ← awaitPrimary n
    match ← optional (do let _ ← op "**"; factor n) with
    | some e => pure (.binOp base .pow e)
    | none => pure base

def awaitPrimary : Nat → Parser Expr
  | 0 => tooDeep
  | n + 1 => do
    if ← atKeyword "await" then
      let _ ← next
      pure (.await (← primary n))
    else primary n

def primary : Nat → Parser Expr
  | 0 => tooDeep
  | n + 1 => do
    let first ← atom n
    trailers n first (← loopFuel)

/-- The attributes, calls and subscripts after a primary. A trailer that does not match ends the
primary before it. -/
def trailers : Nat → Expr → Nat → Parser Expr
  | 0, _, _ => tooDeep
  | _ + 1, acc, 0 => pure acc
  | n + 1, acc, rounds + 1 => do
    let t ← peek
    let trailer : Parser Expr :=
      if t.isOp "." then do
        let _ ← next
        let attr ← name
        pure (.attribute acc attr)
      else if t.isOp "(" then do
        let _ ← next
        let callArgs ← callArguments n true
        let _ ← op ")"
        pure (.call acc callArgs.args callArgs.keywords)
      else if t.isOp "[" then do
        let _ ← next
        let index ← slices n
        let _ ← op "]"
        pure (.subscript acc index)
      else miss
    match ← optional trailer with
    | some e => trailers n e rounds
    | none => pure acc

/-- The arguments of a call after its opening parenthesis, up to the closing one. When
`generator` holds, a single argument followed by `for` is a generator; the bases of a class
take none. -/
def callArguments : Nat → Bool → Parser CallArgs
  | 0, _ => tooDeep
  | n + 1, generator => do
    if ← atOp ")" then pure ⟨[], []⟩
    else
      let item : Parser (Sum Expr Keyword) := do
        let t ← peek
        if t.isOp "*" then
          let _ ← next
          pure (.inl (← starredRest n))
        else if t.isOp "**" then
          let _ ← next
          pure (.inr (.mk none (← expression n)))
        else if isPlainName t then
          let start ← mark
          let _ ← next
          if ← atOp "=" then
            let _ ← next
            pure (.inr (.mk (some t.identifier) (← expression n)))
          else
            reset start
            let e ← namedExpression n
            if ← atOp "=" then miss else pure (.inl e)
        else
          let e ← namedExpression n
          if ← atOp "=" then miss else pure (.inl e)
      let first ← item
      let genexp ← match first with
        | .inl e =>
          if generator && ((← atKeyword "for") || (← atKeyword "async")) then
            match e with
            | .starred _ => miss
            | _ =>
              let gens ← forIfClauses n
              pure (some (Expr.generatorExp e gens))
          else pure none
        | .inr _ => pure none
      match genexp with
      | some g => pure ⟨[g], []⟩
      | none =>
        let rest ← many (do let _ ← op ","; item) (← loopFuel)
        let _ ← optional (op ",")
        let all := first :: rest
        -- positional arguments come first, then keywords and starred arguments, then keywords
        -- and double-starred arguments: `stage` counts the sections begun
        let rec ordered : Nat → List (Sum Expr Keyword) → Bool
          | _, [] => true
          | stage, .inl (.starred _) :: more => stage < 2 && ordered stage more
          | stage, .inl _ :: more => stage == 0 && ordered stage more
          | _, .inr (.mk none _) :: more => ordered 2 more
          | stage, .inr _ :: more => ordered (max stage 1) more
        if !ordered 0 all then miss
        else
          pure ⟨all.filterMap (fun a => match a with | .inl e => some e | .inr _ => none),
            all.filterMap (fun a => match a with | .inr k => some k | .inl _ => none)⟩

/-- What follows `*` in call arguments and subscripts: an expression, which is then starred;
without one, the `*` is a fault. -/
def starredRest : Nat → Parser Expr
  | 0 => tooDeep
  | n + 1 => do
    match ← optional (expression n) with
    | some e => pure (.starred e)
    | none => faultHere "Invalid star expression"

def slices : Nat → Parser Expr
  | 0 => tooDeep
  | n + 1 => do
    let item : Parser Expr := do
      if ← atOp "*" then
        let _ ← next
        starredRest n
      else slice n
    let (items, comma) ← commaItems item
    match items, comma with
    | [e], false => pure e
    | es, _ => pure (.tuple es)

def slice : Nat → Parser Expr
  | 0 => tooDeep
  | n + 1 => do
    let startsSlice ← atOp ":"
    if startsSlice then sliceRest n none
    else
      let t ← peek
      if isPlainName t then
        let start ← mark
        let _ ← next
        if ← atOp ":=" then
          reset start
          namedExpression n
        else
          reset start
          let lower ← expression n
          if ← atOp ":" then sliceRest n (some lower) else pure lower
      else
        let lower ← expression n
        if ← atOp ":" then sliceRest n (some lower) else pure lower

def sliceRest : Nat → Option Expr → Parser Expr
  | 0, _ => tooDeep
  | n + 1, lower => do
    let _ ← op ":"
    let bound (t : Token) : Bool := t.isOp ":" || t.isOp "]" || t.isOp ","
    let upper ← if bound (← peek) then pure none else some <$> expression n
    if ← atOp ":" then
      let _ ← next
      let step ← if bound (← peek) then pure none else some <$> expression n
      pure (.slice lower upper step)
    else pure (.slice lower upper none)

def atom : Nat → Parser Expr
  | 0 => tooDeep
  | n + 1 => do
    let t ← peek
    match t.kind with
    | .name =>
      if t.text == "True" then let _ ← next; pure (.constant .true)
      else if t.text == "False" then let _ ← next; pure (.constant .false)
      else if t.text == "None" then let _ ← next; pure (.constant .none)
      else if isPlainName t then let _ ← next; pure (.name t.identifier)
      else miss
    | .number => let _ ← next; pure (.constant (← numberConstant t))
    | .string => strings n
    | .op =>
      if t.isOp "(" then parenthesized n
      else if t.isOp "[" then bracketed n
      else if t.isOp "\x7b" then braced n
      else if t.isOp "..." then let _ ← next; pure (.constant .ellipsis)
      else miss
    | _ => miss

def strings : Nat → Parser Expr
  | 0 => tooDeep
  | _ + 1 => do
    let toks ← many (kind .string) (← loopFuel)
    let site ← peek
    let read ← fun inp c => Parsed.ok inp.readField c
    match joinStrings toks site read with
    | .ok e => pure e
    | .error f => fault f

def parenthesized : Nat → Parser Expr
  | 0 => tooDeep
  | n + 1 => do
    let _ ← op "("
    if ← atOp ")" then let _ ← next; pure (.tuple [])
    else if ← atKeyword "yield" then
      let e ← yieldExpr n
      let _ ← op ")"
      pure e
    else
      let first ← starNamedExpression n
      let t ← peek
      if t.isOp ")" then
        match first with
        | .starred _ => miss
        | _ => let _ ← next; pure first
      else if t.isOp "," then
        let _ ← next
        let rest ← if ← atOp ")" then pure []
          else do
            let (items, _) ← commaItems (starNamedExpression n)
            pure items
        let _ ← op ")"
        pure (.tuple (first :: rest))
      else if t.isName "for" || t.isName "async" then
        match first with
        | .starred _ => miss
        | _ =>
          let gens ← forIfClauses n
          let _ ← op ")"
          pure (.generatorExp first gens)
      else miss

def bracketed : Nat → Parser Expr
  | 0 => tooDeep
  | n + 1 => do
    let _ ← op "["
    if ← atOp "]" then let _ ← next; pure (.list [])
    else
      let first ← starNamedExpression n
      let t ← peek
      if t.isName "for" || t.isName "async" then
        match first with
        | .starred _ => miss
        | _ =>
          let gens ← forIfClauses n
          let _ ← op "]"
          pure (.listComp first gens)
      else
        let rest ← if t.isOp "," then do
            let _ ← next
            if ← atOp "]" then pure []
            else do
              let (items, _) ← commaItems (starNamedExpression n)
              pure items
          else pure []
        let _ ← op "]"
        pure (.list (first :: rest))

/-- A braced form: a dictionary, a set, or a comprehension of either. When none matches, the
mistakes of a dictionary display are looked for: they are faults as soon as they are read. -/
def braced : Nat → Parser Expr
  | 0 => tooDeep
  | n + 1 => bracedForm n <|> dictMistakes n

/-- The mistakes of a dictionary display: entries followed by a key without `:`, or a key with
`:` followed by a starred value or by no value. -/
def dictMistakes : Nat → Parser Expr
  | 0 => tooDeep
  | n + 1 => do
    let _ ← op "\x7b"
    let entry : Parser Unit := do
      if ← atOp "**" then
        let _ ← next
        let _ ← bitwiseOr n
        pure ()
      else
        let _ ← expression n
        let _ ← op ":"
        let _ ← expression n
        pure ()
    let starredValue : Parser Expr := do
      let _ ← expression n
      let _ ← op ":"
      let a ← op "*"
      let _ ← bitwiseOr n
      let last := (← previous).getD a
      fault ⟨.syntaxError, "cannot use a starred expression in a dictionary value", a.line,
        a.col + 1, last.endLine, last.endCol + 1, .file⟩
    let missingValue : Parser Expr := do
      let _ ← expression n
      let colon ← op ":"
      let t ← peek
      if t.isOp "\x7d" || t.isOp "," then
        faultAt "expression expected after dictionary key and ':'" colon
      else miss
    let missingColon : Parser Expr := do
      let first ← peek
      let _ ← expression n
      let last := (← previous).getD first
      if ← atOp ":" then miss
      else
        fault ⟨.syntaxError, "':' expected after dictionary key", first.line, last.endCol,
          last.endLine, 0, .file⟩
    (do
        let _ ← sepBy1 entry "," (← loopFuel)
        let _ ← op ","
        missingColon <|> starredValue <|> missingValue)
      <|> starredValue
      <|> missingValue

def bracedForm : Nat → Parser Expr
  | 0 => tooDeep
  | n + 1 => do
    let _ ← op "\x7b"
    if ← atOp "\x7d" then let _ ← next; pure (.dict [] [])
    else
      let pair : Parser (Option Expr × Expr) := do
        if ← atOp "**" then
          let _ ← next
          pure (none, ← bitwiseOr n)
        else
          let k ← expression n
          let _ ← op ":"
          pure (some k, ← expression n)
      if ← atOp "**" then
        let (pairs, _) ← commaItems pair
        let _ ← op "\x7d"
        pure (.dict (pairs.map (·.1)) (pairs.map (·.2)))
      else
        let start ← mark
        let first ← starNamedExpression n
        if ← atOp ":" then
          reset start
          let key ← expression n
          let _ ← op ":"
          let value ← expression n
          let t ← peek
          if t.isName "for" || t.isName "async" then
            let gens ← forIfClauses n
            let _ ← op "\x7d"
            pure (.dictComp key value gens)
          else
            let rest ← if t.isOp "," then do
                let _ ← next
                if ← atOp "\x7d" then pure []
                else do
                  let (items, _) ← commaItems pair
                  pure items
              else pure []
            let _ ← op "\x7d"
            let pairs := (some key, value) :: rest
            pure (.dict (pairs.map (·.1)) (pairs.map (·.2)))
        else
          let t ← peek
          if t.isName "for" || t.isName "async" then
            match first with
            | .starred _ => miss
            | _ =>
              let gens ← forIfClauses n
              let _ ← op "\x7d"
              pure (.setComp first gens)
          else
            let rest ← if t.isOp "," then do
                let _ ← next
                if ← atOp "\x7d" then pure []
                else do
                  let (items, _) ← commaItems (starNamedExpression n)
                  pure items
              else pure []
            let _ ← op "\x7d"
            pure (.set (first :: rest))

def forIfClauses : Nat → Parser (List Comprehension)
  | 0 => tooDeep
  | n + 1 => do
    let clause : Parser Comprehension := do
      let isAsync ← if ← atKeyword "async" then do let _ ← next; pure true else pure false
      let _ ← keyword "for"
      let target ← starTargets n
      let _ ← keyword "in"
      let iter ← disjunction n
      let ifs ← many (do let _ ← keyword "if"; disjunction n) (← loopFuel)
      pure (.mk target iter ifs isAsync)
    let first ← clause
    let rest ← many clause (← loopFuel)
    pure (first :: rest)

def yieldExpr : Nat → Parser Expr
  | 0 => tooDeep
  | n + 1 => do
    let _ ← keyword "yield"
    if ← atKeyword "from" then
      let _ ← next
      pure (.yieldFrom (← expression n))
    else
      let value ← optional (starExpressions n)
      pure (.yield value)

def starTargets : Nat → Parser Expr
  | 0 => tooDeep
  | n + 1 => do
    let (items, comma) ← commaItems (starTarget n)
    match items, comma with
    | [e], false => pure e
    | es, _ => pure (.tuple es)

def starTarget : Nat → Parser Expr
  | 0 => tooDeep
  | n + 1 => do
    if ← atOp "*" then
      let _ ← next
      if ← atOp "*" then miss
      else pure (.starred (← starTarget n))
    else
      let e ← primary n
      if e.isTarget then pure e else miss

end

end Obfuscation.Syntax
