import Obfuscation.Syntax.Parser.Expr
/-!
The grammar of `match` patterns.

A pattern is a capture name, the wildcard `_`, a literal (signed numbers, complex sums, strings,
`None`, `True`, `False`), a dotted value, a group or sequence in parentheses or brackets, a
mapping, or a class pattern; alternatives join with `|` and `as` binds a name. At a case head, a
comma makes a sequence without brackets.
-/

namespace Obfuscation.Syntax

open Obfuscation.Syntax.Parser

def isCaptureName (t : Token) : Bool := isPlainName t && t.text != "_"

def blocksCapture (t : Token) : Bool := t.isOp "." || t.isOp "(" || t.isOp "="

def dottedValue : Parser Expr := do
  let first ← name
  let parts ← many (do let _ ← op "."; name) (← loopFuel)
  pure (parts.foldl (fun acc a => .attribute acc a) (.name first))

def captureTarget : Parser String := do
  let t ← peek
  if isCaptureName t then
    let _ ← next
    if blocksCapture (← peek) then miss else pure t.identifier
  else miss

def signedNumber : Parser (Expr × Token) := do
  if ← atOp "-" then
    let _ ← next
    let t ← kind .number
    pure (.unaryOp .uSub (.constant (← numberConstant t)), t)
  else
    let t ← kind .number
    pure (.constant (← numberConstant t), t)

/-- A literal number pattern value: a signed number not followed by `+` or `-`, or a complex
sum or difference of a real and an imaginary number. Once a number is followed by `+` or `-`, a
first number that is imaginary and a second that is not are faults. -/
def numberValue : Parser Expr := do
  let (real, first) ← signedNumber
  let t ← peek
  if t.isOp "+" || t.isOp "-" then
    if first.isImaginary then faultAt "real number required in complex literal" first
    else
      let _ ← next
      let imag ← kind .number
      if !imag.isImaginary then faultAt "imaginary number required in complex literal" imag
      else
        let o : BinaryOp := if t.isOp "+" then .add else .sub
        pure (.binOp real o (.constant (← numberConstant imag)))
  else pure real

def literalExpr (n : Nat) : Parser Expr := do
  let t ← peek
  if t.isName "None" then let _ ← next; pure (.constant .none)
  else if t.isName "True" then let _ ← next; pure (.constant .true)
  else if t.isName "False" then let _ ← next; pure (.constant .false)
  else if t.kind == .string then strings n
  else numberValue

mutual

def casePatterns : Nat → Parser Pattern
  | 0 => tooDeep
  | n + 1 => do
    let first ← maybeStarPattern n
    if ← atOp "," then
      let _ ← next
      let rest ← maybeSequence n
      pure (.sequence (first :: rest))
    else
      match first with
      | .star _ => miss
      | p => pure p

/-- Patterns separated by commas, each possibly starred, a trailing comma allowed, possibly
none. -/
def maybeSequence : Nat → Parser (List Pattern)
  | 0 => tooDeep
  | n + 1 => do
    match ← optional (commaItems (maybeStarPattern n)) with
    | some (ps, _) => pure ps
    | none => pure []

def maybeStarPattern : Nat → Parser Pattern
  | 0 => tooDeep
  | n + 1 => do
    if ← atOp "*" then
      let _ ← next
      if (← peek).isName "_" then
        let _ ← next
        pure (.star none)
      else pure (.star (some (← captureTarget)))
    else pattern n

def pattern : Nat → Parser Pattern
  | 0 => tooDeep
  | n + 1 => do
    let alternatives ← sepBy1 (closedPattern n) "|" (← loopFuel)
    let p : Pattern := match alternatives with
      | [single] => single
      | ps => .alternatives ps
    if ← atKeyword "as" then
      let _ ← next
      let target ← captureTarget
      pure (.capture (some p) (some target))
    else pure p

def closedPattern : Nat → Parser Pattern
  | 0 => tooDeep
  | n + 1 => do
    let t ← peek
    if t.kind == .number || t.isOp "-" then
      pure (.value (← numberValue))
    else if t.kind == .string then pure (.value (← strings n))
    else if t.isName "None" then let _ ← next; pure (.singleton .none)
    else if t.isName "True" then let _ ← next; pure (.singleton .true)
    else if t.isName "False" then let _ ← next; pure (.singleton .false)
    else if t.isName "_" then let _ ← next; pure (.capture none none)
    else if isPlainName t then
      let start ← mark
      match ← optional captureTarget with
      | some target => pure (.capture none (some target))
      | none =>
        reset start
        let cls ← dottedValue
        if ← atOp "(" then
          let _ ← next
          classArguments n cls
        else
          match cls with
          | .name _ => miss
          | _ => if blocksCapture (← peek) then miss else pure (.value cls)
    else if t.isOp "(" then
      let _ ← next
      if ← atOp ")" then let _ ← next; pure (.sequence [])
      else
        let first ← maybeStarPattern n
        if ← atOp ")" then
          match first with
          | .star _ => miss
          | p => let _ ← next; pure p
        else
          let _ ← op ","
          let rest ← maybeSequence n
          let _ ← op ")"
          pure (.sequence (first :: rest))
    else if t.isOp "[" then
      let _ ← next
      let ps ← maybeSequence n
      let _ ← op "]"
      pure (.sequence ps)
    else if t.isOp "\x7b" then
      let _ ← next
      mappingPattern n
    else miss

def classArguments : Nat → Expr → Parser Pattern
  | 0, _ => tooDeep
  | n + 1, cls => do
    let item : Parser (Sum Pattern (String × Pattern)) := do
      let t ← peek
      if isPlainName t then
        let start ← mark
        let _ ← next
        if ← atOp "=" then
          let _ ← next
          pure (.inr (t.identifier, ← pattern n))
        else
          reset start
          pure (.inl (← pattern n))
      else pure (.inl (← pattern n))
    let items ← if ← atOp ")" then pure []
      else do
        let (items, _) ← commaItems item
        pure items
    let _ ← op ")"
    let positional := items.filterMap fun i => match i with | .inl p => some p | .inr _ => none
    let keywords := items.filterMap fun i => match i with | .inr kv => some kv | .inl _ => none
    -- keyword patterns come after all positional ones
    let rec positionalFirst : Bool → List (Sum Pattern (String × Pattern)) → Bool
      | _, [] => true
      | seen, .inl _ :: more => !seen && positionalFirst seen more
      | _, .inr _ :: more => positionalFirst true more
    if !positionalFirst false items then miss
    else pure (.classPattern cls positional (keywords.map (·.1)) (keywords.map (·.2)))

def mappingPattern : Nat → Parser Pattern
  | 0 => tooDeep
  | n + 1 => do
    let item : Parser (Sum (Expr × Pattern) String) := do
      if ← atOp "**" then
        let _ ← next
        pure (.inr (← captureTarget))
      else
        let t ← peek
        let key ← if isPlainName t then dottedValue else literalExpr n
        match key with
        | .name _ => miss
        | _ =>
          let _ ← op ":"
          pure (.inl (key, ← pattern n))
    let items ← if ← atOp "\x7d" then pure []
      else do
        let (items, _) ← commaItems item
        pure items
    let _ ← op "\x7d"
    let pairs := items.filterMap fun i => match i with | .inl kv => some kv | .inr _ => none
    let rests := items.filterMap fun i => match i with | .inr r => some r | .inl _ => none
    match rests, items.getLast? with
    | [], _ => pure (.mapping (pairs.map (·.1)) (pairs.map (·.2)) none)
    | [r], some (.inr _) => pure (.mapping (pairs.map (·.1)) (pairs.map (·.2)) (some r))
    | _, _ => miss

end

end Obfuscation.Syntax
