import Obfuscation.Syntax.Printer.Expr
/-!
Printing statements, match patterns and modules as source text, four spaces of indentation per
level of nesting; a body that starts with a string expression writes it as a docstring.
-/

namespace Obfuscation.Syntax

def indentation (depth : Nat) : String := String.join (List.replicate depth "    ")

mutual

def Pattern.render (p : Precedence) : Pattern → Except Fault String
  | .value e => e.render false .test
  | .singleton v => v.render false
  | .sequence ps => do
    let items ← Pattern.renderAll .test ps
    pure ("[" ++ ", ".intercalate items ++ "]")
  | .mapping keys ps rest => do
    let ks ← (Expr.renderEach false .test keys).mapM id
    let vs ← Pattern.renderAll .test ps
    let pairs := (ks.zip vs).map fun (k, v) => k ++ ": " ++ v
    let restText := match rest with
      | some r => (if keys.isEmpty then "" else ", ") ++ "**" ++ r
      | none => ""
    pure (inBraces (", ".intercalate pairs ++ restText))
  | .classPattern cls ps attrs kps => do
    let c ← cls.render false .atom
    let positional ← Pattern.renderAll .test ps
    let keyed ← Pattern.renderAll .test kps
    let named := (attrs.zip keyed).map fun (a, v) => a ++ "=" ++ v
    let gap := if !attrs.isEmpty && !ps.isEmpty then ", " else ""
    pure (c ++ "(" ++ ", ".intercalate positional ++ gap ++ ", ".intercalate named ++ ")")
  | .star name => pure ("*" ++ name.getD "_")
  | .capture none (some n) => pure n
  | .capture (some q) (some n) => do
    let s ← q.render .bitOr
    pure (parenthesize (p.wraps .test) (s ++ " as " ++ n))
  | .capture _ none => pure "_"
  | .alternatives ps => do
    let items ← Pattern.renderAll .bitXor ps
    pure (parenthesize (p.wraps .bitOr) (" | ".intercalate items))
termination_by q => sizeOf q

def Pattern.renderAll (p : Precedence) : List Pattern → Except Fault (List String)
  | [] => pure []
  | q :: qs => do
    let s ← q.render p
    let rest ← Pattern.renderAll p qs
    pure (s :: rest)
termination_by qs => sizeOf qs

end

def Alias.render (a : Alias) : String :=
  a.name ++ (a.asName.map (" as " ++ ·)).getD ""

def WithItem.render (w : WithItem) : Except Fault String := do
  let c ← w.context.render false .test
  let v ← Expr.renderOption false .test w.vars
  pure (c ++ (v.map (" as " ++ ·)).getD "")

def docstringLine (depth : Nat) (t : Text) (uPrefix : Bool) : String :=
  indentation depth ++ (if uPrefix then "u" else "") ++ writeAvoiding t Delimiter.triples

def Fault.causeWithoutException : Fault :=
  ⟨.valueError, "Node can't use cause without an exception."⟩

mutual

def Stmt.lines (depth : Nat) : Stmt → Except Fault (List String)
  | .functionDef name args body decorators returns isAsync => do
    let decos ← (Expr.renderEach false .test decorators).mapM id
    let a ← args.render false
    let r ← Expr.renderOption false .test returns
    let head := (if isAsync then "async def " else "def ") ++ name ++ "(" ++ a ++ ")" ++
      (r.map (" -> " ++ ·)).getD "" ++ ":"
    let inner ← Stmt.documentedLines (depth + 1) body
    pure ("" :: decos.map (indentation depth ++ "@" ++ ·) ++ (indentation depth ++ head) :: inner)
  | .classDef name bases keywords body decorators => do
    let decos ← (Expr.renderEach false .test decorators).mapM id
    let bs ← (Expr.renderEach false .test bases).mapM id
    let ks ← (Keyword.renderEach false keywords).mapM id
    let parents := bs ++ ks
    let head := "class " ++ name ++
      (if parents.isEmpty then "" else "(" ++ ", ".intercalate parents ++ ")") ++ ":"
    let inner ← Stmt.documentedLines (depth + 1) body
    pure ("" :: decos.map (indentation depth ++ "@" ++ ·) ++ (indentation depth ++ head) :: inner)
  | .returnStmt value => do
    let v ← Expr.renderOption false .test value
    pure [indentation depth ++ "return" ++ (v.map (" " ++ ·)).getD ""]
  | .delete targets => do
    let ts ← (Expr.renderEach false .test targets).mapM id
    pure [indentation depth ++ "del " ++ ", ".intercalate ts]
  | .assign targets value => do
    let ts ← (Expr.renderEach false .tuple targets).mapM id
    let v ← value.render false .test
    pure [indentation depth ++ String.join (ts.map (· ++ " = ")) ++ v]
  | .augAssign target o value => do
    let t ← target.render false .test
    let v ← value.render false .test
    pure [indentation depth ++ t ++ " " ++ o.symbol ++ "= " ++ v]
  | .annAssign target hint value simple => do
    let t ← target.render false .test
    let a ← hint.render false .test
    let v ← Expr.renderOption false .test value
    let wrap := match target with
      | .name _ => !simple
      | _ => false
    pure [indentation depth ++ parenthesize wrap t ++ ": " ++ a ++ (v.map (" = " ++ ·)).getD ""]
  | .forLoop target iter body orelse isAsync => do
    let t ← target.render false .tuple
    let i ← iter.render false .test
    let inner ← Stmt.blockLines (depth + 1) body
    let rest ← Stmt.elseLines depth false orelse
    let head := (if isAsync then "async for " else "for ") ++ t ++ " in " ++ i ++ ":"
    pure ((indentation depth ++ head) :: inner ++ rest)
  | .whileLoop test body orelse => do
    let t ← test.render false .test
    let inner ← Stmt.blockLines (depth + 1) body
    let rest ← Stmt.elseLines depth false orelse
    pure ((indentation depth ++ "while " ++ t ++ ":") :: inner ++ rest)
  | .ifStmt test body orelse => do
    let t ← test.render false .test
    let inner ← Stmt.blockLines (depth + 1) body
    let rest ← Stmt.elseLines depth true orelse
    pure ((indentation depth ++ "if " ++ t ++ ":") :: inner ++ rest)
  | .withBlock items body isAsync => do
    let ws ← items.mapM WithItem.render
    let inner ← Stmt.blockLines (depth + 1) body
    let head := (if isAsync then "async with " else "with ") ++ ", ".intercalate ws ++ ":"
    pure ((indentation depth ++ head) :: inner)
  | .matchStmt subject cases => do
    let s ← subject.render false .test
    let inner ← MatchCase.linesAll (depth + 1) cases
    pure ((indentation depth ++ "match " ++ s ++ ":") :: inner)
  | .raise none none => pure [indentation depth ++ "raise"]
  | .raise none (some _) => throw Fault.causeWithoutException
  | .raise (some exc) cause => do
    let e ← exc.render false .test
    let c ← Expr.renderOption false .test cause
    pure [indentation depth ++ "raise " ++ e ++ (c.map (" from " ++ ·)).getD ""]
  | .tryBlock body handlers orelse finalbody isStar => do
    let inner ← Stmt.blockLines (depth + 1) body
    let hs ← Handler.linesAll depth isStar handlers
    let rest ← Stmt.elseLines depth false orelse
    let final ← Stmt.blockLines (depth + 1) finalbody
    let finalPart := if finalbody.isEmpty then [] else (indentation depth ++ "finally:") :: final
    pure ((indentation depth ++ "try:") :: inner ++ hs ++ rest ++ finalPart)
  | .assert test msg => do
    let t ← test.render false .test
    let m ← Expr.renderOption false .test msg
    pure [indentation depth ++ "assert " ++ t ++ (m.map (", " ++ ·)).getD ""]
  | .importNames names =>
    pure [indentation depth ++ "import " ++ ", ".intercalate (names.map Alias.render)]
  | .importFrom module names level =>
    pure [indentation depth ++ "from " ++ String.ofList (List.replicate level '.') ++
      module.getD "" ++ " import " ++ ", ".intercalate (names.map Alias.render)]
  | .global names => pure [indentation depth ++ "global " ++ ", ".intercalate names]
  | .nonlocal names => pure [indentation depth ++ "nonlocal " ++ ", ".intercalate names]
  | .expr value => do
    let v ← value.render false .yield
    pure [indentation depth ++ v]
  | .pass => pure [indentation depth ++ "pass"]
  | .breakStmt => pure [indentation depth ++ "break"]
  | .continueStmt => pure [indentation depth ++ "continue"]
termination_by s => 2 * sizeOf s

def Stmt.blockLines (depth : Nat) : List Stmt → Except Fault (List String)
  | [] => pure []
  | s :: rest => do
    let first ← s.lines depth
    let more ← Stmt.blockLines depth rest
    pure (first ++ more)
termination_by l => 2 * sizeOf l

def Stmt.documentedLines (depth : Nat) : List Stmt → Except Fault (List String)
  | .expr (.constant (.str t u)) :: rest => do
    let more ← Stmt.blockLines depth rest
    pure (docstringLine depth t u :: more)
  | body => Stmt.blockLines depth body
termination_by l => 2 * sizeOf l + 1

/-- The lines of an `else` part at the depth of its statement; a single `if` in it of an `if`
statement becomes `elif`. -/
def Stmt.elseLines (depth : Nat) (chained : Bool) : List Stmt → Except Fault (List String)
  | [] => pure []
  | [.ifStmt test body orelse] =>
    if chained then do
      let t ← test.render false .test
      let inner ← Stmt.blockLines (depth + 1) body
      let rest ← Stmt.elseLines depth true orelse
      pure ((indentation depth ++ "elif " ++ t ++ ":") :: inner ++ rest)
    else do
      let inner ← Stmt.blockLines (depth + 1) [.ifStmt test body orelse]
      pure ((indentation depth ++ "else:") :: inner)
  | orelse => do
    let inner ← Stmt.blockLines (depth + 1) orelse
    pure ((indentation depth ++ "else:") :: inner)
termination_by l => 2 * sizeOf l + 1

def Handler.linesAll (depth : Nat) (isStar : Bool) : List Handler → Except Fault (List String)
  | [] => pure []
  | .mk type name body :: rest => do
    let t ← Expr.renderOption false .test type
    let inner ← Stmt.blockLines (depth + 1) body
    let more ← Handler.linesAll depth isStar rest
    let head := (if isStar then "except*" else "except") ++ (t.map (" " ++ ·)).getD "" ++
      (name.map (" as " ++ ·)).getD "" ++ ":"
    pure ((indentation depth ++ head) :: inner ++ more)
termination_by l => 2 * sizeOf l

def MatchCase.linesAll (depth : Nat) : List MatchCase → Except Fault (List String)
  | [] => pure []
  | .mk pattern guard body :: rest => do
    let p ← pattern.render .test
    let g ← Expr.renderOption false .test guard
    let inner ← Stmt.blockLines (depth + 1) body
    let more ← MatchCase.linesAll depth rest
    let head := "case " ++ p ++ (g.map (" if " ++ ·)).getD "" ++ ":"
    pure ((indentation depth ++ head) :: inner ++ more)
termination_by l => 2 * sizeOf l

end

/-- The source text of a module: its lines joined by newlines, without the empty line that
would precede a definition at the very start. -/
def Module.render (m : Module) : Except Fault String := do
  let ls ← Stmt.documentedLines 0 m
  pure ("\n".intercalate (ls.dropWhile (·.isEmpty)))

end Obfuscation.Syntax
