import Obfuscation.Syntax.Tree
/-!
Walks over a module that rebuild it. A leaf walk asks its visit what to put in the place of each
name, string constant and import; a definition walk lets its visit edit the body of every function
definition reachable through statement bodies.
-/

namespace Obfuscation.Syntax

/-- What a leaf walk does at each leaf, in the order of the walk. -/
structure LeafVisit (m : Type → Type) where
  name : String → m Expr
  /-- A string constant (its text and `u` flag) that is not a part of a formatted string. -/
  text : Text → Bool → m Expr
  part : Text → Bool → m Expr
  imports : Stmt → m Unit

variable {m : Type → Type} [Monad m]

mutual

/-- An expression with its leaves replaced. -/
def Expr.walkLeaves (v : LeafVisit m) : Expr → m Expr
  | .boolOp o values => .boolOp o <$> Expr.walkLeavesAll v values
  | .namedExpr target value => do
    let t ← target.walkLeaves v
    let e ← value.walkLeaves v
    pure (.namedExpr t e)
  | .binOp left o right => do
    let l ← left.walkLeaves v
    let r ← right.walkLeaves v
    pure (.binOp l o r)
  | .unaryOp o operand => .unaryOp o <$> operand.walkLeaves v
  | .lambda args body => do
    let a ← args.walkLeaves v
    let b ← body.walkLeaves v
    pure (.lambda a b)
  | .ifExp test body orelse => do
    let t ← test.walkLeaves v
    let b ← body.walkLeaves v
    let e ← orelse.walkLeaves v
    pure (.ifExp t b e)
  | .dict keys values => do
    let ks ← Expr.walkLeavesOptions v keys
    let vs ← Expr.walkLeavesAll v values
    pure (.dict ks vs)
  | .set elts => .set <$> Expr.walkLeavesAll v elts
  | .listComp elt gens => do
    let e ← elt.walkLeaves v
    let g ← Comprehension.walkLeavesAll v gens
    pure (.listComp e g)
  | .setComp elt gens => do
    let e ← elt.walkLeaves v
    let g ← Comprehension.walkLeavesAll v gens
    pure (.setComp e g)
  | .dictComp key value gens => do
    let k ← key.walkLeaves v
    let e ← value.walkLeaves v
    let g ← Comprehension.walkLeavesAll v gens
    pure (.dictComp k e g)
  | .generatorExp elt gens => do
    let e ← elt.walkLeaves v
    let g ← Comprehension.walkLeavesAll v gens
    pure (.generatorExp e g)
  | .await value => .await <$> value.walkLeaves v
  | .yield value => .yield <$> Expr.walkLeavesOption v value
  | .yieldFrom value => .yieldFrom <$> value.walkLeaves v
  | .compare left ops comparators => do
    let l ← left.walkLeaves v
    let cs ← Expr.walkLeavesAll v comparators
    pure (.compare l ops cs)
  | .call func args keywords => do
    let f ← func.walkLeaves v
    let a ← Expr.walkLeavesAll v args
    let k ← Keyword.walkLeavesAll v keywords
    pure (.call f a k)
  | .formattedValue value conversion spec => do
    let e ← value.walkLeaves v
    let s ← Expr.walkLeavesOption v spec
    pure (.formattedValue e conversion s)
  | .joinedStr values => .joinedStr <$> Expr.walkParts v values
  | .constant (.str t u) => v.text t u
  | .constant c => pure (.constant c)
  | .attribute value attr => (.attribute · attr) <$> value.walkLeaves v
  | .subscript value slice => do
    let e ← value.walkLeaves v
    let s ← slice.walkLeaves v
    pure (.subscript e s)
  | .starred value => .starred <$> value.walkLeaves v
  | .name id => v.name id
  | .list elts => .list <$> Expr.walkLeavesAll v elts
  | .tuple elts => .tuple <$> Expr.walkLeavesAll v elts
  | .slice lower upper step => do
    let l ← Expr.walkLeavesOption v lower
    let u ← Expr.walkLeavesOption v upper
    let s ← Expr.walkLeavesOption v step
    pure (.slice l u s)

def Expr.walkLeavesAll (v : LeafVisit m) : List Expr → m (List Expr)
  | [] => pure []
  | e :: es => do
    let e' ← e.walkLeaves v
    let es' ← Expr.walkLeavesAll v es
    pure (e' :: es')

def Expr.walkLeavesOption (v : LeafVisit m) : Option Expr → m (Option Expr)
  | none => pure none
  | some e => some <$> e.walkLeaves v

def Expr.walkLeavesOptions (v : LeafVisit m) : List (Option Expr) → m (List (Option Expr))
  | [] => pure []
  | o :: os => do
    let o' ← Expr.walkLeavesOption v o
    let os' ← Expr.walkLeavesOptions v os
    pure (o' :: os')

/-- The parts of a formatted string: string constants are visited as parts, the others walked. -/
def Expr.walkParts (v : LeafVisit m) : List Expr → m (List Expr)
  | [] => pure []
  | e :: es => do
    let e' ← match e with
      | .constant (.str t u) => v.part t u
      | _ => e.walkLeaves v
    let es' ← Expr.walkParts v es
    pure (e' :: es')

def Comprehension.walkLeavesAll (v : LeafVisit m) : List Comprehension → m (List Comprehension)
  | [] => pure []
  | .mk target iter ifs isAsync :: rest => do
    let t ← target.walkLeaves v
    let i ← iter.walkLeaves v
    let cs ← Expr.walkLeavesAll v ifs
    let rest' ← Comprehension.walkLeavesAll v rest
    pure (.mk t i cs isAsync :: rest')

def Keyword.walkLeavesAll (v : LeafVisit m) : List Keyword → m (List Keyword)
  | [] => pure []
  | .mk name value :: rest => do
    let e ← value.walkLeaves v
    let rest' ← Keyword.walkLeavesAll v rest
    pure (.mk name e :: rest')

def Arg.walkLeaves (v : LeafVisit m) : Arg → m Arg
  | .mk name hint => .mk name <$> Expr.walkLeavesOption v hint

def Arg.walkLeavesAll (v : LeafVisit m) : List Arg → m (List Arg)
  | [] => pure []
  | a :: rest => do
    let a' ← a.walkLeaves v
    let rest' ← Arg.walkLeavesAll v rest
    pure (a' :: rest')

def Arg.walkLeavesOption (v : LeafVisit m) : Option Arg → m (Option Arg)
  | none => pure none
  | some a => some <$> a.walkLeaves v

/-- A parameter list: positional-only, positional, `*`, keyword-only, their defaults, `**`, and
the positional defaults. -/
def Arguments.walkLeaves (v : LeafVisit m) : Arguments → m Arguments
  | .mk posOnly args vararg kwOnly kwDefaults kwarg defaults => do
    let p ← Arg.walkLeavesAll v posOnly
    let a ← Arg.walkLeavesAll v args
    let va ← Arg.walkLeavesOption v vararg
    let k ← Arg.walkLeavesAll v kwOnly
    let kd ← Expr.walkLeavesOptions v kwDefaults
    let kw ← Arg.walkLeavesOption v kwarg
    let d ← Expr.walkLeavesAll v defaults
    pure (.mk p a va k kd kw d)

end

mutual

def Pattern.walkLeaves (v : LeafVisit m) : Pattern → m Pattern
  | .value e => .value <$> e.walkLeaves v
  | .singleton c => pure (.singleton c)
  | .sequence ps => .sequence <$> Pattern.walkLeavesAll v ps
  | .mapping keys ps rest => do
    let ks ← Expr.walkLeavesAll v keys
    let ps' ← Pattern.walkLeavesAll v ps
    pure (.mapping ks ps' rest)
  | .classPattern cls ps attrs kps => do
    let c ← cls.walkLeaves v
    let ps' ← Pattern.walkLeavesAll v ps
    let kps' ← Pattern.walkLeavesAll v kps
    pure (.classPattern c ps' attrs kps')
  | .star name => pure (.star name)
  | .capture none name => pure (.capture none name)
  | .capture (some p) name => do
    let p' ← p.walkLeaves v
    pure (.capture (some p') name)
  | .alternatives ps => .alternatives <$> Pattern.walkLeavesAll v ps

def Pattern.walkLeavesAll (v : LeafVisit m) : List Pattern → m (List Pattern)
  | [] => pure []
  | p :: ps => do
    let p' ← p.walkLeaves v
    let ps' ← Pattern.walkLeavesAll v ps
    pure (p' :: ps')

end

def WithItem.walkLeaves (v : LeafVisit m) (w : WithItem) : m WithItem := do
  let c ← w.context.walkLeaves v
  let t ← Expr.walkLeavesOption v w.vars
  pure ⟨c, t⟩

mutual

/-- A statement with its leaves replaced. -/
def Stmt.walkLeaves (v : LeafVisit m) : Stmt → m Stmt
  | .functionDef name args body decorators returns isAsync => do
    let a ← args.walkLeaves v
    let b ← Stmt.walkLeavesAll v body
    let d ← Expr.walkLeavesAll v decorators
    let r ← Expr.walkLeavesOption v returns
    pure (.functionDef name a b d r isAsync)
  | .classDef name bases keywords body decorators => do
    let bs ← Expr.walkLeavesAll v bases
    let ks ← Keyword.walkLeavesAll v keywords
    let b ← Stmt.walkLeavesAll v body
    let d ← Expr.walkLeavesAll v decorators
    pure (.classDef name bs ks b d)
  | .returnStmt value => .returnStmt <$> Expr.walkLeavesOption v value
  | .delete targets => .delete <$> Expr.walkLeavesAll v targets
  | .assign targets value => do
    let ts ← Expr.walkLeavesAll v targets
    let e ← value.walkLeaves v
    pure (.assign ts e)
  | .augAssign target o value => do
    let t ← target.walkLeaves v
    let e ← value.walkLeaves v
    pure (.augAssign t o e)
  | .annAssign target hint value simple => do
    let t ← target.walkLeaves v
    let a ← hint.walkLeaves v
    let e ← Expr.walkLeavesOption v value
    pure (.annAssign t a e simple)
  | .forLoop target iter body orelse isAsync => do
    let t ← target.walkLeaves v
    let i ← iter.walkLeaves v
    let b ← Stmt.walkLeavesAll v body
    let o ← Stmt.walkLeavesAll v orelse
    pure (.forLoop t i b o isAsync)
  | .whileLoop test body orelse => do
    let t ← test.walkLeaves v
    let b ← Stmt.walkLeavesAll v body
    let o ← Stmt.walkLeavesAll v orelse
    pure (.whileLoop t b o)
  | .ifStmt test body orelse => do
    let t ← test.walkLeaves v
    let b ← Stmt.walkLeavesAll v body
    let o ← Stmt.walkLeavesAll v orelse
    pure (.ifStmt t b o)
  | .withBlock items body isAsync => do
    let ws ← items.mapM (WithItem.walkLeaves v)
    let b ← Stmt.walkLeavesAll v body
    pure (.withBlock ws b isAsync)
  | .matchStmt subject cases => do
    let s ← subject.walkLeaves v
    let cs ← MatchCase.walkLeavesAll v cases
    pure (.matchStmt s cs)
  | .raise exc cause => do
    let e ← Expr.walkLeavesOption v exc
    let c ← Expr.walkLeavesOption v cause
    pure (.raise e c)
  | .tryBlock body handlers orelse finalbody isStar => do
    let b ← Stmt.walkLeavesAll v body
    let hs ← Handler.walkLeavesAll v handlers
    let o ← Stmt.walkLeavesAll v orelse
    let f ← Stmt.walkLeavesAll v finalbody
    pure (.tryBlock b hs o f isStar)
  | .assert test msg => do
    let t ← test.walkLeaves v
    let e ← Expr.walkLeavesOption v msg
    pure (.assert t e)
  | .importNames names => do
    v.imports (.importNames names)
    pure (.importNames names)
  | .importFrom module names level => do
    v.imports (.importFrom module names level)
    pure (.importFrom module names level)
  | .global names => pure (.global names)
  | .nonlocal names => pure (.nonlocal names)
  | .expr value => .expr <$> value.walkLeaves v
  | .pass => pure .pass
  | .breakStmt => pure .breakStmt
  | .continueStmt => pure .continueStmt

def Stmt.walkLeavesAll (v : LeafVisit m) : List Stmt → m (List Stmt)
  | [] => pure []
  | s :: rest => do
    let s' ← s.walkLeaves v
    let rest' ← Stmt.walkLeavesAll v rest
    pure (s' :: rest')

def Handler.walkLeavesAll (v : LeafVisit m) : List Handler → m (List Handler)
  | [] => pure []
  | .mk type name body :: rest => do
    let t ← Expr.walkLeavesOption v type
    let b ← Stmt.walkLeavesAll v body
    let rest' ← Handler.walkLeavesAll v rest
    pure (.mk t name b :: rest')

def MatchCase.walkLeavesAll (v : LeafVisit m) : List MatchCase → m (List MatchCase)
  | [] => pure []
  | .mk pattern guard body :: rest => do
    let p ← pattern.walkLeaves v
    let g ← Expr.walkLeavesOption v guard
    let b ← Stmt.walkLeavesAll v body
    let rest' ← MatchCase.walkLeavesAll v rest
    pure (.mk p g b :: rest')

end

/-- What a definition walk does at each function definition: `visit` performs the effects on the
definition's name and body and gives the edit of its body; the walk goes on into the body first
when `descend` holds. -/
structure DefVisit (m : Type → Type) where
  visit : String → List Stmt → m (List Stmt → List Stmt)
  descend : Bool

mutual

/-- A statement with the function definitions in it visited. -/
def Stmt.walkDefs (v : DefVisit m) : Stmt → m Stmt
  | .functionDef name args body decorators returns false => do
    let edit ← v.visit name body
    let b ← if v.descend then Stmt.walkDefsAll v body else pure body
    pure (.functionDef name args (edit b) decorators returns false)
  | .functionDef name args body decorators returns true => do
    let b ← Stmt.walkDefsAll v body
    pure (.functionDef name args b decorators returns true)
  | .classDef name bases keywords body decorators => do
    let b ← Stmt.walkDefsAll v body
    pure (.classDef name bases keywords b decorators)
  | .forLoop target iter body orelse isAsync => do
    let b ← Stmt.walkDefsAll v body
    let o ← Stmt.walkDefsAll v orelse
    pure (.forLoop target iter b o isAsync)
  | .whileLoop test body orelse => do
    let b ← Stmt.walkDefsAll v body
    let o ← Stmt.walkDefsAll v orelse
    pure (.whileLoop test b o)
  | .ifStmt test body orelse => do
    let b ← Stmt.walkDefsAll v body
    let o ← Stmt.walkDefsAll v orelse
    pure (.ifStmt test b o)
  | .withBlock items body isAsync => do
    let b ← Stmt.walkDefsAll v body
    pure (.withBlock items b isAsync)
  | .matchStmt subject cases => .matchStmt subject <$> MatchCase.walkDefsAll v cases
  | .tryBlock body handlers orelse finalbody isStar => do
    let b ← Stmt.walkDefsAll v body
    let hs ← Handler.walkDefsAll v handlers
    let o ← Stmt.walkDefsAll v orelse
    let f ← Stmt.walkDefsAll v finalbody
    pure (.tryBlock b hs o f isStar)
  | s => pure s

def Stmt.walkDefsAll (v : DefVisit m) : List Stmt → m (List Stmt)
  | [] => pure []
  | s :: rest => do
    let s' ← s.walkDefs v
    let rest' ← Stmt.walkDefsAll v rest
    pure (s' :: rest')

def Handler.walkDefsAll (v : DefVisit m) : List Handler → m (List Handler)
  | [] => pure []
  | .mk type name body :: rest => do
    let b ← Stmt.walkDefsAll v body
    let rest' ← Handler.walkDefsAll v rest
    pure (.mk type name b :: rest')

def MatchCase.walkDefsAll (v : DefVisit m) : List MatchCase → m (List MatchCase)
  | [] => pure []
  | .mk pattern guard body :: rest => do
    let b ← Stmt.walkDefsAll v body
    let rest' ← MatchCase.walkDefsAll v rest
    pure (.mk pattern guard b :: rest')

end

end Obfuscation.Syntax
