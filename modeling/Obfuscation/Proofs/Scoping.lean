import Obfuscation.Proofs.Execution
import Obfuscation.Pass.Rename
/-!
Scopes, as the compiler's symbol table sees them. A scan lists, for every block, what happens to
names in it in the symbol table's order: used, bound, imported, declared global or nonlocal. Two
rules of the compiler are rules on these lists (`ScopeRules`), and a name neither bound nor
declared resolves through the enclosing functions to the module (`Block.resolvesGlobal`).
-/

namespace Obfuscation.Syntax

/-- What happens to a name at one point of a block. `bind` is an assignment, a deletion, an
annotation, a definition, a parameter or a name caught by `except`, `with` or `case`; an import
binds too, but a later declaration may follow it. -/
inductive Event where
  | use (x : String)
  | bind (x : String)
  | imported (x : String)
  | declareGlobal (x : String)
  | declareNonlocal (x : String)
  deriving DecidableEq, Repr

inductive BlockKind where
  | module
  | function
  | classBody
  | lambda
  | comprehension
  deriving DecidableEq, Repr

structure Frame where
  kind : BlockKind
  events : List Event
  deriving DecidableEq, Repr

/-- A block: its events and the blocks around it, innermost first. -/
structure Block where
  kind : BlockKind
  events : List Event
  enclosing : List Frame
  deriving DecidableEq, Repr

def Block.frame (b : Block) : Frame := ⟨b.kind, b.events⟩

def Block.within (f : Frame) (b : Block) : Block := { b with enclosing := b.enclosing ++ [f] }

def Block.open (kind : BlockKind) (events : List Event) (inner : List Block) : List Block :=
  ⟨kind, events, []⟩ :: inner.map (Block.within ⟨kind, events⟩)

/-- What a scan finds: the events of the block it is in; the assignment-expression targets of a
comprehension, bound further out; and the blocks inside, their frames up to the block it is in. -/
structure Scan where
  events : List Event
  hoisted : List Event
  blocks : List Block

instance : Append Scan where
  append a b := ⟨a.events ++ b.events, a.hoisted ++ b.hoisted, a.blocks ++ b.blocks⟩

def Scan.empty : Scan := ⟨[], [], []⟩

def Scan.ofEvents (events : List Event) : Scan := ⟨events, [], []⟩

def Scan.block (kind : BlockKind) (start : List Event) (inner : Scan) : Scan :=
  ⟨[], [], Block.open kind (start ++ inner.events ++ inner.hoisted) inner.blocks⟩

/-- A comprehension holding what `inner` found; the targets of its assignment expressions go to
the enclosing block, or further out from a comprehension. -/
def Scan.comprehension (inComp : Bool) (inner : Scan) : Scan :=
  if inComp then ⟨[], inner.hoisted, Block.open .comprehension inner.events inner.blocks⟩
  else ⟨inner.hoisted, [], Block.open .comprehension inner.events inner.blocks⟩

/-- The target of an assignment expression, bound further out when it stands in a
comprehension. -/
def Scan.hoist (inComp : Bool) (s : Scan) : Scan :=
  if inComp then ⟨[], s.events ++ s.hoisted, s.blocks⟩ else s

mutual

/-- The scan of an expression in a comprehension or not, as an assignment target or not. -/
def Expr.scan (inComp target : Bool) : Expr → Scan
  | .boolOp _ values => Expr.scanAll inComp false values
  | .namedExpr t value => Scan.hoist inComp (t.scan inComp true) ++ value.scan inComp false
  | .binOp left _ right => left.scan inComp false ++ right.scan inComp false
  | .unaryOp _ operand => operand.scan inComp false
  | .lambda args body =>
    Arguments.scan inComp args ++ Scan.block .lambda (args.names.map .bind) (body.scan false false)
  | .ifExp test body orelse =>
    test.scan inComp false ++ body.scan inComp false ++ orelse.scan inComp false
  | .dict keys values => Expr.scanOptions inComp keys ++ Expr.scanAll inComp false values
  | .set elts => Expr.scanAll inComp false elts
  | .listComp elt gens => Comprehension.scan inComp (elt.scan true false) gens
  | .setComp elt gens => Comprehension.scan inComp (elt.scan true false) gens
  | .dictComp key value gens =>
    Comprehension.scan inComp (key.scan true false ++ value.scan true false) gens
  | .generatorExp elt gens => Comprehension.scan inComp (elt.scan true false) gens
  | .await value => value.scan inComp false
  | .yield value => Expr.scanOption inComp false value
  | .yieldFrom value => value.scan inComp false
  | .compare left _ comparators => left.scan inComp false ++ Expr.scanAll inComp false comparators
  | .call func args keywords =>
    func.scan inComp false ++ Expr.scanAll inComp false args ++ Keyword.scanAll inComp keywords
  | .formattedValue value _ spec => value.scan inComp false ++ Expr.scanOption inComp false spec
  | .joinedStr values => Expr.scanAll inComp false values
  | .constant _ => Scan.empty
  | .attribute value _ => value.scan inComp false
  | .subscript value slice => value.scan inComp false ++ slice.scan inComp false
  | .starred value => value.scan inComp target
  | .name id => Scan.ofEvents [if target then .bind id else .use id]
  | .list elts => Expr.scanAll inComp target elts
  | .tuple elts => Expr.scanAll inComp target elts
  | .slice lower upper step =>
    Expr.scanOption inComp false lower ++ Expr.scanOption inComp false upper ++
      Expr.scanOption inComp false step

def Expr.scanAll (inComp target : Bool) : List Expr → Scan
  | [] => Scan.empty
  | e :: es => e.scan inComp target ++ Expr.scanAll inComp target es

def Expr.scanOption (inComp target : Bool) : Option Expr → Scan
  | none => Scan.empty
  | some e => e.scan inComp target

def Expr.scanOptions (inComp : Bool) : List (Option Expr) → Scan
  | [] => Scan.empty
  | o :: os => Expr.scanOption inComp false o ++ Expr.scanOptions inComp os

/-- A comprehension over `elements`: its first iterable is evaluated in the enclosing block, the
rest in a block of its own. -/
def Comprehension.scan (inComp : Bool) (elements : Scan) : List Comprehension → Scan
  | [] => Scan.comprehension inComp elements
  | .mk target iter ifs _ :: rest =>
    iter.scan inComp false ++ Scan.comprehension inComp
      (target.scan true true ++ Expr.scanAll true false ifs ++ Comprehension.scanInner rest ++
        elements)

def Comprehension.scanInner : List Comprehension → Scan
  | [] => Scan.empty
  | .mk target iter ifs _ :: rest =>
    target.scan true true ++ iter.scan true false ++ Expr.scanAll true false ifs ++
      Comprehension.scanInner rest

def Keyword.scanAll (inComp : Bool) : List Keyword → Scan
  | [] => Scan.empty
  | .mk _ value :: rest => value.scan inComp false ++ Keyword.scanAll inComp rest

def Arg.scanAll (inComp : Bool) : List Arg → Scan
  | [] => Scan.empty
  | .mk _ hint :: rest => Expr.scanOption inComp false hint ++ Arg.scanAll inComp rest

def Arg.scanOption (inComp : Bool) : Option Arg → Scan
  | none => Scan.empty
  | some (.mk _ hint) => Expr.scanOption inComp false hint

/-- What a parameter list evaluates where its function is defined: defaults and annotations. -/
def Arguments.scan (inComp : Bool) : Arguments → Scan
  | .mk posOnly args vararg kwOnly kwDefaults kwarg defaults =>
    Expr.scanAll inComp false defaults ++ Expr.scanOptions inComp kwDefaults ++
      Arg.scanAll inComp posOnly ++ Arg.scanAll inComp args ++ Arg.scanOption inComp vararg ++
      Arg.scanAll inComp kwOnly ++ Arg.scanOption inComp kwarg

end

mutual

def Pattern.scan : Pattern → Scan
  | .value e => e.scan false false
  | .singleton _ => Scan.empty
  | .sequence ps => Pattern.scanAll ps
  | .mapping keys ps rest =>
    Expr.scanAll false false keys ++ Pattern.scanAll ps ++ Scan.ofEvents (rest.toList.map .bind)
  | .classPattern cls ps _ kps => cls.scan false false ++ Pattern.scanAll ps ++ Pattern.scanAll kps
  | .star name => Scan.ofEvents (name.toList.map .bind)
  | .capture none name => Scan.ofEvents (name.toList.map .bind)
  | .capture (some p) name => p.scan ++ Scan.ofEvents (name.toList.map .bind)
  | .alternatives ps => Pattern.scanAll ps

def Pattern.scanAll : List Pattern → Scan
  | [] => Scan.empty
  | p :: ps => p.scan ++ Pattern.scanAll ps

end

def WithItem.scanAll : List WithItem → Scan
  | [] => Scan.empty
  | w :: rest => w.context.scan false false ++ Expr.scanOption false true w.vars ++ WithItem.scanAll rest

mutual

def Stmt.scan : Stmt → Scan
  | .functionDef name args body decorators returns _ =>
    Scan.ofEvents [.bind name] ++ Arguments.scan false args ++ Expr.scanAll false false decorators ++
      Expr.scanOption false false returns ++
      Scan.block .function (args.names.map .bind) (Stmt.scanAll body)
  | .classDef name bases keywords body decorators =>
    Scan.ofEvents [.bind name] ++ Expr.scanAll false false bases ++ Keyword.scanAll false keywords ++
      Expr.scanAll false false decorators ++ Scan.block .classBody [] (Stmt.scanAll body)
  | .returnStmt value => Expr.scanOption false false value
  | .delete targets => Expr.scanAll false true targets
  | .assign targets value => Expr.scanAll false true targets ++ value.scan false false
  | .augAssign target _ value => target.scan false true ++ value.scan false false
  | .annAssign target hint value _ =>
    target.scan false true ++ hint.scan false false ++ Expr.scanOption false false value
  | .forLoop target iter body orelse _ =>
    target.scan false true ++ iter.scan false false ++ Stmt.scanAll body ++ Stmt.scanAll orelse
  | .whileLoop test body orelse => test.scan false false ++ Stmt.scanAll body ++ Stmt.scanAll orelse
  | .ifStmt test body orelse => test.scan false false ++ Stmt.scanAll body ++ Stmt.scanAll orelse
  | .withBlock items body _ => WithItem.scanAll items ++ Stmt.scanAll body
  | .matchStmt subject cases => subject.scan false false ++ MatchCase.scanAll cases
  | .raise exc cause => Expr.scanOption false false exc ++ Expr.scanOption false false cause
  | .tryBlock body handlers orelse finalbody _ =>
    Stmt.scanAll body ++ Stmt.scanAll orelse ++ Handler.scanAll handlers ++ Stmt.scanAll finalbody
  | .assert test msg => test.scan false false ++ Expr.scanOption false false msg
  | .importNames names => Scan.ofEvents (names.map fun a => .imported (Pass.recordedName a true))
  | .importFrom _ names _ => Scan.ofEvents (names.map fun a => .imported (Pass.recordedName a false))
  | .global names => Scan.ofEvents (names.map .declareGlobal)
  | .nonlocal names => Scan.ofEvents (names.map .declareNonlocal)
  | .expr value => value.scan false false
  | .pass => Scan.empty
  | .breakStmt => Scan.empty
  | .continueStmt => Scan.empty

def Stmt.scanAll : List Stmt → Scan
  | [] => Scan.empty
  | s :: rest => s.scan ++ Stmt.scanAll rest

def Handler.scanAll : List Handler → Scan
  | [] => Scan.empty
  | .mk type name body :: rest =>
    Expr.scanOption false false type ++ Scan.ofEvents (name.toList.map .bind) ++ Stmt.scanAll body ++
      Handler.scanAll rest

def MatchCase.scanAll : List MatchCase → Scan
  | [] => Scan.empty
  | .mk pattern guard body :: rest =>
    pattern.scan ++ Expr.scanOption false false guard ++ Stmt.scanAll body ++ MatchCase.scanAll rest

end

/-- The blocks of a module: the module itself first, then the blocks inside it. -/
def Module.blocks (m : Module) : List Block := (Scan.block .module [] (Stmt.scanAll m)).blocks

def Arg.name : Arg → String
  | .mk name _ => name

theorem Arguments.names_mk (posOnly args : List Arg) (vararg : Option Arg) (kwOnly : List Arg)
    (kwDefaults : List (Option Expr)) (kwarg : Option Arg) (defaults : List Expr) :
    (Arguments.mk posOnly args vararg kwOnly kwDefaults kwarg defaults).names =
      (posOnly ++ args ++ vararg.toList ++ kwOnly ++ kwarg.toList).map Arg.name := by
  simp only [Arguments.names]
  congr 1

/-! The rules -/

def Event.name : Event → String
  | .use x | .bind x | .imported x | .declareGlobal x | .declareNonlocal x => x

def Event.isTouch : Event → Bool
  | .use _ | .bind _ => true
  | _ => false

def Event.isDeclaration : Event → Bool
  | .declareGlobal _ | .declareNonlocal _ => true
  | _ => false

/-- No name is used or assigned in a block before a declaration of it there. -/
def Event.declaredFirst : List Event → Bool
  | [] => true
  | e :: rest =>
    (!e.isTouch || !rest.any fun d => d.isDeclaration && d.name == e.name) && Event.declaredFirst rest

def Frame.binds (f : Frame) (x : String) : Bool := f.events.contains (.bind x) || f.events.contains (.imported x)

def Frame.declaresGlobal (f : Frame) (x : String) : Bool := f.events.contains (.declareGlobal x)

def Frame.declaresNonlocal (f : Frame) (x : String) : Bool := f.events.contains (.declareNonlocal x)

/-- Whether a name declared nonlocal finds its binding in an enclosing function: class bodies are
passed over, a function declaring the name global hides it, one declaring it nonlocal sends the
search on, and the module ends it. -/
def Frame.nonlocalFound (x : String) : List Frame → Bool
  | [] => false
  | f :: rest =>
    match f.kind with
    | .module => false
    | .classBody => Frame.nonlocalFound x rest
    | _ =>
      if f.declaresGlobal x then false
      else if f.declaresNonlocal x then Frame.nonlocalFound x rest
      else f.binds x || Frame.nonlocalFound x rest

/-- Every name the block declares nonlocal is bound in an enclosing function. -/
def Block.nonlocalsBound (b : Block) : Bool :=
  b.events.all fun
    | .declareNonlocal x => Frame.nonlocalFound x b.enclosing
    | _ => true

/-- The compiler's scoping rules in every block of a module. -/
def ScopeRules (m : Module) : Prop :=
  ∀ b ∈ Module.blocks m, Event.declaredFirst b.events = true ∧ b.nonlocalsBound = true

instance (m : Module) : Decidable (ScopeRules m) := inferInstanceAs (Decidable (∀ b ∈ _, _))

def Module.declaredNames (m : Module) : List String :=
  (Module.blocks m).flatMap fun b => (b.events.filter Event.isDeclaration).map Event.name

def Module.nonlocalFree (m : Module) : Bool :=
  (Module.blocks m).all fun b => b.events.all fun e => e != .declareNonlocal e.name

/-! Resolution -/

/-- Whether a name free in a block resolves, through the enclosing blocks, to the module: class
bodies are passed over, and a function that binds it or declares it nonlocal holds it. -/
def Frame.resolvesGlobal (x : String) : List Frame → Bool
  | [] => true
  | f :: rest =>
    match f.kind with
    | .module => true
    | .classBody => Frame.resolvesGlobal x rest
    | _ =>
      if f.declaresGlobal x then true
      else if f.declaresNonlocal x || f.binds x then false
      else Frame.resolvesGlobal x rest

/-- Whether a use of `x` in the block refers to the module's `x`. -/
def Block.resolvesGlobal (b : Block) (x : String) : Bool :=
  match b.kind with
  | .module => true
  | _ =>
    if b.frame.declaresGlobal x then true
    else if b.frame.declaresNonlocal x || b.frame.binds x then false
    else Frame.resolvesGlobal x b.enclosing

end Obfuscation.Syntax
