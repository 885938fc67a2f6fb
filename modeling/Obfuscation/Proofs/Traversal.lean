import Obfuscation.Syntax.Walk
/-!
A leaf walk is a traversal. It meets the leaves of a module (names, string constants, string
parts of formatted strings, import statements) in one fixed order, visits each in turn, and puts
what the visits give back in their places. Here the leaves are listed in that order, putting back
is a walk of its own that takes replacements from a list, and every leaf walk, in every lawful
monad, is the visit of the listed leaves followed by putting back what they gave. What a leaf
walk does to the state of its monad is therefore what `List.mapM` over the leaves does.
-/

namespace Obfuscation.Syntax

/-- What a leaf walk meets: a name, a string constant, a string constant that is directly a part
of a formatted string, or an import statement. -/
inductive Leaf where
  | name (id : String)
  | text (t : Text) (u : Bool)
  | part (t : Text) (u : Bool)
  | imports (s : Stmt)

mutual

/-- The leaves of an expression, in the order a leaf walk meets them. -/
def Expr.leaves : Expr → List Leaf
  | .boolOp _ values => Expr.leavesAll values
  | .namedExpr target value => target.leaves ++ value.leaves
  | .binOp left _ right => left.leaves ++ right.leaves
  | .unaryOp _ operand => operand.leaves
  | .lambda args body => args.leaves ++ body.leaves
  | .ifExp test body orelse => test.leaves ++ body.leaves ++ orelse.leaves
  | .dict keys values => Expr.leavesOptions keys ++ Expr.leavesAll values
  | .set elts => Expr.leavesAll elts
  | .listComp elt gens => elt.leaves ++ Comprehension.leavesAll gens
  | .setComp elt gens => elt.leaves ++ Comprehension.leavesAll gens
  | .dictComp key value gens => key.leaves ++ value.leaves ++ Comprehension.leavesAll gens
  | .generatorExp elt gens => elt.leaves ++ Comprehension.leavesAll gens
  | .await value => value.leaves
  | .yield value => Expr.leavesOption value
  | .yieldFrom value => value.leaves
  | .compare left _ comparators => left.leaves ++ Expr.leavesAll comparators
  | .call func args keywords =>
    func.leaves ++ Expr.leavesAll args ++ Keyword.leavesAll keywords
  | .formattedValue value _ spec => value.leaves ++ Expr.leavesOption spec
  | .joinedStr values => Expr.partLeaves values
  | .constant (.str t u) => [.text t u]
  | .constant _ => []
  | .attribute value _ => value.leaves
  | .subscript value slice => value.leaves ++ slice.leaves
  | .starred value => value.leaves
  | .name id => [.name id]
  | .list elts => Expr.leavesAll elts
  | .tuple elts => Expr.leavesAll elts
  | .slice lower upper step =>
    Expr.leavesOption lower ++ Expr.leavesOption upper ++ Expr.leavesOption step

def Expr.leavesAll : List Expr → List Leaf
  | [] => []
  | e :: es => e.leaves ++ Expr.leavesAll es

def Expr.leavesOption : Option Expr → List Leaf
  | none => []
  | some e => e.leaves

def Expr.leavesOptions : List (Option Expr) → List Leaf
  | [] => []
  | o :: os => Expr.leavesOption o ++ Expr.leavesOptions os

def Expr.partLeaves : List Expr → List Leaf
  | [] => []
  | e :: es =>
    (match e with
      | .constant (.str t u) => [.part t u]
      | _ => e.leaves) ++ Expr.partLeaves es

def Comprehension.leavesAll : List Comprehension → List Leaf
  | [] => []
  | .mk target iter ifs _ :: rest =>
    target.leaves ++ iter.leaves ++ Expr.leavesAll ifs ++ Comprehension.leavesAll rest

def Keyword.leavesAll : List Keyword → List Leaf
  | [] => []
  | .mk _ value :: rest => value.leaves ++ Keyword.leavesAll rest

def Arg.leaves : Arg → List Leaf
  | .mk _ hint => Expr.leavesOption hint

def Arg.leavesAll : List Arg → List Leaf
  | [] => []
  | a :: rest => a.leaves ++ Arg.leavesAll rest

def Arg.leavesOption : Option Arg → List Leaf
  | none => []
  | some a => a.leaves

def Arguments.leaves : Arguments → List Leaf
  | .mk posOnly args vararg kwOnly kwDefaults kwarg defaults =>
    Arg.leavesAll posOnly ++ Arg.leavesAll args ++ Arg.leavesOption vararg ++
      Arg.leavesAll kwOnly ++ Expr.leavesOptions kwDefaults ++ Arg.leavesOption kwarg ++
      Expr.leavesAll defaults

end

mutual

def Pattern.leaves : Pattern → List Leaf
  | .value e => e.leaves
  | .singleton _ => []
  | .sequence ps => Pattern.leavesAll ps
  | .mapping keys ps _ => Expr.leavesAll keys ++ Pattern.leavesAll ps
  | .classPattern cls ps _ kps => cls.leaves ++ Pattern.leavesAll ps ++ Pattern.leavesAll kps
  | .star _ => []
  | .capture none _ => []
  | .capture (some p) _ => p.leaves
  | .alternatives ps => Pattern.leavesAll ps

def Pattern.leavesAll : List Pattern → List Leaf
  | [] => []
  | p :: ps => p.leaves ++ Pattern.leavesAll ps

end

def WithItem.leaves (w : WithItem) : List Leaf := w.context.leaves ++ Expr.leavesOption w.vars

mutual

/-- The leaves of a statement, in the order a leaf walk meets them; an import statement is a
leaf itself. -/
def Stmt.leaves : Stmt → List Leaf
  | .functionDef _ args body decorators returns _ =>
    args.leaves ++ Stmt.leavesAll body ++ Expr.leavesAll decorators ++ Expr.leavesOption returns
  | .classDef _ bases keywords body decorators =>
    Expr.leavesAll bases ++ Keyword.leavesAll keywords ++ Stmt.leavesAll body ++
      Expr.leavesAll decorators
  | .returnStmt value => Expr.leavesOption value
  | .delete targets => Expr.leavesAll targets
  | .assign targets value => Expr.leavesAll targets ++ value.leaves
  | .augAssign target _ value => target.leaves ++ value.leaves
  | .annAssign target hint value _ => target.leaves ++ hint.leaves ++ Expr.leavesOption value
  | .forLoop target iter body orelse _ =>
    target.leaves ++ iter.leaves ++ Stmt.leavesAll body ++ Stmt.leavesAll orelse
  | .whileLoop test body orelse => test.leaves ++ Stmt.leavesAll body ++ Stmt.leavesAll orelse
  | .ifStmt test body orelse => test.leaves ++ Stmt.leavesAll body ++ Stmt.leavesAll orelse
  | .withBlock items body _ => items.flatMap WithItem.leaves ++ Stmt.leavesAll body
  | .matchStmt subject cases => subject.leaves ++ MatchCase.leavesAll cases
  | .raise exc cause => Expr.leavesOption exc ++ Expr.leavesOption cause
  | .tryBlock body handlers orelse finalbody _ =>
    Stmt.leavesAll body ++ Handler.leavesAll handlers ++ Stmt.leavesAll orelse ++
      Stmt.leavesAll finalbody
  | .assert test msg => test.leaves ++ Expr.leavesOption msg
  | .importNames names => [.imports (.importNames names)]
  | .importFrom module names level => [.imports (.importFrom module names level)]
  | .global _ => []
  | .nonlocal _ => []
  | .expr value => value.leaves
  | .pass => []
  | .breakStmt => []
  | .continueStmt => []

def Stmt.leavesAll : List Stmt → List Leaf
  | [] => []
  | s :: rest => s.leaves ++ Stmt.leavesAll rest

def Handler.leavesAll : List Handler → List Leaf
  | [] => []
  | .mk type _ body :: rest => Expr.leavesOption type ++ Stmt.leavesAll body ++ Handler.leavesAll rest

def MatchCase.leavesAll : List MatchCase → List Leaf
  | [] => []
  | .mk pattern guard body :: rest =>
    pattern.leaves ++ Expr.leavesOption guard ++ Stmt.leavesAll body ++ MatchCase.leavesAll rest

end

section Visit

variable {m : Type → Type} [Monad m]

def LeafVisit.leaf (v : LeafVisit m) : Leaf → m (Option Expr)
  | .name id => some <$> v.name id
  | .text t u => some <$> v.text t u
  | .part t u => some <$> v.part t u
  | .imports s => (fun _ => none) <$> v.imports s

end Visit

def takeNext (d : Expr) : StateM (List (Option Expr)) Expr :=
  modifyGet fun rs => ((rs.head?.join).getD d, rs.tail)

/-- The visit that puts back replacements taken in order from a list: each name and string
constant takes the next one, and each import uses one up. -/
def refill : LeafVisit (StateM (List (Option Expr))) where
  name id := takeNext (.name id)
  text t u := takeNext (.constant (.str t u))
  part t u := takeNext (.constant (.str t u))
  imports _ := modify List.tail

/-- A body with the replacements `rs` put in the places of its leaves, in order. -/
def Stmt.fillAll (ss : List Stmt) (rs : List (Option Expr)) : List Stmt :=
  ((Stmt.walkLeavesAll refill ss).run rs).1

section Traversal

variable {m : Type → Type} [Monad m] [LawfulMonad m] {ι ρ : Type} (visit : ι → m ρ)

/-- The computation `x` visits the items `L` in order and gives back what `y` builds from what the
visits gave; `y` uses up one result for each item. -/
structure Traverses {α : Type} (x : m α) (y : StateM (List ρ) α) (L : List ι) : Prop where
  visits : x = (fun rs => (y.run rs).1) <$> L.mapM visit
  takes : ∀ rs rest, rs.length = L.length → y.run (rs ++ rest) = ((y.run rs).1, rest)

omit [LawfulMonad m] in
theorem mapM_bind_congr {α β γ : Type} [LawfulMonad m] {f : α → m β} {k k' : List β → m γ} :
    ∀ l : List α, (∀ rs, rs.length = l.length → k rs = k' rs) →
      l.mapM f >>= k = l.mapM f >>= k'
  | [], same => by simp [same [] rfl]
  | a :: l, same => by
    simp only [List.mapM_cons, bind_assoc, pure_bind]
    congr 1
    funext b
    exact mapM_bind_congr l fun rs length => same (b :: rs) (by simp [length])

theorem stateRun_bind {σ α β : Type} (y : StateM σ α) (g : α → StateM σ β) (s : σ) :
    (y >>= g).run s = (g (y.run s).1).run (y.run s).2 := rfl

theorem stateRun_map {σ α β : Type} (h : α → β) (y : StateM σ α) (s : σ) :
    (h <$> y).run s = (h (y.run s).1, (y.run s).2) := rfl

variable {visit}

theorem Traverses.pure {α : Type} (a : α) : Traverses visit (pure a) (pure a) [] where
  visits := by
    simp only [List.mapM_nil, map_pure]
    rfl
  takes rs rest length := by
    cases rs with
    | nil => rfl
    | cons => simp at length

theorem Traverses.bind {α β : Type} {x : m α} {y : StateM (List ρ) α} {f : α → m β}
    {g : α → StateM (List ρ) β} {L₁ L₂ : List ι} (first : Traverses visit x y L₁)
    (rest : ∀ a, Traverses visit (f a) (g a) L₂) :
    Traverses visit (x >>= f) (y >>= g) (L₁ ++ L₂) where
  visits := by
    rw [first.visits, bind_map_left, List.mapM_append, map_bind]
    apply mapM_bind_congr L₁
    intro r₁ length
    rw [(rest _).visits, map_eq_pure_bind, map_bind]
    congr 1
    funext r₂
    rw [map_pure, stateRun_bind, first.takes r₁ r₂ length]
  takes rs tail length := by
    have total : rs.length = L₁.length + L₂.length := by simpa using length
    have split : rs = rs.take L₁.length ++ rs.drop L₁.length := (List.take_append_drop _ _).symm
    have length₁ : (rs.take L₁.length).length = L₁.length := by simp; omega
    have length₂ : (rs.drop L₁.length).length = L₂.length := by simp; omega
    rw [split, List.append_assoc, stateRun_bind, first.takes _ _ length₁, (rest _).takes _ _ length₂,
      stateRun_bind, first.takes _ _ length₁]

theorem Traverses.map {α β : Type} {x : m α} {y : StateM (List ρ) α} {L : List ι}
    (h : α → β) (t : Traverses visit x y L) : Traverses visit (h <$> x) (h <$> y) L where
  visits := by rw [t.visits, Functor.map_map]; rfl
  takes rs rest length := by rw [stateRun_map, stateRun_map, t.takes rs rest length]

theorem Traverses.bindPure {α β : Type} {x : m α} {y : StateM (List ρ) α}
    {L : List ι} (h : α → β) (t : Traverses visit x y L) :
    Traverses visit (x >>= fun a => Pure.pure (h a)) (y >>= fun a => Pure.pure (h a)) L := by
  simpa only [bind_pure_comp] using t.map h

end Traversal

section Leaves

variable {m : Type → Type} [Monad m] [LawfulMonad m] (v : LeafVisit m)

theorem Traverses.leaf {α : Type} {x : m α} {y : StateM (List (Option Expr)) α} {l : Leaf}
    {f : α → Option Expr} (visit : v.leaf l = f <$> x) (back : ∀ a, (y.run [f a]).1 = a)
    (takes : ∀ r rest, y.run (r :: rest) = ((y.run [r]).1, rest)) : Traverses v.leaf x y [l] where
  visits := by
    simp only [List.mapM_cons, List.mapM_nil, visit, map_pure, bind_pure_comp, Functor.map_map,
      back]
    exact (id_map x).symm
  takes rs rest length := by
    match rs, length with
    | [r], _ => exact takes r rest

theorem Traverses.name (id : String) : Traverses v.leaf (v.name id) (refill.name id) [.name id] :=
  .leaf v rfl (fun _ => rfl) (fun _ _ => rfl)

theorem Traverses.text (t : Text) (u : Bool) :
    Traverses v.leaf (v.text t u) (refill.text t u) [.text t u] :=
  .leaf v rfl (fun _ => rfl) (fun _ _ => rfl)

theorem Traverses.part (t : Text) (u : Bool) :
    Traverses v.leaf (v.part t u) (refill.part t u) [.part t u] :=
  .leaf v rfl (fun _ => rfl) (fun _ _ => rfl)

theorem Traverses.imports (s : Stmt) : Traverses v.leaf (v.imports s) (refill.imports s) [.imports s] :=
  .leaf v rfl (fun _ => rfl) (fun _ _ => rfl)

end Leaves

section Walks

variable {m : Type → Type} [Monad m] [LawfulMonad m] (v : LeafVisit m)

mutual

theorem Expr.walkLeaves_traverses :
    ∀ e : Expr, Traverses v.leaf (e.walkLeaves v) (e.walkLeaves refill) e.leaves
  | .boolOp o values => by
    simp only [Expr.walkLeaves, Expr.leaves]
    exact (Expr.walkLeavesAll_traverses values).map _
  | .namedExpr target value => by
    simp only [Expr.walkLeaves, Expr.leaves]
    exact (Expr.walkLeaves_traverses target).bind fun _ =>
      (Expr.walkLeaves_traverses value).bindPure _
  | .binOp left o right => by
    simp only [Expr.walkLeaves, Expr.leaves]
    exact (Expr.walkLeaves_traverses left).bind fun _ =>
      (Expr.walkLeaves_traverses right).bindPure _
  | .unaryOp o operand => by
    simp only [Expr.walkLeaves, Expr.leaves]
    exact (Expr.walkLeaves_traverses operand).map _
  | .lambda args body => by
    simp only [Expr.walkLeaves, Expr.leaves]
    exact (Arguments.walkLeaves_traverses args).bind fun _ =>
      (Expr.walkLeaves_traverses body).bindPure _
  | .ifExp test body orelse => by
    simp only [Expr.walkLeaves, Expr.leaves, List.append_assoc]
    exact (Expr.walkLeaves_traverses test).bind fun _ =>
      (Expr.walkLeaves_traverses body).bind fun _ => (Expr.walkLeaves_traverses orelse).bindPure _
  | .dict keys values => by
    simp only [Expr.walkLeaves, Expr.leaves]
    exact (Expr.walkLeavesOptions_traverses keys).bind fun _ =>
      (Expr.walkLeavesAll_traverses values).bindPure _
  | .set elts => by
    simp only [Expr.walkLeaves, Expr.leaves]
    exact (Expr.walkLeavesAll_traverses elts).map _
  | .listComp elt gens => by
    simp only [Expr.walkLeaves, Expr.leaves]
    exact (Expr.walkLeaves_traverses elt).bind fun _ =>
      (Comprehension.walkLeavesAll_traverses gens).bindPure _
  | .setComp elt gens => by
    simp only [Expr.walkLeaves, Expr.leaves]
    exact (Expr.walkLeaves_traverses elt).bind fun _ =>
      (Comprehension.walkLeavesAll_traverses gens).bindPure _
  | .dictComp key value gens => by
    simp only [Expr.walkLeaves, Expr.leaves, List.append_assoc]
    exact (Expr.walkLeaves_traverses key).bind fun _ => (Expr.walkLeaves_traverses value).bind
      fun _ => (Comprehension.walkLeavesAll_traverses gens).bindPure _
  | .generatorExp elt gens => by
    simp only [Expr.walkLeaves, Expr.leaves]
    exact (Expr.walkLeaves_traverses elt).bind fun _ =>
      (Comprehension.walkLeavesAll_traverses gens).bindPure _
  | .await value => by
    simp only [Expr.walkLeaves, Expr.leaves]
    exact (Expr.walkLeaves_traverses value).map _
  | .yield value => by
    simp only [Expr.walkLeaves, Expr.leaves]
    exact (Expr.walkLeavesOption_traverses value).map _
  | .yieldFrom value => by
    simp only [Expr.walkLeaves, Expr.leaves]
    exact (Expr.walkLeaves_traverses value).map _
  | .compare left ops comparators => by
    simp only [Expr.walkLeaves, Expr.leaves]
    exact (Expr.walkLeaves_traverses left).bind fun _ =>
      (Expr.walkLeavesAll_traverses comparators).bindPure _
  | .call func args keywords => by
    simp only [Expr.walkLeaves, Expr.leaves, List.append_assoc]
    exact (Expr.walkLeaves_traverses func).bind fun _ => (Expr.walkLeavesAll_traverses args).bind
      fun _ => (Keyword.walkLeavesAll_traverses keywords).bindPure _
  | .formattedValue value conversion spec => by
    simp only [Expr.walkLeaves, Expr.leaves]
    exact (Expr.walkLeaves_traverses value).bind fun _ =>
      (Expr.walkLeavesOption_traverses spec).bindPure _
  | .joinedStr values => by
    simp only [Expr.walkLeaves, Expr.leaves]
    exact (Expr.walkParts_traverses values).map _
  | .constant c => by
    cases c with
    | str t u => exact Traverses.text v t u
    | _ => exact Traverses.pure _
  | .attribute value attr => by
    simp only [Expr.walkLeaves, Expr.leaves]
    exact (Expr.walkLeaves_traverses value).map _
  | .subscript value slice => by
    simp only [Expr.walkLeaves, Expr.leaves]
    exact (Expr.walkLeaves_traverses value).bind fun _ =>
      (Expr.walkLeaves_traverses slice).bindPure _
  | .starred value => by
    simp only [Expr.walkLeaves, Expr.leaves]
    exact (Expr.walkLeaves_traverses value).map _
  | .name id => Traverses.name v id
  | .list elts => by
    simp only [Expr.walkLeaves, Expr.leaves]
    exact (Expr.walkLeavesAll_traverses elts).map _
  | .tuple elts => by
    simp only [Expr.walkLeaves, Expr.leaves]
    exact (Expr.walkLeavesAll_traverses elts).map _
  | .slice lower upper step => by
    simp only [Expr.walkLeaves, Expr.leaves, List.append_assoc]
    exact (Expr.walkLeavesOption_traverses lower).bind fun _ =>
      (Expr.walkLeavesOption_traverses upper).bind fun _ =>
        (Expr.walkLeavesOption_traverses step).bindPure _

theorem Expr.walkLeavesAll_traverses :
    ∀ es : List Expr, Traverses v.leaf (Expr.walkLeavesAll v es) (Expr.walkLeavesAll refill es)
      (Expr.leavesAll es)
  | [] => Traverses.pure _
  | e :: es => by
    simp only [Expr.walkLeavesAll, Expr.leavesAll]
    exact (Expr.walkLeaves_traverses e).bind fun _ => (Expr.walkLeavesAll_traverses es).bindPure _

theorem Expr.walkLeavesOption_traverses :
    ∀ o : Option Expr, Traverses v.leaf (Expr.walkLeavesOption v o) (Expr.walkLeavesOption refill o)
      (Expr.leavesOption o)
  | none => Traverses.pure _
  | some e => by
    simp only [Expr.walkLeavesOption, Expr.leavesOption]
    exact (Expr.walkLeaves_traverses e).map _

theorem Expr.walkLeavesOptions_traverses :
    ∀ os : List (Option Expr), Traverses v.leaf (Expr.walkLeavesOptions v os)
      (Expr.walkLeavesOptions refill os) (Expr.leavesOptions os)
  | [] => Traverses.pure _
  | o :: os => by
    simp only [Expr.walkLeavesOptions, Expr.leavesOptions]
    exact (Expr.walkLeavesOption_traverses o).bind fun _ =>
      (Expr.walkLeavesOptions_traverses os).bindPure _

theorem Expr.walkParts_traverses :
    ∀ es : List Expr, Traverses v.leaf (Expr.walkParts v es) (Expr.walkParts refill es)
      (Expr.partLeaves es)
  | [] => Traverses.pure _
  | e :: es => by
    have inner := Expr.walkLeaves_traverses e
    have rest := Expr.walkParts_traverses es
    -- a string constant is a part leaf; every other part is walked as an expression
    cases e with
    | constant c =>
      cases c with
      | str t u =>
        simp only [Expr.walkParts, Expr.partLeaves]
        exact (Traverses.part v t u).bind fun _ => rest.bindPure _
      | _ =>
        simp only [Expr.walkParts, Expr.partLeaves]
        exact inner.bind fun _ => rest.bindPure _
    | _ =>
      simp only [Expr.walkParts, Expr.partLeaves]
      exact inner.bind fun _ => rest.bindPure _

theorem Comprehension.walkLeavesAll_traverses :
    ∀ gens : List Comprehension, Traverses v.leaf (Comprehension.walkLeavesAll v gens)
      (Comprehension.walkLeavesAll refill gens) (Comprehension.leavesAll gens)
  | [] => Traverses.pure _
  | .mk target iter ifs isAsync :: rest => by
    simp only [Comprehension.walkLeavesAll, Comprehension.leavesAll, List.append_assoc]
    exact (Expr.walkLeaves_traverses target).bind fun _ => (Expr.walkLeaves_traverses iter).bind
      fun _ => (Expr.walkLeavesAll_traverses ifs).bind fun _ =>
        (Comprehension.walkLeavesAll_traverses rest).bindPure _

theorem Keyword.walkLeavesAll_traverses :
    ∀ ks : List Keyword, Traverses v.leaf (Keyword.walkLeavesAll v ks) (Keyword.walkLeavesAll refill ks)
      (Keyword.leavesAll ks)
  | [] => Traverses.pure _
  | .mk name value :: rest => by
    simp only [Keyword.walkLeavesAll, Keyword.leavesAll]
    exact (Expr.walkLeaves_traverses value).bind fun _ =>
      (Keyword.walkLeavesAll_traverses rest).bindPure _

theorem Arg.walkLeaves_traverses :
    ∀ a : Arg, Traverses v.leaf (a.walkLeaves v) (a.walkLeaves refill) a.leaves
  | .mk name hint => by
    simp only [Arg.walkLeaves, Arg.leaves]
    exact (Expr.walkLeavesOption_traverses hint).map _

theorem Arg.walkLeavesAll_traverses :
    ∀ as : List Arg, Traverses v.leaf (Arg.walkLeavesAll v as) (Arg.walkLeavesAll refill as)
      (Arg.leavesAll as)
  | [] => Traverses.pure _
  | a :: rest => by
    simp only [Arg.walkLeavesAll, Arg.leavesAll]
    exact (Arg.walkLeaves_traverses a).bind fun _ => (Arg.walkLeavesAll_traverses rest).bindPure _

theorem Arg.walkLeavesOption_traverses :
    ∀ o : Option Arg, Traverses v.leaf (Arg.walkLeavesOption v o) (Arg.walkLeavesOption refill o)
      (Arg.leavesOption o)
  | none => Traverses.pure _
  | some a => by
    simp only [Arg.walkLeavesOption, Arg.leavesOption]
    exact (Arg.walkLeaves_traverses a).map _

theorem Arguments.walkLeaves_traverses :
    ∀ a : Arguments, Traverses v.leaf (a.walkLeaves v) (a.walkLeaves refill) a.leaves
  | .mk posOnly args vararg kwOnly kwDefaults kwarg defaults => by
    simp only [Arguments.walkLeaves, Arguments.leaves, List.append_assoc]
    exact (Arg.walkLeavesAll_traverses posOnly).bind fun _ =>
      (Arg.walkLeavesAll_traverses args).bind fun _ =>
      (Arg.walkLeavesOption_traverses vararg).bind fun _ =>
      (Arg.walkLeavesAll_traverses kwOnly).bind fun _ =>
      (Expr.walkLeavesOptions_traverses kwDefaults).bind fun _ =>
      (Arg.walkLeavesOption_traverses kwarg).bind fun _ =>
      (Expr.walkLeavesAll_traverses defaults).bindPure _

end

mutual

theorem Pattern.walkLeaves_traverses :
    ∀ p : Pattern, Traverses v.leaf (p.walkLeaves v) (p.walkLeaves refill) p.leaves
  | .value e => by
    simp only [Pattern.walkLeaves, Pattern.leaves]
    exact (Expr.walkLeaves_traverses v e).map _
  | .singleton c => Traverses.pure _
  | .sequence ps => by
    simp only [Pattern.walkLeaves, Pattern.leaves]
    exact (Pattern.walkLeavesAll_traverses ps).map _
  | .mapping keys ps rest => by
    simp only [Pattern.walkLeaves, Pattern.leaves]
    exact (Expr.walkLeavesAll_traverses v keys).bind fun _ =>
      (Pattern.walkLeavesAll_traverses ps).bindPure _
  | .classPattern cls ps attrs kps => by
    simp only [Pattern.walkLeaves, Pattern.leaves, List.append_assoc]
    exact (Expr.walkLeaves_traverses v cls).bind fun _ =>
      (Pattern.walkLeavesAll_traverses ps).bind fun _ =>
        (Pattern.walkLeavesAll_traverses kps).bindPure _
  | .star name => Traverses.pure _
  | .capture none name => Traverses.pure _
  | .capture (some p) name => by
    simp only [Pattern.walkLeaves, Pattern.leaves]
    exact (Pattern.walkLeaves_traverses p).bindPure _
  | .alternatives ps => by
    simp only [Pattern.walkLeaves, Pattern.leaves]
    exact (Pattern.walkLeavesAll_traverses ps).map _

theorem Pattern.walkLeavesAll_traverses :
    ∀ ps : List Pattern, Traverses v.leaf (Pattern.walkLeavesAll v ps) (Pattern.walkLeavesAll refill ps)
      (Pattern.leavesAll ps)
  | [] => Traverses.pure _
  | p :: ps => by
    simp only [Pattern.walkLeavesAll, Pattern.leavesAll]
    exact (Pattern.walkLeaves_traverses p).bind fun _ =>
      (Pattern.walkLeavesAll_traverses ps).bindPure _

end

theorem WithItem.walkLeaves_traverses (w : WithItem) :
    Traverses v.leaf (w.walkLeaves v) (w.walkLeaves refill) w.leaves := by
  simp only [WithItem.walkLeaves, WithItem.leaves]
  exact (Expr.walkLeaves_traverses v w.context).bind fun _ =>
    (Expr.walkLeavesOption_traverses v w.vars).bindPure _

theorem WithItem.mapM_traverses :
    ∀ items : List WithItem, Traverses v.leaf (items.mapM (WithItem.walkLeaves v))
      (items.mapM (WithItem.walkLeaves refill)) (items.flatMap WithItem.leaves)
  | [] => by simpa using (Traverses.pure [] : Traverses v.leaf (pure ([] : List WithItem)) (pure []) [])
  | w :: rest => by
    simp only [List.mapM_cons, List.flatMap_cons]
    exact (WithItem.walkLeaves_traverses v w).bind fun _ =>
      (WithItem.mapM_traverses rest).bindPure _

mutual

theorem Stmt.walkLeaves_traverses :
    ∀ s : Stmt, Traverses v.leaf (s.walkLeaves v) (s.walkLeaves refill) s.leaves
  | .functionDef name args body decorators returns isAsync => by
    simp only [Stmt.walkLeaves, Stmt.leaves, List.append_assoc]
    exact (Arguments.walkLeaves_traverses v args).bind fun _ =>
      (Stmt.walkLeavesAll_traverses body).bind fun _ =>
      (Expr.walkLeavesAll_traverses v decorators).bind fun _ =>
      (Expr.walkLeavesOption_traverses v returns).bindPure _
  | .classDef name bases keywords body decorators => by
    simp only [Stmt.walkLeaves, Stmt.leaves, List.append_assoc]
    exact (Expr.walkLeavesAll_traverses v bases).bind fun _ =>
      (Keyword.walkLeavesAll_traverses v keywords).bind fun _ =>
      (Stmt.walkLeavesAll_traverses body).bind fun _ =>
      (Expr.walkLeavesAll_traverses v decorators).bindPure _
  | .returnStmt value => by
    simp only [Stmt.walkLeaves, Stmt.leaves]
    exact (Expr.walkLeavesOption_traverses v value).map _
  | .delete targets => by
    simp only [Stmt.walkLeaves, Stmt.leaves]
    exact (Expr.walkLeavesAll_traverses v targets).map _
  | .assign targets value => by
    simp only [Stmt.walkLeaves, Stmt.leaves]
    exact (Expr.walkLeavesAll_traverses v targets).bind fun _ =>
      (Expr.walkLeaves_traverses v value).bindPure _
  | .augAssign target o value => by
    simp only [Stmt.walkLeaves, Stmt.leaves]
    exact (Expr.walkLeaves_traverses v target).bind fun _ =>
      (Expr.walkLeaves_traverses v value).bindPure _
  | .annAssign target hint value simple => by
    simp only [Stmt.walkLeaves, Stmt.leaves, List.append_assoc]
    exact (Expr.walkLeaves_traverses v target).bind fun _ =>
      (Expr.walkLeaves_traverses v hint).bind fun _ =>
      (Expr.walkLeavesOption_traverses v value).bindPure _
  | .forLoop target iter body orelse isAsync => by
    simp only [Stmt.walkLeaves, Stmt.leaves, List.append_assoc]
    exact (Expr.walkLeaves_traverses v target).bind fun _ =>
      (Expr.walkLeaves_traverses v iter).bind fun _ =>
      (Stmt.walkLeavesAll_traverses body).bind fun _ =>
      (Stmt.walkLeavesAll_traverses orelse).bindPure _
  | .whileLoop test body orelse => by
    simp only [Stmt.walkLeaves, Stmt.leaves, List.append_assoc]
    exact (Expr.walkLeaves_traverses v test).bind fun _ =>
      (Stmt.walkLeavesAll_traverses body).bind fun _ =>
      (Stmt.walkLeavesAll_traverses orelse).bindPure _
  | .ifStmt test body orelse => by
    simp only [Stmt.walkLeaves, Stmt.leaves, List.append_assoc]
    exact (Expr.walkLeaves_traverses v test).bind fun _ =>
      (Stmt.walkLeavesAll_traverses body).bind fun _ =>
      (Stmt.walkLeavesAll_traverses orelse).bindPure _
  | .withBlock items body isAsync => by
    simp only [Stmt.walkLeaves, Stmt.leaves]
    exact (WithItem.mapM_traverses v items).bind fun _ =>
      (Stmt.walkLeavesAll_traverses body).bindPure _
  | .matchStmt subject cases => by
    simp only [Stmt.walkLeaves, Stmt.leaves]
    exact (Expr.walkLeaves_traverses v subject).bind fun _ =>
      (MatchCase.walkLeavesAll_traverses cases).bindPure _
  | .raise exc cause => by
    simp only [Stmt.walkLeaves, Stmt.leaves]
    exact (Expr.walkLeavesOption_traverses v exc).bind fun _ =>
      (Expr.walkLeavesOption_traverses v cause).bindPure _
  | .tryBlock body handlers orelse finalbody isStar => by
    simp only [Stmt.walkLeaves, Stmt.leaves, List.append_assoc]
    exact (Stmt.walkLeavesAll_traverses body).bind fun _ =>
      (Handler.walkLeavesAll_traverses handlers).bind fun _ =>
      (Stmt.walkLeavesAll_traverses orelse).bind fun _ =>
      (Stmt.walkLeavesAll_traverses finalbody).bindPure _
  | .assert test msg => by
    simp only [Stmt.walkLeaves, Stmt.leaves]
    exact (Expr.walkLeaves_traverses v test).bind fun _ =>
      (Expr.walkLeavesOption_traverses v msg).bindPure _
  | .importNames names => by
    simp only [Stmt.walkLeaves, Stmt.leaves]
    exact (Traverses.imports v _).bindPure _
  | .importFrom module names level => by
    simp only [Stmt.walkLeaves, Stmt.leaves]
    exact (Traverses.imports v _).bindPure _
  | .global names => Traverses.pure _
  | .nonlocal names => Traverses.pure _
  | .expr value => by
    simp only [Stmt.walkLeaves, Stmt.leaves]
    exact (Expr.walkLeaves_traverses v value).map _
  | .pass => Traverses.pure _
  | .breakStmt => Traverses.pure _
  | .continueStmt => Traverses.pure _

theorem Stmt.walkLeavesAll_traverses :
    ∀ ss : List Stmt, Traverses v.leaf (Stmt.walkLeavesAll v ss) (Stmt.walkLeavesAll refill ss)
      (Stmt.leavesAll ss)
  | [] => Traverses.pure _
  | s :: rest => by
    simp only [Stmt.walkLeavesAll, Stmt.leavesAll]
    exact (Stmt.walkLeaves_traverses s).bind fun _ =>
      (Stmt.walkLeavesAll_traverses rest).bindPure _

theorem Handler.walkLeavesAll_traverses :
    ∀ hs : List Handler, Traverses v.leaf (Handler.walkLeavesAll v hs)
      (Handler.walkLeavesAll refill hs) (Handler.leavesAll hs)
  | [] => Traverses.pure _
  | .mk type name body :: rest => by
    simp only [Handler.walkLeavesAll, Handler.leavesAll, List.append_assoc]
    exact (Expr.walkLeavesOption_traverses v type).bind fun _ =>
      (Stmt.walkLeavesAll_traverses body).bind fun _ =>
      (Handler.walkLeavesAll_traverses rest).bindPure _

theorem MatchCase.walkLeavesAll_traverses :
    ∀ cs : List MatchCase, Traverses v.leaf (MatchCase.walkLeavesAll v cs)
      (MatchCase.walkLeavesAll refill cs) (MatchCase.leavesAll cs)
  | [] => Traverses.pure _
  | .mk pattern guard body :: rest => by
    simp only [MatchCase.walkLeavesAll, MatchCase.leavesAll, List.append_assoc]
    exact (Pattern.walkLeaves_traverses v pattern).bind fun _ =>
      (Expr.walkLeavesOption_traverses v guard).bind fun _ =>
      (Stmt.walkLeavesAll_traverses body).bind fun _ =>
      (MatchCase.walkLeavesAll_traverses rest).bindPure _

end

/-- A leaf walk of a body visits its leaves in order and puts back what the visits gave. -/
theorem Stmt.walkLeavesAll_eq_fillAll (ss : List Stmt) :
    Stmt.walkLeavesAll v ss = Stmt.fillAll ss <$> (Stmt.leavesAll ss).mapM v.leaf :=
  (Stmt.walkLeavesAll_traverses v ss).visits

end Walks

end Obfuscation.Syntax
