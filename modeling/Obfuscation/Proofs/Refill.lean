import Mathlib.Data.List.Forall2
import Obfuscation.Proofs.Traversal
/-!
The leaves of a module with replacements put back: those of the module, each replaced by the leaves
of what is put in its place, provided no name is replaced by a string constant. The proof follows
the traversal.
-/

namespace Obfuscation.Syntax

def Expr.isString : Expr → Bool
  | .constant (.str _ _) => true
  | _ => false

def Leaf.Fits : Leaf → Option Expr → Prop
  | .name _, some e => e.isString = false
  | _, _ => True

/-- The leaves that stand in the place of the leaf `ℓ` once `r` is put there: those of the
expression put in, read as a part of a formatted string where `ℓ` was one, or `ℓ` itself when
nothing is put in; an import statement stays. -/
def Leaf.refilled : Leaf → Option Expr → List Leaf
  | .name _, some e => e.leaves
  | .text _ _, some e => e.leaves
  | .part _ _, some e => Expr.partLeaves [e]
  | .imports s, _ => [.imports s]
  | ℓ, none => [ℓ]

theorem Expr.partLeaves_cons (e : Expr) (es : List Expr) :
    Expr.partLeaves (e :: es) = Expr.partLeaves [e] ++ Expr.partLeaves es := by
  simp [Expr.partLeaves]

theorem Expr.partLeaves_cons_of_isString {e : Expr} (plain : e.isString = false) (es : List Expr) :
    Expr.partLeaves (e :: es) = e.leaves ++ Expr.partLeaves es := by
  cases e with
  | constant c =>
    cases c with
    | str t u => cases plain
    | _ => rfl
  | _ => rfl

theorem forall₂_singleton {α β : Type} {R : α → β → Prop} {a : α} {rs : List β}
    (fits : List.Forall₂ R [a] rs) : ∃ b, rs = [b] ∧ R a b := by
  cases fits with
  | cons head tail =>
    cases tail
    exact ⟨_, rfl, head⟩

theorem forall₂_append_left {α β : Type} {R : α → β → Prop} {L₁ L₂ : List α} {rs : List β}
    (fits : List.Forall₂ R (L₁ ++ L₂) rs) :
    List.Forall₂ R L₁ (rs.take L₁.length) ∧ List.Forall₂ R L₂ (rs.drop L₁.length) := by
  constructor
  · simpa using List.forall₂_take L₁.length fits
  · simpa using List.forall₂_drop L₁.length fits

theorem refilled_append {L₁ L₂ : List Leaf} {rs : List (Option Expr)}
    (fits : List.Forall₂ Leaf.Fits L₁ (rs.take L₁.length)) :
    (List.zipWith Leaf.refilled (L₁ ++ L₂) rs).flatten =
      (List.zipWith Leaf.refilled L₁ (rs.take L₁.length)).flatten ++
        (List.zipWith Leaf.refilled L₂ (rs.drop L₁.length)).flatten := by
  conv_lhs => rw [← List.take_append_drop L₁.length rs]
  rw [List.zipWith_append fits.length_eq, List.flatten_append]

section Refill

/-- Run on replacements `rs` that fit the leaves `L`, followed by any others, `y` takes exactly
`rs` and gives a value that meets `P` with the leaves `L` refilled by `rs`. -/
def Refills {α : Type} (y : StateM (List (Option Expr)) α) (L : List Leaf)
    (P : α → List Leaf → Prop) : Prop :=
  ∀ rs rest, List.Forall₂ Leaf.Fits L rs →
    P (y.run (rs ++ rest)).1 (List.zipWith Leaf.refilled L rs).flatten ∧
      (y.run (rs ++ rest)).2 = rest

variable {α β : Type} {L L₁ L₂ : List Leaf}

theorem Refills.pure {a : α} {P : α → List Leaf → Prop} (holds : P a []) :
    Refills (Pure.pure a) [] P := by
  intro rs rest fits
  cases fits
  exact ⟨holds, rfl⟩

theorem Refills.bind {y : StateM (List (Option Expr)) α} {g : α → StateM (List (Option Expr)) β}
    {Q : α → List Leaf → Prop} {P : β → List Leaf → Prop} (first : Refills y L₁ Q)
    (rest : ∀ a K, Q a K → Refills (g a) L₂ fun b K' => P b (K ++ K')) :
    Refills (y >>= g) (L₁ ++ L₂) P := by
  intro rs tail fits
  obtain ⟨fits₁, fits₂⟩ := forall₂_append_left fits
  -- the first run takes the replacements of its own leaves and hands the others on
  obtain ⟨ran, left⟩ := first _ (rs.drop L₁.length ++ tail) fits₁
  rw [← List.append_assoc, List.take_append_drop] at ran left
  obtain ⟨ran₂, left₂⟩ := rest _ _ ran _ tail fits₂
  rw [stateRun_bind, left, refilled_append fits₁]
  exact ⟨ran₂, left₂⟩

theorem Refills.bindPure {y : StateM (List (Option Expr)) α} {Q : α → List Leaf → Prop}
    {P : β → List Leaf → Prop} (h : α → β) (first : Refills y L Q)
    (post : ∀ a K, Q a K → P (h a) K) : Refills (y >>= fun a => Pure.pure (h a)) L P := by
  intro rs rest fits
  obtain ⟨ran, left⟩ := first rs rest fits
  exact ⟨post _ _ ran, left⟩

theorem Refills.map {y : StateM (List (Option Expr)) α} {Q : α → List Leaf → Prop}
    {P : β → List Leaf → Prop} (h : α → β) (first : Refills y L Q)
    (post : ∀ a K, Q a K → P (h a) K) : Refills (h <$> y) L P := by
  intro rs rest fits
  obtain ⟨ran, left⟩ := first rs rest fits
  exact ⟨post _ _ ran, left⟩

/-- What refilling an expression gives: its leaves, and no string constant in the place of
anything but one. -/
def Expr.Refilled (e e' : Expr) (K : List Leaf) : Prop :=
  e'.leaves = K ∧ (e.isString = false → e'.isString = false)

theorem Refills.name (id : String) :
    Refills (refill.name id) [.name id] (Expr.Refilled (.name id)) := by
  intro rs rest fits
  obtain ⟨r, rfl, fit⟩ := forall₂_singleton fits
  cases r with
  | none => exact ⟨⟨rfl, fun _ => rfl⟩, rfl⟩
  | some e => exact ⟨⟨(List.append_nil _).symm, fun _ => fit⟩, rfl⟩

theorem Refills.text (t : Text) (u : Bool) :
    Refills (refill.text t u) [.text t u] (Expr.Refilled (.constant (.str t u))) := by
  intro rs rest fits
  obtain ⟨r, rfl, -⟩ := forall₂_singleton fits
  cases r with
  | none => exact ⟨⟨rfl, fun plain => plain⟩, rfl⟩
  | some e =>
    refine ⟨⟨(List.append_nil _).symm, fun plain => ?_⟩, rfl⟩
    cases plain

theorem Refills.part (t : Text) (u : Bool) :
    Refills (refill.part t u) [.part t u] fun e K => Expr.partLeaves [e] = K := by
  intro rs rest fits
  obtain ⟨r, rfl, -⟩ := forall₂_singleton fits
  cases r with
  | none => exact ⟨rfl, rfl⟩
  | some e => exact ⟨(List.append_nil _).symm, rfl⟩

theorem Refills.imports (s : Stmt) :
    Refills (refill.imports s) [.imports s] fun _ K => K = [.imports s] := by
  intro rs rest fits
  obtain ⟨r, rfl, -⟩ := forall₂_singleton fits
  cases r <;> exact ⟨rfl, rfl⟩

end Refill

section Walks

mutual

theorem Expr.walkLeaves_refills :
    ∀ e : Expr, Refills (e.walkLeaves refill) e.leaves (Expr.Refilled e)
  | .boolOp o values => by
    simp only [Expr.walkLeaves, Expr.leaves]
    exact (Expr.walkLeavesAll_refills values).map _ fun _ _ h => ⟨h, fun _ => rfl⟩
  | .namedExpr target value => by
    simp only [Expr.walkLeaves, Expr.leaves]
    exact (Expr.walkLeaves_refills target).bind fun _ _ h₁ =>
      (Expr.walkLeaves_refills value).bindPure _ fun _ _ h₂ =>
        ⟨by rw [Expr.leaves, h₁.1, h₂.1], fun _ => rfl⟩
  | .binOp left o right => by
    simp only [Expr.walkLeaves, Expr.leaves]
    exact (Expr.walkLeaves_refills left).bind fun _ _ h₁ =>
      (Expr.walkLeaves_refills right).bindPure _ fun _ _ h₂ =>
        ⟨by rw [Expr.leaves, h₁.1, h₂.1], fun _ => rfl⟩
  | .unaryOp o operand => by
    simp only [Expr.walkLeaves, Expr.leaves]
    exact (Expr.walkLeaves_refills operand).map _ fun _ _ h => ⟨h.1, fun _ => rfl⟩
  | .lambda args body => by
    simp only [Expr.walkLeaves, Expr.leaves]
    exact (Arguments.walkLeaves_refills args).bind fun _ _ h₁ =>
      (Expr.walkLeaves_refills body).bindPure _ fun _ _ h₂ =>
        ⟨by rw [Expr.leaves, h₁, h₂.1], fun _ => rfl⟩
  | .ifExp test body orelse => by
    simp only [Expr.walkLeaves, Expr.leaves, List.append_assoc]
    exact (Expr.walkLeaves_refills test).bind fun _ _ h₁ =>
      (Expr.walkLeaves_refills body).bind fun _ _ h₂ =>
      (Expr.walkLeaves_refills orelse).bindPure _ fun _ _ h₃ =>
        ⟨by rw [Expr.leaves, h₁.1, h₂.1, h₃.1, List.append_assoc], fun _ => rfl⟩
  | .dict keys values => by
    simp only [Expr.walkLeaves, Expr.leaves]
    exact (Expr.walkLeavesOptions_refills keys).bind fun _ _ h₁ =>
      (Expr.walkLeavesAll_refills values).bindPure _ fun _ _ h₂ =>
        ⟨by rw [Expr.leaves, h₁, h₂], fun _ => rfl⟩
  | .set elts => by
    simp only [Expr.walkLeaves, Expr.leaves]
    exact (Expr.walkLeavesAll_refills elts).map _ fun _ _ h => ⟨h, fun _ => rfl⟩
  | .listComp elt gens => by
    simp only [Expr.walkLeaves, Expr.leaves]
    exact (Expr.walkLeaves_refills elt).bind fun _ _ h₁ =>
      (Comprehension.walkLeavesAll_refills gens).bindPure _ fun _ _ h₂ =>
        ⟨by rw [Expr.leaves, h₁.1, h₂], fun _ => rfl⟩
  | .setComp elt gens => by
    simp only [Expr.walkLeaves, Expr.leaves]
    exact (Expr.walkLeaves_refills elt).bind fun _ _ h₁ =>
      (Comprehension.walkLeavesAll_refills gens).bindPure _ fun _ _ h₂ =>
        ⟨by rw [Expr.leaves, h₁.1, h₂], fun _ => rfl⟩
  | .dictComp key value gens => by
    simp only [Expr.walkLeaves, Expr.leaves, List.append_assoc]
    exact (Expr.walkLeaves_refills key).bind fun _ _ h₁ =>
      (Expr.walkLeaves_refills value).bind fun _ _ h₂ =>
      (Comprehension.walkLeavesAll_refills gens).bindPure _ fun _ _ h₃ =>
        ⟨by rw [Expr.leaves, h₁.1, h₂.1, h₃, List.append_assoc], fun _ => rfl⟩
  | .generatorExp elt gens => by
    simp only [Expr.walkLeaves, Expr.leaves]
    exact (Expr.walkLeaves_refills elt).bind fun _ _ h₁ =>
      (Comprehension.walkLeavesAll_refills gens).bindPure _ fun _ _ h₂ =>
        ⟨by rw [Expr.leaves, h₁.1, h₂], fun _ => rfl⟩
  | .await value => by
    simp only [Expr.walkLeaves, Expr.leaves]
    exact (Expr.walkLeaves_refills value).map _ fun _ _ h => ⟨h.1, fun _ => rfl⟩
  | .yield value => by
    simp only [Expr.walkLeaves, Expr.leaves]
    exact (Expr.walkLeavesOption_refills value).map _ fun _ _ h => ⟨h, fun _ => rfl⟩
  | .yieldFrom value => by
    simp only [Expr.walkLeaves, Expr.leaves]
    exact (Expr.walkLeaves_refills value).map _ fun _ _ h => ⟨h.1, fun _ => rfl⟩
  | .compare left ops comparators => by
    simp only [Expr.walkLeaves, Expr.leaves]
    exact (Expr.walkLeaves_refills left).bind fun _ _ h₁ =>
      (Expr.walkLeavesAll_refills comparators).bindPure _ fun _ _ h₂ =>
        ⟨by rw [Expr.leaves, h₁.1, h₂], fun _ => rfl⟩
  | .call func args keywords => by
    simp only [Expr.walkLeaves, Expr.leaves, List.append_assoc]
    exact (Expr.walkLeaves_refills func).bind fun _ _ h₁ =>
      (Expr.walkLeavesAll_refills args).bind fun _ _ h₂ =>
      (Keyword.walkLeavesAll_refills keywords).bindPure _ fun _ _ h₃ =>
        ⟨by rw [Expr.leaves, h₁.1, h₂, h₃, List.append_assoc], fun _ => rfl⟩
  | .formattedValue value conversion spec => by
    simp only [Expr.walkLeaves, Expr.leaves]
    exact (Expr.walkLeaves_refills value).bind fun _ _ h₁ =>
      (Expr.walkLeavesOption_refills spec).bindPure _ fun _ _ h₂ =>
        ⟨by rw [Expr.leaves, h₁.1, h₂], fun _ => rfl⟩
  | .joinedStr values => by
    simp only [Expr.walkLeaves, Expr.leaves]
    exact (Expr.walkParts_refills values).map _ fun _ _ h => ⟨h, fun _ => rfl⟩
  | .constant c => by
    cases c with
    | str t u => exact Refills.text t u
    | _ => exact Refills.pure ⟨rfl, fun _ => rfl⟩
  | .attribute value attr => by
    simp only [Expr.walkLeaves, Expr.leaves]
    exact (Expr.walkLeaves_refills value).map _ fun _ _ h => ⟨h.1, fun _ => rfl⟩
  | .subscript value slice => by
    simp only [Expr.walkLeaves, Expr.leaves]
    exact (Expr.walkLeaves_refills value).bind fun _ _ h₁ =>
      (Expr.walkLeaves_refills slice).bindPure _ fun _ _ h₂ =>
        ⟨by rw [Expr.leaves, h₁.1, h₂.1], fun _ => rfl⟩
  | .starred value => by
    simp only [Expr.walkLeaves, Expr.leaves]
    exact (Expr.walkLeaves_refills value).map _ fun _ _ h => ⟨h.1, fun _ => rfl⟩
  | .name id => Refills.name id
  | .list elts => by
    simp only [Expr.walkLeaves, Expr.leaves]
    exact (Expr.walkLeavesAll_refills elts).map _ fun _ _ h => ⟨h, fun _ => rfl⟩
  | .tuple elts => by
    simp only [Expr.walkLeaves, Expr.leaves]
    exact (Expr.walkLeavesAll_refills elts).map _ fun _ _ h => ⟨h, fun _ => rfl⟩
  | .slice lower upper step => by
    simp only [Expr.walkLeaves, Expr.leaves, List.append_assoc]
    exact (Expr.walkLeavesOption_refills lower).bind fun _ _ h₁ =>
      (Expr.walkLeavesOption_refills upper).bind fun _ _ h₂ =>
      (Expr.walkLeavesOption_refills step).bindPure _ fun _ _ h₃ =>
        ⟨by rw [Expr.leaves, h₁, h₂, h₃, List.append_assoc], fun _ => rfl⟩

theorem Expr.walkLeavesAll_refills :
    ∀ es : List Expr, Refills (Expr.walkLeavesAll refill es) (Expr.leavesAll es)
      fun es' K => Expr.leavesAll es' = K
  | [] => Refills.pure rfl
  | e :: es => by
    simp only [Expr.walkLeavesAll, Expr.leavesAll]
    exact (Expr.walkLeaves_refills e).bind fun _ _ h₁ =>
      (Expr.walkLeavesAll_refills es).bindPure _ fun _ _ h₂ => by rw [Expr.leavesAll, h₁.1, h₂]

theorem Expr.walkLeavesOption_refills :
    ∀ o : Option Expr, Refills (Expr.walkLeavesOption refill o) (Expr.leavesOption o)
      fun o' K => Expr.leavesOption o' = K
  | none => Refills.pure rfl
  | some e => by
    simp only [Expr.walkLeavesOption, Expr.leavesOption]
    exact (Expr.walkLeaves_refills e).map _ fun _ _ h => h.1

theorem Expr.walkLeavesOptions_refills :
    ∀ os : List (Option Expr), Refills (Expr.walkLeavesOptions refill os) (Expr.leavesOptions os)
      fun os' K => Expr.leavesOptions os' = K
  | [] => Refills.pure rfl
  | o :: os => by
    simp only [Expr.walkLeavesOptions, Expr.leavesOptions]
    exact (Expr.walkLeavesOption_refills o).bind fun _ _ h₁ =>
      (Expr.walkLeavesOptions_refills os).bindPure _ fun _ _ h₂ =>
        by rw [Expr.leavesOptions, h₁, h₂]

theorem Expr.walkParts_refills :
    ∀ es : List Expr, Refills (Expr.walkParts refill es) (Expr.partLeaves es)
      fun es' K => Expr.partLeaves es' = K
  | [] => Refills.pure rfl
  | e :: es => by
    have inner := Expr.walkLeaves_refills e
    have rest := Expr.walkParts_refills es
    -- a string constant is a part leaf; every other part is walked as an expression, and what
    -- it gives is no string constant, so it still reads as an expression
    cases e with
    | constant c =>
      cases c with
      | str t u =>
        simp only [Expr.walkParts, Expr.partLeaves]
        exact (Refills.part t u).bind fun _ _ h₁ =>
          rest.bindPure _ fun _ _ h₂ => by rw [Expr.partLeaves_cons, h₁, h₂]
      | _ =>
        simp only [Expr.walkParts, Expr.partLeaves]
        exact inner.bind fun _ _ h₁ => rest.bindPure _ fun _ _ h₂ => by
          rw [Expr.partLeaves_cons_of_isString (h₁.2 rfl), h₁.1, h₂]
    | _ =>
      simp only [Expr.walkParts, Expr.partLeaves]
      exact inner.bind fun _ _ h₁ => rest.bindPure _ fun _ _ h₂ => by
        rw [Expr.partLeaves_cons_of_isString (h₁.2 rfl), h₁.1, h₂]

theorem Comprehension.walkLeavesAll_refills :
    ∀ gens : List Comprehension, Refills (Comprehension.walkLeavesAll refill gens)
      (Comprehension.leavesAll gens) fun gens' K => Comprehension.leavesAll gens' = K
  | [] => Refills.pure rfl
  | .mk target iter ifs isAsync :: rest => by
    simp only [Comprehension.walkLeavesAll, Comprehension.leavesAll, List.append_assoc]
    exact (Expr.walkLeaves_refills target).bind fun _ _ h₁ =>
      (Expr.walkLeaves_refills iter).bind fun _ _ h₂ =>
      (Expr.walkLeavesAll_refills ifs).bind fun _ _ h₃ =>
      (Comprehension.walkLeavesAll_refills rest).bindPure _ fun _ _ h₄ => by
        rw [Comprehension.leavesAll, h₁.1, h₂.1, h₃, h₄]
        simp only [List.append_assoc]

theorem Keyword.walkLeavesAll_refills :
    ∀ ks : List Keyword, Refills (Keyword.walkLeavesAll refill ks) (Keyword.leavesAll ks)
      fun ks' K => Keyword.leavesAll ks' = K
  | [] => Refills.pure rfl
  | .mk name value :: rest => by
    simp only [Keyword.walkLeavesAll, Keyword.leavesAll]
    exact (Expr.walkLeaves_refills value).bind fun _ _ h₁ =>
      (Keyword.walkLeavesAll_refills rest).bindPure _ fun _ _ h₂ =>
        by rw [Keyword.leavesAll, h₁.1, h₂]

theorem Arg.walkLeaves_refills :
    ∀ a : Arg, Refills (a.walkLeaves refill) a.leaves fun a' K => a'.leaves = K
  | .mk name hint => by
    simp only [Arg.walkLeaves, Arg.leaves]
    exact (Expr.walkLeavesOption_refills hint).map _ fun _ _ h => h

theorem Arg.walkLeavesAll_refills :
    ∀ as : List Arg, Refills (Arg.walkLeavesAll refill as) (Arg.leavesAll as)
      fun as' K => Arg.leavesAll as' = K
  | [] => Refills.pure rfl
  | a :: rest => by
    simp only [Arg.walkLeavesAll, Arg.leavesAll]
    exact (Arg.walkLeaves_refills a).bind fun _ _ h₁ =>
      (Arg.walkLeavesAll_refills rest).bindPure _ fun _ _ h₂ => by rw [Arg.leavesAll, h₁, h₂]

theorem Arg.walkLeavesOption_refills :
    ∀ o : Option Arg, Refills (Arg.walkLeavesOption refill o) (Arg.leavesOption o)
      fun o' K => Arg.leavesOption o' = K
  | none => Refills.pure rfl
  | some a => by
    simp only [Arg.walkLeavesOption, Arg.leavesOption]
    exact (Arg.walkLeaves_refills a).map _ fun _ _ h => h

theorem Arguments.walkLeaves_refills :
    ∀ a : Arguments, Refills (a.walkLeaves refill) a.leaves fun a' K => a'.leaves = K
  | .mk posOnly args vararg kwOnly kwDefaults kwarg defaults => by
    simp only [Arguments.walkLeaves, Arguments.leaves, List.append_assoc]
    exact (Arg.walkLeavesAll_refills posOnly).bind fun _ _ h₁ =>
      (Arg.walkLeavesAll_refills args).bind fun _ _ h₂ =>
      (Arg.walkLeavesOption_refills vararg).bind fun _ _ h₃ =>
      (Arg.walkLeavesAll_refills kwOnly).bind fun _ _ h₄ =>
      (Expr.walkLeavesOptions_refills kwDefaults).bind fun _ _ h₅ =>
      (Arg.walkLeavesOption_refills kwarg).bind fun _ _ h₆ =>
      (Expr.walkLeavesAll_refills defaults).bindPure _ fun _ _ h₇ => by
        rw [Arguments.leaves, h₁, h₂, h₃, h₄, h₅, h₆, h₇]
        simp only [List.append_assoc]

end

mutual

theorem Pattern.walkLeaves_refills :
    ∀ p : Pattern, Refills (p.walkLeaves refill) p.leaves fun p' K => p'.leaves = K
  | .value e => by
    simp only [Pattern.walkLeaves, Pattern.leaves]
    exact (Expr.walkLeaves_refills e).map _ fun _ _ h => h.1
  | .singleton c => Refills.pure rfl
  | .sequence ps => by
    simp only [Pattern.walkLeaves, Pattern.leaves]
    exact (Pattern.walkLeavesAll_refills ps).map _ fun _ _ h => h
  | .mapping keys ps rest => by
    simp only [Pattern.walkLeaves, Pattern.leaves]
    exact (Expr.walkLeavesAll_refills keys).bind fun _ _ h₁ =>
      (Pattern.walkLeavesAll_refills ps).bindPure _ fun _ _ h₂ => by rw [Pattern.leaves, h₁, h₂]
  | .classPattern cls ps attrs kps => by
    simp only [Pattern.walkLeaves, Pattern.leaves, List.append_assoc]
    exact (Expr.walkLeaves_refills cls).bind fun _ _ h₁ =>
      (Pattern.walkLeavesAll_refills ps).bind fun _ _ h₂ =>
      (Pattern.walkLeavesAll_refills kps).bindPure _ fun _ _ h₃ => by
        rw [Pattern.leaves, h₁.1, h₂, h₃, List.append_assoc]
  | .star name => Refills.pure rfl
  | .capture none name => Refills.pure rfl
  | .capture (some p) name => by
    simp only [Pattern.walkLeaves, Pattern.leaves]
    exact (Pattern.walkLeaves_refills p).bindPure _ fun _ _ h => h
  | .alternatives ps => by
    simp only [Pattern.walkLeaves, Pattern.leaves]
    exact (Pattern.walkLeavesAll_refills ps).map _ fun _ _ h => h

theorem Pattern.walkLeavesAll_refills :
    ∀ ps : List Pattern, Refills (Pattern.walkLeavesAll refill ps) (Pattern.leavesAll ps)
      fun ps' K => Pattern.leavesAll ps' = K
  | [] => Refills.pure rfl
  | p :: ps => by
    simp only [Pattern.walkLeavesAll, Pattern.leavesAll]
    exact (Pattern.walkLeaves_refills p).bind fun _ _ h₁ =>
      (Pattern.walkLeavesAll_refills ps).bindPure _ fun _ _ h₂ => by rw [Pattern.leavesAll, h₁, h₂]

end

theorem WithItem.walkLeaves_refills (w : WithItem) :
    Refills (w.walkLeaves refill) w.leaves fun w' K => w'.leaves = K := by
  simp only [WithItem.walkLeaves, WithItem.leaves]
  exact (Expr.walkLeaves_refills w.context).bind fun _ _ h₁ =>
    (Expr.walkLeavesOption_refills w.vars).bindPure _ fun _ _ h₂ => by simp only [h₁.1, h₂]

theorem WithItem.mapM_refills :
    ∀ items : List WithItem, Refills (items.mapM (WithItem.walkLeaves refill))
      (items.flatMap WithItem.leaves) fun items' K => items'.flatMap WithItem.leaves = K
  | [] => by simpa using (Refills.pure rfl : Refills (Pure.pure ([] : List WithItem)) []
      fun items' K => items'.flatMap WithItem.leaves = K)
  | w :: rest => by
    simp only [List.mapM_cons, List.flatMap_cons]
    exact (WithItem.walkLeaves_refills w).bind fun _ _ h₁ =>
      (WithItem.mapM_refills rest).bindPure _ fun _ _ h₂ => by rw [List.flatMap_cons, h₁, h₂]

mutual

theorem Stmt.walkLeaves_refills :
    ∀ s : Stmt, Refills (s.walkLeaves refill) s.leaves fun s' K => s'.leaves = K
  | .functionDef name args body decorators returns isAsync => by
    simp only [Stmt.walkLeaves, Stmt.leaves, List.append_assoc]
    exact (Arguments.walkLeaves_refills args).bind fun _ _ h₁ =>
      (Stmt.walkLeavesAll_refills body).bind fun _ _ h₂ =>
      (Expr.walkLeavesAll_refills decorators).bind fun _ _ h₃ =>
      (Expr.walkLeavesOption_refills returns).bindPure _ fun _ _ h₄ => by
        rw [Stmt.leaves, h₁, h₂, h₃, h₄]
        simp only [List.append_assoc]
  | .classDef name bases keywords body decorators => by
    simp only [Stmt.walkLeaves, Stmt.leaves, List.append_assoc]
    exact (Expr.walkLeavesAll_refills bases).bind fun _ _ h₁ =>
      (Keyword.walkLeavesAll_refills keywords).bind fun _ _ h₂ =>
      (Stmt.walkLeavesAll_refills body).bind fun _ _ h₃ =>
      (Expr.walkLeavesAll_refills decorators).bindPure _ fun _ _ h₄ => by
        rw [Stmt.leaves, h₁, h₂, h₃, h₄]
        simp only [List.append_assoc]
  | .returnStmt value => by
    simp only [Stmt.walkLeaves, Stmt.leaves]
    exact (Expr.walkLeavesOption_refills value).map _ fun _ _ h => h
  | .delete targets => by
    simp only [Stmt.walkLeaves, Stmt.leaves]
    exact (Expr.walkLeavesAll_refills targets).map _ fun _ _ h => h
  | .assign targets value => by
    simp only [Stmt.walkLeaves, Stmt.leaves]
    exact (Expr.walkLeavesAll_refills targets).bind fun _ _ h₁ =>
      (Expr.walkLeaves_refills value).bindPure _ fun _ _ h₂ => by rw [Stmt.leaves, h₁, h₂.1]
  | .augAssign target o value => by
    simp only [Stmt.walkLeaves, Stmt.leaves]
    exact (Expr.walkLeaves_refills target).bind fun _ _ h₁ =>
      (Expr.walkLeaves_refills value).bindPure _ fun _ _ h₂ => by rw [Stmt.leaves, h₁.1, h₂.1]
  | .annAssign target hint value simple => by
    simp only [Stmt.walkLeaves, Stmt.leaves, List.append_assoc]
    exact (Expr.walkLeaves_refills target).bind fun _ _ h₁ =>
      (Expr.walkLeaves_refills hint).bind fun _ _ h₂ =>
      (Expr.walkLeavesOption_refills value).bindPure _ fun _ _ h₃ => by
        rw [Stmt.leaves, h₁.1, h₂.1, h₃, List.append_assoc]
  | .forLoop target iter body orelse isAsync => by
    simp only [Stmt.walkLeaves, Stmt.leaves, List.append_assoc]
    exact (Expr.walkLeaves_refills target).bind fun _ _ h₁ =>
      (Expr.walkLeaves_refills iter).bind fun _ _ h₂ =>
      (Stmt.walkLeavesAll_refills body).bind fun _ _ h₃ =>
      (Stmt.walkLeavesAll_refills orelse).bindPure _ fun _ _ h₄ => by
        rw [Stmt.leaves, h₁.1, h₂.1, h₃, h₄]
        simp only [List.append_assoc]
  | .whileLoop test body orelse => by
    simp only [Stmt.walkLeaves, Stmt.leaves, List.append_assoc]
    exact (Expr.walkLeaves_refills test).bind fun _ _ h₁ =>
      (Stmt.walkLeavesAll_refills body).bind fun _ _ h₂ =>
      (Stmt.walkLeavesAll_refills orelse).bindPure _ fun _ _ h₃ => by
        rw [Stmt.leaves, h₁.1, h₂, h₃, List.append_assoc]
  | .ifStmt test body orelse => by
    simp only [Stmt.walkLeaves, Stmt.leaves, List.append_assoc]
    exact (Expr.walkLeaves_refills test).bind fun _ _ h₁ =>
      (Stmt.walkLeavesAll_refills body).bind fun _ _ h₂ =>
      (Stmt.walkLeavesAll_refills orelse).bindPure _ fun _ _ h₃ => by
        rw [Stmt.leaves, h₁.1, h₂, h₃, List.append_assoc]
  | .withBlock items body isAsync => by
    simp only [Stmt.walkLeaves, Stmt.leaves]
    exact (WithItem.mapM_refills items).bind fun _ _ h₁ =>
      (Stmt.walkLeavesAll_refills body).bindPure _ fun _ _ h₂ => by rw [Stmt.leaves, h₁, h₂]
  | .matchStmt subject cases => by
    simp only [Stmt.walkLeaves, Stmt.leaves]
    exact (Expr.walkLeaves_refills subject).bind fun _ _ h₁ =>
      (MatchCase.walkLeavesAll_refills cases).bindPure _ fun _ _ h₂ => by
        rw [Stmt.leaves, h₁.1, h₂]
  | .raise exc cause => by
    simp only [Stmt.walkLeaves, Stmt.leaves]
    exact (Expr.walkLeavesOption_refills exc).bind fun _ _ h₁ =>
      (Expr.walkLeavesOption_refills cause).bindPure _ fun _ _ h₂ => by rw [Stmt.leaves, h₁, h₂]
  | .tryBlock body handlers orelse finalbody isStar => by
    simp only [Stmt.walkLeaves, Stmt.leaves, List.append_assoc]
    exact (Stmt.walkLeavesAll_refills body).bind fun _ _ h₁ =>
      (Handler.walkLeavesAll_refills handlers).bind fun _ _ h₂ =>
      (Stmt.walkLeavesAll_refills orelse).bind fun _ _ h₃ =>
      (Stmt.walkLeavesAll_refills finalbody).bindPure _ fun _ _ h₄ => by
        rw [Stmt.leaves, h₁, h₂, h₃, h₄]
        simp only [List.append_assoc]
  | .assert test msg => by
    simp only [Stmt.walkLeaves, Stmt.leaves]
    exact (Expr.walkLeaves_refills test).bind fun _ _ h₁ =>
      (Expr.walkLeavesOption_refills msg).bindPure _ fun _ _ h₂ => by rw [Stmt.leaves, h₁.1, h₂]
  | .importNames names => by
    simp only [Stmt.walkLeaves, Stmt.leaves]
    exact (Refills.imports _).bindPure _ fun _ _ h => h.symm
  | .importFrom module names level => by
    simp only [Stmt.walkLeaves, Stmt.leaves]
    exact (Refills.imports _).bindPure _ fun _ _ h => h.symm
  | .global names => Refills.pure rfl
  | .nonlocal names => Refills.pure rfl
  | .expr value => by
    simp only [Stmt.walkLeaves, Stmt.leaves]
    exact (Expr.walkLeaves_refills value).map _ fun _ _ h => h.1
  | .pass => Refills.pure rfl
  | .breakStmt => Refills.pure rfl
  | .continueStmt => Refills.pure rfl

theorem Stmt.walkLeavesAll_refills :
    ∀ ss : List Stmt, Refills (Stmt.walkLeavesAll refill ss) (Stmt.leavesAll ss)
      fun ss' K => Stmt.leavesAll ss' = K
  | [] => Refills.pure rfl
  | s :: rest => by
    simp only [Stmt.walkLeavesAll, Stmt.leavesAll]
    exact (Stmt.walkLeaves_refills s).bind fun _ _ h₁ =>
      (Stmt.walkLeavesAll_refills rest).bindPure _ fun _ _ h₂ => by rw [Stmt.leavesAll, h₁, h₂]

theorem Handler.walkLeavesAll_refills :
    ∀ hs : List Handler, Refills (Handler.walkLeavesAll refill hs) (Handler.leavesAll hs)
      fun hs' K => Handler.leavesAll hs' = K
  | [] => Refills.pure rfl
  | .mk type name body :: rest => by
    simp only [Handler.walkLeavesAll, Handler.leavesAll, List.append_assoc]
    exact (Expr.walkLeavesOption_refills type).bind fun _ _ h₁ =>
      (Stmt.walkLeavesAll_refills body).bind fun _ _ h₂ =>
      (Handler.walkLeavesAll_refills rest).bindPure _ fun _ _ h₃ => by
        rw [Handler.leavesAll, h₁, h₂, h₃, List.append_assoc]

theorem MatchCase.walkLeavesAll_refills :
    ∀ cs : List MatchCase, Refills (MatchCase.walkLeavesAll refill cs) (MatchCase.leavesAll cs)
      fun cs' K => MatchCase.leavesAll cs' = K
  | [] => Refills.pure rfl
  | .mk pattern guard body :: rest => by
    simp only [MatchCase.walkLeavesAll, MatchCase.leavesAll, List.append_assoc]
    exact (Pattern.walkLeaves_refills pattern).bind fun _ _ h₁ =>
      (Expr.walkLeavesOption_refills guard).bind fun _ _ h₂ =>
      (Stmt.walkLeavesAll_refills body).bind fun _ _ h₃ =>
      (MatchCase.walkLeavesAll_refills rest).bindPure _ fun _ _ h₄ => by
        rw [MatchCase.leavesAll, h₁, h₂, h₃, h₄]
        simp only [List.append_assoc]

end

theorem Stmt.leavesAll_fillAll (ss : List Stmt) (rs : List (Option Expr))
    (fits : List.Forall₂ Leaf.Fits (Stmt.leavesAll ss) rs) :
    Stmt.leavesAll (Stmt.fillAll ss rs) = (List.zipWith Leaf.refilled (Stmt.leavesAll ss) rs).flatten := by
  have filled := (Stmt.walkLeavesAll_refills ss rs [] fits).1
  rwa [List.append_nil] at filled

end Walks

end Obfuscation.Syntax
