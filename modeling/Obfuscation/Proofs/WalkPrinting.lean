import Obfuscation.Proofs.Printing
import Obfuscation.Proofs.Relational
/-!
Walks that keep a module printable. A leaf walk keeps it printable when what it may put in the
place of each leaf prints wherever the leaf printed, and a definition walk when every edit it may
make keeps a printable body printable. A walk that does not descend into what it edits may rely on
the function bodies it meets being short: flattening numbers their statements, and the numbers
must print. Leaf walks keep every body as long as it was.
-/

namespace Obfuscation.Syntax

mutual

def Stmt.bodiesShorter (n : Nat) : Stmt → Bool
  | .functionDef _ _ body _ _ _ => body.length < n && Stmt.bodiesShorterAll n body
  | .classDef _ _ _ body _ => Stmt.bodiesShorterAll n body
  | .forLoop _ _ body orelse _ => Stmt.bodiesShorterAll n body && Stmt.bodiesShorterAll n orelse
  | .whileLoop _ body orelse => Stmt.bodiesShorterAll n body && Stmt.bodiesShorterAll n orelse
  | .ifStmt _ body orelse => Stmt.bodiesShorterAll n body && Stmt.bodiesShorterAll n orelse
  | .withBlock _ body _ => Stmt.bodiesShorterAll n body
  | .matchStmt _ cases => MatchCase.bodiesShorterAll n cases
  | .tryBlock body handlers orelse finalbody _ =>
    Stmt.bodiesShorterAll n body && Handler.bodiesShorterAll n handlers &&
      Stmt.bodiesShorterAll n orelse && Stmt.bodiesShorterAll n finalbody
  | _ => true

def Stmt.bodiesShorterAll (n : Nat) : List Stmt → Bool
  | [] => true
  | s :: rest => s.bodiesShorter n && Stmt.bodiesShorterAll n rest

def Handler.bodiesShorterAll (n : Nat) : List Handler → Bool
  | [] => true
  | .mk _ _ body :: rest => Stmt.bodiesShorterAll n body && Handler.bodiesShorterAll n rest

def MatchCase.bodiesShorterAll (n : Nat) : List MatchCase → Bool
  | [] => true
  | .mk _ _ body :: rest => Stmt.bodiesShorterAll n body && MatchCase.bodiesShorterAll n rest

end

theorem Literal.printable_outside (q q' : Text → Bool) (c : Literal) :
    c.printable q Bool.false = c.printable q' Bool.false := by
  cases c <;> rfl

section LeafWalk

variable {q q' : Text → Bool} {R : Leaf → Expr → Prop}

/-- A relation of leaves to what may stand in their place that keeps a tree printable: what stands
for a name or a string prints wherever the leaf printed (under `q'`, where the leaf did under `q`),
and what stands for a string part of a formatted string is a part that prints. -/
structure KeepsPrinting (q q' : Text → Bool) (R : Leaf → Expr → Prop) : Prop where
  name : ∀ {id : String} {e : Expr} (inField : Bool), R (.name id) e →
    (Expr.name id).printable q inField = true → e.printable q' inField = true
  text : ∀ {t : Text} {u : Bool} {e : Expr} (inField : Bool), R (.text t u) e →
    (Expr.constant (.str t u)).printable q inField = true → e.printable q' inField = true
  part : ∀ {t : Text} {u : Bool} {e : Expr}, R (.part t u) e → e.partPrintable q' = true

variable (keeps : KeepsPrinting q q' R)
include keeps

set_option linter.unusedSectionVars false

/- Each case unfolds one equation of the walk over sets into the trees it may give, and combines
what the children keep. -/
mutual

theorem Expr.walkLeaves_printable : ∀ (e : Expr) (inField : Bool) (e' : Expr),
    e' ∈ (e.walkLeaves (LeafVisit.among R)).run → e.printable q inField = true →
      e'.printable q' inField = true
  | .boolOp o values, inField, e', walked, h => by
    simp only [Expr.walkLeaves, SetM.mem_run_map] at walked
    obtain ⟨vs, wv, rfl⟩ := walked
    simp only [Expr.printable] at h ⊢
    exact Expr.walkLeavesAll_printable values inField vs wv h
  | .namedExpr target value, inField, e', walked, h => by
    simp only [Expr.walkLeaves, SetM.mem_run_bind, SetM.mem_run_pure] at walked
    obtain ⟨t, wt, v, wv, rfl⟩ := walked
    simp only [Expr.printable, Bool.and_eq_true] at h ⊢
    exact ⟨Expr.walkLeaves_printable target inField t wt h.1,
      Expr.walkLeaves_printable value inField v wv h.2⟩
  | .binOp left o right, inField, e', walked, h => by
    simp only [Expr.walkLeaves, SetM.mem_run_bind, SetM.mem_run_pure] at walked
    obtain ⟨l, wl, r, wr, rfl⟩ := walked
    simp only [Expr.printable, Bool.and_eq_true] at h ⊢
    exact ⟨Expr.walkLeaves_printable left inField l wl h.1,
      Expr.walkLeaves_printable right inField r wr h.2⟩
  | .unaryOp o operand, inField, e', walked, h => by
    simp only [Expr.walkLeaves, SetM.mem_run_map] at walked
    obtain ⟨v, wv, rfl⟩ := walked
    simp only [Expr.printable] at h ⊢
    exact Expr.walkLeaves_printable operand inField v wv h
  | .lambda args body, inField, e', walked, h => by
    simp only [Expr.walkLeaves, SetM.mem_run_bind, SetM.mem_run_pure] at walked
    obtain ⟨a, wa, b, wb, rfl⟩ := walked
    simp only [Expr.printable, Bool.and_eq_true] at h ⊢
    exact ⟨Arguments.walkLeaves_printable args inField a wa h.1,
      Expr.walkLeaves_printable body inField b wb h.2⟩
  | .ifExp test body orelse, inField, e', walked, h => by
    simp only [Expr.walkLeaves, SetM.mem_run_bind, SetM.mem_run_pure] at walked
    obtain ⟨t, wt, b, wb, o, wo, rfl⟩ := walked
    simp only [Expr.printable, Bool.and_eq_true] at h ⊢
    exact ⟨⟨Expr.walkLeaves_printable test inField t wt h.1.1,
      Expr.walkLeaves_printable body inField b wb h.1.2⟩,
      Expr.walkLeaves_printable orelse inField o wo h.2⟩
  | .dict keys values, inField, e', walked, h => by
    simp only [Expr.walkLeaves, SetM.mem_run_bind, SetM.mem_run_pure] at walked
    obtain ⟨ks, wk, vs, wv, rfl⟩ := walked
    simp only [Expr.printable, Bool.and_eq_true] at h ⊢
    exact ⟨Expr.walkLeavesOptions_printable keys inField ks wk h.1,
      Expr.walkLeavesAll_printable values inField vs wv h.2⟩
  | .set elts, inField, e', walked, h => by
    simp only [Expr.walkLeaves, SetM.mem_run_map] at walked
    obtain ⟨vs, wv, rfl⟩ := walked
    simp only [Expr.printable] at h ⊢
    exact Expr.walkLeavesAll_printable elts inField vs wv h
  | .listComp elt gens, inField, e', walked, h => by
    simp only [Expr.walkLeaves, SetM.mem_run_bind, SetM.mem_run_pure] at walked
    obtain ⟨v, wv, g, wg, rfl⟩ := walked
    simp only [Expr.printable, Bool.and_eq_true] at h ⊢
    exact ⟨Expr.walkLeaves_printable elt inField v wv h.1,
      Comprehension.walkLeavesAll_printable gens inField g wg h.2⟩
  | .setComp elt gens, inField, e', walked, h => by
    simp only [Expr.walkLeaves, SetM.mem_run_bind, SetM.mem_run_pure] at walked
    obtain ⟨v, wv, g, wg, rfl⟩ := walked
    simp only [Expr.printable, Bool.and_eq_true] at h ⊢
    exact ⟨Expr.walkLeaves_printable elt inField v wv h.1,
      Comprehension.walkLeavesAll_printable gens inField g wg h.2⟩
  | .dictComp key value gens, inField, e', walked, h => by
    simp only [Expr.walkLeaves, SetM.mem_run_bind, SetM.mem_run_pure] at walked
    obtain ⟨k, wk, v, wv, g, wg, rfl⟩ := walked
    simp only [Expr.printable, Bool.and_eq_true] at h ⊢
    exact ⟨⟨Expr.walkLeaves_printable key inField k wk h.1.1,
      Expr.walkLeaves_printable value inField v wv h.1.2⟩,
      Comprehension.walkLeavesAll_printable gens inField g wg h.2⟩
  | .generatorExp elt gens, inField, e', walked, h => by
    simp only [Expr.walkLeaves, SetM.mem_run_bind, SetM.mem_run_pure] at walked
    obtain ⟨v, wv, g, wg, rfl⟩ := walked
    simp only [Expr.printable, Bool.and_eq_true] at h ⊢
    exact ⟨Expr.walkLeaves_printable elt inField v wv h.1,
      Comprehension.walkLeavesAll_printable gens inField g wg h.2⟩
  | .await value, inField, e', walked, h => by
    simp only [Expr.walkLeaves, SetM.mem_run_map] at walked
    obtain ⟨v, wv, rfl⟩ := walked
    simp only [Expr.printable] at h ⊢
    exact Expr.walkLeaves_printable value inField v wv h
  | .yield value, inField, e', walked, h => by
    simp only [Expr.walkLeaves, SetM.mem_run_map] at walked
    obtain ⟨v, wv, rfl⟩ := walked
    simp only [Expr.printable] at h ⊢
    exact Expr.walkLeavesOption_printable value inField v wv h
  | .yieldFrom value, inField, e', walked, h => by
    simp only [Expr.walkLeaves, SetM.mem_run_map] at walked
    obtain ⟨v, wv, rfl⟩ := walked
    simp only [Expr.printable] at h ⊢
    exact Expr.walkLeaves_printable value inField v wv h
  | .compare left ops comparators, inField, e', walked, h => by
    simp only [Expr.walkLeaves, SetM.mem_run_bind, SetM.mem_run_pure] at walked
    obtain ⟨l, wl, cs, wcs, rfl⟩ := walked
    simp only [Expr.printable, Bool.and_eq_true] at h ⊢
    exact ⟨Expr.walkLeaves_printable left inField l wl h.1,
      Expr.walkLeavesAll_printable comparators inField cs wcs h.2⟩
  | .call func args keywords, inField, e', walked, h => by
    simp only [Expr.walkLeaves, SetM.mem_run_bind, SetM.mem_run_pure] at walked
    obtain ⟨f, wf, a, wa, k, wk, rfl⟩ := walked
    simp only [Expr.printable, Bool.and_eq_true] at h ⊢
    exact ⟨⟨Expr.walkLeaves_printable func inField f wf h.1.1,
      Expr.walkLeavesAll_printable args inField a wa h.1.2⟩,
      Keyword.walkLeavesAll_printable keywords inField k wk h.2⟩
  | .formattedValue value conversion spec, inField, e', walked, h => by
    simp only [Expr.walkLeaves, SetM.mem_run_bind, SetM.mem_run_pure] at walked
    obtain ⟨v, wv, s, ws, rfl⟩ := walked
    simp only [Expr.printable, Bool.and_eq_true] at h ⊢
    exact ⟨⟨h.1.1, Expr.walkLeaves_printable value true v wv h.1.2⟩,
      Expr.walkSpec_printable spec s ws h.2⟩
  | .joinedStr values, inField, e', walked, h => by
    simp only [Expr.walkLeaves, SetM.mem_run_map] at walked
    obtain ⟨vs, wv, rfl⟩ := walked
    simp only [Expr.printable, Bool.and_eq_true] at h ⊢
    exact ⟨h.1, Expr.walkParts_printable values vs wv h.2⟩
  | .constant (.str t u), inField, e', walked, h => by
    simp only [Expr.walkLeaves, LeafVisit.mem_among_text] at walked
    exact keeps.text inField walked h
  | .constant .none, inField, e', walked, h | .constant .true, inField, e', walked, h
  | .constant .false, inField, e', walked, h | .constant .ellipsis, inField, e', walked, h
  | .constant (.int _), inField, e', walked, h | .constant (.float _), inField, e', walked, h
  | .constant (.imaginary _), inField, e', walked, h
  | .constant (.bytes _), inField, e', walked, h => by
    simp only [Expr.walkLeaves, SetM.mem_run_pure] at walked
    subst walked
    exact h
  | .attribute value attr, inField, e', walked, h => by
    simp only [Expr.walkLeaves, SetM.mem_run_map] at walked
    obtain ⟨v, wv, rfl⟩ := walked
    simp only [Expr.printable, Bool.and_eq_true] at h ⊢
    exact ⟨Expr.walkLeaves_printable value inField v wv h.1, h.2⟩
  | .subscript value slice, inField, e', walked, h => by
    simp only [Expr.walkLeaves, SetM.mem_run_bind, SetM.mem_run_pure] at walked
    obtain ⟨v, wv, s, ws, rfl⟩ := walked
    simp only [Expr.printable, Bool.and_eq_true] at h ⊢
    exact ⟨Expr.walkLeaves_printable value inField v wv h.1,
      Expr.walkLeaves_printable slice inField s ws h.2⟩
  | .starred value, inField, e', walked, h => by
    simp only [Expr.walkLeaves, SetM.mem_run_map] at walked
    obtain ⟨v, wv, rfl⟩ := walked
    simp only [Expr.printable] at h ⊢
    exact Expr.walkLeaves_printable value inField v wv h
  | .name id, inField, e', walked, h => by
    simp only [Expr.walkLeaves, LeafVisit.mem_among_name] at walked
    exact keeps.name inField walked h
  | .list elts, inField, e', walked, h => by
    simp only [Expr.walkLeaves, SetM.mem_run_map] at walked
    obtain ⟨vs, wv, rfl⟩ := walked
    simp only [Expr.printable] at h ⊢
    exact Expr.walkLeavesAll_printable elts inField vs wv h
  | .tuple elts, inField, e', walked, h => by
    simp only [Expr.walkLeaves, SetM.mem_run_map] at walked
    obtain ⟨vs, wv, rfl⟩ := walked
    simp only [Expr.printable] at h ⊢
    exact Expr.walkLeavesAll_printable elts inField vs wv h
  | .slice lower upper step, inField, e', walked, h => by
    simp only [Expr.walkLeaves, SetM.mem_run_bind, SetM.mem_run_pure] at walked
    obtain ⟨l, wl, u, wu, s, ws, rfl⟩ := walked
    simp only [Expr.printable, Bool.and_eq_true] at h ⊢
    exact ⟨⟨Expr.walkLeavesOption_printable lower inField l wl h.1.1,
      Expr.walkLeavesOption_printable upper inField u wu h.1.2⟩,
      Expr.walkLeavesOption_printable step inField s ws h.2⟩
termination_by structural e => e

theorem Expr.walkLeavesAll_printable : ∀ (es : List Expr) (inField : Bool) (es' : List Expr),
    es' ∈ (Expr.walkLeavesAll (LeafVisit.among R) es).run →
      Expr.printableAll q inField es = true → Expr.printableAll q' inField es' = true
  | [], inField, es', walked, _ => by
    simp only [Expr.walkLeavesAll, SetM.mem_run_pure] at walked
    subst walked
    rfl
  | e :: es, inField, es', walked, h => by
    simp only [Expr.walkLeavesAll, SetM.mem_run_bind, SetM.mem_run_pure] at walked
    obtain ⟨e', we, rest, wrest, rfl⟩ := walked
    simp only [Expr.printableAll, Bool.and_eq_true] at h ⊢
    exact ⟨Expr.walkLeaves_printable e inField e' we h.1,
      Expr.walkLeavesAll_printable es inField rest wrest h.2⟩
termination_by structural es => es

theorem Expr.walkLeavesOption_printable : ∀ (o : Option Expr) (inField : Bool) (o' : Option Expr),
    o' ∈ (Expr.walkLeavesOption (LeafVisit.among R) o).run →
      Expr.printableOption q inField o = true → Expr.printableOption q' inField o' = true
  | none, inField, o', walked, _ => by
    simp only [Expr.walkLeavesOption, SetM.mem_run_pure] at walked
    subst walked
    rfl
  | some e, inField, o', walked, h => by
    simp only [Expr.walkLeavesOption, SetM.mem_run_map] at walked
    obtain ⟨e', we, rfl⟩ := walked
    simp only [Expr.printableOption] at h ⊢
    exact Expr.walkLeaves_printable e inField e' we h
termination_by structural o => o

theorem Expr.walkLeavesOptions_printable : ∀ (os : List (Option Expr)) (inField : Bool)
    (os' : List (Option Expr)), os' ∈ (Expr.walkLeavesOptions (LeafVisit.among R) os).run →
      Expr.printableOptions q inField os = true → Expr.printableOptions q' inField os' = true
  | [], inField, os', walked, _ => by
    simp only [Expr.walkLeavesOptions, SetM.mem_run_pure] at walked
    subst walked
    rfl
  | o :: os, inField, os', walked, h => by
    simp only [Expr.walkLeavesOptions, SetM.mem_run_bind, SetM.mem_run_pure] at walked
    obtain ⟨o', wo, rest, wrest, rfl⟩ := walked
    simp only [Expr.printableOptions, Bool.and_eq_true] at h ⊢
    exact ⟨Expr.walkLeavesOption_printable o inField o' wo h.1,
      Expr.walkLeavesOptions_printable os inField rest wrest h.2⟩
termination_by structural os => os

theorem Expr.walkSpec_printable : ∀ (spec spec' : Option Expr),
    spec' ∈ (Expr.walkLeavesOption (LeafVisit.among R) spec).run →
      Expr.specPrintable q spec = true → Expr.specPrintable q' spec' = true
  | none, spec', walked, _ => by
    simp only [Expr.walkLeavesOption, SetM.mem_run_pure] at walked
    subst walked
    rfl
  | some s, spec', walked, h => by
    cases s
    case joinedStr values =>
      simp only [Expr.walkLeavesOption, Expr.walkLeaves, Functor.map_map, SetM.mem_run_map]
        at walked
      obtain ⟨vs, wv, rfl⟩ := walked
      simp only [Expr.specPrintable] at h ⊢
      exact Expr.walkParts_printable values vs wv h
    all_goals simp [Expr.specPrintable] at h
termination_by structural spec => spec

theorem Expr.walkParts_printable : ∀ (vs vs' : List Expr),
    vs' ∈ (Expr.walkParts (LeafVisit.among R) vs).run →
      Expr.partsPrintable q vs = true → Expr.partsPrintable q' vs' = true
  | [], vs', walked, _ => by
    simp only [Expr.walkParts, SetM.mem_run_pure] at walked
    subst walked
    rfl
  | v :: vs, vs', walked, h => by
    simp only [Expr.partsPrintable, Bool.and_eq_true] at h
    -- a part that prints is a text, a formatted string or a field; texts are visited as parts
    cases v
    case constant c =>
      cases c
      case str t u =>
        simp only [Expr.walkParts, SetM.mem_run_bind, SetM.mem_run_pure,
          LeafVisit.mem_among_part] at walked
        obtain ⟨v', wv, rest, wrest, rfl⟩ := walked
        simp only [Expr.partsPrintable, Bool.and_eq_true]
        exact ⟨keeps.part wv, Expr.walkParts_printable vs rest wrest h.2⟩
      all_goals simp [Expr.partPrintable] at h
    case joinedStr values =>
      simp only [Expr.walkParts, Expr.walkLeaves, SetM.mem_run_bind, SetM.mem_run_map,
        SetM.mem_run_pure] at walked
      obtain ⟨_, ⟨ws, ww, rfl⟩, rest, wrest, rfl⟩ := walked
      simp only [Expr.partsPrintable, Expr.partPrintable, Bool.and_eq_true] at h ⊢
      exact ⟨Expr.walkParts_printable values ws ww h.1, Expr.walkParts_printable vs rest wrest h.2⟩
    case formattedValue value conversion spec =>
      simp only [Expr.walkParts, Expr.walkLeaves, SetM.mem_run_bind, SetM.mem_run_pure] at walked
      obtain ⟨_, ⟨e, we, s, ws, rfl⟩, rest, wrest, rfl⟩ := walked
      simp only [Expr.partsPrintable, Expr.partPrintable, Bool.and_eq_true] at h ⊢
      exact ⟨⟨Expr.walkLeaves_printable value true e we h.1.1,
        Expr.walkSpec_printable spec s ws h.1.2⟩, Expr.walkParts_printable vs rest wrest h.2⟩
    all_goals simp [Expr.partPrintable] at h
termination_by structural vs => vs

theorem Comprehension.walkLeavesAll_printable : ∀ (gs : List Comprehension) (inField : Bool)
    (gs' : List Comprehension), gs' ∈ (Comprehension.walkLeavesAll (LeafVisit.among R) gs).run →
      Comprehension.printableAll q inField gs = true →
        Comprehension.printableAll q' inField gs' = true
  | [], inField, gs', walked, _ => by
    simp only [Comprehension.walkLeavesAll, SetM.mem_run_pure] at walked
    subst walked
    rfl
  | .mk target iter ifs isAsync :: rest, inField, gs', walked, h => by
    simp only [Comprehension.walkLeavesAll, SetM.mem_run_bind, SetM.mem_run_pure] at walked
    obtain ⟨t, wt, i, wi, cs, wcs, more, wmore, rfl⟩ := walked
    simp only [Comprehension.printableAll, Bool.and_eq_true] at h ⊢
    exact ⟨⟨⟨Expr.walkLeaves_printable target inField t wt h.1.1.1,
      Expr.walkLeaves_printable iter inField i wi h.1.1.2⟩,
      Expr.walkLeavesAll_printable ifs inField cs wcs h.1.2⟩,
      Comprehension.walkLeavesAll_printable rest inField more wmore h.2⟩
termination_by structural gs => gs

theorem Keyword.walkLeavesAll_printable : ∀ (ks : List Keyword) (inField : Bool)
    (ks' : List Keyword), ks' ∈ (Keyword.walkLeavesAll (LeafVisit.among R) ks).run →
      Keyword.printableAll q inField ks = true → Keyword.printableAll q' inField ks' = true
  | [], inField, ks', walked, _ => by
    simp only [Keyword.walkLeavesAll, SetM.mem_run_pure] at walked
    subst walked
    rfl
  | .mk name value :: rest, inField, ks', walked, h => by
    simp only [Keyword.walkLeavesAll, SetM.mem_run_bind, SetM.mem_run_pure] at walked
    obtain ⟨v, wv, more, wmore, rfl⟩ := walked
    simp only [Keyword.printableAll, Bool.and_eq_true] at h ⊢
    exact ⟨⟨h.1.1, Expr.walkLeaves_printable value inField v wv h.1.2⟩,
      Keyword.walkLeavesAll_printable rest inField more wmore h.2⟩
termination_by structural ks => ks

theorem Arg.walkLeaves_printable : ∀ (a : Arg) (inField : Bool) (a' : Arg),
    a' ∈ (a.walkLeaves (LeafVisit.among R)).run → a.printable q inField = true →
      a'.printable q' inField = true
  | .mk name hint, inField, a', walked, h => by
    simp only [Arg.walkLeaves, SetM.mem_run_map] at walked
    obtain ⟨o, wo, rfl⟩ := walked
    simp only [Arg.printable, Bool.and_eq_true] at h ⊢
    exact ⟨h.1, Expr.walkLeavesOption_printable hint inField o wo h.2⟩
termination_by structural a => a

theorem Arg.walkLeavesAll_printable : ∀ (as : List Arg) (inField : Bool) (as' : List Arg),
    as' ∈ (Arg.walkLeavesAll (LeafVisit.among R) as).run → Arg.printableAll q inField as = true →
      Arg.printableAll q' inField as' = true
  | [], inField, as', walked, _ => by
    simp only [Arg.walkLeavesAll, SetM.mem_run_pure] at walked
    subst walked
    rfl
  | a :: rest, inField, as', walked, h => by
    simp only [Arg.walkLeavesAll, SetM.mem_run_bind, SetM.mem_run_pure] at walked
    obtain ⟨a', wa, more, wmore, rfl⟩ := walked
    simp only [Arg.printableAll, Bool.and_eq_true] at h ⊢
    exact ⟨Arg.walkLeaves_printable a inField a' wa h.1,
      Arg.walkLeavesAll_printable rest inField more wmore h.2⟩
termination_by structural as => as

theorem Arg.walkLeavesOption_printable : ∀ (o : Option Arg) (inField : Bool) (o' : Option Arg),
    o' ∈ (Arg.walkLeavesOption (LeafVisit.among R) o).run →
      Arg.printableOption q inField o = true → Arg.printableOption q' inField o' = true
  | none, inField, o', walked, _ => by
    simp only [Arg.walkLeavesOption, SetM.mem_run_pure] at walked
    subst walked
    rfl
  | some a, inField, o', walked, h => by
    simp only [Arg.walkLeavesOption, SetM.mem_run_map] at walked
    obtain ⟨a', wa, rfl⟩ := walked
    simp only [Arg.printableOption] at h ⊢
    exact Arg.walkLeaves_printable a inField a' wa h
termination_by structural o => o

theorem Arguments.walkLeaves_printable : ∀ (a : Arguments) (inField : Bool) (a' : Arguments),
    a' ∈ (a.walkLeaves (LeafVisit.among R)).run → a.printable q inField = true →
      a'.printable q' inField = true
  | .mk posOnly args vararg kwOnly kwDefaults kwarg defaults, inField, a', walked, h => by
    simp only [Arguments.walkLeaves, SetM.mem_run_bind, SetM.mem_run_pure] at walked
    obtain ⟨p, wp, as, was, va, wva, k, wk, kd, wkd, kw, wkw, d, wd, rfl⟩ := walked
    simp only [Arguments.printable, Bool.and_eq_true] at h ⊢
    obtain ⟨⟨⟨⟨⟨⟨hp, ha⟩, hv⟩, hk⟩, hkd⟩, hkw⟩, hd⟩ := h
    exact ⟨⟨⟨⟨⟨⟨Arg.walkLeavesAll_printable posOnly inField p wp hp,
      Arg.walkLeavesAll_printable args inField as was ha⟩,
      Arg.walkLeavesOption_printable vararg inField va wva hv⟩,
      Arg.walkLeavesAll_printable kwOnly inField k wk hk⟩,
      Expr.walkLeavesOptions_printable kwDefaults inField kd wkd hkd⟩,
      Arg.walkLeavesOption_printable kwarg inField kw wkw hkw⟩,
      Expr.walkLeavesAll_printable defaults inField d wd hd⟩
termination_by structural a => a

end

mutual

theorem Pattern.walkLeaves_printable : ∀ (p p' : Pattern),
    p' ∈ (p.walkLeaves (LeafVisit.among R)).run → p.printable q = true → p'.printable q' = true
  | .value e, p', walked, h => by
    simp only [Pattern.walkLeaves, SetM.mem_run_map] at walked
    obtain ⟨e', we, rfl⟩ := walked
    simp only [Pattern.printable] at h ⊢
    exact Expr.walkLeaves_printable keeps e false e' we h
  | .singleton c, p', walked, h => by
    simp only [Pattern.walkLeaves, SetM.mem_run_pure] at walked
    subst walked
    simpa only [Pattern.printable, Literal.printable_outside q q' c] using h
  | .sequence ps, p', walked, h => by
    simp only [Pattern.walkLeaves, SetM.mem_run_map] at walked
    obtain ⟨ps', wps, rfl⟩ := walked
    simp only [Pattern.printable] at h ⊢
    exact Pattern.walkLeavesAll_printable ps ps' wps h
  | .mapping keys ps rest, p', walked, h => by
    simp only [Pattern.walkLeaves, SetM.mem_run_bind, SetM.mem_run_pure] at walked
    obtain ⟨ks, wks, ps', wps, rfl⟩ := walked
    simp only [Pattern.printable, Bool.and_eq_true] at h ⊢
    exact ⟨Expr.walkLeavesAll_printable keeps keys false ks wks h.1,
      Pattern.walkLeavesAll_printable ps ps' wps h.2⟩
  | .classPattern cls ps attrs kps, p', walked, h => by
    simp only [Pattern.walkLeaves, SetM.mem_run_bind, SetM.mem_run_pure] at walked
    obtain ⟨c, wc, ps', wps, kps', wkps, rfl⟩ := walked
    simp only [Pattern.printable, Bool.and_eq_true] at h ⊢
    exact ⟨⟨Expr.walkLeaves_printable keeps cls false c wc h.1.1,
      Pattern.walkLeavesAll_printable ps ps' wps h.1.2⟩,
      Pattern.walkLeavesAll_printable kps kps' wkps h.2⟩
  | .star name, p', walked, h => by
    simp only [Pattern.walkLeaves, SetM.mem_run_pure] at walked
    subst walked
    rfl
  | .capture none name, p', walked, h => by
    simp only [Pattern.walkLeaves, SetM.mem_run_pure] at walked
    subst walked
    rfl
  | .capture (some inner) name, p', walked, h => by
    simp only [Pattern.walkLeaves, SetM.mem_run_bind, SetM.mem_run_pure] at walked
    obtain ⟨inner', wi, rfl⟩ := walked
    simp only [Pattern.printable] at h ⊢
    exact Pattern.walkLeaves_printable inner inner' wi h
  | .alternatives ps, p', walked, h => by
    simp only [Pattern.walkLeaves, SetM.mem_run_map] at walked
    obtain ⟨ps', wps, rfl⟩ := walked
    simp only [Pattern.printable] at h ⊢
    exact Pattern.walkLeavesAll_printable ps ps' wps h
termination_by structural p => p

theorem Pattern.walkLeavesAll_printable : ∀ (ps ps' : List Pattern),
    ps' ∈ (Pattern.walkLeavesAll (LeafVisit.among R) ps).run →
      Pattern.printableAll q ps = true → Pattern.printableAll q' ps' = true
  | [], ps', walked, _ => by
    simp only [Pattern.walkLeavesAll, SetM.mem_run_pure] at walked
    subst walked
    rfl
  | p :: ps, ps', walked, h => by
    simp only [Pattern.walkLeavesAll, SetM.mem_run_bind, SetM.mem_run_pure] at walked
    obtain ⟨p', wp, rest, wrest, rfl⟩ := walked
    simp only [Pattern.printableAll, Bool.and_eq_true] at h ⊢
    exact ⟨Pattern.walkLeaves_printable p p' wp h.1, Pattern.walkLeavesAll_printable ps rest wrest h.2⟩
termination_by structural ps => ps

end

theorem WithItem.walkLeaves_printable {w w' : WithItem}
    (walked : w' ∈ (w.walkLeaves (LeafVisit.among R)).run) (h : w.printable q = true) :
    w'.printable q' = true := by
  simp only [WithItem.walkLeaves, SetM.mem_run_bind, SetM.mem_run_pure] at walked
  obtain ⟨c, wc, v, wv, rfl⟩ := walked
  simp only [WithItem.printable, Bool.and_eq_true] at h ⊢
  exact ⟨Expr.walkLeaves_printable keeps _ false c wc h.1,
    Expr.walkLeavesOption_printable keeps _ false v wv h.2⟩

theorem WithItem.walkAll_printable {items items' : List WithItem}
    (walked : items' ∈ (items.mapM (WithItem.walkLeaves (LeafVisit.among R))).run)
    (h : items.all (WithItem.printable q) = true) : items'.all (WithItem.printable q') = true := by
  have fits := SetM.mem_run_mapM.mp walked
  clear walked
  induction fits with
  | nil => rfl
  | cons first _ ih =>
    simp only [List.all_cons, Bool.and_eq_true] at h ⊢
    exact ⟨WithItem.walkLeaves_printable keeps first h.1, ih h.2⟩

mutual

theorem Stmt.walkLeaves_printable : ∀ (s s' : Stmt),
    s' ∈ (s.walkLeaves (LeafVisit.among R)).run → s.printable q = true → s'.printable q' = true
  | .functionDef name args body decorators returns isAsync, s', walked, h => by
    simp only [Stmt.walkLeaves, SetM.mem_run_bind, SetM.mem_run_pure] at walked
    obtain ⟨a, wa, b, wb, d, wd, r, wr, rfl⟩ := walked
    simp only [Stmt.printable, Bool.and_eq_true] at h ⊢
    exact ⟨⟨⟨Arguments.walkLeaves_printable keeps args false a wa h.1.1.1,
      Stmt.walkLeavesAll_printable body b wb h.1.1.2⟩,
      Expr.walkLeavesAll_printable keeps decorators false d wd h.1.2⟩,
      Expr.walkLeavesOption_printable keeps returns false r wr h.2⟩
  | .classDef name bases keywords body decorators, s', walked, h => by
    simp only [Stmt.walkLeaves, SetM.mem_run_bind, SetM.mem_run_pure] at walked
    obtain ⟨bs, wbs, ks, wks, b, wb, d, wd, rfl⟩ := walked
    simp only [Stmt.printable, Bool.and_eq_true] at h ⊢
    exact ⟨⟨⟨Expr.walkLeavesAll_printable keeps bases false bs wbs h.1.1.1,
      Keyword.walkLeavesAll_printable keeps keywords false ks wks h.1.1.2⟩,
      Stmt.walkLeavesAll_printable body b wb h.1.2⟩,
      Expr.walkLeavesAll_printable keeps decorators false d wd h.2⟩
  | .returnStmt value, s', walked, h => by
    simp only [Stmt.walkLeaves, SetM.mem_run_map] at walked
    obtain ⟨v, wv, rfl⟩ := walked
    simp only [Stmt.printable] at h ⊢
    exact Expr.walkLeavesOption_printable keeps value false v wv h
  | .delete targets, s', walked, h => by
    simp only [Stmt.walkLeaves, SetM.mem_run_map] at walked
    obtain ⟨ts, wts, rfl⟩ := walked
    simp only [Stmt.printable] at h ⊢
    exact Expr.walkLeavesAll_printable keeps targets false ts wts h
  | .assign targets value, s', walked, h => by
    simp only [Stmt.walkLeaves, SetM.mem_run_bind, SetM.mem_run_pure] at walked
    obtain ⟨ts, wts, v, wv, rfl⟩ := walked
    simp only [Stmt.printable, Bool.and_eq_true] at h ⊢
    exact ⟨Expr.walkLeavesAll_printable keeps targets false ts wts h.1,
      Expr.walkLeaves_printable keeps value false v wv h.2⟩
  | .augAssign target o value, s', walked, h => by
    simp only [Stmt.walkLeaves, SetM.mem_run_bind, SetM.mem_run_pure] at walked
    obtain ⟨t, wt, v, wv, rfl⟩ := walked
    simp only [Stmt.printable, Bool.and_eq_true] at h ⊢
    exact ⟨Expr.walkLeaves_printable keeps target false t wt h.1,
      Expr.walkLeaves_printable keeps value false v wv h.2⟩
  | .annAssign target hint value simple, s', walked, h => by
    simp only [Stmt.walkLeaves, SetM.mem_run_bind, SetM.mem_run_pure] at walked
    obtain ⟨t, wt, a, wa, v, wv, rfl⟩ := walked
    simp only [Stmt.printable, Bool.and_eq_true] at h ⊢
    exact ⟨⟨Expr.walkLeaves_printable keeps target false t wt h.1.1,
      Expr.walkLeaves_printable keeps hint false a wa h.1.2⟩,
      Expr.walkLeavesOption_printable keeps value false v wv h.2⟩
  | .forLoop target iter body orelse isAsync, s', walked, h => by
    simp only [Stmt.walkLeaves, SetM.mem_run_bind, SetM.mem_run_pure] at walked
    obtain ⟨t, wt, i, wi, b, wb, o, wo, rfl⟩ := walked
    simp only [Stmt.printable, Bool.and_eq_true] at h ⊢
    exact ⟨⟨⟨Expr.walkLeaves_printable keeps target false t wt h.1.1.1,
      Expr.walkLeaves_printable keeps iter false i wi h.1.1.2⟩,
      Stmt.walkLeavesAll_printable body b wb h.1.2⟩, Stmt.walkLeavesAll_printable orelse o wo h.2⟩
  | .whileLoop test body orelse, s', walked, h => by
    simp only [Stmt.walkLeaves, SetM.mem_run_bind, SetM.mem_run_pure] at walked
    obtain ⟨t, wt, b, wb, o, wo, rfl⟩ := walked
    simp only [Stmt.printable, Bool.and_eq_true] at h ⊢
    exact ⟨⟨Expr.walkLeaves_printable keeps test false t wt h.1.1,
      Stmt.walkLeavesAll_printable body b wb h.1.2⟩, Stmt.walkLeavesAll_printable orelse o wo h.2⟩
  | .ifStmt test body orelse, s', walked, h => by
    simp only [Stmt.walkLeaves, SetM.mem_run_bind, SetM.mem_run_pure] at walked
    obtain ⟨t, wt, b, wb, o, wo, rfl⟩ := walked
    simp only [Stmt.printable, Bool.and_eq_true] at h ⊢
    exact ⟨⟨Expr.walkLeaves_printable keeps test false t wt h.1.1,
      Stmt.walkLeavesAll_printable body b wb h.1.2⟩, Stmt.walkLeavesAll_printable orelse o wo h.2⟩
  | .withBlock items body isAsync, s', walked, h => by
    simp only [Stmt.walkLeaves, SetM.mem_run_bind, SetM.mem_run_pure] at walked
    obtain ⟨ws, wws, b, wb, rfl⟩ := walked
    simp only [Stmt.printable, Bool.and_eq_true] at h ⊢
    exact ⟨WithItem.walkAll_printable keeps wws h.1, Stmt.walkLeavesAll_printable body b wb h.2⟩
  | .matchStmt subject cases, s', walked, h => by
    simp only [Stmt.walkLeaves, SetM.mem_run_bind, SetM.mem_run_pure] at walked
    obtain ⟨v, wv, cs, wcs, rfl⟩ := walked
    simp only [Stmt.printable, Bool.and_eq_true] at h ⊢
    exact ⟨Expr.walkLeaves_printable keeps subject false v wv h.1,
      MatchCase.walkLeavesAll_printable cases cs wcs h.2⟩
  | .raise exc cause, s', walked, h => by
    simp only [Stmt.walkLeaves, SetM.mem_run_bind, SetM.mem_run_pure] at walked
    obtain ⟨e, we, c, wc, rfl⟩ := walked
    -- a cause without an exception does not print; the walk keeps which of the two are there
    cases exc with
    | none =>
      simp only [Expr.walkLeavesOption, SetM.mem_run_pure] at we
      subst we
      cases cause with
      | none =>
        simp only [Expr.walkLeavesOption, SetM.mem_run_pure] at wc
        subst wc
        rfl
      | some _ => simp [Stmt.printable] at h
    | some x =>
      simp only [Expr.walkLeavesOption, SetM.mem_run_map] at we
      obtain ⟨x', wx, rfl⟩ := we
      simp only [Stmt.printable, Expr.printableOption, Bool.and_eq_true] at h ⊢
      exact ⟨Expr.walkLeaves_printable keeps x false x' wx h.1,
        Expr.walkLeavesOption_printable keeps cause false c wc h.2⟩
  | .tryBlock body handlers orelse finalbody isStar, s', walked, h => by
    simp only [Stmt.walkLeaves, SetM.mem_run_bind, SetM.mem_run_pure] at walked
    obtain ⟨b, wb, hs, whs, o, wo, f, wf, rfl⟩ := walked
    simp only [Stmt.printable, Bool.and_eq_true] at h ⊢
    exact ⟨⟨⟨Stmt.walkLeavesAll_printable body b wb h.1.1.1,
      Handler.walkLeavesAll_printable handlers hs whs h.1.1.2⟩,
      Stmt.walkLeavesAll_printable orelse o wo h.1.2⟩,
      Stmt.walkLeavesAll_printable finalbody f wf h.2⟩
  | .assert test msg, s', walked, h => by
    simp only [Stmt.walkLeaves, SetM.mem_run_bind, SetM.mem_run_pure] at walked
    obtain ⟨t, wt, m, wm, rfl⟩ := walked
    simp only [Stmt.printable, Bool.and_eq_true] at h ⊢
    exact ⟨Expr.walkLeaves_printable keeps test false t wt h.1,
      Expr.walkLeavesOption_printable keeps msg false m wm h.2⟩
  | .importNames names, s', walked, h | .importFrom _ names _, s', walked, h => by
    simp only [Stmt.walkLeaves, LeafVisit.among_imports, SetM.mem_run_bind, SetM.mem_run_pure]
      at walked
    obtain ⟨_, -, rfl⟩ := walked
    rfl
  | .global names, s', walked, h | .nonlocal names, s', walked, h | .pass, s', walked, h
  | .breakStmt, s', walked, h | .continueStmt, s', walked, h => by
    simp only [Stmt.walkLeaves, SetM.mem_run_pure] at walked
    subst walked
    rfl
  | .expr value, s', walked, h => by
    simp only [Stmt.walkLeaves, SetM.mem_run_map] at walked
    obtain ⟨v, wv, rfl⟩ := walked
    simp only [Stmt.printable] at h ⊢
    exact Expr.walkLeaves_printable keeps value false v wv h
termination_by structural s => s

theorem Stmt.walkLeavesAll_printable : ∀ (ss ss' : List Stmt),
    ss' ∈ (Stmt.walkLeavesAll (LeafVisit.among R) ss).run → Stmt.printableAll q ss = true →
      Stmt.printableAll q' ss' = true
  | [], ss', walked, _ => by
    simp only [Stmt.walkLeavesAll, SetM.mem_run_pure] at walked
    subst walked
    rfl
  | s :: ss, ss', walked, h => by
    simp only [Stmt.walkLeavesAll, SetM.mem_run_bind, SetM.mem_run_pure] at walked
    obtain ⟨s', ws, rest, wrest, rfl⟩ := walked
    simp only [Stmt.printableAll, Bool.and_eq_true] at h ⊢
    exact ⟨Stmt.walkLeaves_printable s s' ws h.1, Stmt.walkLeavesAll_printable ss rest wrest h.2⟩
termination_by structural ss => ss

theorem Handler.walkLeavesAll_printable : ∀ (hs hs' : List Handler),
    hs' ∈ (Handler.walkLeavesAll (LeafVisit.among R) hs).run → Handler.printableAll q hs = true →
      Handler.printableAll q' hs' = true
  | [], hs', walked, _ => by
    simp only [Handler.walkLeavesAll, SetM.mem_run_pure] at walked
    subst walked
    rfl
  | .mk type name body :: rest, hs', walked, h => by
    simp only [Handler.walkLeavesAll, SetM.mem_run_bind, SetM.mem_run_pure] at walked
    obtain ⟨t, wt, b, wb, more, wmore, rfl⟩ := walked
    simp only [Handler.printableAll, Bool.and_eq_true] at h ⊢
    exact ⟨⟨Expr.walkLeavesOption_printable keeps type false t wt h.1.1,
      Stmt.walkLeavesAll_printable body b wb h.1.2⟩,
      Handler.walkLeavesAll_printable rest more wmore h.2⟩
termination_by structural hs => hs

theorem MatchCase.walkLeavesAll_printable : ∀ (cs cs' : List MatchCase),
    cs' ∈ (MatchCase.walkLeavesAll (LeafVisit.among R) cs).run →
      MatchCase.printableAll q cs = true → MatchCase.printableAll q' cs' = true
  | [], cs', walked, _ => by
    simp only [MatchCase.walkLeavesAll, SetM.mem_run_pure] at walked
    subst walked
    rfl
  | .mk pattern guard body :: rest, cs', walked, h => by
    simp only [MatchCase.walkLeavesAll, SetM.mem_run_bind, SetM.mem_run_pure] at walked
    obtain ⟨p, wp, g, wg, b, wb, more, wmore, rfl⟩ := walked
    simp only [MatchCase.printableAll, Bool.and_eq_true] at h ⊢
    exact ⟨⟨⟨Pattern.walkLeaves_printable keeps pattern p wp h.1.1.1,
      Expr.walkLeavesOption_printable keeps guard false g wg h.1.1.2⟩,
      Stmt.walkLeavesAll_printable body b wb h.1.2⟩,
      MatchCase.walkLeavesAll_printable rest more wmore h.2⟩
termination_by structural cs => cs

end

end LeafWalk

section Bodies

variable {R : Leaf → Expr → Prop} (n : Nat)

theorem Stmt.walkLeavesAll_length (ss : List Stmt) :
    ∀ ss', ss' ∈ (Stmt.walkLeavesAll (LeafVisit.among R) ss).run → ss'.length = ss.length := by
  induction ss with
  | nil =>
    intro ss' walked
    simp only [Stmt.walkLeavesAll, SetM.mem_run_pure] at walked
    subst walked
    rfl
  | cons s ss later =>
    intro ss' walked
    simp only [Stmt.walkLeavesAll, SetM.mem_run_bind, SetM.mem_run_pure] at walked
    obtain ⟨_, -, rest, wrest, rfl⟩ := walked
    simp [later rest wrest]

/- A leaf walk changes no list of statements: each body keeps its length. -/
mutual

theorem Stmt.walkLeaves_bodiesShorter : ∀ (s s' : Stmt),
    s' ∈ (s.walkLeaves (LeafVisit.among R)).run → s.bodiesShorter n = true →
      s'.bodiesShorter n = true
  | .functionDef name args body decorators returns isAsync, s', walked, h => by
    simp only [Stmt.walkLeaves, SetM.mem_run_bind, SetM.mem_run_pure] at walked
    obtain ⟨_, -, b, wb, _, -, _, -, rfl⟩ := walked
    simp only [Stmt.bodiesShorter, Bool.and_eq_true, decide_eq_true_eq] at h ⊢
    exact ⟨Stmt.walkLeavesAll_length body b wb ▸ h.1, Stmt.walkLeavesAll_bodiesShorter body b wb h.2⟩
  | .classDef name bases keywords body decorators, s', walked, h => by
    simp only [Stmt.walkLeaves, SetM.mem_run_bind, SetM.mem_run_pure] at walked
    obtain ⟨_, -, _, -, b, wb, _, -, rfl⟩ := walked
    simp only [Stmt.bodiesShorter] at h ⊢
    exact Stmt.walkLeavesAll_bodiesShorter body b wb h
  | .forLoop target iter body orelse isAsync, s', walked, h => by
    simp only [Stmt.walkLeaves, SetM.mem_run_bind, SetM.mem_run_pure] at walked
    obtain ⟨_, -, _, -, b, wb, o, wo, rfl⟩ := walked
    simp only [Stmt.bodiesShorter, Bool.and_eq_true] at h ⊢
    exact ⟨Stmt.walkLeavesAll_bodiesShorter body b wb h.1,
      Stmt.walkLeavesAll_bodiesShorter orelse o wo h.2⟩
  | .whileLoop test body orelse, s', walked, h => by
    simp only [Stmt.walkLeaves, SetM.mem_run_bind, SetM.mem_run_pure] at walked
    obtain ⟨_, -, b, wb, o, wo, rfl⟩ := walked
    simp only [Stmt.bodiesShorter, Bool.and_eq_true] at h ⊢
    exact ⟨Stmt.walkLeavesAll_bodiesShorter body b wb h.1,
      Stmt.walkLeavesAll_bodiesShorter orelse o wo h.2⟩
  | .ifStmt test body orelse, s', walked, h => by
    simp only [Stmt.walkLeaves, SetM.mem_run_bind, SetM.mem_run_pure] at walked
    obtain ⟨_, -, b, wb, o, wo, rfl⟩ := walked
    simp only [Stmt.bodiesShorter, Bool.and_eq_true] at h ⊢
    exact ⟨Stmt.walkLeavesAll_bodiesShorter body b wb h.1,
      Stmt.walkLeavesAll_bodiesShorter orelse o wo h.2⟩
  | .withBlock items body isAsync, s', walked, h => by
    simp only [Stmt.walkLeaves, SetM.mem_run_bind, SetM.mem_run_pure] at walked
    obtain ⟨_, -, b, wb, rfl⟩ := walked
    simp only [Stmt.bodiesShorter] at h ⊢
    exact Stmt.walkLeavesAll_bodiesShorter body b wb h
  | .matchStmt subject cases, s', walked, h => by
    simp only [Stmt.walkLeaves, SetM.mem_run_bind, SetM.mem_run_pure] at walked
    obtain ⟨_, -, cs, wcs, rfl⟩ := walked
    simp only [Stmt.bodiesShorter] at h ⊢
    exact MatchCase.walkLeavesAll_bodiesShorter cases cs wcs h
  | .tryBlock body handlers orelse finalbody isStar, s', walked, h => by
    simp only [Stmt.walkLeaves, SetM.mem_run_bind, SetM.mem_run_pure] at walked
    obtain ⟨b, wb, hs, whs, o, wo, f, wf, rfl⟩ := walked
    simp only [Stmt.bodiesShorter, Bool.and_eq_true] at h ⊢
    exact ⟨⟨⟨Stmt.walkLeavesAll_bodiesShorter body b wb h.1.1.1,
      Handler.walkLeavesAll_bodiesShorter handlers hs whs h.1.1.2⟩,
      Stmt.walkLeavesAll_bodiesShorter orelse o wo h.1.2⟩,
      Stmt.walkLeavesAll_bodiesShorter finalbody f wf h.2⟩
  | .returnStmt _, s', walked, _ | .delete _, s', walked, _ | .expr _, s', walked, _
  | .importNames _, s', walked, _ | .importFrom _ _ _, s', walked, _ => by
    simp only [Stmt.walkLeaves, LeafVisit.among_imports, SetM.mem_run_bind, SetM.mem_run_map,
      SetM.mem_run_pure] at walked
    obtain ⟨_, -, rfl⟩ := walked
    rfl
  | .assign _ _, s', walked, _ | .augAssign _ _ _, s', walked, _ | .raise _ _, s', walked, _
  | .assert _ _, s', walked, _ => by
    simp only [Stmt.walkLeaves, SetM.mem_run_bind, SetM.mem_run_pure] at walked
    obtain ⟨_, -, _, -, rfl⟩ := walked
    rfl
  | .annAssign _ _ _ _, s', walked, _ => by
    simp only [Stmt.walkLeaves, SetM.mem_run_bind, SetM.mem_run_pure] at walked
    obtain ⟨_, -, _, -, _, -, rfl⟩ := walked
    rfl
  | .global _, s', walked, _ | .nonlocal _, s', walked, _ | .pass, s', walked, _
  | .breakStmt, s', walked, _ | .continueStmt, s', walked, _ => by
    simp only [Stmt.walkLeaves, SetM.mem_run_pure] at walked
    subst walked
    rfl
termination_by structural s => s

theorem Stmt.walkLeavesAll_bodiesShorter : ∀ (ss ss' : List Stmt),
    ss' ∈ (Stmt.walkLeavesAll (LeafVisit.among R) ss).run → Stmt.bodiesShorterAll n ss = true →
      Stmt.bodiesShorterAll n ss' = true
  | [], ss', walked, _ => by
    simp only [Stmt.walkLeavesAll, SetM.mem_run_pure] at walked
    subst walked
    rfl
  | s :: ss, ss', walked, h => by
    simp only [Stmt.walkLeavesAll, SetM.mem_run_bind, SetM.mem_run_pure] at walked
    obtain ⟨s', ws, rest, wrest, rfl⟩ := walked
    simp only [Stmt.bodiesShorterAll, Bool.and_eq_true] at h ⊢
    exact ⟨Stmt.walkLeaves_bodiesShorter s s' ws h.1,
      Stmt.walkLeavesAll_bodiesShorter ss rest wrest h.2⟩
termination_by structural ss => ss

theorem Handler.walkLeavesAll_bodiesShorter : ∀ (hs hs' : List Handler),
    hs' ∈ (Handler.walkLeavesAll (LeafVisit.among R) hs).run →
      Handler.bodiesShorterAll n hs = true → Handler.bodiesShorterAll n hs' = true
  | [], hs', walked, _ => by
    simp only [Handler.walkLeavesAll, SetM.mem_run_pure] at walked
    subst walked
    rfl
  | .mk type name body :: rest, hs', walked, h => by
    simp only [Handler.walkLeavesAll, SetM.mem_run_bind, SetM.mem_run_pure] at walked
    obtain ⟨_, -, b, wb, more, wmore, rfl⟩ := walked
    simp only [Handler.bodiesShorterAll, Bool.and_eq_true] at h ⊢
    exact ⟨Stmt.walkLeavesAll_bodiesShorter body b wb h.1,
      Handler.walkLeavesAll_bodiesShorter rest more wmore h.2⟩
termination_by structural hs => hs

theorem MatchCase.walkLeavesAll_bodiesShorter : ∀ (cs cs' : List MatchCase),
    cs' ∈ (MatchCase.walkLeavesAll (LeafVisit.among R) cs).run →
      MatchCase.bodiesShorterAll n cs = true → MatchCase.bodiesShorterAll n cs' = true
  | [], cs', walked, _ => by
    simp only [MatchCase.walkLeavesAll, SetM.mem_run_pure] at walked
    subst walked
    rfl
  | .mk pattern guard body :: rest, cs', walked, h => by
    simp only [MatchCase.walkLeavesAll, SetM.mem_run_bind, SetM.mem_run_pure] at walked
    obtain ⟨_, -, _, -, b, wb, more, wmore, rfl⟩ := walked
    simp only [MatchCase.bodiesShorterAll, Bool.and_eq_true] at h ⊢
    exact ⟨Stmt.walkLeavesAll_bodiesShorter body b wb h.1,
      MatchCase.walkLeavesAll_bodiesShorter rest more wmore h.2⟩
termination_by structural cs => cs

end

end Bodies

section DefWalk

variable {q : Text → Bool} {A : String → List Stmt → Set BodyEdit} {descend : Bool} {n : Nat}

/-- Body edits that keep a printable body printable, whatever body the walk applies them to (a
walk that descends applies the edit chosen for a body to the body it walked). A walk that does not
descend may rely on the body being shorter than `n`, with every function body inside it shorter
too. -/
structure KeepsBodies (q : Text → Bool) (A : String → List Stmt → Set BodyEdit) (descend : Bool)
    (n : Nat) : Prop where
  edit : ∀ {name : String} {body body' : List Stmt} {edit : BodyEdit}, edit ∈ A name body →
    Stmt.printableAll q body' = true →
      (descend = false → body'.length < n ∧ Stmt.bodiesShorterAll n body' = true) →
        Stmt.printableAll q (edit body') = true

variable (keeps : KeepsBodies q A descend n)
include keeps

set_option linter.unusedSectionVars false

/- A walk that does not descend needs its input's bodies short, one that does needs nothing of
them: the premise on bodies is asked for only when `descend` is false. -/
mutual

theorem Stmt.walkDefs_printable : ∀ (s s' : Stmt),
    s' ∈ (s.walkDefs (DefVisit.among A descend)).run → s.printable q = true →
      (descend = false → s.bodiesShorter n = true) → s'.printable q = true
  | .functionDef name args body decorators returns false, s', walked, h, short => by
    simp only [Stmt.walkDefs] at walked
    obtain ⟨edit, admitted, walked⟩ := SetM.mem_run_bind.mp walked
    rw [DefVisit.mem_among_visit] at admitted
    simp only [Stmt.printable, Bool.and_eq_true] at h
    simp only [Stmt.bodiesShorter, Bool.and_eq_true, decide_eq_true_eq] at short
    -- the body is walked before the edit only when the walk descends
    rcases Bool.eq_false_or_eq_true descend with descends | descends
    · rw [DefVisit.among_descend, if_pos descends] at walked
      simp only [SetM.mem_run_bind, SetM.mem_run_pure] at walked
      obtain ⟨b, wb, rfl⟩ := walked
      have inner := Stmt.walkDefsAll_printable body b wb h.1.1.2 fun d => (short d).2
      simp only [Stmt.printable, Bool.and_eq_true]
      exact ⟨⟨⟨h.1.1.1, keeps.edit admitted inner fun d => absurd (descends.symm.trans d)
        (by decide)⟩, h.1.2⟩, h.2⟩
    · rw [DefVisit.among_descend, if_neg (by simp [descends])] at walked
      simp only [SetM.mem_run_bind, SetM.mem_run_pure] at walked
      obtain ⟨_, rfl, rfl⟩ := walked
      simp only [Stmt.printable, Bool.and_eq_true]
      exact ⟨⟨⟨h.1.1.1, keeps.edit admitted h.1.1.2 fun _ => short descends⟩, h.1.2⟩, h.2⟩
  | .functionDef name args body decorators returns true, s', walked, h, short => by
    simp only [Stmt.walkDefs, SetM.mem_run_bind, SetM.mem_run_pure] at walked
    obtain ⟨b, wb, rfl⟩ := walked
    simp only [Stmt.printable, Bool.and_eq_true] at h ⊢
    simp only [Stmt.bodiesShorter, Bool.and_eq_true] at short
    exact ⟨⟨⟨h.1.1.1, Stmt.walkDefsAll_printable body b wb h.1.1.2 fun d => (short d).2⟩, h.1.2⟩,
      h.2⟩
  | .classDef name bases keywords body decorators, s', walked, h, short => by
    simp only [Stmt.walkDefs, SetM.mem_run_bind, SetM.mem_run_pure] at walked
    obtain ⟨b, wb, rfl⟩ := walked
    simp only [Stmt.printable, Bool.and_eq_true] at h ⊢
    simp only [Stmt.bodiesShorter] at short
    exact ⟨⟨h.1.1, Stmt.walkDefsAll_printable body b wb h.1.2 short⟩, h.2⟩
  | .forLoop target iter body orelse isAsync, s', walked, h, short => by
    simp only [Stmt.walkDefs, SetM.mem_run_bind, SetM.mem_run_pure] at walked
    obtain ⟨b, wb, o, wo, rfl⟩ := walked
    simp only [Stmt.printable, Bool.and_eq_true] at h ⊢
    simp only [Stmt.bodiesShorter, Bool.and_eq_true] at short
    exact ⟨⟨h.1.1, Stmt.walkDefsAll_printable body b wb h.1.2 fun d => (short d).1⟩,
      Stmt.walkDefsAll_printable orelse o wo h.2 fun d => (short d).2⟩
  | .whileLoop test body orelse, s', walked, h, short => by
    simp only [Stmt.walkDefs, SetM.mem_run_bind, SetM.mem_run_pure] at walked
    obtain ⟨b, wb, o, wo, rfl⟩ := walked
    simp only [Stmt.printable, Bool.and_eq_true] at h ⊢
    simp only [Stmt.bodiesShorter, Bool.and_eq_true] at short
    exact ⟨⟨h.1.1, Stmt.walkDefsAll_printable body b wb h.1.2 fun d => (short d).1⟩,
      Stmt.walkDefsAll_printable orelse o wo h.2 fun d => (short d).2⟩
  | .ifStmt test body orelse, s', walked, h, short => by
    simp only [Stmt.walkDefs, SetM.mem_run_bind, SetM.mem_run_pure] at walked
    obtain ⟨b, wb, o, wo, rfl⟩ := walked
    simp only [Stmt.printable, Bool.and_eq_true] at h ⊢
    simp only [Stmt.bodiesShorter, Bool.and_eq_true] at short
    exact ⟨⟨h.1.1, Stmt.walkDefsAll_printable body b wb h.1.2 fun d => (short d).1⟩,
      Stmt.walkDefsAll_printable orelse o wo h.2 fun d => (short d).2⟩
  | .withBlock items body isAsync, s', walked, h, short => by
    simp only [Stmt.walkDefs, SetM.mem_run_bind, SetM.mem_run_pure] at walked
    obtain ⟨b, wb, rfl⟩ := walked
    simp only [Stmt.printable, Bool.and_eq_true] at h ⊢
    simp only [Stmt.bodiesShorter] at short
    exact ⟨h.1, Stmt.walkDefsAll_printable body b wb h.2 short⟩
  | .matchStmt subject cases, s', walked, h, short => by
    simp only [Stmt.walkDefs, SetM.mem_run_map] at walked
    obtain ⟨cs, wcs, rfl⟩ := walked
    simp only [Stmt.printable, Bool.and_eq_true] at h ⊢
    simp only [Stmt.bodiesShorter] at short
    exact ⟨h.1, MatchCase.walkDefsAll_printable cases cs wcs h.2 short⟩
  | .tryBlock body handlers orelse finalbody isStar, s', walked, h, short => by
    simp only [Stmt.walkDefs, SetM.mem_run_bind, SetM.mem_run_pure] at walked
    obtain ⟨b, wb, hs, whs, o, wo, f, wf, rfl⟩ := walked
    simp only [Stmt.printable, Bool.and_eq_true] at h ⊢
    simp only [Stmt.bodiesShorter, Bool.and_eq_true] at short
    exact ⟨⟨⟨Stmt.walkDefsAll_printable body b wb h.1.1.1 fun d => (short d).1.1.1,
      Handler.walkDefsAll_printable handlers hs whs h.1.1.2 fun d => (short d).1.1.2⟩,
      Stmt.walkDefsAll_printable orelse o wo h.1.2 fun d => (short d).1.2⟩,
      Stmt.walkDefsAll_printable finalbody f wf h.2 fun d => (short d).2⟩
  | .returnStmt _, s', walked, h, _ | .delete _, s', walked, h, _ | .assign _ _, s', walked, h, _
  | .augAssign _ _ _, s', walked, h, _ | .annAssign _ _ _ _, s', walked, h, _
  | .raise _ _, s', walked, h, _ | .assert _ _, s', walked, h, _
  | .importNames _, s', walked, h, _ | .importFrom _ _ _, s', walked, h, _
  | .global _, s', walked, h, _ | .nonlocal _, s', walked, h, _ | .expr _, s', walked, h, _
  | .pass, s', walked, h, _ | .breakStmt, s', walked, h, _ | .continueStmt, s', walked, h, _ => by
    simp only [Stmt.walkDefs, SetM.mem_run_pure] at walked
    subst walked
    exact h
termination_by structural s => s

theorem Stmt.walkDefsAll_printable : ∀ (ss ss' : List Stmt),
    ss' ∈ (Stmt.walkDefsAll (DefVisit.among A descend) ss).run → Stmt.printableAll q ss = true →
      (descend = false → Stmt.bodiesShorterAll n ss = true) → Stmt.printableAll q ss' = true
  | [], ss', walked, _, _ => by
    simp only [Stmt.walkDefsAll, SetM.mem_run_pure] at walked
    subst walked
    rfl
  | s :: ss, ss', walked, h, short => by
    simp only [Stmt.walkDefsAll, SetM.mem_run_bind, SetM.mem_run_pure] at walked
    obtain ⟨s', ws, rest, wrest, rfl⟩ := walked
    simp only [Stmt.printableAll, Bool.and_eq_true] at h ⊢
    simp only [Stmt.bodiesShorterAll, Bool.and_eq_true] at short
    exact ⟨Stmt.walkDefs_printable s s' ws h.1 fun d => (short d).1,
      Stmt.walkDefsAll_printable ss rest wrest h.2 fun d => (short d).2⟩
termination_by structural ss => ss

theorem Handler.walkDefsAll_printable : ∀ (hs hs' : List Handler),
    hs' ∈ (Handler.walkDefsAll (DefVisit.among A descend) hs).run →
      Handler.printableAll q hs = true → (descend = false → Handler.bodiesShorterAll n hs = true) →
        Handler.printableAll q hs' = true
  | [], hs', walked, _, _ => by
    simp only [Handler.walkDefsAll, SetM.mem_run_pure] at walked
    subst walked
    rfl
  | .mk type name body :: rest, hs', walked, h, short => by
    simp only [Handler.walkDefsAll, SetM.mem_run_bind, SetM.mem_run_pure] at walked
    obtain ⟨b, wb, more, wmore, rfl⟩ := walked
    simp only [Handler.printableAll, Bool.and_eq_true] at h ⊢
    simp only [Handler.bodiesShorterAll, Bool.and_eq_true] at short
    exact ⟨⟨h.1.1, Stmt.walkDefsAll_printable body b wb h.1.2 fun d => (short d).1⟩,
      Handler.walkDefsAll_printable rest more wmore h.2 fun d => (short d).2⟩
termination_by structural hs => hs

theorem MatchCase.walkDefsAll_printable : ∀ (cs cs' : List MatchCase),
    cs' ∈ (MatchCase.walkDefsAll (DefVisit.among A descend) cs).run →
      MatchCase.printableAll q cs = true →
        (descend = false → MatchCase.bodiesShorterAll n cs = true) →
          MatchCase.printableAll q cs' = true
  | [], cs', walked, _, _ => by
    simp only [MatchCase.walkDefsAll, SetM.mem_run_pure] at walked
    subst walked
    rfl
  | .mk pattern guard body :: rest, cs', walked, h, short => by
    simp only [MatchCase.walkDefsAll, SetM.mem_run_bind, SetM.mem_run_pure] at walked
    obtain ⟨b, wb, more, wmore, rfl⟩ := walked
    simp only [MatchCase.printableAll, Bool.and_eq_true] at h ⊢
    simp only [MatchCase.bodiesShorterAll, Bool.and_eq_true] at short
    exact ⟨⟨h.1.1, Stmt.walkDefsAll_printable body b wb h.1.2 fun d => (short d).1⟩,
      MatchCase.walkDefsAll_printable rest more wmore h.2 fun d => (short d).2⟩
termination_by structural cs => cs

end

end DefWalk

end Obfuscation.Syntax
