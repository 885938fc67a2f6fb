import Mathlib.Data.Set.Functor
import Obfuscation.Proofs.DefinitionWalk
import Obfuscation.Proofs.Outcome
/-!
The walks over the syntax, run over sets. A walk is written once for any monad; run in the set
monad with a visit that may give anything a relation admits, a leaf walk gives every tree with an
admitted expression in the place of each leaf, and a definition walk every tree with an admitted
edit applied to each function body it reaches. Whatever a walk returns in a monad with outcomes
lies among these, for the relation of what its visits can return. Facts about what a pass returns
are then proved over these sets, by recursion over the syntax, with no monad left in them.
-/

namespace Obfuscation

section Run

variable {α β : Type}

@[simp] theorem SetM.mem_run_pure {a b : α} : b ∈ (pure a : SetM α).run ↔ b = a := Iff.rfl

@[simp] theorem SetM.mem_run_bind {s : SetM α} {f : α → SetM β} {b : β} :
    b ∈ (s >>= f).run ↔ ∃ a ∈ s.run, b ∈ (f a).run := by
  have union : (s >>= f).run = ⋃ a ∈ s.run, (f a).run := rfl
  rw [union, Set.mem_iUnion₂]
  simp only [exists_prop]

@[simp] theorem SetM.mem_run_map {s : SetM α} {f : α → β} {b : β} :
    b ∈ (f <$> s).run ↔ ∃ a ∈ s.run, b = f a := by
  rw [← bind_pure_comp, SetM.mem_run_bind]
  simp

theorem SetM.mem_run_mapM {f : α → SetM β} :
    ∀ {L : List α} {rs : List β}, rs ∈ (L.mapM f).run ↔ List.Forall₂ (fun a b => b ∈ (f a).run) L rs
  | [], rs => by simp
  | a :: L, rs => by
    simp only [List.mapM_cons, SetM.mem_run_bind, SetM.mem_run_pure]
    constructor
    · rintro ⟨b, first, bs, rest, rfl⟩
      exact .cons first (SetM.mem_run_mapM.mp rest)
    · intro fits
      cases fits with
      | cons first rest => exact ⟨_, first, _, SetM.mem_run_mapM.mpr rest, rfl⟩

end Run

namespace Syntax

/-- The leaf visit that may put in the place of a name or string leaf any expression `R` admits
there, and keeps imports. -/
def LeafVisit.among (R : Leaf → Expr → Prop) : LeafVisit SetM where
  name id := ({e | R (.name id) e} : Set Expr)
  text t u := ({e | R (.text t u) e} : Set Expr)
  part t u := ({e | R (.part t u) e} : Set Expr)
  imports _ := pure ()

/-- The definition walk that may apply to each function body it reaches any edit `A` admits for
the definition's name and body, descending into bodies first when `descend` holds. -/
def DefVisit.among (A : String → List Stmt → Set BodyEdit) (descend : Bool) : DefVisit SetM where
  visit name body := A name body
  descend := descend

@[simp] theorem LeafVisit.mem_among_name {R : Leaf → Expr → Prop} {id : String} {e : Expr} :
    e ∈ ((LeafVisit.among R).name id).run ↔ R (.name id) e := Iff.rfl

@[simp] theorem LeafVisit.mem_among_text {R : Leaf → Expr → Prop} {t : Text} {u : Bool} {e : Expr} :
    e ∈ ((LeafVisit.among R).text t u).run ↔ R (.text t u) e := Iff.rfl

@[simp] theorem LeafVisit.mem_among_part {R : Leaf → Expr → Prop} {t : Text} {u : Bool} {e : Expr} :
    e ∈ ((LeafVisit.among R).part t u).run ↔ R (.part t u) e := Iff.rfl

@[simp] theorem LeafVisit.among_imports {R : Leaf → Expr → Prop} {s : Stmt} :
    (LeafVisit.among R).imports s = pure () := rfl

@[simp] theorem DefVisit.mem_among_visit {A : String → List Stmt → Set BodyEdit} {descend : Bool}
    {name : String} {body : List Stmt} {edit : BodyEdit} :
    edit ∈ ((DefVisit.among A descend).visit name body).run ↔ edit ∈ A name body := Iff.rfl

@[simp] theorem DefVisit.among_descend {A : String → List Stmt → Set BodyEdit} {descend : Bool} :
    (DefVisit.among A descend).descend = descend := rfl

theorem Stmt.fillAll_mem_among {R : Leaf → Expr → Prop} {ss : List Stmt} {rs : List (Option Expr)}
    (fits : List.Forall₂ (fun ℓ r => r ∈ ((LeafVisit.among R).leaf ℓ).run) (Stmt.leavesAll ss) rs) :
    Stmt.fillAll ss rs ∈ (Stmt.walkLeavesAll (LeafVisit.among R) ss).run := by
  rw [Stmt.walkLeavesAll_eq_fillAll]
  exact SetM.mem_run_map.mpr ⟨rs, SetM.mem_run_mapM.mpr fits, rfl⟩

section Outcomes

variable {m : Type → Type} [Monad m] [LawfulMonad m] (O : Outcomes m)

set_option linter.unusedSectionVars false

/-- What the visits of `v` can return at each name and string leaf, as `O` sees it. -/
def LeafVisit.admits (v : LeafVisit m) : Leaf → Expr → Prop
  | .name id, e => O.returns (v.name id) e
  | .text t u, e => O.returns (v.text t u) e
  | .part t u, e => O.returns (v.part t u) e
  | .imports _, _ => False

/-- The body edits the visit of `v` can give at a definition, as `O` sees it. -/
def DefVisit.admits (v : DefVisit m) (name : String) (body : List Stmt) : Set BodyEdit :=
  {edit | O.returns (v.visit name body) edit}

variable {O}

theorem LeafVisit.mem_among_leaf {v : LeafVisit m} {ℓ : Leaf} {r : Option Expr}
    (visited : O.returns (v.leaf ℓ) r) : r ∈ ((LeafVisit.among (v.admits O)).leaf ℓ).run := by
  cases ℓ with
  | name id =>
    obtain ⟨e, named, rfl⟩ := O.map_returns visited
    exact SetM.mem_run_map.mpr ⟨e, named, rfl⟩
  | text t u =>
    obtain ⟨e, kept, rfl⟩ := O.map_returns visited
    exact SetM.mem_run_map.mpr ⟨e, kept, rfl⟩
  | part t u =>
    obtain ⟨e, kept, rfl⟩ := O.map_returns visited
    exact SetM.mem_run_map.mpr ⟨e, kept, rfl⟩
  | imports s =>
    obtain ⟨_, -, rfl⟩ := O.map_returns visited
    exact SetM.mem_run_map.mpr ⟨(), rfl, rfl⟩

theorem Stmt.walkLeavesAll_mem_among {v : LeafVisit m} {ss ss' : List Stmt}
    (walked : O.returns (Stmt.walkLeavesAll v ss) ss') :
    ss' ∈ (Stmt.walkLeavesAll (LeafVisit.among (v.admits O)) ss).run := by
  rw [Stmt.walkLeavesAll_eq_fillAll] at walked
  obtain ⟨rs, visited, rfl⟩ := O.map_returns walked
  exact Stmt.fillAll_mem_among ((O.forall₂_of_mapM _ _ visited).imp fun _ _ => LeafVisit.mem_among_leaf)

variable (v : DefVisit m)

/- A definition walk need not descend, so it is not a traversal of its sites; the simulation
goes statement by statement, each bind of the walk in `m` matched by the same bind over sets. -/
mutual

theorem Stmt.walkDefs_mem_among : ∀ (s s' : Stmt), O.returns (s.walkDefs v) s' →
    s' ∈ (s.walkDefs (DefVisit.among (v.admits O) v.descend)).run
  | .functionDef name args body decorators returns false, s', h => by
    simp only [Stmt.walkDefs] at h ⊢
    obtain ⟨edit, visited, h⟩ := O.bind_returns h
    refine SetM.mem_run_bind.mpr ⟨edit, visited, ?_⟩
    -- the body is walked first only when the visit descends
    cases descends : v.descend with
    | false =>
      simp only [descends, DefVisit.among_descend, Bool.false_eq_true, ↓reduceIte] at h ⊢
      obtain ⟨b, walked, h⟩ := O.bind_returns h
      cases O.pure_returns walked
      exact SetM.mem_run_bind.mpr ⟨body, rfl, O.pure_returns h⟩
    | true =>
      simp only [descends, DefVisit.among_descend, ↓reduceIte] at h ⊢
      obtain ⟨b, walked, h⟩ := O.bind_returns h
      have inner := Stmt.walkDefsAll_mem_among body b walked
      rw [descends] at inner
      exact SetM.mem_run_bind.mpr ⟨b, inner, O.pure_returns h⟩
  | .functionDef name args body decorators returns true, s', h => by
    simp only [Stmt.walkDefs] at h ⊢
    obtain ⟨b, walked, h⟩ := O.bind_returns h
    cases O.pure_returns h
    exact SetM.mem_run_bind.mpr ⟨b, Stmt.walkDefsAll_mem_among body b walked, rfl⟩
  | .classDef name bases keywords body decorators, s', h => by
    simp only [Stmt.walkDefs] at h ⊢
    obtain ⟨b, walked, h⟩ := O.bind_returns h
    cases O.pure_returns h
    exact SetM.mem_run_bind.mpr ⟨b, Stmt.walkDefsAll_mem_among body b walked, rfl⟩
  | .forLoop target iter body orelse isAsync, s', h => by
    simp only [Stmt.walkDefs] at h ⊢
    obtain ⟨b, walked, h⟩ := O.bind_returns h
    obtain ⟨o, walkedElse, h⟩ := O.bind_returns h
    cases O.pure_returns h
    exact SetM.mem_run_bind.mpr ⟨b, Stmt.walkDefsAll_mem_among body b walked,
      SetM.mem_run_bind.mpr ⟨o, Stmt.walkDefsAll_mem_among orelse o walkedElse, rfl⟩⟩
  | .whileLoop test body orelse, s', h => by
    simp only [Stmt.walkDefs] at h ⊢
    obtain ⟨b, walked, h⟩ := O.bind_returns h
    obtain ⟨o, walkedElse, h⟩ := O.bind_returns h
    cases O.pure_returns h
    exact SetM.mem_run_bind.mpr ⟨b, Stmt.walkDefsAll_mem_among body b walked,
      SetM.mem_run_bind.mpr ⟨o, Stmt.walkDefsAll_mem_among orelse o walkedElse, rfl⟩⟩
  | .ifStmt test body orelse, s', h => by
    simp only [Stmt.walkDefs] at h ⊢
    obtain ⟨b, walked, h⟩ := O.bind_returns h
    obtain ⟨o, walkedElse, h⟩ := O.bind_returns h
    cases O.pure_returns h
    exact SetM.mem_run_bind.mpr ⟨b, Stmt.walkDefsAll_mem_among body b walked,
      SetM.mem_run_bind.mpr ⟨o, Stmt.walkDefsAll_mem_among orelse o walkedElse, rfl⟩⟩
  | .withBlock items body isAsync, s', h => by
    simp only [Stmt.walkDefs] at h ⊢
    obtain ⟨b, walked, h⟩ := O.bind_returns h
    cases O.pure_returns h
    exact SetM.mem_run_bind.mpr ⟨b, Stmt.walkDefsAll_mem_among body b walked, rfl⟩
  | .matchStmt subject cases, s', h => by
    simp only [Stmt.walkDefs] at h ⊢
    obtain ⟨cs, walked, rfl⟩ := O.map_returns h
    exact SetM.mem_run_map.mpr ⟨cs, MatchCase.walkDefsAll_mem_among cases cs walked, rfl⟩
  | .tryBlock body handlers orelse finalbody isStar, s', h => by
    simp only [Stmt.walkDefs] at h ⊢
    obtain ⟨b, walked, h⟩ := O.bind_returns h
    obtain ⟨hs, walkedHandlers, h⟩ := O.bind_returns h
    obtain ⟨o, walkedElse, h⟩ := O.bind_returns h
    obtain ⟨f, walkedFinal, h⟩ := O.bind_returns h
    cases O.pure_returns h
    exact SetM.mem_run_bind.mpr ⟨b, Stmt.walkDefsAll_mem_among body b walked,
      SetM.mem_run_bind.mpr ⟨hs, Handler.walkDefsAll_mem_among handlers hs walkedHandlers,
        SetM.mem_run_bind.mpr ⟨o, Stmt.walkDefsAll_mem_among orelse o walkedElse,
          SetM.mem_run_bind.mpr ⟨f, Stmt.walkDefsAll_mem_among finalbody f walkedFinal, rfl⟩⟩⟩⟩
  | .returnStmt _, s', h | .delete _, s', h | .assign _ _, s', h | .augAssign _ _ _, s', h
  | .annAssign _ _ _ _, s', h | .raise _ _, s', h | .assert _ _, s', h | .importNames _, s', h
  | .importFrom _ _ _, s', h | .global _, s', h | .nonlocal _, s', h | .expr _, s', h
  | .pass, s', h | .breakStmt, s', h | .continueStmt, s', h => by
    simp only [Stmt.walkDefs] at h ⊢
    exact O.pure_returns h
termination_by structural s _ _ => s

theorem Stmt.walkDefsAll_mem_among : ∀ (ss ss' : List Stmt), O.returns (Stmt.walkDefsAll v ss) ss' →
    ss' ∈ (Stmt.walkDefsAll (DefVisit.among (v.admits O) v.descend) ss).run
  | [], ss', h => by
    simp only [Stmt.walkDefsAll] at h ⊢
    exact O.pure_returns h
  | s :: rest, ss', h => by
    simp only [Stmt.walkDefsAll] at h ⊢
    obtain ⟨s', walked, h⟩ := O.bind_returns h
    obtain ⟨rest', walkedRest, h⟩ := O.bind_returns h
    cases O.pure_returns h
    exact SetM.mem_run_bind.mpr ⟨s', Stmt.walkDefs_mem_among s s' walked,
      SetM.mem_run_bind.mpr ⟨rest', Stmt.walkDefsAll_mem_among rest rest' walkedRest, rfl⟩⟩
termination_by structural ss _ _ => ss

theorem Handler.walkDefsAll_mem_among : ∀ (hs hs' : List Handler),
    O.returns (Handler.walkDefsAll v hs) hs' →
      hs' ∈ (Handler.walkDefsAll (DefVisit.among (v.admits O) v.descend) hs).run
  | [], hs', h => by
    simp only [Handler.walkDefsAll] at h ⊢
    exact O.pure_returns h
  | .mk type name body :: rest, hs', h => by
    simp only [Handler.walkDefsAll] at h ⊢
    obtain ⟨b, walked, h⟩ := O.bind_returns h
    obtain ⟨rest', walkedRest, h⟩ := O.bind_returns h
    cases O.pure_returns h
    exact SetM.mem_run_bind.mpr ⟨b, Stmt.walkDefsAll_mem_among body b walked,
      SetM.mem_run_bind.mpr ⟨rest', Handler.walkDefsAll_mem_among rest rest' walkedRest, rfl⟩⟩
termination_by structural hs _ _ => hs

theorem MatchCase.walkDefsAll_mem_among : ∀ (cs cs' : List MatchCase),
    O.returns (MatchCase.walkDefsAll v cs) cs' →
      cs' ∈ (MatchCase.walkDefsAll (DefVisit.among (v.admits O) v.descend) cs).run
  | [], cs', h => by
    simp only [MatchCase.walkDefsAll] at h ⊢
    exact O.pure_returns h
  | .mk pattern guard body :: rest, cs', h => by
    simp only [MatchCase.walkDefsAll] at h ⊢
    obtain ⟨b, walked, h⟩ := O.bind_returns h
    obtain ⟨rest', walkedRest, h⟩ := O.bind_returns h
    cases O.pure_returns h
    exact SetM.mem_run_bind.mpr ⟨b, Stmt.walkDefsAll_mem_among body b walked,
      SetM.mem_run_bind.mpr ⟨rest', MatchCase.walkDefsAll_mem_among rest rest' walkedRest, rfl⟩⟩
termination_by structural cs _ _ => cs

end

end Outcomes

end Syntax

end Obfuscation
