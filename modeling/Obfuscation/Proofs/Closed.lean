import Mathlib
import Obfuscation.Proofs.Traversal
/-!
Properties of computations that hold of every `pure` and are kept by `bind`: that a run leaves the
work directory alone, that it cannot fail, and the like. Such a property holds of a walk as soon as
it holds of the visits the walk makes. A leaf walk is the visit of its leaves in order followed by
putting back what they gave, so it has the property when the visit of each of its leaves has it; a
definition walk has it when every visit of a definition has it.
-/

namespace Obfuscation.Syntax

/-- A property of computations in `m` that holds of `pure` and is kept by `bind`. -/
structure Closed (m : Type → Type) [Monad m] where
  holds : {α : Type} → m α → Prop
  pure_holds : ∀ {α : Type} (a : α), holds (pure a)
  bind_holds : ∀ {α β : Type} {x : m α} {f : α → m β},
    holds x → (∀ a, holds (f a)) → holds (x >>= f)

namespace Closed

variable {m : Type → Type} [Monad m] (C : Closed m)

theorem map_holds [LawfulMonad m] {α β : Type} {x : m α} (f : α → β) (h : C.holds x) : C.holds (f <$> x) := by
  rw [map_eq_pure_bind]
  exact C.bind_holds h fun a => C.pure_holds (f a)

theorem mapM_holds [LawfulMonad m] {α β : Type} {f : α → m β} :
    ∀ l : List α, (∀ a ∈ l, C.holds (f a)) → C.holds (l.mapM f)
  | [], _ => by
    rw [List.mapM_nil]
    exact C.pure_holds []
  | a :: l, each => by
    rw [List.mapM_cons]
    exact C.bind_holds (each a List.mem_cons_self) fun b =>
      C.bind_holds (mapM_holds l fun c mem => each c (List.mem_cons_of_mem _ mem)) fun bs =>
        C.pure_holds (b :: bs)

theorem forIn_holds {α β : Type} (f : α → β → m (ForInStep β)) :
    ∀ (l : List α) (b : β), (∀ a ∈ l, ∀ b, C.holds (f a b)) → C.holds (forIn l b f)
  | [], b, _ => by
    rw [List.forIn_nil]
    exact C.pure_holds b
  | a :: l, b, each => by
    rw [List.forIn_cons]
    refine C.bind_holds (each a List.mem_cons_self b) fun step => ?_
    cases step with
    | done b => exact C.pure_holds b
    | yield b => exact forIn_holds f l b fun c mem => each c (List.mem_cons_of_mem _ mem)

/-- The property of a computation over a state `σ` that its run from every state has the
property. -/
def stateT (σ : Type) : Closed (StateT σ m) where
  holds x := ∀ s, C.holds (x.run s)
  pure_holds a s := by
    rw [StateT.run_pure]
    exact C.pure_holds _
  bind_holds first rest s := by
    rw [StateT.run_bind]
    exact C.bind_holds (first s) fun p => rest p.1 p.2

theorem stateT_lift {σ α : Type} {x : m α} (h : C.holds x) : (C.stateT σ).holds (StateT.lift x) :=
  fun s => by
    rw [StateT.run_lift]
    exact C.bind_holds h fun a => C.pure_holds (a, s)

theorem stateT_get {σ : Type} : (C.stateT σ).holds (get : StateT σ m σ) := fun s => by
  rw [StateT.run_get]
  exact C.pure_holds (s, s)

theorem stateT_set {σ : Type} (s' : σ) : (C.stateT σ).holds (set s' : StateT σ m PUnit) :=
  fun s => by
    rw [StateT.run_set]
    exact C.pure_holds (PUnit.unit, s')

theorem stateT_modify {σ : Type} (f : σ → σ) : (C.stateT σ).holds (modify f : StateT σ m PUnit) :=
  fun s => by
    rw [StateT.run_modify]
    exact C.pure_holds (PUnit.unit, f s)

end Closed

variable {m : Type → Type} [Monad m] [LawfulMonad m] (C : Closed m)

theorem Stmt.walkLeavesAll_holds (v : LeafVisit m) (ss : List Stmt)
    (each : ∀ leaf ∈ Stmt.leavesAll ss, C.holds (v.leaf leaf)) :
    C.holds (Stmt.walkLeavesAll v ss) := by
  rw [Stmt.walkLeavesAll_eq_fillAll]
  exact C.map_holds _ (C.mapM_holds _ each)

section DefWalk

variable (v : DefVisit m)

-- Only the `match` case uses the monad's lawfulness, which the whole mutual block shares.
set_option linter.unusedSectionVars false

mutual

theorem Stmt.walkDefs_holds (visits : ∀ name body, C.holds (v.visit name body)) :
    ∀ s : Stmt, C.holds (s.walkDefs v)
  | .functionDef name args body decorators returns false => by
    simp only [Stmt.walkDefs]
    refine C.bind_holds (visits name body) fun _ => ?_
    split
    · exact C.bind_holds (Stmt.walkDefsAll_holds visits body) fun _ => C.pure_holds _
    · exact C.bind_holds (C.pure_holds body) fun _ => C.pure_holds _
  | .functionDef name args body decorators returns true
  | .classDef name bases keywords body decorators
  | .withBlock items body isAsync => by
    simp only [Stmt.walkDefs]
    exact C.bind_holds (Stmt.walkDefsAll_holds visits body) fun _ => C.pure_holds _
  | .forLoop target iter body orelse isAsync
  | .whileLoop test body orelse
  | .ifStmt test body orelse => by
    simp only [Stmt.walkDefs]
    exact C.bind_holds (Stmt.walkDefsAll_holds visits body) fun _ =>
      C.bind_holds (Stmt.walkDefsAll_holds visits orelse) fun _ => C.pure_holds _
  | .matchStmt subject cases => by
    simp only [Stmt.walkDefs]
    exact C.map_holds _ (MatchCase.walkDefsAll_holds visits cases)
  | .tryBlock body handlers orelse finalbody isStar => by
    simp only [Stmt.walkDefs]
    exact C.bind_holds (Stmt.walkDefsAll_holds visits body) fun _ =>
      C.bind_holds (Handler.walkDefsAll_holds visits handlers) fun _ =>
      C.bind_holds (Stmt.walkDefsAll_holds visits orelse) fun _ =>
      C.bind_holds (Stmt.walkDefsAll_holds visits finalbody) fun _ => C.pure_holds _
  | .returnStmt _ | .delete _ | .assign _ _ | .augAssign _ _ _ | .annAssign _ _ _ _ | .raise _ _
  | .assert _ _ | .importNames _ | .importFrom _ _ _ | .global _ | .nonlocal _ | .expr _ | .pass
  | .breakStmt | .continueStmt => by
    simp only [Stmt.walkDefs]
    exact C.pure_holds _

theorem Stmt.walkDefsAll_holds (visits : ∀ name body, C.holds (v.visit name body)) :
    ∀ ss : List Stmt, C.holds (Stmt.walkDefsAll v ss)
  | [] => C.pure_holds []
  | s :: rest => by
    simp only [Stmt.walkDefsAll]
    exact C.bind_holds (Stmt.walkDefs_holds visits s) fun _ =>
      C.bind_holds (Stmt.walkDefsAll_holds visits rest) fun _ => C.pure_holds _

theorem Handler.walkDefsAll_holds (visits : ∀ name body, C.holds (v.visit name body)) :
    ∀ hs : List Handler, C.holds (Handler.walkDefsAll v hs)
  | [] => C.pure_holds []
  | .mk type name body :: rest => by
    simp only [Handler.walkDefsAll]
    exact C.bind_holds (Stmt.walkDefsAll_holds visits body) fun _ =>
      C.bind_holds (Handler.walkDefsAll_holds visits rest) fun _ => C.pure_holds _

theorem MatchCase.walkDefsAll_holds (visits : ∀ name body, C.holds (v.visit name body)) :
    ∀ cs : List MatchCase, C.holds (MatchCase.walkDefsAll v cs)
  | [] => C.pure_holds []
  | .mk pattern guard body :: rest => by
    simp only [MatchCase.walkDefsAll]
    exact C.bind_holds (Stmt.walkDefsAll_holds visits body) fun _ =>
      C.bind_holds (MatchCase.walkDefsAll_holds visits rest) fun _ => C.pure_holds _

end

end DefWalk

end Obfuscation.Syntax
