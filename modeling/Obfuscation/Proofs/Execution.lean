import Mathlib.Logic.Function.Basic
import Obfuscation.Proofs.Traversal
import Obfuscation.Proofs.Nested
import Obfuscation.Pass.Flatten
/-!
Running statements, as far as the state machine of a flattened body needs it. Atoms run by a
semantics given as a parameter, asked only to respect scoping; then every statement that does not
name `x` leaves its binding alone and runs alike whatever `x` is bound to (`Exec.frame`).
-/

namespace Obfuscation.Syntax

open Pass

def Leaf.isName (x : String) : Leaf → Bool
  | .name y => y == x
  | _ => false

def Arguments.names : Arguments → List String
  | .mk posOnly args vararg kwOnly _ kwarg _ =>
    (posOnly ++ args ++ vararg.toList ++ kwOnly ++ kwarg.toList).map fun | .mk name _ => name

/-- The names a statement declares itself: the parameters of a function it defines, or the names
of a `global` or `nonlocal` declaration. -/
def Stmt.declared : Stmt → List String
  | .functionDef _ args _ _ _ _ => args.names
  | .global names => names
  | .nonlocal names => names
  | _ => []

/-- Whether a statement names `x` anywhere inside it: as a name, as a parameter of a function
defined in it, or in a `global` or `nonlocal` declaration. -/
def Stmt.mentions (x : String) (s : Stmt) : Bool :=
  s.leaves.any (Leaf.isName x) || s.nested.any fun t => t.declared.contains x

theorem Stmt.leavesAll_any (p : Leaf → Bool) (ss : List Stmt) :
    (Stmt.leavesAll ss).any p = ss.any fun s => s.leaves.any p := by
  induction ss with
  | nil => rfl
  | cons s ss ih => simp [Stmt.leavesAll, ih]

theorem Stmt.nestedAll_any (p : Stmt → Bool) (ss : List Stmt) :
    (Stmt.nestedAll ss).any p = ss.any fun s => s.nested.any p := by
  induction ss with
  | nil => rfl
  | cons s ss ih => simp [ih]

theorem Stmt.mentions_whileLoop {x : String} {test : Expr} {body orelse : List Stmt}
    (fresh : (Stmt.whileLoop test body orelse).mentions x = false) :
    body.any (Stmt.mentions x) = false := by
  simp [Stmt.mentions, Stmt.leaves, Stmt.nested, Stmt.leavesAll_any, Stmt.nestedAll_any] at fresh ⊢
  exact fun s mem => ⟨fresh.1.2.1 s mem, fresh.2.2.1 s mem⟩

theorem Stmt.mentions_setState (k : Nat) : (setState k).mentions stateVariable = true := by
  simp [Stmt.mentions, setState, Stmt.leaves, Expr.leavesAll, Expr.leaves, Leaf.isName]

theorem Stmt.mentions_test (k : Nat) (body orelse : List Stmt) :
    (Stmt.ifStmt (stateIs k) body orelse).mentions stateVariable = true := by
  simp [Stmt.mentions, stateIs, Stmt.leaves, Expr.leaves, Leaf.isName]


/-- The statements that run by rules of their own; every other statement is an atom. -/
def Stmt.isStructural : Stmt → Bool
  | .assign [.name x] (.constant (.int _)) => x == stateVariable
  | .ifStmt (.compare (.name x) [.eq] [.constant (.int _)]) _ _ => x == stateVariable
  | .whileLoop (.constant .true) _ _ => true
  | .breakStmt => true
  | _ => false

end Obfuscation.Syntax

namespace Obfuscation.Semantics

open Syntax Pass

inductive Value (α : Type) where
  | int (n : Int)
  | other (a : α)

structure Store (α ε : Type) where
  env : String → Option (Value α)
  out : List ε

variable {α ε : Type}

def Store.put (σ : Store α ε) (x : String) (v : Option (Value α)) : Store α ε :=
  ⟨Function.update σ.env x v, σ.out⟩

@[simp] theorem Store.put_env_self (σ : Store α ε) (x : String) (v : Option (Value α)) :
    (σ.put x v).env x = v := by
  simp [Store.put]

@[simp] theorem Store.put_out (σ : Store α ε) (x : String) (v : Option (Value α)) :
    (σ.put x v).out = σ.out := rfl

@[simp] theorem Store.put_put (σ : Store α ε) (x : String) (v w : Option (Value α)) :
    (σ.put x v).put x w = σ.put x w := by
  simp [Store.put]

theorem Store.put_self (σ : Store α ε) (x : String) : σ.put x (σ.env x) = σ := by
  simp [Store.put]

theorem Store.eq_put_put {σ : Store α ε} {x : String} {v : Option (Value α)}
    (bound : σ.env x = v) (w : Option (Value α)) : σ = (σ.put x w).put x v := by
  rw [Store.put_put, ← bound, Store.put_self]

inductive Completion (α : Type) where
  | normal
  | broke
  | continued
  | returned (v : Value α)
  | raised (e : Value α)

/-- The ends of a function body: normally, by returning or by raising. -/
def Completion.Ends : Completion α → Prop
  | .normal => True
  | .returned _ => True
  | .raised _ => True
  | _ => False

/-- The ends that leave a loop and the function around it: returning and raising. -/
def Completion.Escapes : Completion α → Prop
  | .returned _ => True
  | .raised _ => True
  | _ => False

theorem Completion.Ends.escapes {c : Completion α} (ends : c.Ends) (abrupt : c ≠ .normal) :
    c.Escapes := by
  cases c <;> simp_all [Completion.Ends, Completion.Escapes]

/-- What is run: one statement, the statements of a body in turn, or the iterations of a
`while True` loop over a body. -/
inductive Code where
  | stmt (s : Stmt)
  | body (ss : List Stmt)
  | loop (ss : List Stmt)

def Code.mentions (x : String) : Code → Bool
  | .stmt s => s.mentions x
  | .body ss => ss.any (Stmt.mentions x)
  | .loop ss => ss.any (Stmt.mentions x)

/-- Running code from a store, to an end and a store, when atoms run as `atom` says. A loop
iterates while its body ends normally or by `continue`, ends normally on `break`, and passes a
return or a raise on. -/
inductive Exec (atom : Stmt → Store α ε → Completion α → Store α ε → Prop) :
    Code → Store α ε → Completion α → Store α ε → Prop
  | setState (k : Nat) (σ : Store α ε) :
      Exec atom (.stmt (setState k)) σ .normal (σ.put stateVariable (some (.int k)))
  | testHolds {k : Nat} {body orelse : List Stmt} {σ σ' : Store α ε} {c : Completion α} :
      σ.env stateVariable = some (.int k) → Exec atom (.body body) σ c σ' →
      Exec atom (.stmt (.ifStmt (stateIs k) body orelse)) σ c σ'
  | testFails {k : Nat} {j : Int} {body orelse : List Stmt} {σ σ' : Store α ε} {c : Completion α} :
      σ.env stateVariable = some (.int j) → j ≠ k → Exec atom (.body orelse) σ c σ' →
      Exec atom (.stmt (.ifStmt (stateIs k) body orelse)) σ c σ'
  | whileTrue {body orelse : List Stmt} {σ σ' : Store α ε} {c : Completion α} :
      Exec atom (.loop body) σ c σ' →
      Exec atom (.stmt (.whileLoop (.constant .true) body orelse)) σ c σ'
  | breakStmt (σ : Store α ε) : Exec atom (.stmt .breakStmt) σ .broke σ
  | atom {s : Stmt} {σ σ' : Store α ε} {c : Completion α} :
      s.isStructural = false → atom s σ c σ' → Exec atom (.stmt s) σ c σ'
  | nil (σ : Store α ε) : Exec atom (.body []) σ .normal σ
  | next {s : Stmt} {ss : List Stmt} {σ σ₁ σ₂ : Store α ε} {c : Completion α} :
      Exec atom (.stmt s) σ .normal σ₁ → Exec atom (.body ss) σ₁ c σ₂ →
      Exec atom (.body (s :: ss)) σ c σ₂
  | stop {s : Stmt} {ss : List Stmt} {σ σ₁ : Store α ε} {c : Completion α} :
      Exec atom (.stmt s) σ c σ₁ → c ≠ .normal → Exec atom (.body (s :: ss)) σ c σ₁
  | again {body : List Stmt} {σ σ₁ σ₂ : Store α ε} {c₁ c : Completion α} :
      Exec atom (.body body) σ c₁ σ₁ → c₁ = .normal ∨ c₁ = .continued →
      Exec atom (.loop body) σ₁ c σ₂ → Exec atom (.loop body) σ c σ₂
  | exit {body : List Stmt} {σ σ₁ : Store α ε} :
      Exec atom (.body body) σ .broke σ₁ → Exec atom (.loop body) σ .normal σ₁
  | leave {body : List Stmt} {σ σ₁ : Store α ε} {c : Completion α} :
      Exec atom (.body body) σ c σ₁ → c.Escapes → Exec atom (.loop body) σ c σ₁


/-- Atoms respect scoping: an atom that does not name `x` leaves the binding of `x` as it was,
and runs alike whatever `x` is bound to. -/
def RespectsScope (atom : Stmt → Store α ε → Completion α → Store α ε → Prop) (x : String) :
    Prop :=
  ∀ s σ c σ', s.mentions x = false → atom s σ c σ' →
    σ'.env x = σ.env x ∧ ∀ v, atom s (σ.put x v) c (σ'.put x v)

/-- The tracing semantics of atoms: each atom writes itself to the output and ends normally. -/
def traced (s : Stmt) (σ : Store α Stmt) (c : Completion α) (σ' : Store α Stmt) : Prop :=
  c = .normal ∧ σ' = ⟨σ.env, σ.out ++ [s]⟩

theorem traced_respectsScope (x : String) : RespectsScope (traced (α := α)) x := by
  rintro s σ c σ' - ⟨rfl, rfl⟩
  exact ⟨rfl, fun v => ⟨rfl, rfl⟩⟩

section Frame

variable {atom : Stmt → Store α ε → Completion α → Store α ε → Prop}

/-- Code that does not name the state variable leaves it as it was and runs alike whatever it is
bound to, by induction on the run: the rules of the state machine name the variable, and the
others pass the property on from what they run. -/
theorem Exec.frame (respects : RespectsScope atom stateVariable) {p : Code} {σ σ' : Store α ε}
    {c : Completion α} (run : Exec atom p σ c σ') (fresh : p.mentions stateVariable = false) :
    σ'.env stateVariable = σ.env stateVariable ∧
      ∀ v, Exec atom p (σ.put stateVariable v) c (σ'.put stateVariable v) := by
  induction run with
  | setState k σ =>
    simp [Code.mentions, Stmt.mentions_setState] at fresh
  | testHolds _ _ _ =>
    simp [Code.mentions, Stmt.mentions_test] at fresh
  | testFails _ _ _ _ =>
    simp [Code.mentions, Stmt.mentions_test] at fresh
  | whileTrue _ ih =>
    obtain ⟨keeps, moves⟩ := ih (Stmt.mentions_whileLoop fresh)
    exact ⟨keeps, fun v => .whileTrue (moves v)⟩
  | breakStmt σ => exact ⟨rfl, fun v => .breakStmt _⟩
  | atom structural ran =>
    obtain ⟨keeps, moves⟩ := respects _ _ _ _ fresh ran
    exact ⟨keeps, fun v => .atom structural (moves v)⟩
  | nil σ => exact ⟨rfl, fun v => .nil _⟩
  | next _ _ ih₁ ih₂ =>
    simp only [Code.mentions, List.any_cons, Bool.or_eq_false_iff] at fresh
    obtain ⟨keeps₁, moves₁⟩ := ih₁ fresh.1
    obtain ⟨keeps₂, moves₂⟩ := ih₂ fresh.2
    exact ⟨keeps₂.trans keeps₁, fun v => .next (moves₁ v) (moves₂ v)⟩
  | stop _ abrupt ih =>
    simp only [Code.mentions, List.any_cons, Bool.or_eq_false_iff] at fresh
    obtain ⟨keeps, moves⟩ := ih fresh.1
    exact ⟨keeps, fun v => .stop (moves v) abrupt⟩
  | again _ goesOn _ ih₁ ih₂ =>
    obtain ⟨keeps₁, moves₁⟩ := ih₁ fresh
    obtain ⟨keeps₂, moves₂⟩ := ih₂ fresh
    exact ⟨keeps₂.trans keeps₁, fun v => .again (moves₁ v) goesOn (moves₂ v)⟩
  | exit _ ih =>
    obtain ⟨keeps, moves⟩ := ih fresh
    exact ⟨keeps, fun v => .exit (moves v)⟩
  | leave _ escapes ih =>
    obtain ⟨keeps, moves⟩ := ih fresh
    exact ⟨keeps, fun v => .leave (moves v) escapes⟩

theorem Exec.put_iff (respects : RespectsScope atom stateVariable) {p : Code}
    (fresh : p.mentions stateVariable = false) (τ : Store α ε) (v : Option (Value α))
    (c : Completion α) (σ' : Store α ε) :
    Exec atom p (τ.put stateVariable v) c σ' ↔
      ∃ τ', Exec atom p τ c τ' ∧ σ' = τ'.put stateVariable v := by
  constructor
  · intro run
    obtain ⟨keeps, moves⟩ := Exec.frame respects run fresh
    -- bind the variable back as it was in `τ` to run from `τ` itself
    have back := moves (τ.env stateVariable)
    rw [Store.put_put, Store.put_self] at back
    exact ⟨_, back, Store.eq_put_put (by simpa using keeps) _⟩
  · rintro ⟨τ', run, rfl⟩
    exact (Exec.frame respects run fresh).2 v

end Frame

end Obfuscation.Semantics
