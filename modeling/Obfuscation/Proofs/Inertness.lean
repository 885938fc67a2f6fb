import Obfuscation.Proofs.Injection
import Obfuscation.Proofs.Flattening
/-!
What the injected statements do when a function runs. An opaque predicate runs nothing wherever it
stands; dead code prints its line and then the body runs as before
(`Module.injections_run_like_module`). The line is seen: no run of `def f(): pass` with dead code
ends with the output of `pass` (`deadCode_writes_line`).
-/

namespace Obfuscation.Syntax

def BinaryOp.onIntegers : BinaryOp → Option (Int → Int → Int)
  | .add => some (· + ·)
  | .sub => some (· - ·)
  | .mult => some (· * ·)
  | _ => none

def CompareOp.onIntegers : CompareOp → Option (Int → Int → Bool)
  | .eq => some fun a b => decide (a = b)
  | .notEq => some fun a b => decide (a ≠ b)
  | .lt => some fun a b => decide (a < b)
  | .ltE => some fun a b => decide (a ≤ b)
  | .gt => some fun a b => decide (a > b)
  | .gtE => some fun a b => decide (a ≥ b)
  | _ => none

/-- The value of an expression built from integer literals by `+`, `-` and `*`, in the unbounded
integers of Python; `none` for any other expression. -/
def Expr.intValue : Expr → Option Int
  | .constant (.int n) => some n
  | .binOp left op right => do
    let f ← op.onIntegers
    return f (← left.intValue) (← right.intValue)
  | _ => none

/-- The truth of one comparison between two integer expressions; `none` for any other
expression. -/
def Expr.testValue : Expr → Option Bool
  | .compare left [op] [right] => do
    let f ← op.onIntegers
    return f (← left.intValue) (← right.intValue)
  | _ => none

/-- Whether a statement is a conditional with no `else` whose test is a false integer
comparison. -/
def Stmt.isFalseGuard : Stmt → Bool
  | .ifStmt test _ [] => test.testValue == some false
  | _ => false

end Obfuscation.Syntax

namespace Obfuscation.Semantics

open Syntax Pass

variable {α ε : Type}

theorem opaqueTest_testValue : opaqueTest.testValue = some false := rfl

def Store.emit (σ : Store α ε) (e : ε) : Store α ε := ⟨σ.env, σ.out ++ [e]⟩

/-- Atoms run a conditional as Python does when its test is a false comparison of integer
arithmetic and it has no `else`: it ends normally and leaves the store as it was. -/
def SkipsFalseTests (atom : Stmt → Store α ε → Completion α → Store α ε → Prop) : Prop :=
  ∀ test body σ c σ', test.testValue = some false →
    (atom (.ifStmt test body []) σ c σ' ↔ c = .normal ∧ σ' = σ)

/-- Atoms run `print` on a string literal as the builtin does: it writes the string, as `line`
puts it in the output, and ends normally. -/
def PrintsLines (atom : Stmt → Store α ε → Completion α → Store α ε → Prop)
    (line : String → ε) : Prop :=
  ∀ t σ c σ', atom (printStmt t) σ c σ' ↔ c = .normal ∧ σ' = σ.emit (line t)

/-- A statement runs as `f`: from every store `σ` it ends normally, in the store `f σ`. -/
def RunsAs (atom : Stmt → Store α ε → Completion α → Store α ε → Prop) (x : Stmt)
    (f : Store α ε → Store α ε) : Prop :=
  ∀ σ c σ', Exec atom (.stmt x) σ c σ' ↔ c = .normal ∧ σ' = f σ

section Bodies

variable {atom : Stmt → Store α ε → Completion α → Store α ε → Prop}

theorem exec_atom_iff {s : Stmt} (plain : s.isStructural = false) (σ : Store α ε)
    (c : Completion α) (σ' : Store α ε) : Exec atom (.stmt s) σ c σ' ↔ atom s σ c σ' := by
  constructor
  · intro run
    cases run with
    | atom _ ran => exact ran
    | setState | testHolds | testFails | whileTrue | breakStmt =>
      simp [Stmt.isStructural, setState, stateIs] at plain
  · exact .atom plain

theorem exec_append_iff (pre suf : List Stmt) (σ : Store α ε) (c : Completion α)
    (σ' : Store α ε) :
    Exec atom (.body (pre ++ suf)) σ c σ' ↔
      (∃ σ₁, Exec atom (.body pre) σ .normal σ₁ ∧ Exec atom (.body suf) σ₁ c σ') ∨
        (Exec atom (.body pre) σ c σ' ∧ c ≠ .normal) := by
  induction pre generalizing σ with
  | nil =>
    rw [List.nil_append]
    constructor
    · intro run
      exact .inl ⟨σ, .nil σ, run⟩
    · rintro (⟨_, ran, run⟩ | ⟨ran, abrupt⟩)
      · obtain ⟨-, rfl⟩ := (exec_nil_iff _ _ _).mp ran
        exact run
      · exact absurd ((exec_nil_iff _ _ _).mp ran).1 abrupt
  | cons s pre ih =>
    rw [List.cons_append, exec_cons_iff]
    constructor
    · rintro (⟨σ₁, first, rest⟩ | ⟨first, abrupt⟩)
      · rcases (ih σ₁).mp rest with ⟨σ₂, ran, after⟩ | ⟨ran, abrupt⟩
        · exact .inl ⟨σ₂, .next first ran, after⟩
        · exact .inr ⟨.next first ran, abrupt⟩
      · exact .inr ⟨.stop first abrupt, abrupt⟩
    · rintro (⟨σ₂, ran, after⟩ | ⟨ran, abrupt⟩)
      · rcases (exec_cons_iff _ _ _ _ _).mp ran with ⟨σ₁, first, rest⟩ | ⟨-, abnormal⟩
        · exact .inl ⟨σ₁, first, (ih σ₁).mpr (.inl ⟨σ₂, rest, after⟩)⟩
        · exact absurd rfl abnormal
      · rcases (exec_cons_iff _ _ _ _ _).mp ran with ⟨σ₁, first, rest⟩ | ⟨first, -⟩
        · exact .inl ⟨σ₁, first, (ih σ₁).mpr (.inr ⟨rest, abrupt⟩)⟩
        · exact .inr ⟨first, abrupt⟩

theorem exec_cons_of_runsAs {x : Stmt} {f : Store α ε → Store α ε} (runs : RunsAs atom x f)
    (rest : List Stmt) (σ : Store α ε) (c : Completion α) (σ' : Store α ε) :
    Exec atom (.body (x :: rest)) σ c σ' ↔ Exec atom (.body rest) (f σ) c σ' :=
  exec_cons_of_ends_in (runs σ) rest c σ'

/-- A statement that ends normally and changes nothing may stand anywhere in a body: the body
with it runs exactly as the body, whatever the body's statements end with. -/
theorem exec_insertAt_of_inert {x : Stmt} (inert : RunsAs atom x id) (body : List Stmt)
    (p : Nat) (σ : Store α ε) (c : Completion α) (σ' : Store α ε) :
    Exec atom (.body (insertAt body p x)) σ c σ' ↔ Exec atom (.body body) σ c σ' := by
  -- split the body where the statement goes; the statement is skipped at the seam
  rw [insertAt, exec_append_iff]
  simp only [exec_cons_of_runsAs inert, id]
  rw [← exec_append_iff, List.take_append_drop]

theorem opaqueStmt_runsAs_id (skips : SkipsFalseTests atom) : RunsAs atom opaqueStmt id :=
  fun σ c σ' =>
    (exec_atom_iff rfl σ c σ').trans (skips _ _ σ c σ' opaqueTest_testValue)

theorem printStmt_runsAs {line : String → ε} (prints : PrintsLines atom line) (t : String) :
    RunsAs atom (printStmt t) (Store.emit · (line t)) :=
  fun σ c σ' => (exec_atom_iff rfl σ c σ').trans (prints t σ c σ')

end Bodies

/-! The two injections -/

section Injections

variable {atom : Stmt → Store α ε → Completion α → Store α ε → Prop}

theorem eq_of_mem_opaqueInsertions {e : Entropy} :
    ∀ {k : Nat} {sites : List DefSite} {i : Insertion}, i ∈ opaqueInsertions e k sites →
      i = none ∨ ∃ p, i = some (p, opaqueStmt)
  | _, [], _, mem => absurd mem List.not_mem_nil
  | k, d :: ds, i, mem => by
    simp only [opaqueInsertions] at mem
    split at mem
    · rcases List.mem_cons.mp mem with rfl | later
      · exact .inl rfl
      · exact eq_of_mem_opaqueInsertions later
    · rcases List.mem_cons.mp mem with rfl | later
      · exact .inr ⟨_, rfl⟩
      · exact eq_of_mem_opaqueInsertions later

theorem eq_of_mem_deadInsertions {e : Entropy} {n : Nat} {i : Insertion}
    (mem : i ∈ deadInsertions e n) : ∃ k, i = some (0, deadStmt (e.drawAt k 1000 9999)) := by
  simp only [deadInsertions, List.mem_map, List.mem_range] at mem
  obtain ⟨k, -, rfl⟩ := mem
  exact ⟨k, rfl⟩

/-- Neither injection changes what a function does beyond the line dead code prints. Each
definition's body takes its insertion as the walk reaches it, and for every semantics of atoms
that runs false integer tests and prints string literals as Python does, a body with its opaque
predicate runs exactly as the body, and a body with its dead code runs as the body from a store
where the line `deadcode_n` has been printed. -/
theorem Module.injections_run_like_module (verbose : Bool) (m : Module) (session : Session)
    (line : String → ε) (skips : SkipsFalseTests atom) (prints : PrintsLines atom line) :
    (∃ session', (Module.injectOpaque verbose m).run.run session =
        (.ok (Stmt.editDefs m
          ((opaqueInsertions session.entropy 0 (Stmt.defSitesAll m)).map Insertion.edit)),
          session') ∧
      ∀ i ∈ opaqueInsertions session.entropy 0 (Stmt.defSitesAll m), ∀ body σ c σ',
        Exec atom (.body (i.edit body)) σ c σ' ↔ Exec atom (.body body) σ c σ') ∧
    (∃ session', (Module.injectDeadCode verbose m).run.run session =
        (.ok (Stmt.editDefs m
          ((deadInsertions session.entropy (Stmt.defSitesAll m).length).map Insertion.edit)),
          session') ∧
      ∀ i ∈ deadInsertions session.entropy (Stmt.defSitesAll m).length, ∃ n : Int,
        i = some (0, deadStmt n) ∧ ∀ body σ c σ',
          Exec atom (.body (i.edit body)) σ c σ' ↔
            Exec atom (.body body) (σ.emit (line ("deadcode_" ++ intText n))) c σ') := by
  obtain ⟨guardedSession, guarded, -⟩ := Module.injectOpaque_run verbose m session
  obtain ⟨deadSession, dead, -⟩ := Module.injectDeadCode_run verbose m session
  refine ⟨⟨guardedSession, guarded, fun i mem body σ c σ' => ?_⟩,
    ⟨deadSession, dead, fun i mem => ?_⟩⟩
  · rcases eq_of_mem_opaqueInsertions mem with rfl | ⟨p, rfl⟩
    · exact Iff.rfl
    · exact exec_insertAt_of_inert (opaqueStmt_runsAs_id skips) body p σ c σ'
  · obtain ⟨k, rfl⟩ := eq_of_mem_deadInsertions mem
    exact ⟨_, rfl, exec_cons_of_runsAs (printStmt_runsAs prints _)⟩

end Injections

/-- Tracing that knows false tests: a conditional with a false integer test runs nothing, and
every other atom writes itself to the output and ends normally. -/
def guardedTraced (s : Stmt) (σ : Store α Stmt) (c : Completion α) (σ' : Store α Stmt) : Prop :=
  c = .normal ∧ σ' = if s.isFalseGuard then σ else σ.emit s

theorem guardedTraced_skipsFalseTests : SkipsFalseTests (guardedTraced (α := α)) := by
  intro test body σ c σ' falseTest
  simp [guardedTraced, Stmt.isFalseGuard, falseTest]

theorem guardedTraced_printsLines : PrintsLines (guardedTraced (α := α)) printStmt := by
  intro t σ c σ'
  simp [guardedTraced, Stmt.isFalseGuard, printStmt]

/-- Under tracing that knows false tests, `y` with an opaque predicate before it, as the
injection puts it into `def f(): y`, runs exactly as `y`. -/
theorem opaque_predicate_keeps_trace :
    SkipsFalseTests (guardedTraced (α := Unit)) ∧ PrintsLines (guardedTraced (α := Unit)) printStmt ∧
      ∀ c σ', Exec guardedTraced (.body [opaqueStmt, .expr (.name "y")])
          (⟨fun _ => none, []⟩ : Store Unit Stmt) c σ' ↔
        Exec guardedTraced (.body [.expr (.name "y")]) (⟨fun _ => none, []⟩ : Store Unit Stmt) c σ' := by
  obtain ⟨⟨_, -, guarded⟩, -⟩ := Module.injections_run_like_module false
    [.functionDef "f" .empty [.expr (.name "y")] [] none false] {} printStmt
    guardedTraced_skipsFalseTests guardedTraced_printsLines
  exact ⟨guardedTraced_skipsFalseTests, guardedTraced_printsLines,
    guarded (some (0, opaqueStmt)) (List.mem_singleton.mpr rfl) [.expr (.name "y")] _⟩

/-- Dead code is seen. `def f(): pass` takes a print of `deadcode_1000`; under tracing that knows
false tests, `pass` alone ends with `pass` as its output, and every run of the body with dead code
ends with the printed line before it. -/
theorem deadCode_writes_line :
    ((Module.injectDeadCode false [.functionDef "f" .empty [.pass] [] none false]).run.run {}).1 =
      .ok [.functionDef "f" .empty [deadStmt 1000, .pass] [] none false] ∧
    Exec guardedTraced (.body [.pass]) (⟨fun _ => none, []⟩ : Store Unit Stmt) .normal
      ⟨fun _ => none, [.pass]⟩ ∧
    ∀ c σ', Exec guardedTraced (.body [deadStmt 1000, .pass])
      (⟨fun _ => none, []⟩ : Store Unit Stmt) c σ' → σ'.out = [deadStmt 1000, .pass] := by
  refine ⟨rfl, .next (.atom rfl ⟨rfl, rfl⟩) (.nil _), fun c σ' run => ?_⟩
  have printed := (exec_cons_of_runsAs (printStmt_runsAs guardedTraced_printsLines
    ("deadcode_" ++ intText 1000)) _ _ _ _).mp run
  obtain ⟨-, rfl⟩ := (exec_atom_iff rfl _ _ _).mp ((exec_singleton_iff _ _ _ _).mp printed)
  rfl

end Obfuscation.Semantics
