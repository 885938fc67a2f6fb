import Mathlib.Data.List.TakeWhile
import Obfuscation.Proofs.Passes
/-!
The static rules that the grammar and the compiler put on what the passes touch: the bodies that
must not be empty, the expressions that may stand as a value pattern or a mapping key, and the
place of `from __future__` imports, which come first in a module, after its docstring if it has
one. `StaticRules` holds them at every depth of a module; `Stmt.Static` holds them of one
statement at its own level, as every statement a pass brings in does.
-/

namespace Obfuscation.Syntax

open Pass

def MatchCase.body : MatchCase → List Stmt
  | .mk _ _ body => body

def MatchCase.pattern : MatchCase → Pattern
  | .mk pattern _ _ => pattern

def Handler.body : Handler → List Stmt
  | .mk _ _ body => body

/-- The bodies of a statement that the grammar does not allow to be empty: those of a definition,
a loop, an `if`, a `with` and a `try`, and those of its `case` and `except` clauses. An `else` or
`finally` part may be empty, which means it is absent. -/
def Stmt.requiredBodies : Stmt → List (List Stmt)
  | .functionDef _ _ body _ _ _ => [body]
  | .classDef _ _ _ body _ => [body]
  | .forLoop _ _ body _ _ => [body]
  | .whileLoop _ body _ => [body]
  | .ifStmt _ body _ => [body]
  | .withBlock _ body _ => [body]
  | .matchStmt _ cases => cases.map MatchCase.body
  | .tryBlock body handlers _ _ _ => body :: handlers.map Handler.body
  | _ => []

/-- Every body the grammar requires of the statement is non-empty. -/
def Stmt.HasBodies (s : Stmt) : Prop := ∀ b ∈ s.requiredBodies, b ≠ []

instance (s : Stmt) : Decidable s.HasBodies := inferInstanceAs (Decidable (∀ b ∈ _, _))

mutual

def Pattern.values : Pattern → List Expr
  | .value e => [e]
  | .singleton _ => []
  | .sequence ps => Pattern.valuesAll ps
  | .mapping keys ps _ => keys ++ Pattern.valuesAll ps
  | .classPattern _ ps _ kps => Pattern.valuesAll ps ++ Pattern.valuesAll kps
  | .star _ => []
  | .capture none _ => []
  | .capture (some p) _ => p.values
  | .alternatives ps => Pattern.valuesAll ps

def Pattern.valuesAll : List Pattern → List Expr
  | [] => []
  | p :: ps => p.values ++ Pattern.valuesAll ps

end

def Stmt.patternValues : Stmt → List Expr
  | .matchStmt _ cases => Pattern.valuesAll (cases.map MatchCase.pattern)
  | _ => []

def Expr.isDottedName : Expr → Bool
  | .name _ => true
  | .attribute value _ => value.isDottedName
  | _ => false

def Literal.isReal : Literal → Bool
  | .int _ | .float _ => Bool.true
  | _ => Bool.false

def Literal.isPatternLiteral : Literal → Bool
  | .ellipsis => Bool.false
  | _ => Bool.true

def Expr.isSignedReal : Expr → Bool
  | .constant c => c.isReal
  | .unaryOp .uSub (.constant c) => c.isReal
  | _ => false

/-- Whether an expression may stand as a value pattern or a mapping key: a literal (a constant,
a negated number, or a complex number written as a signed real plus or minus an imaginary one)
or an attribute of a dotted name. -/
def Expr.isPatternValue : Expr → Bool
  | .constant c => c.isPatternLiteral
  | .unaryOp .uSub (.constant (.imaginary _)) => true
  | .unaryOp .uSub (.constant c) => c.isReal
  | .binOp left .add (.constant (.imaginary _)) => left.isSignedReal
  | .binOp left .sub (.constant (.imaginary _)) => left.isSignedReal
  | .attribute value _ => value.isDottedName
  | _ => false

/-- Every value pattern and mapping key of the statement is a literal or a dotted name. -/
def Stmt.HasStaticPatterns (s : Stmt) : Prop := ∀ e ∈ s.patternValues, e.isPatternValue = true

instance (s : Stmt) : Decidable s.HasStaticPatterns :=
  inferInstanceAs (Decidable (∀ e ∈ _, _))

def Stmt.isFutureImport : Stmt → Bool
  | .importFrom (some "__future__") _ 0 => true
  | _ => false

/-- The statements of a module after its prologue, which is an optional docstring and then
the `from __future__` imports. -/
def Module.afterPrologue (m : Module) : List Stmt :=
  (dropDocstring m).dropWhile Stmt.isFutureImport

/-- The static rules, at every depth: required bodies are non-empty, patterns are static, and
`from __future__` imports stand in the prologue only. -/
structure StaticRules (m : Module) : Prop where
  bodies : ∀ s ∈ Stmt.nestedAll m, s.HasBodies
  patterns : ∀ s ∈ Stmt.nestedAll m, s.HasStaticPatterns
  future : ∀ s ∈ Stmt.nestedAll (Module.afterPrologue m), s.isFutureImport = false

instance (m : Module) : Decidable (StaticRules m) :=
  decidable_of_iff ((∀ s ∈ Stmt.nestedAll m, s.HasBodies) ∧
      (∀ s ∈ Stmt.nestedAll m, s.HasStaticPatterns) ∧
      ∀ s ∈ Stmt.nestedAll (Module.afterPrologue m), s.isFutureImport = false)
    ⟨fun ⟨b, p, f⟩ => ⟨b, p, f⟩, fun ⟨b, p, f⟩ => ⟨b, p, f⟩⟩

example : StaticRules [.expr (.constant (.str [100] false)),
    .importFrom (some "__future__") [⟨"annotations", none⟩] 0,
    .functionDef "f" Arguments.empty [.pass] [] none false] := by decide

example : ¬ StaticRules [.functionDef "f" Arguments.empty [] [] none false] := by decide

theorem requiredBodies_of_not_isCompound {s : Stmt} (simple : s.isCompound = false) :
    s.requiredBodies = [] := by
  cases s <;> simp_all [Stmt.isCompound, Stmt.requiredBodies]

theorem patternValues_of_not_isCompound {s : Stmt} (simple : s.isCompound = false) :
    s.patternValues = [] := by
  cases s <;> simp_all [Stmt.isCompound, Stmt.patternValues]

structure Stmt.Static (s : Stmt) : Prop where
  bodies : s.HasBodies
  patterns : s.HasStaticPatterns
  notFuture : s.isFutureImport = false

theorem Stmt.Static.of_simple {s : Stmt} (simple : s.isCompound = false)
    (notFuture : s.isFutureImport = false) : s.Static :=
  ⟨by simp [Stmt.HasBodies, requiredBodies_of_not_isCompound simple],
    by simp [Stmt.HasStaticPatterns, patternValues_of_not_isCompound simple], notFuture⟩

instance (s : Stmt) : Decidable s.Static :=
  decidable_of_iff (s.HasBodies ∧ s.HasStaticPatterns ∧ s.isFutureImport = false)
    ⟨fun ⟨b, p, f⟩ => ⟨b, p, f⟩, fun ⟨b, p, f⟩ => ⟨b, p, f⟩⟩

theorem Stmt.Static.ifStmt {test : Expr} {body orelse : List Stmt} (nonempty : body ≠ []) :
    (Stmt.ifStmt test body orelse).Static :=
  ⟨by simpa [Stmt.HasBodies, Stmt.requiredBodies] using nonempty,
    by simp [Stmt.HasStaticPatterns, Stmt.patternValues], rfl⟩

theorem Stmt.Static.whileLoop {test : Expr} {body orelse : List Stmt} (nonempty : body ≠ []) :
    (Stmt.whileLoop test body orelse).Static :=
  ⟨by simpa [Stmt.HasBodies, Stmt.requiredBodies] using nonempty,
    by simp [Stmt.HasStaticPatterns, Stmt.patternValues], rfl⟩

theorem eq_nil_of_map_eq_nil {α β : Type} {f : α → β} {xs ys : List α}
    (same : xs.map f = ys.map f) (empty : ys = []) : xs = [] := by
  subst empty
  simpa using same

theorem ne_nil_of_map_eq {α β : Type} {f : α → β} {xs ys : List α} (same : xs.map f = ys.map f)
    (nonempty : ys ≠ []) : xs ≠ [] :=
  fun empty => nonempty (eq_nil_of_map_eq_nil same.symm empty)

/-! The prologue -/

/-- The prologue of a module: its docstring, if it has one, then its `from __future__` imports. -/
def Module.prologue (m : Module) : List Stmt :=
  (m.take 1).filter Stmt.isStringExpr ++ (dropDocstring m).takeWhile Stmt.isFutureImport

theorem prologue_append_afterPrologue (m : Module) :
    Module.prologue m ++ Module.afterPrologue m = m := by
  rw [Module.prologue, Module.afterPrologue, List.append_assoc, List.takeWhile_append_dropWhile]
  cases m with
  | nil => rfl
  | cons s rest =>
    by_cases docstring : s.isStringExpr <;> simp [dropDocstring, docstring]

/-- A list that may stand before the rest of a module as its prologue: its first statement a
docstring or a `from __future__` import, the others `from __future__` imports. -/
def IsPrologue (p : List Stmt) : Prop :=
  (∀ s ∈ p.take 1, s.isStringExpr = true ∨ s.isFutureImport = true) ∧
    ∀ s ∈ p.drop 1, s.isFutureImport = true

theorem IsPrologue.of_futures {p : List Stmt} (futures : ∀ s ∈ p, s.isFutureImport = true) :
    IsPrologue p :=
  ⟨fun s mem => Or.inr (futures s (List.mem_of_mem_take mem)),
    fun s mem => futures s (List.mem_of_mem_drop mem)⟩

theorem isPrologue_prologue (m : Module) : IsPrologue (Module.prologue m) := by
  have futures : ∀ s ∈ (dropDocstring m).takeWhile Stmt.isFutureImport, s.isFutureImport = true :=
    fun s mem => List.mem_takeWhile_imp mem
  cases m with
  | nil => exact IsPrologue.of_futures (by simp [Module.prologue, dropDocstring])
  | cons s rest =>
    by_cases docstring : s.isStringExpr
    · simp only [dropDocstring, docstring, if_true] at futures
      refine ⟨?_, ?_⟩ <;> simp [Module.prologue, dropDocstring, docstring]
      exact futures
    · apply IsPrologue.of_futures
      simpa [Module.prologue, dropDocstring, docstring] using futures

theorem dropDocstring_suffix (body : List Stmt) : dropDocstring body <:+ body := by
  cases body with
  | nil => exact List.suffix_refl _
  | cons s rest =>
    simp only [dropDocstring]
    split
    · exact List.suffix_cons s rest
    · exact List.suffix_refl _

theorem afterPrologue_suffix (m : Module) : Module.afterPrologue m <:+ m :=
  (List.dropWhile_suffix _).trans (dropDocstring_suffix m)

theorem afterPrologue_append {p : List Stmt} (prologue : IsPrologue p) (r : List Stmt) :
    Module.afterPrologue (p ++ r) <:+ r := by
  obtain ⟨first, rest⟩ := prologue
  cases p with
  | nil => exact afterPrologue_suffix r
  | cons s fs =>
    have futures : ∀ x ∈ fs, x.isFutureImport = true := by simpa using rest
    simp only [Module.afterPrologue, List.cons_append, dropDocstring]
    split
    · rw [List.dropWhile_append_of_pos futures]
      exact List.dropWhile_suffix _
    · rename_i notDocstring
      have future : s.isFutureImport = true := by simpa [notDocstring] using first
      rw [← List.cons_append, List.dropWhile_append_of_pos (by simpa [future] using futures)]
      exact List.dropWhile_suffix _

theorem mem_nestedAll_of_suffix {s : Stmt} {l l' : List Stmt} (suffix : l <:+ l')
    (mem : s ∈ Stmt.nestedAll l) : s ∈ Stmt.nestedAll l' := by
  obtain ⟨front, rfl⟩ := suffix
  simp [mem]

theorem Stmt.isCompound_eq_false_of_isStringExpr {s : Stmt} (string : s.isStringExpr = true) :
    s.isCompound = false := by
  unfold Stmt.isStringExpr at string
  split at string
  · rfl
  · cases string

theorem Stmt.isCompound_eq_false_of_isFutureImport {s : Stmt} (future : s.isFutureImport = true) :
    s.isCompound = false := by
  unfold Stmt.isFutureImport at future
  split at future
  · rfl
  · cases future

theorem Stmt.isFutureImport_eq_false_of_isStringExpr {s : Stmt} (string : s.isStringExpr = true) :
    s.isFutureImport = false := by
  unfold Stmt.isStringExpr at string
  split at string
  · rfl
  · cases string

theorem IsPrologue.mem {p : List Stmt} (prologue : IsPrologue p) {s : Stmt} (mem : s ∈ p) :
    s.isStringExpr = true ∨ s.isFutureImport = true := by
  obtain ⟨first, rest⟩ := prologue
  rw [← List.take_append_drop 1 p, List.mem_append] at mem
  rcases mem with front | back
  · exact first s front
  · exact Or.inr (rest s back)

theorem IsPrologue.not_isCompound {p : List Stmt} (prologue : IsPrologue p) :
    ∀ s ∈ p, s.isCompound = false := by
  intro s mem
  rcases prologue.mem mem with string | future
  · exact Stmt.isCompound_eq_false_of_isStringExpr string
  · exact Stmt.isCompound_eq_false_of_isFutureImport future

theorem afterPrologue_dropDocstring (m : Module) :
    Module.afterPrologue (dropDocstring m) <:+ Module.afterPrologue m := by
  unfold Module.afterPrologue
  cases rest : dropDocstring m with
  | nil => exact List.suffix_refl _
  | cons s tail =>
    simp only [dropDocstring]
    split
    · rename_i string
      rw [List.dropWhile_cons_of_neg (by simp [Stmt.isFutureImport_eq_false_of_isStringExpr string])]
      exact (List.dropWhile_suffix _).trans (List.suffix_cons s tail)
    · exact List.suffix_refl _

theorem staticRules_dropDocstring {m : Module} (rules : StaticRules m) :
    StaticRules (dropDocstring m) := by
  have sub : ∀ s ∈ Stmt.nestedAll (dropDocstring m), s ∈ Stmt.nestedAll m :=
    fun s mem => mem_nestedAll_of_suffix (dropDocstring_suffix m) mem
  exact ⟨fun s mem => rules.bodies s (sub s mem), fun s mem => rules.patterns s (sub s mem),
    fun s mem => rules.future s (mem_nestedAll_of_suffix (afterPrologue_dropDocstring m) mem)⟩

theorem StaticRules.of_static {m : Module} (static : ∀ s ∈ Stmt.nestedAll m, s.Static) :
    StaticRules m :=
  ⟨fun s mem => (static s mem).bodies, fun s mem => (static s mem).patterns,
    fun s mem => (static s (mem_nestedAll_of_suffix (afterPrologue_suffix m) mem)).notFuture⟩

end Obfuscation.Syntax
