import Obfuscation.Proofs.Steps
/-!
The static rules through a whole walk. A leaf walk that puts names in place of names and gives
string constants back keeps every value pattern a value pattern; a walk gives back the prologue of
a module as it was, so what follows the prologue in the output comes from what followed it in the
input. From these and the steps, a walk keeps the static rules of a module as long as what it
brings in keeps them.
-/

namespace Obfuscation.Syntax

open Pass

section PatternWalk

variable {m : Type → Type} [Monad m] {O : Outcomes m} {v : LeafVisit m}

def LeafVisit.KeepsNames (O : Outcomes m) (v : LeafVisit m) : Prop :=
  ∀ id e, O.returns (v.name id) e → ∃ n, e = .name n

theorem ne_str_of_isReal {c : Literal} (real : c.isReal = true) : ∀ t u, c ≠ .str t u := by
  rintro t u rfl
  cases real

theorem Expr.walkLeaves_constant {c : Literal} (plain : ∀ t u, c ≠ .str t u) {e' : Expr}
    (walked : O.returns ((Expr.constant c).walkLeaves v) e') : e' = .constant c := by
  cases c with
  | str t u => exact absurd rfl (plain t u)
  | _ =>
    simp only [Expr.walkLeaves] at walked
    exact O.pure_returns walked

variable [LawfulMonad m]

theorem Expr.walkLeaves_signedReal {e e' : Expr} (real : e.isSignedReal = true)
    (walked : O.returns (e.walkLeaves v) e') : e' = e := by
  unfold Expr.isSignedReal at real
  split at real
  · exact Expr.walkLeaves_constant (ne_str_of_isReal real) walked
  · simp only [Expr.walkLeaves] at walked
    obtain ⟨x, walkedX, rfl⟩ := O.map_returns walked
    rw [Expr.walkLeaves_constant (ne_str_of_isReal real) walkedX]
  · cases real

theorem Expr.walkLeaves_complex {left e' : Expr} {o : BinaryOp} {x : Float}
    (real : left.isSignedReal = true)
    (walked : O.returns ((Expr.binOp left o (.constant (.imaginary x))).walkLeaves v) e') :
    e' = .binOp left o (.constant (.imaginary x)) := by
  simp only [Expr.walkLeaves] at walked
  obtain ⟨l, walkedL, walked⟩ := O.bind_returns walked
  obtain ⟨r, walkedR, walked⟩ := O.bind_returns walked
  cases O.pure_returns walked
  cases O.pure_returns walkedR
  rw [Expr.walkLeaves_signedReal real walkedL]

theorem Expr.walkLeaves_dottedName (names : v.KeepsNames O) (e e' : Expr)
    (dotted : e.isDottedName = true) (walked : O.returns (e.walkLeaves v) e') :
    e'.isDottedName = true := by
  unfold Expr.isDottedName at dotted
  split at dotted
  · rename_i id
    simp only [Expr.walkLeaves] at walked
    obtain ⟨n, rfl⟩ := names id e' walked
    rfl
  · rename_i value attr
    simp only [Expr.walkLeaves] at walked
    obtain ⟨value', walkedValue, rfl⟩ := O.map_returns walked
    exact Expr.walkLeaves_dottedName names value value' dotted walkedValue
  · cases dotted

theorem Expr.walkLeaves_patternValue (names : v.KeepsNames O) {e e' : Expr}
    (value : e.isPatternValue = true)
    (text : ∀ t u, e = .constant (.str t u) → ∀ x, O.returns (v.text t u) x → x = e)
    (walked : O.returns (e.walkLeaves v) e') : e'.isPatternValue = true := by
  have original := value
  unfold Expr.isPatternValue at value
  split at value
  · rename_i c
    by_cases string : ∃ t u, c = .str t u
    · obtain ⟨t, u, rfl⟩ := string
      simp only [Expr.walkLeaves] at walked
      rw [text t u rfl e' walked]
      exact original
    · rw [Expr.walkLeaves_constant (fun t u same => string ⟨t, u, same⟩) walked]
      exact original
  · simp only [Expr.walkLeaves] at walked
    obtain ⟨x, walkedX, rfl⟩ := O.map_returns walked
    cases O.pure_returns walkedX
    exact original
  · simp only [Expr.walkLeaves] at walked
    obtain ⟨x, walkedX, rfl⟩ := O.map_returns walked
    rw [Expr.walkLeaves_constant (ne_str_of_isReal value) walkedX]
    exact original
  · rw [Expr.walkLeaves_complex value walked]
    exact original
  · rw [Expr.walkLeaves_complex value walked]
    exact original
  · simp only [Expr.walkLeaves] at walked
    obtain ⟨x, walkedX, rfl⟩ := O.map_returns walked
    exact Expr.walkLeaves_dottedName names _ x value walkedX
  · cases value

end PatternWalk

section PrologueWalk

variable {m : Type → Type} [Monad m] {O : Outcomes m}

theorem Stmt.walkDefs_of_not_isCompound {v : DefVisit m} {s : Stmt} (simple : s.isCompound = false) :
    s.walkDefs v = pure s := by
  cases s <;> simp [Stmt.isCompound, Stmt.walkDefs] at simple ⊢

theorem Stmt.walkDefsAll_simple_append {v : DefVisit m} {p r out : List Stmt}
    (simple : ∀ s ∈ p, s.isCompound = false) (walked : O.returns (Stmt.walkDefsAll v (p ++ r)) out) :
    ∃ r', out = p ++ r' ∧ O.returns (Stmt.walkDefsAll v r) r' := by
  induction p generalizing out with
  | nil => exact ⟨out, rfl, walked⟩
  | cons s p ih =>
    simp only [List.cons_append, Stmt.walkDefsAll] at walked
    obtain ⟨s', walkedS, walked⟩ := O.bind_returns walked
    obtain ⟨rest', walkedRest, walked⟩ := O.bind_returns walked
    cases O.pure_returns walked
    rw [Stmt.walkDefs_of_not_isCompound (simple s List.mem_cons_self)] at walkedS
    cases O.pure_returns walkedS
    obtain ⟨r', rfl, walkedR⟩ := ih (fun t mem => simple t (List.mem_cons_of_mem s mem)) walkedRest
    exact ⟨r', rfl, walkedR⟩

variable [LawfulMonad m]

theorem Stmt.walkLeaves_of_prologue {v : LeafVisit m}
    (text : ∀ t u e, O.returns (v.text t u) e → e = .constant (.str t u)) {s s' : Stmt}
    (prologue : s.isStringExpr = true ∨ s.isFutureImport = true)
    (walked : O.returns (s.walkLeaves v) s') : s' = s := by
  rcases prologue with string | future
  · unfold Stmt.isStringExpr at string
    split at string
    · rename_i t u
      simp only [Stmt.walkLeaves, Expr.walkLeaves] at walked
      obtain ⟨e, walkedE, rfl⟩ := O.map_returns walked
      rw [text t u e walkedE]
    · cases string
  · unfold Stmt.isFutureImport at future
    split at future
    · simp only [Stmt.walkLeaves] at walked
      obtain ⟨_, -, walked⟩ := O.bind_returns walked
      exact O.pure_returns walked
    · cases future

theorem Stmt.walkLeavesAll_prologue_append {v : LeafVisit m}
    (text : ∀ t u e, O.returns (v.text t u) e → e = .constant (.str t u)) {p r out : List Stmt}
    (prologue : ∀ s ∈ p, s.isStringExpr = true ∨ s.isFutureImport = true)
    (walked : O.returns (Stmt.walkLeavesAll v (p ++ r)) out) :
    ∃ r', out = p ++ r' ∧ O.returns (Stmt.walkLeavesAll v r) r' := by
  induction p generalizing out with
  | nil => exact ⟨out, rfl, walked⟩
  | cons s p ih =>
    simp only [List.cons_append, Stmt.walkLeavesAll] at walked
    obtain ⟨s', walkedS, walked⟩ := O.bind_returns walked
    obtain ⟨rest', walkedRest, walked⟩ := O.bind_returns walked
    cases O.pure_returns walked
    cases Stmt.walkLeaves_of_prologue text (prologue s List.mem_cons_self) walkedS
    obtain ⟨r', rfl, walkedR⟩ :=
      ih (fun t mem => prologue t (List.mem_cons_of_mem s mem)) walkedRest
    exact ⟨r', rfl, walkedR⟩

end PrologueWalk

section WalkRules

variable {m : Type → Type} [Monad m] [LawfulMonad m] {O : Outcomes m}

/-- A definition walk keeps the static rules when whatever its edits bring in keeps them at its
own level and no edit empties the body of a function of the module. -/
theorem StaticRules.of_walkDefs {v : DefVisit m} {ms out : List Stmt}
    (fresh : ∀ name body edit, O.returns (v.visit name body) edit →
      ∀ b, ∀ s' ∈ Stmt.nestedAll (edit b), s' ∈ Stmt.nestedAll b ∨ s'.Static)
    (fills : ∀ name args body decorators returns edit,
      .functionDef name args body decorators returns false ∈ Stmt.nestedAll ms →
      O.returns (v.visit name body) edit →
      ∀ b, b.map Stmt.isStringExpr = body.map Stmt.isStringExpr → edit b ≠ [])
    (rules : StaticRules ms) (walked : O.returns (Stmt.walkDefsAll v ms) out) :
    StaticRules out := by
  have traced := (Stmt.walkDefsAll_steps O v fresh ms out walked).2
  refine ⟨fun s' mem => ?_, fun s' mem => ?_, ?_⟩
  · rcases traced s' mem with ⟨s, src, step⟩ | new
    · refine step.hasBodies (rules.bodies s src) ?_
      rintro name args body decorators returns edit b rfl visited same
      exact fills name args body decorators returns edit src visited b same
    · exact new.bodies
  · rcases traced s' mem with ⟨s, src, step⟩ | new
    · exact step.hasStaticPatterns (rules.patterns s src)
    · exact new.patterns
  · -- the prologue comes back as it was, so what follows it steps from what followed it before
    rw [← prologue_append_afterPrologue ms] at walked
    obtain ⟨r', rfl, walkedRest⟩ :=
      Stmt.walkDefsAll_simple_append (isPrologue_prologue ms).not_isCompound walked
    intro s' mem
    have inRest := mem_nestedAll_of_suffix (afterPrologue_append (isPrologue_prologue ms) r') mem
    rcases (Stmt.walkDefsAll_steps O v fresh _ r' walkedRest).2 s' inRest with
      ⟨s, src, step⟩ | new
    · rw [step.future]
      exact rules.future s src
    · exact new.notFuture

theorem StaticRules.of_walkDefs_filling {v : DefVisit m} {ms out : List Stmt}
    (fresh : ∀ name body edit, O.returns (v.visit name body) edit →
      ∀ b, ∀ s' ∈ Stmt.nestedAll (edit b), s' ∈ Stmt.nestedAll b ∨ s'.Static)
    (fills : ∀ name body edit, O.returns (v.visit name body) edit → ∀ b, b ≠ [] → edit b ≠ [])
    (rules : StaticRules ms) (walked : O.returns (Stmt.walkDefsAll v ms) out) :
    StaticRules out := by
  refine StaticRules.of_walkDefs fresh ?_ rules walked
  intro name args body decorators returns edit mem visited b same
  have nonempty : body ≠ [] := rules.bodies _ mem body (by simp [Stmt.requiredBodies])
  exact fills name body edit visited b (ne_nil_of_map_eq same nonempty)

theorem StaticRules.of_walkLeaves {v : LeafVisit m} {ms out : List Stmt} (names : v.KeepsNames O)
    (text : ∀ t u e, O.returns (v.text t u) e → e = .constant (.str t u))
    (rules : StaticRules ms) (walked : O.returns (Stmt.walkLeavesAll v ms) out) :
    StaticRules out := by
  have traced := (Stmt.walkLeavesAll_steps O v ms out walked).2
  refine ⟨fun s' mem => ?_, fun s' mem => ?_, ?_⟩
  · obtain ⟨s, src, step⟩ := traced s' mem
    exact step.hasBodies (rules.bodies s src)
  · obtain ⟨s, src, step⟩ := traced s' mem
    refine step.hasStaticPatterns fun e value e' walkedE => ?_
    refine Expr.walkLeaves_patternValue names (rules.patterns s src e value) ?_ walkedE
    intro t u same x returned
    exact (text t u x returned).trans same.symm
  · rw [← prologue_append_afterPrologue ms] at walked
    obtain ⟨r', rfl, walkedRest⟩ :=
      Stmt.walkLeavesAll_prologue_append text (fun s mem => (isPrologue_prologue ms).mem mem) walked
    intro s' mem
    have inRest := mem_nestedAll_of_suffix (afterPrologue_append (isPrologue_prologue ms) r') mem
    obtain ⟨s, src, step⟩ := (Stmt.walkLeavesAll_steps O v _ r' walkedRest).2 s' inRest
    rw [step.future]
    exact rules.future s src

end WalkRules

end Obfuscation.Syntax
