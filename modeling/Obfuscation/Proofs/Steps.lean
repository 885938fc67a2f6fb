import Obfuscation.Proofs.Rules
/-!
What the two walks keep of each statement, as the static rules see it. A statement of a walk's
output steps from a statement nested in the input: a leaf walk keeps the length of every required
body and walks every pattern value, and a definition walk keeps which statements of a body are
string expressions and every pattern, except in the body of a visited function, which is an edit
of such a body. What a definition's edit brings in is traced to the edit itself.
-/

namespace Obfuscation.Syntax

open Pass

section LeafWalk

variable {m : Type → Type} [Monad m] [LawfulMonad m] (O : Outcomes m) (v : LeafVisit m)

set_option linter.unusedSectionVars false

theorem Expr.walkLeavesAll_mem :
    ∀ (es es' : List Expr), O.returns (Expr.walkLeavesAll v es) es' →
      ∀ e' ∈ es', ∃ e ∈ es, O.returns (e.walkLeaves v) e'
  | [], es', h, e', mem => by
    simp only [Expr.walkLeavesAll] at h
    cases O.pure_returns h
    simp at mem
  | e :: rest, es', h, e', mem => by
    simp only [Expr.walkLeavesAll] at h
    obtain ⟨x, walked, h⟩ := O.bind_returns h
    obtain ⟨xs, walkedRest, h⟩ := O.bind_returns h
    cases O.pure_returns h
    rcases List.mem_cons.mp mem with rfl | later
    · exact ⟨e, by simp, walked⟩
    · obtain ⟨d, src, walkedD⟩ := Expr.walkLeavesAll_mem rest xs walkedRest e' later
      exact ⟨d, by simp [src], walkedD⟩

mutual

theorem Pattern.walkLeaves_values : ∀ (p p' : Pattern), O.returns (p.walkLeaves v) p' →
    ∀ e' ∈ p'.values, ∃ e ∈ p.values, O.returns (e.walkLeaves v) e'
  | .value e, p', h => by
    simp only [Pattern.walkLeaves] at h
    obtain ⟨e', walked, rfl⟩ := O.map_returns h
    intro x mem
    simp only [Pattern.values, List.mem_singleton] at mem
    subst mem
    exact ⟨e, by simp [Pattern.values], walked⟩
  | .singleton c, p', h => by
    simp only [Pattern.walkLeaves] at h
    cases O.pure_returns h
    simp [Pattern.values]
  | .sequence ps, p', h => by
    simp only [Pattern.walkLeaves] at h
    obtain ⟨ps', walked, rfl⟩ := O.map_returns h
    simpa [Pattern.values] using Pattern.walkLeavesAll_values ps ps' walked
  | .mapping keys ps rest, p', h => by
    simp only [Pattern.walkLeaves] at h
    obtain ⟨ks, walkedKeys, h⟩ := O.bind_returns h
    obtain ⟨ps', walked, h⟩ := O.bind_returns h
    cases O.pure_returns h
    intro e' mem
    simp only [Pattern.values, List.mem_append] at mem ⊢
    rcases mem with key | inner
    · obtain ⟨e, src, walkedE⟩ := Expr.walkLeavesAll_mem O v keys ks walkedKeys e' key
      exact ⟨e, Or.inl src, walkedE⟩
    · obtain ⟨e, src, walkedE⟩ := Pattern.walkLeavesAll_values ps ps' walked e' inner
      exact ⟨e, Or.inr src, walkedE⟩
  | .classPattern cls ps attrs kps, p', h => by
    simp only [Pattern.walkLeaves] at h
    obtain ⟨c, -, h⟩ := O.bind_returns h
    obtain ⟨ps', walked, h⟩ := O.bind_returns h
    obtain ⟨kps', walkedKeywords, h⟩ := O.bind_returns h
    cases O.pure_returns h
    intro e' mem
    simp only [Pattern.values, List.mem_append] at mem ⊢
    rcases mem with inner | inner
    · obtain ⟨e, src, walkedE⟩ := Pattern.walkLeavesAll_values ps ps' walked e' inner
      exact ⟨e, Or.inl src, walkedE⟩
    · obtain ⟨e, src, walkedE⟩ := Pattern.walkLeavesAll_values kps kps' walkedKeywords e' inner
      exact ⟨e, Or.inr src, walkedE⟩
  | .star name, p', h => by
    simp only [Pattern.walkLeaves] at h
    cases O.pure_returns h
    simp [Pattern.values]
  | .capture none name, p', h => by
    simp only [Pattern.walkLeaves] at h
    cases O.pure_returns h
    simp [Pattern.values]
  | .capture (some p) name, p', h => by
    simp only [Pattern.walkLeaves] at h
    obtain ⟨q, walked, h⟩ := O.bind_returns h
    cases O.pure_returns h
    simpa [Pattern.values] using Pattern.walkLeaves_values p q walked
  | .alternatives ps, p', h => by
    simp only [Pattern.walkLeaves] at h
    obtain ⟨ps', walked, rfl⟩ := O.map_returns h
    simpa [Pattern.values] using Pattern.walkLeavesAll_values ps ps' walked

theorem Pattern.walkLeavesAll_values : ∀ (ps ps' : List Pattern),
    O.returns (Pattern.walkLeavesAll v ps) ps' →
      ∀ e' ∈ Pattern.valuesAll ps', ∃ e ∈ Pattern.valuesAll ps, O.returns (e.walkLeaves v) e'
  | [], ps', h => by
    simp only [Pattern.walkLeavesAll] at h
    cases O.pure_returns h
    simp [Pattern.valuesAll]
  | p :: rest, ps', h => by
    simp only [Pattern.walkLeavesAll] at h
    obtain ⟨q, walked, h⟩ := O.bind_returns h
    obtain ⟨qs, walkedRest, h⟩ := O.bind_returns h
    cases O.pure_returns h
    intro e' mem
    simp only [Pattern.valuesAll, List.mem_append] at mem ⊢
    rcases mem with here | later
    · obtain ⟨e, src, walkedE⟩ := Pattern.walkLeaves_values p q walked e' here
      exact ⟨e, Or.inl src, walkedE⟩
    · obtain ⟨e, src, walkedE⟩ := Pattern.walkLeavesAll_values rest qs walkedRest e' later
      exact ⟨e, Or.inr src, walkedE⟩

end

end LeafWalk

section LeafStep

variable {m : Type → Type} [Monad m] [LawfulMonad m] (O : Outcomes m) (v : LeafVisit m)

set_option linter.unusedSectionVars false

/-- What a leaf walk keeps of a statement, as the static rules see it: each required body keeps
its length, an import stays what it was, and each pattern value is a walk of one before. -/
structure LeafStep (s s' : Stmt) : Prop where
  bodies : s'.requiredBodies.map List.length = s.requiredBodies.map List.length
  future : s'.isFutureImport = s.isFutureImport
  values : ∀ e' ∈ s'.patternValues, ∃ e ∈ s.patternValues, O.returns (e.walkLeaves v) e'

/-- A statement of a walk's output is traced to the statements `ss` when it steps from one of
them. -/
def LeafTraced (ss : List Stmt) (s' : Stmt) : Prop := ∃ s ∈ ss, LeafStep O v s s'

variable {O v}

theorem LeafTraced.mono {ss ss' : List Stmt} {s' : Stmt} (traced : LeafTraced O v ss s')
    (sub : ∀ s ∈ ss, s ∈ ss') : LeafTraced O v ss' s' :=
  let ⟨s, src, step⟩ := traced
  ⟨s, sub s src, step⟩

theorem LeafTraced.of_root {t t' : Stmt} {inner inner' : List Stmt}
    (nested : t.nested = t :: inner) (nested' : t'.nested = t' :: inner')
    (root : LeafStep O v t t') (rest : ∀ s' ∈ inner', LeafTraced O v inner s') :
    LeafStep O v t t' ∧ ∀ s' ∈ t'.nested, LeafTraced O v t.nested s' := by
  refine ⟨root, ?_⟩
  intro s' mem
  rw [nested', List.mem_cons] at mem
  rcases mem with rfl | inner
  · exact ⟨t, self_mem_nested t, root⟩
  · exact (rest s' inner).mono fun s src => by simp [nested, src]

theorem LeafStep.of_simple {s s' : Stmt} (bodies : s.requiredBodies = [])
    (bodies' : s'.requiredBodies = []) (future : s'.isFutureImport = s.isFutureImport)
    (values' : s'.patternValues = []) : LeafStep O v s s' :=
  ⟨by simp [bodies, bodies'], future, by simp [values']⟩

theorem LeafStep.plain_nested {s s' : Stmt} (plain : s.isCompound = false ∧ s.isFutureImport = false)
    (plain' : s'.isCompound = false ∧ s'.isFutureImport = false) :
    LeafStep O v s s' ∧ ∀ x ∈ s'.nested, LeafTraced O v s.nested x := by
  have root : LeafStep O v s s' := LeafStep.of_simple (requiredBodies_of_not_isCompound plain.1)
    (requiredBodies_of_not_isCompound plain'.1) (by rw [plain.2, plain'.2])
    (patternValues_of_not_isCompound plain'.1)
  refine ⟨root, fun x mem => ?_⟩
  rw [nested_of_not_isCompound plain'.1, List.mem_singleton] at mem
  subst mem
  exact ⟨s, self_mem_nested s, root⟩

variable (O v)

-- Each theorem names the tree it recurses on: the walk's output and the hypotheses are not
-- structurally smaller, and leaving Lean to search among them is slow.
mutual

theorem Stmt.walkLeaves_steps : ∀ (t t' : Stmt), O.returns (t.walkLeaves v) t' →
    LeafStep O v t t' ∧ ∀ s' ∈ t'.nested, LeafTraced O v t.nested s'
  | .functionDef name args body decorators returns isAsync, t', h => by
    simp only [Stmt.walkLeaves] at h
    obtain ⟨a, -, h⟩ := O.bind_returns h
    obtain ⟨b, walked, h⟩ := O.bind_returns h
    obtain ⟨d, -, h⟩ := O.bind_returns h
    obtain ⟨r, -, h⟩ := O.bind_returns h
    cases O.pure_returns h
    obtain ⟨length, inBody⟩ := Stmt.walkLeavesAll_steps body b walked
    exact LeafTraced.of_root rfl rfl
      ⟨by simp [Stmt.requiredBodies, length], rfl, by simp [Stmt.patternValues]⟩ inBody
  | .classDef name bases keywords body decorators, t', h => by
    simp only [Stmt.walkLeaves] at h
    obtain ⟨bs, -, h⟩ := O.bind_returns h
    obtain ⟨ks, -, h⟩ := O.bind_returns h
    obtain ⟨b, walked, h⟩ := O.bind_returns h
    obtain ⟨d, -, h⟩ := O.bind_returns h
    cases O.pure_returns h
    obtain ⟨length, inBody⟩ := Stmt.walkLeavesAll_steps body b walked
    exact LeafTraced.of_root rfl rfl
      ⟨by simp [Stmt.requiredBodies, length], rfl, by simp [Stmt.patternValues]⟩ inBody
  | .forLoop target iter body orelse isAsync, t', h => by
    simp only [Stmt.walkLeaves] at h
    obtain ⟨tg, -, h⟩ := O.bind_returns h
    obtain ⟨i, -, h⟩ := O.bind_returns h
    obtain ⟨b, walked, h⟩ := O.bind_returns h
    obtain ⟨o, walkedElse, h⟩ := O.bind_returns h
    cases O.pure_returns h
    obtain ⟨length, inBody⟩ := Stmt.walkLeavesAll_steps body b walked
    obtain ⟨-, inElse⟩ := Stmt.walkLeavesAll_steps orelse o walkedElse
    refine LeafTraced.of_root rfl rfl
      ⟨by simp [Stmt.requiredBodies, length], rfl, by simp [Stmt.patternValues]⟩ fun s' inner => ?_
    rcases List.mem_append.mp inner with inner | inner
    · exact (inBody s' inner).mono fun _ src => List.mem_append_left _ src
    · exact (inElse s' inner).mono fun _ src => List.mem_append_right _ src
  | .whileLoop test body orelse, t', h => by
    simp only [Stmt.walkLeaves] at h
    obtain ⟨tg, -, h⟩ := O.bind_returns h
    obtain ⟨b, walked, h⟩ := O.bind_returns h
    obtain ⟨o, walkedElse, h⟩ := O.bind_returns h
    cases O.pure_returns h
    obtain ⟨length, inBody⟩ := Stmt.walkLeavesAll_steps body b walked
    obtain ⟨-, inElse⟩ := Stmt.walkLeavesAll_steps orelse o walkedElse
    refine LeafTraced.of_root rfl rfl
      ⟨by simp [Stmt.requiredBodies, length], rfl, by simp [Stmt.patternValues]⟩ fun s' inner => ?_
    rcases List.mem_append.mp inner with inner | inner
    · exact (inBody s' inner).mono fun _ src => List.mem_append_left _ src
    · exact (inElse s' inner).mono fun _ src => List.mem_append_right _ src
  | .ifStmt test body orelse, t', h => by
    simp only [Stmt.walkLeaves] at h
    obtain ⟨tg, -, h⟩ := O.bind_returns h
    obtain ⟨b, walked, h⟩ := O.bind_returns h
    obtain ⟨o, walkedElse, h⟩ := O.bind_returns h
    cases O.pure_returns h
    obtain ⟨length, inBody⟩ := Stmt.walkLeavesAll_steps body b walked
    obtain ⟨-, inElse⟩ := Stmt.walkLeavesAll_steps orelse o walkedElse
    refine LeafTraced.of_root rfl rfl
      ⟨by simp [Stmt.requiredBodies, length], rfl, by simp [Stmt.patternValues]⟩ fun s' inner => ?_
    rcases List.mem_append.mp inner with inner | inner
    · exact (inBody s' inner).mono fun _ src => List.mem_append_left _ src
    · exact (inElse s' inner).mono fun _ src => List.mem_append_right _ src
  | .withBlock items body isAsync, t', h => by
    simp only [Stmt.walkLeaves] at h
    obtain ⟨ws, -, h⟩ := O.bind_returns h
    obtain ⟨b, walked, h⟩ := O.bind_returns h
    cases O.pure_returns h
    obtain ⟨length, inBody⟩ := Stmt.walkLeavesAll_steps body b walked
    exact LeafTraced.of_root rfl rfl
      ⟨by simp [Stmt.requiredBodies, length], rfl, by simp [Stmt.patternValues]⟩ inBody
  | .matchStmt subject cases, t', h => by
    simp only [Stmt.walkLeaves] at h
    obtain ⟨sj, -, h⟩ := O.bind_returns h
    obtain ⟨cs, walked, h⟩ := O.bind_returns h
    cases O.pure_returns h
    obtain ⟨lengths, values, inCases⟩ := MatchCase.walkLeavesAll_steps cases cs walked
    exact LeafTraced.of_root rfl rfl ⟨by simpa [Stmt.requiredBodies] using lengths, rfl,
      by simpa [Stmt.patternValues] using values⟩ inCases
  | .tryBlock body handlers orelse finalbody isStar, t', h => by
    simp only [Stmt.walkLeaves] at h
    obtain ⟨b, walked, h⟩ := O.bind_returns h
    obtain ⟨hs, walkedHandlers, h⟩ := O.bind_returns h
    obtain ⟨o, walkedElse, h⟩ := O.bind_returns h
    obtain ⟨f, walkedFinal, h⟩ := O.bind_returns h
    cases O.pure_returns h
    obtain ⟨length, inBody⟩ := Stmt.walkLeavesAll_steps body b walked
    obtain ⟨lengths, inHandlers⟩ := Handler.walkLeavesAll_steps handlers hs walkedHandlers
    obtain ⟨-, inElse⟩ := Stmt.walkLeavesAll_steps orelse o walkedElse
    obtain ⟨-, inFinal⟩ := Stmt.walkLeavesAll_steps finalbody f walkedFinal
    refine LeafTraced.of_root rfl rfl ⟨by simpa [Stmt.requiredBodies, length] using lengths, rfl,
      by simp [Stmt.patternValues]⟩ fun s' inner => ?_
    simp only [List.mem_append] at inner
    rcases inner with ((inner | inner) | inner) | inner
    · exact (inBody s' inner).mono fun _ src => by simp [src]
    · exact (inHandlers s' inner).mono fun _ src => by simp [src]
    · exact (inElse s' inner).mono fun _ src => by simp [src]
    · exact (inFinal s' inner).mono fun _ src => by simp [src]
  | .importNames names, t', h | .importFrom _ names _, t', h => by
    simp only [Stmt.walkLeaves] at h
    obtain ⟨_, -, h⟩ := O.bind_returns h
    cases O.pure_returns h
    -- an import comes back as it was
    refine ⟨LeafStep.of_simple rfl rfl rfl rfl, fun s' mem => ?_⟩
    simp only [Stmt.nested, List.mem_singleton] at mem
    subst mem
    exact ⟨_, self_mem_nested _, LeafStep.of_simple rfl rfl rfl rfl⟩
  | .returnStmt value, t', h => by
    simp only [Stmt.walkLeaves] at h
    obtain ⟨_, -, rfl⟩ := O.map_returns h
    exact LeafStep.plain_nested ⟨rfl, rfl⟩ ⟨rfl, rfl⟩
  | .delete targets, t', h => by
    simp only [Stmt.walkLeaves] at h
    obtain ⟨_, -, rfl⟩ := O.map_returns h
    exact LeafStep.plain_nested ⟨rfl, rfl⟩ ⟨rfl, rfl⟩
  | .expr value, t', h => by
    simp only [Stmt.walkLeaves] at h
    obtain ⟨_, -, rfl⟩ := O.map_returns h
    exact LeafStep.plain_nested ⟨rfl, rfl⟩ ⟨rfl, rfl⟩
  | .assign targets value, t', h | .augAssign targets _ value, t', h | .raise targets value, t', h
  | .assert targets value, t', h => by
    simp only [Stmt.walkLeaves] at h
    obtain ⟨_, -, h⟩ := O.bind_returns h
    obtain ⟨_, -, h⟩ := O.bind_returns h
    cases O.pure_returns h
    exact LeafStep.plain_nested ⟨rfl, rfl⟩ ⟨rfl, rfl⟩
  | .annAssign target hint value simple, t', h => by
    simp only [Stmt.walkLeaves] at h
    obtain ⟨_, -, h⟩ := O.bind_returns h
    obtain ⟨_, -, h⟩ := O.bind_returns h
    obtain ⟨_, -, h⟩ := O.bind_returns h
    cases O.pure_returns h
    exact LeafStep.plain_nested ⟨rfl, rfl⟩ ⟨rfl, rfl⟩
  | .global _, t', h | .nonlocal _, t', h | .pass, t', h | .breakStmt, t', h
  | .continueStmt, t', h => by
    simp only [Stmt.walkLeaves] at h
    cases O.pure_returns h
    exact LeafStep.plain_nested ⟨rfl, rfl⟩ ⟨rfl, rfl⟩
termination_by structural t _ _ => t

theorem Stmt.walkLeavesAll_steps : ∀ (body body' : List Stmt),
    O.returns (Stmt.walkLeavesAll v body) body' →
      body'.length = body.length ∧
        ∀ s' ∈ Stmt.nestedAll body', LeafTraced O v (Stmt.nestedAll body) s'
  | [], body', h => by
    simp only [Stmt.walkLeavesAll] at h
    cases O.pure_returns h
    simp
  | t :: rest, body', h => by
    simp only [Stmt.walkLeavesAll] at h
    obtain ⟨t', walked, h⟩ := O.bind_returns h
    obtain ⟨rest', walkedRest, h⟩ := O.bind_returns h
    cases O.pure_returns h
    obtain ⟨length, inRest⟩ := Stmt.walkLeavesAll_steps rest rest' walkedRest
    refine ⟨by simp [length], ?_⟩
    intro s' mem
    simp only [nestedAll_cons, List.mem_append] at mem
    rcases mem with here | later
    · exact ((Stmt.walkLeaves_steps t t' walked).2 s' here).mono fun _ src => by simp [src]
    · exact (inRest s' later).mono fun _ src => by simp [src]
termination_by structural body _ _ => body

theorem Handler.walkLeavesAll_steps : ∀ (handlers handlers' : List Handler),
    O.returns (Handler.walkLeavesAll v handlers) handlers' →
      handlers'.map (List.length ∘ Handler.body) = handlers.map (List.length ∘ Handler.body) ∧
        ∀ s' ∈ Handler.nestedAll handlers', LeafTraced O v (Handler.nestedAll handlers) s'
  | [], handlers', h => by
    simp only [Handler.walkLeavesAll] at h
    cases O.pure_returns h
    simp [Handler.nestedAll]
  | .mk type name body :: rest, handlers', h => by
    simp only [Handler.walkLeavesAll] at h
    obtain ⟨tp, -, h⟩ := O.bind_returns h
    obtain ⟨b, walked, h⟩ := O.bind_returns h
    obtain ⟨rest', walkedRest, h⟩ := O.bind_returns h
    cases O.pure_returns h
    obtain ⟨length, inBody⟩ := Stmt.walkLeavesAll_steps body b walked
    obtain ⟨lengths, inRest⟩ := Handler.walkLeavesAll_steps rest rest' walkedRest
    refine ⟨by simp [Handler.body, length, lengths], ?_⟩
    intro s' mem
    simp only [Handler.nestedAll, List.mem_append] at mem
    rcases mem with inner | later
    · exact (inBody s' inner).mono fun _ src => by simp [Handler.nestedAll, src]
    · exact (inRest s' later).mono fun _ src => by simp [Handler.nestedAll, src]
termination_by structural handlers _ _ => handlers

theorem MatchCase.walkLeavesAll_steps : ∀ (cases cases' : List MatchCase),
    O.returns (MatchCase.walkLeavesAll v cases) cases' →
      cases'.map (List.length ∘ MatchCase.body) = cases.map (List.length ∘ MatchCase.body) ∧
        (∀ e' ∈ Pattern.valuesAll (cases'.map MatchCase.pattern),
          ∃ e ∈ Pattern.valuesAll (cases.map MatchCase.pattern), O.returns (e.walkLeaves v) e') ∧
        ∀ s' ∈ MatchCase.nestedAll cases', LeafTraced O v (MatchCase.nestedAll cases) s'
  | [], cases', h => by
    simp only [MatchCase.walkLeavesAll] at h
    cases O.pure_returns h
    simp [MatchCase.nestedAll, Pattern.valuesAll]
  | .mk pattern guard body :: rest, cases', h => by
    simp only [MatchCase.walkLeavesAll] at h
    obtain ⟨p, walkedPattern, h⟩ := O.bind_returns h
    obtain ⟨g, -, h⟩ := O.bind_returns h
    obtain ⟨b, walked, h⟩ := O.bind_returns h
    obtain ⟨rest', walkedRest, h⟩ := O.bind_returns h
    cases O.pure_returns h
    obtain ⟨length, inBody⟩ := Stmt.walkLeavesAll_steps body b walked
    obtain ⟨lengths, values, inRest⟩ := MatchCase.walkLeavesAll_steps rest rest' walkedRest
    refine ⟨by simp [MatchCase.body, length, lengths], ?_, ?_⟩
    · intro e' mem
      simp only [List.map_cons, MatchCase.pattern, Pattern.valuesAll, List.mem_append] at mem ⊢
      rcases mem with here | later
      · obtain ⟨e, src, walkedE⟩ := Pattern.walkLeaves_values O v pattern p walkedPattern e' here
        exact ⟨e, Or.inl src, walkedE⟩
      · obtain ⟨e, src, walkedE⟩ := values e' later
        exact ⟨e, Or.inr src, walkedE⟩
    · intro s' mem
      simp only [MatchCase.nestedAll, List.mem_append] at mem
      rcases mem with inner | later
      · exact (inBody s' inner).mono fun _ src => by simp [MatchCase.nestedAll, src]
      · exact (inRest s' later).mono fun _ src => by simp [MatchCase.nestedAll, src]
termination_by structural cases _ _ => cases

end

end LeafStep

section DefStep

variable {m : Type → Type} [Monad m] [LawfulMonad m] (O : Outcomes m) (v : DefVisit m)

set_option linter.unusedSectionVars false

/-- What a definition walk keeps of a statement, as the static rules see it: whether it is a string
expression or an import, its patterns, and which statements of each required body are string
expressions; but the body of a visited definition is an edit, which the visit returned, of a body
that keeps them. -/
structure DefStep (s s' : Stmt) : Prop where
  string : s'.isStringExpr = s.isStringExpr
  future : s'.isFutureImport = s.isFutureImport
  values : s'.patternValues = s.patternValues
  bodies : s'.requiredBodies.map (List.map Stmt.isStringExpr) =
      s.requiredBodies.map (List.map Stmt.isStringExpr) ∨
    ∃ name args body decorators returns edit b,
      s = .functionDef name args body decorators returns false ∧
      s' = .functionDef name args (edit b) decorators returns false ∧
      O.returns (v.visit name body) edit ∧ b.map Stmt.isStringExpr = body.map Stmt.isStringExpr

theorem DefStep.refl (s : Stmt) : DefStep O v s s := ⟨rfl, rfl, rfl, Or.inl rfl⟩

/-- A statement of a walk's output is traced to the statements `ss` when it steps from one of
them, or when it is one of those that edits bring in. -/
def DefTraced (Fresh : Stmt → Prop) (ss : List Stmt) (s' : Stmt) : Prop :=
  (∃ s ∈ ss, DefStep O v s s') ∨ Fresh s'

variable {O v} {Fresh : Stmt → Prop}

theorem DefTraced.mono {ss ss' : List Stmt} {s' : Stmt} (traced : DefTraced O v Fresh ss s')
    (sub : ∀ s ∈ ss, s ∈ ss') : DefTraced O v Fresh ss' s' :=
  traced.imp (fun ⟨s, src, step⟩ => ⟨s, sub s src, step⟩) id

theorem DefStep.rebuilt {s s' : Stmt} (string : s'.isStringExpr = s.isStringExpr)
    (future : s'.isFutureImport = s.isFutureImport) (values : s'.patternValues = s.patternValues)
    (bodies : s'.requiredBodies.map (List.map Stmt.isStringExpr) =
      s.requiredBodies.map (List.map Stmt.isStringExpr)) : DefStep O v s s' :=
  ⟨string, future, values, Or.inl bodies⟩

theorem DefTraced.of_root {t t' : Stmt} {inner inner' : List Stmt} (nested : t.nested = t :: inner)
    (nested' : t'.nested = t' :: inner') (root : DefStep O v t t')
    (rest : ∀ s' ∈ inner', DefTraced O v Fresh inner s') :
    DefStep O v t t' ∧ ∀ s' ∈ t'.nested, DefTraced O v Fresh t.nested s' := by
  refine ⟨root, ?_⟩
  intro s' mem
  rw [nested', List.mem_cons] at mem
  rcases mem with rfl | inner
  · exact Or.inl ⟨t, self_mem_nested t, root⟩
  · exact (rest s' inner).mono fun s src => by simp [nested, src]

variable (O v)
variable (fresh : ∀ name body edit, O.returns (v.visit name body) edit →
  ∀ b, ∀ s' ∈ Stmt.nestedAll (edit b), s' ∈ Stmt.nestedAll b ∨ Fresh s')
include fresh

mutual

theorem Stmt.walkDefs_steps : ∀ (t t' : Stmt), O.returns (t.walkDefs v) t' →
    DefStep O v t t' ∧ ∀ s' ∈ t'.nested, DefTraced O v Fresh t.nested s'
  | .functionDef name args body decorators returns false, t', h => by
    simp only [Stmt.walkDefs] at h
    obtain ⟨edit, visited, h⟩ := O.bind_returns h
    -- the body is walked first only when the visit descends
    obtain ⟨b, same, inWalked, h⟩ : ∃ b, b.map Stmt.isStringExpr = body.map Stmt.isStringExpr ∧
        (∀ s' ∈ Stmt.nestedAll b, DefTraced O v Fresh (Stmt.nestedAll body) s') ∧
        O.returns (pure (Stmt.functionDef name args (edit b) decorators returns false)) t' := by
      split at h
      · obtain ⟨b, walked, h⟩ := O.bind_returns h
        obtain ⟨same, inWalked⟩ := Stmt.walkDefsAll_steps body b walked
        exact ⟨b, same, inWalked, h⟩
      · obtain ⟨b, walked, h⟩ := O.bind_returns h
        cases O.pure_returns walked
        exact ⟨body, rfl, fun s' mem => Or.inl ⟨s', mem, DefStep.refl O v s'⟩, h⟩
    cases O.pure_returns h
    refine DefTraced.of_root rfl rfl
      ⟨rfl, rfl, rfl, Or.inr ⟨name, args, body, decorators, returns, edit, b, rfl, rfl, visited, same⟩⟩
      fun s' inner => ?_
    -- what the edit keeps comes from the walked body; the rest it brings in
    rcases fresh name body edit visited b s' inner with kept | introduced
    · exact inWalked s' kept
    · exact Or.inr introduced
  | .functionDef name args body decorators returns true, t', h => by
    simp only [Stmt.walkDefs] at h
    obtain ⟨b, walked, h⟩ := O.bind_returns h
    cases O.pure_returns h
    obtain ⟨same, inBody⟩ := Stmt.walkDefsAll_steps body b walked
    exact DefTraced.of_root rfl rfl (DefStep.rebuilt rfl rfl rfl (by simp [Stmt.requiredBodies, same]))
      inBody
  | .classDef name bases keywords body decorators, t', h => by
    simp only [Stmt.walkDefs] at h
    obtain ⟨b, walked, h⟩ := O.bind_returns h
    cases O.pure_returns h
    obtain ⟨same, inBody⟩ := Stmt.walkDefsAll_steps body b walked
    exact DefTraced.of_root rfl rfl (DefStep.rebuilt rfl rfl rfl (by simp [Stmt.requiredBodies, same]))
      inBody
  | .forLoop target iter body orelse isAsync, t', h => by
    simp only [Stmt.walkDefs] at h
    obtain ⟨b, walked, h⟩ := O.bind_returns h
    obtain ⟨o, walkedElse, h⟩ := O.bind_returns h
    cases O.pure_returns h
    obtain ⟨same, inBody⟩ := Stmt.walkDefsAll_steps body b walked
    obtain ⟨-, inElse⟩ := Stmt.walkDefsAll_steps orelse o walkedElse
    refine DefTraced.of_root rfl rfl
      (DefStep.rebuilt rfl rfl rfl (by simp [Stmt.requiredBodies, same])) fun s' inner => ?_
    rcases List.mem_append.mp inner with inner | inner
    · exact (inBody s' inner).mono fun _ src => List.mem_append_left _ src
    · exact (inElse s' inner).mono fun _ src => List.mem_append_right _ src
  | .whileLoop test body orelse, t', h => by
    simp only [Stmt.walkDefs] at h
    obtain ⟨b, walked, h⟩ := O.bind_returns h
    obtain ⟨o, walkedElse, h⟩ := O.bind_returns h
    cases O.pure_returns h
    obtain ⟨same, inBody⟩ := Stmt.walkDefsAll_steps body b walked
    obtain ⟨-, inElse⟩ := Stmt.walkDefsAll_steps orelse o walkedElse
    refine DefTraced.of_root rfl rfl
      (DefStep.rebuilt rfl rfl rfl (by simp [Stmt.requiredBodies, same])) fun s' inner => ?_
    rcases List.mem_append.mp inner with inner | inner
    · exact (inBody s' inner).mono fun _ src => List.mem_append_left _ src
    · exact (inElse s' inner).mono fun _ src => List.mem_append_right _ src
  | .ifStmt test body orelse, t', h => by
    simp only [Stmt.walkDefs] at h
    obtain ⟨b, walked, h⟩ := O.bind_returns h
    obtain ⟨o, walkedElse, h⟩ := O.bind_returns h
    cases O.pure_returns h
    obtain ⟨same, inBody⟩ := Stmt.walkDefsAll_steps body b walked
    obtain ⟨-, inElse⟩ := Stmt.walkDefsAll_steps orelse o walkedElse
    refine DefTraced.of_root rfl rfl
      (DefStep.rebuilt rfl rfl rfl (by simp [Stmt.requiredBodies, same])) fun s' inner => ?_
    rcases List.mem_append.mp inner with inner | inner
    · exact (inBody s' inner).mono fun _ src => List.mem_append_left _ src
    · exact (inElse s' inner).mono fun _ src => List.mem_append_right _ src
  | .withBlock items body isAsync, t', h => by
    simp only [Stmt.walkDefs] at h
    obtain ⟨b, walked, h⟩ := O.bind_returns h
    cases O.pure_returns h
    obtain ⟨same, inBody⟩ := Stmt.walkDefsAll_steps body b walked
    exact DefTraced.of_root rfl rfl (DefStep.rebuilt rfl rfl rfl (by simp [Stmt.requiredBodies, same]))
      inBody
  | .matchStmt subject cases, t', h => by
    simp only [Stmt.walkDefs] at h
    obtain ⟨cs, walked, rfl⟩ := O.map_returns h
    obtain ⟨patterns, same, inCases⟩ := MatchCase.walkDefsAll_steps cases cs walked
    exact DefTraced.of_root rfl rfl (DefStep.rebuilt rfl rfl (by simp [Stmt.patternValues, patterns])
      (by simpa [Stmt.requiredBodies] using same)) inCases
  | .tryBlock body handlers orelse finalbody isStar, t', h => by
    simp only [Stmt.walkDefs] at h
    obtain ⟨b, walked, h⟩ := O.bind_returns h
    obtain ⟨hs, walkedHandlers, h⟩ := O.bind_returns h
    obtain ⟨o, walkedElse, h⟩ := O.bind_returns h
    obtain ⟨f, walkedFinal, h⟩ := O.bind_returns h
    cases O.pure_returns h
    obtain ⟨same, inBody⟩ := Stmt.walkDefsAll_steps body b walked
    obtain ⟨sameHandlers, inHandlers⟩ := Handler.walkDefsAll_steps handlers hs walkedHandlers
    obtain ⟨-, inElse⟩ := Stmt.walkDefsAll_steps orelse o walkedElse
    obtain ⟨-, inFinal⟩ := Stmt.walkDefsAll_steps finalbody f walkedFinal
    refine DefTraced.of_root rfl rfl (DefStep.rebuilt rfl rfl rfl
      (by simpa [Stmt.requiredBodies, same] using sameHandlers)) fun s' inner => ?_
    simp only [List.mem_append] at inner
    rcases inner with ((inner | inner) | inner) | inner
    · exact (inBody s' inner).mono fun _ src => by simp [src]
    · exact (inHandlers s' inner).mono fun _ src => by simp [src]
    · exact (inElse s' inner).mono fun _ src => by simp [src]
    · exact (inFinal s' inner).mono fun _ src => by simp [src]
  | .returnStmt _, t', h | .delete _, t', h | .assign _ _, t', h | .augAssign _ _ _, t', h
  | .annAssign _ _ _ _, t', h | .raise _ _, t', h | .assert _ _, t', h | .importNames _, t', h
  | .importFrom _ _ _, t', h | .global _, t', h | .nonlocal _, t', h | .expr _, t', h
  | .pass, t', h | .breakStmt, t', h | .continueStmt, t', h => by
    simp only [Stmt.walkDefs] at h
    cases O.pure_returns h
    exact ⟨DefStep.refl O v _, fun s' mem => Or.inl ⟨s', mem, DefStep.refl O v s'⟩⟩
termination_by structural t _ _ => t

theorem Stmt.walkDefsAll_steps : ∀ (body body' : List Stmt),
    O.returns (Stmt.walkDefsAll v body) body' →
      body'.map Stmt.isStringExpr = body.map Stmt.isStringExpr ∧
        ∀ s' ∈ Stmt.nestedAll body', DefTraced O v Fresh (Stmt.nestedAll body) s'
  | [], body', h => by
    simp only [Stmt.walkDefsAll] at h
    cases O.pure_returns h
    simp
  | t :: rest, body', h => by
    simp only [Stmt.walkDefsAll] at h
    obtain ⟨t', walked, h⟩ := O.bind_returns h
    obtain ⟨rest', walkedRest, h⟩ := O.bind_returns h
    cases O.pure_returns h
    obtain ⟨step, inT⟩ := Stmt.walkDefs_steps t t' walked
    obtain ⟨sameRest, inRest⟩ := Stmt.walkDefsAll_steps rest rest' walkedRest
    refine ⟨by simp [step.string, sameRest], ?_⟩
    intro s' mem
    simp only [nestedAll_cons, List.mem_append] at mem
    rcases mem with here | later
    · exact (inT s' here).mono fun _ src => by simp [src]
    · exact (inRest s' later).mono fun _ src => by simp [src]
termination_by structural body _ _ => body

theorem Handler.walkDefsAll_steps : ∀ (handlers handlers' : List Handler),
    O.returns (Handler.walkDefsAll v handlers) handlers' →
      handlers'.map (List.map Stmt.isStringExpr ∘ Handler.body) =
          handlers.map (List.map Stmt.isStringExpr ∘ Handler.body) ∧
        ∀ s' ∈ Handler.nestedAll handlers', DefTraced O v Fresh (Handler.nestedAll handlers) s'
  | [], handlers', h => by
    simp only [Handler.walkDefsAll] at h
    cases O.pure_returns h
    simp [Handler.nestedAll]
  | .mk type name body :: rest, handlers', h => by
    simp only [Handler.walkDefsAll] at h
    obtain ⟨b, walked, h⟩ := O.bind_returns h
    obtain ⟨rest', walkedRest, h⟩ := O.bind_returns h
    cases O.pure_returns h
    obtain ⟨same, inBody⟩ := Stmt.walkDefsAll_steps body b walked
    obtain ⟨sameRest, inRest⟩ := Handler.walkDefsAll_steps rest rest' walkedRest
    refine ⟨by simp [Handler.body, same, sameRest], ?_⟩
    intro s' mem
    simp only [Handler.nestedAll, List.mem_append] at mem
    rcases mem with inner | later
    · exact (inBody s' inner).mono fun _ src => by simp [Handler.nestedAll, src]
    · exact (inRest s' later).mono fun _ src => by simp [Handler.nestedAll, src]
termination_by structural handlers _ _ => handlers

theorem MatchCase.walkDefsAll_steps : ∀ (cases cases' : List MatchCase),
    O.returns (MatchCase.walkDefsAll v cases) cases' →
      cases'.map MatchCase.pattern = cases.map MatchCase.pattern ∧
        cases'.map (List.map Stmt.isStringExpr ∘ MatchCase.body) =
          cases.map (List.map Stmt.isStringExpr ∘ MatchCase.body) ∧
        ∀ s' ∈ MatchCase.nestedAll cases', DefTraced O v Fresh (MatchCase.nestedAll cases) s'
  | [], cases', h => by
    simp only [MatchCase.walkDefsAll] at h
    cases O.pure_returns h
    simp [MatchCase.nestedAll]
  | .mk pattern guard body :: rest, cases', h => by
    simp only [MatchCase.walkDefsAll] at h
    obtain ⟨b, walked, h⟩ := O.bind_returns h
    obtain ⟨rest', walkedRest, h⟩ := O.bind_returns h
    cases O.pure_returns h
    obtain ⟨same, inBody⟩ := Stmt.walkDefsAll_steps body b walked
    obtain ⟨patterns, sameRest, inRest⟩ := MatchCase.walkDefsAll_steps rest rest' walkedRest
    refine ⟨by simp [MatchCase.pattern, patterns], by simp [MatchCase.body, same, sameRest], ?_⟩
    intro s' mem
    simp only [MatchCase.nestedAll, List.mem_append] at mem
    rcases mem with inner | later
    · exact (inBody s' inner).mono fun _ src => by simp [MatchCase.nestedAll, src]
    · exact (inRest s' later).mono fun _ src => by simp [MatchCase.nestedAll, src]
termination_by structural cases _ _ => cases

end

end DefStep

section StepRules

variable {m : Type → Type} [Monad m] {O : Outcomes m}

theorem LeafStep.hasBodies {v : LeafVisit m} {s s' : Stmt} (step : LeafStep O v s s')
    (bodies : s.HasBodies) : s'.HasBodies := by
  intro b' mem empty
  have length : b'.length ∈ s.requiredBodies.map List.length := by
    rw [← step.bodies]
    exact List.mem_map_of_mem mem
  obtain ⟨b, src, same⟩ := List.mem_map.mp length
  subst empty
  exact bodies b src (List.eq_nil_of_length_eq_zero same)

theorem LeafStep.hasStaticPatterns {v : LeafVisit m} {s s' : Stmt} (step : LeafStep O v s s')
    (walks : ∀ e ∈ s.patternValues, ∀ e', O.returns (e.walkLeaves v) e' → e'.isPatternValue = true) :
    s'.HasStaticPatterns := by
  intro e' mem
  obtain ⟨e, src, walked⟩ := step.values e' mem
  exact walks e src e' walked

theorem DefStep.hasBodies {v : DefVisit m} {s s' : Stmt} (step : DefStep O v s s')
    (bodies : s.HasBodies)
    (fills : ∀ name args body decorators returns edit b,
      s = .functionDef name args body decorators returns false → O.returns (v.visit name body) edit →
        b.map Stmt.isStringExpr = body.map Stmt.isStringExpr → edit b ≠ []) :
    s'.HasBodies := by
  rcases step.bodies with same | ⟨name, args, body, decorators, returns, edit, b, rfl, rfl, visited, kept⟩
  · intro b' mem empty
    have marks : b'.map Stmt.isStringExpr ∈ s.requiredBodies.map (List.map Stmt.isStringExpr) := by
      rw [← same]
      exact List.mem_map_of_mem mem
    obtain ⟨b, src, marked⟩ := List.mem_map.mp marks
    exact bodies b src (eq_nil_of_map_eq_nil marked empty)
  · intro b' mem
    simp only [Stmt.requiredBodies, List.mem_singleton] at mem
    subst mem
    exact fills name args body decorators returns edit b rfl visited kept

theorem DefStep.hasStaticPatterns {v : DefVisit m} {s s' : Stmt} (step : DefStep O v s s')
    (static : s.HasStaticPatterns) : s'.HasStaticPatterns := by
  intro e mem
  rw [step.values] at mem
  exact static e mem

end StepRules

end Obfuscation.Syntax
