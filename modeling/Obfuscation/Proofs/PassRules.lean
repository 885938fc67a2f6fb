import Obfuscation.Proofs.WalkRules
/-!
Each pass keeps the static rules, given what it needs. Renaming, flattening and both injections
keep them of every module that keeps them: what they bring in (the state machine of a flattened
body, a dead statement, an opaque guard) keeps them at its own level, and no edit empties a body.
Sealing and putting `decrypt_string` first keep them only of a module without any
`from __future__` import, and sealing only where no pattern is a non-empty string; stripping keeps
them only where no function's body is its docstring alone.
-/

namespace Obfuscation.Syntax

/-- Whether a statement is a function, not `async`, whose body is a docstring alone. -/
def Stmt.isDocstringOnly : Stmt → Bool
  | .functionDef _ _ body _ _ false => body.map Stmt.isStringExpr == [true]
  | _ => false

/-- Whether an expression is a string constant that sealing replaces: a non-empty one. -/
def Expr.isSealable : Expr → Bool
  | .constant (.str t _) => !t.isEmpty
  | _ => false

/-- No statement of the module, at any depth, is a `from __future__` import. -/
def Module.NoFutureImports (m : Module) : Prop := ∀ s ∈ Stmt.nestedAll m, s.isFutureImport = false

instance (m : Module) : Decidable (Module.NoFutureImports m) :=
  inferInstanceAs (Decidable (∀ s ∈ _, _))

/-- No value pattern or mapping key of the module is a string that sealing replaces. -/
def Module.NoSealablePatterns (m : Module) : Prop :=
  ∀ s ∈ Stmt.nestedAll m, ∀ e ∈ s.patternValues, e.isSealable = false

instance (m : Module) : Decidable (Module.NoSealablePatterns m) :=
  inferInstanceAs (Decidable (∀ s ∈ _, _))

end Obfuscation.Syntax

namespace Obfuscation.Pass

open Syntax

/-! What each pass brings in -/

@[simp] theorem nested_setState (i : Nat) : (setState i).nested = [setState i] := rfl

theorem arms_fresh (body : List Stmt) (k : Nat) :
    ∀ s' ∈ Stmt.nestedAll ((body.zipIdx k).map fun (t, i) => stepArm t i),
      s' ∈ Stmt.nestedAll body ∨ s'.Static := by
  induction body generalizing k with
  | nil => simp
  | cons t rest ih =>
    intro s' mem
    simp only [List.zipIdx_cons, List.map_cons, nestedAll_cons, List.mem_append] at mem
    rcases mem with here | later
    · -- an arm runs its statement, then moves the state on
      simp only [stepArm, Stmt.nested, nestedAll_cons, nestedAll_nil, List.append_nil,
        List.mem_cons, List.mem_append] at here
      rcases here with rfl | inner | step
      · exact Or.inr (Stmt.Static.ifStmt (List.cons_ne_nil _ _))
      · exact Or.inl (by simp [inner])
      · rw [nested_setState, List.mem_singleton] at step
        exact Or.inr (step ▸ Stmt.Static.of_simple rfl rfl)
    · rcases ih (k + 1) s' later with old | new
      · exact Or.inl (by simp [old])
      · exact Or.inr new

theorem flattenBody_fresh (body : List Stmt) :
    ∀ s' ∈ Stmt.nestedAll (flattenBody body), s' ∈ Stmt.nestedAll body ∨ s'.Static := by
  intro s' mem
  unfold flattenBody at mem
  split at mem
  · exact Or.inl mem
  · -- the start, the loop and its exit are new; each statement of the body stands in its arm
    simp only [nestedAll_cons, nestedAll_nil, nestedAll_append, Stmt.nested, nested_setState,
      List.append_nil, List.mem_append, List.mem_cons, List.not_mem_nil, or_false] at mem
    rcases mem with rfl | rfl | arm | rfl | rfl
    · exact Or.inr (Stmt.Static.of_simple rfl rfl)
    · exact Or.inr (Stmt.Static.whileLoop (by simp))
    · exact arms_fresh body 0 s' arm
    · exact Or.inr (Stmt.Static.ifStmt (List.cons_ne_nil _ _))
    · exact Or.inr (Stmt.Static.of_simple rfl rfl)

theorem flattenBody_ne_nil {body : List Stmt} (nonempty : body ≠ []) : flattenBody body ≠ [] := by
  unfold flattenBody
  split
  · exact nonempty
  · exact List.cons_ne_nil _ _

theorem Module.flatten_staticRules {verbose : Bool} {m m' : Module} (rules : StaticRules m)
    (ran : Run.Returns (Module.flatten verbose m) m') : StaticRules m' := by
  refine StaticRules.of_walkDefs_filling (O := Run.outcomes) ?_ ?_ rules ran
  · intro name body edit visited b s' mem
    rcases flattenVisit_returns visited with rfl | rfl
    · exact Or.inl mem
    · exact flattenBody_fresh b s' mem
  · intro name body edit visited b nonempty
    rcases flattenVisit_returns visited with rfl | rfl
    · exact nonempty
    · exact flattenBody_ne_nil nonempty

theorem Module.injectDeadCode_staticRules {verbose : Bool} {m m' : Module} (rules : StaticRules m)
    (ran : Run.Returns (Module.injectDeadCode verbose m) m') : StaticRules m' := by
  refine StaticRules.of_walkDefs_filling (O := Run.outcomes) ?_ ?_ rules ran
  · intro name body edit visited b s' mem
    obtain ⟨n, rfl⟩ := deadCodeVisit_returns visited
    rw [nestedAll_cons, nested_of_not_isCompound rfl, List.singleton_append, List.mem_cons] at mem
    rcases mem with rfl | old
    · exact Or.inr (Stmt.Static.of_simple rfl rfl)
    · exact Or.inl old
  · intro name body edit visited b _
    obtain ⟨n, rfl⟩ := deadCodeVisit_returns visited
    exact List.cons_ne_nil _ _

theorem opaqueStmt_static : ∀ s ∈ opaqueStmt.nested, s.Static := by decide

theorem decryptorDef_static : ∀ s ∈ decryptorDef.nested, s.Static := by decide

theorem Module.injectOpaque_staticRules {verbose : Bool} {m m' : Module} (rules : StaticRules m)
    (ran : Run.Returns (Module.injectOpaque verbose m) m') : StaticRules m' := by
  refine StaticRules.of_walkDefs_filling (O := Run.outcomes) ?_ ?_ rules ran
  · intro name body edit visited b s' mem
    rcases opaqueVisit_returns visited with rfl | ⟨pos, rfl⟩
    · exact Or.inl mem
    · -- the guard and what it guards are new; the rest of the body is split around them
      simp only [insertAt, nestedAll_append, nestedAll_cons, List.mem_append] at mem
      rcases mem with front | guarded | back
      · rw [← List.take_append_drop pos.toNat b, nestedAll_append]
        exact Or.inl (List.mem_append_left _ front)
      · exact Or.inr (opaqueStmt_static s' guarded)
      · rw [← List.take_append_drop pos.toNat b, nestedAll_append]
        exact Or.inl (List.mem_append_right _ back)
  · intro name body edit visited b nonempty
    rcases opaqueVisit_returns visited with rfl | ⟨pos, rfl⟩
    · exact nonempty
    · simp [insertAt]

theorem dropDocstring_ne_nil {b body : List Stmt}
    (same : b.map Stmt.isStringExpr = body.map Stmt.isStringExpr) (nonempty : body ≠ [])
    (notOnly : body.map Stmt.isStringExpr ≠ [true]) : dropDocstring b ≠ [] := by
  cases b with
  | nil => exact absurd (eq_nil_of_map_eq_nil same.symm rfl) nonempty
  | cons x rest =>
    simp only [dropDocstring]
    split
    · rename_i docstring
      rintro rfl
      apply notOnly
      rw [← same]
      simp [docstring]
    · exact List.cons_ne_nil _ _

theorem Module.stripDocstrings_staticRules {m : Module} (rules : StaticRules m)
    (notOnly : ∀ s ∈ Stmt.nestedAll m, s.isDocstringOnly = false) :
    StaticRules (Module.stripDocstrings m) := by
  refine StaticRules.of_walkDefs (O := idOutcomes) ?_ ?_ (staticRules_dropDocstring rules) rfl
  · intro name body edit visited b s' mem
    cases idOutcomes.pure_returns visited
    exact Or.inl (mem_nestedAll_of_suffix (dropDocstring_suffix b) mem)
  · intro name args body decorators returns edit mem visited b same
    cases idOutcomes.pure_returns visited
    have inModule := mem_nestedAll_of_suffix (dropDocstring_suffix m) mem
    have nonempty := rules.bodies _ inModule body (by simp [Stmt.requiredBodies])
    have only := notOnly _ inModule
    simp only [Stmt.isDocstringOnly, beq_eq_false_iff_ne] at only
    exact dropDocstring_ne_nil same nonempty only

theorem renameVisit_keepsNames (verbose : Bool) : (renameVisit verbose).KeepsNames renamingOutcomes := by
  intro id e returned
  simp only [renameVisit, renameOne] at returned
  obtain ⟨r, -, returned⟩ := renamingOutcomes.bind_returns returned
  split at returned
  · exact ⟨id, renamingOutcomes.pure_returns returned⟩
  · split at returned
    · exact ⟨_, renamingOutcomes.pure_returns returned⟩
    · obtain ⟨n, -, returned⟩ := renamingOutcomes.bind_returns returned
      obtain ⟨_, -, returned⟩ := renamingOutcomes.bind_returns returned
      exact ⟨n, renamingOutcomes.returns_announced returned⟩

theorem Module.rename_staticRules {verbose : Bool} {m m' : Module} (rules : StaticRules m)
    (ran : Run.Returns (Module.rename verbose m) m') : StaticRules m' :=
  StaticRules.of_walkLeaves (renameVisit_keepsNames verbose)
    (fun _ _ _ returned => renamingOutcomes.pure_returns returned) rules (Module.rename_walks ran)

theorem Module.ensureDecryptor_static {m : Module} (static : ∀ s ∈ Stmt.nestedAll m, s.Static) :
    ∀ s ∈ Stmt.nestedAll (Module.ensureDecryptor m), s.Static := by
  intro s mem
  unfold Module.ensureDecryptor at mem
  split at mem
  · exact static s mem
  · rw [nestedAll_cons, List.mem_append] at mem
    rcases mem with added | old
    · exact decryptorDef_static s added
    · exact static s old

theorem Module.ensureDecryptor_staticRules {m : Module} (rules : StaticRules m)
    (noFuture : Module.NoFutureImports m) : StaticRules (Module.ensureDecryptor m) :=
  StaticRules.of_static (Module.ensureDecryptor_static fun s mem =>
    ⟨rules.bodies s mem, rules.patterns s mem, noFuture s mem⟩)

theorem Module.sealStrings_staticRules {verbose : Bool} {m m' : Module} (rules : StaticRules m)
    (noFuture : Module.NoFutureImports m) (plain : Module.NoSealablePatterns m)
    (ran : Run.Returns (Module.sealStrings verbose m) m') : StaticRules m' := by
  obtain ⟨key, walked, walkedOk, rfl⟩ := Module.sealStrings_walks ran
  have traced := (Stmt.walkLeavesAll_steps Run.outcomes (sealVisit verbose key) m walked walkedOk).2
  refine StaticRules.of_static (Module.ensureDecryptor_static fun s' mem => ?_)
  obtain ⟨s, src, step⟩ := traced s' mem
  refine ⟨step.hasBodies (rules.bodies s src), step.hasStaticPatterns fun e value e' walkedE => ?_,
    step.future.trans (noFuture s src)⟩
  refine Expr.walkLeaves_patternValue (fun id _ returned => ⟨id, Run.outcomes.pure_returns returned⟩)
    (rules.patterns s src e value) ?_ walkedE
  -- a string standing as a pattern is empty, and sealing gives an empty string back as it was
  rintro t u rfl x returned
  have empty : t.isEmpty = true := by simpa [Expr.isSealable] using plain s src _ value
  simp only [sealVisit, empty, if_true] at returned
  exact Run.outcomes.pure_returns returned

/-- What a pass needs of a module, beyond the static rules, to keep them: sealing and putting
`decrypt_string` first need no `from __future__` import, which would then no longer come first,
and sealing needs no non-empty string among the patterns, where its call cannot stand; stripping
needs no function whose body is a docstring alone, which it would empty. -/
def Transform.Needs : Transform → Module → Prop
  | .sealStrings, m => Module.NoFutureImports m ∧ Module.NoSealablePatterns m
  | .ensureDecryptor, m => Module.NoFutureImports m
  | .stripDocstrings, m => ∀ s ∈ Stmt.nestedAll m, s.isDocstringOnly = false
  | _, _ => True

instance (t : Transform) (m : Module) : Decidable (t.Needs m) := by
  cases t <;> unfold Transform.Needs <;> infer_instance

/-- Each pass keeps the static rules of a module that keeps them, given what it needs. -/
theorem Transform.apply_keeps_staticRules (verbose : Bool) (t : Transform) {m m' : Module}
    (rules : StaticRules m) (needs : t.Needs m) (ran : Run.Returns (t.apply verbose m) m') :
    StaticRules m' := by
  cases t with
  | rename => exact Module.rename_staticRules rules ran
  | sealStrings => exact Module.sealStrings_staticRules rules needs.1 needs.2 ran
  | flatten => exact Module.flatten_staticRules rules ran
  | injectDeadCode => exact Module.injectDeadCode_staticRules rules ran
  | injectOpaque => exact Module.injectOpaque_staticRules rules ran
  | stripDocstrings =>
    cases Run.outcomes.pure_returns ran
    exact Module.stripDocstrings_staticRules rules needs
  | ensureDecryptor =>
    cases Run.outcomes.pure_returns ran
    exact Module.ensureDecryptor_staticRules rules needs

end Obfuscation.Pass
