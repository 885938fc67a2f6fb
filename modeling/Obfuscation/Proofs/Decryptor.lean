import Obfuscation.Proofs.Totality
import Obfuscation.Proofs.Execution
/-!
The definition of `decrypt_string` under any sequence of passes. Sealing leaves a module that
defines `decrypt_string` at its top level, and no pass takes such a definition away. What the
passes keep is the name, not the body: a second sealing seals the definition's own strings.
-/

namespace Obfuscation

open Syntax Pass

/-- Whether a pass puts the definition of `decrypt_string` into a module that lacks one. -/
def Pass.Transform.putsDecryptor : Pass.Transform → Bool
  | .sealStrings | .ensureDecryptor => true
  | .rename | .flatten | .injectDeadCode | .injectOpaque | .stripDocstrings => false

namespace Pass

section Walks

variable {m : Type → Type} [Monad m] [LawfulMonad m] (O : Outcomes m) (v : DefVisit m)

theorem Stmt.walkDefs_definesDecryptor :
    ∀ (s s' : Stmt), O.returns (s.walkDefs v) s' →
      Stmt.definesDecryptor s' = Stmt.definesDecryptor s
  | .functionDef _ _ _ _ _ false, s', h => by
    simp only [Stmt.walkDefs] at h
    obtain ⟨_, -, h⟩ := O.bind_returns h
    -- the body is walked or not, as the visit descends; either way the name stays
    split at h <;>
    · obtain ⟨_, -, h⟩ := O.bind_returns h
      cases O.pure_returns h
      rfl
  | .functionDef _ _ _ _ _ true, s', h | .classDef _ _ _ _ _, s', h | .withBlock _ _ _, s', h => by
    simp only [Stmt.walkDefs] at h
    obtain ⟨_, -, h⟩ := O.bind_returns h
    cases O.pure_returns h
    rfl
  | .forLoop _ _ _ _ _, s', h | .whileLoop _ _ _, s', h | .ifStmt _ _ _, s', h => by
    simp only [Stmt.walkDefs] at h
    obtain ⟨_, -, h⟩ := O.bind_returns h
    obtain ⟨_, -, h⟩ := O.bind_returns h
    cases O.pure_returns h
    rfl
  | .matchStmt _ _, s', h => by
    simp only [Stmt.walkDefs] at h
    obtain ⟨_, -, rfl⟩ := O.map_returns h
    rfl
  | .tryBlock _ _ _ _ _, s', h => by
    simp only [Stmt.walkDefs] at h
    obtain ⟨_, -, h⟩ := O.bind_returns h
    obtain ⟨_, -, h⟩ := O.bind_returns h
    obtain ⟨_, -, h⟩ := O.bind_returns h
    obtain ⟨_, -, h⟩ := O.bind_returns h
    cases O.pure_returns h
    rfl
  | .returnStmt _, s', h | .delete _, s', h | .assign _ _, s', h | .augAssign _ _ _, s', h
  | .annAssign _ _ _ _, s', h | .raise _ _, s', h | .assert _ _, s', h | .importNames _, s', h
  | .importFrom _ _ _, s', h | .global _, s', h | .nonlocal _, s', h | .expr _, s', h
  | .pass, s', h | .breakStmt, s', h | .continueStmt, s', h => by
    simp only [Stmt.walkDefs] at h
    cases O.pure_returns h
    rfl

theorem Stmt.walkDefsAll_definesDecryptor (ss : List Stmt) :
    ∀ ss', O.returns (Stmt.walkDefsAll v ss) ss' →
      ss'.any Stmt.definesDecryptor = ss.any Stmt.definesDecryptor := by
  induction ss with
  | nil =>
    intro ss' h
    simp only [Stmt.walkDefsAll] at h
    cases O.pure_returns h
    rfl
  | cons s rest walkedAll =>
    intro ss' h
    simp only [Stmt.walkDefsAll] at h
    obtain ⟨s', walked, h⟩ := O.bind_returns h
    obtain ⟨rest', walkedRest, h⟩ := O.bind_returns h
    cases O.pure_returns h
    rw [List.any_cons, List.any_cons, Stmt.walkDefs_definesDecryptor O v s s' walked,
      walkedAll rest' walkedRest]

end Walks

theorem Stmt.definesDecryptor_of_isStringExpr {s : Stmt} (string : s.isStringExpr = true) :
    Stmt.definesDecryptor s = false := by
  cases s with
  | functionDef _ _ _ _ _ _ => cases string
  | _ => rfl

theorem dropDocstring_definesDecryptor (m : Module) :
    (dropDocstring m).any Stmt.definesDecryptor = m.any Stmt.definesDecryptor := by
  cases m with
  | nil => rfl
  | cons s rest =>
    by_cases string : s.isStringExpr = true
    · rw [dropDocstring, if_pos string, List.any_cons, Stmt.definesDecryptor_of_isStringExpr string,
        Bool.false_or]
    · rw [dropDocstring, if_neg string]

theorem Module.stripDocstrings_definesDecryptor (m : Module) :
    (Module.stripDocstrings m).any Stmt.definesDecryptor = m.any Stmt.definesDecryptor := by
  rw [← dropDocstring_definesDecryptor m]
  exact Stmt.walkDefsAll_definesDecryptor idOutcomes stripVisit _ _ rfl

theorem Module.ensureDecryptor_definesDecryptor (m : Module) :
    (Module.ensureDecryptor m).any Stmt.definesDecryptor = true := by
  unfold Module.ensureDecryptor
  split
  · assumption
  · rw [List.any_cons]
    rfl

theorem Transform.apply_definesDecryptor {verbose : Bool} {t : Transform} {m m' : Module}
    (ran : Run.Returns (t.apply verbose m) m') :
    m'.any Stmt.definesDecryptor = (m.any Stmt.definesDecryptor || t.putsDecryptor) := by
  cases t with
  | rename =>
    obtain ⟨rs, -, rfl⟩ := Module.rename_returns_fillAll ran
    simp [Stmt.any_definesDecryptor_fillAll, Transform.putsDecryptor]
  | sealStrings =>
    obtain ⟨-, walked, -, rfl⟩ := Module.sealStrings_walks ran
    simp [Module.ensureDecryptor_definesDecryptor, Transform.putsDecryptor]
  | flatten | injectDeadCode | injectOpaque =>
    simp [Stmt.walkDefsAll_definesDecryptor Run.outcomes _ m m' ran, Transform.putsDecryptor]
  | stripDocstrings =>
    have stripped : m' = Module.stripDocstrings m := Run.outcomes.pure_returns ran
    simp [stripped, Module.stripDocstrings_definesDecryptor, Transform.putsDecryptor]
  | ensureDecryptor =>
    have ensured : m' = Module.ensureDecryptor m := Run.outcomes.pure_returns ran
    simp [ensured, Module.ensureDecryptor_definesDecryptor, Transform.putsDecryptor]

def namesDecryptor (n : Text) : Bool := (Transform.ofName? (Text.toString n)).any Transform.putsDecryptor

theorem applyNamed_cons_returns {verbose : Bool} {n : Text} {rest : List Text} {m m' : Module}
    (ran : Run.Returns (applyNamed verbose (n :: rest) m) m') :
    ∃ t m₁, Transform.ofName? (Text.toString n) = some t ∧ Run.Returns (t.apply verbose m) m₁ ∧
      Run.Returns (applyNamed verbose rest m₁) m' := by
  simp only [applyNamed] at ran
  cases named : Transform.ofName? (Text.toString n) with
  | none =>
    rw [named] at ran
    obtain ⟨σ, σ', failed⟩ := ran
    rw [Run.run_throw] at failed
    cases failed
  | some t =>
    rw [named] at ran
    obtain ⟨m₁, first, later⟩ := Run.returns_bind ran
    exact ⟨t, m₁, rfl, first, later⟩

theorem applyNamed_keeps {P : Module → Prop} (verbose : Bool) (names : List Text)
    (keeps : ∀ n ∈ names, ∀ t, Transform.ofName? (Text.toString n) = some t →
      ∀ m m', P m → Run.Returns (t.apply verbose m) m' → P m') :
    ∀ m m', P m → Run.Returns (applyNamed verbose names m) m' → P m' := by
  induction names with
  | nil =>
    intro m m' holds ran
    cases Run.outcomes.pure_returns ran
    exact holds
  | cons n names kept =>
    intro m m' holds ran
    obtain ⟨t, m₁, named, first, later⟩ := applyNamed_cons_returns ran
    exact kept (fun n' mem => keeps n' (List.mem_cons_of_mem n mem)) m₁ m'
      (keeps n List.mem_cons_self t named m m₁ holds first) later

/-- A run of named passes, by induction on the names, ends with a top-level definition of
`decrypt_string` exactly when the module had one or some name seals or puts the definition in. -/
theorem applyNamed_definesDecryptor (verbose : Bool) :
    ∀ (names : List Text) (m m' : Module), Run.Returns (applyNamed verbose names m) m' →
      m'.any Stmt.definesDecryptor = (m.any Stmt.definesDecryptor || names.any namesDecryptor)
  | [], m, m', ran => by
    cases Run.outcomes.pure_returns ran
    rw [List.any_nil, Bool.or_false]
  | n :: rest, m, m', ran => by
    obtain ⟨t, m₁, named, first, later⟩ := applyNamed_cons_returns ran
    rw [applyNamed_definesDecryptor verbose rest m₁ m' later, Transform.apply_definesDecryptor first,
      List.any_cons, namesDecryptor, named, Option.any_some, Bool.or_assoc]

/-- Every run of named passes that seals strings ends in a module that defines `decrypt_string`
at its top level, whatever the other passes and their order. -/
theorem applyNamed_sealing_defines_decryptor (verbose : Bool) (names : List Text)
    (sealing : Text.ofString "encrypt_strings" ∈ names) (m m' : Module)
    (ran : Run.Returns (applyNamed verbose names m) m') :
    ∃ d ∈ m', Stmt.definesDecryptor d = true := by
  have named : names.any namesDecryptor = true := List.any_eq_true.mpr ⟨_, sealing, rfl⟩
  have defines := applyNamed_definesDecryptor verbose names m m' ran
  rw [named, Bool.or_true] at defines
  exact List.any_eq_true.mp defines

/-- The fixed definition of `decrypt_string` calls no `decrypt_string`, but sealing `x = 1` twice
seals its `'utf-8'`: the definition the module starts with then calls `decrypt_string`. -/
theorem sealing_twice_seals_decryptor :
    let m : Module := [.assign [.name "x"] (.constant (.int 1))]
    let twice := [Text.ofString "encrypt_strings", Text.ofString "encrypt_strings"]
    decryptorDef.leaves.any (Leaf.isName "decrypt_string") = false ∧
      ∃ d rest σ', (applyNamed false twice m).run.run {} = (.ok (d :: rest), σ') ∧
        Stmt.definesDecryptor d = true ∧ d.leaves.any (Leaf.isName "decrypt_string") = true := by
  intro m twice
  have fixed : decryptorDef.leaves.any (Leaf.isName "decrypt_string") = false := by decide +kernel
  have sealed : (((applyNamed false twice m).run.run {}).1.toOption.bind List.head?).any
      (fun d => Stmt.definesDecryptor d && d.leaves.any (Leaf.isName "decrypt_string")) = true := by
    decide +kernel
  refine ⟨fixed, ?_⟩
  revert sealed
  rcases (applyNamed false twice m).run.run {} with ⟨_ | _ | ⟨d, rest⟩, σ'⟩
  · intro never
    cases never
  · intro never
    cases never
  · intro calls
    exact ⟨d, rest, σ', rfl, (Bool.and_eq_true _ _).mp calls⟩

end Pass

end Obfuscation
