import Obfuscation.Proofs.Nested
import Obfuscation.Proofs.Sealing
import Obfuscation.Pass.Transform
/-!
What each pass does to the statements of a module. Renaming puts every string constant back as
it was, so string statements stay; sealing turns each non-empty string statement into a call of
`decrypt_string` on what a sealing run gave back. The definition passes edit function bodies only
by adding statements or moving them into a state machine, so every simple statement stays, and
stripping removes nothing but string statements at the head of a body.
-/

namespace Obfuscation.Pass

open Syntax

/-! Body edits -/

theorem mem_nestedAll_arms {s : Stmt} (body : List Stmt) (k : Nat)
    (mem : s ∈ Stmt.nestedAll body) :
    s ∈ Stmt.nestedAll ((body.zipIdx k).map fun (t, i) => stepArm t i) := by
  induction body generalizing k with
  | nil => simp at mem
  | cons t rest ih =>
    simp only [List.zipIdx_cons, List.map_cons, nestedAll_cons, List.mem_append] at mem ⊢
    rcases mem with here | later
    · left
      simp [stepArm, Stmt.nested, here]
    · exact Or.inr (ih (k + 1) later)

theorem mem_nestedAll_flattenBody {s : Stmt} {body : List Stmt} (mem : s ∈ Stmt.nestedAll body) :
    s ∈ Stmt.nestedAll (flattenBody body) := by
  unfold flattenBody
  split
  · exact mem
  · -- each statement of the body runs in its own arm of the loop
    simp [Stmt.nested, mem_nestedAll_arms body 0 mem]

theorem mem_nestedAll_insertAt {s x : Stmt} {body : List Stmt} (i : Nat)
    (mem : s ∈ Stmt.nestedAll body) : s ∈ Stmt.nestedAll (insertAt body i x) := by
  rw [← List.take_append_drop i body, nestedAll_append, List.mem_append] at mem
  simp only [insertAt, nestedAll_append, nestedAll_cons, List.mem_append]
  rcases mem with front | back
  · exact Or.inl front
  · exact Or.inr (Or.inr back)

theorem mem_nestedAll_dropDocstring {s : Stmt} {body : List Stmt} (plain : s.isStringExpr = false)
    (mem : s ∈ Stmt.nestedAll body) : s ∈ Stmt.nestedAll (dropDocstring body) := by
  cases body with
  | nil => exact mem
  | cons t rest =>
    simp only [dropDocstring]
    split
    · rename_i docstring
      simp only [nestedAll_cons, List.mem_append] at mem
      rcases mem with here | later
      · -- a string expression has nothing nested in it, so `s` would be the docstring itself
        cases t <;> simp_all [Stmt.isStringExpr, Stmt.nested]
      · exact later
    · exact mem

theorem mem_nestedAll_ensureDecryptor {s : Stmt} {m : Module} (mem : s ∈ Stmt.nestedAll m) :
    s ∈ Stmt.nestedAll (Module.ensureDecryptor m) := by
  unfold Module.ensureDecryptor
  split
  · exact mem
  · simp [mem]

theorem flattenVisit_returns {verbose : Bool} {name : String} {body : List Stmt}
    {edit : List Stmt → List Stmt}
    (visited : Run.outcomes.returns ((flattenVisit verbose).visit name body) edit) :
    edit = id ∨ edit = flattenBody := by
  simp only [flattenVisit] at visited
  split at visited
  · exact Or.inl (Run.outcomes.pure_returns visited)
  · exact Or.inr (Run.outcomes.returns_announced visited)

theorem deadCodeVisit_returns {verbose : Bool} {name : String} {body : List Stmt}
    {edit : List Stmt → List Stmt}
    (visited : Run.outcomes.returns ((deadCodeVisit verbose).visit name body) edit) :
    ∃ n, edit = (deadStmt n :: ·) := by
  simp only [deadCodeVisit] at visited
  obtain ⟨n, -, visited⟩ := Run.outcomes.bind_returns visited
  exact ⟨n, Run.outcomes.returns_announced visited⟩

theorem opaqueVisit_returns {verbose : Bool} {name : String} {body : List Stmt}
    {edit : List Stmt → List Stmt}
    (visited : Run.outcomes.returns ((opaqueVisit verbose).visit name body) edit) :
    edit = id ∨ ∃ pos : Int, edit = (insertAt · pos.toNat opaqueStmt) := by
  simp only [opaqueVisit] at visited
  split at visited
  · exact Or.inl (Run.outcomes.pure_returns visited)
  · obtain ⟨pos, -, visited⟩ := Run.outcomes.bind_returns visited
    exact Or.inr ⟨pos, Run.outcomes.returns_announced visited⟩

theorem flattenVisit_keeps (verbose : Bool) (s : Stmt) :
    (flattenVisit verbose).Keeps Run.outcomes s := by
  intro name body edit visited b mem
  rcases flattenVisit_returns visited with rfl | rfl
  · exact mem
  · exact mem_nestedAll_flattenBody mem

theorem deadCodeVisit_keeps (verbose : Bool) (s : Stmt) :
    (deadCodeVisit verbose).Keeps Run.outcomes s := by
  intro name body edit visited b mem
  obtain ⟨n, rfl⟩ := deadCodeVisit_returns visited
  simp [mem]

theorem opaqueVisit_keeps (verbose : Bool) (s : Stmt) :
    (opaqueVisit verbose).Keeps Run.outcomes s := by
  intro name body edit visited b mem
  rcases opaqueVisit_returns visited with rfl | ⟨pos, rfl⟩
  · exact mem
  · exact mem_nestedAll_insertAt pos.toNat mem

theorem stripVisit_keeps {s : Stmt} (plain : s.isStringExpr = false) :
    stripVisit.Keeps idOutcomes s := by
  intro name body edit visited b mem
  cases idOutcomes.pure_returns visited
  exact mem_nestedAll_dropDocstring plain mem

/-! Passes over a module -/

theorem sealOne_returns {verbose : Bool} {key : List UInt8} {announce : String} {t : Text}
    {e : Expr} (h : Run.Returns (sealOne verbose key announce t) e) :
    ∃ sealed, Run.Returns (Run.sealText key t) sealed ∧
      e = revealCall sealed (Bytes.toBase64 key) := by
  simp only [sealOne] at h
  obtain ⟨sealed, drawn, h⟩ := Run.returns_bind h
  exact ⟨sealed, drawn, Run.outcomes.returns_announced h⟩

theorem Module.rename_walks {verbose : Bool} {m m' : Module}
    (renamed : Run.Returns (Module.rename verbose m) m') :
    renamingOutcomes.returns (Stmt.walkLeavesAll (renameVisit verbose) m) m' := by
  rw [Module.rename, StateT.run'_eq] at renamed
  obtain ⟨⟨_, r'⟩, walked, rfl⟩ := Run.outcomes.map_returns renamed
  exact ⟨{}, r', walked⟩

theorem Module.sealStrings_walks {verbose : Bool} {m m' : Module}
    (h : Run.Returns (Module.sealStrings verbose m) m') :
    ∃ key walked, Run.Returns (Stmt.walkLeavesAll (sealVisit verbose key) m) walked ∧
      m' = Module.ensureDecryptor walked := by
  simp only [Module.sealStrings] at h
  obtain ⟨key, -, h⟩ := Run.returns_bind h
  obtain ⟨walked, walkedOk, h⟩ := Run.returns_bind h
  exact ⟨key, walked, walkedOk, Run.outcomes.pure_returns h⟩

theorem Module.rename_keeps_strings {verbose : Bool} {m m' : Module}
    (renamed : Run.Returns (Module.rename verbose m) m') {t : Text} {u : Bool}
    (mem : Stmt.expr (.constant (.str t u)) ∈ Stmt.nestedAll m) :
    Stmt.expr (.constant (.str t u)) ∈ Stmt.nestedAll m' := by
  obtain ⟨e', kept, mem'⟩ := Stmt.walkLeavesAll_carries renamingOutcomes (renameVisit verbose) _ m m'
    (Module.rename_walks renamed) mem
  -- renaming puts every string constant back as it was
  simp only [Expr.walkLeaves, renameVisit] at kept
  cases renamingOutcomes.pure_returns kept
  exact mem'

theorem Module.sealStrings_seals {verbose : Bool} {m m' : Module}
    (h : Run.Returns (Module.sealStrings verbose m) m') {t : Text} {u : Bool} (nonempty : t ≠ [])
    (mem : Stmt.expr (.constant (.str t u)) ∈ Stmt.nestedAll m) :
    ∃ key sealed, Run.Returns (Run.sealText key t) sealed ∧
      Stmt.expr (revealCall sealed (Bytes.toBase64 key)) ∈ Stmt.nestedAll m' := by
  obtain ⟨key, sealed, walked, rfl⟩ := Module.sealStrings_walks h
  obtain ⟨e', visited, mem'⟩ :=
    Stmt.walkLeavesAll_carries Run.outcomes (sealVisit verbose key) _ m sealed walked mem
  simp only [Expr.walkLeaves, sealVisit, List.isEmpty_iff, nonempty, if_false] at visited
  obtain ⟨s, drawn, rfl⟩ := sealOne_returns visited
  exact ⟨key, s, drawn, mem_nestedAll_ensureDecryptor mem'⟩

theorem Module.stripDocstrings_keeps {m : Module} {s : Stmt} (simple : s.isCompound = false)
    (plain : s.isStringExpr = false) (mem : s ∈ Stmt.nestedAll m) :
    s ∈ Stmt.nestedAll (Module.stripDocstrings m) :=
  Stmt.walkDefsAll_keeps idOutcomes stripVisit simple (stripVisit_keeps plain) _ _ rfl
    (mem_nestedAll_dropDocstring plain mem)

end Obfuscation.Pass
