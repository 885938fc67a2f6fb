import Obfuscation.Proofs.Passes
import Obfuscation.Workspace.Process
/-!
Docstrings under the heavy level. The heavy passes seal strings before they strip docstrings,
and by then a docstring is a call of `decrypt_string`, no longer a string statement, while the
later passes keep every simple statement wherever it is nested. So every non-empty docstring of a
module, its own or a function's at any depth, is still in the output, as a call whose arguments
open to it.
-/

namespace Obfuscation.Syntax

def bodyDocstring : List Stmt → Option Text
  | .expr (.constant (.str t _)) :: _ => some t
  | _ => none

def Stmt.functionDocstring : Stmt → Option Text
  | .functionDef _ _ body _ _ false => bodyDocstring body
  | _ => none

/-- The docstrings of a module: its own, and that of every function definition in it at any
depth. -/
def Module.docstrings (m : Module) : List Text :=
  (bodyDocstring m).toList ++ (Stmt.nestedAll m).filterMap Stmt.functionDocstring

theorem bodyDocstring_eq_some {body : List Stmt} {d : Text} (doc : bodyDocstring body = some d) :
    ∃ u rest, body = Stmt.expr (.constant (.str d u)) :: rest := by
  unfold bodyDocstring at doc
  split at doc
  · cases doc
    exact ⟨_, _, rfl⟩
  · cases doc

theorem functionDocstring_eq_some {f : Stmt} {d : Text} (doc : f.functionDocstring = some d) :
    ∃ u, Stmt.expr (.constant (.str d u)) ∈ f.nested := by
  unfold Stmt.functionDocstring at doc
  split at doc
  · obtain ⟨u, rest, rfl⟩ := bodyDocstring_eq_some doc
    exact ⟨u, by simp [Stmt.nested]⟩
  · cases doc

theorem mem_nestedAll_of_docstring {m : Module} {d : Text} (doc : d ∈ Module.docstrings m) :
    ∃ u, Stmt.expr (.constant (.str d u)) ∈ Stmt.nestedAll m := by
  simp only [Module.docstrings, List.mem_append, Option.mem_toList, List.mem_filterMap] at doc
  rcases doc with leading | ⟨f, nestedF, fdoc⟩
  · obtain ⟨u, rest, rfl⟩ := bodyDocstring_eq_some leading
    exact ⟨u, by simp [Stmt.nested]⟩
  · obtain ⟨u, inF⟩ := functionDocstring_eq_some fdoc
    exact ⟨u, Stmt.nestedAll_trans m nestedF inF⟩

end Obfuscation.Syntax

namespace Obfuscation.Workspace

open Syntax Pass Text Cipher

theorem applyAll_cons_returns {verbose : Bool} {t : Transform} {rest : List Transform}
    {m m' : Module} (h : Run.Returns (applyAll verbose (t :: rest) m) m') :
    ∃ m₁, Run.Returns (t.apply verbose m) m₁ ∧
      Run.Returns (applyAll verbose rest m₁) m' := by
  simp only [applyAll] at h
  exact Run.returns_bind h

/-- Every non-empty docstring whose code points are in range stays in what the heavy level
returns, sealed: as a statement calling `decrypt_string` on a text and key that open to it. -/
theorem heavy_seals_docstrings (verbose : Bool) (m m' : Module) (σ σ' : Session)
    (run : (applyAll verbose (levelPasses "heavy") m).run.run σ = (.ok m', σ'))
    (d : Text) (doc : d ∈ Module.docstrings m) (nonempty : d ≠ [])
    (range : ∀ c ∈ d, c < 0x110000) :
    ∃ sealed keyText, Stmt.expr (revealCall sealed keyText) ∈ Stmt.nestedAll m' ∧
      reveal (Text.ofString sealed) (Text.ofString keyText) = .ok d := by
  obtain ⟨u, stated⟩ := mem_nestedAll_of_docstring doc
  have heavy : levelPasses "heavy" = Transform.heavy := rfl
  rw [heavy] at run
  obtain ⟨m₁, renamed, run⟩ := applyAll_cons_returns (Run.returns_of_run run)
  obtain ⟨m₂, sealed, run⟩ := applyAll_cons_returns run
  obtain ⟨m₃, flattened, run⟩ := applyAll_cons_returns run
  obtain ⟨m₄, injected, run⟩ := applyAll_cons_returns run
  obtain ⟨m₅, guarded, run⟩ := applyAll_cons_returns run
  obtain ⟨m₆, stripped, run⟩ := applyAll_cons_returns run
  cases Run.outcomes.pure_returns run
  cases Run.outcomes.pure_returns stripped
  obtain ⟨key, text, drawn, mem₂⟩ :=
    Module.sealStrings_seals sealed nonempty (Module.rename_keeps_strings renamed stated)
  -- the call is a simple statement and no string expression: the later passes keep it
  have simple : (Stmt.expr (revealCall text (Bytes.toBase64 key))).isCompound = false := rfl
  have mem₃ := Stmt.walkDefsAll_keeps Run.outcomes (flattenVisit verbose) simple
    (flattenVisit_keeps verbose _) m₂ m₃ flattened mem₂
  have mem₄ := Stmt.walkDefsAll_keeps Run.outcomes (deadCodeVisit verbose) simple
    (deadCodeVisit_keeps verbose _) m₃ m₄ injected mem₃
  have mem₅ := Stmt.walkDefsAll_keeps Run.outcomes (opaqueVisit verbose) simple
    (opaqueVisit_keeps verbose _) m₄ m₅ guarded mem₄
  exact ⟨text, Bytes.toBase64 key, Module.stripDocstrings_keeps simple rfl mem₅,
    reveal_of_sealText drawn range⟩

theorem heavy_seals_moduleDocstring :
    let m : Module := [.expr (.constant (.str (Text.ofString "doc") false))]
    ∃ m' σ', (applyAll false (levelPasses "heavy") m).run.run {} = (.ok m', σ') ∧
      Text.ofString "doc" ∈ Module.docstrings m ∧ Text.ofString "doc" ≠ [] ∧
      (∀ c ∈ Text.ofString "doc", c < 0x110000) ∧
      ∃ sealed keyText, Stmt.expr (revealCall sealed keyText) ∈ Stmt.nestedAll m' ∧
        reveal (Text.ofString sealed) (Text.ofString keyText) = .ok (Text.ofString "doc") := by
  intro m
  have succeeded : ((applyAll false (levelPasses "heavy") m).run.run {}).1.isOk = true := by
    decide +kernel
  obtain ⟨m', σ', run⟩ :
      ∃ m' σ', (applyAll false (levelPasses "heavy") m).run.run {} = (.ok m', σ') := by
    rcases h : (applyAll false (levelPasses "heavy") m).run.run {} with ⟨_ | m', σ'⟩
    · rw [h] at succeeded
      cases succeeded
    · exact ⟨m', σ', rfl⟩
  have doc : Text.ofString "doc" ∈ Module.docstrings m := by decide
  exact ⟨m', σ', run, doc, by decide, by decide,
    heavy_seals_docstrings false m m' {} σ' run _ doc (by decide) (by decide)⟩

end Obfuscation.Workspace
