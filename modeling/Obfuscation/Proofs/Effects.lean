import Mathlib
import Obfuscation.Proofs.Closed
import Obfuscation.Proofs.Run
import Obfuscation.Workspace.Process
/-!
What a run does to its session. A run keeps `I` and `F` when, from a session meeting `I`, it ends,
succeeding or failing, in one meeting `I` that stands in `F` to the start; for a preorder `F` this is
closed under `bind`. The passes only draw and print, and leave the work directory alone.
-/

namespace Obfuscation

open Syntax Pass Workspace

namespace Run

theorem run_throw {α : Type} (f : Fault) (σ : Session) :
    (throw f : Run α).run.run σ = (.error f, σ) := rfl

theorem run_tree (σ : Session) : Run.tree.run.run σ = (.ok σ.tree, σ) := rfl

theorem run_setTree (w : Tree) (σ : Session) :
    (Run.setTree w).run.run σ = (.ok (), { σ with tree := w }) := rfl

/-- The end of a run started in `σ` meets `I` and stands in `F` to `σ`. -/
def KeepsFrom (I : Session → Prop) (F : Session → Session → Prop) {α : Type} (x : Run α)
    (σ : Session) : Prop :=
  I (x.run.run σ).2 ∧ F σ (x.run.run σ).2

/-- Every run started in a session that meets `I` keeps `I` and `F`. -/
def Keeps (I : Session → Prop) (F : Session → Session → Prop) {α : Type} (x : Run α) : Prop :=
  ∀ σ, I σ → KeepsFrom I F x σ

section Keeps

variable {I : Session → Prop} {F : Session → Session → Prop}

theorem KeepsFrom.of_eq {α : Type} {x : Run α} {σ σ' : Session} (ends : (x.run.run σ).2 = σ')
    (inv : I σ') (related : F σ σ') : KeepsFrom I F x σ := by
  rw [KeepsFrom, ends]
  exact ⟨inv, related⟩

theorem KeepsFrom.bind {α β : Type} {x : Run α} {k : α → Run β} {σ : Session}
    (trans : ∀ {σ₁ σ₂ σ₃}, F σ₁ σ₂ → F σ₂ σ₃ → F σ₁ σ₃) (first : KeepsFrom I F x σ)
    (rest : ∀ a σ₁, x.run.run σ = (.ok a, σ₁) → KeepsFrom I F (k a) σ₁) :
    KeepsFrom I F (x >>= k) σ := by
  rcases ran : x.run.run σ with ⟨_ | a, σ₁⟩
  · rw [KeepsFrom, ran] at first
    rw [KeepsFrom, run_bind_error ran]
    exact first
  · rw [KeepsFrom, ran] at first
    obtain ⟨inv, related⟩ := rest a σ₁ ran
    rw [KeepsFrom, run_bind_ok ran]
    exact ⟨inv, trans first.2 related⟩

theorem KeepsFrom.bind_keeps {α β : Type} {x : Run α} {k : α → Run β} {σ : Session}
    (trans : ∀ {σ₁ σ₂ σ₃}, F σ₁ σ₂ → F σ₂ σ₃ → F σ₁ σ₃) (first : KeepsFrom I F x σ)
    (rest : ∀ a, Keeps I F (k a)) : KeepsFrom I F (x >>= k) σ :=
  first.bind trans fun a σ₁ ran => rest a σ₁ (by
    have reached := first.1
    rwa [ran] at reached)

theorem KeepsFrom.tree_bind {α : Type} {k : Workspace.Tree → Run α} {σ : Session}
    (h : KeepsFrom I F (k σ.tree) σ) : KeepsFrom I F (Run.tree >>= k) σ := by
  rw [KeepsFrom, run_bind_ok (run_tree σ)]
  exact h

theorem keeps_tryCatch {α : Type} {x : Run α} {k : Fault → Run α}
    (trans : ∀ {σ₁ σ₂ σ₃}, F σ₁ σ₂ → F σ₂ σ₃ → F σ₁ σ₃) (body : Keeps I F x)
    (handler : ∀ f, Keeps I F (k f)) : Keeps I F (tryCatch x k) := fun σ inv => by
  obtain ⟨inv₁, related₁⟩ := body σ inv
  rcases ran : x.run.run σ with ⟨f | a, σ₁⟩
  · rw [ran] at inv₁ related₁
    have caught : (tryCatch x k).run.run σ = (k f).run.run σ₁ := by
      rw [ExceptT.run_tryCatch, StateT.run_bind, ran]
      rfl
    obtain ⟨inv₂, related₂⟩ := handler f σ₁ inv₁
    rw [KeepsFrom, caught]
    exact ⟨inv₂, trans related₁ related₂⟩
  · rw [ran] at inv₁ related₁
    have passed : (tryCatch x k).run.run σ = (.ok a, σ₁) := by
      rw [ExceptT.run_tryCatch, StateT.run_bind, ran]
      rfl
    rw [KeepsFrom, passed]
    exact ⟨inv₁, related₁⟩

/-- Keeping `I` and `F`, for a reflexive and transitive `F`, as a property closed under
`bind`. -/
def keeps (I : Session → Prop) (F : Session → Session → Prop) (refl : ∀ σ, F σ σ)
    (trans : ∀ {σ₁ σ₂ σ₃}, F σ₁ σ₂ → F σ₂ σ₃ → F σ₁ σ₃) : Closed Run where
  holds := Keeps I F
  pure_holds _ σ inv := ⟨inv, refl σ⟩
  bind_holds first rest σ inv := (first σ inv).bind_keeps trans rest

end Keeps

def treeKept : Closed Run :=
  keeps (fun _ => True) (fun σ σ' => σ'.tree = σ.tree) (fun _ => rfl) fun first second =>
    second.trans first

theorem treeKept_of {α : Type} {x : Run α} (h : ∀ σ, (x.run.run σ).2.tree = σ.tree) :
    treeKept.holds x :=
  fun σ _ => ⟨trivial, h σ⟩

theorem treeKept_tree {α : Type} {x : Run α} (h : treeKept.holds x) (σ : Session) :
    (x.run.run σ).2.tree = σ.tree :=
  (h σ trivial).2

theorem tree_keepsTree : treeKept.holds Run.tree := treeKept_of fun _ => rfl

theorem say_keepsTree (line : String) : treeKept.holds (Run.say line) := treeKept_of fun _ => rfl

theorem report_keepsTree (text : String) : treeKept.holds (Run.report text) :=
  treeKept_of fun _ => rfl

theorem throw_keepsTree {α : Type} (f : Fault) : treeKept.holds (throw f : Run α) :=
  treeKept_of fun _ => rfl

theorem ofExcept_keepsTree {α : Type} (r : Except Fault α) : treeKept.holds (Run.ofExcept r) :=
  treeKept_of fun σ => by rw [run_ofExcept]

theorem drawName_keepsTree (k : Int) : treeKept.holds (Run.drawName k) := treeKept_of fun _ => rfl

theorem drawBetween_keepsTree (lo hi : Int) : treeKept.holds (Run.drawBetween lo hi) :=
  treeKept_of fun _ => rfl

theorem drawVector_keepsTree : treeKept.holds Run.drawVector :=
  treeKept_of fun σ => by rw [run_drawVector]

theorem key_keepsTree : treeKept.holds Run.key :=
  treeKept_of fun σ => by
    rw [Run.key, run_bind_ok (run_get σ), run_ofExcept]

theorem sealText_keepsTree (key : List UInt8) (plain : Text) :
    treeKept.holds (Run.sealText key plain) := by
  unfold Run.sealText
  exact treeKept.bind_holds (ofExcept_keepsTree _) fun _ =>
    treeKept.bind_holds drawVector_keepsTree fun _ =>
    treeKept.bind_holds (ofExcept_keepsTree _) fun _ => ofExcept_keepsTree _

end Run

/-! The passes without sealing have every property closed under `bind` that announcing and drawing
have; in particular they leave the work directory alone. -/

namespace Pass

open Obfuscation.Run

section Closed

variable (C : Closed Run) (announces : ∀ line, C.holds (Run.say line))
include announces

theorem renameOne_holds (draw : C.holds (Run.drawName 8)) (verbose : Bool) (id : String) :
    (C.stateT Renaming).holds (renameOne verbose id) := by
  unfold renameOne
  refine (C.stateT Renaming).bind_holds (Closed.stateT_get _) fun r => ?_
  split
  · exact (C.stateT Renaming).pure_holds _
  · split
    · exact (C.stateT Renaming).pure_holds _
    · refine (C.stateT Renaming).bind_holds (Closed.stateT_lift _ draw) fun n => ?_
      refine (C.stateT Renaming).bind_holds (Closed.stateT_set _ _) fun _ => ?_
      split
      · exact (C.stateT Renaming).bind_holds (Closed.stateT_lift _ (announces _)) fun _ =>
          (C.stateT Renaming).pure_holds _
      · exact (C.stateT Renaming).bind_holds ((C.stateT Renaming).pure_holds _) fun _ =>
          (C.stateT Renaming).pure_holds _

theorem Module.rename_holds (draw : C.holds (Run.drawName 8)) (verbose : Bool) (m : Module) :
    C.holds (Module.rename verbose m) := by
  have walk : (C.stateT Renaming).holds (Module.renameWith verbose m) := by
    refine Stmt.walkLeavesAll_holds _ _ m fun leaf _ => ?_
    cases leaf with
    | name id => exact Closed.map_holds _ _ (renameOne_holds C announces draw verbose id)
    | text t u | part t u => exact Closed.map_holds _ _ ((C.stateT Renaming).pure_holds _)
    | imports s => exact Closed.map_holds _ _ (Closed.stateT_modify _ _)
  rw [Module.rename, StateT.run'_eq]
  exact Closed.map_holds _ _ (walk {})


theorem Module.flatten_holds (verbose : Bool) (m : Module) : C.holds (Module.flatten verbose m) := by
  refine Stmt.walkDefsAll_holds _ _ (fun name body => ?_) m
  simp only [flattenVisit]
  split
  · exact C.pure_holds _
  · split
    · exact C.bind_holds (announces _) fun _ => C.pure_holds _
    · exact C.pure_holds _

variable (draws : ∀ lo hi, C.holds (Run.drawBetween lo hi))
include draws

theorem Module.injectDeadCode_holds (verbose : Bool) (m : Module) :
    C.holds (Module.injectDeadCode verbose m) := by
  refine Stmt.walkDefsAll_holds _ _ (fun name body => ?_) m
  simp only [deadCodeVisit]
  refine C.bind_holds (draws _ _) fun _ => ?_
  split
  · exact C.bind_holds (announces _) fun _ => C.pure_holds _
  · exact C.pure_holds _

theorem Module.injectOpaque_holds (verbose : Bool) (m : Module) :
    C.holds (Module.injectOpaque verbose m) := by
  refine Stmt.walkDefsAll_holds _ _ (fun name body => ?_) m
  simp only [opaqueVisit]
  split
  · exact C.pure_holds _
  · refine C.bind_holds (draws _ _) fun _ => ?_
    split
    · exact C.bind_holds (announces _) fun _ => C.pure_holds _
    · exact C.pure_holds _

end Closed

theorem Module.rename_keepsTree (verbose : Bool) (m : Module) :
    treeKept.holds (Module.rename verbose m) :=
  Module.rename_holds treeKept say_keepsTree (drawName_keepsTree 8) verbose m

theorem sealOne_keepsTree (verbose : Bool) (key : List UInt8) (announce : String) (t : Text) :
    treeKept.holds (sealOne verbose key announce t) := by
  unfold sealOne
  refine treeKept.bind_holds (sealText_keepsTree key t) fun _ => ?_
  split
  · exact treeKept.bind_holds (say_keepsTree _) fun _ => treeKept.pure_holds _
  · exact treeKept.pure_holds _

theorem Module.sealStrings_keepsTree (verbose : Bool) (m : Module) :
    treeKept.holds (Module.sealStrings verbose m) := by
  unfold Module.sealStrings
  refine treeKept.bind_holds key_keepsTree fun key => ?_
  refine treeKept.bind_holds (Stmt.walkLeavesAll_holds _ _ m fun leaf _ => ?_) fun _ =>
    treeKept.pure_holds _
  cases leaf with
  | name id => exact Closed.map_holds _ _ (treeKept.pure_holds _)
  | text t u =>
    refine Closed.map_holds _ _ ?_
    simp only [sealVisit]
    split
    · exact treeKept.pure_holds _
    · exact sealOne_keepsTree verbose key _ t
  | part t u =>
    refine Closed.map_holds _ _ ?_
    simp only [sealVisit]
    split
    · exact treeKept.pure_holds _
    · exact treeKept.bind_holds (sealOne_keepsTree verbose key _ t) fun _ => treeKept.pure_holds _
  | imports s => exact Closed.map_holds _ _ (treeKept.pure_holds _)

theorem Module.flatten_keepsTree (verbose : Bool) (m : Module) :
    treeKept.holds (Module.flatten verbose m) :=
  Module.flatten_holds treeKept say_keepsTree verbose m

theorem Module.injectDeadCode_keepsTree (verbose : Bool) (m : Module) :
    treeKept.holds (Module.injectDeadCode verbose m) :=
  Module.injectDeadCode_holds treeKept say_keepsTree drawBetween_keepsTree verbose m

theorem Module.injectOpaque_keepsTree (verbose : Bool) (m : Module) :
    treeKept.holds (Module.injectOpaque verbose m) :=
  Module.injectOpaque_holds treeKept say_keepsTree drawBetween_keepsTree verbose m

theorem Transform.apply_keepsTree (verbose : Bool) (t : Transform) (m : Module) :
    treeKept.holds (t.apply verbose m) := by
  cases t with
  | rename => exact Module.rename_keepsTree verbose m
  | sealStrings => exact Module.sealStrings_keepsTree verbose m
  | flatten => exact Module.flatten_keepsTree verbose m
  | injectDeadCode => exact Module.injectDeadCode_keepsTree verbose m
  | injectOpaque => exact Module.injectOpaque_keepsTree verbose m
  | stripDocstrings | ensureDecryptor => exact treeKept.pure_holds _

end Pass

namespace Workspace

open Obfuscation.Run

/-- A property closed under `bind` that each of some passes has holds of running them in turn,
by induction on the passes. -/
theorem applyAll_holds (C : Closed Run) (verbose : Bool) (passes : List Transform)
    (each : ∀ t ∈ passes, ∀ m, C.holds (t.apply verbose m)) :
    ∀ m, C.holds (applyAll verbose passes m) := by
  induction passes with
  | nil => exact C.pure_holds
  | cons t rest later =>
    intro m
    exact C.bind_holds (each t List.mem_cons_self m) fun m' =>
      later (fun t' mem => each t' (List.mem_cons_of_mem _ mem)) m'

theorem applyAll_keepsTree (verbose : Bool) :
    ∀ (passes : List Transform) (m : Module), treeKept.holds (applyAll verbose passes m) :=
  fun passes => applyAll_holds treeKept verbose passes fun t _ => Transform.apply_keepsTree verbose t

end Workspace

end Obfuscation
