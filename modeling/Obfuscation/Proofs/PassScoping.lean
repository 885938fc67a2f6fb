import Obfuscation.Proofs.ScopeWalks
import Obfuscation.Proofs.PassPrinting
import Obfuscation.Proofs.PassRules
/-!
Each pass keeps the compiler's scoping rules, given what it needs. Renaming keeps them for a
module that declares nothing nonlocal and no drawn name; the passes that bring in a name
(`decrypt_string`, `__state`, `print`) keep them for a module that does not declare it.
-/

namespace Obfuscation.Pass

open Syntax


/-! Renaming -/

/-- How renaming may change an event: not at all, or a use or a binding of a name to one of its
replacement. -/
inductive EventRenamed (r : Renaming) : Event → Event → Prop
  | same (e : Event) : EventRenamed r e e
  | use {x y : String} : NameRenamed r x y → EventRenamed r (.use x) (.use y)
  | bind {x y : String} : NameRenamed r x y → EventRenamed r (.bind x) (.bind y)

def drawnForm (y : String) : Prop := y.toList.take 2 = ['v', '_']

theorem Renaming.Valid.drawnForm_of_lookup {r : Renaming} (valid : r.Valid) {x y : String}
    (found : r.names.lookup x = some y) : drawnForm y := by
  obtain ⟨l₁, l₂, split, -⟩ := List.lookup_eq_some_iff.mp found
  obtain ⟨cs, rfl, -, -⟩ := valid.form (x, y) (by simp [split])
  simp [drawnForm]

theorem Renaming.Valid.keepsEvents {r : Renaming} (valid : r.Valid) :
    Event.Keeps (EventRenamed r) (fun _ => False) drawnForm where
  step := by
    intro e e' renamed
    cases renamed with
    | same => exact .inl rfl
    | use named | bind named =>
      rcases named with ⟨rfl, -⟩ | ⟨-, found⟩
      · exact .inl rfl
      · exact .inr ⟨rfl, rfl, valid.drawnForm_of_lookup found⟩
  extra := False.elim

theorem Renaming.Valid.keepsScopes {r : Renaming} {N : List Event → Prop} :
    KeepsScopes (EventRenamed r) (fun _ => False) N fun ℓ e => LeafRenamed r ℓ (some e) where
  refl := .same
  name := by
    intro id e renamed inComp target
    obtain ⟨y, same, named⟩ := renamed
    cases same
    cases target
    · exact ⟨.step (.use named) .nil, .nil, .nil⟩
    · exact ⟨.step (.bind named) .nil, .nil, .nil⟩
  text := by
    intro t u e renamed inComp target
    cases renamed
    exact .refl .same _
  part := by
    intro t u e renamed inComp
    cases renamed
    exact .refl .same _

theorem Module.rename_scan {verbose : Bool} {m m' : Module}
    (renamed : Run.Returns (Module.rename verbose m) m') :
    ∃ r : Renaming, r.Valid ∧
      Scan.Rel (EventRenamed r) (fun _ => False) (fun _ => False) (Stmt.scanAll m) (Stmt.scanAll m') := by
  obtain ⟨r, valid, rs, rfl, renames⟩ := Module.rename_renamedBy renamed
  have walked := Stmt.fillAll_mem_among (renames.imp fun _ _ => LeafRenamed.mem_among)
  exact ⟨r, valid, Stmt.walkLeavesAll_scan Renaming.Valid.keepsScopes m _ walked⟩

theorem Module.rename_scopeRules {verbose : Bool} {m m' : Module} (scopes : ScopeRules m)
    (free : Module.nonlocalFree m = true)
    (undrawn : ∀ x ∈ Module.declaredNames m, x.toList.take 2 ≠ ['v', '_'])
    (renamed : Run.Returns (Module.rename verbose m) m') : ScopeRules m' := by
  obtain ⟨r, valid, related⟩ := Module.rename_scan renamed
  refine ScopeRules.of_blocks valid.keepsEvents (fun _ => False.elim) (Module.blocks_rel related) ?_ ?_
    scopes
  · intro b mem d event declaration
    exact undrawn d.name (Module.mem_declaredNames.mpr ⟨b, mem, d, event, declaration, rfl⟩)
  · intro b mem b' rel _
    exact Block.nonlocalsBound_of_none valid.keepsEvents rel (Module.nonlocalFree_none free b mem)

/-! Sealing and the decryptor -/

theorem revealCall_scan (sealed keyText : String) (inComp target : Bool) :
    (revealCall sealed keyText).scan inComp target = Scan.ofEvents [.use "decrypt_string"] := rfl

theorem sealVisit_keepsScopes (verbose : Bool) (key : List UInt8) {X : Event → Prop}
    {N : List Event → Prop} (call : X (.use "decrypt_string")) :
    KeepsScopes (· = ·) X N ((sealVisit verbose key).admits Run.outcomes) where
  refl _ := rfl
  name := by
    intro id e visited inComp target
    cases Run.outcomes.pure_returns visited
    exact .refl (fun _ => rfl) _
  text := by
    intro t u e visited inComp target
    simp only [LeafVisit.admits, sealVisit] at visited
    split at visited
    · cases Run.outcomes.pure_returns visited
      exact .refl (fun _ => rfl) _
    · obtain ⟨sealed, -, rfl⟩ := sealOne_returns visited
      rw [revealCall_scan]
      exact .single call
  part := by
    intro t u e visited inComp
    simp only [LeafVisit.admits, sealVisit] at visited
    split at visited
    · cases Run.outcomes.pure_returns visited
      exact .refl (fun _ => rfl) _
    · obtain ⟨call, sealedCall, visited⟩ := Run.returns_bind visited
      cases Run.outcomes.pure_returns visited
      obtain ⟨sealed, -, rfl⟩ := sealOne_returns sealedCall
      simp only [Expr.scan, Expr.scanOption, revealCall_scan, Scan.append_empty]
      exact .single call

theorem decryptorDef_scan_events : decryptorDef.scan.events = [.bind "decrypt_string"] := rfl

theorem decryptorDef_scan_hoisted : decryptorDef.scan.hoisted = [] := rfl

theorem decryptorDef_blocks_plain : ∀ b ∈ decryptorDef.scan.blocks, Event.Plain b.events := by
  simp only [Event.Plain]
  decide

theorem Module.ensureDecryptor_scan (m : Module) :
    Scan.Rel (· = ·) (Event.Touches "decrypt_string") Event.Plain (Stmt.scanAll m)
      (Stmt.scanAll (Module.ensureDecryptor m)) := by
  unfold Module.ensureDecryptor
  split
  · exact .refl (fun _ => rfl) _
  · rw [Stmt.scanAll]
    refine Scan.Rel.prepend (.empty_left ?_ ?_ decryptorDef_blocks_plain) (.refl (fun _ => rfl) _)
    · simp [decryptorDef_scan_events, Event.Touches]
    · simp [decryptorDef_scan_hoisted]

theorem Module.ensureDecryptor_scopeRules {m : Module} (scopes : ScopeRules m)
    (fresh : "decrypt_string" ∉ Module.declaredNames m) : ScopeRules (Module.ensureDecryptor m) :=
  ScopeRules.of_insertions (Event.keeps_touches _) (fun _ plain => plain)
    (Module.blocks_rel (Module.ensureDecryptor_scan m)) (Module.undeclared fresh) scopes

theorem sealVisit_walk_scan {X : Event → Prop} {N : List Event → Prop}
    (call : X (.use "decrypt_string")) {verbose : Bool} {key : List UInt8} {m walked : Module}
    (returned : Run.Returns (Stmt.walkLeavesAll (sealVisit verbose key) m) walked) :
    Scan.Rel (· = ·) X N (Stmt.scanAll m) (Stmt.scanAll walked) :=
  Stmt.walkLeavesAll_scan (sealVisit_keepsScopes verbose key call) m walked
    (Stmt.walkLeavesAll_mem_among (O := Run.outcomes) returned)

theorem Module.sealStrings_scopeRules {verbose : Bool} {m m' : Module} (scopes : ScopeRules m)
    (fresh : "decrypt_string" ∉ Module.declaredNames m)
    (sealed : Run.Returns (Module.sealStrings verbose m) m') : ScopeRules m' := by
  obtain ⟨key, walked, returned, rfl⟩ := Module.sealStrings_walks sealed
  have related := (sealVisit_walk_scan (.inl rfl) returned).trans
    (Event.Plain.of_grown (Event.touches_plain _)) (Module.ensureDecryptor_scan walked)
  exact ScopeRules.of_insertions (Event.keeps_touches _) (fun _ plain => plain)
    (Module.blocks_rel related) (Module.undeclared fresh) scopes

/-! Flattening -/

section Flattened

variable {X : Event → Prop} {N : List Event → Prop}

variable (use : X (.use stateVariable)) (bind : X (.bind stateVariable))
include use bind

theorem stepArm_scan (s : Stmt) (i : Nat) : Scan.Rel (· = ·) X N s.scan (stepArm s i).scan := by
  have shape : (stepArm s i).scan =
      Scan.ofEvents [.use stateVariable] ++ (s.scan ++ Scan.ofEvents [.bind stateVariable]) := by
    simp only [stepArm, stateIs, setState, Stmt.scan, Stmt.scanAll, Expr.scan, Expr.scanAll,
      Scan.append_empty]
    rfl
  rw [shape]
  exact (Scan.Rel.single use).prepend ((Scan.Rel.refl (fun _ => rfl) _).postpend (.single bind))

theorem Stmt.scanAll_arms (body : List Stmt) (k : Nat) :
    Scan.Rel (· = ·) X N (Stmt.scanAll body)
      (Stmt.scanAll ((body.zipIdx k).map fun (s, i) => stepArm s i)) := by
  induction body generalizing k with
  | nil => exact .refl (fun _ => rfl) _
  | cons s rest ih =>
    rw [List.zipIdx_cons, List.map_cons, Stmt.scanAll, Stmt.scanAll]
    exact (stepArm_scan use bind s k).append (ih (k + 1))

theorem Stmt.scanAll_flattenBody (body : List Stmt) :
    Scan.Rel (· = ·) X N (Stmt.scanAll body) (Stmt.scanAll (flattenBody body)) := by
  unfold flattenBody
  split
  · exact .refl (fun _ => rfl) _
  · -- the state set to zero, then the loop: the arms in order, and the arm that breaks out
    have shape : Stmt.scanAll [setState 0, .whileLoop (.constant .true)
        ((body.zipIdx.map fun (s, i) => stepArm s i) ++
          [.ifStmt (stateIs body.length) [.breakStmt] []]) []] =
        Scan.ofEvents [.bind stateVariable] ++
          (Stmt.scanAll (body.zipIdx.map fun (s, i) => stepArm s i) ++
            Scan.ofEvents [.use stateVariable]) := by
      simp only [Stmt.scanAll, Stmt.scan, Stmt.scanAll_append, setState, stateIs, Expr.scan,
        Expr.scanAll, Scan.append_empty, Scan.empty_append, if_true, Bool.false_eq_true, if_false]
    rw [shape]
    exact (Scan.Rel.single bind).prepend ((Stmt.scanAll_arms use bind body 0).postpend (.single use))

theorem flattenVisit_keepsBodyScopes (verbose : Bool) (new : ∀ L L', N L → Grown (· = ·) X L L' → N L') :
    KeepsBodyScopes X N ((flattenVisit verbose).admits Run.outcomes) where
  new := new
  edit := by
    intro name body edit admitted b
    rcases flattenVisit_returns admitted with rfl | rfl
    · exact .refl (fun _ => rfl) _
    · exact Stmt.scanAll_flattenBody use bind b

end Flattened

theorem printStmt_scan (t : String) : (printStmt t).scan = Scan.ofEvents [.use "print"] := rfl

theorem opaqueStmt_scan : opaqueStmt.scan = Scan.ofEvents [.use "print"] := rfl

section Injected

variable {X : Event → Prop} {N : List Event → Prop} (use : X (.use "print"))
include use

theorem Stmt.scanAll_deadStmt (n : Int) (body : List Stmt) :
    Scan.Rel (· = ·) X N (Stmt.scanAll body) (Stmt.scanAll (deadStmt n :: body)) := by
  rw [Stmt.scanAll, deadStmt, printStmt_scan]
  exact (Scan.Rel.single use).prepend (.refl (fun _ => rfl) _)

theorem Stmt.scanAll_insertAt_opaqueStmt (body : List Stmt) (i : Nat) :
    Scan.Rel (· = ·) X N (Stmt.scanAll body) (Stmt.scanAll (insertAt body i opaqueStmt)) := by
  have split : Stmt.scanAll body = Stmt.scanAll (body.take i) ++ Stmt.scanAll (body.drop i) := by
    rw [← Stmt.scanAll_append, List.take_append_drop]
  rw [insertAt, Stmt.scanAll_append, Stmt.scanAll, opaqueStmt_scan, split]
  exact (Scan.Rel.refl (fun _ => rfl) _).append ((Scan.Rel.single use).prepend (.refl (fun _ => rfl) _))

theorem deadCodeVisit_keepsBodyScopes (verbose : Bool) (new : ∀ L L', N L → Grown (· = ·) X L L' → N L') :
    KeepsBodyScopes X N ((deadCodeVisit verbose).admits Run.outcomes) where
  new := new
  edit := by
    intro name body edit admitted b
    obtain ⟨n, rfl⟩ := deadCodeVisit_returns admitted
    exact Stmt.scanAll_deadStmt use n b

theorem opaqueVisit_keepsBodyScopes (verbose : Bool) (new : ∀ L L', N L → Grown (· = ·) X L L' → N L') :
    KeepsBodyScopes X N ((opaqueVisit verbose).admits Run.outcomes) where
  new := new
  edit := by
    intro name body edit admitted b
    rcases opaqueVisit_returns admitted with rfl | ⟨pos, rfl⟩
    · exact .refl (fun _ => rfl) _
    · exact Stmt.scanAll_insertAt_opaqueStmt use b pos.toNat

end Injected

section Related

variable {X : Event → Prop} {verbose : Bool} {m m' : Module}

theorem Module.flatten_scan (use : X (.use stateVariable)) (bind : X (.bind stateVariable))
    (flattened : Run.Returns (Module.flatten verbose m) m') :
    Scan.Rel (· = ·) X (fun _ => False) (Stmt.scanAll m) (Stmt.scanAll m') :=
  Stmt.walkDefsAll_scan (flattenVisit_keepsBodyScopes use bind verbose fun _ _ never _ => never) m m'
    (Stmt.walkDefsAll_mem_among (flattenVisit verbose) m m' flattened)

theorem Module.injectDeadCode_scan (use : X (.use "print"))
    (injected : Run.Returns (Module.injectDeadCode verbose m) m') :
    Scan.Rel (· = ·) X (fun _ => False) (Stmt.scanAll m) (Stmt.scanAll m') :=
  Stmt.walkDefsAll_scan (deadCodeVisit_keepsBodyScopes use verbose fun _ _ never _ => never) m m'
    (Stmt.walkDefsAll_mem_among (deadCodeVisit verbose) m m' injected)

theorem Module.injectOpaque_scan (use : X (.use "print"))
    (injected : Run.Returns (Module.injectOpaque verbose m) m') :
    Scan.Rel (· = ·) X (fun _ => False) (Stmt.scanAll m) (Stmt.scanAll m') :=
  Stmt.walkDefsAll_scan (opaqueVisit_keepsBodyScopes use verbose fun _ _ never _ => never) m m'
    (Stmt.walkDefsAll_mem_among (opaqueVisit verbose) m m' injected)

end Related

theorem Module.flatten_scopeRules {verbose : Bool} {m m' : Module} (scopes : ScopeRules m)
    (fresh : stateVariable ∉ Module.declaredNames m)
    (flattened : Run.Returns (Module.flatten verbose m) m') : ScopeRules m' :=
  ScopeRules.of_insertions (Event.keeps_touches _) (fun _ => False.elim)
    (Module.blocks_rel (Module.flatten_scan (.inl rfl) (.inr rfl) flattened)) (Module.undeclared fresh)
    scopes

/-! Injections and stripping -/

theorem Module.injectDeadCode_scopeRules {verbose : Bool} {m m' : Module} (scopes : ScopeRules m)
    (fresh : "print" ∉ Module.declaredNames m)
    (injected : Run.Returns (Module.injectDeadCode verbose m) m') : ScopeRules m' :=
  ScopeRules.of_insertions (Event.keeps_touches _) (fun _ => False.elim)
    (Module.blocks_rel (Module.injectDeadCode_scan (.inl rfl) injected)) (Module.undeclared fresh) scopes

theorem Module.injectOpaque_scopeRules {verbose : Bool} {m m' : Module} (scopes : ScopeRules m)
    (fresh : "print" ∉ Module.declaredNames m)
    (injected : Run.Returns (Module.injectOpaque verbose m) m') : ScopeRules m' :=
  ScopeRules.of_insertions (Event.keeps_touches _) (fun _ => False.elim)
    (Module.blocks_rel (Module.injectOpaque_scan (.inl rfl) injected)) (Module.undeclared fresh) scopes

theorem Stmt.scan_of_isStringExpr {s : Stmt} (string : s.isStringExpr = true) : s.scan = Scan.empty := by
  unfold Stmt.isStringExpr at string
  split at string
  · rfl
  · cases string

theorem Stmt.scanAll_dropDocstring (body : List Stmt) :
    Stmt.scanAll (dropDocstring body) = Stmt.scanAll body := by
  cases body with
  | nil => rfl
  | cons s rest =>
    rw [dropDocstring]
    split
    · rw [Stmt.scanAll, Stmt.scan_of_isStringExpr (by assumption), Scan.empty_append]
    · rfl

theorem stripVisit_keepsBodyScopes :
    KeepsBodyScopes (fun _ => False) (fun _ => False) (stripVisit.admits idOutcomes) where
  new _ _ never _ := never
  edit := by
    intro name body edit admitted b
    cases idOutcomes.pure_returns admitted
    rw [Stmt.scanAll_dropDocstring]
    exact .refl (fun _ => rfl) _

theorem Module.stripDocstrings_scan (m : Module) :
    Scan.Rel (· = ·) (fun _ => False) (fun _ => False) (Stmt.scanAll m)
      (Stmt.scanAll (Module.stripDocstrings m)) := by
  have related := Stmt.walkDefsAll_scan stripVisit_keepsBodyScopes (dropDocstring m) _
    (Stmt.walkDefsAll_mem_among stripVisit (dropDocstring m) _ rfl)
  rwa [Stmt.scanAll_dropDocstring] at related

theorem Module.stripDocstrings_scopeRules {m : Module} (scopes : ScopeRules m) :
    ScopeRules (Module.stripDocstrings m) := by
  have keepsEvents : Event.Keeps (· = ·) (fun _ => False) (fun _ => False) :=
    ⟨.inl ∘ Eq.symm, False.elim⟩
  exact ScopeRules.of_insertions keepsEvents (fun _ => False.elim)
    (Module.blocks_rel (Module.stripDocstrings_scan m)) (fun _ _ _ _ _ => id) scopes

/-! Every pass -/

/-- What a pass needs of a module, beyond the scoping rules, to keep them: renaming needs no
`nonlocal` declaration, whose name it would rename away from the binding, and no declared name of
the form it draws; the other passes need the one name they bring in declared nowhere. -/
def Transform.ScopeNeeds : Transform → Module → Prop
  | .rename, m => Module.nonlocalFree m = true ∧
      ∀ x ∈ Module.declaredNames m, x.toList.take 2 ≠ ['v', '_']
  | .sealStrings, m => "decrypt_string" ∉ Module.declaredNames m
  | .ensureDecryptor, m => "decrypt_string" ∉ Module.declaredNames m
  | .flatten, m => stateVariable ∉ Module.declaredNames m
  | .injectDeadCode, m => "print" ∉ Module.declaredNames m
  | .injectOpaque, m => "print" ∉ Module.declaredNames m
  | .stripDocstrings, _ => True

instance (t : Transform) (m : Module) : Decidable (t.ScopeNeeds m) := by
  cases t <;> unfold Transform.ScopeNeeds <;> infer_instance

/-- Each pass keeps the static rules and the scoping rules of a module that keeps them, given
what it needs. -/
theorem Transform.apply_keeps_compileRules (verbose : Bool) (t : Transform) {m m' : Module}
    (rules : StaticRules m) (scopes : ScopeRules m) (needs : t.Needs m) (scopeNeeds : t.ScopeNeeds m)
    (ran : Run.Returns (t.apply verbose m) m') : StaticRules m' ∧ ScopeRules m' := by
  refine ⟨Transform.apply_keeps_staticRules verbose t rules needs ran, ?_⟩
  cases t with
  | rename => exact Module.rename_scopeRules scopes scopeNeeds.1 scopeNeeds.2 ran
  | sealStrings => exact Module.sealStrings_scopeRules scopes scopeNeeds ran
  | flatten => exact Module.flatten_scopeRules scopes scopeNeeds ran
  | injectDeadCode => exact Module.injectDeadCode_scopeRules scopes scopeNeeds ran
  | injectOpaque => exact Module.injectOpaque_scopeRules scopes scopeNeeds ran
  | stripDocstrings =>
    cases Run.outcomes.pure_returns ran
    exact Module.stripDocstrings_scopeRules scopes
  | ensureDecryptor =>
    cases Run.outcomes.pure_returns ran
    exact Module.ensureDecryptor_scopeRules scopes scopeNeeds

theorem Transform.decryptor_keeps_compileRules_nested :
    let m : Module := [.functionDef "f" Arguments.empty
      [.assign [.name "x"] (.constant (.int 1)),
        .functionDef "g" Arguments.empty [.nonlocal ["x"], .global ["y"],
          .assign [.name "x"] (.name "y")] [] none false] [] none false]
    StaticRules m ∧ ScopeRules m ∧ Transform.ensureDecryptor.Needs m ∧
      Transform.ensureDecryptor.ScopeNeeds m ∧
        StaticRules (Module.ensureDecryptor m) ∧ ScopeRules (Module.ensureDecryptor m) :=
  ⟨by decide, by decide, by decide, by decide,
    Transform.apply_keeps_compileRules false .ensureDecryptor (by decide) (by decide) (by decide)
      (by decide) ⟨{}, {}, rfl⟩⟩

theorem Transform.strip_empties_docstring_body :
    let m : Module := [.functionDef "f" Arguments.empty
      [.expr (.constant (.str (Text.ofString "doc") false))] [] none false]
    StaticRules m ∧ ScopeRules m ∧ ¬ StaticRules (Module.stripDocstrings m) :=
  ⟨by decide, by decide, by decide⟩

end Obfuscation.Pass
