import Mathlib.Data.List.Forall2
import Obfuscation.Proofs.DefinitionWalk
import Obfuscation.Proofs.Run
import Obfuscation.Pass.Inject
/-!
What injecting dead code and opaque predicates does to a module. Each pass visits the function
definitions in walk order and puts one edit into each body, drawn in that order; deleting the
inserted statements gives the module back.
-/

namespace Obfuscation

namespace Entropy

def afterDraws (e : Entropy) (k : Nat) : Entropy := { e with integerDraws := e.integerDraws + k }

def drawAt (e : Entropy) (i : Nat) (lo hi : Int) : Int := ((e.afterDraws i).drawBetween lo hi).1

@[simp] theorem afterDraws_zero (e : Entropy) : e.afterDraws 0 = e := rfl

@[simp] theorem afterDraws_afterDraws (e : Entropy) (j k : Nat) :
    (e.afterDraws j).afterDraws k = e.afterDraws (j + k) := by
  simp [afterDraws, Nat.add_assoc]

@[simp] theorem drawAt_afterDraws (e : Entropy) (k i : Nat) (lo hi : Int) :
    (e.afterDraws k).drawAt i lo hi = e.drawAt (k + i) lo hi := by
  simp [drawAt]

theorem drawAt_toNat_le (e : Entropy) (i n : Nat) : (e.drawAt i 0 n).toNat ≤ n := by
  have pos : (0 : Int) < (n : Int) - 0 + 1 := by omega
  simp only [drawAt, drawBetween]
  generalize List.getD _ _ _ = k
  have low := Int.fmod_nonneg_of_pos k pos
  have high := Int.fmod_lt_of_pos k pos
  omega

end Entropy

namespace Pass

open Syntax

/-! Insertions and their undoing -/

/-- What an injection does to the body of one definition: nothing, or put a statement at a
position. -/
abbrev Insertion := Option (Nat × Stmt)

def Insertion.edit : Insertion → BodyEdit
  | none => id
  | some (p, x) => fun body => insertAt body p x

def Insertion.undo : Insertion → BodyEdit
  | none => id
  | some (p, _) => fun body => body.eraseIdx p

/-- An insertion suits a definition when its position lies within the definition's body and its
statement holds no function definition. -/
def Insertion.Fits : Insertion → DefSite → Prop
  | none, _ => True
  | some (p, x), d => p ≤ d.body.length ∧ x.defSites = [] ∧ ∀ es, x.editDef es = x

theorem eraseIdx_insertAt {α : Type} (xs : List α) {p : Nat} (x : α) (within : p ≤ xs.length) :
    (insertAt xs p x).eraseIdx p = xs := by
  have front : (xs.take p).length = p := by simp; omega
  rw [insertAt, List.eraseIdx_eq_take_drop_succ, List.take_left' front, ← List.drop_drop,
    List.drop_left' front]
  simp

theorem defSitesAll_insertAt (body : List Stmt) (p : Nat) {x : Stmt} (plain : x.defSites = []) :
    Stmt.defSitesAll (insertAt body p x) = Stmt.defSitesAll body := by
  rw [insertAt, defSitesAll_append, defSitesAll_cons, plain, List.nil_append, ← defSitesAll_append,
    List.take_append_drop]

theorem editDefs_insertAt (body : List Stmt) {p : Nat} {x : Stmt} (within : p ≤ body.length)
    (plain : x.defSites = []) (fixed : ∀ es, x.editDef es = x) (es : List BodyEdit)
    (length : es.length = (Stmt.defSitesAll body).length) :
    Stmt.editDefs (insertAt body p x) es = insertAt (Stmt.editDefs body es) p x := by
  -- the edits before the inserted statement are those of the statements before it
  let n := (Stmt.defSitesAll (body.take p)).length
  have sites : Stmt.defSitesAll body =
      Stmt.defSitesAll (body.take p) ++ Stmt.defSitesAll (body.drop p) := by
    rw [← defSitesAll_append, List.take_append_drop]
  have front : (es.take n).length = n := by simp [n, length, sites]
  have head : (Stmt.editDefs (body.take p) (es.take n)).length = p := by
    rw [Stmt.length_editDefs]
    simp; omega
  calc Stmt.editDefs (insertAt body p x) es
      = Stmt.editDefs (body.take p ++ x :: body.drop p) (es.take n ++ ([] ++ es.drop n)) := by
        rw [insertAt, List.nil_append, List.take_append_drop]
    _ = Stmt.editDefs (body.take p) (es.take n) ++ x :: Stmt.editDefs (body.drop p) (es.drop n) := by
        rw [Stmt.editDefs_append _ _ front, Stmt.editDefs_cons x _ (by simp [plain]), fixed]
    _ = insertAt (Stmt.editDefs (body.take p ++ body.drop p) (es.take n ++ es.drop n)) p x := by
        rw [Stmt.editDefs_append _ _ front, insertAt, List.take_left' head, List.drop_left' head]
    _ = insertAt (Stmt.editDefs body es) p x := by
        rw [List.take_append_drop, List.take_append_drop]

theorem forall₂_split {ins : List Insertion} {L₁ L₂ : List DefSite}
    (fits : List.Forall₂ Insertion.Fits ins (L₁ ++ L₂)) :
    ∃ ins₁ ins₂, ins = ins₁ ++ ins₂ ∧ List.Forall₂ Insertion.Fits ins₁ L₁ ∧
      List.Forall₂ Insertion.Fits ins₂ L₂ :=
  ⟨_, _, (List.take_append_drop L₁.length ins).symm, List.forall₂_take_append ins L₁ L₂ fits,
    List.forall₂_drop_append ins L₁ L₂ fits⟩

theorem Insertion.undo_edit {i : Insertion} {d : DefSite} (fits : i.Fits d) {walked : List Stmt}
    (length : walked.length = d.body.length) {us : List BodyEdit}
    (sites : us.length = (Stmt.defSitesAll walked).length)
    (back : Stmt.editDefs walked us = d.body) :
    (Stmt.defSitesAll (i.edit walked)).length = (Stmt.defSitesAll walked).length ∧
      i.undo (Stmt.editDefs (i.edit walked) us) = d.body := by
  cases i with
  | none => exact ⟨rfl, back⟩
  | some insertion =>
    obtain ⟨p, x⟩ := insertion
    obtain ⟨within, plain, fixed⟩ := fits
    refine ⟨by simp [Insertion.edit, defSitesAll_insertAt _ _ plain], ?_⟩
    simp only [Insertion.edit, Insertion.undo]
    rw [editDefs_insertAt walked (by omega) plain fixed us sites, back]
    exact eraseIdx_insertAt _ _ within

mutual

theorem Stmt.editDef_undo : ∀ (s : Stmt) (ins : List Insertion),
    List.Forall₂ Insertion.Fits ins s.defSites →
      (s.editDef (ins.map Insertion.edit)).defSites.length = s.defSites.length ∧
        (s.editDef (ins.map Insertion.edit)).editDef (ins.map Insertion.undo) = s
  | .functionDef name args body decorators returns false, ins, fits => by
    simp only [Stmt.defSites] at fits ⊢
    -- the definition's own insertion comes first, then those of its body
    obtain ⟨i, ins, rfl, here, inner⟩ : ∃ i rest, ins = i :: rest ∧ i.Fits ⟨name, body⟩ ∧
        List.Forall₂ Insertion.Fits rest (Stmt.defSitesAll body) := by
      cases fits with
      | cons here inner => exact ⟨_, _, rfl, here, inner⟩
    obtain ⟨sites, back⟩ := Stmt.editDefs_undo body ins inner
    have count := inner.length_eq
    obtain ⟨ownSites, own⟩ := Insertion.undo_edit here (Stmt.length_editDefs body _)
      (by simpa [sites] using count) back
    rw [List.map_cons, editDef_functionDef _ _ _ _ _ _ (by simpa using count)]
    refine ⟨by simp [Stmt.defSites, ownSites, sites], ?_⟩
    rw [List.map_cons, editDef_functionDef _ _ _ _ _ _ (by simpa [ownSites, sites] using count), own]
  | .functionDef name args body decorators returns true, ins, fits => by
    simp only [Stmt.defSites] at fits ⊢
    obtain ⟨sites, back⟩ := Stmt.editDefs_undo body ins fits
    simp only [editDef_asyncDef, Stmt.defSites, sites, back, and_self]
  | .classDef name bases keywords body decorators, ins, fits => by
    simp only [Stmt.defSites] at fits ⊢
    obtain ⟨sites, back⟩ := Stmt.editDefs_undo body ins fits
    simp only [editDef_classDef, Stmt.defSites, sites, back, and_self]
  | .withBlock items body isAsync, ins, fits => by
    simp only [Stmt.defSites] at fits ⊢
    obtain ⟨sites, back⟩ := Stmt.editDefs_undo body ins fits
    simp only [editDef_withBlock, Stmt.defSites, sites, back, and_self]
  | .matchStmt subject cases, ins, fits => by
    simp only [Stmt.defSites] at fits ⊢
    obtain ⟨sites, back⟩ := MatchCase.editDefs_undo cases ins fits
    simp only [editDef_matchStmt, Stmt.defSites, sites, back, and_self]
  | .forLoop target iter body orelse isAsync, ins, fits => by
    simp only [Stmt.defSites] at fits ⊢
    obtain ⟨ins₁, ins₂, rfl, fits₁, fits₂⟩ := forall₂_split fits
    obtain ⟨sites₁, back₁⟩ := Stmt.editDefs_undo body ins₁ fits₁
    obtain ⟨sites₂, back₂⟩ := Stmt.editDefs_undo orelse ins₂ fits₂
    have count := fits₁.length_eq
    rw [List.map_append, editDef_forLoop _ _ _ _ _ (by simpa using count)]
    refine ⟨by simp [Stmt.defSites, sites₁, sites₂], ?_⟩
    rw [List.map_append, editDef_forLoop _ _ _ _ _ (by simpa [sites₁] using count), back₁, back₂]
  | .whileLoop test body orelse, ins, fits => by
    simp only [Stmt.defSites] at fits ⊢
    obtain ⟨ins₁, ins₂, rfl, fits₁, fits₂⟩ := forall₂_split fits
    obtain ⟨sites₁, back₁⟩ := Stmt.editDefs_undo body ins₁ fits₁
    obtain ⟨sites₂, back₂⟩ := Stmt.editDefs_undo orelse ins₂ fits₂
    have count := fits₁.length_eq
    rw [List.map_append, editDef_whileLoop _ _ _ (by simpa using count)]
    refine ⟨by simp [Stmt.defSites, sites₁, sites₂], ?_⟩
    rw [List.map_append, editDef_whileLoop _ _ _ (by simpa [sites₁] using count), back₁, back₂]
  | .ifStmt test body orelse, ins, fits => by
    simp only [Stmt.defSites] at fits ⊢
    obtain ⟨ins₁, ins₂, rfl, fits₁, fits₂⟩ := forall₂_split fits
    obtain ⟨sites₁, back₁⟩ := Stmt.editDefs_undo body ins₁ fits₁
    obtain ⟨sites₂, back₂⟩ := Stmt.editDefs_undo orelse ins₂ fits₂
    have count := fits₁.length_eq
    rw [List.map_append, editDef_ifStmt _ _ _ (by simpa using count)]
    refine ⟨by simp [Stmt.defSites, sites₁, sites₂], ?_⟩
    rw [List.map_append, editDef_ifStmt _ _ _ (by simpa [sites₁] using count), back₁, back₂]
  | .tryBlock body handlers orelse finalbody isStar, ins, fits => by
    simp only [Stmt.defSites] at fits ⊢
    -- the edits of the four parts come in order: body, handlers, else, finally
    obtain ⟨ins₁₂₃, ins₄, rfl, fits₁₂₃, fits₄⟩ := forall₂_split fits
    obtain ⟨ins₁₂, ins₃, rfl, fits₁₂, fits₃⟩ := forall₂_split fits₁₂₃
    obtain ⟨ins₁, ins₂, rfl, fits₁, fits₂⟩ := forall₂_split fits₁₂
    obtain ⟨sites₁, back₁⟩ := Stmt.editDefs_undo body ins₁ fits₁
    obtain ⟨sites₂, back₂⟩ := Handler.editDefs_undo handlers ins₂ fits₂
    obtain ⟨sites₃, back₃⟩ := Stmt.editDefs_undo orelse ins₃ fits₃
    obtain ⟨sites₄, back₄⟩ := Stmt.editDefs_undo finalbody ins₄ fits₄
    rw [List.map_append, List.map_append, List.map_append,
      editDef_tryBlock _ _ _ _ _ (by simpa using fits₁.length_eq)
        (by simpa using fits₂.length_eq) (by simpa using fits₃.length_eq)]
    refine ⟨by simp [Stmt.defSites, sites₁, sites₂, sites₃, sites₄], ?_⟩
    rw [List.map_append, List.map_append, List.map_append,
      editDef_tryBlock _ _ _ _ _ (by simpa [sites₁] using fits₁.length_eq)
        (by simpa [sites₂] using fits₂.length_eq) (by simpa [sites₃] using fits₃.length_eq),
      back₁, back₂, back₃, back₄]
  | .returnStmt _, ins, fits | .delete _, ins, fits | .assign _ _, ins, fits
  | .augAssign _ _ _, ins, fits | .annAssign _ _ _ _, ins, fits | .raise _ _, ins, fits
  | .assert _ _, ins, fits | .importNames _, ins, fits | .importFrom _ _ _, ins, fits
  | .global _, ins, fits | .nonlocal _, ins, fits | .expr _, ins, fits | .pass, ins, fits
  | .breakStmt, ins, fits | .continueStmt, ins, fits => by
    obtain rfl := List.forall₂_nil_right_iff.mp fits
    exact ⟨rfl, rfl⟩

theorem Stmt.editDefs_undo : ∀ (ss : List Stmt) (ins : List Insertion),
    List.Forall₂ Insertion.Fits ins (Stmt.defSitesAll ss) →
      (Stmt.defSitesAll (Stmt.editDefs ss (ins.map Insertion.edit))).length =
          (Stmt.defSitesAll ss).length ∧
        Stmt.editDefs (Stmt.editDefs ss (ins.map Insertion.edit)) (ins.map Insertion.undo) = ss
  | [], ins, fits => by
    obtain rfl := List.forall₂_nil_right_iff.mp fits
    exact ⟨rfl, rfl⟩
  | s :: rest, ins, fits => by
    simp only [defSitesAll_cons] at fits ⊢
    obtain ⟨ins₁, ins₂, rfl, fits₁, fits₂⟩ := forall₂_split fits
    obtain ⟨sites₁, back₁⟩ := Stmt.editDef_undo s ins₁ fits₁
    obtain ⟨sites₂, back₂⟩ := Stmt.editDefs_undo rest ins₂ fits₂
    have count := fits₁.length_eq
    rw [List.map_append, Stmt.editDefs_cons s rest (by simpa using count)]
    refine ⟨by simp [sites₁, sites₂], ?_⟩
    rw [List.map_append, Stmt.editDefs_cons _ _ (by simpa [sites₁] using count), back₁, back₂]

theorem Handler.editDefs_undo : ∀ (hs : List Handler) (ins : List Insertion),
    List.Forall₂ Insertion.Fits ins (Handler.defSitesAll hs) →
      (Handler.defSitesAll (Handler.editDefs hs (ins.map Insertion.edit))).length =
          (Handler.defSitesAll hs).length ∧
        Handler.editDefs (Handler.editDefs hs (ins.map Insertion.edit)) (ins.map Insertion.undo) = hs
  | [], ins, fits => by
    obtain rfl := List.forall₂_nil_right_iff.mp fits
    exact ⟨rfl, rfl⟩
  | .mk type name body :: rest, ins, fits => by
    simp only [Handler.defSitesAll] at fits ⊢
    obtain ⟨ins₁, ins₂, rfl, fits₁, fits₂⟩ := forall₂_split fits
    obtain ⟨sites₁, back₁⟩ := Stmt.editDefs_undo body ins₁ fits₁
    obtain ⟨sites₂, back₂⟩ := Handler.editDefs_undo rest ins₂ fits₂
    have count := fits₁.length_eq
    rw [List.map_append, Handler.editDefs_cons type name body rest (by simpa using count)]
    refine ⟨by simp [Handler.defSitesAll, sites₁, sites₂], ?_⟩
    rw [List.map_append, Handler.editDefs_cons _ _ _ _ (by simpa [sites₁] using count), back₁, back₂]

theorem MatchCase.editDefs_undo : ∀ (cs : List MatchCase) (ins : List Insertion),
    List.Forall₂ Insertion.Fits ins (MatchCase.defSitesAll cs) →
      (MatchCase.defSitesAll (MatchCase.editDefs cs (ins.map Insertion.edit))).length =
          (MatchCase.defSitesAll cs).length ∧
        MatchCase.editDefs (MatchCase.editDefs cs (ins.map Insertion.edit)) (ins.map Insertion.undo) =
          cs
  | [], ins, fits => by
    obtain rfl := List.forall₂_nil_right_iff.mp fits
    exact ⟨rfl, rfl⟩
  | .mk pattern guard body :: rest, ins, fits => by
    simp only [MatchCase.defSitesAll] at fits ⊢
    obtain ⟨ins₁, ins₂, rfl, fits₁, fits₂⟩ := forall₂_split fits
    obtain ⟨sites₁, back₁⟩ := Stmt.editDefs_undo body ins₁ fits₁
    obtain ⟨sites₂, back₂⟩ := MatchCase.editDefs_undo rest ins₂ fits₂
    have count := fits₁.length_eq
    rw [List.map_append, MatchCase.editDefs_cons pattern guard body rest (by simpa using count)]
    refine ⟨by simp [MatchCase.defSitesAll, sites₁, sites₂], ?_⟩
    rw [List.map_append, MatchCase.editDefs_cons _ _ _ _ (by simpa [sites₁] using count), back₁,
      back₂]

end

/-! The two injections -/

theorem Insertion.fits_head {x : Stmt} (plain : x.defSites = []) (fixed : ∀ es, x.editDef es = x)
    (d : DefSite) : Insertion.Fits (some (0, x)) d :=
  ⟨Nat.zero_le _, plain, fixed⟩

/-- The insertions of dead code into `n` definitions met in turn: the `i`-th gets, at the head of
its body, the print of the `i`-th number drawn between 1000 and 9999. -/
def deadInsertions (e : Entropy) (n : Nat) : List Insertion :=
  (List.range n).map fun i => some (0, deadStmt (e.drawAt i 1000 9999))

/-- The insertions of opaque predicates into definitions met in turn, drawing from the `c`-th draw
on: a definition with an empty body gets none and draws nothing; any other gets the opaque
statement at the position it draws between 0 and the length of its body. -/
def opaqueInsertions (e : Entropy) : Nat → List DefSite → List Insertion
  | _, [] => []
  | c, d :: ds =>
    if d.body.isEmpty then none :: opaqueInsertions e c ds
    else some ((e.drawAt c 0 d.body.length).toNat, opaqueStmt) :: opaqueInsertions e (c + 1) ds

theorem deadInsertions_succ (e : Entropy) (n : Nat) :
    deadInsertions e (n + 1) =
      some (0, deadStmt (e.drawAt 0 1000 9999)) :: deadInsertions (e.afterDraws 1) n := by
  simp [deadInsertions, List.range_succ_eq_map, Nat.add_comm]

theorem opaqueInsertions_afterDraws (e : Entropy) (k : Nat) :
    ∀ (c : Nat) (sites : List DefSite),
      opaqueInsertions (e.afterDraws k) c sites = opaqueInsertions e (k + c) sites
  | _, [] => rfl
  | c, d :: ds => by
    simp only [opaqueInsertions, Entropy.drawAt_afterDraws, opaqueInsertions_afterDraws e k c ds,
      opaqueInsertions_afterDraws e k (c + 1) ds, Nat.add_assoc]

theorem deadInsertions_fit (e : Entropy) (sites : List DefSite) :
    List.Forall₂ Insertion.Fits (deadInsertions e sites.length) sites := by
  refine List.forall₂_iff_get.mpr ⟨by simp [deadInsertions], fun i _ _ => ?_⟩
  simp only [deadInsertions, List.get_eq_getElem, List.getElem_map, List.getElem_range]
  exact Insertion.fits_head rfl (fun _ => rfl) _

theorem opaqueInsertions_fit (e : Entropy) :
    ∀ (c : Nat) (sites : List DefSite), List.Forall₂ Insertion.Fits (opaqueInsertions e c sites) sites
  | _, [] => .nil
  | c, d :: ds => by
    simp only [opaqueInsertions]
    split
    · exact .cons trivial (opaqueInsertions_fit e c ds)
    · exact .cons ⟨Entropy.drawAt_toNat_le _ _ _, rfl, fun _ => rfl⟩
        (opaqueInsertions_fit e (c + 1) ds)

theorem deadCodeVisit_run (verbose : Bool) (d : DefSite) (σ : Session) :
    ∃ σ', ((deadCodeVisit verbose).site d).run.run σ =
        (.ok (Insertion.edit (some (0, deadStmt (σ.entropy.drawAt 0 1000 9999)))), σ') ∧
      σ'.entropy = σ.entropy.afterDraws 1 := by
  have edit : (deadStmt (σ.entropy.drawAt 0 1000 9999) :: ·) =
      Insertion.edit (some (0, deadStmt (σ.entropy.drawAt 0 1000 9999))) := by
    funext body
    simp [Insertion.edit, insertAt]
  simp only [DefVisit.site, deadCodeVisit]
  rw [Run.run_bind_ok (Run.run_drawBetween _ _ _), ← edit]
  cases verbose <;> exact ⟨_, rfl, rfl⟩

theorem deadCodeSites_run (verbose : Bool) : ∀ (sites : List DefSite) (σ : Session),
    ∃ σ', (sites.mapM (deadCodeVisit verbose).site).run.run σ =
        (.ok ((deadInsertions σ.entropy sites.length).map Insertion.edit), σ') ∧
      σ'.entropy = σ.entropy.afterDraws sites.length
  | [], σ => ⟨σ, rfl, rfl⟩
  | d :: ds, σ => by
    obtain ⟨σ₁, first, entropy₁⟩ := deadCodeVisit_run verbose d σ
    obtain ⟨σ₂, rest, entropy₂⟩ := deadCodeSites_run verbose ds σ₁
    refine ⟨σ₂, ?_, by simp [entropy₂, entropy₁, Nat.add_comm]⟩
    rw [List.mapM_cons, Run.run_bind_ok first, Run.run_bind_ok rest, List.length_cons,
      deadInsertions_succ, ← entropy₁]
    rfl

theorem opaqueVisit_run (verbose : Bool) (d : DefSite) (σ : Session) :
    ∃ σ', ((opaqueVisit verbose).site d).run.run σ =
        (.ok ((opaqueInsertions σ.entropy 0 [d]).headD none).edit, σ') ∧
      σ'.entropy = σ.entropy.afterDraws (if d.body.isEmpty then 0 else 1) := by
  simp only [DefVisit.site, opaqueVisit, opaqueInsertions]
  split
  · exact ⟨σ, rfl, rfl⟩
  · -- a non-empty body draws its position, announces it, and takes the opaque statement there
    rw [Run.run_bind_ok (Run.run_drawBetween _ _ _)]
    cases verbose <;> exact ⟨_, rfl, rfl⟩

theorem opaqueSites_run (verbose : Bool) : ∀ (sites : List DefSite) (σ : Session),
    ∃ σ', (sites.mapM (opaqueVisit verbose).site).run.run σ =
        (.ok ((opaqueInsertions σ.entropy 0 sites).map Insertion.edit), σ') ∧
      σ'.entropy = σ.entropy.afterDraws (sites.countP fun d => !d.body.isEmpty)
  | [], σ => ⟨σ, rfl, rfl⟩
  | d :: ds, σ => by
    obtain ⟨σ₁, first, entropy₁⟩ := opaqueVisit_run verbose d σ
    obtain ⟨σ₂, rest, entropy₂⟩ := opaqueSites_run verbose ds σ₁
    refine ⟨σ₂, ?_, ?_⟩
    · rw [List.mapM_cons, Run.run_bind_ok first, Run.run_bind_ok rest, entropy₁,
        opaqueInsertions_afterDraws]
      simp only [opaqueInsertions]
      split <;> rfl
    · rw [entropy₂, entropy₁, Entropy.afterDraws_afterDraws, List.countP_cons]
      split <;> simp_all [Nat.add_comm]

theorem Module.injectDeadCode_run (verbose : Bool) (m : Module) (σ : Session) :
    ∃ σ', (Module.injectDeadCode verbose m).run.run σ =
        (.ok (Stmt.editDefs m
          ((deadInsertions σ.entropy (Stmt.defSitesAll m).length).map Insertion.edit)), σ') ∧
      σ'.entropy = σ.entropy.afterDraws (Stmt.defSitesAll m).length := by
  obtain ⟨σ', run, entropy⟩ := deadCodeSites_run verbose (Stmt.defSitesAll m) σ
  refine ⟨σ', ?_, entropy⟩
  rw [Module.injectDeadCode, Stmt.walkDefsAll_eq_editDefs (v := deadCodeVisit verbose) rfl,
    Run.run_map_ok run]

theorem Module.injectOpaque_run (verbose : Bool) (m : Module) (σ : Session) :
    ∃ σ', (Module.injectOpaque verbose m).run.run σ =
        (.ok (Stmt.editDefs m
          ((opaqueInsertions σ.entropy 0 (Stmt.defSitesAll m)).map Insertion.edit)), σ') ∧
      σ'.entropy = σ.entropy.afterDraws ((Stmt.defSitesAll m).countP fun d => !d.body.isEmpty) := by
  obtain ⟨σ', run, entropy⟩ := opaqueSites_run verbose (Stmt.defSitesAll m) σ
  refine ⟨σ', ?_, entropy⟩
  rw [Module.injectOpaque, Stmt.walkDefsAll_eq_editDefs (v := opaqueVisit verbose) rfl,
    Run.run_map_ok run]

/-- Dead code injection puts one print of a drawn number at the head of the body of every
function definition at any depth, and opaque predicate injection puts the opaque statement into
every non-empty body, at a drawn position no further than its end. The definitions draw in the
order the walk meets them, a definition before those nested in it, and deleting the inserted
statements gives the module back. -/
theorem Module.injections_insert_one_statement (verbose : Bool) (m : Module) (σ : Session) :
    (let dead := deadInsertions σ.entropy (Stmt.defSitesAll m).length
      ∃ σ', (Module.injectDeadCode verbose m).run.run σ =
          (.ok (Stmt.editDefs m (dead.map Insertion.edit)), σ') ∧
        σ'.entropy = σ.entropy.afterDraws (Stmt.defSitesAll m).length ∧
        Stmt.editDefs (Stmt.editDefs m (dead.map Insertion.edit)) (dead.map Insertion.undo) = m) ∧
    (let guarded := opaqueInsertions σ.entropy 0 (Stmt.defSitesAll m)
      ∃ σ', (Module.injectOpaque verbose m).run.run σ =
          (.ok (Stmt.editDefs m (guarded.map Insertion.edit)), σ') ∧
        σ'.entropy =
          σ.entropy.afterDraws ((Stmt.defSitesAll m).countP fun d => !d.body.isEmpty) ∧
        Stmt.editDefs (Stmt.editDefs m (guarded.map Insertion.edit)) (guarded.map Insertion.undo) =
          m) := by
  obtain ⟨σ₁, dead, deadEntropy⟩ := Module.injectDeadCode_run verbose m σ
  obtain ⟨σ₂, guarded, guardedEntropy⟩ := Module.injectOpaque_run verbose m σ
  exact ⟨⟨σ₁, dead, deadEntropy,
      (Stmt.editDefs_undo m _ (deadInsertions_fit σ.entropy (Stmt.defSitesAll m))).2⟩,
    ⟨σ₂, guarded, guardedEntropy,
      (Stmt.editDefs_undo m _ (opaqueInsertions_fit σ.entropy 0 (Stmt.defSitesAll m))).2⟩⟩

/-- With the number source giving 4 first, a method gets `print('deadcode_1004')` at its head. -/
example :
    ((Module.injectDeadCode false
        [.classDef "C" [] [] [.functionDef "f" .empty [.pass] [] none false] []]).run.run
      { entropy := { numbers := [4] } }).1 =
      .ok [.classDef "C" [] [] [.functionDef "f" .empty [deadStmt 1004, .pass] [] none false] []] :=
  rfl

end Pass

end Obfuscation
