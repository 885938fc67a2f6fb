import Obfuscation.Proofs.DefinitionWalk
import Obfuscation.Proofs.Run
import Obfuscation.Pass.Flatten
import Obfuscation.Pass.Strip
/-!
Which function definitions flattening and docstring stripping edit. Stripping descends into
every definition; flattening edits exactly the definitions that no function definition encloses
(`Module.flatten_edits_outermost`), and stripping drops the module's docstring and then that of
every function definition (`Module.stripDocstrings_eq_editDefs`).
-/

namespace Obfuscation.Syntax

mutual

/-- The function definitions a descending walk meets in a statement, in order, each with whether a
function definition encloses it. A class or an `async` definition does not enclose what it
holds. -/
def Stmt.sitesEnclosed : Stmt → List (DefSite × Bool)
  | .functionDef name _ body _ _ false =>
    (⟨name, body⟩, false) :: (Stmt.defSitesAll body).map (·, true)
  | .functionDef _ _ body _ _ true => Stmt.sitesEnclosedAll body
  | .classDef _ _ _ body _ => Stmt.sitesEnclosedAll body
  | .forLoop _ _ body orelse _ => Stmt.sitesEnclosedAll body ++ Stmt.sitesEnclosedAll orelse
  | .whileLoop _ body orelse => Stmt.sitesEnclosedAll body ++ Stmt.sitesEnclosedAll orelse
  | .ifStmt _ body orelse => Stmt.sitesEnclosedAll body ++ Stmt.sitesEnclosedAll orelse
  | .withBlock _ body _ => Stmt.sitesEnclosedAll body
  | .matchStmt _ cases => MatchCase.sitesEnclosedAll cases
  | .tryBlock body handlers orelse finalbody _ =>
    Stmt.sitesEnclosedAll body ++ Handler.sitesEnclosedAll handlers ++
      Stmt.sitesEnclosedAll orelse ++ Stmt.sitesEnclosedAll finalbody
  | _ => []

def Stmt.sitesEnclosedAll : List Stmt → List (DefSite × Bool)
  | [] => []
  | s :: rest => s.sitesEnclosed ++ Stmt.sitesEnclosedAll rest

def Handler.sitesEnclosedAll : List Handler → List (DefSite × Bool)
  | [] => []
  | .mk _ _ body :: rest => Stmt.sitesEnclosedAll body ++ Handler.sitesEnclosedAll rest

def MatchCase.sitesEnclosedAll : List MatchCase → List (DefSite × Bool)
  | [] => []
  | .mk _ _ body :: rest => Stmt.sitesEnclosedAll body ++ MatchCase.sitesEnclosedAll rest

end

mutual

theorem Stmt.map_fst_sitesEnclosed : ∀ s : Stmt, s.sitesEnclosed.map Prod.fst = s.defSites
  | .functionDef name args body decorators returns false => by
    simp [Stmt.sitesEnclosed, Stmt.defSites, Function.comp_def]
  | .functionDef _ _ body _ _ true | .classDef _ _ _ body _ | .withBlock _ body _ => by
    simp [Stmt.sitesEnclosed, Stmt.defSites, Stmt.map_fst_sitesEnclosedAll body]
  | .forLoop _ _ body orelse _ | .whileLoop _ body orelse | .ifStmt _ body orelse => by
    simp [Stmt.sitesEnclosed, Stmt.defSites, Stmt.map_fst_sitesEnclosedAll body,
      Stmt.map_fst_sitesEnclosedAll orelse]
  | .matchStmt _ cases => by
    simp [Stmt.sitesEnclosed, Stmt.defSites, MatchCase.map_fst_sitesEnclosedAll cases]
  | .tryBlock body handlers orelse finalbody _ => by
    simp [Stmt.sitesEnclosed, Stmt.defSites, Stmt.map_fst_sitesEnclosedAll body,
      Handler.map_fst_sitesEnclosedAll handlers, Stmt.map_fst_sitesEnclosedAll orelse,
      Stmt.map_fst_sitesEnclosedAll finalbody]
  | .returnStmt _ | .delete _ | .assign _ _ | .augAssign _ _ _ | .annAssign _ _ _ _
  | .raise _ _ | .assert _ _ | .importNames _ | .importFrom _ _ _ | .global _ | .nonlocal _
  | .expr _ | .pass | .breakStmt | .continueStmt => rfl

theorem Stmt.map_fst_sitesEnclosedAll :
    ∀ ss : List Stmt, (Stmt.sitesEnclosedAll ss).map Prod.fst = Stmt.defSitesAll ss
  | [] => rfl
  | s :: rest => by
    simp [Stmt.sitesEnclosedAll, Stmt.map_fst_sitesEnclosed s, Stmt.map_fst_sitesEnclosedAll rest]

theorem Handler.map_fst_sitesEnclosedAll :
    ∀ hs : List Handler, (Handler.sitesEnclosedAll hs).map Prod.fst = Handler.defSitesAll hs
  | [] => rfl
  | .mk _ _ body :: rest => by
    simp [Handler.sitesEnclosedAll, Handler.defSitesAll, Stmt.map_fst_sitesEnclosedAll body,
      Handler.map_fst_sitesEnclosedAll rest]

theorem MatchCase.map_fst_sitesEnclosedAll :
    ∀ cs : List MatchCase, (MatchCase.sitesEnclosedAll cs).map Prod.fst = MatchCase.defSitesAll cs
  | [] => rfl
  | .mk _ _ body :: rest => by
    simp [MatchCase.sitesEnclosedAll, MatchCase.defSitesAll, Stmt.map_fst_sitesEnclosedAll body,
      MatchCase.map_fst_sitesEnclosedAll rest]

end

theorem Stmt.length_sitesEnclosedAll (ss : List Stmt) :
    (Stmt.sitesEnclosedAll ss).length = (Stmt.defSitesAll ss).length := by
  rw [← Stmt.map_fst_sitesEnclosedAll ss, List.length_map]

/-! Putting back edits that change nothing -/

mutual

theorem Stmt.editDef_replicate_id :
    ∀ s : Stmt, s.editDef (List.replicate s.defSites.length id) = s
  | .functionDef name args body decorators returns false => by
    rw [Stmt.defSites, List.length_cons, List.replicate_succ,
      editDef_functionDef _ _ _ _ _ _ List.length_replicate, Stmt.editDefs_replicate_id body]
    rfl
  | .functionDef name args body decorators returns true => by
    rw [Stmt.defSites, editDef_asyncDef, Stmt.editDefs_replicate_id body]
  | .classDef name bases keywords body decorators => by
    rw [Stmt.defSites, editDef_classDef, Stmt.editDefs_replicate_id body]
  | .withBlock items body isAsync => by
    rw [Stmt.defSites, editDef_withBlock, Stmt.editDefs_replicate_id body]
  | .matchStmt subject cases => by
    rw [Stmt.defSites, editDef_matchStmt, MatchCase.editDefs_replicate_id cases]
  | .forLoop target iter body orelse isAsync => by
    rw [Stmt.defSites, List.length_append, ← List.replicate_append_replicate,
      editDef_forLoop _ _ _ _ _ List.length_replicate, Stmt.editDefs_replicate_id body,
      Stmt.editDefs_replicate_id orelse]
  | .whileLoop test body orelse => by
    rw [Stmt.defSites, List.length_append, ← List.replicate_append_replicate,
      editDef_whileLoop _ _ _ List.length_replicate, Stmt.editDefs_replicate_id body,
      Stmt.editDefs_replicate_id orelse]
  | .ifStmt test body orelse => by
    rw [Stmt.defSites, List.length_append, ← List.replicate_append_replicate,
      editDef_ifStmt _ _ _ List.length_replicate, Stmt.editDefs_replicate_id body,
      Stmt.editDefs_replicate_id orelse]
  | .tryBlock body handlers orelse finalbody isStar => by
    rw [Stmt.defSites, List.length_append, List.length_append, List.length_append,
      ← List.replicate_append_replicate, ← List.replicate_append_replicate,
      ← List.replicate_append_replicate,
      editDef_tryBlock _ _ _ _ _ List.length_replicate List.length_replicate List.length_replicate,
      Stmt.editDefs_replicate_id body, Handler.editDefs_replicate_id handlers,
      Stmt.editDefs_replicate_id orelse, Stmt.editDefs_replicate_id finalbody]
  | .returnStmt _ | .delete _ | .assign _ _ | .augAssign _ _ _ | .annAssign _ _ _ _
  | .raise _ _ | .assert _ _ | .importNames _ | .importFrom _ _ _ | .global _ | .nonlocal _
  | .expr _ | .pass | .breakStmt | .continueStmt => rfl

theorem Stmt.editDefs_replicate_id :
    ∀ ss : List Stmt, Stmt.editDefs ss (List.replicate (Stmt.defSitesAll ss).length id) = ss
  | [] => rfl
  | s :: rest => by
    rw [defSitesAll_cons, List.length_append, ← List.replicate_append_replicate,
      Stmt.editDefs_cons s rest List.length_replicate, Stmt.editDef_replicate_id s,
      Stmt.editDefs_replicate_id rest]

theorem Handler.editDefs_replicate_id :
    ∀ hs : List Handler,
      Handler.editDefs hs (List.replicate (Handler.defSitesAll hs).length id) = hs
  | [] => rfl
  | .mk type name body :: rest => by
    rw [Handler.defSitesAll, List.length_append, ← List.replicate_append_replicate,
      Handler.editDefs_cons type name body rest List.length_replicate,
      Stmt.editDefs_replicate_id body, Handler.editDefs_replicate_id rest]

theorem MatchCase.editDefs_replicate_id :
    ∀ cs : List MatchCase,
      MatchCase.editDefs cs (List.replicate (MatchCase.defSitesAll cs).length id) = cs
  | [] => rfl
  | .mk pattern guard body :: rest => by
    rw [MatchCase.defSitesAll, List.length_append, ← List.replicate_append_replicate,
      MatchCase.editDefs_cons pattern guard body rest List.length_replicate,
      Stmt.editDefs_replicate_id body, MatchCase.editDefs_replicate_id rest]

end

/-! A walk that stops at each definition it meets -/

section Outer

variable {m : Type → Type} [Monad m] [LawfulMonad m] (v : DefVisit m)

/-- The visit of a definition by a walk that does not descend: a definition that another one
encloses is never reached, and keeps its body. -/
def DefVisit.siteUnlessEnclosed (p : DefSite × Bool) : m BodyEdit :=
  if p.2 then pure id else v.site p.1

theorem Traverses.siteUnlessEnclosed (p : DefSite × Bool) :
    Traverses v.siteUnlessEnclosed (v.siteUnlessEnclosed p) takeEdit [p] where
  visits := by
    simp only [List.mapM_cons, List.mapM_nil, map_pure, bind_pure_comp, Functor.map_map]
    exact (id_map _).symm
  takes rs rest length := by
    match rs, length with
    | [_], _ => rfl

theorem Stmt.walkDefsAll_traverses_enclosed (body : List Stmt) :
    Traverses v.siteUnlessEnclosed (pure body) (Stmt.walkDefsAll editVisit body)
      ((Stmt.defSitesAll body).map (·, true)) where
  visits := by
    have unreached : ((Stmt.defSitesAll body).map (·, true)).mapM v.siteUnlessEnclosed =
        pure (List.replicate (Stmt.defSitesAll body).length id) := by
      simp [DefVisit.siteUnlessEnclosed, Function.comp_def, List.map_const']
    rw [unreached, map_pure]
    exact congrArg pure (Stmt.editDefs_replicate_id body).symm
  takes rs rest length :=
    (Stmt.walkDefsAll_traverses (v := editVisit) rfl body).takes rs rest (by simpa using length)

variable {v}

mutual

theorem Stmt.walkDefs_traverses_outer (stops : v.descend = false) :
    ∀ s : Stmt, Traverses v.siteUnlessEnclosed (s.walkDefs v) (s.walkDefs editVisit) s.sitesEnclosed
  | .functionDef name args body decorators returns false => by
    -- the walk visits the definition and stops there; what it encloses is put back as it was
    have visited := (Traverses.siteUnlessEnclosed v (⟨name, body⟩, false)).bind fun e =>
      (Stmt.walkDefsAll_traverses_enclosed v body).bindPure fun b =>
        Stmt.functionDef name args (e b) decorators returns false
    simp only [pure_bind] at visited
    simp only [Stmt.walkDefs, Stmt.sitesEnclosed, stops, show editVisit.descend = true from rfl,
      Bool.false_eq_true, ↓reduceIte, pure_bind]
    exact visited
  | .functionDef name args body decorators returns true => by
    simp only [Stmt.walkDefs, Stmt.sitesEnclosed]
    exact (Stmt.walkDefsAll_traverses_outer stops body).bindPure _
  | .classDef name bases keywords body decorators => by
    simp only [Stmt.walkDefs, Stmt.sitesEnclosed]
    exact (Stmt.walkDefsAll_traverses_outer stops body).bindPure _
  | .forLoop target iter body orelse isAsync => by
    simp only [Stmt.walkDefs, Stmt.sitesEnclosed]
    exact (Stmt.walkDefsAll_traverses_outer stops body).bind fun _ =>
      (Stmt.walkDefsAll_traverses_outer stops orelse).bindPure _
  | .whileLoop test body orelse => by
    simp only [Stmt.walkDefs, Stmt.sitesEnclosed]
    exact (Stmt.walkDefsAll_traverses_outer stops body).bind fun _ =>
      (Stmt.walkDefsAll_traverses_outer stops orelse).bindPure _
  | .ifStmt test body orelse => by
    simp only [Stmt.walkDefs, Stmt.sitesEnclosed]
    exact (Stmt.walkDefsAll_traverses_outer stops body).bind fun _ =>
      (Stmt.walkDefsAll_traverses_outer stops orelse).bindPure _
  | .withBlock items body isAsync => by
    simp only [Stmt.walkDefs, Stmt.sitesEnclosed]
    exact (Stmt.walkDefsAll_traverses_outer stops body).bindPure _
  | .matchStmt subject cases => by
    simp only [Stmt.walkDefs, Stmt.sitesEnclosed]
    exact (MatchCase.walkDefsAll_traverses_outer stops cases).map _
  | .tryBlock body handlers orelse finalbody isStar => by
    simp only [Stmt.walkDefs, Stmt.sitesEnclosed, List.append_assoc]
    exact (Stmt.walkDefsAll_traverses_outer stops body).bind fun _ =>
      (Handler.walkDefsAll_traverses_outer stops handlers).bind fun _ =>
      (Stmt.walkDefsAll_traverses_outer stops orelse).bind fun _ =>
      (Stmt.walkDefsAll_traverses_outer stops finalbody).bindPure _
  | .returnStmt _ | .delete _ | .assign _ _ | .augAssign _ _ _ | .annAssign _ _ _ _
  | .raise _ _ | .assert _ _ | .importNames _ | .importFrom _ _ _ | .global _ | .nonlocal _
  | .expr _ | .pass | .breakStmt | .continueStmt => Traverses.pure _

theorem Stmt.walkDefsAll_traverses_outer (stops : v.descend = false) :
    ∀ ss : List Stmt, Traverses v.siteUnlessEnclosed (Stmt.walkDefsAll v ss)
      (Stmt.walkDefsAll editVisit ss) (Stmt.sitesEnclosedAll ss)
  | [] => Traverses.pure _
  | s :: rest => by
    simp only [Stmt.walkDefsAll, Stmt.sitesEnclosedAll]
    exact (Stmt.walkDefs_traverses_outer stops s).bind fun _ =>
      (Stmt.walkDefsAll_traverses_outer stops rest).bindPure _

theorem Handler.walkDefsAll_traverses_outer (stops : v.descend = false) :
    ∀ hs : List Handler, Traverses v.siteUnlessEnclosed (Handler.walkDefsAll v hs)
      (Handler.walkDefsAll editVisit hs) (Handler.sitesEnclosedAll hs)
  | [] => Traverses.pure _
  | .mk type name body :: rest => by
    simp only [Handler.walkDefsAll, Handler.sitesEnclosedAll]
    exact (Stmt.walkDefsAll_traverses_outer stops body).bind fun _ =>
      (Handler.walkDefsAll_traverses_outer stops rest).bindPure _

theorem MatchCase.walkDefsAll_traverses_outer (stops : v.descend = false) :
    ∀ cs : List MatchCase, Traverses v.siteUnlessEnclosed (MatchCase.walkDefsAll v cs)
      (MatchCase.walkDefsAll editVisit cs) (MatchCase.sitesEnclosedAll cs)
  | [] => Traverses.pure _
  | .mk pattern guard body :: rest => by
    simp only [MatchCase.walkDefsAll, MatchCase.sitesEnclosedAll]
    exact (Stmt.walkDefsAll_traverses_outer stops body).bind fun _ =>
      (MatchCase.walkDefsAll_traverses_outer stops rest).bindPure _

end

/-- A definition walk that does not descend visits, in order, the definitions that no definition
encloses, and puts back the edits they gave, with none for the enclosed ones. -/
theorem Stmt.walkDefsAll_eq_editDefs_outer (stops : v.descend = false) (ss : List Stmt) :
    Stmt.walkDefsAll v ss =
      Stmt.editDefs ss <$> (Stmt.sitesEnclosedAll ss).mapM v.siteUnlessEnclosed :=
  (Stmt.walkDefsAll_traverses_outer stops ss).visits

end Outer

/-! Editing the definitions that none encloses -/

mutual

/-- A statement with `f` applied to the body of every function definition in it that no function
definition encloses: the edit stops at such a definition, and goes on through classes, `async`
definitions and control flow. -/
def Stmt.editOutermost (f : List Stmt → List Stmt) : Stmt → Stmt
  | .functionDef name args body decorators returns false =>
    .functionDef name args (f body) decorators returns false
  | .functionDef name args body decorators returns true =>
    .functionDef name args (Stmt.editOutermostAll f body) decorators returns true
  | .classDef name bases keywords body decorators =>
    .classDef name bases keywords (Stmt.editOutermostAll f body) decorators
  | .forLoop target iter body orelse isAsync =>
    .forLoop target iter (Stmt.editOutermostAll f body) (Stmt.editOutermostAll f orelse) isAsync
  | .whileLoop test body orelse =>
    .whileLoop test (Stmt.editOutermostAll f body) (Stmt.editOutermostAll f orelse)
  | .ifStmt test body orelse =>
    .ifStmt test (Stmt.editOutermostAll f body) (Stmt.editOutermostAll f orelse)
  | .withBlock items body isAsync => .withBlock items (Stmt.editOutermostAll f body) isAsync
  | .matchStmt subject cases => .matchStmt subject (MatchCase.editOutermostAll f cases)
  | .tryBlock body handlers orelse finalbody isStar =>
    .tryBlock (Stmt.editOutermostAll f body) (Handler.editOutermostAll f handlers)
      (Stmt.editOutermostAll f orelse) (Stmt.editOutermostAll f finalbody) isStar
  | s => s

/-- A body with `f` applied to the body of every definition in it that none encloses. -/
def Stmt.editOutermostAll (f : List Stmt → List Stmt) : List Stmt → List Stmt
  | [] => []
  | s :: rest => s.editOutermost f :: Stmt.editOutermostAll f rest

def Handler.editOutermostAll (f : List Stmt → List Stmt) : List Handler → List Handler
  | [] => []
  | .mk type name body :: rest =>
    .mk type name (Stmt.editOutermostAll f body) :: Handler.editOutermostAll f rest

def MatchCase.editOutermostAll (f : List Stmt → List Stmt) : List MatchCase → List MatchCase
  | [] => []
  | .mk pattern guard body :: rest =>
    .mk pattern guard (Stmt.editOutermostAll f body) :: MatchCase.editOutermostAll f rest

end

section Outermost

variable {f g : List Stmt → List Stmt}

mutual

theorem Stmt.editOutermost_editOutermost :
    ∀ s : Stmt, (s.editOutermost f).editOutermost g = s.editOutermost (g ∘ f)
  | .functionDef _ _ _ _ _ false => rfl
  | .functionDef _ _ body _ _ true | .classDef _ _ _ body _ | .withBlock _ body _ => by
    simp only [Stmt.editOutermost, Stmt.editOutermostAll_editOutermostAll body]
  | .forLoop _ _ body orelse _ | .whileLoop _ body orelse | .ifStmt _ body orelse => by
    simp only [Stmt.editOutermost, Stmt.editOutermostAll_editOutermostAll body,
      Stmt.editOutermostAll_editOutermostAll orelse]
  | .matchStmt _ cases => by
    simp only [Stmt.editOutermost, MatchCase.editOutermostAll_editOutermostAll cases]
  | .tryBlock body handlers orelse finalbody _ => by
    simp only [Stmt.editOutermost, Stmt.editOutermostAll_editOutermostAll body,
      Handler.editOutermostAll_editOutermostAll handlers,
      Stmt.editOutermostAll_editOutermostAll orelse,
      Stmt.editOutermostAll_editOutermostAll finalbody]
  | .returnStmt _ | .delete _ | .assign _ _ | .augAssign _ _ _ | .annAssign _ _ _ _
  | .raise _ _ | .assert _ _ | .importNames _ | .importFrom _ _ _ | .global _ | .nonlocal _
  | .expr _ | .pass | .breakStmt | .continueStmt => rfl

theorem Stmt.editOutermostAll_editOutermostAll :
    ∀ ss : List Stmt,
      Stmt.editOutermostAll g (Stmt.editOutermostAll f ss) = Stmt.editOutermostAll (g ∘ f) ss
  | [] => rfl
  | s :: rest => by
    simp only [Stmt.editOutermostAll, Stmt.editOutermost_editOutermost s,
      Stmt.editOutermostAll_editOutermostAll rest]

theorem Handler.editOutermostAll_editOutermostAll :
    ∀ hs : List Handler,
      Handler.editOutermostAll g (Handler.editOutermostAll f hs) =
        Handler.editOutermostAll (g ∘ f) hs
  | [] => rfl
  | .mk _ _ body :: rest => by
    simp only [Handler.editOutermostAll, Stmt.editOutermostAll_editOutermostAll body,
      Handler.editOutermostAll_editOutermostAll rest]

theorem MatchCase.editOutermostAll_editOutermostAll :
    ∀ cs : List MatchCase,
      MatchCase.editOutermostAll g (MatchCase.editOutermostAll f cs) =
        MatchCase.editOutermostAll (g ∘ f) cs
  | [] => rfl
  | .mk _ _ body :: rest => by
    simp only [MatchCase.editOutermostAll, Stmt.editOutermostAll_editOutermostAll body,
      MatchCase.editOutermostAll_editOutermostAll rest]

end

variable {e : DefSite × Bool → BodyEdit}

theorem map_defSitesAll_enclosed (unreached : ∀ d, e (d, true) = id) (body : List Stmt) :
    ((Stmt.defSitesAll body).map (·, true)).map e =
      List.replicate (Stmt.defSitesAll body).length id := by
  simp [Function.comp_def, unreached, List.map_const']

mutual

theorem Stmt.editDef_sitesEnclosed (unreached : ∀ d, e (d, true) = id)
    (outer : ∀ d, e (d, false) d.body = f d.body) :
    ∀ s : Stmt, s.editDef (s.sitesEnclosed.map e) = s.editOutermost f
  | .functionDef name args body decorators returns false => by
    rw [Stmt.sitesEnclosed, List.map_cons, map_defSitesAll_enclosed unreached,
      editDef_functionDef _ _ _ _ _ _ List.length_replicate, Stmt.editDefs_replicate_id body]
    exact congrArg (fun b => Stmt.functionDef name args b decorators returns false)
      (outer ⟨name, body⟩)
  | .functionDef name args body decorators returns true => by
    rw [Stmt.sitesEnclosed, editDef_asyncDef, Stmt.editDefs_sitesEnclosedAll unreached outer body]
    rfl
  | .classDef name bases keywords body decorators => by
    rw [Stmt.sitesEnclosed, editDef_classDef, Stmt.editDefs_sitesEnclosedAll unreached outer body]
    rfl
  | .withBlock items body isAsync => by
    rw [Stmt.sitesEnclosed, editDef_withBlock, Stmt.editDefs_sitesEnclosedAll unreached outer body]
    rfl
  | .matchStmt subject cases => by
    rw [Stmt.sitesEnclosed, editDef_matchStmt,
      MatchCase.editDefs_sitesEnclosedAll unreached outer cases]
    rfl
  | .forLoop target iter body orelse isAsync => by
    rw [Stmt.sitesEnclosed, List.map_append,
      editDef_forLoop _ _ _ _ _ (by simp [Stmt.length_sitesEnclosedAll]),
      Stmt.editDefs_sitesEnclosedAll unreached outer body,
      Stmt.editDefs_sitesEnclosedAll unreached outer orelse]
    rfl
  | .whileLoop test body orelse => by
    rw [Stmt.sitesEnclosed, List.map_append,
      editDef_whileLoop _ _ _ (by simp [Stmt.length_sitesEnclosedAll]),
      Stmt.editDefs_sitesEnclosedAll unreached outer body,
      Stmt.editDefs_sitesEnclosedAll unreached outer orelse]
    rfl
  | .ifStmt test body orelse => by
    rw [Stmt.sitesEnclosed, List.map_append,
      editDef_ifStmt _ _ _ (by simp [Stmt.length_sitesEnclosedAll]),
      Stmt.editDefs_sitesEnclosedAll unreached outer body,
      Stmt.editDefs_sitesEnclosedAll unreached outer orelse]
    rfl
  | .tryBlock body handlers orelse finalbody isStar => by
    have handled :
        (Handler.sitesEnclosedAll handlers).length = (Handler.defSitesAll handlers).length := by
      rw [← Handler.map_fst_sitesEnclosedAll handlers, List.length_map]
    rw [Stmt.sitesEnclosed, List.map_append, List.map_append, List.map_append,
      editDef_tryBlock _ _ _ _ _ (by simp [Stmt.length_sitesEnclosedAll])
        (by simp [handled]) (by simp [Stmt.length_sitesEnclosedAll]),
      Stmt.editDefs_sitesEnclosedAll unreached outer body,
      Handler.editDefs_sitesEnclosedAll unreached outer handlers,
      Stmt.editDefs_sitesEnclosedAll unreached outer orelse,
      Stmt.editDefs_sitesEnclosedAll unreached outer finalbody]
    rfl
  | .returnStmt _ | .delete _ | .assign _ _ | .augAssign _ _ _ | .annAssign _ _ _ _
  | .raise _ _ | .assert _ _ | .importNames _ | .importFrom _ _ _ | .global _ | .nonlocal _
  | .expr _ | .pass | .breakStmt | .continueStmt => rfl

theorem Stmt.editDefs_sitesEnclosedAll (unreached : ∀ d, e (d, true) = id)
    (outer : ∀ d, e (d, false) d.body = f d.body) :
    ∀ ss : List Stmt,
      Stmt.editDefs ss ((Stmt.sitesEnclosedAll ss).map e) = Stmt.editOutermostAll f ss
  | [] => rfl
  | s :: rest => by
    have sites : (s.sitesEnclosed.map e).length = s.defSites.length := by
      rw [List.length_map, ← Stmt.map_fst_sitesEnclosed s, List.length_map]
    rw [Stmt.sitesEnclosedAll, List.map_append, Stmt.editDefs_cons s rest sites,
      Stmt.editDef_sitesEnclosed unreached outer s,
      Stmt.editDefs_sitesEnclosedAll unreached outer rest]
    rfl

theorem Handler.editDefs_sitesEnclosedAll (unreached : ∀ d, e (d, true) = id)
    (outer : ∀ d, e (d, false) d.body = f d.body) :
    ∀ hs : List Handler,
      Handler.editDefs hs ((Handler.sitesEnclosedAll hs).map e) = Handler.editOutermostAll f hs
  | [] => rfl
  | .mk type name body :: rest => by
    rw [Handler.sitesEnclosedAll, List.map_append,
      Handler.editDefs_cons type name body rest (by simp [Stmt.length_sitesEnclosedAll]),
      Stmt.editDefs_sitesEnclosedAll unreached outer body,
      Handler.editDefs_sitesEnclosedAll unreached outer rest]
    rfl

theorem MatchCase.editDefs_sitesEnclosedAll (unreached : ∀ d, e (d, true) = id)
    (outer : ∀ d, e (d, false) d.body = f d.body) :
    ∀ cs : List MatchCase,
      MatchCase.editDefs cs ((MatchCase.sitesEnclosedAll cs).map e) =
        MatchCase.editOutermostAll f cs
  | [] => rfl
  | .mk pattern guard body :: rest => by
    rw [MatchCase.sitesEnclosedAll, List.map_append,
      MatchCase.editDefs_cons pattern guard body rest (by simp [Stmt.length_sitesEnclosedAll]),
      Stmt.editDefs_sitesEnclosedAll unreached outer body,
      MatchCase.editDefs_sitesEnclosedAll unreached outer rest]
    rfl

end

end Outermost

theorem Stmt.defSites_of_isStringExpr {s : Stmt} (string : s.isStringExpr = true) :
    s.defSites = [] := by
  cases s <;> simp_all [Stmt.isStringExpr, Stmt.defSites]

end Obfuscation.Syntax

namespace Obfuscation.Pass

open Syntax

/-! Flattening -/

/-- The edit flattening puts into a definition: the flattened body when the definition is not
empty and no definition encloses it, and none otherwise. -/
def flatteningEdit (p : DefSite × Bool) : BodyEdit :=
  if !p.2 && !p.1.body.isEmpty then flattenBody else id

/-- The definitions that flattening rewrites, in order: the non-empty ones that no definition
encloses. -/
def flattened (sites : List (DefSite × Bool)) : List DefSite :=
  (sites.filter fun p => !p.2 && !p.1.body.isEmpty).map Prod.fst

theorem ne_nil_of_mem_flattened {d : DefSite} {sites : List (DefSite × Bool)}
    (mem : d ∈ flattened sites) : d.body ≠ [] := by
  simp only [flattened, List.mem_map, List.mem_filter] at mem
  obtain ⟨⟨d', enclosed⟩, ⟨-, kept⟩, rfl⟩ := mem
  simp only [Bool.and_eq_true, Bool.not_eq_true', List.isEmpty_eq_false_iff] at kept
  exact kept.2

def flatteningAnnouncements (ds : List DefSite) : String :=
  String.join (ds.map fun d => "Flattening control flow in function: " ++ d.name ++ "\n")

def afterFlattening (verbose : Bool) (σ : Session) (ds : List DefSite) : Session :=
  { σ with printed := if verbose then σ.printed ++ flatteningAnnouncements ds else σ.printed }

theorem flattened_cons (p : DefSite × Bool) (rest : List (DefSite × Bool)) :
    flattened (p :: rest) = flattened [p] ++ flattened rest := by
  simp only [flattened, List.filter_cons, List.filter_nil]
  split <;> rfl

@[simp] theorem afterFlattening_nil (verbose : Bool) (σ : Session) :
    afterFlattening verbose σ [] = σ := by
  cases verbose <;> simp [afterFlattening, flatteningAnnouncements]

theorem afterFlattening_append (verbose : Bool) (σ : Session) (ds ds' : List DefSite) :
    afterFlattening verbose (afterFlattening verbose σ ds) ds' =
      afterFlattening verbose σ (ds ++ ds') := by
  cases verbose <;> simp [afterFlattening, flatteningAnnouncements, String.append_assoc]

theorem flattenSite_run (verbose : Bool) (p : DefSite × Bool) (σ : Session) :
    ((flattenVisit verbose).siteUnlessEnclosed p).run.run σ =
      (.ok (flatteningEdit p), afterFlattening verbose σ (flattened [p])) := by
  obtain ⟨⟨name, body⟩, enclosed⟩ := p
  simp only [DefVisit.siteUnlessEnclosed, DefVisit.site, flattenVisit, flatteningEdit, flattened,
    List.filter_cons, List.filter_nil]
  -- what is left of each case is a `pure` of the runner's own monad, closed by `rfl`
  cases enclosed with
  | true =>
    simp
    rfl
  | false =>
    cases empty : body.isEmpty with
    | true =>
      simp
      rfl
    | false =>
      -- a definition that is flattened is announced first, with `verbose`
      cases verbose with
      | false =>
        simp [afterFlattening]
        rfl
      | true =>
        simp [afterFlattening, flatteningAnnouncements, Run.say, String.append_assoc]
        rfl

theorem flattenSites_run (verbose : Bool) : ∀ (sites : List (DefSite × Bool)) (σ : Session),
    (sites.mapM (flattenVisit verbose).siteUnlessEnclosed).run.run σ =
      (.ok (sites.map flatteningEdit), afterFlattening verbose σ (flattened sites))
  | [], σ => by
    rw [List.mapM_nil, List.map_nil, show flattened [] = [] from rfl, afterFlattening_nil]
    rfl
  | p :: rest, σ => by
    rw [List.mapM_cons, Run.run_bind_ok (flattenSite_run verbose p σ),
      Run.run_bind_ok (flattenSites_run verbose rest _), afterFlattening_append,
      ← flattened_cons]
    rfl

theorem Module.flatten_run (verbose : Bool) (m : Module) (σ : Session) :
    (Module.flatten verbose m).run.run σ =
      (.ok (Stmt.editDefs m ((Stmt.sitesEnclosedAll m).map flatteningEdit)),
        afterFlattening verbose σ (flattened (Stmt.sitesEnclosedAll m))) := by
  rw [Module.flatten, Stmt.walkDefsAll_eq_editDefs_outer (v := flattenVisit verbose) rfl,
    Run.run_map_ok (flattenSites_run verbose _ σ)]

/-- Flattening edits exactly the definitions that no function definition encloses. Listing every
definition of the module in order, each with whether one encloses it, the flattened module is the
module with one edit put back into each in that order: the flattened body for a non-empty
definition that none encloses, and nothing for the others. So definitions in classes, in `async`
definitions and under control flow are flattened, those inside a flattened definition are not,
and `async` definitions are never edited. With `verbose`, the flattened definitions are
announced in that order; nothing else of the session changes. -/
theorem Module.flatten_edits_outermost (verbose : Bool) (m : Module) (σ : Session) :
    (Stmt.sitesEnclosedAll m).map Prod.fst = Stmt.defSitesAll m ∧
    (Module.flatten verbose m).run.run σ =
      (.ok (Stmt.editDefs m ((Stmt.sitesEnclosedAll m).map flatteningEdit)),
        afterFlattening verbose σ (flattened (Stmt.sitesEnclosedAll m))) := by
  exact ⟨Stmt.map_fst_sitesEnclosedAll m, Module.flatten_run verbose m σ⟩

/-- A method is flattened, and the definition inside it is left as it is. -/
example :
    ((Module.flatten false
        [.classDef "C" [] []
          [.functionDef "f" .empty [.functionDef "g" .empty [.pass] [] none false] [] none false]
          []]).run.run {}).1 =
      .ok [.classDef "C" [] [] [.functionDef "f" .empty
        (flattenBody [.functionDef "g" .empty [.pass] [] none false]) [] none false] []] :=
  rfl

/-! Flattening twice -/

@[simp] theorem flattenBody_nil : flattenBody [] = [] := rfl

/-- The edit that flattening twice puts into a definition: the body flattened twice when the
definition is not empty and no definition encloses it, and none otherwise. -/
def reflatteningEdit (p : DefSite × Bool) : BodyEdit :=
  if !p.2 && !p.1.body.isEmpty then flattenBody ∘ flattenBody else id

theorem editDefs_eq_editOutermostAll {e : DefSite × Bool → BodyEdit} {f : BodyEdit}
    (keepsEmpty : f [] = []) (edits : ∀ p, e p = if !p.2 && !p.1.body.isEmpty then f else id)
    (m : Module) :
    Stmt.editDefs m ((Stmt.sitesEnclosedAll m).map e) = Stmt.editOutermostAll f m := by
  refine Stmt.editDefs_sitesEnclosedAll (fun d => by rw [edits]; rfl) (fun d => ?_) m
  rw [edits]
  by_cases empty : d.body = []
  · simp [empty, keepsEmpty]
  · simp [empty]

/-- Flattening a module twice flattens twice the body of each non-empty definition that no
definition encloses, and edits nothing else: the second pass meets the same definitions, none
of them empty. -/
theorem Module.flatten_flatten_run (verbose : Bool) (m : Module) (σ : Session) :
    ∃ σ', (Module.flatten verbose m >>= Module.flatten verbose).run.run σ =
      (.ok (Stmt.editDefs m ((Stmt.sitesEnclosedAll m).map reflatteningEdit)), σ') := by
  have once := editDefs_eq_editOutermostAll (e := flatteningEdit) flattenBody_nil (fun p => rfl)
  have twice := editDefs_eq_editOutermostAll (e := reflatteningEdit) (f := flattenBody ∘ flattenBody)
    rfl (fun p => rfl) m
  rw [Run.run_bind_ok (Module.flatten_run verbose m σ), Module.flatten_run, once, once,
    Stmt.editOutermostAll_editOutermostAll, twice]
  exact ⟨_, rfl⟩

/-! Stripping docstrings -/

theorem defSitesAll_dropDocstring (m : Module) :
    Stmt.defSitesAll (dropDocstring m) = Stmt.defSitesAll m := by
  cases m with
  | nil => rfl
  | cons s rest =>
    by_cases string : s.isStringExpr = true
    · rw [dropDocstring, if_pos string, defSitesAll_cons, Stmt.defSites_of_isStringExpr string,
        List.nil_append]
    · rw [dropDocstring, if_neg string]

/-- Stripping drops the module's leading string expression, and then the leading string
expression of the body of every function definition, at any depth: the edits put back into the
definitions, in order, are all `dropDocstring`. Class and `async` definitions keep theirs. -/
theorem Module.stripDocstrings_eq_editDefs (m : Module) :
    Module.stripDocstrings m =
      Stmt.editDefs (dropDocstring m) (List.replicate (Stmt.defSitesAll m).length dropDocstring) := by
  rw [Module.stripDocstrings, Stmt.walkDefsAll_eq_editDefs (v := stripVisit) rfl,
    defSitesAll_dropDocstring]
  simp [DefVisit.site, stripVisit, List.map_const']

end Obfuscation.Pass
