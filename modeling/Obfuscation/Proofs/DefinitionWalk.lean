import Obfuscation.Proofs.Traversal
/-!
A definition walk that descends is a traversal of the function definitions it meets. It meets
them in preorder, each definition before the definitions in its body, and here they are listed in
that order. Putting the edits back is a walk of its own that takes them from a list, and every
descending definition walk, in every lawful monad, is the visit of the listed definitions followed
by putting back the edits they gave. Putting edits back rebuilds each statement around its edited
bodies, using up the edits of each body in turn.
-/

namespace Obfuscation.Syntax

/-- A function definition as a definition walk meets it: its name and its body. -/
structure DefSite where
  name : String
  body : List Stmt

mutual

/-- The function definitions that a descending definition walk meets in a statement, in order:
each definition before those in its body; `async` definitions are walked through. -/
def Stmt.defSites : Stmt → List DefSite
  | .functionDef name _ body _ _ false => ⟨name, body⟩ :: Stmt.defSitesAll body
  | .functionDef _ _ body _ _ true => Stmt.defSitesAll body
  | .classDef _ _ _ body _ => Stmt.defSitesAll body
  | .forLoop _ _ body orelse _ => Stmt.defSitesAll body ++ Stmt.defSitesAll orelse
  | .whileLoop _ body orelse => Stmt.defSitesAll body ++ Stmt.defSitesAll orelse
  | .ifStmt _ body orelse => Stmt.defSitesAll body ++ Stmt.defSitesAll orelse
  | .withBlock _ body _ => Stmt.defSitesAll body
  | .matchStmt _ cases => MatchCase.defSitesAll cases
  | .tryBlock body handlers orelse finalbody _ =>
    Stmt.defSitesAll body ++ Handler.defSitesAll handlers ++ Stmt.defSitesAll orelse ++
      Stmt.defSitesAll finalbody
  | _ => []

def Stmt.defSitesAll : List Stmt → List DefSite
  | [] => []
  | s :: rest => s.defSites ++ Stmt.defSitesAll rest

def Handler.defSitesAll : List Handler → List DefSite
  | [] => []
  | .mk _ _ body :: rest => Stmt.defSitesAll body ++ Handler.defSitesAll rest

def MatchCase.defSitesAll : List MatchCase → List DefSite
  | [] => []
  | .mk _ _ body :: rest => Stmt.defSitesAll body ++ MatchCase.defSitesAll rest

end

@[simp] theorem defSitesAll_nil : Stmt.defSitesAll [] = [] := rfl

@[simp] theorem defSitesAll_cons (s : Stmt) (rest : List Stmt) :
    Stmt.defSitesAll (s :: rest) = s.defSites ++ Stmt.defSitesAll rest := rfl

@[simp] theorem defSitesAll_append (body rest : List Stmt) :
    Stmt.defSitesAll (body ++ rest) = Stmt.defSitesAll body ++ Stmt.defSitesAll rest := by
  induction body with
  | nil => rfl
  | cons s body ih => simp [ih]

abbrev BodyEdit := List Stmt → List Stmt

def takeEdit : StateM (List BodyEdit) BodyEdit :=
  modifyGet fun es => (es.headD id, es.tail)

def editVisit : DefVisit (StateM (List BodyEdit)) where
  visit _ _ := takeEdit
  descend := true

/-- A statement with the edits `es` applied, in order, to the bodies of the function definitions
in it, each to the body with the definitions inside it already edited. -/
def Stmt.editDef (s : Stmt) (es : List BodyEdit) : Stmt := ((s.walkDefs editVisit).run es).1

/-- A body with the edits `es` applied, in order, to the function definitions in it. -/
def Stmt.editDefs (ss : List Stmt) (es : List BodyEdit) : List Stmt :=
  ((Stmt.walkDefsAll editVisit ss).run es).1

def Handler.editDefs (hs : List Handler) (es : List BodyEdit) : List Handler :=
  ((Handler.walkDefsAll editVisit hs).run es).1

def MatchCase.editDefs (cs : List MatchCase) (es : List BodyEdit) : List MatchCase :=
  ((MatchCase.walkDefsAll editVisit cs).run es).1

section Traversal

variable {m : Type → Type} [Monad m] [LawfulMonad m] (v : DefVisit m)

def DefVisit.site (d : DefSite) : m BodyEdit := v.visit d.name d.body

theorem Traverses.site (name : String) (body : List Stmt) :
    Traverses v.site (v.visit name body) takeEdit [⟨name, body⟩] where
  visits := by
    simp only [DefVisit.site, List.mapM_cons, List.mapM_nil, map_pure, bind_pure_comp,
      Functor.map_map]
    exact (id_map _).symm
  takes rs rest length := by
    match rs, length with
    | [_], _ => rfl

variable {v}

mutual

theorem Stmt.walkDefs_traverses (descends : v.descend = true) :
    ∀ s : Stmt, Traverses v.site (s.walkDefs v) (s.walkDefs editVisit) s.defSites
  | .functionDef name args body decorators returns false => by
    simp only [Stmt.walkDefs, Stmt.defSites, descends, editVisit, ↓reduceIte]
    exact (Traverses.site v name body).bind fun _ =>
      (Stmt.walkDefsAll_traverses descends body).bindPure _
  | .functionDef name args body decorators returns true => by
    simp only [Stmt.walkDefs, Stmt.defSites]
    exact (Stmt.walkDefsAll_traverses descends body).bindPure _
  | .classDef name bases keywords body decorators => by
    simp only [Stmt.walkDefs, Stmt.defSites]
    exact (Stmt.walkDefsAll_traverses descends body).bindPure _
  | .forLoop target iter body orelse isAsync => by
    simp only [Stmt.walkDefs, Stmt.defSites]
    exact (Stmt.walkDefsAll_traverses descends body).bind fun _ =>
      (Stmt.walkDefsAll_traverses descends orelse).bindPure _
  | .whileLoop test body orelse => by
    simp only [Stmt.walkDefs, Stmt.defSites]
    exact (Stmt.walkDefsAll_traverses descends body).bind fun _ =>
      (Stmt.walkDefsAll_traverses descends orelse).bindPure _
  | .ifStmt test body orelse => by
    simp only [Stmt.walkDefs, Stmt.defSites]
    exact (Stmt.walkDefsAll_traverses descends body).bind fun _ =>
      (Stmt.walkDefsAll_traverses descends orelse).bindPure _
  | .withBlock items body isAsync => by
    simp only [Stmt.walkDefs, Stmt.defSites]
    exact (Stmt.walkDefsAll_traverses descends body).bindPure _
  | .matchStmt subject cases => by
    simp only [Stmt.walkDefs, Stmt.defSites]
    exact (MatchCase.walkDefsAll_traverses descends cases).map _
  | .tryBlock body handlers orelse finalbody isStar => by
    simp only [Stmt.walkDefs, Stmt.defSites, List.append_assoc]
    exact (Stmt.walkDefsAll_traverses descends body).bind fun _ =>
      (Handler.walkDefsAll_traverses descends handlers).bind fun _ =>
      (Stmt.walkDefsAll_traverses descends orelse).bind fun _ =>
      (Stmt.walkDefsAll_traverses descends finalbody).bindPure _
  | .returnStmt _ | .delete _ | .assign _ _ | .augAssign _ _ _ | .annAssign _ _ _ _
  | .raise _ _ | .assert _ _ | .importNames _ | .importFrom _ _ _ | .global _ | .nonlocal _
  | .expr _ | .pass | .breakStmt | .continueStmt => Traverses.pure _

theorem Stmt.walkDefsAll_traverses (descends : v.descend = true) :
    ∀ ss : List Stmt, Traverses v.site (Stmt.walkDefsAll v ss) (Stmt.walkDefsAll editVisit ss)
      (Stmt.defSitesAll ss)
  | [] => Traverses.pure _
  | s :: rest => by
    simp only [Stmt.walkDefsAll, Stmt.defSitesAll]
    exact (Stmt.walkDefs_traverses descends s).bind fun _ =>
      (Stmt.walkDefsAll_traverses descends rest).bindPure _

theorem Handler.walkDefsAll_traverses (descends : v.descend = true) :
    ∀ hs : List Handler, Traverses v.site (Handler.walkDefsAll v hs)
      (Handler.walkDefsAll editVisit hs) (Handler.defSitesAll hs)
  | [] => Traverses.pure _
  | .mk type name body :: rest => by
    simp only [Handler.walkDefsAll, Handler.defSitesAll]
    exact (Stmt.walkDefsAll_traverses descends body).bind fun _ =>
      (Handler.walkDefsAll_traverses descends rest).bindPure _

theorem MatchCase.walkDefsAll_traverses (descends : v.descend = true) :
    ∀ cs : List MatchCase, Traverses v.site (MatchCase.walkDefsAll v cs)
      (MatchCase.walkDefsAll editVisit cs) (MatchCase.defSitesAll cs)
  | [] => Traverses.pure _
  | .mk pattern guard body :: rest => by
    simp only [MatchCase.walkDefsAll, MatchCase.defSitesAll]
    exact (Stmt.walkDefsAll_traverses descends body).bind fun _ =>
      (MatchCase.walkDefsAll_traverses descends rest).bindPure _

end

/-- A descending definition walk of a body visits its definitions in order and puts back the
edits the visits gave. -/
theorem Stmt.walkDefsAll_eq_editDefs (descends : v.descend = true) (ss : List Stmt) :
    Stmt.walkDefsAll v ss = Stmt.editDefs ss <$> (Stmt.defSitesAll ss).mapM v.site :=
  (Stmt.walkDefsAll_traverses descends ss).visits

end Traversal

/-! Putting edits back, statement by statement -/

section Edits

theorem Stmt.walkDefs_edit_run (s : Stmt) (es rest : List BodyEdit)
    (length : es.length = s.defSites.length) :
    (s.walkDefs editVisit).run (es ++ rest) = (s.editDef es, rest) :=
  (Stmt.walkDefs_traverses (v := editVisit) rfl s).takes es rest length

theorem Stmt.walkDefsAll_edit_run (ss : List Stmt) (es rest : List BodyEdit)
    (length : es.length = (Stmt.defSitesAll ss).length) :
    (Stmt.walkDefsAll editVisit ss).run (es ++ rest) = (Stmt.editDefs ss es, rest) :=
  (Stmt.walkDefsAll_traverses (v := editVisit) rfl ss).takes es rest length

theorem Handler.walkDefsAll_edit_run (hs : List Handler) (es rest : List BodyEdit)
    (length : es.length = (Handler.defSitesAll hs).length) :
    (Handler.walkDefsAll editVisit hs).run (es ++ rest) = (Handler.editDefs hs es, rest) :=
  (Handler.walkDefsAll_traverses (v := editVisit) rfl hs).takes es rest length

theorem MatchCase.walkDefsAll_edit_run (cs : List MatchCase) (es rest : List BodyEdit)
    (length : es.length = (MatchCase.defSitesAll cs).length) :
    (MatchCase.walkDefsAll editVisit cs).run (es ++ rest) = (MatchCase.editDefs cs es, rest) :=
  (MatchCase.walkDefsAll_traverses (v := editVisit) rfl cs).takes es rest length

theorem Stmt.walkDefsAll_edit_run_self (ss : List Stmt) (es : List BodyEdit)
    (length : es.length = (Stmt.defSitesAll ss).length) :
    (Stmt.walkDefsAll editVisit ss).run es = (Stmt.editDefs ss es, []) := by
  simpa using Stmt.walkDefsAll_edit_run ss es [] length

variable {es₁ es₂ es₃ es₄ : List BodyEdit}

theorem Stmt.editDefs_cons (s : Stmt) (rest : List Stmt) (length : es₁.length = s.defSites.length) :
    Stmt.editDefs (s :: rest) (es₁ ++ es₂) = s.editDef es₁ :: Stmt.editDefs rest es₂ := by
  simp only [Stmt.editDefs, Stmt.walkDefsAll]
  rw [stateRun_bind, Stmt.walkDefs_edit_run s es₁ es₂ length]
  rfl

theorem Stmt.length_editDefs : ∀ (ss : List Stmt) (es : List BodyEdit),
    (Stmt.editDefs ss es).length = ss.length
  | [], _ => rfl
  | s :: rest, es => by
    simp only [Stmt.editDefs, Stmt.walkDefsAll]
    rw [stateRun_bind, stateRun_bind]
    exact congrArg Nat.succ (Stmt.length_editDefs rest _)

theorem Stmt.editDefs_append : ∀ (body rest : List Stmt) {es₁ es₂ : List BodyEdit},
    es₁.length = (Stmt.defSitesAll body).length →
      Stmt.editDefs (body ++ rest) (es₁ ++ es₂) = Stmt.editDefs body es₁ ++ Stmt.editDefs rest es₂
  | [], rest, es₁, es₂, length => by
    rw [List.eq_nil_of_length_eq_zero length]
    rfl
  | s :: body, rest, es₁, es₂, length => by
    -- the edits of the first statement come first, then those of the others
    have front : (es₁.take s.defSites.length).length = s.defSites.length := by simp_all
    have back : (es₁.drop s.defSites.length).length = (Stmt.defSitesAll body).length := by simp_all
    rw [← List.take_append_drop s.defSites.length es₁, List.append_assoc, List.cons_append,
      Stmt.editDefs_cons s _ front, Stmt.editDefs_cons s _ front,
      Stmt.editDefs_append body rest back, List.cons_append]

theorem editDef_functionDef (name : String) (args : Arguments) (body : List Stmt)
    (decorators : List Expr) (returns : Option Expr) (e : BodyEdit)
    (length : es₁.length = (Stmt.defSitesAll body).length) :
    (Stmt.functionDef name args body decorators returns false).editDef (e :: es₁) =
      .functionDef name args (e (Stmt.editDefs body es₁)) decorators returns false := by
  simp only [Stmt.editDef, Stmt.walkDefs, editVisit, ↓reduceIte]
  rw [stateRun_bind]
  change ((Stmt.walkDefsAll editVisit body >>= fun b => pure _).run es₁).1 = _
  rw [stateRun_bind, Stmt.walkDefsAll_edit_run_self body es₁ length]
  rfl

theorem editDef_asyncDef (name : String) (args : Arguments) (body : List Stmt)
    (decorators : List Expr) (returns : Option Expr) :
    (Stmt.functionDef name args body decorators returns true).editDef es₁ =
      .functionDef name args (Stmt.editDefs body es₁) decorators returns true := rfl

theorem editDef_classDef (name : String) (bases : List Expr) (keywords : List Keyword)
    (body : List Stmt) (decorators : List Expr) :
    (Stmt.classDef name bases keywords body decorators).editDef es₁ =
      .classDef name bases keywords (Stmt.editDefs body es₁) decorators := rfl

theorem editDef_withBlock (items : List WithItem) (body : List Stmt) (isAsync : Bool) :
    (Stmt.withBlock items body isAsync).editDef es₁ =
      .withBlock items (Stmt.editDefs body es₁) isAsync := rfl

theorem editDef_matchStmt (subject : Expr) (cases : List MatchCase) :
    (Stmt.matchStmt subject cases).editDef es₁ =
      .matchStmt subject (MatchCase.editDefs cases es₁) := rfl

theorem editDef_forLoop (target iter : Expr) (body orelse : List Stmt) (isAsync : Bool)
    (length : es₁.length = (Stmt.defSitesAll body).length) :
    (Stmt.forLoop target iter body orelse isAsync).editDef (es₁ ++ es₂) =
      .forLoop target iter (Stmt.editDefs body es₁) (Stmt.editDefs orelse es₂) isAsync := by
  simp only [Stmt.editDef, Stmt.walkDefs]
  rw [stateRun_bind, Stmt.walkDefsAll_edit_run body es₁ es₂ length]
  rfl

theorem editDef_whileLoop (test : Expr) (body orelse : List Stmt)
    (length : es₁.length = (Stmt.defSitesAll body).length) :
    (Stmt.whileLoop test body orelse).editDef (es₁ ++ es₂) =
      .whileLoop test (Stmt.editDefs body es₁) (Stmt.editDefs orelse es₂) := by
  simp only [Stmt.editDef, Stmt.walkDefs]
  rw [stateRun_bind, Stmt.walkDefsAll_edit_run body es₁ es₂ length]
  rfl

theorem editDef_ifStmt (test : Expr) (body orelse : List Stmt)
    (length : es₁.length = (Stmt.defSitesAll body).length) :
    (Stmt.ifStmt test body orelse).editDef (es₁ ++ es₂) =
      .ifStmt test (Stmt.editDefs body es₁) (Stmt.editDefs orelse es₂) := by
  simp only [Stmt.editDef, Stmt.walkDefs]
  rw [stateRun_bind, Stmt.walkDefsAll_edit_run body es₁ es₂ length]
  rfl

theorem editDef_tryBlock (body : List Stmt) (handlers : List Handler) (orelse finalbody : List Stmt)
    (isStar : Bool) (length₁ : es₁.length = (Stmt.defSitesAll body).length)
    (length₂ : es₂.length = (Handler.defSitesAll handlers).length)
    (length₃ : es₃.length = (Stmt.defSitesAll orelse).length) :
    (Stmt.tryBlock body handlers orelse finalbody isStar).editDef (es₁ ++ es₂ ++ es₃ ++ es₄) =
      .tryBlock (Stmt.editDefs body es₁) (Handler.editDefs handlers es₂)
        (Stmt.editDefs orelse es₃) (Stmt.editDefs finalbody es₄) isStar := by
  simp only [Stmt.editDef, Stmt.walkDefs, List.append_assoc]
  rw [stateRun_bind, Stmt.walkDefsAll_edit_run body es₁ _ length₁, stateRun_bind,
    Handler.walkDefsAll_edit_run handlers es₂ _ length₂, stateRun_bind,
    Stmt.walkDefsAll_edit_run orelse es₃ _ length₃]
  rfl

theorem Handler.editDefs_cons (type : Option Expr) (name : Option String) (body : List Stmt)
    (rest : List Handler) (length : es₁.length = (Stmt.defSitesAll body).length) :
    Handler.editDefs (.mk type name body :: rest) (es₁ ++ es₂) =
      .mk type name (Stmt.editDefs body es₁) :: Handler.editDefs rest es₂ := by
  simp only [Handler.editDefs, Handler.walkDefsAll]
  rw [stateRun_bind, Stmt.walkDefsAll_edit_run body es₁ es₂ length]
  rfl

theorem MatchCase.editDefs_cons (pattern : Pattern) (guard : Option Expr) (body : List Stmt)
    (rest : List MatchCase) (length : es₁.length = (Stmt.defSitesAll body).length) :
    MatchCase.editDefs (.mk pattern guard body :: rest) (es₁ ++ es₂) =
      .mk pattern guard (Stmt.editDefs body es₁) :: MatchCase.editDefs rest es₂ := by
  simp only [MatchCase.editDefs, MatchCase.walkDefsAll]
  rw [stateRun_bind, Stmt.walkDefsAll_edit_run body es₁ es₂ length]
  rfl

end Edits

end Obfuscation.Syntax
