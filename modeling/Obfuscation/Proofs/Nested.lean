import Obfuscation.Proofs.Outcome
/-!
The statements nested in a module, and what the two walks do to them. A definition walk keeps
every simple statement (one without a body of its own) as long as each of its edits keeps it; a
leaf walk turns every expression statement into the expression statement of a walked expression.
Both facts hold for walks in any monad, through what the walk can return.
-/

namespace Obfuscation.Syntax

mutual

/-- A statement followed by every statement inside it, in order. -/
def Stmt.nested : Stmt → List Stmt
  | s@(.functionDef _ _ body _ _ _) => s :: Stmt.nestedAll body
  | s@(.classDef _ _ _ body _) => s :: Stmt.nestedAll body
  | s@(.forLoop _ _ body orelse _) => s :: (Stmt.nestedAll body ++ Stmt.nestedAll orelse)
  | s@(.whileLoop _ body orelse) => s :: (Stmt.nestedAll body ++ Stmt.nestedAll orelse)
  | s@(.ifStmt _ body orelse) => s :: (Stmt.nestedAll body ++ Stmt.nestedAll orelse)
  | s@(.withBlock _ body _) => s :: Stmt.nestedAll body
  | s@(.matchStmt _ cases) => s :: MatchCase.nestedAll cases
  | s@(.tryBlock body handlers orelse finalbody _) =>
    s :: (Stmt.nestedAll body ++ Handler.nestedAll handlers ++ Stmt.nestedAll orelse ++
      Stmt.nestedAll finalbody)
  | s => [s]

def Stmt.nestedAll : List Stmt → List Stmt
  | [] => []
  | s :: rest => s.nested ++ Stmt.nestedAll rest

def Handler.nestedAll : List Handler → List Stmt
  | [] => []
  | .mk _ _ body :: rest => Stmt.nestedAll body ++ Handler.nestedAll rest

def MatchCase.nestedAll : List MatchCase → List Stmt
  | [] => []
  | .mk _ _ body :: rest => Stmt.nestedAll body ++ MatchCase.nestedAll rest

end

def Stmt.isCompound : Stmt → Bool
  | .functionDef .. | .classDef .. | .forLoop .. | .whileLoop .. | .ifStmt .. | .withBlock ..
  | .matchStmt .. | .tryBlock .. => true
  | _ => false

@[simp] theorem nestedAll_nil : Stmt.nestedAll [] = [] := by simp [Stmt.nestedAll]

@[simp] theorem nestedAll_cons (s : Stmt) (rest : List Stmt) :
    Stmt.nestedAll (s :: rest) = s.nested ++ Stmt.nestedAll rest := by
  simp [Stmt.nestedAll]

@[simp] theorem nestedAll_append (body rest : List Stmt) :
    Stmt.nestedAll (body ++ rest) = Stmt.nestedAll body ++ Stmt.nestedAll rest := by
  induction body with
  | nil => simp
  | cons s body ih => simp [ih]

theorem nested_of_not_isCompound {s : Stmt} (simple : s.isCompound = false) : s.nested = [s] := by
  cases s <;> simp_all [Stmt.isCompound, Stmt.nested]

theorem self_mem_nested (s : Stmt) : s ∈ s.nested := by
  cases s <;> simp [Stmt.nested]

/-- A list of statements that holds everything nested in each of its statements. -/
def NestClosed (ss : List Stmt) : Prop := ∀ t ∈ ss, ∀ s ∈ t.nested, s ∈ ss

theorem NestClosed.nil : NestClosed [] := by
  simp [NestClosed]

theorem NestClosed.append {a b : List Stmt} (closedA : NestClosed a) (closedB : NestClosed b) :
    NestClosed (a ++ b) := by
  intro t mem s inner
  rcases List.mem_append.mp mem with mem | mem
  · exact List.mem_append_left b (closedA t mem s inner)
  · exact List.mem_append_right a (closedB t mem s inner)

theorem NestClosed.of_nested {r : Stmt} {below : List Stmt} (nested : r.nested = r :: below)
    (closed : NestClosed below) : NestClosed r.nested := by
  rw [nested]
  intro t mem s inner
  rcases List.mem_cons.mp mem with rfl | mem
  · rwa [nested] at inner
  · exact List.mem_cons_of_mem r (closed t mem s inner)

mutual

theorem Stmt.nested_closed : ∀ r : Stmt, NestClosed r.nested
  | .functionDef _ _ body _ _ _ => .of_nested rfl (Stmt.nestedAll_closed body)
  | .classDef _ _ _ body _ => .of_nested rfl (Stmt.nestedAll_closed body)
  | .forLoop _ _ body orelse _ =>
    .of_nested rfl ((Stmt.nestedAll_closed body).append (Stmt.nestedAll_closed orelse))
  | .whileLoop _ body orelse =>
    .of_nested rfl ((Stmt.nestedAll_closed body).append (Stmt.nestedAll_closed orelse))
  | .ifStmt _ body orelse =>
    .of_nested rfl ((Stmt.nestedAll_closed body).append (Stmt.nestedAll_closed orelse))
  | .withBlock _ body _ => .of_nested rfl (Stmt.nestedAll_closed body)
  | .matchStmt _ cases => .of_nested rfl (MatchCase.nestedAll_closed cases)
  | .tryBlock body handlers orelse finalbody _ =>
    .of_nested rfl ((((Stmt.nestedAll_closed body).append (Handler.nestedAll_closed handlers)).append
      (Stmt.nestedAll_closed orelse)).append (Stmt.nestedAll_closed finalbody))
  | .returnStmt _ | .delete _ | .assign _ _ | .augAssign _ _ _ | .annAssign _ _ _ _ | .raise _ _
  | .assert _ _ | .importNames _ | .importFrom _ _ _ | .global _ | .nonlocal _ | .expr _ | .pass
  | .breakStmt | .continueStmt => .of_nested rfl .nil

theorem Stmt.nestedAll_closed : ∀ ss : List Stmt, NestClosed (Stmt.nestedAll ss)
  | [] => by
    rw [nestedAll_nil]
    exact .nil
  | r :: rest => by
    rw [nestedAll_cons]
    exact (Stmt.nested_closed r).append (Stmt.nestedAll_closed rest)

theorem Handler.nestedAll_closed : ∀ hs : List Handler, NestClosed (Handler.nestedAll hs)
  | [] => by
    simp only [Handler.nestedAll]
    exact .nil
  | .mk _ _ body :: rest => by
    simp only [Handler.nestedAll]
    exact (Stmt.nestedAll_closed body).append (Handler.nestedAll_closed rest)

theorem MatchCase.nestedAll_closed : ∀ cs : List MatchCase, NestClosed (MatchCase.nestedAll cs)
  | [] => by
    simp only [MatchCase.nestedAll]
    exact .nil
  | .mk _ _ body :: rest => by
    simp only [MatchCase.nestedAll]
    exact (Stmt.nestedAll_closed body).append (MatchCase.nestedAll_closed rest)

end

theorem Stmt.nestedAll_trans {s t : Stmt} (ss : List Stmt) (outer : t ∈ Stmt.nestedAll ss)
    (inner : s ∈ t.nested) : s ∈ Stmt.nestedAll ss :=
  Stmt.nestedAll_closed ss t outer s inner

variable {m : Type → Type} [Monad m] [LawfulMonad m]

-- The walk lemmas below share the monad's lawfulness, which only some of their cases use.
set_option linter.unusedSectionVars false

/-- A definition visit whose every edit keeps a statement wherever it is nested in the body. -/
def DefVisit.Keeps (O : Outcomes m) (v : DefVisit m) (s : Stmt) : Prop :=
  ∀ name body edit, O.returns (v.visit name body) edit →
    ∀ b, s ∈ Stmt.nestedAll b → s ∈ Stmt.nestedAll (edit b)

section DefWalk

variable (O : Outcomes m) (v : DefVisit m) {s : Stmt}

-- Each theorem names the tree it recurses on: the walk's output and the hypotheses are not
-- structurally smaller, and leaving Lean to search among them is slow.
mutual

theorem Stmt.walkDefs_keeps (simple : s.isCompound = false) (keeps : v.Keeps O s) :
    ∀ (t t' : Stmt), O.returns (t.walkDefs v) t' → s ∈ t.nested → s ∈ t'.nested
  | .functionDef name args body decorators returns false, t', h, mem => by
    simp only [Stmt.walkDefs] at h
    obtain ⟨edit, visited, h⟩ := O.bind_returns h
    have inner : s ∈ Stmt.nestedAll body := by
      simp only [Stmt.nested, List.mem_cons] at mem
      rcases mem with rfl | inner
      · simp [Stmt.isCompound] at simple
      · exact inner
    -- the body is walked first only when the visit descends
    obtain ⟨b, walkedBody, h⟩ : ∃ b, s ∈ Stmt.nestedAll b ∧
        O.returns (pure (Stmt.functionDef name args (edit b) decorators returns false)) t' := by
      split at h
      · obtain ⟨b, walked, h⟩ := O.bind_returns h
        exact ⟨b, Stmt.walkDefsAll_keeps simple keeps body b walked inner, h⟩
      · obtain ⟨b, walked, h⟩ := O.bind_returns h
        cases O.pure_returns walked
        exact ⟨body, inner, h⟩
    cases O.pure_returns h
    simp only [Stmt.nested, List.mem_cons]
    exact Or.inr (keeps name body edit visited b walkedBody)
  | .functionDef name args body decorators returns true, t', h, mem => by
    simp only [Stmt.walkDefs] at h
    obtain ⟨b, walked, h⟩ := O.bind_returns h
    cases O.pure_returns h
    simp only [Stmt.nested, List.mem_cons] at mem ⊢
    rcases mem with rfl | inner
    · simp [Stmt.isCompound] at simple
    · exact Or.inr (Stmt.walkDefsAll_keeps simple keeps body b walked inner)
  | .classDef name bases keywords body decorators, t', h, mem => by
    simp only [Stmt.walkDefs] at h
    obtain ⟨b, walked, h⟩ := O.bind_returns h
    cases O.pure_returns h
    simp only [Stmt.nested, List.mem_cons] at mem ⊢
    rcases mem with rfl | inner
    · simp [Stmt.isCompound] at simple
    · exact Or.inr (Stmt.walkDefsAll_keeps simple keeps body b walked inner)
  | .forLoop target iter body orelse isAsync, t', h, mem => by
    simp only [Stmt.walkDefs] at h
    obtain ⟨b, walked, h⟩ := O.bind_returns h
    obtain ⟨o, walkedElse, h⟩ := O.bind_returns h
    cases O.pure_returns h
    simp only [Stmt.nested, List.mem_cons, List.mem_append] at mem ⊢
    rcases mem with rfl | inner | inner
    · simp [Stmt.isCompound] at simple
    · exact Or.inr (Or.inl (Stmt.walkDefsAll_keeps simple keeps body b walked inner))
    · exact Or.inr (Or.inr (Stmt.walkDefsAll_keeps simple keeps orelse o walkedElse inner))
  | .whileLoop test body orelse, t', h, mem => by
    simp only [Stmt.walkDefs] at h
    obtain ⟨b, walked, h⟩ := O.bind_returns h
    obtain ⟨o, walkedElse, h⟩ := O.bind_returns h
    cases O.pure_returns h
    simp only [Stmt.nested, List.mem_cons, List.mem_append] at mem ⊢
    rcases mem with rfl | inner | inner
    · simp [Stmt.isCompound] at simple
    · exact Or.inr (Or.inl (Stmt.walkDefsAll_keeps simple keeps body b walked inner))
    · exact Or.inr (Or.inr (Stmt.walkDefsAll_keeps simple keeps orelse o walkedElse inner))
  | .ifStmt test body orelse, t', h, mem => by
    simp only [Stmt.walkDefs] at h
    obtain ⟨b, walked, h⟩ := O.bind_returns h
    obtain ⟨o, walkedElse, h⟩ := O.bind_returns h
    cases O.pure_returns h
    simp only [Stmt.nested, List.mem_cons, List.mem_append] at mem ⊢
    rcases mem with rfl | inner | inner
    · simp [Stmt.isCompound] at simple
    · exact Or.inr (Or.inl (Stmt.walkDefsAll_keeps simple keeps body b walked inner))
    · exact Or.inr (Or.inr (Stmt.walkDefsAll_keeps simple keeps orelse o walkedElse inner))
  | .withBlock items body isAsync, t', h, mem => by
    simp only [Stmt.walkDefs] at h
    obtain ⟨b, walked, h⟩ := O.bind_returns h
    cases O.pure_returns h
    simp only [Stmt.nested, List.mem_cons] at mem ⊢
    rcases mem with rfl | inner
    · simp [Stmt.isCompound] at simple
    · exact Or.inr (Stmt.walkDefsAll_keeps simple keeps body b walked inner)
  | .matchStmt subject cases, t', h, mem => by
    simp only [Stmt.walkDefs] at h
    obtain ⟨cs, walked, rfl⟩ := O.map_returns h
    simp only [Stmt.nested, List.mem_cons] at mem ⊢
    rcases mem with rfl | inner
    · simp [Stmt.isCompound] at simple
    · exact Or.inr (MatchCase.walkDefsAll_keeps simple keeps cases cs walked inner)
  | .tryBlock body handlers orelse finalbody isStar, t', h, mem => by
    simp only [Stmt.walkDefs] at h
    obtain ⟨b, walked, h⟩ := O.bind_returns h
    obtain ⟨hs, walkedHandlers, h⟩ := O.bind_returns h
    obtain ⟨o, walkedElse, h⟩ := O.bind_returns h
    obtain ⟨f, walkedFinal, h⟩ := O.bind_returns h
    cases O.pure_returns h
    simp only [Stmt.nested, List.mem_cons, List.mem_append] at mem ⊢
    rcases mem with rfl | ((inner | inner) | inner) | inner
    · simp [Stmt.isCompound] at simple
    · exact Or.inr (Or.inl (Or.inl (Or.inl
        (Stmt.walkDefsAll_keeps simple keeps body b walked inner))))
    · exact Or.inr (Or.inl (Or.inl (Or.inr
        (Handler.walkDefsAll_keeps simple keeps handlers hs walkedHandlers inner))))
    · exact Or.inr (Or.inl (Or.inr (Stmt.walkDefsAll_keeps simple keeps orelse o walkedElse inner)))
    · exact Or.inr (Or.inr (Stmt.walkDefsAll_keeps simple keeps finalbody f walkedFinal inner))
  | .returnStmt _, t', h, mem | .delete _, t', h, mem | .assign _ _, t', h, mem
  | .augAssign _ _ _, t', h, mem | .annAssign _ _ _ _, t', h, mem | .raise _ _, t', h, mem
  | .assert _ _, t', h, mem | .importNames _, t', h, mem | .importFrom _ _ _, t', h, mem
  | .global _, t', h, mem | .nonlocal _, t', h, mem | .expr _, t', h, mem | .pass, t', h, mem
  | .breakStmt, t', h, mem | .continueStmt, t', h, mem => by
    simp only [Stmt.walkDefs] at h
    cases O.pure_returns h
    exact mem
termination_by structural t _ _ _ => t

theorem Stmt.walkDefsAll_keeps (simple : s.isCompound = false) (keeps : v.Keeps O s) :
    ∀ (body body' : List Stmt), O.returns (Stmt.walkDefsAll v body) body' →
      s ∈ Stmt.nestedAll body → s ∈ Stmt.nestedAll body'
  | [], body', h, mem => by simp at mem
  | t :: rest, body', h, mem => by
    simp only [Stmt.walkDefsAll] at h
    obtain ⟨t', walked, h⟩ := O.bind_returns h
    obtain ⟨rest', walkedRest, h⟩ := O.bind_returns h
    cases O.pure_returns h
    simp only [nestedAll_cons, List.mem_append] at mem ⊢
    rcases mem with here | later
    · exact Or.inl (Stmt.walkDefs_keeps simple keeps t t' walked here)
    · exact Or.inr (Stmt.walkDefsAll_keeps simple keeps rest rest' walkedRest later)
termination_by structural body _ _ _ => body

theorem Handler.walkDefsAll_keeps (simple : s.isCompound = false) (keeps : v.Keeps O s) :
    ∀ (handlers handlers' : List Handler), O.returns (Handler.walkDefsAll v handlers) handlers' →
      s ∈ Handler.nestedAll handlers → s ∈ Handler.nestedAll handlers'
  | [], _, _, mem => by simp [Handler.nestedAll] at mem
  | .mk type name body :: rest, handlers', h, mem => by
    simp only [Handler.walkDefsAll] at h
    obtain ⟨b, walked, h⟩ := O.bind_returns h
    obtain ⟨rest', walkedRest, h⟩ := O.bind_returns h
    cases O.pure_returns h
    simp only [Handler.nestedAll, List.mem_append] at mem ⊢
    rcases mem with inner | later
    · exact Or.inl (Stmt.walkDefsAll_keeps simple keeps body b walked inner)
    · exact Or.inr (Handler.walkDefsAll_keeps simple keeps rest rest' walkedRest later)
termination_by structural handlers _ _ _ => handlers

theorem MatchCase.walkDefsAll_keeps (simple : s.isCompound = false) (keeps : v.Keeps O s) :
    ∀ (cases cases' : List MatchCase), O.returns (MatchCase.walkDefsAll v cases) cases' →
      s ∈ MatchCase.nestedAll cases → s ∈ MatchCase.nestedAll cases'
  | [], _, _, mem => by simp [MatchCase.nestedAll] at mem
  | .mk pattern guard body :: rest, cases', h, mem => by
    simp only [MatchCase.walkDefsAll] at h
    obtain ⟨b, walked, h⟩ := O.bind_returns h
    obtain ⟨rest', walkedRest, h⟩ := O.bind_returns h
    cases O.pure_returns h
    simp only [MatchCase.nestedAll, List.mem_append] at mem ⊢
    rcases mem with inner | later
    · exact Or.inl (Stmt.walkDefsAll_keeps simple keeps body b walked inner)
    · exact Or.inr (MatchCase.walkDefsAll_keeps simple keeps rest rest' walkedRest later)
termination_by structural cases _ _ _ => cases

end

end DefWalk

def Carried (O : Outcomes m) (v : LeafVisit m) (e : Expr) (ss : List Stmt) : Prop :=
  ∃ e', O.returns (e.walkLeaves v) e' ∧ Stmt.expr e' ∈ ss

theorem Carried.mono {O : Outcomes m} {v : LeafVisit m} {e : Expr} {ss ss' : List Stmt}
    (carried : Carried O v e ss) (sub : ∀ s ∈ ss, s ∈ ss') : Carried O v e ss' :=
  let ⟨e', walked, mem⟩ := carried
  ⟨e', walked, sub _ mem⟩

section LeafWalk

variable (O : Outcomes m) (v : LeafVisit m) (e : Expr)

mutual

theorem Stmt.walkLeaves_carries :
    ∀ (t t' : Stmt), O.returns (t.walkLeaves v) t' → Stmt.expr e ∈ t.nested →
      Carried O v e t'.nested
  | .functionDef name args body decorators returns isAsync, t', h, mem => by
    simp only [Stmt.walkLeaves] at h
    obtain ⟨a, -, h⟩ := O.bind_returns h
    obtain ⟨b, walked, h⟩ := O.bind_returns h
    obtain ⟨d, -, h⟩ := O.bind_returns h
    obtain ⟨r, -, h⟩ := O.bind_returns h
    cases O.pure_returns h
    simp only [Stmt.nested, List.mem_cons, reduceCtorEq, false_or] at mem
    exact (Stmt.walkLeavesAll_carries body b walked mem).mono
      fun _ inner => by simp [Stmt.nested, inner]
  | .classDef name bases keywords body decorators, t', h, mem => by
    simp only [Stmt.walkLeaves] at h
    obtain ⟨bs, -, h⟩ := O.bind_returns h
    obtain ⟨ks, -, h⟩ := O.bind_returns h
    obtain ⟨b, walked, h⟩ := O.bind_returns h
    obtain ⟨d, -, h⟩ := O.bind_returns h
    cases O.pure_returns h
    simp only [Stmt.nested, List.mem_cons, reduceCtorEq, false_or] at mem
    exact (Stmt.walkLeavesAll_carries body b walked mem).mono
      fun _ inner => by simp [Stmt.nested, inner]
  | .forLoop target iter body orelse isAsync, t', h, mem => by
    simp only [Stmt.walkLeaves] at h
    obtain ⟨tg, -, h⟩ := O.bind_returns h
    obtain ⟨i, -, h⟩ := O.bind_returns h
    obtain ⟨b, walked, h⟩ := O.bind_returns h
    obtain ⟨o, walkedElse, h⟩ := O.bind_returns h
    cases O.pure_returns h
    simp only [Stmt.nested, List.mem_cons, reduceCtorEq, false_or, List.mem_append] at mem
    rcases mem with inner | inner
    · exact (Stmt.walkLeavesAll_carries body b walked inner).mono
        fun _ inner => by simp [Stmt.nested, inner]
    · exact (Stmt.walkLeavesAll_carries orelse o walkedElse inner).mono
        fun _ inner => by simp [Stmt.nested, inner]
  | .whileLoop test body orelse, t', h, mem => by
    simp only [Stmt.walkLeaves] at h
    obtain ⟨tg, -, h⟩ := O.bind_returns h
    obtain ⟨b, walked, h⟩ := O.bind_returns h
    obtain ⟨o, walkedElse, h⟩ := O.bind_returns h
    cases O.pure_returns h
    simp only [Stmt.nested, List.mem_cons, reduceCtorEq, false_or, List.mem_append] at mem
    rcases mem with inner | inner
    · exact (Stmt.walkLeavesAll_carries body b walked inner).mono
        fun _ inner => by simp [Stmt.nested, inner]
    · exact (Stmt.walkLeavesAll_carries orelse o walkedElse inner).mono
        fun _ inner => by simp [Stmt.nested, inner]
  | .ifStmt test body orelse, t', h, mem => by
    simp only [Stmt.walkLeaves] at h
    obtain ⟨tg, -, h⟩ := O.bind_returns h
    obtain ⟨b, walked, h⟩ := O.bind_returns h
    obtain ⟨o, walkedElse, h⟩ := O.bind_returns h
    cases O.pure_returns h
    simp only [Stmt.nested, List.mem_cons, reduceCtorEq, false_or, List.mem_append] at mem
    rcases mem with inner | inner
    · exact (Stmt.walkLeavesAll_carries body b walked inner).mono
        fun _ inner => by simp [Stmt.nested, inner]
    · exact (Stmt.walkLeavesAll_carries orelse o walkedElse inner).mono
        fun _ inner => by simp [Stmt.nested, inner]
  | .withBlock items body isAsync, t', h, mem => by
    simp only [Stmt.walkLeaves] at h
    obtain ⟨ws, -, h⟩ := O.bind_returns h
    obtain ⟨b, walked, h⟩ := O.bind_returns h
    cases O.pure_returns h
    simp only [Stmt.nested, List.mem_cons, reduceCtorEq, false_or] at mem
    exact (Stmt.walkLeavesAll_carries body b walked mem).mono
      fun _ inner => by simp [Stmt.nested, inner]
  | .matchStmt subject cases, t', h, mem => by
    simp only [Stmt.walkLeaves] at h
    obtain ⟨sj, -, h⟩ := O.bind_returns h
    obtain ⟨cs, walked, h⟩ := O.bind_returns h
    cases O.pure_returns h
    simp only [Stmt.nested, List.mem_cons, reduceCtorEq, false_or] at mem
    exact (MatchCase.walkLeavesAll_carries cases cs walked mem).mono
      fun _ inner => by simp [Stmt.nested, inner]
  | .tryBlock body handlers orelse finalbody isStar, t', h, mem => by
    simp only [Stmt.walkLeaves] at h
    obtain ⟨b, walked, h⟩ := O.bind_returns h
    obtain ⟨hs, walkedHandlers, h⟩ := O.bind_returns h
    obtain ⟨o, walkedElse, h⟩ := O.bind_returns h
    obtain ⟨f, walkedFinal, h⟩ := O.bind_returns h
    cases O.pure_returns h
    simp only [Stmt.nested, List.mem_cons, reduceCtorEq, false_or, List.mem_append] at mem
    rcases mem with ((inner | inner) | inner) | inner
    · exact (Stmt.walkLeavesAll_carries body b walked inner).mono
        fun _ inner => by simp [Stmt.nested, inner]
    · exact (Handler.walkLeavesAll_carries handlers hs walkedHandlers inner).mono
        fun _ inner => by simp [Stmt.nested, inner]
    · exact (Stmt.walkLeavesAll_carries orelse o walkedElse inner).mono
        fun _ inner => by simp [Stmt.nested, inner]
    · exact (Stmt.walkLeavesAll_carries finalbody f walkedFinal inner).mono
        fun _ inner => by simp [Stmt.nested, inner]
  | .expr value, t', h, mem => by
    simp only [Stmt.walkLeaves] at h
    obtain ⟨e', walkedE, rfl⟩ := O.map_returns h
    simp only [Stmt.nested, List.mem_singleton, Stmt.expr.injEq] at mem
    subst mem
    exact ⟨e', walkedE, by simp [Stmt.nested]⟩
  | .returnStmt _, _, _, mem | .delete _, _, _, mem | .assign _ _, _, _, mem
  | .augAssign _ _ _, _, _, mem | .annAssign _ _ _ _, _, _, mem | .raise _ _, _, _, mem
  | .assert _ _, _, _, mem | .importNames _, _, _, mem | .importFrom _ _ _, _, _, mem
  | .global _, _, _, mem | .nonlocal _, _, _, mem | .pass, _, _, mem
  | .breakStmt, _, _, mem | .continueStmt, _, _, mem => by
    simp [Stmt.nested] at mem
termination_by structural t _ _ _ => t

theorem Stmt.walkLeavesAll_carries :
    ∀ (body body' : List Stmt), O.returns (Stmt.walkLeavesAll v body) body' →
      Stmt.expr e ∈ Stmt.nestedAll body → Carried O v e (Stmt.nestedAll body')
  | [], _, _, mem => by simp at mem
  | t :: rest, body', h, mem => by
    simp only [Stmt.walkLeavesAll] at h
    obtain ⟨t', walked, h⟩ := O.bind_returns h
    obtain ⟨rest', walkedRest, h⟩ := O.bind_returns h
    cases O.pure_returns h
    simp only [nestedAll_cons, List.mem_append] at mem
    rcases mem with here | later
    · obtain ⟨e', walkedE, inner⟩ := Stmt.walkLeaves_carries t t' walked here
      exact ⟨e', walkedE, by simp [inner]⟩
    · obtain ⟨e', walkedE, inner⟩ := Stmt.walkLeavesAll_carries rest rest' walkedRest later
      exact ⟨e', walkedE, by simp [inner]⟩
termination_by structural body _ _ _ => body

theorem Handler.walkLeavesAll_carries :
    ∀ (handlers handlers' : List Handler), O.returns (Handler.walkLeavesAll v handlers) handlers' →
      Stmt.expr e ∈ Handler.nestedAll handlers → Carried O v e (Handler.nestedAll handlers')
  | [], _, _, mem => by simp [Handler.nestedAll] at mem
  | .mk type name body :: rest, handlers', h, mem => by
    simp only [Handler.walkLeavesAll] at h
    obtain ⟨tp, -, h⟩ := O.bind_returns h
    obtain ⟨b, walked, h⟩ := O.bind_returns h
    obtain ⟨rest', walkedRest, h⟩ := O.bind_returns h
    cases O.pure_returns h
    simp only [Handler.nestedAll, List.mem_append] at mem
    rcases mem with inner | later
    · exact (Stmt.walkLeavesAll_carries body b walked inner).mono
        fun _ inner => by simp [Handler.nestedAll, inner]
    · exact (Handler.walkLeavesAll_carries rest rest' walkedRest later).mono
        fun _ inner => by simp [Handler.nestedAll, inner]
termination_by structural handlers _ _ _ => handlers

theorem MatchCase.walkLeavesAll_carries :
    ∀ (cases cases' : List MatchCase), O.returns (MatchCase.walkLeavesAll v cases) cases' →
      Stmt.expr e ∈ MatchCase.nestedAll cases → Carried O v e (MatchCase.nestedAll cases')
  | [], _, _, mem => by simp [MatchCase.nestedAll] at mem
  | .mk pattern guard body :: rest, cases', h, mem => by
    simp only [MatchCase.walkLeavesAll] at h
    obtain ⟨p, -, h⟩ := O.bind_returns h
    obtain ⟨g, -, h⟩ := O.bind_returns h
    obtain ⟨b, walked, h⟩ := O.bind_returns h
    obtain ⟨rest', walkedRest, h⟩ := O.bind_returns h
    cases O.pure_returns h
    simp only [MatchCase.nestedAll, List.mem_append] at mem
    rcases mem with inner | later
    · exact (Stmt.walkLeavesAll_carries body b walked inner).mono
        fun _ inner => by simp [MatchCase.nestedAll, inner]
    · exact (MatchCase.walkLeavesAll_carries rest rest' walkedRest later).mono
        fun _ inner => by simp [MatchCase.nestedAll, inner]
termination_by structural cases _ _ _ => cases

end

end LeafWalk

end Obfuscation.Syntax
