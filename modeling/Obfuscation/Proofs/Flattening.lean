import Obfuscation.Proofs.Execution
/-!
A flattened body runs like the body. The arms are a plain chain of `if`s, so one pass of the loop
runs every statement once, in order. Main statement (`flattenBody_runs_like_body`): for a body that
does not name the state variable, the flattened body ends as the body does, in the same store up to
the state variable.
-/

namespace Obfuscation.Semantics

open Syntax Pass

variable {α ε : Type} {atom : Stmt → Store α ε → Completion α → Store α ε → Prop}

section Inversion

/-! How each kind of code can run: one lemma per rule group, read off the rules. -/

theorem exec_setState_iff (k : Nat) (σ : Store α ε) (c : Completion α) (σ' : Store α ε) :
    Exec atom (.stmt (setState k)) σ c σ' ↔
      c = .normal ∧ σ' = σ.put stateVariable (some (.int k)) := by
  constructor
  · intro run
    cases run with
    | setState => exact ⟨rfl, rfl⟩
    | atom structural _ => simp [Stmt.isStructural, setState, stateVariable] at structural
  · rintro ⟨rfl, rfl⟩
    exact .setState k σ

theorem exec_test_iff {k : Nat} {j : Int} {body orelse : List Stmt} {σ : Store α ε}
    (state : σ.env stateVariable = some (.int j)) (c : Completion α) (σ' : Store α ε) :
    Exec atom (.stmt (.ifStmt (stateIs k) body orelse)) σ c σ' ↔
      if j = k then Exec atom (.body body) σ c σ' else Exec atom (.body orelse) σ c σ' := by
  constructor
  · intro run
    cases run with
    | testHolds holds ran =>
      rw [state] at holds
      cases holds
      rwa [if_pos rfl]
    | testFails fails differs ran =>
      rw [state] at fails
      cases fails
      rwa [if_neg differs]
    | atom structural _ => simp [Stmt.isStructural, stateIs, stateVariable] at structural
  · intro run
    split at run
    · rename_i same
      exact .testHolds (same ▸ state) run
    · rename_i differs
      exact .testFails state differs run

theorem exec_whileTrue_iff (body orelse : List Stmt) (σ : Store α ε) (c : Completion α)
    (σ' : Store α ε) :
    Exec atom (.stmt (.whileLoop (.constant .true) body orelse)) σ c σ' ↔
      Exec atom (.loop body) σ c σ' := by
  constructor
  · intro run
    cases run with
    | whileTrue ran => exact ran
    | atom structural _ => simp [Stmt.isStructural] at structural
  · exact .whileTrue

theorem exec_break_iff (σ : Store α ε) (c : Completion α) (σ' : Store α ε) :
    Exec atom (.stmt .breakStmt) σ c σ' ↔ c = .broke ∧ σ' = σ := by
  constructor
  · intro run
    cases run with
    | breakStmt => exact ⟨rfl, rfl⟩
    | atom structural _ => simp [Stmt.isStructural] at structural
  · rintro ⟨rfl, rfl⟩
    exact .breakStmt _

theorem exec_nil_iff (σ : Store α ε) (c : Completion α) (σ' : Store α ε) :
    Exec atom (.body []) σ c σ' ↔ c = .normal ∧ σ' = σ := by
  constructor
  · intro run
    cases run
    exact ⟨rfl, rfl⟩
  · rintro ⟨rfl, rfl⟩
    exact .nil _

theorem exec_cons_iff (s : Stmt) (ss : List Stmt) (σ : Store α ε) (c : Completion α)
    (σ' : Store α ε) :
    Exec atom (.body (s :: ss)) σ c σ' ↔
      (∃ σ₁, Exec atom (.stmt s) σ .normal σ₁ ∧ Exec atom (.body ss) σ₁ c σ') ∨
        (Exec atom (.stmt s) σ c σ' ∧ c ≠ .normal) := by
  constructor
  · intro run
    cases run with
    | next first rest => exact .inl ⟨_, first, rest⟩
    | stop first abrupt => exact .inr ⟨first, abrupt⟩
  · rintro (⟨σ₁, first, rest⟩ | ⟨first, abrupt⟩)
    · exact .next first rest
    · exact .stop first abrupt

theorem exec_singleton_iff (s : Stmt) (σ : Store α ε) (c : Completion α) (σ' : Store α ε) :
    Exec atom (.body [s]) σ c σ' ↔ Exec atom (.stmt s) σ c σ' := by
  rw [exec_cons_iff]
  constructor
  · rintro (⟨σ₁, first, rest⟩ | ⟨first, -⟩)
    · obtain ⟨rfl, rfl⟩ := (exec_nil_iff _ _ _).mp rest
      exact first
    · exact first
  · intro first
    by_cases normal : c = .normal
    · subst normal
      exact .inl ⟨σ', first, .nil σ'⟩
    · exact .inr ⟨first, normal⟩

theorem exec_cons_of_ends_in {s : Stmt} {σ σ₁ : Store α ε}
    (first : ∀ c σ', Exec atom (.stmt s) σ c σ' ↔ c = .normal ∧ σ' = σ₁) (ss : List Stmt)
    (c : Completion α) (σ' : Store α ε) :
    Exec atom (.body (s :: ss)) σ c σ' ↔ Exec atom (.body ss) σ₁ c σ' := by
  rw [exec_cons_iff]
  constructor
  · rintro (⟨σ₂, ran, rest⟩ | ⟨ran, abrupt⟩)
    · obtain ⟨-, rfl⟩ := (first _ _).mp ran
      exact rest
    · exact absurd ((first _ _).mp ran).1 abrupt
  · intro rest
    exact .inl ⟨σ₁, (first _ _).mpr ⟨rfl, rfl⟩, rest⟩

theorem exec_loop_iff (body : List Stmt) (σ : Store α ε) (c : Completion α) (σ' : Store α ε) :
    Exec atom (.loop body) σ c σ' ↔
      (∃ c₁ σ₁, Exec atom (.body body) σ c₁ σ₁ ∧ (c₁ = .normal ∨ c₁ = .continued) ∧
          Exec atom (.loop body) σ₁ c σ') ∨
        (Exec atom (.body body) σ .broke σ' ∧ c = .normal) ∨
        (Exec atom (.body body) σ c σ' ∧ c.Escapes) := by
  constructor
  · intro run
    cases run with
    | again first goesOn rest => exact .inl ⟨_, _, first, goesOn, rest⟩
    | exit first => exact .inr (.inl ⟨first, rfl⟩)
    | leave first escapes => exact .inr (.inr ⟨first, escapes⟩)
  · rintro (⟨c₁, σ₁, first, goesOn, rest⟩ | ⟨first, rfl⟩ | ⟨first, escapes⟩)
    · exact .again first goesOn rest
    · exact .exit first
    · exact .leave first escapes

end Inversion

section Machine

/-- The arms of the state machine for the statements `rest`, the first at index `i`, followed by
the arm that breaks out once the state reaches the end. -/
def armsFrom (rest : List Stmt) (i : Nat) : List Stmt :=
  (rest.zipIdx i).map (fun p => stepArm p.1 p.2) ++
    [.ifStmt (stateIs (i + rest.length)) [.breakStmt] []]

theorem armsFrom_cons (s : Stmt) (rest : List Stmt) (i : Nat) :
    armsFrom (s :: rest) i = stepArm s i :: armsFrom rest (i + 1) := by
  simp only [armsFrom, List.zipIdx_cons, List.map_cons, List.cons_append, List.length_cons]
  congr 5
  omega

theorem flattenBody_eq {body : List Stmt} (nonempty : body ≠ []) :
    flattenBody body =
      [setState 0, .whileLoop (.constant .true) (armsFrom body 0) []] := by
  simp [flattenBody, List.isEmpty_iff, nonempty, armsFrom]

/-- How the loop body ends when the statements end as `c`: a normal end reaches the arm that
breaks out. -/
def breakOf : Completion α → Completion α
  | .normal => .broke
  | c => c

theorem breakOf_of_ne {c : Completion α} (abrupt : c ≠ .normal) : breakOf c = c := by
  cases c <;> simp_all [breakOf]

theorem breakOf_ne_normal (c : Completion α) : breakOf c ≠ .normal := by
  cases c <;> simp [breakOf]

theorem breakOf_ne_continued {c : Completion α} (ended : c.Ends) : breakOf c ≠ .continued := by
  cases c <;> simp_all [breakOf, Completion.Ends]

theorem breakOf_eq_broke {c : Completion α} (ended : c.Ends) : breakOf c = .broke ↔ c = .normal := by
  cases c <;> simp_all [breakOf, Completion.Ends]

theorem exec_body_ends {body : List Stmt}
    (ends : ∀ s ∈ body, ∀ σ c σ', Exec atom (.stmt s) σ c σ' → c.Ends) {σ : Store α ε}
    {c : Completion α} {σ' : Store α ε} (ran : Exec atom (.body body) σ c σ') : c.Ends := by
  induction body generalizing σ with
  | nil =>
    obtain ⟨rfl, -⟩ := (exec_nil_iff _ _ _).mp ran
    trivial
  | cons s rest ih =>
    rcases (exec_cons_iff _ _ _ _ _).mp ran with ⟨σ₁, -, others⟩ | ⟨first, -⟩
    · exact ih (fun t mem => ends t (List.mem_cons_of_mem s mem)) others
    · exact ends s List.mem_cons_self _ _ _ first

theorem exec_flattenBody_iff {body : List Stmt} (nonempty : body ≠ []) (σ : Store α ε)
    (c : Completion α) (σ' : Store α ε) :
    Exec atom (.body (flattenBody body)) σ c σ' ↔
      Exec atom (.loop (armsFrom body 0)) (σ.put stateVariable (some (.int (0 : Nat)))) c σ' := by
  rw [flattenBody_eq nonempty, exec_cons_of_ends_in (exec_setState_iff 0 σ), exec_singleton_iff,
    exec_whileTrue_iff]

section Loops

theorem exec_loop_once {body : List Stmt} {σ : Store α ε}
    (leaves : ∀ c₁ σ₁, Exec atom (.body body) σ c₁ σ₁ → c₁ ≠ .normal ∧ c₁ ≠ .continued)
    (c : Completion α) (σ' : Store α ε) :
    Exec atom (.loop body) σ c σ' ↔
      (Exec atom (.body body) σ .broke σ' ∧ c = .normal) ∨
        (Exec atom (.body body) σ c σ' ∧ c.Escapes) := by
  rw [exec_loop_iff]
  constructor
  · rintro (⟨c₁, σ₁, first, goesOn, -⟩ | broke | escaped)
    · obtain ⟨notNormal, notContinued⟩ := leaves c₁ σ₁ first
      exact absurd goesOn (not_or.mpr ⟨notNormal, notContinued⟩)
    · exact .inl broke
    · exact .inr escaped
  · rintro (broke | escaped)
    · exact .inr (.inl broke)
    · exact .inr (.inr escaped)

variable {L rest : List Stmt} {σ₀ τ : Store α ε} {n : Int}
  (ends : ∀ s ∈ rest, ∀ σ c σ', Exec atom (.stmt s) σ c σ' → c.Ends)
include ends

theorem exec_loop_sound_of_passes
    (passes : ∀ c σ', Exec atom (.body L) σ₀ c σ' → ∃ c' τ', Exec atom (.body rest) τ c' τ' ∧
      c = breakOf c' ∧ ∃ j : Int, σ' = τ'.put stateVariable (some (.int j)) ∧ (c' = .normal → j = n))
    {c : Completion α} {σ' : Store α ε} (run : Exec atom (.loop L) σ₀ c σ') :
    ∃ τ', Exec atom (.body rest) τ c τ' ∧
      ∃ j : Int, σ' = τ'.put stateVariable (some (.int j)) ∧ (c = .normal → j = n) := by
  have leaves : ∀ c₁ σ₁, Exec atom (.body L) σ₀ c₁ σ₁ → c₁ ≠ .normal ∧ c₁ ≠ .continued := by
    intro c₁ σ₁ pass
    obtain ⟨c', τ', ran, rfl, -⟩ := passes c₁ σ₁ pass
    exact ⟨breakOf_ne_normal c', breakOf_ne_continued (exec_body_ends ends ran)⟩
  rcases (exec_loop_once leaves c σ').mp run with ⟨pass, rfl⟩ | ⟨pass, escapes⟩
  · -- the pass broke out: the statements ended normally
    obtain ⟨c', τ', ran, broke, j, rfl, atEnd⟩ := passes _ _ pass
    obtain rfl := (breakOf_eq_broke (exec_body_ends ends ran)).mp broke.symm
    exact ⟨τ', ran, j, rfl, fun _ => atEnd rfl⟩
  · -- a statement returned or raised, and the loop passes that on
    obtain ⟨c', τ', ran, rfl, j, rfl, -⟩ := passes _ _ pass
    have abrupt : c' ≠ .normal := by
      rintro rfl
      exact escapes
    rw [breakOf_of_ne abrupt]
    exact ⟨τ', ran, j, rfl, fun normal => absurd normal abrupt⟩

theorem exec_loop_complete_of_passes
    (passes : ∀ c' τ', Exec atom (.body rest) τ c' τ' → ∃ j : Int,
      Exec atom (.body L) σ₀ (breakOf c') (τ'.put stateVariable (some (.int j))) ∧
        (c' = .normal → j = n))
    {c : Completion α} {τ' : Store α ε} (ran : Exec atom (.body rest) τ c τ') :
    ∃ j : Int, Exec atom (.loop L) σ₀ c (τ'.put stateVariable (some (.int j))) ∧
      (c = .normal → j = n) := by
  obtain ⟨j, pass, atEnd⟩ := passes c τ' ran
  refine ⟨j, ?_, atEnd⟩
  by_cases normal : c = .normal
  · subst normal
    exact .exit pass
  · rw [breakOf_of_ne normal] at pass
    exact .leave pass ((exec_body_ends ends ran).escapes normal)

end Loops

variable (respects : RespectsScope atom stateVariable)
include respects

theorem exec_stepArm_iff {s : Stmt} (fresh : s.mentions stateVariable = false) (i : Nat)
    (τ : Store α ε) (c : Completion α) (σ' : Store α ε) :
    Exec atom (.stmt (stepArm s i)) (τ.put stateVariable (some (.int i))) c σ' ↔
      ∃ c₂ τ₂, Exec atom (.stmt s) τ c₂ τ₂ ∧
        ((c₂ = .normal ∧ c = .normal ∧ σ' = τ₂.put stateVariable (some (.int (i + 1)))) ∨
          (c₂ ≠ .normal ∧ c = c₂ ∧ σ' = τ₂.put stateVariable (some (.int i)))) := by
  have moved := Exec.put_iff respects (p := .stmt s) fresh τ (some (.int i))
  rw [stepArm, exec_test_iff (Store.put_env_self ..), if_pos rfl, exec_cons_iff]
  constructor
  · rintro (⟨σ₁, first, rest⟩ | ⟨first, abrupt⟩)
    · obtain ⟨τ₂, ran, rfl⟩ := (moved _ _).mp first
      rw [exec_singleton_iff, exec_setState_iff] at rest
      obtain ⟨rfl, rfl⟩ := rest
      exact ⟨_, _, ran, .inl ⟨rfl, rfl, by simp⟩⟩
    · obtain ⟨τ₂, ran, rfl⟩ := (moved _ _).mp first
      exact ⟨_, _, ran, .inr ⟨abrupt, rfl, rfl⟩⟩
  · rintro ⟨c₂, τ₂, ran, ⟨rfl, rfl, rfl⟩ | ⟨abrupt, rfl, rfl⟩⟩
    · refine .inl ⟨_, (moved _ _).mpr ⟨τ₂, ran, rfl⟩, ?_⟩
      rw [exec_singleton_iff, exec_setState_iff]
      exact ⟨rfl, by simp⟩
    · exact .inr ⟨(moved _ _).mpr ⟨τ₂, ran, rfl⟩, abrupt⟩

theorem exec_armsFrom_sound :
    ∀ (rest : List Stmt) (i : Nat) (τ : Store α ε) (c : Completion α) (σ' : Store α ε),
      rest.any (Stmt.mentions stateVariable) = false →
      Exec atom (.body (armsFrom rest i)) (τ.put stateVariable (some (.int i))) c σ' →
        ∃ c' τ', Exec atom (.body rest) τ c' τ' ∧ c = breakOf c' ∧
          ∃ j, σ' = τ'.put stateVariable (some (.int j)) ∧ (c' = .normal → j = i + rest.length)
  | [], i, τ, c, σ', _, run => by
    simp only [armsFrom, List.zipIdx_nil, List.map_nil, List.nil_append, List.length_nil,
      Nat.add_zero, exec_singleton_iff] at run
    rw [exec_test_iff (Store.put_env_self ..), if_pos rfl, exec_singleton_iff, exec_break_iff] at run
    obtain ⟨rfl, rfl⟩ := run
    exact ⟨.normal, τ, .nil τ, rfl, i, rfl, fun _ => rfl⟩
  | s :: rest, i, τ, c, σ', fresh, run => by
    simp only [List.any_cons, Bool.or_eq_false_iff] at fresh
    have arm := exec_stepArm_iff respects fresh.1 i τ
    rw [armsFrom_cons, exec_cons_iff] at run
    rcases run with ⟨σ₁, first, others⟩ | ⟨first, abrupt⟩
    · -- the statement ends normally and the arms after it take over at `i + 1`
      obtain ⟨c₂, τ₂, ran, ⟨rfl, -, rfl⟩ | ⟨abrupt, same, -⟩⟩ := (arm _ _).mp first
      · obtain ⟨c', τ', rest', rfl, j, rfl, atEnd⟩ :=
          exec_armsFrom_sound rest (i + 1) τ₂ c σ' fresh.2 others
        refine ⟨c', τ', .next ran rest', rfl, j, rfl, fun normal => ?_⟩
        rw [atEnd normal, List.length_cons]
        omega
      · exact absurd same.symm abrupt
    · -- the statement ends the loop body, with the state at its index
      obtain ⟨c₂, τ₂, ran, ⟨-, same, -⟩ | ⟨abrupt₂, rfl, rfl⟩⟩ := (arm _ _).mp first
      · exact absurd same abrupt
      · exact ⟨c, τ₂, .stop ran abrupt₂, (breakOf_of_ne abrupt₂).symm, i, rfl,
          fun normal => absurd normal abrupt₂⟩

theorem exec_armsFrom_complete :
    ∀ (rest : List Stmt) (i : Nat) (τ : Store α ε) (c' : Completion α) (τ' : Store α ε),
      rest.any (Stmt.mentions stateVariable) = false → Exec atom (.body rest) τ c' τ' →
        ∃ j, Exec atom (.body (armsFrom rest i)) (τ.put stateVariable (some (.int i)))
            (breakOf c') (τ'.put stateVariable (some (.int j))) ∧
          (c' = .normal → j = i + rest.length)
  | [], i, τ, c', τ', _, ran => by
    obtain ⟨rfl, rfl⟩ := (exec_nil_iff _ _ _).mp ran
    refine ⟨i, ?_, fun _ => rfl⟩
    simp only [armsFrom, List.zipIdx_nil, List.map_nil, List.nil_append, List.length_nil,
      Nat.add_zero, exec_singleton_iff]
    rw [exec_test_iff (Store.put_env_self ..), if_pos rfl, exec_singleton_iff, exec_break_iff]
    exact ⟨rfl, rfl⟩
  | s :: rest, i, τ, c', τ', fresh, ran => by
    simp only [List.any_cons, Bool.or_eq_false_iff] at fresh
    have arm := exec_stepArm_iff respects fresh.1 i τ
    rw [armsFrom_cons]
    rcases (exec_cons_iff _ _ _ _ _).mp ran with ⟨τ₂, first, rest'⟩ | ⟨first, abrupt⟩
    · obtain ⟨j, others, atEnd⟩ := exec_armsFrom_complete rest (i + 1) τ₂ c' τ' fresh.2 rest'
      refine ⟨j, .next ((arm _ _).mpr ⟨_, τ₂, first, .inl ⟨rfl, rfl, rfl⟩⟩) others,
        fun normal => ?_⟩
      rw [atEnd normal, List.length_cons]
      omega
    · -- a statement that ends abruptly leaves the state at its own index
      rw [breakOf_of_ne abrupt]
      exact ⟨i, .stop ((arm _ _).mpr ⟨c', τ', first, .inr ⟨abrupt, rfl, rfl⟩⟩) abrupt,
        fun normal => absurd normal abrupt⟩

/-- A run of the loop over the arms is one pass that runs the body: a pass never ends normally or
by `continue`, since the statements end normally, by returning or by raising. -/
theorem exec_machine_sound {body : List Stmt} (fresh : body.any (Stmt.mentions stateVariable) = false)
    (ends : ∀ s ∈ body, ∀ σ c σ', Exec atom (.stmt s) σ c σ' → c.Ends) (τ : Store α ε)
    (c : Completion α) (σ' : Store α ε)
    (run : Exec atom (.loop (armsFrom body 0)) (τ.put stateVariable (some (.int (0 : Nat)))) c σ') :
    ∃ τ', Exec atom (.body body) τ c τ' ∧
      ∃ j : Int, σ' = τ'.put stateVariable (some (.int j)) ∧ (c = .normal → j = body.length) := by
  obtain ⟨τ', ran, j, rfl, atEnd⟩ := exec_loop_sound_of_passes ends
    (fun c σ' pass => exec_armsFrom_sound respects body 0 τ c σ' fresh pass) run
  exact ⟨τ', ran, j, rfl, fun normal => by simpa using atEnd normal⟩

/-- Conversely, the loop over the arms runs every run of the body, in one pass. -/
theorem exec_machine_complete {body : List Stmt}
    (fresh : body.any (Stmt.mentions stateVariable) = false)
    (ends : ∀ s ∈ body, ∀ σ c σ', Exec atom (.stmt s) σ c σ' → c.Ends) (τ : Store α ε)
    (c : Completion α) (τ' : Store α ε) (ran : Exec atom (.body body) τ c τ') :
    ∃ j : Int, Exec atom (.loop (armsFrom body 0)) (τ.put stateVariable (some (.int (0 : Nat))))
        c (τ'.put stateVariable (some (.int j))) ∧ (c = .normal → j = body.length) := by
  obtain ⟨j, loop, atEnd⟩ := exec_loop_complete_of_passes ends
    (fun c' τ' ran' => exec_armsFrom_complete respects body 0 τ c' τ' fresh ran') ran
  exact ⟨j, loop, fun normal => by simpa using atEnd normal⟩

end Machine

/-- A flattened body runs like the body: for atoms that respect scoping, and a non-empty body
that does not name the state variable and whose statements end normally, by returning or by
raising, every run of the flattened body is a run of the body with the same end, in the same
store up to the state variable, and every run of the body is one of the flattened body. After a
normal end the state is the number of statements. -/
theorem flattenBody_runs_like_body (respects : RespectsScope atom stateVariable)
    {body : List Stmt} (nonempty : body ≠ [])
    (fresh : ∀ s ∈ body, s.mentions stateVariable = false)
    (ends : ∀ s ∈ body, ∀ σ c σ', Exec atom (.stmt s) σ c σ' → c.Ends) (σ : Store α ε) :
    (∀ c σ', Exec atom (.body (flattenBody body)) σ c σ' →
      ∃ τ, Exec atom (.body body) σ c τ ∧
        ∃ j : Int, σ' = τ.put stateVariable (some (.int j)) ∧ (c = .normal → j = body.length)) ∧
    (∀ c τ, Exec atom (.body body) σ c τ →
      ∃ j : Int, Exec atom (.body (flattenBody body)) σ c (τ.put stateVariable (some (.int j))) ∧
        (c = .normal → j = body.length)) := by
  have unnamed : body.any (Stmt.mentions stateVariable) = false :=
    List.any_eq_false.mpr fun s mem => by rw [fresh s mem]; exact Bool.false_ne_true
  constructor
  · intro c σ' run
    exact exec_machine_sound respects unnamed ends σ c σ'
      ((exec_flattenBody_iff nonempty σ c σ').mp run)
  · intro c τ ran
    obtain ⟨j, loop, atEnd⟩ := exec_machine_complete respects unnamed ends σ c τ ran
    exact ⟨j, (exec_flattenBody_iff nonempty σ c _).mpr loop, atEnd⟩

/-- Under tracing, the flattened `pass; y` runs both statements and ends with the state at `2`. -/
theorem flattenBody_traces_pass_y :
    ∃ j : Int, Exec traced (.body (flattenBody [.pass, .expr (.name "y")]))
        (⟨fun _ => none, []⟩ : Store Unit Stmt) .normal
        ((⟨fun _ => none, [.pass, .expr (.name "y")]⟩ : Store Unit Stmt).put stateVariable
          (some (.int j))) ∧ j = 2 := by
  have ends : ∀ s ∈ [Stmt.pass, .expr (.name "y")], ∀ (σ : Store Unit Stmt) c σ',
      Exec traced (.stmt s) σ c σ' → c.Ends := by
    intro s mem σ c σ' run
    simp only [List.mem_cons, List.not_mem_nil, or_false] at mem
    rcases mem with rfl | rfl <;> cases run with
    | atom _ ran => rw [ran.1]; trivial
  have ran : Exec traced (.body [.pass, .expr (.name "y")]) (⟨fun _ => none, []⟩ : Store Unit Stmt)
      .normal ⟨fun _ => none, [.pass, .expr (.name "y")]⟩ :=
    .next (.atom rfl ⟨rfl, rfl⟩) (.next (.atom rfl ⟨rfl, rfl⟩) (.nil _))
  obtain ⟨j, flat, atEnd⟩ := (flattenBody_runs_like_body (traced_respectsScope stateVariable)
    (List.cons_ne_nil _ _) (by decide) ends _).2 _ _ ran
  exact ⟨j, flat, atEnd rfl⟩

end Obfuscation.Semantics
