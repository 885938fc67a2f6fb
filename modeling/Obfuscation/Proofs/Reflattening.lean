import Obfuscation.Proofs.Flattening
import Obfuscation.Proofs.DefinitionEdits
import Obfuscation.Proofs.PassRules
/-!
Flattening a flattened body again. Both machines drive the same state variable, so the inner loop
starts at `1` and skips the first statement. Main statement (`Module.flatten_twice_runs_like_tail`):
flattening twice edits only the outermost definitions, whose bodies then run like the body without
its first statement.
-/

namespace Obfuscation.Semantics

open Syntax Pass

variable {α ε : Type} {atom : Stmt → Store α ε → Completion α → Store α ε → Prop}

section Machines

theorem exec_stepArm_of_ne {s : Stmt} {i : Nat} {j : Int} {σ : Store α ε}
    (state : σ.env stateVariable = some (.int j)) (other : j ≠ i) (c : Completion α)
    (σ' : Store α ε) :
    Exec atom (.stmt (stepArm s i)) σ c σ' ↔ c = .normal ∧ σ' = σ := by
  rw [stepArm, exec_test_iff state, if_neg other, exec_nil_iff]

theorem exec_armsFrom_late (s : Stmt) (rest : List Stmt) (τ : Store α ε) (c : Completion α)
    (σ' : Store α ε) :
    Exec atom (.body (armsFrom (s :: rest) 0)) (τ.put stateVariable (some (.int (1 : Nat)))) c σ' ↔
      Exec atom (.body (armsFrom rest 1)) (τ.put stateVariable (some (.int (1 : Nat)))) c σ' := by
  rw [armsFrom_cons, Nat.zero_add]
  exact exec_cons_of_ends_in (exec_stepArm_of_ne (Store.put_env_self τ stateVariable _)
    (by decide)) _ c σ'

theorem exec_resetArm_iff (τ : Store α ε) (c : Completion α) (σ' : Store α ε) :
    Exec atom (.stmt (stepArm (setState 0) 0)) (τ.put stateVariable (some (.int (0 : Nat)))) c σ' ↔
      c = .normal ∧ σ' = τ.put stateVariable (some (.int (1 : Nat))) := by
  rw [stepArm, exec_test_iff (Store.put_env_self ..), if_pos rfl,
    exec_cons_of_ends_in (exec_setState_iff 0 _), exec_singleton_iff, exec_setState_iff,
    Store.put_put, Store.put_put]

theorem armsFrom_pair (a b : Stmt) :
    armsFrom [a, b] 0 = [stepArm a 0, stepArm b 1, .ifStmt (stateIs 2) [.breakStmt] []] := rfl

variable (respects : RespectsScope atom stateVariable) {s : Stmt} {rest : List Stmt}
  (fresh : rest.any (Stmt.mentions stateVariable) = false)
  (ends : ∀ t ∈ rest, ∀ σ c σ', Exec atom (.stmt t) σ c σ' → c.Ends)
include respects fresh ends

theorem exec_lateMachine_sound (τ : Store α ε) {c : Completion α} {σ' : Store α ε}
    (run : Exec atom (.loop (armsFrom (s :: rest) 0))
      (τ.put stateVariable (some (.int (1 : Nat)))) c σ') :
    ∃ τ', Exec atom (.body rest) τ c τ' ∧
      ∃ j : Int, σ' = τ'.put stateVariable (some (.int j)) ∧ (c = .normal → j = 1 + rest.length) :=
  exec_loop_sound_of_passes ends (fun c σ' pass => exec_armsFrom_sound respects rest 1 τ c σ' fresh
    ((exec_armsFrom_late s rest τ c σ').mp pass)) run

theorem exec_lateMachine_complete (τ : Store α ε) {c : Completion α} {τ' : Store α ε}
    (ran : Exec atom (.body rest) τ c τ') :
    ∃ j : Int, Exec atom (.loop (armsFrom (s :: rest) 0))
        (τ.put stateVariable (some (.int (1 : Nat)))) c (τ'.put stateVariable (some (.int j))) ∧
      (c = .normal → j = 1 + rest.length) :=
  exec_loop_complete_of_passes ends (fun c' τ' ran' => by
    obtain ⟨j, pass, atEnd⟩ := exec_armsFrom_complete respects rest 1 τ c' τ' fresh ran'
    exact ⟨j, (exec_armsFrom_late s rest τ _ _).mpr pass, atEnd⟩) ran

theorem exec_innerArm_sound (τ : Store α ε) {c : Completion α} {σ' : Store α ε}
    (run : Exec atom (.stmt (stepArm (.whileLoop (.constant .true) (armsFrom (s :: rest) 0) []) 1))
      (τ.put stateVariable (some (.int (1 : Nat)))) c σ') :
    ∃ τ', Exec atom (.body rest) τ c τ' ∧
      ((c = .normal ∧ σ' = τ'.put stateVariable (some (.int (2 : Nat)))) ∨
        (c ≠ .normal ∧ ∃ j : Int, σ' = τ'.put stateVariable (some (.int j)))) := by
  rw [stepArm, exec_test_iff (Store.put_env_self ..), if_pos rfl, exec_cons_iff] at run
  rcases run with ⟨σ₁, loop, last⟩ | ⟨loop, abrupt⟩
  · -- the loop ended normally, and the state is set to `2`
    obtain ⟨τ', ran, j, rfl, -⟩ :=
      exec_lateMachine_sound respects fresh ends τ ((exec_whileTrue_iff _ _ _ _ _).mp loop)
    rw [exec_singleton_iff, exec_setState_iff, Store.put_put] at last
    obtain ⟨rfl, rfl⟩ := last
    exact ⟨τ', ran, .inl ⟨rfl, rfl⟩⟩
  · obtain ⟨τ', ran, j, rfl, -⟩ :=
      exec_lateMachine_sound respects fresh ends τ ((exec_whileTrue_iff _ _ _ _ _).mp loop)
    exact ⟨τ', ran, .inr ⟨abrupt, j, rfl⟩⟩

theorem exec_innerArm_complete (τ : Store α ε) {c : Completion α} {τ' : Store α ε}
    (ran : Exec atom (.body rest) τ c τ') :
    ∃ j : Int, Exec atom
        (.stmt (stepArm (.whileLoop (.constant .true) (armsFrom (s :: rest) 0) []) 1))
        (τ.put stateVariable (some (.int (1 : Nat)))) c (τ'.put stateVariable (some (.int j))) ∧
      (c = .normal → j = (2 : Nat)) := by
  obtain ⟨j, loop, -⟩ := exec_lateMachine_complete (s := s) respects fresh ends τ ran
  by_cases normal : c = .normal
  · subst normal
    refine ⟨(2 : Nat), ?_, fun _ => rfl⟩
    rw [stepArm, exec_test_iff (Store.put_env_self ..), if_pos rfl]
    refine .next (.whileTrue loop) ?_
    rw [exec_singleton_iff, exec_setState_iff, Store.put_put]
    exact ⟨rfl, rfl⟩
  · refine ⟨j, ?_, fun others => absurd others normal⟩
    rw [stepArm, exec_test_iff (Store.put_env_self ..), if_pos rfl]
    exact .stop (.whileTrue loop) normal

theorem exec_outerPass_sound (τ : Store α ε) {c : Completion α} {σ' : Store α ε}
    (pass : Exec atom (.body (armsFrom (flattenBody (s :: rest)) 0))
      (τ.put stateVariable (some (.int (0 : Nat)))) c σ') :
    ∃ c' τ', Exec atom (.body rest) τ c' τ' ∧ c = breakOf c' ∧
      ∃ j : Int, σ' = τ'.put stateVariable (some (.int j)) ∧ (c' = .normal → j = (2 : Nat)) := by
  rw [flattenBody_eq (List.cons_ne_nil s rest), armsFrom_pair, exec_cons_iff] at pass
  rcases pass with ⟨σ₁, reset, others⟩ | ⟨reset, abrupt⟩
  · obtain ⟨-, rfl⟩ := (exec_resetArm_iff τ _ _).mp reset
    rcases (exec_cons_iff _ _ _ _ _).mp others with ⟨σ₂, inner, last⟩ | ⟨inner, abrupt⟩
    · obtain ⟨τ', ran, ⟨-, rfl⟩ | ⟨abrupt, -⟩⟩ := exec_innerArm_sound respects fresh ends τ inner
      · -- the statements ended normally, and the last arm breaks out
        rw [exec_singleton_iff, exec_test_iff (Store.put_env_self ..), if_pos rfl,
          exec_singleton_iff, exec_break_iff] at last
        obtain ⟨rfl, rfl⟩ := last
        exact ⟨.normal, τ', ran, rfl, (2 : Nat), rfl, fun _ => rfl⟩
      · exact absurd rfl abrupt
    · -- a statement returned or raised inside the first machine
      obtain ⟨τ', ran, ⟨normal, -⟩ | ⟨-, j, rfl⟩⟩ := exec_innerArm_sound respects fresh ends τ inner
      · exact absurd normal abrupt
      · exact ⟨c, τ', ran, (breakOf_of_ne abrupt).symm, j, rfl, fun normal => absurd normal abrupt⟩
  · exact absurd ((exec_resetArm_iff τ _ _).mp reset).1 abrupt

theorem exec_outerPass_complete (τ : Store α ε) {c : Completion α} {τ' : Store α ε}
    (ran : Exec atom (.body rest) τ c τ') :
    ∃ j : Int, Exec atom (.body (armsFrom (flattenBody (s :: rest)) 0))
        (τ.put stateVariable (some (.int (0 : Nat)))) (breakOf c)
        (τ'.put stateVariable (some (.int j))) ∧ (c = .normal → j = (2 : Nat)) := by
  obtain ⟨j, inner, atEnd⟩ := exec_innerArm_complete (s := s) respects fresh ends τ ran
  have reset : Exec atom (.stmt (stepArm (setState 0) 0))
      (τ.put stateVariable (some (.int (0 : Nat)))) .normal
      (τ.put stateVariable (some (.int (1 : Nat)))) :=
    (exec_resetArm_iff τ .normal _).mpr ⟨rfl, rfl⟩
  rw [flattenBody_eq (List.cons_ne_nil s rest), armsFrom_pair]
  by_cases normal : c = .normal
  · subst normal
    obtain rfl := atEnd rfl
    refine ⟨(2 : Nat), .next reset (.next inner ?_), fun _ => rfl⟩
    rw [exec_singleton_iff, exec_test_iff (Store.put_env_self ..), if_pos rfl, exec_singleton_iff,
      exec_break_iff]
    exact ⟨rfl, rfl⟩
  · rw [breakOf_of_ne normal]
    exact ⟨j, .next reset (.stop inner normal), fun others => absurd others normal⟩

/-- A body flattened twice runs like the body without its first statement, with the state at `2`
after a normal end. -/
theorem exec_flattenBody_twice_sound (σ : Store α ε) {c : Completion α} {σ' : Store α ε}
    (run : Exec atom (.body (flattenBody (flattenBody (s :: rest)))) σ c σ') :
    ∃ τ, Exec atom (.body rest) σ c τ ∧
      ∃ j : Int, σ' = τ.put stateVariable (some (.int j)) ∧ (c = .normal → j = (2 : Nat)) := by
  rw [exec_flattenBody_iff (flattenBody_ne_nil (List.cons_ne_nil s rest))] at run
  exact exec_loop_sound_of_passes ends
    (fun _ _ pass => exec_outerPass_sound respects fresh ends σ pass) run

theorem exec_flattenBody_twice_complete (σ : Store α ε) {c : Completion α} {τ : Store α ε}
    (ran : Exec atom (.body rest) σ c τ) :
    ∃ j : Int, Exec atom (.body (flattenBody (flattenBody (s :: rest)))) σ c
        (τ.put stateVariable (some (.int j))) ∧ (c = .normal → j = (2 : Nat)) := by
  obtain ⟨j, loop, atEnd⟩ := exec_loop_complete_of_passes ends
    (fun _ _ ran' => exec_outerPass_complete (s := s) respects fresh ends σ ran') ran
  exact ⟨j, (exec_flattenBody_iff (flattenBody_ne_nil (List.cons_ne_nil s rest)) _ _ _).mpr loop,
    atEnd⟩

end Machines

/-- Flattening a module twice flattens twice the body of each non-empty definition that no
definition encloses, and edits nothing else. Such a body, when it does not name the state variable
and its statements end normally, by returning or by raising, runs like the body without its first
statement, for every semantics of atoms that respects scoping: every run of it is a run of the
other statements with the same end, in the same store up to the state variable, which is `2`
after a normal end, and every run of the other statements is one of it. -/
theorem Module.flatten_twice_runs_like_tail (verbose : Bool) (m : Module) (session : Session)
    (respects : RespectsScope atom stateVariable) :
    (∃ session', (Module.flatten verbose m >>= Module.flatten verbose).run.run session =
        (.ok (Stmt.editDefs m ((Stmt.sitesEnclosedAll m).map reflatteningEdit)), session')) ∧
    ∀ d ∈ flattened (Stmt.sitesEnclosedAll m),
      (∀ s ∈ d.body, s.mentions stateVariable = false) →
      (∀ s ∈ d.body, ∀ σ c σ', Exec atom (.stmt s) σ c σ' → c.Ends) → ∀ σ : Store α ε,
      (∀ c σ', Exec atom (.body (flattenBody (flattenBody d.body))) σ c σ' →
        ∃ τ, Exec atom (.body d.body.tail) σ c τ ∧
          ∃ j : Int, σ' = τ.put stateVariable (some (.int j)) ∧ (c = .normal → j = 2)) ∧
      (∀ c τ, Exec atom (.body d.body.tail) σ c τ →
        ∃ j : Int, Exec atom (.body (flattenBody (flattenBody d.body))) σ c
          (τ.put stateVariable (some (.int j))) ∧ (c = .normal → j = 2)) := by
  refine ⟨Module.flatten_flatten_run verbose m session, fun d outermost fresh ends σ => ?_⟩
  obtain ⟨name, body⟩ := d
  cases body with
  | nil => exact absurd rfl (ne_nil_of_mem_flattened outermost)
  | cons s rest =>
    -- the statements after the first are the ones the first machine still runs
    have freshRest : rest.any (Stmt.mentions stateVariable) = false :=
      List.any_eq_false.mpr fun t mem => by
        rw [fresh t (List.mem_cons_of_mem s mem)]
        exact Bool.false_ne_true
    have endsRest := fun t mem => ends t (List.mem_cons_of_mem s mem)
    exact ⟨fun c σ' run => exec_flattenBody_twice_sound respects freshRest endsRest σ run,
      fun c τ ran => exec_flattenBody_twice_complete respects freshRest endsRest σ ran⟩

/-- Under tracing, `def f(): pass; y` flattened twice runs `y` alone and ends with the state at
`2`. -/
theorem flatten_twice_traces_y :
    ∃ j : Int, Exec traced (.body (flattenBody (flattenBody [.pass, .expr (.name "y")])))
        (⟨fun _ => none, []⟩ : Store Unit Stmt) .normal
        ((⟨fun _ => none, [.expr (.name "y")]⟩ : Store Unit Stmt).put stateVariable
          (some (.int j))) ∧ j = 2 := by
  have ends : ∀ s ∈ [Stmt.pass, .expr (.name "y")], ∀ (σ : Store Unit Stmt) c σ',
      Exec traced (.stmt s) σ c σ' → c.Ends := by
    intro s mem σ c σ' run
    simp only [List.mem_cons, List.not_mem_nil, or_false] at mem
    rcases mem with rfl | rfl <;> cases run with
    | atom _ ran => rw [ran.1]; trivial
  have ran : Exec traced (.body [.expr (.name "y")]) (⟨fun _ => none, []⟩ : Store Unit Stmt)
      .normal ⟨fun _ => none, [.expr (.name "y")]⟩ :=
    .next (.atom rfl ⟨rfl, rfl⟩) (.nil _)
  obtain ⟨-, twice⟩ := Module.flatten_twice_runs_like_tail false
    [.functionDef "f" .empty [.pass, .expr (.name "y")] [] none false] {}
    (traced_respectsScope stateVariable)
  obtain ⟨j, run, atEnd⟩ := (twice ⟨"f", [.pass, .expr (.name "y")]⟩ (List.mem_singleton_self _)
    (by decide) ends _).2 _ _ ran
  exact ⟨j, run, atEnd rfl⟩

/-- Flattening `def f(): y` twice gives a body that never runs `y`: under tracing, the body writes
`y`, and every run of the body flattened twice writes nothing. -/
theorem flatten_twice_drops_first_statement :
    ((Module.flatten false [.functionDef "f" .empty [.expr (.name "y")] [] none false] >>=
        Module.flatten false).run.run {}).1 =
      .ok [.functionDef "f" .empty (flattenBody (flattenBody [.expr (.name "y")])) [] none false] ∧
    (∀ s ∈ [Stmt.expr (.name "y")], s.mentions stateVariable = false) ∧
    (∀ (σ : Store Unit Stmt) c σ', Exec traced (.stmt (.expr (.name "y"))) σ c σ' → c.Ends) ∧
    Exec traced (.body [.expr (.name "y")]) (⟨fun _ => none, []⟩ : Store Unit Stmt) .normal
      ⟨fun _ => none, [.expr (.name "y")]⟩ ∧
    ∀ c σ', Exec traced (.body (flattenBody (flattenBody [.expr (.name "y")])))
      (⟨fun _ => none, []⟩ : Store Unit Stmt) c σ' → σ'.out = [] := by
  refine ⟨rfl, by decide, fun σ c σ' run => ?_, .next (.atom rfl ⟨rfl, rfl⟩) (.nil _),
    fun c σ' run => ?_⟩
  · cases run with
    | atom _ ran => rw [ran.1]; trivial
  · obtain ⟨τ, ran, j, rfl, -⟩ := exec_flattenBody_twice_sound (traced_respectsScope stateVariable)
      rfl (fun _ mem => by simp at mem) _ run
    obtain ⟨-, rfl⟩ := (exec_nil_iff _ _ _).mp ran
    rfl

end Obfuscation.Semantics
