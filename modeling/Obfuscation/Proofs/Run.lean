import Obfuscation.Session
/-!
Running computations over a session: a bind whose first step succeeds goes on from the session
it leaves, and the primitive steps (reading and replacing the session, lifting a result, drawing
a vector) have their effect on the session stated once here.
-/

namespace Obfuscation.Run

theorem run_bind_ok {α β : Type} {x : Run α} {σ σ' : Session} {a : α}
    (h : x.run.run σ = (.ok a, σ')) (f : α → Run β) :
    (x >>= f).run.run σ = (f a).run.run σ' := by
  simp only [ExceptT.run_bind, StateT.run_bind, h]
  rfl

theorem run_bind_error {α β : Type} {x : Run α} {σ σ' : Session} {f : Fault}
    (h : x.run.run σ = (.error f, σ')) (k : α → Run β) :
    (x >>= k).run.run σ = (.error f, σ') := by
  simp only [ExceptT.run_bind, StateT.run_bind, h]
  rfl

theorem run_map_ok {α β : Type} {x : Run α} {σ σ' : Session} {a : α}
    (h : x.run.run σ = (.ok a, σ')) (f : α → β) : (f <$> x).run.run σ = (.ok (f a), σ') := by
  rw [map_eq_pure_bind, run_bind_ok h]
  rfl

theorem run_map {α β : Type} (f : α → β) (x : Run α) (σ : Session) :
    (f <$> x).run.run σ = ((x.run.run σ).1.map f, (x.run.run σ).2) := by
  simp only [ExceptT.run_map, StateT.run_map]
  rfl

theorem run_get (σ : Session) : (get : Run Session).run.run σ = (.ok σ, σ) := rfl

theorem run_set (σ σ' : Session) : (set σ' : Run PUnit).run.run σ = (.ok ⟨⟩, σ') := rfl

theorem run_ofExcept {α : Type} (r : Except Fault α) (σ : Session) :
    (Run.ofExcept r).run.run σ = (r, σ) := by
  cases r <;> rfl

theorem run_key (σ : Session) : Run.key.run.run σ = (σ.entropy.key, σ) := by
  simp only [Run.key]
  rw [run_bind_ok (run_get σ), run_ofExcept]

theorem run_drawVector (σ : Session) :
    Run.drawVector.run.run σ =
      (σ.entropy.drawVector.1, { σ with entropy := σ.entropy.drawVector.2 }) := by
  simp only [Run.drawVector]
  rw [run_bind_ok (run_get σ), run_bind_ok (run_set _ _), run_ofExcept]

theorem run_drawBetween (lo hi : Int) (σ : Session) :
    (Run.drawBetween lo hi).run.run σ =
      (.ok (σ.entropy.drawBetween lo hi).1, { σ with entropy := (σ.entropy.drawBetween lo hi).2 }) :=
  rfl

end Obfuscation.Run
