import Mathlib.Data.List.Forall2
import Obfuscation.Proofs.Run
import Obfuscation.Pass.Rename
/-!
What a computation can return. A pass runs in some monad (a session run, a renaming over a
session run, or no effect at all); a fact about every value that a pass can give back is stated
through `Outcomes.returns`, which holds of `pure a` only at `a` and of a bind only through a value
of its first step. Walks over the syntax are proved once for any such monad.
-/

namespace Obfuscation

/-- The values that computations in `m` can return, closed under `pure` and `bind`. -/
structure Outcomes (m : Type → Type) [Monad m] where
  returns : {α : Type} → m α → α → Prop
  pure_returns : ∀ {α : Type} {a b : α}, returns (pure a) b → b = a
  bind_returns : ∀ {α β : Type} {x : m α} {f : α → m β} {b : β},
    returns (x >>= f) b → ∃ a, returns x a ∧ returns (f a) b

namespace Outcomes

variable {m : Type → Type} [Monad m] (O : Outcomes m)

theorem map_returns [LawfulMonad m] {α β : Type} {x : m α} {f : α → β} {b : β} (h : O.returns (f <$> x) b) :
    ∃ a, O.returns x a ∧ b = f a := by
  rw [map_eq_pure_bind] at h
  obtain ⟨a, first, rest⟩ := O.bind_returns h
  exact ⟨a, first, O.pure_returns rest⟩

theorem forall₂_of_mapM [LawfulMonad m] {α β : Type} {f : α → m β} :
    ∀ (L : List α) (rs : List β), O.returns (L.mapM f) rs →
      List.Forall₂ (fun a b => O.returns (f a) b) L rs
  | [], rs, returned => by
    rw [List.mapM_nil] at returned
    cases O.pure_returns returned
    exact .nil
  | a :: L, rs, returned => by
    rw [List.mapM_cons] at returned
    obtain ⟨b, first, returned⟩ := O.bind_returns returned
    obtain ⟨bs, rest, returned⟩ := O.bind_returns returned
    cases O.pure_returns returned
    exact .cons first (forall₂_of_mapM L bs rest)

theorem returns_announced {α : Type} {c : Prop} [Decidable c] {say : m Unit} {a b : α}
    (h : O.returns (if c then say >>= fun _ => pure a else pure a) b) : b = a := by
  split at h
  · obtain ⟨_, -, h⟩ := O.bind_returns h
    exact O.pure_returns h
  · exact O.pure_returns h

end Outcomes

namespace Run

/-- A value that some run of `x` from some session ends with. -/
def Returns {α : Type} (x : Run α) (a : α) : Prop := ∃ σ σ', x.run.run σ = (.ok a, σ')

theorem returns_of_run {α : Type} {x : Run α} {σ σ' : Session} {a : α}
    (h : x.run.run σ = (.ok a, σ')) : Returns x a := ⟨σ, σ', h⟩

theorem returns_bind {α β : Type} {x : Run α} {f : α → Run β} {b : β}
    (h : Returns (x >>= f) b) : ∃ a, Returns x a ∧ Returns (f a) b := by
  obtain ⟨σ, σ', run⟩ := h
  rcases first : x.run.run σ with ⟨result, σ₁⟩
  cases result with
  | error e =>
    have failed : (x >>= f).run.run σ = (.error e, σ₁) := by
      simp only [ExceptT.run_bind, StateT.run_bind, first]
      rfl
    rw [failed] at run
    cases run
  | ok a =>
    rw [run_bind_ok first] at run
    exact ⟨a, ⟨σ, σ₁, first⟩, ⟨σ₁, σ', run⟩⟩

def outcomes : Outcomes Run where
  returns := Returns
  pure_returns := by
    rintro α a b ⟨σ, σ', run⟩
    cases run
    rfl
  bind_returns := returns_bind

theorem returns_ofExcept {α : Type} {r : Except Fault α} {a : α}
    (h : Returns (Run.ofExcept r) a) : r = .ok a := by
  obtain ⟨σ, σ', run⟩ := h
  rw [run_ofExcept] at run
  cases run
  rfl

end Run

namespace Pass

def renamingOutcomes : Outcomes (StateT Renaming Run) where
  returns x a := ∃ r r', Run.Returns (x.run r) (a, r')
  pure_returns := by
    rintro α a b ⟨r, r', returned⟩
    have same := Run.outcomes.pure_returns returned
    cases same
    rfl
  bind_returns := by
    rintro α β x f b ⟨r, r', returned⟩
    rw [StateT.run_bind] at returned
    obtain ⟨⟨a, r₁⟩, first, rest⟩ := Run.returns_bind returned
    exact ⟨a, ⟨r, r₁, first⟩, ⟨r₁, r', rest⟩⟩

end Pass

def idOutcomes : Outcomes Id where
  returns x a := x = a
  pure_returns h := h.symm
  bind_returns {_ _ x _ _} h := ⟨x, rfl, h⟩

end Obfuscation
