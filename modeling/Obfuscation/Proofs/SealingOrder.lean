import Obfuscation.Proofs.Traversal
import Obfuscation.Proofs.Run
import Obfuscation.Pass.Seal
/-!
Sealing in the order of the walk: the result of sealing is the module with every leaf replaced by
`sealedLeaf`, the `i`-th sealed string with the `i`-th vector drawn, and the fixed `decrypt_string`
definition put first exactly when the module defines none at its top level.
-/

namespace Obfuscation

namespace Entropy

def afterVectors (e : Entropy) (k : Nat) : Entropy := { e with vectorDraws := e.vectorDraws + k }

def vectorAt (e : Entropy) (i : Nat) : Except Fault (List UInt8) := (e.afterVectors i).drawVector.1

theorem drawVector_snd (e : Entropy) : e.drawVector.2 = e.afterVectors 1 := by
  unfold drawVector
  split <;> rfl

theorem afterVectors_afterVectors (e : Entropy) (i k : Nat) :
    (e.afterVectors i).afterVectors k = e.afterVectors (i + k) := by
  simp [afterVectors, Nat.add_assoc]

end Entropy

namespace Pass

open Syntax Entropy

section Spec

/-- A text sealed under a key with the vector `iv` as it was drawn: the key is checked, then the
vector, then the text is sealed. -/
def sealedUnder (key : List UInt8) (iv : Except Fault (List UInt8)) (t : Text) :
    Except Fault String := do
  let keys ← Cipher.prepareKey key
  let block ← Cipher.prepareVector (← iv)
  Cipher.sealWith (Cipher.encryptBlock keys) block t

def sealsAt : Leaf → Nat
  | .text t _ => if t.isEmpty then 0 else 1
  | .part t _ => if t.isEmpty then 0 else 1
  | _ => 0

/-- What sealing puts in the place of a leaf, with the vector `iv`: a non-empty string the call
that reveals it, held in a field when it is a part of a formatted string; a name or an empty
string itself; and nothing for an import. -/
def sealedLeaf (key : List UInt8) (iv : Except Fault (List UInt8)) : Leaf → Except Fault (Option Expr)
  | .name x => .ok (some (.name x))
  | .text t u =>
    if t.isEmpty then .ok (some (.constant (.str t u)))
    else (sealedUnder key iv t).map fun s => some (revealCall s (Bytes.toBase64 key))
  | .part t u =>
    if t.isEmpty then .ok (some (.constant (.str t u)))
    else (sealedUnder key iv t).map fun s =>
      some (.formattedValue (revealCall s (Bytes.toBase64 key)) (-1) none)
  | .imports _ => .ok none

/-- What sealing puts in the places of the leaves `L`, the strings sealed with the vectors drawn
from `e` on, `i` of them drawn already. -/
def sealedLeavesFrom (key : List UInt8) (e : Entropy) (i : Nat) :
    List Leaf → Except Fault (List (Option Expr))
  | [] => .ok []
  | ℓ :: L => do
    let r ← sealedLeaf key (e.vectorAt i) ℓ
    let rs ← sealedLeavesFrom key e (i + sealsAt ℓ) L
    pure (r :: rs)

/-- What sealing puts in the places of the leaves `L`, the `i`-th sealed string with the `i`-th
vector drawn from `e`. -/
def sealedLeaves (key : List UInt8) (e : Entropy) (L : List Leaf) : Except Fault (List (Option Expr)) :=
  sealedLeavesFrom key e 0 L

end Spec

section Decryptor

theorem Stmt.fillAll_cons (s : Stmt) (ss : List Stmt) (rs : List (Option Expr)) :
    Stmt.fillAll (s :: ss) rs =
      ((s.walkLeaves refill).run rs).1 :: Stmt.fillAll ss ((s.walkLeaves refill).run rs).2 :=
  rfl

theorem Stmt.definesDecryptor_walkLeaves (s : Stmt) (rs : List (Option Expr)) :
    Stmt.definesDecryptor ((s.walkLeaves refill).run rs).1 = Stmt.definesDecryptor s := by
  cases s with
  | functionDef name args body decorators returns isAsync => cases isAsync <;> rfl
  | _ => rfl

theorem Stmt.any_definesDecryptor_fillAll :
    ∀ (ss : List Stmt) (rs : List (Option Expr)),
      (Stmt.fillAll ss rs).any Stmt.definesDecryptor = ss.any Stmt.definesDecryptor
  | [], _ => rfl
  | s :: ss, rs => by
    rw [Stmt.fillAll_cons, List.any_cons, List.any_cons, Stmt.definesDecryptor_walkLeaves,
      Stmt.any_definesDecryptor_fillAll ss]

theorem Module.ensureDecryptor_fillAll (m : Module) (rs : List (Option Expr)) :
    Module.ensureDecryptor (Stmt.fillAll m rs) =
      if m.any Stmt.definesDecryptor then Stmt.fillAll m rs else decryptorDef :: Stmt.fillAll m rs := by
  rw [Module.ensureDecryptor, Stmt.any_definesDecryptor_fillAll]

end Decryptor

section Run

variable (verbose : Bool) (key : List UInt8)

theorem sealedLeaf_text_cons (iv : Except Fault (List UInt8)) (c : Nat) (cs : Text) (u : Bool) :
    sealedLeaf key iv (.text (c :: cs) u) =
      (sealedUnder key iv (c :: cs)).map fun s => some (revealCall s (Bytes.toBase64 key)) :=
  rfl

theorem sealedLeaf_part_cons (iv : Except Fault (List UInt8)) (c : Nat) (cs : Text) (u : Bool) :
    sealedLeaf key iv (.part (c :: cs) u) = (sealedUnder key iv (c :: cs)).map fun s =>
      some (.formattedValue (revealCall s (Bytes.toBase64 key)) (-1) none) :=
  rfl

theorem sealText_run_sealedUnder (t : Text) (σ : Session) :
    ∃ σ', (Run.sealText key t).run.run σ = (sealedUnder key σ.entropy.drawVector.1 t, σ') ∧
      ∀ s, sealedUnder key σ.entropy.drawVector.1 t = .ok s → σ'.entropy = σ.entropy.afterVectors 1 := by
  have draw := Run.run_drawVector σ
  have checkKey := Run.run_ofExcept (Cipher.prepareKey key) σ
  let σ₁ : Session := { σ with entropy := σ.entropy.drawVector.2 }
  simp only [Run.sealText]
  -- the key is checked first, then the vector is drawn and checked, then the text is sealed
  cases prepared : Cipher.prepareKey key with
  | error f =>
    rw [prepared] at checkKey
    have result : sealedUnder key σ.entropy.drawVector.1 t = .error f := by
      simp only [sealedUnder, prepared]
      rfl
    exact ⟨σ, by rw [result]; exact Run.run_bind_error checkKey _, by simp [result]⟩
  | ok keys =>
    rw [prepared] at checkKey
    rw [Run.run_bind_ok checkKey]
    cases drawn : σ.entropy.drawVector.1 with
    | error f =>
      rw [drawn] at draw
      have result : sealedUnder key (.error f) t = .error f := by
        simp only [sealedUnder, prepared]
        rfl
      exact ⟨σ₁, by rw [result]; exact Run.run_bind_error draw _, by simp [result]⟩
    | ok iv =>
      rw [drawn] at draw
      rw [Run.run_bind_ok draw]
      have checkVector := Run.run_ofExcept (Cipher.prepareVector iv) σ₁
      have opened : sealedUnder key (.ok iv) t =
          (Cipher.prepareVector iv >>= fun block => Cipher.sealWith (Cipher.encryptBlock keys) block t) := by
        simp only [sealedUnder, prepared]
        rfl
      cases checked : Cipher.prepareVector iv with
      | error f =>
        rw [checked] at checkVector
        have result : sealedUnder key (.ok iv) t = .error f := by
          rw [opened, checked]
          rfl
        exact ⟨σ₁, by rw [result]; exact Run.run_bind_error checkVector _, by simp [result]⟩
      | ok block =>
        rw [checked] at checkVector
        have result : sealedUnder key (.ok iv) t = Cipher.sealWith (Cipher.encryptBlock keys) block t := by
          rw [opened, checked]
          rfl
        exact ⟨σ₁, by rw [result, Run.run_bind_ok checkVector, Run.run_ofExcept],
          fun _ _ => drawVector_snd σ.entropy⟩

theorem sealOne_run_sealedUnder (announce : String) (t : Text) (σ : Session) :
    ∃ σ', (sealOne verbose key announce t).run.run σ =
        ((sealedUnder key σ.entropy.drawVector.1 t).map (revealCall · (Bytes.toBase64 key)), σ') ∧
      ∀ s, sealedUnder key σ.entropy.drawVector.1 t = .ok s → σ'.entropy = σ.entropy.afterVectors 1 := by
  obtain ⟨σ₁, run, drawn⟩ := sealText_run_sealedUnder key t σ
  simp only [sealOne]
  cases sealed : sealedUnder key σ.entropy.drawVector.1 t with
  | error f =>
    rw [sealed] at run
    exact ⟨σ₁, Run.run_bind_error run _, by simp⟩
  | ok s =>
    rw [sealed] at run
    rw [Run.run_bind_ok run]
    -- the announcement prints and draws nothing
    cases verbose
    · exact ⟨σ₁, rfl, fun _ _ => drawn s sealed⟩
    · exact ⟨_, rfl, fun _ _ => drawn s sealed⟩

theorem sealLeaf_run (ℓ : Leaf) (σ : Session) :
    ∃ σ', ((sealVisit verbose key).leaf ℓ).run.run σ = (sealedLeaf key σ.entropy.drawVector.1 ℓ, σ') ∧
      ∀ r, sealedLeaf key σ.entropy.drawVector.1 ℓ = .ok r →
        σ'.entropy = σ.entropy.afterVectors (sealsAt ℓ) := by
  cases ℓ with
  | name x => exact ⟨σ, rfl, fun _ _ => by simp [afterVectors, sealsAt]⟩
  | imports s => exact ⟨σ, rfl, fun _ _ => by simp [afterVectors, sealsAt]⟩
  | text t u =>
    cases t with
    | nil => exact ⟨σ, rfl, fun _ _ => by simp [afterVectors, sealsAt]⟩
    | cons c cs =>
      obtain ⟨σ', run, drawn⟩ := sealOne_run_sealedUnder verbose key "Encrypting string: " (c :: cs) σ
      refine ⟨σ', ?_, fun r sealed => ?_⟩
      · show (some <$> sealOne verbose key "Encrypting string: " (c :: cs)).run.run σ = _
        rw [Run.run_map, run, sealedLeaf_text_cons]
        cases sealedUnder key σ.entropy.drawVector.1 (c :: cs) <;> rfl
      · rw [sealedLeaf_text_cons] at sealed
        revert sealed
        cases ok : sealedUnder key σ.entropy.drawVector.1 (c :: cs) with
        | error f => exact fun sealed => nomatch sealed
        | ok s => exact fun _ => drawn s ok
  | part t u =>
    cases t with
    | nil => exact ⟨σ, rfl, fun _ _ => by simp [afterVectors, sealsAt]⟩
    | cons c cs =>
      obtain ⟨σ', run, drawn⟩ :=
        sealOne_run_sealedUnder verbose key "Encrypting string in f-string: " (c :: cs) σ
      refine ⟨σ', ?_, fun r sealed => ?_⟩
      · show (some <$> ((fun call => Expr.formattedValue call (-1) none) <$>
          sealOne verbose key "Encrypting string in f-string: " (c :: cs))).run.run σ = _
        rw [Run.run_map, Run.run_map, run, sealedLeaf_part_cons]
        cases sealedUnder key σ.entropy.drawVector.1 (c :: cs) <;> rfl
      · rw [sealedLeaf_part_cons] at sealed
        revert sealed
        cases ok : sealedUnder key σ.entropy.drawVector.1 (c :: cs) with
        | error f => exact fun sealed => nomatch sealed
        | ok s => exact fun _ => drawn s ok

theorem sealLeaves_run (e : Entropy) :
    ∀ (L : List Leaf) (i : Nat) (σ : Session), σ.entropy = e.afterVectors i →
      ((L.mapM (sealVisit verbose key).leaf).run.run σ).1 = sealedLeavesFrom key e i L
  | [], _, _, _ => rfl
  | ℓ :: L, i, σ, drawn => by
    obtain ⟨σ₁, first, advanced⟩ := sealLeaf_run verbose key ℓ σ
    have vector : σ.entropy.drawVector.1 = e.vectorAt i := by rw [drawn]; rfl
    rw [vector] at first advanced
    rw [List.mapM_cons, sealedLeavesFrom]
    cases leaf : sealedLeaf key (e.vectorAt i) ℓ with
    | error f =>
      rw [leaf] at first
      rw [Run.run_bind_error first]
      rfl
    | ok r =>
      rw [leaf] at first
      have rest := sealLeaves_run e L (i + sealsAt ℓ) σ₁
        (by rw [advanced r leaf, drawn, afterVectors_afterVectors])
      rw [Run.run_bind_ok first, ← map_eq_pure_bind, Run.run_map, rest]
      cases sealedLeavesFrom key e (i + sealsAt ℓ) L <;> rfl

end Run

theorem Module.sealStrings_run_of_key (verbose : Bool) (m : Module) (σ : Session) {key : List UInt8}
    (read : σ.entropy.key = .ok key) :
    ((Module.sealStrings verbose m).run.run σ).1 =
      (fun rs => Module.ensureDecryptor (Stmt.fillAll m rs)) <$>
        sealedLeaves key σ.entropy (Stmt.leavesAll m) := by
  have readKey := Run.run_key σ
  rw [read] at readKey
  simp only [Module.sealStrings]
  rw [Run.run_bind_ok readKey, ← map_eq_pure_bind, Stmt.walkLeavesAll_eq_fillAll, Functor.map_map,
    Run.run_map]
  dsimp only
  rw [sealLeaves_run verbose key σ.entropy _ 0 σ (by simp [afterVectors]), ← sealedLeaves]
  rfl

/-- Sealing a module seals every non-empty string constant in the order of the walk, the `i`-th
with the `i`-th vector drawn, and puts the call that reveals it in its place (in a field, for a
part of a formatted string); names, empty strings and every other node stay, and the calls put
in are not walked again. The fixed `decrypt_string` definition goes first exactly when the
module defines none at its top level. -/
theorem Module.sealStrings_seals_in_order (verbose : Bool) (m : Module) (σ : Session) :
    ((Module.sealStrings verbose m).run.run σ).1 =
      (do
        let key ← σ.entropy.key
        let rs ← sealedLeaves key σ.entropy (Stmt.leavesAll m)
        pure (if m.any Stmt.definesDecryptor then Stmt.fillAll m rs
          else decryptorDef :: Stmt.fillAll m rs)) := by
  cases keyRead : σ.entropy.key with
  | error f =>
    have readKey := Run.run_key σ
    rw [keyRead] at readKey
    simp only [Module.sealStrings]
    rw [Run.run_bind_error readKey]
    rfl
  | ok key =>
    change _ = sealedLeaves key σ.entropy (Stmt.leavesAll m) >>= fun rs =>
      pure (if m.any Stmt.definesDecryptor then Stmt.fillAll m rs else decryptorDef :: Stmt.fillAll m rs)
    rw [Module.sealStrings_run_of_key verbose m σ keyRead]
    cases sealedLeaves key σ.entropy (Stmt.leavesAll m) with
    | error f => rfl
    | ok rs =>
      show Except.ok (Module.ensureDecryptor (Stmt.fillAll m rs)) = _
      rw [Module.ensureDecryptor_fillAll]
      rfl

end Pass

end Obfuscation
