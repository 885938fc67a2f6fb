import Obfuscation.Proofs.Refill
import Obfuscation.Proofs.SealingOrder
import Obfuscation.Proofs.Sealing
import Obfuscation.Proofs.Effects
import Obfuscation.Proofs.Passes
import Obfuscation.Proofs.PassRules
import Obfuscation.Proofs.PassPrinting
/-!
When the heavy level prints. Of the heavy passes only sealing can fail, exactly at a string
constant holding a surrogate. Main statement (`heavy_prints_iff_encodable`): the heavy level
followed by the printer gives code exactly on the modules none of whose strings holds a surrogate.
-/

namespace Obfuscation

open Syntax Pass Text Cipher

namespace Entropy

/-- An entropy source that seals: its key reads as an AES key, and every vector it draws is a
block long. -/
def Seals (e : Entropy) : Prop :=
  (∃ key, e.key = .ok key ∧ (key.length = 16 ∨ key.length = 24 ∨ key.length = 32)) ∧
    ∀ i, ∃ iv, e.vectorAt i = .ok iv ∧ iv.length = 16

/-- Two states of an entropy source that read the same key and draw the same vectors. -/
def SealsAlike (e e' : Entropy) : Prop :=
  e'.keyHex = e.keyHex ∧ e'.vectors = e.vectors ∧ e'.vectorDraws = e.vectorDraws

theorem SealsAlike.refl (e : Entropy) : SealsAlike e e := ⟨rfl, rfl, rfl⟩

theorem SealsAlike.trans {e₁ e₂ e₃ : Entropy} (first : SealsAlike e₁ e₂)
    (second : SealsAlike e₂ e₃) : SealsAlike e₁ e₃ :=
  ⟨second.1.trans first.1, second.2.1.trans first.2.1, second.2.2.trans first.2.2⟩

theorem SealsAlike.key {e e' : Entropy} (alike : SealsAlike e e') : e'.key = e.key := by
  rw [Entropy.key, Entropy.key, alike.1]

theorem SealsAlike.vectorAt {e e' : Entropy} (alike : SealsAlike e e') (i : Nat) :
    e'.vectorAt i = e.vectorAt i := by
  obtain ⟨-, vectors, draws⟩ := alike
  simp only [Entropy.vectorAt, Entropy.afterVectors, Entropy.drawVector, vectors, draws]
  cases e.vectors <;> rfl

theorem Seals.of_alike {e e' : Entropy} (seals : e.Seals) (alike : SealsAlike e e') : e'.Seals := by
  obtain ⟨⟨key, read, keySize⟩, vectors⟩ := seals
  exact ⟨⟨key, alike.key.trans read, keySize⟩, fun i => by rw [alike.vectorAt i]; exact vectors i⟩

theorem seals_default : Entropy.Seals {} := by
  have read : ({} : Entropy).key.toOption = some ((List.range 16).map Nat.toUInt8) := by
    decide +kernel
  refine ⟨⟨(List.range 16).map Nat.toUInt8, ?_, Or.inl (by simp)⟩, fun i => ⟨_, rfl, by simp⟩⟩
  revert read
  cases ({} : Entropy).key <;> simp [Except.toOption]

end Entropy

namespace Run

/-- Runs that succeed from every session and end with its key and vector draws as they were. -/
def succeedsUnsealed : Syntax.Closed Run where
  holds x := ∀ σ, ∃ a σ', x.run.run σ = (.ok a, σ') ∧ Entropy.SealsAlike σ.entropy σ'.entropy
  pure_holds a σ := ⟨a, σ, rfl, Entropy.SealsAlike.refl _⟩
  bind_holds first rest σ := by
    obtain ⟨a, σ₁, ran, alike⟩ := first σ
    obtain ⟨b, σ₂, ran₂, alike₂⟩ := rest a σ₁
    exact ⟨b, σ₂, by rw [run_bind_ok ran, ran₂], alike.trans alike₂⟩

theorem say_succeedsUnsealed (line : String) : succeedsUnsealed.holds (Run.say line) :=
  fun _ => ⟨(), _, rfl, Entropy.SealsAlike.refl _⟩

theorem drawName_succeedsUnsealed (k : Int) : succeedsUnsealed.holds (Run.drawName k) :=
  fun _ => ⟨_, _, rfl, Entropy.SealsAlike.refl _⟩

theorem drawBetween_succeedsUnsealed (lo hi : Int) :
    succeedsUnsealed.holds (Run.drawBetween lo hi) :=
  fun _ => ⟨_, _, rfl, Entropy.SealsAlike.refl _⟩

end Run

namespace Syntax

/-- A leaf whose string UTF-8 can encode: none of its code points is a surrogate. -/
def Leaf.encodable : Leaf → Bool
  | .text t _ => t.all fun c => !isSurrogate c
  | .part t _ => t.all fun c => !isSurrogate c
  | _ => true

def Module.encodable (m : Module) : Bool := (Stmt.leavesAll m).all Leaf.encodable

/-- What renaming puts in the place of a leaf: a name for a name, the string itself for a string,
and nothing for an import. -/
def Leaf.Renames : Leaf → Option Expr → Prop
  | .name _, some e => ∃ n, e = .name n
  | .text t u, some e => e = .constant (.str t u)
  | .part t u, some e => e = .constant (.str t u)
  | .imports _, none => True
  | _, _ => False

theorem Leaf.Renames.fits {ℓ : Leaf} {r : Option Expr} (renames : ℓ.Renames r) : ℓ.Fits r := by
  cases ℓ with
  | name x =>
    cases r with
    | none => exact renames.elim
    | some e =>
      obtain ⟨n, rfl⟩ := renames
      rfl
  | text _ _ | part _ _ | imports _ => trivial

theorem Leaf.Renames.encodable_refilled {ℓ : Leaf} {r : Option Expr} (renames : ℓ.Renames r) :
    (ℓ.refilled r).all Leaf.encodable = ℓ.encodable := by
  cases r with
  | none =>
    cases ℓ with
    | imports _ => rfl
    | name _ | text _ _ | part _ _ => exact renames.elim
  | some e =>
    cases ℓ with
    | name x =>
      obtain ⟨n, rfl⟩ := renames
      rfl
    | text t u | part t u =>
      cases renames
      exact Bool.and_true _
    | imports _ => exact renames.elim

theorem all_encodable_refilled :
    ∀ {L : List Leaf} {rs : List (Option Expr)}, List.Forall₂ Leaf.Renames L rs →
      (List.zipWith Leaf.refilled L rs).flatten.all Leaf.encodable = L.all Leaf.encodable
  | [], [], .nil => rfl
  | _ :: _, _ :: _, .cons first rest => by
    rw [List.zipWith_cons_cons, List.flatten_cons, List.all_append, first.encodable_refilled,
      all_encodable_refilled rest, List.all_cons]

theorem Module.encodable_fillAll {m : Module} {rs : List (Option Expr)}
    (renames : List.Forall₂ Leaf.Renames (Stmt.leavesAll m) rs) :
    Module.encodable (Stmt.fillAll m rs) = Module.encodable m := by
  simp only [Module.encodable]
  rw [Stmt.leavesAll_fillAll m rs (renames.imp fun _ _ => Leaf.Renames.fits)]
  exact all_encodable_refilled renames

theorem all_not_isSurrogate_iff (t : Text) :
    (t.all fun c => !isSurrogate c) = true ↔ ∀ c ∈ t, isSurrogate c = false := by
  simp [List.all_eq_true]

end Syntax

namespace Pass

theorem renameVisit_leaf_renames {verbose : Bool} {ℓ : Leaf} {r : Option Expr}
    (returned : renamingOutcomes.returns ((renameVisit verbose).leaf ℓ) r) : ℓ.Renames r := by
  cases ℓ with
  | name id =>
    obtain ⟨e, named, rfl⟩ := renamingOutcomes.map_returns returned
    exact renameVisit_keepsNames verbose id e named
  | text t u =>
    obtain ⟨e, kept, rfl⟩ := renamingOutcomes.map_returns returned
    exact renamingOutcomes.pure_returns kept
  | part t u =>
    obtain ⟨e, kept, rfl⟩ := renamingOutcomes.map_returns returned
    exact renamingOutcomes.pure_returns kept
  | imports s =>
    obtain ⟨_, -, rfl⟩ := renamingOutcomes.map_returns returned
    trivial

theorem Module.rename_returns_fillAll {verbose : Bool} {m m' : Module}
    (renamed : Run.Returns (Module.rename verbose m) m') :
    ∃ rs, List.Forall₂ Leaf.Renames (Stmt.leavesAll m) rs ∧ m' = Stmt.fillAll m rs := by
  have walked := Module.rename_walks renamed
  rw [Stmt.walkLeavesAll_eq_fillAll] at walked
  obtain ⟨rs, visited, rfl⟩ := renamingOutcomes.map_returns walked
  exact ⟨rs, (renamingOutcomes.forall₂_of_mapM _ _ visited).imp fun _ _ => renameVisit_leaf_renames,
    rfl⟩

/-! Sealing fails exactly at a surrogate. -/

theorem sealWith_ok_iff (E : Cipher.Block → Cipher.Block) (iv : Cipher.Block) (t : Text) :
    (∃ s, sealWith E iv t = .ok s) ↔ ∀ c ∈ t, isSurrogate c = false := by
  constructor
  · rintro ⟨s, sealed⟩
    exact not_isSurrogate_of_sealWith sealed
  · intro plain
    refine ⟨Bytes.toBase64 (iv.toList ++ encryptFeedback E iv ((pad t).flatMap utf8Code)), ?_⟩
    simp only [sealWith, encodeUtf8, encodeFrom_flatMap 0 _ (pad_not_isSurrogate plain), mapError_ok]
    rfl

theorem sealWith_error_kind {E : Cipher.Block → Cipher.Block} {iv : Cipher.Block} {t : Text} {f : Fault}
    (failed : sealWith E iv t = .error f) : f.kind = .unicodeEncodeError := by
  rcases encoded : encodeUtf8 (pad t) with e | bytes
  · simp only [sealWith, encoded, mapError_error] at failed
    cases failed
    rfl
  · simp only [sealWith, encoded, mapError_ok] at failed
    cases failed

theorem exists_map_ok_iff {ε α β : Type} {x : Except ε α} {f : α → β} :
    (∃ b, x.map f = .ok b) ↔ ∃ a, x = .ok a := by
  cases x with
  | error e =>
    constructor
    · rintro ⟨_, mapped⟩
      cases mapped
    · rintro ⟨_, failed⟩
      cases failed
  | ok a => exact ⟨fun _ => ⟨a, rfl⟩, fun _ => ⟨f a, rfl⟩⟩

theorem error_of_map_eq_error {ε α β : Type} {x : Except ε α} {f : α → β} {e : ε}
    (mapped : x.map f = .error e) : x = .error e := by
  cases x with
  | error e' =>
    cases mapped
    rfl
  | ok a => cases mapped

section Sealing

variable {key iv : List UInt8} (keySize : key.length = 16 ∨ key.length = 24 ∨ key.length = 32)
  (ivSize : iv.length = 16)
include keySize ivSize

theorem sealedUnder_ok (t : Text) :
    sealedUnder key (.ok iv) t = sealWith (encryptBlock (roundKeys key)) iv.toArray t := by
  simp only [sealedUnder, prepareKey_ok key keySize]
  show prepareVector iv >>= _ = _
  rw [prepareVector_ok iv ivSize]
  rfl

theorem sealedLeaf_ok_iff (ℓ : Leaf) :
    (∃ r, sealedLeaf key (.ok iv) ℓ = .ok r) ↔ ℓ.encodable = true := by
  cases ℓ with
  | name x => exact ⟨fun _ => rfl, fun _ => ⟨_, rfl⟩⟩
  | imports s => exact ⟨fun _ => rfl, fun _ => ⟨_, rfl⟩⟩
  | text t u =>
    cases t with
    | nil => exact ⟨fun _ => rfl, fun _ => ⟨_, rfl⟩⟩
    | cons c cs =>
      rw [sealedLeaf_text_cons, sealedUnder_ok keySize ivSize, Leaf.encodable,
        all_not_isSurrogate_iff, ← sealWith_ok_iff]
      exact exists_map_ok_iff
  | part t u =>
    cases t with
    | nil => exact ⟨fun _ => rfl, fun _ => ⟨_, rfl⟩⟩
    | cons c cs =>
      rw [sealedLeaf_part_cons, sealedUnder_ok keySize ivSize, Leaf.encodable,
        all_not_isSurrogate_iff, ← sealWith_ok_iff]
      exact exists_map_ok_iff

theorem sealedLeaf_error_kind {ℓ : Leaf} {f : Fault} (failed : sealedLeaf key (.ok iv) ℓ = .error f) :
    f.kind = .unicodeEncodeError := by
  have sealing := fun (t : Text) (failed : sealedUnder key (.ok iv) t = .error f) =>
    sealWith_error_kind ((sealedUnder_ok keySize ivSize t) ▸ failed)
  cases ℓ with
  | name x => cases failed
  | imports s => cases failed
  | text t u =>
    cases t with
    | nil => cases failed
    | cons c cs =>
      rw [sealedLeaf_text_cons] at failed
      exact sealing _ (error_of_map_eq_error failed)
  | part t u =>
    cases t with
    | nil => cases failed
    | cons c cs =>
      rw [sealedLeaf_part_cons] at failed
      exact sealing _ (error_of_map_eq_error failed)

end Sealing

section Leaves

variable {key : List UInt8} (keySize : key.length = 16 ∨ key.length = 24 ∨ key.length = 32)
  {e : Entropy} (vectors : ∀ i, ∃ iv, e.vectorAt i = .ok iv ∧ iv.length = 16)
include keySize vectors

theorem sealedLeavesFrom_ok_iff (L : List Leaf) :
    ∀ i : Nat, (∃ rs, sealedLeavesFrom key e i L = .ok rs) ↔ L.all Leaf.encodable = true := by
  induction L with
  | nil => exact fun _ => ⟨fun _ => rfl, fun _ => ⟨[], rfl⟩⟩
  | cons ℓ L rest =>
    intro i
    obtain ⟨iv, drawn, ivSize⟩ := vectors i
    rw [List.all_cons, Bool.and_eq_true, ← sealedLeaf_ok_iff keySize ivSize ℓ, ← rest (i + sealsAt ℓ),
      sealedLeavesFrom, drawn]
    cases sealedLeaf key (.ok iv) ℓ with
    | error f =>
      constructor
      · rintro ⟨_, sealed⟩
        cases sealed
      · rintro ⟨⟨_, sealed⟩, _⟩
        cases sealed
    | ok r =>
      cases sealedLeavesFrom key e (i + sealsAt ℓ) L with
      | error f =>
        constructor
        · rintro ⟨_, sealed⟩
          cases sealed
        · rintro ⟨_, _, sealed⟩
          cases sealed
      | ok rs => exact ⟨fun _ => ⟨⟨r, rfl⟩, ⟨rs, rfl⟩⟩, fun _ => ⟨r :: rs, rfl⟩⟩

theorem sealedLeavesFrom_error_kind (L : List Leaf) :
    ∀ (i : Nat) {f : Fault}, sealedLeavesFrom key e i L = .error f →
      f.kind = .unicodeEncodeError := by
  induction L with
  | nil =>
    intro _ _ failed
    cases failed
  | cons ℓ L rest =>
    intro i f failed
    obtain ⟨iv, drawn, ivSize⟩ := vectors i
    rw [sealedLeavesFrom, drawn] at failed
    cases sealed : sealedLeaf key (.ok iv) ℓ with
    | error f' =>
      rw [sealed] at failed
      cases failed
      exact sealedLeaf_error_kind keySize ivSize sealed
    | ok r =>
      rw [sealed] at failed
      cases later : sealedLeavesFrom key e (i + sealsAt ℓ) L with
      | error f' =>
        rw [later] at failed
        cases failed
        exact rest (i + sealsAt ℓ) later
      | ok rs =>
        rw [later] at failed
        cases failed

end Leaves

theorem Module.sealStrings_fails_only_on_surrogates (verbose : Bool) (m : Module) (σ : Session)
    (seals : σ.entropy.Seals) :
    ((∃ m', ((Module.sealStrings verbose m).run.run σ).1 = .ok m') ↔ Module.encodable m = true) ∧
      ∀ f, ((Module.sealStrings verbose m).run.run σ).1 = .error f →
        f.kind = .unicodeEncodeError := by
  obtain ⟨⟨key, read, keySize⟩, vectors⟩ := seals
  have sealable := sealedLeavesFrom_ok_iff keySize vectors (Stmt.leavesAll m) 0
  rw [Module.sealStrings_run_of_key verbose m σ read]
  -- sealing ends as sealing the leaves does, the module rebuilt around what they give
  cases leaves : sealedLeaves key σ.entropy (Stmt.leavesAll m) with
  | error f' =>
    refine ⟨⟨?_, fun fine => ?_⟩, fun f failed => ?_⟩
    · rintro ⟨_, failed⟩
      cases failed
    · obtain ⟨_, ok⟩ := sealable.mpr fine
      have failed : sealedLeavesFrom key σ.entropy 0 _ = .error f' := leaves
      rw [failed] at ok
      cases ok
    · cases failed
      exact sealedLeavesFrom_error_kind keySize vectors _ 0 leaves
  | ok rs =>
    refine ⟨⟨fun _ => sealable.mp ⟨rs, leaves⟩, fun _ => ⟨_, rfl⟩⟩, fun f failed => ?_⟩
    cases failed

theorem Module.rename_succeedsUnsealed (verbose : Bool) (m : Module) :
    Run.succeedsUnsealed.holds (Module.rename verbose m) :=
  Module.rename_holds Run.succeedsUnsealed Run.say_succeedsUnsealed
    (Run.drawName_succeedsUnsealed 8) verbose m

theorem Transform.apply_succeedsUnsealed (verbose : Bool) {t : Transform} (unsealed : t ≠ .sealStrings)
    (m : Module) : Run.succeedsUnsealed.holds (t.apply verbose m) := by
  cases t with
  | rename => exact Module.rename_succeedsUnsealed verbose m
  | sealStrings => exact absurd rfl unsealed
  | flatten => exact Module.flatten_holds _ Run.say_succeedsUnsealed verbose m
  | injectDeadCode =>
    exact Module.injectDeadCode_holds _ Run.say_succeedsUnsealed Run.drawBetween_succeedsUnsealed
      verbose m
  | injectOpaque =>
    exact Module.injectOpaque_holds _ Run.say_succeedsUnsealed Run.drawBetween_succeedsUnsealed
      verbose m
  | stripDocstrings | ensureDecryptor => exact Run.succeedsUnsealed.pure_holds _

end Pass

namespace Workspace

theorem applyAll_cons (verbose : Bool) (t : Transform) (rest : List Transform) (m : Module) :
    applyAll verbose (t :: rest) m = t.apply verbose m >>= applyAll verbose rest := rfl

theorem applyAll_succeedsUnsealed (verbose : Bool) (passes : List Transform)
    (unsealed : ∀ t ∈ passes, t ≠ .sealStrings) (m : Module) :
    Run.succeedsUnsealed.holds (applyAll verbose passes m) :=
  applyAll_holds _ verbose passes
    (fun t mem => Transform.apply_succeedsUnsealed verbose (unsealed t mem)) m

/-- The heavy level fails only on surrogates: from a session whose key reads as an AES key and
whose vectors are a block long, it returns a module exactly when no string constant of the
module holds a surrogate, and every fault it ends with is a `UnicodeEncodeError`. -/
theorem heavy_fails_only_on_surrogates (verbose : Bool) (m : Module) (σ : Session)
    (seals : σ.entropy.Seals) :
    ((∃ m', ((applyAll verbose (levelPasses "heavy") m).run.run σ).1 = .ok m') ↔
        Module.encodable m = true) ∧
      ∀ f, ((applyAll verbose (levelPasses "heavy") m).run.run σ).1 = .error f →
        f.kind = .unicodeEncodeError := by
  let rest : List Transform := [.flatten, .injectDeadCode, .injectOpaque, .stripDocstrings]
  have heavy : levelPasses "heavy" = .rename :: .sealStrings :: rest := rfl
  -- renaming succeeds and keeps the strings, the key and the vectors
  obtain ⟨m₁, σ₁, renamed, alike⟩ := Module.rename_succeedsUnsealed verbose m σ
  obtain ⟨rs, renames, rfl⟩ := Module.rename_returns_fillAll (Run.returns_of_run renamed)
  have sealing := Module.sealStrings_fails_only_on_surrogates verbose (Stmt.fillAll m rs) σ₁
    (seals.of_alike alike)
  rw [Module.encodable_fillAll renames] at sealing
  have renamed' : (Transform.apply verbose .rename m).run.run σ = (.ok (Stmt.fillAll m rs), σ₁) :=
    renamed
  rw [heavy, applyAll_cons, Run.run_bind_ok renamed', applyAll_cons]
  -- the passes after sealing succeed, so the level ends as sealing does
  rcases sealed : (Transform.apply verbose .sealStrings (Stmt.fillAll m rs)).run.run σ₁ with
    ⟨f | m₂, σ₂⟩
  · have sealed' : (Module.sealStrings verbose (Stmt.fillAll m rs)).run.run σ₁ = (.error f, σ₂) :=
      sealed
    rw [Run.run_bind_error sealed]
    rw [sealed'] at sealing
    exact sealing
  · have sealed' : (Module.sealStrings verbose (Stmt.fillAll m rs)).run.run σ₁ = (.ok m₂, σ₂) :=
      sealed
    obtain ⟨m', σ', finished, -⟩ := applyAll_succeedsUnsealed verbose rest (by decide) m₂ σ₂
    rw [Run.run_bind_ok sealed, finished]
    rw [sealed'] at sealing
    refine ⟨⟨fun _ => sealing.1.mp ⟨m₂, rfl⟩, fun _ => ⟨m', rfl⟩⟩, fun f failed => ?_⟩
    cases failed

/-- What the heavy passes return prints with only base64 in its fields, from a module printable
with any strings in its fields whose bodies are shorter than the integer limit. -/
theorem heavy_returns_printable {verbose : Bool} {m m' : Module}
    (heavy : Run.Returns (applyAll verbose (levelPasses "heavy") m) m')
    (printable : Stmt.printableAll (fun _ => true) m = true)
    (short : Stmt.bodiesShorterAll (10 ^ integerDigitLimit) m = true) :
    Stmt.printableAll fieldQuotable m' = true := by
  have large : 10 < 10 ^ integerDigitLimit := lt_integerBound (by omega)
  rw [show levelPasses "heavy" = Transform.heavy from rfl, Transform.heavy, applyAll_cons] at heavy
  obtain ⟨m₁, renamed, heavy⟩ := Run.returns_bind heavy
  rw [applyAll_cons] at heavy
  obtain ⟨m₂, sealed, heavy⟩ := Run.returns_bind heavy
  rw [applyAll_cons] at heavy
  obtain ⟨m₃, flattened, heavy⟩ := Run.returns_bind heavy
  rw [applyAll_cons] at heavy
  obtain ⟨m₄, dead, heavy⟩ := Run.returns_bind heavy
  rw [applyAll_cons] at heavy
  obtain ⟨m₅, hidden, heavy⟩ := Run.returns_bind heavy
  rw [applyAll_cons] at heavy
  obtain ⟨m₆, stripped, heavy⟩ := Run.returns_bind heavy
  cases Run.outcomes.pure_returns heavy
  cases Run.outcomes.pure_returns stripped
  obtain ⟨printable₁, short₁⟩ := Module.rename_printable renamed printable short
  obtain ⟨printable₂, short₂⟩ := Module.sealStrings_printable sealed printable₁ short₁ large
  have printable₃ := Module.flatten_printable flattened printable₂ short₂
  exact Module.stripDocstrings_printable
    (Module.injectOpaque_printable hidden (Module.injectDeadCode_printable dead printable₃))

/-- The heavy level and the printer fail only on surrogates: from a session whose key reads as an
AES key and whose vectors are a block long, on a module printable with any strings in its fields
and with bodies shorter than the integer limit, they give code exactly when no string constant of
the module holds a surrogate, and every fault they end with is a `UnicodeEncodeError`. -/
theorem heavy_prints_iff_encodable (verbose : Bool) (m : Module) (σ : Session)
    (seals : σ.entropy.Seals) (printable : Stmt.printableAll (fun _ => true) m = true)
    (short : Stmt.bodiesShorterAll (10 ^ integerDigitLimit) m = true) :
    ((∃ code, (((applyAll verbose (levelPasses "heavy") m).run.run σ).1 >>= Module.render) =
        .ok code) ↔ Module.encodable m = true) ∧
      ∀ f, (((applyAll verbose (levelPasses "heavy") m).run.run σ).1 >>= Module.render) =
        .error f → f.kind = .unicodeEncodeError := by
  obtain ⟨passes, faults⟩ := heavy_fails_only_on_surrogates verbose m σ seals
  rcases ran : (applyAll verbose (levelPasses "heavy") m).run.run σ with ⟨f | m', σ'⟩
  · -- the passes fail, and nothing is printed
    rw [ran] at passes faults
    refine ⟨⟨fun ⟨_, printed⟩ => (by cases printed), fun fine => ?_⟩, fun f' failed => ?_⟩
    · obtain ⟨_, never⟩ := passes.mpr fine
      cases never
    · cases failed
      exact faults f rfl
  · -- the passes return a printable module, which the printer writes out
    rw [ran] at passes
    obtain ⟨code, printed⟩ :=
      Module.render_ok (heavy_returns_printable (Run.returns_of_run ran) printable short)
    have whole : (Except.ok m' >>= Module.render) = .ok code := printed
    refine ⟨⟨fun _ => passes.mp ⟨m', rfl⟩, fun _ => ⟨code, whole⟩⟩, fun f failed => ?_⟩
    rw [whole] at failed
    cases failed

/-- The heavy level and the printer at `x = '\ud800'`, from the default session, whose key and
vectors seal. -/
theorem heavy_prints_iff_encodable_at_surrogate :
    let m : Module := [.assign [.name "x"] (.constant (.str [0xD800] false))]
    Entropy.Seals {} ∧ Stmt.printableAll (fun _ => true) m = true ∧
      Stmt.bodiesShorterAll (10 ^ integerDigitLimit) m = true ∧
      ((∃ code, (((applyAll false (levelPasses "heavy") m).run.run {}).1 >>= Module.render) =
          .ok code) ↔ Module.encodable m = true) ∧
        ∀ f, (((applyAll false (levelPasses "heavy") m).run.run {}).1 >>= Module.render) =
          .error f → f.kind = .unicodeEncodeError :=
  ⟨Entropy.seals_default, by decide, by decide,
    heavy_prints_iff_encodable false _ {} Entropy.seals_default (by decide) (by decide)⟩

/-- The heavy level does not always give code: on a formatted field holding a byte string with a
tab, which no pass touches, the passes succeed and the printer fails, since the byte string is
written with a backslash. -/
theorem heavy_fails_to_print_bytes_field :
    (readSource (Text.ofString "f\"\x7bb'\t'\x7d\"\n")).map
        (fun m => ((applyAll false (levelPasses "heavy") m).run.run {}).1 >>= Module.render) =
      .ok (.error Fault.backslashInField) := by
  decide +kernel

end Workspace

end Obfuscation
