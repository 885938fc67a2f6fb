import Obfuscation.Proofs.Enclosing
import Obfuscation.Proofs.PassScoping
import Obfuscation.Proofs.Decryptor
import Obfuscation.Proofs.Injection
import Obfuscation.Proofs.DefinitionEdits
/-!
What the calls of `decrypt_string` reach. Sealing a module that binds `decrypt_string` nowhere
puts the fixed definition first and calls of it where the strings were. The passes that edit
definitions treat that definition like any other: flattening, dead code and opaque guards edit its
body with their own statements, and stripping finds no docstring in it. None of them binds the
name anywhere else, so every block of the module goes on reading the definition put first. Only
renaming and a second sealing rewrite the definition's own names and strings.
-/

namespace Obfuscation.Pass

open Syntax

/-- The definitions of `decrypt_string` that flattening and the injections make of the fixed one:
its body flattened, given a dead statement first or given an opaque guard, any number of times. -/
inductive Decryptor : Stmt → Prop
  | fixed : Decryptor decryptorDef
  | flattened {args : Arguments} {body : List Stmt} :
      Decryptor (.functionDef "decrypt_string" args body [] none false) →
      Decryptor (.functionDef "decrypt_string" args (flattenBody body) [] none false)
  | dead {args : Arguments} {body : List Stmt} (n : Int) :
      Decryptor (.functionDef "decrypt_string" args body [] none false) →
      Decryptor (.functionDef "decrypt_string" args (deadStmt n :: body) [] none false)
  | guarded {args : Arguments} {body : List Stmt} (i : Nat) :
      Decryptor (.functionDef "decrypt_string" args body [] none false) →
      Decryptor (.functionDef "decrypt_string" args (insertAt body i opaqueStmt) [] none false)

/-! The body of a decryptor -/

theorem defSitesAll_arms (body : List Stmt) (k : Nat) :
    Stmt.defSitesAll ((body.zipIdx k).map fun (s, i) => stepArm s i) = Stmt.defSitesAll body := by
  induction body generalizing k with
  | nil => rfl
  | cons s rest ih =>
    rw [List.zipIdx_cons, List.map_cons, defSitesAll_cons, defSitesAll_cons, ih (k + 1)]
    simp [stepArm, Stmt.defSites, setState]

theorem defSitesAll_flattenBody (body : List Stmt) :
    Stmt.defSitesAll (flattenBody body) = Stmt.defSitesAll body := by
  unfold flattenBody
  split
  · rfl
  · simp [Stmt.defSites, setState, stateIs, defSitesAll_arms]

theorem dropDocstring_flattenBody {body : List Stmt} (undocumented : dropDocstring body = body) :
    dropDocstring (flattenBody body) = flattenBody body := by
  unfold flattenBody
  split
  · exact undocumented
  · rfl

theorem dropDocstring_insertAt {body : List Stmt} (undocumented : dropDocstring body = body)
    (i : Nat) : dropDocstring (insertAt body i opaqueStmt) = insertAt body i opaqueStmt := by
  cases body with
  | nil => cases i <;> rfl
  | cons s rest =>
    cases i with
    | zero => rfl
    | succ k =>
      -- the guard goes after the first statement, which is no docstring
      rw [dropDocstring] at undocumented
      show dropDocstring (s :: insertAt rest k opaqueStmt) = s :: insertAt rest k opaqueStmt
      by_cases string : s.isStringExpr = true
      · rw [if_pos string] at undocumented
        exact absurd undocumented.symm (List.cons_ne_self s rest)
      · rw [dropDocstring, if_neg string]

theorem Decryptor.form {d : Stmt} (dec : Decryptor d) :
    ∃ args body, d = .functionDef "decrypt_string" args body [] none false ∧
      Stmt.defSitesAll body = [] ∧ dropDocstring body = body := by
  induction dec with
  | fixed => exact ⟨_, _, rfl, rfl, rfl⟩
  | @flattened args body _ shaped =>
    obtain ⟨_, _, same, noDefs, undocumented⟩ := shaped
    cases same
    exact ⟨args, _, rfl, by rw [defSitesAll_flattenBody, noDefs],
      dropDocstring_flattenBody undocumented⟩
  | @dead args body n _ shaped =>
    obtain ⟨_, _, same, noDefs, -⟩ := shaped
    cases same
    exact ⟨args, _, rfl, by rw [defSitesAll_cons, noDefs]; rfl, rfl⟩
  | @guarded args body i _ shaped =>
    obtain ⟨_, _, same, noDefs, undocumented⟩ := shaped
    cases same
    exact ⟨args, _, rfl, by rw [defSitesAll_insertAt body i rfl, noDefs],
      dropDocstring_insertAt undocumented i⟩

theorem Decryptor.definesDecryptor {d : Stmt} (dec : Decryptor d) : Stmt.definesDecryptor d = true := by
  obtain ⟨_, _, rfl, -⟩ := dec.form
  rfl

theorem Decryptor.not_isStringExpr {d : Stmt} (dec : Decryptor d) : d.isStringExpr = false := by
  obtain ⟨_, _, rfl, -⟩ := dec.form
  rfl

/-- The events flattening and the injections bring in: of the state variable and of `print`. -/
def Added (e : Event) : Prop := Event.Touches stateVariable e ∨ Event.Touches "print" e

theorem Decryptor.scan_rel {d : Stmt} (dec : Decryptor d) :
    Scan.Rel (· = ·) Added (fun _ => False) decryptorDef.scan d.scan := by
  induction dec with
  | fixed => exact .refl (fun _ => rfl) _
  | @flattened args body _ related =>
    exact related.trans (fun _ _ never _ => never) (Stmt.functionDef_scan_rel (fun _ => rfl) _ _ _ _ _
      (Stmt.scanAll_flattenBody (.inl (.inl rfl)) (.inl (.inr rfl)) body))
  | @dead args body n _ related =>
    exact related.trans (fun _ _ never _ => never) (Stmt.functionDef_scan_rel (fun _ => rfl) _ _ _ _ _
      (Stmt.scanAll_deadStmt (.inr (.inl rfl)) n body))
  | @guarded args body i _ related =>
    exact related.trans (fun _ _ never _ => never) (Stmt.functionDef_scan_rel (fun _ => rfl) _ _ _ _ _
      (Stmt.scanAll_insertAt_opaqueStmt (.inr (.inl rfl)) body i))

theorem Added.name_ne {e : Event} (added : Added e) : e.name ≠ "decrypt_string" := by
  rcases added with touched | touched <;> rw [touched.name_eq] <;> decide

theorem recordedName_base64 : recordedName ⟨"base64", none⟩ true = "base64" := by
  simp +decide [recordedName, String.splitOn, String.splitOnAux]

theorem decryptorDef_blocks_onlyUses :
    ∀ b ∈ decryptorDef.scan.blocks, Event.OnlyUses "decrypt_string" b.events := by
  -- the name the decryptor's import binds is the one thing to compute by hand
  simp only [decryptorDef, Stmt.scan, Stmt.scanAll, List.map_cons, List.map_nil, recordedName_base64]
  simp only [Event.OnlyUses]
  decide

theorem Decryptor.blocks_onlyUses {d : Stmt} (dec : Decryptor d) :
    ∀ b ∈ d.scan.blocks, Event.OnlyUses "decrypt_string" b.events :=
  Block.onlyUses_of_insertions (N := fun _ => False) (fun _ added => Added.name_ne added)
    (fun _ never => never.elim) dec.scan_rel.blocks decryptorDef_blocks_onlyUses

/-! A module that starts with a decryptor -/

/-- A module whose first statement is a decryptor and whose other statements bind, import and
declare `decrypt_string` nowhere. -/
def DecryptorFirst (m : Module) : Prop :=
  ∃ d rest, m = d :: rest ∧ Decryptor d ∧ Module.OnlyUses rest "decrypt_string"

/-- In a module that starts with a decryptor, `decrypt_string` reads the module's binding from
every block. -/
theorem DecryptorFirst.resolves {m : Module} (first : DecryptorFirst m) :
    ∀ b ∈ Module.blocks m, b.resolvesGlobal "decrypt_string" = true := by
  obtain ⟨d, rest, rfl, dec, free⟩ := first
  apply Module.resolvesGlobal_of_inner
  intro b mem notModule
  obtain ⟨b₀, inner, events⟩ := Module.mem_blocks_inner mem notModule
  rw [events]
  -- the blocks inside the module are the decryptor's, then those inside the rest
  rcases List.mem_append.mp inner with ofDecryptor | ofRest
  · exact dec.blocks_onlyUses b₀ ofDecryptor
  · obtain ⟨b', mem', same⟩ := Module.inner_mem_blocks ofRest
    rw [← same]
    exact free b' mem'

theorem Module.bind_mem_scan_of_definesDecryptor {s : Stmt} (defines : Stmt.definesDecryptor s = true) :
    Event.bind "decrypt_string" ∈ s.scan.events := by
  unfold Stmt.definesDecryptor at defines
  split at defines
  · rw [beq_iff_eq] at defines
    subst defines
    exact List.mem_cons_self
  · cases defines

theorem Module.not_definesDecryptor_of_onlyUses {m : Module}
    (free : Module.OnlyUses m "decrypt_string") : m.any Stmt.definesDecryptor = false := by
  rw [Bool.eq_false_iff]
  intro defines
  obtain ⟨s, mem, defining⟩ := List.any_eq_true.mp defines
  have bound := Stmt.mem_scanAll_events mem (Module.bind_mem_scan_of_definesDecryptor defining)
  cases Module.onlyUses_events free _ bound rfl

theorem Module.sealStrings_decryptorFirst {verbose : Bool} {m m' : Module}
    (free : Module.OnlyUses m "decrypt_string") (sealed : Run.Returns (Module.sealStrings verbose m) m') :
    DecryptorFirst m' := by
  obtain ⟨key, walked, returned, rfl⟩ := Module.sealStrings_walks sealed
  have walkedFree : Module.OnlyUses walked "decrypt_string" :=
    Module.onlyUses_of_rel (fun _ _ same only => same ▸ only) (fun _ used _ => used)
      (fun _ never => never.elim)
      (sealVisit_walk_scan (X := (· = .use "decrypt_string")) (N := fun _ => False) rfl returned) free
  rw [Module.ensureDecryptor, if_neg (by rw [Module.not_definesDecryptor_of_onlyUses walkedFree]; decide)]
  exact ⟨decryptorDef, walked, rfl, .fixed, walkedFree⟩

section Walked

variable {M : Type → Type} [Monad M] [LawfulMonad M] {O : Outcomes M} {v : DefVisit M}

theorem Stmt.walkDefsAll_of_defSites_nil {ss ss' : List Stmt} (noDefs : Stmt.defSitesAll ss = [])
    (walked : O.returns (Stmt.walkDefsAll v ss) ss') (descends : v.descend = true) : ss' = ss := by
  rw [Stmt.walkDefsAll_eq_editDefs descends, noDefs, List.mapM_nil, map_pure] at walked
  rw [O.pure_returns walked]
  simpa [noDefs] using Stmt.editDefs_replicate_id ss

theorem Decryptor.walkDefs {d d' : Stmt} (dec : Decryptor d)
    (edits : ∀ args body edit, O.returns (v.visit "decrypt_string" body) edit →
      Decryptor (.functionDef "decrypt_string" args body [] none false) →
        Decryptor (.functionDef "decrypt_string" args (edit body) [] none false))
    (walked : O.returns (d.walkDefs v) d') : Decryptor d' := by
  obtain ⟨args, body, rfl, noDefs, -⟩ := dec.form
  simp only [Stmt.walkDefs] at walked
  obtain ⟨edit, visited, walked⟩ := O.bind_returns walked
  -- whether the walk descends or not, the body it edits is the body itself
  have kept : d' = .functionDef "decrypt_string" args (edit body) [] none false := by
    split at walked
    · obtain ⟨b, walkedBody, walked⟩ := O.bind_returns walked
      rw [O.pure_returns walked, Stmt.walkDefsAll_of_defSites_nil noDefs walkedBody ‹_›]
    · obtain ⟨b, walkedBody, walked⟩ := O.bind_returns walked
      rw [O.pure_returns walked, O.pure_returns walkedBody]
  rw [kept]
  exact edits args body edit visited dec

theorem DecryptorFirst.of_walkDefs {X : Event → Prop}
    (keeps : KeepsBodyScopes X (fun _ => False) (v.admits O))
    (fresh : ∀ e, X e → e.name ≠ "decrypt_string")
    (edits : ∀ args body edit, O.returns (v.visit "decrypt_string" body) edit →
      Decryptor (.functionDef "decrypt_string" args body [] none false) →
        Decryptor (.functionDef "decrypt_string" args (edit body) [] none false))
    {d : Stmt} {rest out : Module} (dec : Decryptor d) (free : Module.OnlyUses rest "decrypt_string")
    (walked : O.returns (Stmt.walkDefsAll v (d :: rest)) out) : DecryptorFirst out := by
  simp only [Stmt.walkDefsAll] at walked
  obtain ⟨d', walkedHead, walked⟩ := O.bind_returns walked
  obtain ⟨rest', walkedRest, walked⟩ := O.bind_returns walked
  cases O.pure_returns walked
  have related := Stmt.walkDefsAll_scan keeps rest rest' (Stmt.walkDefsAll_mem_among v rest rest' walkedRest)
  exact ⟨d', rest', rfl, dec.walkDefs edits walkedHead, Module.onlyUses_of_insertions fresh
    (fun _ never => never.elim) related free⟩

end Walked

/-! Each pass -/

/-- Whether a pass rewrites the leaves of the module: its names or its strings. -/
def Transform.walksLeaves : Transform → Bool
  | .rename | .sealStrings => true
  | .flatten | .injectDeadCode | .injectOpaque | .stripDocstrings | .ensureDecryptor => false

theorem Renaming.Valid.renamed_onlyUses {r : Renaming} (valid : r.Valid) (e e' : Event)
    (renamed : EventRenamed r e e') (only : e.name = "decrypt_string" → e = .use "decrypt_string") :
    e'.name = "decrypt_string" → e' = .use "decrypt_string" := by
  intro named
  cases renamed with
  | same => exact only named
  | use _ =>
    simp only [Event.name] at named
    rw [named]
  | bind renamedName =>
    simp only [Event.name] at named
    subst named
    rcases renamedName with ⟨rfl, -⟩ | ⟨-, found⟩
    · exact only rfl
    · exact absurd (valid.drawnForm_of_lookup found) (by unfold drawnForm; decide)

theorem Transform.apply_onlyUses {verbose : Bool} {t : Transform} (quiet : t.putsDecryptor = false)
    {m m' : Module} (free : Module.OnlyUses m "decrypt_string")
    (ran : Run.Returns (t.apply verbose m) m') : Module.OnlyUses m' "decrypt_string" := by
  cases t with
  | sealStrings | ensureDecryptor => cases quiet
  | rename =>
    obtain ⟨r, valid, related⟩ := Module.rename_scan ran
    exact Module.onlyUses_of_rel valid.renamed_onlyUses (fun _ never => never.elim)
      (fun _ never => never.elim) related free
  | flatten =>
    exact Module.onlyUses_of_insertions (Event.Touches.fresh (by decide)) (fun _ never => never.elim)
      (Module.flatten_scan (X := Event.Touches stateVariable) (.inl rfl) (.inr rfl) ran) free
  | injectDeadCode =>
    exact Module.onlyUses_of_insertions (Event.Touches.fresh (by decide)) (fun _ never => never.elim)
      (Module.injectDeadCode_scan (X := Event.Touches "print") (.inl rfl) ran) free
  | injectOpaque =>
    exact Module.onlyUses_of_insertions (Event.Touches.fresh (by decide)) (fun _ never => never.elim)
      (Module.injectOpaque_scan (X := Event.Touches "print") (.inl rfl) ran) free
  | stripDocstrings =>
    cases Run.outcomes.pure_returns ran
    exact Module.onlyUses_of_insertions (fun _ never => never.elim) (fun _ never => never.elim)
      (Module.stripDocstrings_scan m) free

theorem Transform.apply_decryptorFirst {verbose : Bool} {t : Transform} (quiet : t.walksLeaves = false)
    {m m' : Module} (first : DecryptorFirst m) (ran : Run.Returns (t.apply verbose m) m') :
    DecryptorFirst m' := by
  obtain ⟨d, rest, rfl, dec, free⟩ := first
  cases t with
  | rename | sealStrings => cases quiet
  | flatten =>
    refine DecryptorFirst.of_walkDefs (flattenVisit_keepsBodyScopes (X := Event.Touches stateVariable)
      (.inl rfl) (.inr rfl) verbose fun _ _ never _ => never)
      (Event.Touches.fresh (by decide)) ?_ dec free ran
    intro args body edit visited flat
    rcases flattenVisit_returns visited with rfl | rfl
    · exact flat
    · exact .flattened flat
  | injectDeadCode =>
    refine DecryptorFirst.of_walkDefs (deadCodeVisit_keepsBodyScopes (X := Event.Touches "print")
      (.inl rfl) verbose fun _ _ never _ => never)
      (Event.Touches.fresh (by decide)) ?_ dec free ran
    intro args body edit visited flat
    obtain ⟨n, rfl⟩ := deadCodeVisit_returns visited
    exact .dead n flat
  | injectOpaque =>
    refine DecryptorFirst.of_walkDefs (opaqueVisit_keepsBodyScopes (X := Event.Touches "print")
      (.inl rfl) verbose fun _ _ never _ => never)
      (Event.Touches.fresh (by decide)) ?_ dec free ran
    intro args body edit visited flat
    rcases opaqueVisit_returns visited with rfl | ⟨pos, rfl⟩
    · exact flat
    · exact .guarded pos.toNat flat
  | stripDocstrings =>
    cases Run.outcomes.pure_returns ran
    rw [Module.stripDocstrings, dropDocstring, if_neg (by rw [dec.not_isStringExpr]; decide)]
    refine DecryptorFirst.of_walkDefs (O := idOutcomes) stripVisit_keepsBodyScopes
      (fun _ never => never.elim) ?_ dec free rfl
    intro args body edit visited stripped
    cases idOutcomes.pure_returns visited
    obtain ⟨_, _, same, -, undocumented⟩ := stripped.form
    cases same
    rw [undocumented]
    exact stripped
  | ensureDecryptor =>
    cases Run.outcomes.pure_returns ran
    rw [Module.ensureDecryptor, if_pos (by rw [List.any_cons, dec.definesDecryptor, Bool.true_or])]
    exact ⟨d, rest, rfl, dec, free⟩

/-! Runs of named passes -/

def namesLeafWalk (n : Text) : Bool := (Transform.ofName? (Text.toString n)).any Transform.walksLeaves

/-- Every run of named passes that seals strings once, on a module that binds, imports and
declares `decrypt_string` nowhere, ends in a module that starts with the fixed definition of
`decrypt_string`, its body edited only by flattening and the injections, where nothing else binds
`decrypt_string` and every block reads the definition put first: when no pass before the sealing
puts a definition in, and no pass after it renames or seals. -/
theorem applyNamed_decryptor_resolves (verbose : Bool) (pre post : List Text) {m m' : Module}
    (before : ∀ n ∈ pre, namesDecryptor n = false) (after : ∀ n ∈ post, namesLeafWalk n = false)
    (unbound : Module.OnlyUses m "decrypt_string")
    (ran : Run.Returns (applyNamed verbose (pre ++ Text.ofString "encrypt_strings" :: post) m) m') :
    ∃ d rest, m' = d :: rest ∧ Decryptor d ∧ Module.OnlyUses rest "decrypt_string" ∧
      ∀ b ∈ Module.blocks m', b.resolvesGlobal "decrypt_string" = true := by
  -- after the sealing, each pass keeps the decryptor first
  have step : ∀ n ∈ post, ∀ t, Transform.ofName? (Text.toString n) = some t →
      ∀ m₁ m₂, DecryptorFirst m₁ → Run.Returns (t.apply verbose m₁) m₂ → DecryptorFirst m₂ := by
    intro n mem t named m₁ m₂ first ran₁
    have quiet : t.walksLeaves = false := by simpa [namesLeafWalk, named] using after n mem
    exact Transform.apply_decryptorFirst quiet first ran₁
  -- before it, each pass keeps `decrypt_string` unbound, by induction on the passes before
  have first : DecryptorFirst m' := by
    induction pre generalizing m with
    | nil =>
      obtain ⟨t, m₁, named, sealed, later⟩ := applyNamed_cons_returns ran
      have sealing : Transform.ofName? (Text.toString (Text.ofString "encrypt_strings")) =
          some .sealStrings := by
        rw [Text.toString_ofString]
        rfl
      rw [sealing] at named
      cases named
      exact applyNamed_keeps verbose post step m₁ m'
        (Module.sealStrings_decryptorFirst unbound sealed) later
    | cons n pre passed =>
      obtain ⟨t, m₁, named, ran₁, later⟩ := applyNamed_cons_returns ran
      have quiet : t.putsDecryptor = false := by
        simpa [namesDecryptor, named] using before n List.mem_cons_self
      exact passed (fun n' mem => before n' (List.mem_cons_of_mem n mem))
        (Transform.apply_onlyUses quiet unbound ran₁) later
  have resolves := first.resolves
  obtain ⟨d, rest, shape, dec, free⟩ := first
  exact ⟨d, rest, shape, dec, free, resolves⟩

/-- Sealing, then flattening, `def f(): return 'a'`: the call that replaces `'a'` in `f` reads the
decryptor, flattened like `f`. -/
theorem sealing_then_flattening_resolves_decryptor :
    let m : Module := [.functionDef "f" Arguments.empty
      [.returnStmt (some (.constant (.str (Text.ofString "a") false)))] [] none false]
    let names := [] ++ Text.ofString "encrypt_strings" :: [Text.ofString "flatten"]
    Module.OnlyUses m "decrypt_string" ∧ ∃ m', Run.Returns (applyNamed false names m) m' ∧
      ∃ d rest, m' = d :: rest ∧ Decryptor d ∧ Module.OnlyUses rest "decrypt_string" ∧
        ∀ b ∈ Module.blocks m', b.resolvesGlobal "decrypt_string" = true := by
  intro m names
  have unbound : Module.OnlyUses m "decrypt_string" := by decide
  have succeeded : ((applyNamed false names m).run.run {}).1.isOk = true := by decide +kernel
  rcases ran : (applyNamed false names m).run.run {} with ⟨_ | m', σ'⟩
  · rw [ran] at succeeded
    cases succeeded
  · exact ⟨unbound, m', ⟨{}, σ', ran⟩, applyNamed_decryptor_resolves false [] [Text.ofString "flatten"]
      (fun _ never => absurd never List.not_mem_nil) (by decide) unbound ⟨{}, σ', ran⟩⟩

end Obfuscation.Pass
