import Obfuscation.Proofs.WalkPrinting
import Obfuscation.Proofs.Base64
import Obfuscation.Proofs.Passes
import Obfuscation.Proofs.Renaming
/-!
What the passes put into a module prints. Renaming puts names of letters and digits where names
were; sealing puts calls on base64 text where strings were, and base64 is written between quotes
as it stands, so the calls may stand inside a field; flattening numbers the statements of a body,
and the numbers print while the body is shorter than the integer limit; the injected statements
and stripping add nothing that does not print.
-/

namespace Obfuscation.Text

theorem isPrintable_of_ascii {c : Nat} (low : 0x20 ≤ c) (high : c ≤ 0x7E) :
    isPrintable c = true := by
  obtain ⟨rest, split⟩ : ∃ rest, printableRanges = (0x20, 0x7E) :: rest := ⟨_, rfl⟩
  rw [isPrintable, inRanges, split, List.any_cons]
  simp [low, high]

end Obfuscation.Text

namespace Obfuscation.Syntax

/-- A character written as itself between quotes: printable, and neither a backslash nor a
quote. -/
def plainChar (ch : Char) : Bool :=
  Text.isPrintable ch.toNat && ch != '\\' && ch != '\'' && ch != '"'

theorem softEscape_plain {ch : Char} (plain : plainChar ch = true) :
    softEscape true ch.toNat = [ch] := by
  simp only [plainChar, Bool.and_eq_true, bne_iff_ne, ne_eq] at plain
  obtain ⟨⟨⟨printable, notSlash⟩, -⟩, -⟩ := plain
  have code : (ch.toNat == 0x5C) = false := by
    rw [beq_eq_false_iff_ne]
    intro same
    exact notSlash (Char.toNat_inj.mp (by rw [same]; rfl))
  simp [softEscape, code, printable, Text.charOf_toNat]

theorem occursIn_head {c : Char} {cs : List Char} :
    ∀ {hay : List Char}, occursIn (c :: cs) hay = true → c ∈ hay
  | [], h => by simp [occursIn] at h
  | d :: hay, h => by
    simp only [occursIn, Bool.or_eq_true] at h
    rcases h with start | later
    · simp only [List.isPrefixOf, Bool.and_eq_true, beq_iff_eq] at start
      exact start.1 ▸ List.mem_cons_self
    · exact List.mem_cons_of_mem d (occursIn_head later)

theorem literalBody_plain {s : String} (plain : ∀ ch ∈ s.toList, plainChar ch = true) :
    (literalBody (Text.ofString s) Delimiter.all false).1 = s.toList := by
  have escaped : (Text.ofString s).flatMap (softEscape (!false)) = s.toList := by
    simp only [Text.ofString, Bool.not_false, List.flatMap_map]
    rw [List.flatMap_congr fun ch mem => softEscape_plain (plain ch mem)]
    simp
  have quotes : ∀ d : Delimiter, d.mark = '\'' ∨ d.mark = '"' := by
    intro d
    cases d <;> simp [Delimiter.mark]
  have fits : Delimiter.tripleDouble ∈ List.filter (fun d => !occursIn d.text s.toList)
      (if s.toList.contains '\n' = true then List.filter Delimiter.isTriple Delimiter.all
        else Delimiter.all) := by
    refine List.mem_filter.mpr ⟨by split <;> decide, ?_⟩
    rw [Bool.not_eq_true']
    by_contra occurs
    have inside := occursIn_head (Bool.not_eq_false _ ▸ occurs)
    simpa [plainChar] using plain _ inside
  simp only [literalBody, escaped]
  split
  · rename_i none
    rw [none] at fits
    simp at fits
  · rfl
  · rename_i last ends _
    have lastPlain := plain last (List.mem_of_getLast? ends)
    rw [if_neg]
    simp only [beq_iff_eq, Option.map_eq_some_iff, not_exists, not_and]
    intro d _ same
    rcases quotes d with q | q <;> simp [plainChar, ← same, q] at lastPlain

theorem fieldQuotable_plain {s : String} (plain : ∀ ch ∈ s.toList, plainChar ch = true) :
    fieldQuotable (Text.ofString s) = true := by
  have body := literalBody_plain plain
  rcases written : literalBody (Text.ofString s) Delimiter.all false with ⟨b, ds⟩
  rw [written] at body
  subst body
  have noSlash : '\\' ∉ s.toList := fun mem => by simpa [plainChar] using plain _ mem
  have quoteText : ∀ d : Delimiter, '\\' ∉ d.text := by
    intro d
    cases d <;> decide
  simp only [fieldQuotable, writeAvoiding, written, slashFree_iff, String.toList_ofList,
    List.mem_append, not_or]
  exact ⟨⟨quoteText _, noSlash⟩, quoteText _⟩

@[simp] theorem Stmt.printableAll_eq_all (q : Text → Bool) (ss : List Stmt) :
    Stmt.printableAll q ss = ss.all (Stmt.printable q) := by
  induction ss with
  | nil => rfl
  | cons s ss rest => rw [Stmt.printableAll, List.all_cons, rest]

@[simp] theorem Stmt.bodiesShorterAll_eq_all (n : Nat) (ss : List Stmt) :
    Stmt.bodiesShorterAll n ss = ss.all (Stmt.bodiesShorter n) := by
  induction ss with
  | nil => rfl
  | cons s ss rest => rw [Stmt.bodiesShorterAll, List.all_cons, rest]

theorem Literal.printable_int (q : Text → Bool) (inField : Bool) (n : Nat) :
    (Literal.int n).printable q inField = decide (n < 10 ^ integerDigitLimit) := by
  rw [Literal.printable]
  exact decide_eq_decide.mpr (Nat.length_repr_le_iff (by unfold integerDigitLimit; omega))

theorem lt_integerBound {k : Nat} (small : k < 100) : k < 10 ^ integerDigitLimit :=
  Nat.lt_of_lt_of_le small
    (Nat.pow_le_pow_right (by omega) (by unfold integerDigitLimit; omega) : 10 ^ 2 ≤ _)

end Obfuscation.Syntax

namespace Obfuscation.Bytes

theorem toBase64_plain (bs : List UInt8) : ∀ ch ∈ (toBase64 bs).toList, Syntax.plainChar ch = true := by
  intro ch written
  obtain ⟨low, high, notSlash, notQuote, notDouble⟩ := toBase64_visible bs ch written
  simp [Syntax.plainChar, Text.isPrintable_of_ascii low high, notSlash, notQuote, notDouble]

end Obfuscation.Bytes

namespace Obfuscation.Pass

open Syntax

/-! Renaming -/

theorem Module.rename_renamedBy {verbose : Bool} {m m' : Module}
    (renamed : Run.Returns (Module.rename verbose m) m') : ∃ r, r.Valid ∧ RenamedBy r m m' := by
  obtain ⟨σ, σ', run⟩ := renamed
  obtain ⟨m'', r, σ'', run', -, counted, renamedBy⟩ :=
    Module.renameWith_run verbose m (Renaming.counted_empty σ)
  rw [Module.rename, StateT.run'_eq, Run.run_map_ok run'] at run
  cases run
  exact ⟨r, counted.drawn.valid, renamedBy⟩

theorem LeafRenamed.mem_among {r : Renaming} {ℓ : Leaf} {x : Option Expr} (renamed : LeafRenamed r ℓ x) :
    x ∈ ((LeafVisit.among fun ℓ e => LeafRenamed r ℓ (some e)).leaf ℓ).run := by
  cases ℓ with
  | name id =>
    obtain ⟨y, rfl, named⟩ := renamed
    exact SetM.mem_run_map.mpr ⟨.name y, ⟨y, rfl, named⟩, rfl⟩
  | text t u | part t u =>
    cases renamed
    exact SetM.mem_run_map.mpr ⟨_, rfl, rfl⟩
  | imports s =>
    cases renamed
    exact SetM.mem_run_map.mpr ⟨(), rfl, rfl⟩

theorem Renaming.Valid.slashFree_of_lookup {r : Renaming} (valid : r.Valid) {x y : String}
    (found : r.names.lookup x = some y) : slashFree y = true := by
  obtain ⟨l₁, l₂, split, -⟩ := List.lookup_eq_some_iff.mp found
  obtain ⟨cs, rfl, -, alnum⟩ := valid.form (x, y) (by simp [split])
  rw [slashFree_iff]
  simp only [String.toList_append, String.toList_ofList, List.mem_append, not_or]
  exact ⟨by decide, fun mem => by simpa using alnum _ mem⟩

theorem Renaming.Valid.keepsPrinting {r : Renaming} (valid : r.Valid) (q : Text → Bool) :
    KeepsPrinting q q fun ℓ e => LeafRenamed r ℓ (some e) where
  name := by
    intro id e inField renamed h
    obtain ⟨y, same, named⟩ := renamed
    cases same
    simp only [Expr.printable] at h ⊢
    rcases named with ⟨rfl, -⟩ | ⟨-, found⟩
    · exact h
    · simp [valid.slashFree_of_lookup found]
  text := by
    intro t u e inField renamed h
    cases renamed
    exact h
  part := by
    intro t u e renamed
    cases renamed
    rfl

theorem Module.rename_printable {verbose : Bool} {m m' : Module} {q : Text → Bool} {n : Nat}
    (renamed : Run.Returns (Module.rename verbose m) m') (printable : Stmt.printableAll q m = true)
    (short : Stmt.bodiesShorterAll n m = true) :
    Stmt.printableAll q m' = true ∧ Stmt.bodiesShorterAll n m' = true := by
  obtain ⟨r, valid, rs, rfl, renames⟩ := Module.rename_renamedBy renamed
  have walked := Stmt.fillAll_mem_among (renames.imp fun _ _ => LeafRenamed.mem_among)
  exact ⟨Stmt.walkLeavesAll_printable (valid.keepsPrinting q) m _ walked printable,
    Stmt.walkLeavesAll_bodiesShorter n m _ walked short⟩

/-! Sealing -/

theorem sealText_returns_base64 {key : List UInt8} {plain : Text} {sealed : String}
    (h : Run.Returns (Run.sealText key plain) sealed) : ∃ bytes, sealed = Bytes.toBase64 bytes := by
  simp only [Run.sealText] at h
  obtain ⟨_, -, h⟩ := Run.returns_bind h
  obtain ⟨_, -, h⟩ := Run.returns_bind h
  obtain ⟨_, -, h⟩ := Run.returns_bind h
  have sealedOk := Run.returns_ofExcept h
  simp only [Cipher.sealWith, bind, Except.bind] at sealedOk
  split at sealedOk
  · cases sealedOk
  · cases sealedOk
    exact ⟨_, rfl⟩

theorem revealCall_printable {sealed keyText : String}
    (sealedPlain : ∀ ch ∈ sealed.toList, plainChar ch = true)
    (keyPlain : ∀ ch ∈ keyText.toList, plainChar ch = true) (inField : Bool) :
    (revealCall sealed keyText).printable fieldQuotable inField = true := by
  simp [revealCall, Expr.printable, Expr.printableAll, Keyword.printableAll, Literal.printable,
    fieldQuotable_plain sealedPlain, fieldQuotable_plain keyPlain, slashFree]

theorem sealVisit_keepsPrinting (verbose : Bool) (key : List UInt8) (q : Text → Bool) :
    KeepsPrinting q fieldQuotable ((sealVisit verbose key).admits Run.outcomes) where
  name := by
    intro id e inField visited h
    cases Run.outcomes.pure_returns visited
    exact h
  text := by
    intro t u e inField visited h
    simp only [LeafVisit.admits, sealVisit] at visited
    split at visited
    · -- an empty string stays, and is written as two quotes
      rename_i empty
      cases Run.outcomes.pure_returns visited
      rw [List.isEmpty_iff] at empty
      subst empty
      cases inField <;> cases u <;> decide
    · obtain ⟨sealed, drawn, rfl⟩ := sealOne_returns visited
      obtain ⟨bytes, rfl⟩ := sealText_returns_base64 drawn
      exact revealCall_printable (Bytes.toBase64_plain bytes) (Bytes.toBase64_plain key) inField
  part := by
    intro t u e visited
    simp only [LeafVisit.admits, sealVisit] at visited
    split at visited
    · cases Run.outcomes.pure_returns visited
      rfl
    · obtain ⟨call, sealedCall, visited⟩ := Run.returns_bind visited
      cases Run.outcomes.pure_returns visited
      obtain ⟨sealed, drawn, rfl⟩ := sealOne_returns sealedCall
      obtain ⟨bytes, rfl⟩ := sealText_returns_base64 drawn
      simp only [Expr.partPrintable, Expr.specPrintable, Bool.and_true]
      exact revealCall_printable (Bytes.toBase64_plain bytes) (Bytes.toBase64_plain key) true

theorem decryptorDef_printable : decryptorDef.printable fieldQuotable = true := by decide

theorem decryptorDef_bodiesShorter {n : Nat} (large : 10 < n) : decryptorDef.bodiesShorter n = true := by
  simp [decryptorDef, Stmt.bodiesShorter, large]

theorem Module.sealStrings_printable {verbose : Bool} {m m' : Module} {q : Text → Bool} {n : Nat}
    (sealed : Run.Returns (Module.sealStrings verbose m) m') (printable : Stmt.printableAll q m = true)
    (short : Stmt.bodiesShorterAll n m = true) (large : 10 < n) :
    Stmt.printableAll fieldQuotable m' = true ∧ Stmt.bodiesShorterAll n m' = true := by
  obtain ⟨key, walked, returned, rfl⟩ := Module.sealStrings_walks sealed
  have member := Stmt.walkLeavesAll_mem_among (O := Run.outcomes) returned
  have walkedPrintable :=
    Stmt.walkLeavesAll_printable (sealVisit_keepsPrinting verbose key q) m walked member printable
  have walkedShort := Stmt.walkLeavesAll_bodiesShorter n m walked member short
  -- the definition of `decrypt_string` is put first unless the module has one
  unfold Module.ensureDecryptor
  split
  · exact ⟨walkedPrintable, walkedShort⟩
  · simp only [Stmt.printableAll_eq_all, Stmt.bodiesShorterAll_eq_all, List.all_cons,
      Bool.and_eq_true] at walkedPrintable walkedShort ⊢
    exact ⟨⟨decryptorDef_printable, walkedPrintable⟩, ⟨decryptorDef_bodiesShorter large, walkedShort⟩⟩

/-! Flattening -/

theorem stateIs_printable (q : Text → Bool) {i : Nat} (small : i < 10 ^ integerDigitLimit) :
    (stateIs i).printable q false = true := by
  simp [stateIs, Expr.printable, Expr.printableAll, Literal.printable_int, small]

theorem setState_printable (q : Text → Bool) {i : Nat} (small : i < 10 ^ integerDigitLimit) :
    (setState i).printable q = true := by
  simp [setState, Stmt.printable, Expr.printable, Expr.printableAll, Literal.printable_int, small]

theorem flattenBody_printable {q : Text → Bool} {body : List Stmt}
    (printable : Stmt.printableAll q body = true) (short : body.length < 10 ^ integerDigitLimit) :
    Stmt.printableAll q (flattenBody body) = true := by
  unfold flattenBody
  split
  · exact printable
  · have arms : ∀ s i, (s, i) ∈ body.zipIdx → (stepArm s i).printable q = true := by
      intro s i mem
      obtain ⟨inside, same⟩ := List.mem_zipIdx' mem
      have member : s ∈ body := same ▸ List.getElem_mem inside
      simp only [Stmt.printableAll_eq_all, List.all_eq_true] at printable
      simp [stepArm, Stmt.printable, stateIs_printable q (by omega : i < _),
        setState_printable q (by omega : i + 1 < _), printable s member]
    simp only [Stmt.printableAll_eq_all, List.all_cons, List.all_nil, Bool.and_true,
      Bool.and_eq_true]
    refine ⟨setState_printable q (by omega), ?_⟩
    -- the loop: its constant test, the arms, and the arm that breaks out at the body's length
    simp only [Stmt.printable, Stmt.printableAll_eq_all, List.all_append, List.all_map,
      List.all_cons, List.all_nil, Bool.and_true, Bool.and_eq_true, List.all_eq_true,
      Function.comp_apply, Prod.forall]
    exact ⟨rfl, arms, stateIs_printable q short⟩

theorem flattenVisit_keepsBodies (verbose : Bool) (q : Text → Bool) :
    KeepsBodies q ((flattenVisit verbose).admits Run.outcomes) (flattenVisit verbose).descend
      (10 ^ integerDigitLimit) where
  edit := by
    intro name body body' edit admitted printable short
    rcases flattenVisit_returns admitted with rfl | rfl
    · exact printable
    · exact flattenBody_printable printable (short rfl).1

theorem Module.flatten_printable {verbose : Bool} {m m' : Module} {q : Text → Bool}
    (flattened : Run.Returns (Module.flatten verbose m) m') (printable : Stmt.printableAll q m = true)
    (short : Stmt.bodiesShorterAll (10 ^ integerDigitLimit) m = true) :
    Stmt.printableAll q m' = true :=
  Stmt.walkDefsAll_printable (flattenVisit_keepsBodies verbose q) m m'
    (Stmt.walkDefsAll_mem_among (flattenVisit verbose) m m' flattened) printable fun _ => short

/-! Injections and stripping -/

theorem printStmt_printable (q : Text → Bool) (t : String) : (printStmt t).printable q = true := by
  simp [printStmt, Stmt.printable, Expr.printable, Expr.printableAll, Keyword.printableAll,
    Literal.printable]

theorem opaqueStmt_printable (q : Text → Bool) : opaqueStmt.printable q = true := by
  simp [opaqueStmt, opaqueTest, Stmt.printable, Expr.printable, Expr.printableAll,
    Literal.printable_int, printStmt_printable, lt_integerBound]

theorem deadCodeVisit_keepsBodies (verbose : Bool) (q : Text → Bool) (n : Nat) :
    KeepsBodies q ((deadCodeVisit verbose).admits Run.outcomes) (deadCodeVisit verbose).descend n where
  edit := by
    intro name body body' edit admitted printable _
    obtain ⟨k, rfl⟩ := deadCodeVisit_returns admitted
    simp only [Stmt.printableAll_eq_all, List.all_cons, Bool.and_eq_true] at printable ⊢
    exact ⟨printStmt_printable q _, printable⟩

theorem opaqueVisit_keepsBodies (verbose : Bool) (q : Text → Bool) (n : Nat) :
    KeepsBodies q ((opaqueVisit verbose).admits Run.outcomes) (opaqueVisit verbose).descend n where
  edit := by
    intro name body body' edit admitted printable _
    rcases opaqueVisit_returns admitted with rfl | ⟨pos, rfl⟩
    · exact printable
    · simp only [Stmt.printableAll_eq_all, List.all_eq_true] at printable ⊢
      intro s mem
      simp only [insertAt, List.mem_append, List.mem_cons] at mem
      rcases mem with early | rfl | late
      · exact printable s (List.mem_of_mem_take early)
      · exact opaqueStmt_printable q
      · exact printable s (List.mem_of_mem_drop late)

theorem dropDocstring_printable {q : Text → Bool} {body : List Stmt}
    (printable : Stmt.printableAll q body = true) : Stmt.printableAll q (dropDocstring body) = true := by
  simp only [Stmt.printableAll_eq_all, List.all_eq_true] at printable ⊢
  intro s mem
  cases body with
  | nil => simp [dropDocstring] at mem
  | cons first rest =>
    simp only [dropDocstring] at mem
    split at mem
    · exact printable s (List.mem_cons_of_mem _ mem)
    · exact printable s mem

theorem Module.injectDeadCode_printable {verbose : Bool} {m m' : Module} {q : Text → Bool}
    (injected : Run.Returns (Module.injectDeadCode verbose m) m')
    (printable : Stmt.printableAll q m = true) : Stmt.printableAll q m' = true :=
  Stmt.walkDefsAll_printable (deadCodeVisit_keepsBodies verbose q 0) m m'
    (Stmt.walkDefsAll_mem_among (deadCodeVisit verbose) m m' injected) printable
    fun never => by simp [deadCodeVisit] at never

theorem Module.injectOpaque_printable {verbose : Bool} {m m' : Module} {q : Text → Bool}
    (injected : Run.Returns (Module.injectOpaque verbose m) m')
    (printable : Stmt.printableAll q m = true) : Stmt.printableAll q m' = true :=
  Stmt.walkDefsAll_printable (opaqueVisit_keepsBodies verbose q 0) m m'
    (Stmt.walkDefsAll_mem_among (opaqueVisit verbose) m m' injected) printable
    fun never => by simp [opaqueVisit] at never

theorem Module.stripDocstrings_printable {m : Module} {q : Text → Bool}
    (printable : Stmt.printableAll q m = true) :
    Stmt.printableAll q (Module.stripDocstrings m) = true := by
  have keeps : KeepsBodies q (stripVisit.admits idOutcomes) stripVisit.descend 0 := by
    constructor
    intro name body body' edit admitted printable _
    cases idOutcomes.pure_returns admitted
    exact dropDocstring_printable printable
  exact Stmt.walkDefsAll_printable keeps _ _
    (Stmt.walkDefsAll_mem_among stripVisit (dropDocstring m) _ rfl) (dropDocstring_printable printable)
    fun never => absurd never (by decide)

end Obfuscation.Pass
