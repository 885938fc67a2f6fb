import Mathlib.Tactic.SplitIfs
import Obfuscation.Syntax.Printer.Stmt
/-!
When the printer gives text. Printing fails in four places only: a too-long integer, a field that
needs a backslash, a formatted part that is neither text nor a field, and a `raise` with a cause
and no exception. On modules that avoid them, `Module.render_ok`.
-/

namespace Obfuscation.Syntax

open Decimal

/-- Whether a text holds no backslash, as the text of a formatted field must not. -/
def slashFree (s : String) : Bool := !s.toList.contains '\\'

/-- A string constant inside a field prints without a backslash when its text, written with
the first delimiter that fits, has none. -/
def fieldQuotable (t : Text) : Bool := slashFree (writeAvoiding t Delimiter.all)

/-- Whether a literal prints: an integer within the digit limit, and inside a field a string
that `q` admits and a byte string written without a backslash. -/
def Literal.printable (q : Text → Bool) (inField : Bool) : Literal → Bool
  | .int n => (Nat.repr n).length ≤ integerDigitLimit
  | .str t _ => !inField || q t
  | .bytes bs => !inField || slashFree (Text.quoteBytes bs)
  | _ => Bool.true

mutual

/-- Whether an expression prints, inside a field when `inField` holds: its literals print, a
formatted string or field stands only outside a field, and inside a field every name,
attribute, keyword and parameter name is written without a backslash. -/
def Expr.printable (q : Text → Bool) (inField : Bool) : Expr → Bool
  | .boolOp _ values => Expr.printableAll q inField values
  | .namedExpr target value => target.printable q inField && value.printable q inField
  | .binOp left _ right => left.printable q inField && right.printable q inField
  | .unaryOp _ operand => operand.printable q inField
  | .lambda args body => args.printable q inField && body.printable q inField
  | .ifExp test body orelse =>
    test.printable q inField && body.printable q inField && orelse.printable q inField
  | .dict keys values => Expr.printableOptions q inField keys && Expr.printableAll q inField values
  | .set elts => Expr.printableAll q inField elts
  | .listComp elt gens => elt.printable q inField && Comprehension.printableAll q inField gens
  | .setComp elt gens => elt.printable q inField && Comprehension.printableAll q inField gens
  | .dictComp key value gens =>
    key.printable q inField && value.printable q inField && Comprehension.printableAll q inField gens
  | .generatorExp elt gens => elt.printable q inField && Comprehension.printableAll q inField gens
  | .await value => value.printable q inField
  | .yield value => Expr.printableOption q inField value
  | .yieldFrom value => value.printable q inField
  | .compare left _ comparators =>
    left.printable q inField && Expr.printableAll q inField comparators
  | .call func args keywords =>
    func.printable q inField && Expr.printableAll q inField args &&
      Keyword.printableAll q inField keywords
  | .formattedValue value _ spec => !inField && value.printable q true && Expr.specPrintable q spec
  | .joinedStr values => !inField && Expr.partsPrintable q values
  | .constant c => c.printable q inField
  | .attribute value attr => value.printable q inField && (!inField || slashFree attr)
  | .subscript value slice => value.printable q inField && slice.printable q inField
  | .starred value => value.printable q inField
  | .name id => !inField || slashFree id
  | .list elts => Expr.printableAll q inField elts
  | .tuple elts => Expr.printableAll q inField elts
  | .slice lower upper step =>
    Expr.printableOption q inField lower && Expr.printableOption q inField upper &&
      Expr.printableOption q inField step

def Expr.printableAll (q : Text → Bool) (inField : Bool) : List Expr → Bool
  | [] => true
  | e :: es => e.printable q inField && Expr.printableAll q inField es

def Expr.printableOption (q : Text → Bool) (inField : Bool) : Option Expr → Bool
  | none => true
  | some e => e.printable q inField

def Expr.printableOptions (q : Text → Bool) (inField : Bool) : List (Option Expr) → Bool
  | [] => true
  | o :: os => Expr.printableOption q inField o && Expr.printableOptions q inField os

/-- Whether a part of a formatted string prints: text, a field whose expression prints inside a
field and whose specification is a formatted string of such parts, or such a formatted string. -/
def Expr.partPrintable (q : Text → Bool) : Expr → Bool
  | .joinedStr values => Expr.partsPrintable q values
  | .constant (.str _ _) => true
  | .formattedValue value _ spec => value.printable q true && Expr.specPrintable q spec
  | _ => false

def Expr.partsPrintable (q : Text → Bool) : List Expr → Bool
  | [] => true
  | e :: es => e.partPrintable q && Expr.partsPrintable q es

def Expr.specPrintable (q : Text → Bool) : Option Expr → Bool
  | none => true
  | some (.joinedStr values) => Expr.partsPrintable q values
  | some _ => false

def Comprehension.printableAll (q : Text → Bool) (inField : Bool) : List Comprehension → Bool
  | [] => true
  | .mk target iter ifs _ :: rest =>
    target.printable q inField && iter.printable q inField && Expr.printableAll q inField ifs &&
      Comprehension.printableAll q inField rest

def Keyword.printableAll (q : Text → Bool) (inField : Bool) : List Keyword → Bool
  | [] => true
  | .mk name value :: rest =>
    (!inField || name.all slashFree) && value.printable q inField &&
      Keyword.printableAll q inField rest

def Arg.printable (q : Text → Bool) (inField : Bool) : Arg → Bool
  | .mk name hint => (!inField || slashFree name) && Expr.printableOption q inField hint

def Arg.printableAll (q : Text → Bool) (inField : Bool) : List Arg → Bool
  | [] => true
  | a :: rest => a.printable q inField && Arg.printableAll q inField rest

def Arg.printableOption (q : Text → Bool) (inField : Bool) : Option Arg → Bool
  | none => true
  | some a => a.printable q inField

def Arguments.printable (q : Text → Bool) (inField : Bool) : Arguments → Bool
  | .mk posOnly args vararg kwOnly kwDefaults kwarg defaults =>
    Arg.printableAll q inField posOnly && Arg.printableAll q inField args &&
      Arg.printableOption q inField vararg && Arg.printableAll q inField kwOnly &&
      Expr.printableOptions q inField kwDefaults && Arg.printableOption q inField kwarg &&
      Expr.printableAll q inField defaults

end

mutual

def Pattern.printable (q : Text → Bool) : Pattern → Bool
  | .value e => e.printable q false
  | .singleton v => v.printable q false
  | .sequence ps => Pattern.printableAll q ps
  | .mapping keys ps _ => Expr.printableAll q false keys && Pattern.printableAll q ps
  | .classPattern cls ps _ kps =>
    cls.printable q false && Pattern.printableAll q ps && Pattern.printableAll q kps
  | .star _ => true
  | .capture none _ => true
  | .capture (some p) _ => p.printable q
  | .alternatives ps => Pattern.printableAll q ps

def Pattern.printableAll (q : Text → Bool) : List Pattern → Bool
  | [] => true
  | p :: ps => p.printable q && Pattern.printableAll q ps

end

def WithItem.printable (q : Text → Bool) (w : WithItem) : Bool :=
  w.context.printable q false && Expr.printableOption q false w.vars

mutual

/-- Whether a statement prints: its expressions print outside a field, and no `raise` has a
cause without an exception. -/
def Stmt.printable (q : Text → Bool) : Stmt → Bool
  | .functionDef _ args body decorators returns _ =>
    args.printable q false && Stmt.printableAll q body && Expr.printableAll q false decorators &&
      Expr.printableOption q false returns
  | .classDef _ bases keywords body decorators =>
    Expr.printableAll q false bases && Keyword.printableAll q false keywords &&
      Stmt.printableAll q body && Expr.printableAll q false decorators
  | .returnStmt value => Expr.printableOption q false value
  | .delete targets => Expr.printableAll q false targets
  | .assign targets value => Expr.printableAll q false targets && value.printable q false
  | .augAssign target _ value => target.printable q false && value.printable q false
  | .annAssign target hint value _ =>
    target.printable q false && hint.printable q false && Expr.printableOption q false value
  | .forLoop target iter body orelse _ =>
    target.printable q false && iter.printable q false && Stmt.printableAll q body &&
      Stmt.printableAll q orelse
  | .whileLoop test body orelse =>
    test.printable q false && Stmt.printableAll q body && Stmt.printableAll q orelse
  | .ifStmt test body orelse =>
    test.printable q false && Stmt.printableAll q body && Stmt.printableAll q orelse
  | .withBlock items body _ => items.all (WithItem.printable q) && Stmt.printableAll q body
  | .matchStmt subject cases => subject.printable q false && MatchCase.printableAll q cases
  | .raise none (some _) => false
  | .raise exc cause => Expr.printableOption q false exc && Expr.printableOption q false cause
  | .tryBlock body handlers orelse finalbody _ =>
    Stmt.printableAll q body && Handler.printableAll q handlers && Stmt.printableAll q orelse &&
      Stmt.printableAll q finalbody
  | .assert test msg => test.printable q false && Expr.printableOption q false msg
  | .importNames _ => true
  | .importFrom _ _ _ => true
  | .global _ => true
  | .nonlocal _ => true
  | .expr value => value.printable q false
  | .pass => true
  | .breakStmt => true
  | .continueStmt => true

def Stmt.printableAll (q : Text → Bool) : List Stmt → Bool
  | [] => true
  | s :: rest => s.printable q && Stmt.printableAll q rest

def Handler.printableAll (q : Text → Bool) : List Handler → Bool
  | [] => true
  | .mk type _ body :: rest =>
    Expr.printableOption q false type && Stmt.printableAll q body && Handler.printableAll q rest

def MatchCase.printableAll (q : Text → Bool) : List MatchCase → Bool
  | [] => true
  | .mk pattern guard body :: rest =>
    pattern.printable q && Expr.printableOption q false guard && Stmt.printableAll q body &&
      MatchCase.printableAll q rest

end

/-! Texts without a backslash -/

@[simp] theorem slashFree_append (a b : String) :
    slashFree (a ++ b) = (slashFree a && slashFree b) := by
  simp [slashFree]

theorem slashFree_join : ∀ {l : List String}, (∀ s ∈ l, slashFree s = true) →
    slashFree (String.join l) = true
  | [], _ => rfl
  | s :: rest, free => by
    rw [String.join_cons, slashFree_append, free s List.mem_cons_self,
      slashFree_join fun t mem => free t (List.mem_cons_of_mem s mem)]
    rfl

theorem slashFree_comma : slashFree ", " = true := by decide

theorem slashFree_intercalate {sep : String} (sepFree : slashFree sep = true) :
    ∀ {l : List String}, (∀ s ∈ l, slashFree s = true) → slashFree (sep.intercalate l) = true
  | [], _ => rfl
  | [s], free => by
    rw [String.intercalate_singleton]
    exact free s List.mem_cons_self
  | s :: t :: rest, free => by
    rw [String.intercalate_cons_cons, slashFree_append, slashFree_append, sepFree,
      free s List.mem_cons_self,
      slashFree_intercalate sepFree fun u mem => free u (List.mem_cons_of_mem s mem)]
    rfl

@[simp] theorem slashFree_parenthesize (wrap : Bool) (s : String) :
    slashFree (parenthesize wrap s) = slashFree s := by
  cases wrap <;> simp [parenthesize, slashFree]

@[simp] theorem slashFree_inBraces (s : String) : slashFree (inBraces s) = slashFree s := by
  simp [inBraces, slashFree]

theorem slashFree_itemsView {items : List String} (free : ∀ s ∈ items, slashFree s = true) :
    slashFree (itemsView items) = true := by
  match items, free with
  | [x], free => simpa [itemsView, slashFree] using free x List.mem_cons_self
  | [], _ => rfl
  | x :: y :: rest, free => exact slashFree_intercalate (by decide) free

@[simp] theorem BinaryOp.slashFree_symbol (o : BinaryOp) : slashFree o.symbol = true := by
  cases o <;> decide

@[simp] theorem UnaryOp.slashFree_symbol (o : UnaryOp) : slashFree o.symbol = true := by
  cases o <;> decide

@[simp] theorem CompareOp.slashFree_symbol (o : CompareOp) : slashFree o.symbol = true := by
  cases o <;> decide

@[simp] theorem BoolOp.slashFree_keyword (o : BoolOp) : slashFree o.keyword = true := by
  cases o <;> decide

theorem slashFree_iff (s : String) : slashFree s = true ↔ '\\' ∉ s.toList := by
  simp [slashFree]

theorem backslash_not_mem_digitsOf (n : Nat) : '\\' ∉ digitsOf n := fun mem => by
  have digit := Nat.isDigit_of_mem_toDigits (by decide) (by decide) mem
  revert digit
  decide

theorem slashFree_repr (n : Nat) : slashFree (Nat.repr n) = true := by
  simpa [slashFree, Nat.repr, digitsOf] using backslash_not_mem_digitsOf n

theorem Notation.slashFree_layout (nt : Notation) (d : Dec) : slashFree (nt.layout d) = true := by
  have digits := backslash_not_mem_digitsOf d.digits
  rw [slashFree_iff]
  simp only [Notation.layout]
  -- the digits hold no backslash, nor does the mantissa made of them
  generalize digitsOf d.digits = ds at digits ⊢
  have taken : ∀ k, '\\' ∉ ds.take k := fun k mem => digits (List.mem_of_mem_take mem)
  have dropped : ∀ k, '\\' ∉ ds.drop k := fun k mem => digits (List.mem_of_mem_drop mem)
  rcases ds with _ | ⟨c, _ | ⟨c', rest⟩⟩ <;> split_ifs <;> simp_all [backslash_not_mem_digitsOf]

theorem Notation.slashFree_render (nt : Notation) (x : Float) : slashFree (nt.render x) = true := by
  simp only [Notation.render]
  split_ifs <;> (try simp only [slashFree_append, slashFree_layout, Bool.and_true]) <;> decide

theorem backslash_not_mem_spellFinite (l : List Char) : '\\' ∉ l → '\\' ∉ spellFinite l := by
  fun_induction spellFinite l with
  | case1 rest ih =>
    intro free
    simp only [List.mem_append, not_or]
    exact ⟨by decide, ih fun mem => free (by simp [mem])⟩
  | case2 rest ih =>
    intro free
    simp only [List.mem_append, not_or]
    exact ⟨by decide, ih fun mem => free (by simp [mem])⟩
  | case3 c rest _ _ ih =>
    intro free
    simp only [List.mem_cons, not_or] at free ⊢
    exact ⟨free.1, ih free.2⟩
  | case4 => simp

theorem slashFree_finiteSpelling {s : String} (free : slashFree s = true) :
    slashFree (finiteSpelling s) = true := by
  rw [slashFree_iff] at free ⊢
  simpa [finiteSpelling] using backslash_not_mem_spellFinite _ free

/-! What a print gives -/

/-- A print that succeeds, with no backslash in its text when it is inside a field. -/
def Prints (inField : Bool) (r : Except Fault String) : Prop :=
  ∃ s, r = .ok s ∧ (inField = true → slashFree s = true)

def PrintsAll (inField : Bool) (r : Except Fault (List String)) : Prop :=
  ∃ ss, r = .ok ss ∧ (inField = true → ∀ s ∈ ss, slashFree s = true)

def PrintsOption (inField : Bool) (r : Except Fault (Option String)) : Prop :=
  ∃ o, r = .ok o ∧ (inField = true → o.all slashFree = true)

theorem Prints.prepend {inField : Bool} {r : Except Fault String} {p : String}
    (pFree : slashFree p = true) (prints : Prints inField r) : Prints inField (r.map (p ++ ·)) := by
  obtain ⟨s, rfl, free⟩ := prints
  exact ⟨p ++ s, rfl, fun inside => by rw [slashFree_append, pFree, free inside]; rfl⟩

theorem mapM_id_prints {inField : Bool} :
    ∀ {l : List (Except Fault String)}, (∀ r ∈ l, Prints inField r) → PrintsAll inField (l.mapM id)
  | [], _ => ⟨[], rfl, fun _ _ mem => by simp at mem⟩
  | r :: rest, each => by
    obtain ⟨ss, run, frees⟩ := mapM_id_prints fun r' mem => each r' (List.mem_cons_of_mem r mem)
    obtain ⟨s, rfl, free⟩ := each r List.mem_cons_self
    refine ⟨s :: ss, ?_, fun inside t mem => ?_⟩
    · rw [List.mapM_cons, run]
      rfl
    · rcases List.mem_cons.mp mem with rfl | later
      · exact free inside
      · exact frees inside t later

theorem PrintsAll.join {inField : Bool} {r : Except Fault (List String)} (prints : PrintsAll inField r) :
    Prints inField (String.join <$> r) := by
  obtain ⟨ss, rfl, frees⟩ := prints
  exact ⟨_, rfl, fun inside => slashFree_join (frees inside)⟩

theorem PrintsAll.intercalate {inField : Bool} {r : Except Fault (List String)} {sep : String}
    (sepFree : slashFree sep = true) (prints : PrintsAll inField r) :
    ∃ ss, r = .ok ss ∧ (inField = true → slashFree (sep.intercalate ss) = true) := by
  obtain ⟨ss, rfl, frees⟩ := prints
  exact ⟨ss, rfl, fun inside => slashFree_intercalate sepFree (frees inside)⟩

theorem assembleParameters_prints {inField : Bool} {posCount : Nat}
    {positional defaults kwOnly : List (Except Fault String)}
    {vararg kwarg : Option (Except Fault String)} {kwDefaults : List (Except Fault (Option String))}
    (pos : ∀ r ∈ positional, Prints inField r) (dflt : ∀ r ∈ defaults, Prints inField r)
    (var : ∀ r, vararg = some r → Prints inField r) (kw : ∀ r ∈ kwOnly, Prints inField r)
    (kwDflt : ∀ r ∈ kwDefaults, PrintsOption inField r)
    (kwArg : ∀ r, kwarg = some r → Prints inField r) :
    Prints inField (assembleParameters posCount positional defaults vararg kwOnly kwDefaults kwarg) := by
  have literal : ∀ t : String, slashFree t = true → Prints inField (pure t) :=
    fun t free => ⟨t, rfl, fun _ => free⟩
  have separator : ∀ (c : Bool), Prints inField (pure (if c then "" else ", ")) := by
    intro c
    cases c <;> exact literal _ (by decide)
  simp only [assembleParameters]
  apply PrintsAll.join
  apply mapM_id_prints
  intro r mem
  simp only [List.mem_append, List.mem_flatten, List.mem_map] at mem
  rcases mem with ((positionals | starred) | keywords) | doubleStarred
  · -- a positional parameter, its default, and the slash after the positional-only ones
    obtain ⟨l, ⟨⟨⟨a, d⟩, i⟩, inZip, rfl⟩, mem⟩ := positionals
    rw [List.zipIdx_eq_zip_range'] at inZip
    obtain ⟨inPositional, inPadded⟩ := List.of_mem_zip (List.of_mem_zip inZip).1
    simp only [List.mem_append, List.mem_cons, List.mem_nil_iff, or_false] at mem
    rcases mem with ((rfl | rfl) | given) | slash
    · exact separator _
    · exact pos _ inPositional
    · cases d with
      | none => simp at given
      | some d =>
        simp only [List.mem_cons, List.mem_nil_iff, or_false] at given
        rcases given with rfl | rfl
        · exact literal _ (by decide)
        · simp only [List.mem_append, List.mem_replicate, List.mem_map] at inPadded
          rcases inPadded with ⟨-, never⟩ | ⟨d', inDefaults, same⟩
          · cases never
          · cases same
            exact dflt _ inDefaults
    · split at slash
      · simp only [List.mem_singleton] at slash
        exact slash ▸ literal _ (by decide)
      · simp at slash
  · -- the star, with the parameter it gathers
    split at starred
    · simp only [List.mem_append, List.mem_cons, List.mem_nil_iff, or_false] at starred
      rcases starred with (rfl | rfl) | gathered
      · exact separator _
      · exact literal _ (by decide)
      · cases vararg with
        | none => simp at gathered
        | some v =>
          simp only [List.mem_singleton] at gathered
          exact gathered ▸ var v rfl
    · simp at starred
  · -- a keyword-only parameter and its default
    obtain ⟨l, ⟨⟨a, d⟩, inZip, rfl⟩, mem⟩ := keywords
    obtain ⟨inKwOnly, inDefaults⟩ := List.of_mem_zip inZip
    simp only [List.mem_cons, List.mem_nil_iff, or_false] at mem
    rcases mem with rfl | rfl | rfl
    · exact literal _ (by decide)
    · exact kw _ inKwOnly
    · obtain ⟨o, rfl, free⟩ := kwDflt d inDefaults
      refine ⟨_, rfl, fun inside => ?_⟩
      cases o with
      | none => rfl
      | some t =>
        have tFree : slashFree t = true := by simpa using free inside
        show slashFree ("=" ++ t) = true
        rw [slashFree_append, tFree, Bool.and_true]
        decide
  · -- the double star, with the parameter it gathers
    cases kwarg with
    | none => simp at doubleStarred
    | some k =>
      simp only [List.mem_cons, List.mem_nil_iff, or_false] at doubleStarred
      rcases doubleStarred with rfl | rfl
      · exact separator _
      · exact (kwArg k rfl).prepend (by decide)

theorem Literal.render_prints {c : Literal} {inField : Bool}
    (printable : c.printable fieldQuotable inField) : Prints inField (c.render inField) := by
  cases c with
  | int n =>
    have within : ¬ (Nat.repr n).length > integerDigitLimit := by
      simpa [Literal.printable] using printable
    simp only [Literal.render, integerText, within, if_false]
    exact ⟨_, rfl, fun _ => slashFree_repr n⟩
  | float x =>
    exact ⟨_, rfl, fun _ => slashFree_finiteSpelling (Notation.slashFree_render _ x)⟩
  | imaginary x =>
    refine ⟨_, rfl, fun _ => slashFree_finiteSpelling ?_⟩
    simp +decide [Notation.slashFree_render]
  | str t u =>
    refine ⟨_, rfl, fun inside => ?_⟩
    simp only [Literal.printable, inside, Bool.not_true, Bool.false_or] at printable
    cases u <;> simp +decide [inside] <;> exact printable
  | bytes bs =>
    refine ⟨_, rfl, fun inside => ?_⟩
    simpa [Literal.printable, inside] using printable
  | none => exact ⟨_, rfl, fun _ => by decide⟩
  | true => exact ⟨_, rfl, fun _ => by decide⟩
  | false => exact ⟨_, rfl, fun _ => by decide⟩
  | ellipsis => exact ⟨_, rfl, fun _ => by decide⟩

theorem Expr.renderIndex_prints {inField : Bool} {e : Expr}
    (prints : Prints inField (e.render inField .test)) : Prints inField (Expr.renderIndex inField e) := by
  rw [Expr.renderIndex.eq_def]
  split
  · rename_i x xs
    obtain ⟨s, rendered, free⟩ := prints
    rw [Expr.render] at rendered
    cases items : (Expr.renderEach inField .test (x :: xs)).mapM id with
    | error f =>
      rw [items] at rendered
      cases rendered
    | ok items' =>
      rw [items] at rendered
      cases rendered
      exact ⟨_, rfl, fun inside => by simpa using free inside⟩
  · exact prints

/- These proofs follow the printer's own recursion, with its measures: each case unfolds one
equation of the printer and combines what its parts print. -/
mutual

theorem Expr.render_prints : ∀ (e : Expr) (inField : Bool) (p : Precedence),
    e.printable fieldQuotable inField = true → Prints inField (e.render inField p)
  | .boolOp o values, inField, p, h => by
    simp only [Expr.printable] at h
    obtain ⟨parts, rendered, free⟩ :=
      (Expr.renderRising_prints values inField o.precedence h).intercalate
        (by simp +decide : slashFree (" " ++ o.keyword ++ " ") = true)
    rw [Expr.render, rendered]
    exact ⟨_, rfl, fun inside => by simpa using free inside⟩
  | .namedExpr target value, inField, p, h => by
    simp only [Expr.printable, Bool.and_eq_true] at h
    obtain ⟨t, rt, ft⟩ := Expr.render_prints target inField .atom h.1
    obtain ⟨v, rv, fv⟩ := Expr.render_prints value inField .atom h.2
    rw [Expr.render, rt, rv]
    exact ⟨_, rfl, fun inside => by simp +decide [ft inside, fv inside]⟩
  | .binOp left o right, inField, p, h => by
    simp only [Expr.printable, Bool.and_eq_true] at h
    obtain ⟨l, rl, fl⟩ := Expr.render_prints left inField _ h.1
    obtain ⟨r, rr, fr⟩ := Expr.render_prints right inField _ h.2
    rw [Expr.render, rl, rr]
    exact ⟨_, rfl, fun inside => by simp +decide [fl inside, fr inside]⟩
  | .unaryOp o operand, inField, p, h => by
    simp only [Expr.printable] at h
    obtain ⟨v, rv, fv⟩ := Expr.render_prints operand inField o.precedence h
    rw [Expr.render, rv]
    refine ⟨_, rfl, fun inside => ?_⟩
    cases o <;> simp +decide [fv inside]
  | .lambda args body, inField, p, h => by
    simp only [Expr.printable, Bool.and_eq_true] at h
    obtain ⟨a, ra, fa⟩ := Arguments.render_prints args inField h.1
    obtain ⟨b, rb, fb⟩ := Expr.render_prints body inField .test h.2
    rw [Expr.render, ra, rb]
    refine ⟨_, rfl, fun inside => ?_⟩
    by_cases empty : a.isEmpty <;> simp +decide [empty, fa inside, fb inside]
  | .ifExp test body orelse, inField, p, h => by
    simp only [Expr.printable, Bool.and_eq_true] at h
    obtain ⟨⟨ht, hb⟩, he⟩ := h
    obtain ⟨b, rb, fb⟩ := Expr.render_prints body inField .or hb
    obtain ⟨t, rt, ft⟩ := Expr.render_prints test inField .or ht
    obtain ⟨e, re, fe⟩ := Expr.render_prints orelse inField .test he
    rw [Expr.render, rb, rt, re]
    exact ⟨_, rfl, fun inside => by simp +decide [fb inside, ft inside, fe inside]⟩
  | .dict keys values, inField, p, h => by
    simp only [Expr.printable, Bool.and_eq_true] at h
    obtain ⟨items, rendered, free⟩ :=
      (Expr.renderEntries_prints keys values inField h.1 h.2).intercalate slashFree_comma
    rw [Expr.render, rendered]
    exact ⟨_, rfl, fun inside => by simpa using free inside⟩
  | .set elts, inField, p, h => by
    simp only [Expr.printable] at h
    obtain ⟨items, rendered, free⟩ := mapM_id_prints (Expr.renderEach_prints elts inField .test h)
    rw [Expr.render, rendered]
    refine ⟨_, rfl, fun inside => ?_⟩
    by_cases empty : items.isEmpty
    · simp +decide [empty]
    · simpa [empty] using slashFree_intercalate slashFree_comma (free inside)
  | .listComp elt gens, inField, p, h => by
    simp only [Expr.printable, Bool.and_eq_true] at h
    obtain ⟨e, re, fe⟩ := Expr.render_prints elt inField .test h.1
    obtain ⟨g, rg, fg⟩ := Comprehension.renderAll_prints gens inField h.2
    rw [Expr.render, re, rg]
    exact ⟨_, rfl, fun inside => by simp +decide [fe inside, fg inside]⟩
  | .setComp elt gens, inField, p, h => by
    simp only [Expr.printable, Bool.and_eq_true] at h
    obtain ⟨e, re, fe⟩ := Expr.render_prints elt inField .test h.1
    obtain ⟨g, rg, fg⟩ := Comprehension.renderAll_prints gens inField h.2
    rw [Expr.render, re, rg]
    exact ⟨_, rfl, fun inside => by simp +decide [fe inside, fg inside]⟩
  | .dictComp key value gens, inField, p, h => by
    simp only [Expr.printable, Bool.and_eq_true] at h
    obtain ⟨⟨hk, hv⟩, hg⟩ := h
    obtain ⟨k, rk, fk⟩ := Expr.render_prints key inField .test hk
    obtain ⟨v, rv, fv⟩ := Expr.render_prints value inField .test hv
    obtain ⟨g, rg, fg⟩ := Comprehension.renderAll_prints gens inField hg
    rw [Expr.render, rk, rv, rg]
    exact ⟨_, rfl, fun inside => by simp +decide [fk inside, fv inside, fg inside]⟩
  | .generatorExp elt gens, inField, p, h => by
    simp only [Expr.printable, Bool.and_eq_true] at h
    obtain ⟨e, re, fe⟩ := Expr.render_prints elt inField .test h.1
    obtain ⟨g, rg, fg⟩ := Comprehension.renderAll_prints gens inField h.2
    rw [Expr.render, re, rg]
    exact ⟨_, rfl, fun inside => by simp +decide [fe inside, fg inside]⟩
  | .await value, inField, p, h => by
    simp only [Expr.printable] at h
    obtain ⟨v, rv, fv⟩ := Expr.render_prints value inField .atom h
    rw [Expr.render, rv]
    exact ⟨_, rfl, fun inside => by simp +decide [fv inside]⟩
  | .yield value, inField, p, h => by
    simp only [Expr.printable] at h
    obtain ⟨o, ro, fo⟩ := Expr.renderOption_prints value inField .atom h
    rw [Expr.render, ro]
    refine ⟨_, rfl, fun inside => ?_⟩
    cases o with
    | none => simp +decide
    | some v => simpa +decide using fo inside
  | .yieldFrom value, inField, p, h => by
    simp only [Expr.printable] at h
    obtain ⟨v, rv, fv⟩ := Expr.render_prints value inField .atom h
    rw [Expr.render, rv]
    exact ⟨_, rfl, fun inside => by simp +decide [fv inside]⟩
  | .compare left ops comparators, inField, p, h => by
    simp only [Expr.printable, Bool.and_eq_true] at h
    obtain ⟨l, rl, fl⟩ := Expr.render_prints left inField .bitOr h.1
    obtain ⟨cs, rcs, fcs⟩ := mapM_id_prints (Expr.renderEach_prints comparators inField .bitOr h.2)
    rw [Expr.render, rl, rcs]
    refine ⟨_, rfl, fun inside => ?_⟩
    -- each comparison is its operator and an operand
    have tail : slashFree (String.join ((ops.zip cs).map fun (o, c) => " " ++ o.symbol ++ " " ++ c)) =
        true := by
      apply slashFree_join
      simp only [List.mem_map, Prod.exists]
      rintro _ ⟨o, c, mem, rfl⟩
      simp +decide [fcs inside c (List.of_mem_zip mem).2]
    simp [fl inside, tail]
  | .call func args keywords, inField, p, h => by
    simp only [Expr.printable, Bool.and_eq_true] at h
    obtain ⟨⟨hf, ha⟩, hk⟩ := h
    obtain ⟨f, rf, ff⟩ := Expr.render_prints func inField .atom hf
    obtain ⟨a, ra, fa⟩ := mapM_id_prints (Expr.renderEach_prints args inField .test ha)
    obtain ⟨k, rk, fk⟩ := mapM_id_prints (Keyword.renderEach_prints keywords inField hk)
    rw [Expr.render, rf, ra, rk]
    refine ⟨_, rfl, fun inside => ?_⟩
    have items : slashFree (", ".intercalate (a ++ k)) = true := by
      apply slashFree_intercalate (by decide)
      intro s mem
      rcases List.mem_append.mp mem with mem | mem
      · exact fa inside s mem
      · exact fk inside s mem
    simp +decide [ff inside, items]
  | .formattedValue value conversion spec, inField, p, h => by
    simp only [Expr.printable, Bool.and_eq_true, Bool.not_eq_true'] at h
    obtain ⟨⟨outside, hv⟩, hs⟩ := h
    obtain ⟨t, rt⟩ := Expr.renderField_ok value conversion spec hv hs
    rw [Expr.render, rt]
    exact ⟨_, rfl, fun inside => by simp [inside] at outside⟩
  | .joinedStr values, inField, p, h => by
    simp only [Expr.printable, Bool.and_eq_true, Bool.not_eq_true'] at h
    obtain ⟨outside, hv⟩ := h
    obtain ⟨parts, rp⟩ := Expr.fieldParts_ok values hv
    subst outside
    rw [Expr.render, rp]
    exact ⟨_, rfl, fun inside => by cases inside⟩
  | .constant c, inField, p, h => by
    simp only [Expr.printable] at h
    rw [Expr.render]
    exact Literal.render_prints h
  | .attribute value attr, inField, p, h => by
    simp only [Expr.printable, Bool.and_eq_true] at h
    obtain ⟨v, rv, fv⟩ := Expr.render_prints value inField .atom h.1
    rw [Expr.render, rv]
    refine ⟨_, rfl, fun inside => ?_⟩
    have named : slashFree attr = true := by simpa [inside] using h.2
    by_cases integral : value.isIntegral <;> simp +decide [integral, fv inside, named]
  | .subscript value slice, inField, p, h => by
    simp only [Expr.printable, Bool.and_eq_true] at h
    obtain ⟨v, rv, fv⟩ := Expr.render_prints value inField .atom h.1
    obtain ⟨i, ri, fi⟩ := Expr.renderIndex_prints (Expr.render_prints slice inField .test h.2)
    rw [Expr.render, rv, ri]
    exact ⟨_, rfl, fun inside => by simp +decide [fv inside, fi inside]⟩
  | .starred value, inField, p, h => by
    simp only [Expr.printable] at h
    obtain ⟨v, rv, fv⟩ := Expr.render_prints value inField .bitOr h
    rw [Expr.render, rv]
    exact ⟨_, rfl, fun inside => by simp +decide [fv inside]⟩
  | .name id, inField, p, h => by
    rw [Expr.render]
    exact ⟨_, rfl, fun inside => by simpa [Expr.printable, inside] using h⟩
  | .list elts, inField, p, h => by
    simp only [Expr.printable] at h
    obtain ⟨items, rendered, free⟩ :=
      (mapM_id_prints (Expr.renderEach_prints elts inField .test h)).intercalate slashFree_comma
    rw [Expr.render, rendered]
    exact ⟨_, rfl, fun inside => by simp +decide [free inside]⟩
  | .tuple elts, inField, p, h => by
    simp only [Expr.printable] at h
    obtain ⟨items, rendered, free⟩ := mapM_id_prints (Expr.renderEach_prints elts inField .test h)
    rw [Expr.render, rendered]
    exact ⟨_, rfl, fun inside => by simp [slashFree_itemsView (free inside)]⟩
  | .slice lower upper step, inField, p, h => by
    simp only [Expr.printable, Bool.and_eq_true] at h
    obtain ⟨⟨hl, hu⟩, hs⟩ := h
    obtain ⟨l, rl, fl⟩ := Expr.renderOption_prints lower inField .test hl
    obtain ⟨u, ru, fu⟩ := Expr.renderOption_prints upper inField .test hu
    obtain ⟨s, rs, fs⟩ := Expr.renderOption_prints step inField .test hs
    rw [Expr.render, rl, ru, rs]
    refine ⟨_, rfl, fun inside => ?_⟩
    have fl := fl inside
    have fu := fu inside
    have fs := fs inside
    cases l <;> cases u <;> cases s <;> simp_all +decide
termination_by e _ _ _ => 2 * sizeOf e

theorem Expr.renderEach_prints : ∀ (es : List Expr) (inField : Bool) (p : Precedence),
    Expr.printableAll fieldQuotable inField es = true →
      ∀ r ∈ Expr.renderEach inField p es, Prints inField r
  | [], _, _, _ => by simp [Expr.renderEach]
  | e :: es, inField, p, h => by
    simp only [Expr.printableAll, Bool.and_eq_true] at h
    intro r mem
    rw [Expr.renderEach] at mem
    rcases List.mem_cons.mp mem with rfl | later
    · exact Expr.render_prints e inField p h.1
    · exact Expr.renderEach_prints es inField p h.2 r later
termination_by es _ _ _ => 2 * sizeOf es

theorem Expr.renderRising_prints : ∀ (es : List Expr) (inField : Bool) (p : Precedence),
    Expr.printableAll fieldQuotable inField es = true →
      PrintsAll inField (Expr.renderRising inField p es)
  | [], _, _, _ => by
    rw [Expr.renderRising]
    exact ⟨[], rfl, fun _ _ mem => by simp at mem⟩
  | e :: es, inField, p, h => by
    simp only [Expr.printableAll, Bool.and_eq_true] at h
    obtain ⟨s, rs, fs⟩ := Expr.render_prints e inField p.next h.1
    obtain ⟨ss, rss, fss⟩ := Expr.renderRising_prints es inField p.next h.2
    rw [Expr.renderRising, rs, rss]
    refine ⟨_, rfl, fun inside t mem => ?_⟩
    rcases List.mem_cons.mp mem with rfl | later
    · exact fs inside
    · exact fss inside t later
termination_by es _ _ _ => 2 * sizeOf es

theorem Expr.renderOption_prints : ∀ (o : Option Expr) (inField : Bool) (p : Precedence),
    Expr.printableOption fieldQuotable inField o = true →
      PrintsOption inField (Expr.renderOption inField p o)
  | none, _, _, _ => by
    rw [Expr.renderOption]
    exact ⟨none, rfl, fun _ => rfl⟩
  | some e, inField, p, h => by
    simp only [Expr.printableOption] at h
    obtain ⟨s, rs, fs⟩ := Expr.render_prints e inField p h
    rw [Expr.renderOption, rs]
    exact ⟨some s, rfl, fun inside => by simpa using fs inside⟩
termination_by o _ _ _ => 2 * sizeOf o

theorem Expr.renderOptionEach_prints : ∀ (os : List (Option Expr)) (inField : Bool) (p : Precedence),
    Expr.printableOptions fieldQuotable inField os = true →
      ∀ r ∈ Expr.renderOptionEach inField p os, PrintsOption inField r
  | [], _, _, _ => by simp [Expr.renderOptionEach]
  | o :: os, inField, p, h => by
    simp only [Expr.printableOptions, Bool.and_eq_true] at h
    intro r mem
    rw [Expr.renderOptionEach] at mem
    rcases List.mem_cons.mp mem with rfl | later
    · exact Expr.renderOption_prints o inField p h.1
    · exact Expr.renderOptionEach_prints os inField p h.2 r later
termination_by os _ _ _ => 2 * sizeOf os

theorem Expr.renderEntries_prints : ∀ (keys : List (Option Expr)) (values : List Expr)
    (inField : Bool), Expr.printableOptions fieldQuotable inField keys = true →
      Expr.printableAll fieldQuotable inField values = true →
        PrintsAll inField (Expr.renderEntries inField keys values)
  | some k :: ks, v :: vs, inField, hk, hv => by
    simp only [Expr.printableOptions, Expr.printableOption, Expr.printableAll,
      Bool.and_eq_true] at hk hv
    obtain ⟨a, ra, fa⟩ := Expr.render_prints k inField .test hk.1
    obtain ⟨b, rb, fb⟩ := Expr.render_prints v inField .test hv.1
    obtain ⟨rest, rrest, frest⟩ := Expr.renderEntries_prints ks vs inField hk.2 hv.2
    rw [Expr.renderEntries, ra, rb, rrest]
    refine ⟨_, rfl, fun inside t mem => ?_⟩
    rcases List.mem_cons.mp mem with rfl | later
    · simp +decide [fa inside, fb inside]
    · exact frest inside t later
  | none :: ks, v :: vs, inField, hk, hv => by
    simp only [Expr.printableOptions, Expr.printableAll, Bool.and_eq_true] at hk hv
    obtain ⟨b, rb, fb⟩ := Expr.render_prints v inField .bitOr hv.1
    obtain ⟨rest, rrest, frest⟩ := Expr.renderEntries_prints ks vs inField hk.2 hv.2
    rw [Expr.renderEntries, rb, rrest]
    refine ⟨_, rfl, fun inside t mem => ?_⟩
    rcases List.mem_cons.mp mem with rfl | later
    · simp +decide [fb inside]
    · exact frest inside t later
  | [], values, _, _, _ => by
    refine ⟨[], ?_, fun _ _ mem => by simp at mem⟩
    cases values <;> (simp only [Expr.renderEntries]; rfl)
  | _ :: _, [], _, _, _ => by
    refine ⟨[], ?_, fun _ _ mem => by simp at mem⟩
    simp only [Expr.renderEntries]
    rfl
termination_by ks vs _ _ _ => 2 * (sizeOf ks + sizeOf vs)

theorem Expr.renderField_ok : ∀ (value : Expr) (conversion : Int) (spec : Option Expr),
    value.printable fieldQuotable true = true → Expr.specPrintable fieldQuotable spec = true →
      ∃ t, Expr.renderField conversion value spec = .ok t
  | value, conversion, spec, hv, hs => by
    obtain ⟨e, re, fe⟩ := Expr.render_prints value true .or hv
    obtain ⟨t, rt⟩ := Expr.specText_ok spec hs
    have clean : e.toList.contains '\\' = false := by simpa [slashFree] using fe rfl
    rw [Expr.renderField, re, rt]
    simp only [bind, Except.bind, clean, Bool.false_eq_true, ↓reduceIte]
    exact ⟨_, rfl⟩
termination_by value _ spec _ _ => 2 * (sizeOf value + sizeOf spec) + 1

theorem Expr.specText_ok : ∀ (spec : Option Expr), Expr.specPrintable fieldQuotable spec = true →
    ∃ t, Expr.specText spec = .ok t
  | none, _ => by
    rw [Expr.specText]
    exact ⟨[], rfl⟩
  | some (.joinedStr values), h => by
    simp only [Expr.specPrintable] at h
    obtain ⟨parts, rp⟩ := Expr.fieldParts_ok values h
    rw [Expr.specText, Expr.fieldText, rp]
    exact ⟨_, rfl⟩
termination_by o _ => 2 * sizeOf o

theorem Expr.fieldParts_ok : ∀ (values : List Expr), Expr.partsPrintable fieldQuotable values = true →
    ∃ parts, Expr.fieldParts values = .ok parts
  | [], _ => by
    rw [Expr.fieldParts]
    exact ⟨[], rfl⟩
  | v :: vs, h => by
    simp only [Expr.partsPrintable, Bool.and_eq_true] at h
    obtain ⟨t, rt⟩ := Expr.fieldText_ok v h.1
    obtain ⟨rest, rrest⟩ := Expr.fieldParts_ok vs h.2
    rw [Expr.fieldParts, rt, rrest]
    exact ⟨_, rfl⟩
termination_by vs _ => 2 * sizeOf vs

theorem Expr.fieldText_ok : ∀ (e : Expr), e.partPrintable fieldQuotable = true →
    ∃ t, e.fieldText = .ok t
  | .joinedStr values, h => by
    simp only [Expr.partPrintable] at h
    obtain ⟨parts, rp⟩ := Expr.fieldParts_ok values h
    rw [Expr.fieldText, rp]
    exact ⟨_, rfl⟩
  | .constant (.str t u), _ => by
    rw [Expr.fieldText]
    exact ⟨_, rfl⟩
  | .formattedValue value conversion spec, h => by
    simp only [Expr.partPrintable, Bool.and_eq_true] at h
    rw [Expr.fieldText]
    exact Expr.renderField_ok value conversion spec h.1 h.2
termination_by e _ => 2 * sizeOf e

theorem Comprehension.renderAll_prints : ∀ (gens : List Comprehension) (inField : Bool),
    Comprehension.printableAll fieldQuotable inField gens = true →
      Prints inField (Comprehension.renderAll inField gens)
  | [], _, _ => by
    rw [Comprehension.renderAll]
    exact ⟨"", rfl, fun _ => rfl⟩
  | .mk target iter ifs isAsync :: rest, inField, h => by
    simp only [Comprehension.printableAll, Bool.and_eq_true] at h
    obtain ⟨⟨⟨ht, hi⟩, hifs⟩, hrest⟩ := h
    obtain ⟨t, rt, ft⟩ := Expr.render_prints target inField .tuple ht
    obtain ⟨i, ri, fi⟩ := Expr.render_prints iter inField .or hi
    obtain ⟨cs, rcs, fcs⟩ := mapM_id_prints (Expr.renderEach_prints ifs inField .or hifs)
    obtain ⟨more, rmore, fmore⟩ := Comprehension.renderAll_prints rest inField hrest
    rw [Comprehension.renderAll, rt, ri, rcs, rmore]
    refine ⟨_, rfl, fun inside => ?_⟩
    have conditions : slashFree (String.join (cs.map (" if " ++ ·))) = true := by
      apply slashFree_join
      simp only [List.mem_map]
      rintro _ ⟨c, mem, rfl⟩
      simp +decide [fcs inside c mem]
    cases isAsync <;> simp +decide [ft inside, fi inside, fmore inside, conditions]
termination_by gs _ _ => 2 * sizeOf gs

theorem Keyword.renderEach_prints : ∀ (keywords : List Keyword) (inField : Bool),
    Keyword.printableAll fieldQuotable inField keywords = true →
      ∀ r ∈ Keyword.renderEach inField keywords, Prints inField r
  | [], _, _ => by simp [Keyword.renderEach]
  | .mk name value :: rest, inField, h => by
    simp only [Keyword.printableAll, Bool.and_eq_true] at h
    obtain ⟨⟨hn, hv⟩, hrest⟩ := h
    intro r mem
    rw [Keyword.renderEach.eq_def] at mem
    simp only [List.mem_cons] at mem
    rcases mem with rfl | later
    · obtain ⟨v, rv, fv⟩ := Expr.render_prints value inField .test hv
      rw [rv]
      refine ⟨_, rfl, fun inside => ?_⟩
      cases name with
      | none => simp +decide [fv inside]
      | some n =>
        have named : slashFree n = true := by simpa [inside] using hn
        simp +decide [fv inside, named]
    · exact Keyword.renderEach_prints rest inField hrest r later
termination_by ks _ _ => 2 * sizeOf ks

theorem Arg.render_prints : ∀ (a : Arg) (inField : Bool), a.printable fieldQuotable inField = true →
    Prints inField (a.render inField)
  | .mk name none, inField, h => by
    simp only [Arg.printable, Expr.printableOption, Bool.and_true] at h
    rw [Arg.render]
    exact ⟨_, rfl, fun inside => by simpa [inside] using h⟩
  | .mk name (some hint), inField, h => by
    simp only [Arg.printable, Expr.printableOption, Bool.and_eq_true] at h
    obtain ⟨a, ra, fa⟩ := Expr.render_prints hint inField .test h.2
    rw [Arg.render, ra]
    refine ⟨_, rfl, fun inside => ?_⟩
    have named : slashFree name = true := by simpa [inside] using h.1
    simp +decide [fa inside, named]
termination_by a _ _ => 2 * sizeOf a

theorem Arg.renderEach_prints : ∀ (as : List Arg) (inField : Bool),
    Arg.printableAll fieldQuotable inField as = true → ∀ r ∈ Arg.renderEach inField as, Prints inField r
  | [], _, _ => by simp [Arg.renderEach]
  | a :: rest, inField, h => by
    simp only [Arg.printableAll, Bool.and_eq_true] at h
    intro r mem
    rw [Arg.renderEach] at mem
    rcases List.mem_cons.mp mem with rfl | later
    · exact Arg.render_prints a inField h.1
    · exact Arg.renderEach_prints rest inField h.2 r later
termination_by as _ _ => 2 * sizeOf as

theorem Arg.renderOption_prints : ∀ (o : Option Arg) (inField : Bool),
    Arg.printableOption fieldQuotable inField o = true →
      ∀ r, Arg.renderOption inField o = some r → Prints inField r
  | none, _, _, _, given => by
    rw [Arg.renderOption] at given
    cases given
  | some a, inField, h, r, given => by
    rw [Arg.renderOption] at given
    cases given
    exact Arg.render_prints a inField h
termination_by o _ _ _ _ => 2 * sizeOf o

theorem Arguments.render_prints : ∀ (a : Arguments) (inField : Bool),
    a.printable fieldQuotable inField = true → Prints inField (a.render inField)
  | .mk posOnly args vararg kwOnly kwDefaults kwarg defaults, inField, h => by
    simp only [Arguments.printable, Bool.and_eq_true] at h
    obtain ⟨⟨⟨⟨⟨⟨hp, ha⟩, hv⟩, hk⟩, hkd⟩, hkw⟩, hd⟩ := h
    rw [Arguments.render]
    apply assembleParameters_prints
    · intro r mem
      rcases List.mem_append.mp mem with mem | mem
      · exact Arg.renderEach_prints posOnly inField hp r mem
      · exact Arg.renderEach_prints args inField ha r mem
    · exact Expr.renderEach_prints defaults inField .test hd
    · exact Arg.renderOption_prints vararg inField hv
    · exact Arg.renderEach_prints kwOnly inField hk
    · exact Expr.renderOptionEach_prints kwDefaults inField .test hkd
    · exact Arg.renderOption_prints kwarg inField hkw
termination_by a _ _ => 2 * sizeOf a
end

/-! Statements print outside any field -/

mutual

theorem Pattern.render_ok : ∀ (q : Pattern) (p : Precedence), q.printable fieldQuotable = true →
    ∃ s, q.render p = .ok s
  | .value e, p, h => by
    simp only [Pattern.printable] at h
    obtain ⟨s, rs, -⟩ := Expr.render_prints e false .test h
    rw [Pattern.render]
    exact ⟨s, rs⟩
  | .singleton v, p, h => by
    simp only [Pattern.printable] at h
    obtain ⟨s, rs, -⟩ := Literal.render_prints h
    rw [Pattern.render]
    exact ⟨s, rs⟩
  | .sequence ps, p, h => by
    simp only [Pattern.printable] at h
    obtain ⟨items, ri⟩ := Pattern.renderAll_ok ps .test h
    rw [Pattern.render, ri]
    exact ⟨_, rfl⟩
  | .mapping keys ps rest, p, h => by
    simp only [Pattern.printable, Bool.and_eq_true] at h
    obtain ⟨ks, rks, -⟩ := mapM_id_prints (Expr.renderEach_prints keys false .test h.1)
    obtain ⟨vs, rvs⟩ := Pattern.renderAll_ok ps .test h.2
    rw [Pattern.render.eq_def]
    simp only [rks, rvs]
    exact ⟨_, rfl⟩
  | .classPattern cls ps attrs kps, p, h => by
    simp only [Pattern.printable, Bool.and_eq_true] at h
    obtain ⟨⟨hc, hps⟩, hkps⟩ := h
    obtain ⟨c, rc, -⟩ := Expr.render_prints cls false .atom hc
    obtain ⟨positional, rpos⟩ := Pattern.renderAll_ok ps .test hps
    obtain ⟨keyed, rkeyed⟩ := Pattern.renderAll_ok kps .test hkps
    rw [Pattern.render, rc, rpos, rkeyed]
    exact ⟨_, rfl⟩
  | .star name, p, _ => by
    rw [Pattern.render]
    exact ⟨_, rfl⟩
  | .capture none (some n), p, _ => by
    rw [Pattern.render]
    exact ⟨_, rfl⟩
  | .capture (some q) (some n), p, h => by
    simp only [Pattern.printable] at h
    obtain ⟨s, rs⟩ := Pattern.render_ok q .bitOr h
    rw [Pattern.render, rs]
    exact ⟨_, rfl⟩
  | .capture none none, p, _ => by
    rw [Pattern.render.eq_def]
    exact ⟨_, rfl⟩
  | .capture (some q) none, p, _ => by
    rw [Pattern.render.eq_def]
    exact ⟨_, rfl⟩
  | .alternatives ps, p, h => by
    simp only [Pattern.printable] at h
    obtain ⟨items, ri⟩ := Pattern.renderAll_ok ps .bitXor h
    rw [Pattern.render, ri]
    exact ⟨_, rfl⟩
termination_by q _ _ => sizeOf q

theorem Pattern.renderAll_ok : ∀ (qs : List Pattern) (p : Precedence),
    Pattern.printableAll fieldQuotable qs = true → ∃ ss, Pattern.renderAll p qs = .ok ss
  | [], p, _ => by
    rw [Pattern.renderAll]
    exact ⟨[], rfl⟩
  | q :: qs, p, h => by
    simp only [Pattern.printableAll, Bool.and_eq_true] at h
    obtain ⟨s, rs⟩ := Pattern.render_ok q p h.1
    obtain ⟨rest, rrest⟩ := Pattern.renderAll_ok qs p h.2
    rw [Pattern.renderAll, rs, rrest]
    exact ⟨_, rfl⟩
termination_by qs _ _ => sizeOf qs

end

theorem WithItem.render_ok {w : WithItem} (h : w.printable fieldQuotable = true) :
    ∃ s, w.render = .ok s := by
  simp only [WithItem.printable, Bool.and_eq_true] at h
  obtain ⟨c, rc, -⟩ := Expr.render_prints w.context false .test h.1
  obtain ⟨v, rv, -⟩ := Expr.renderOption_prints w.vars false .test h.2
  rw [WithItem.render, rc, rv]
  exact ⟨_, rfl⟩

theorem WithItem.renderAll_ok : ∀ {items : List WithItem},
    items.all (WithItem.printable fieldQuotable) = true → ∃ ws, items.mapM WithItem.render = .ok ws
  | [], _ => ⟨[], rfl⟩
  | w :: rest, h => by
    simp only [List.all_cons, Bool.and_eq_true] at h
    obtain ⟨s, rs⟩ := WithItem.render_ok h.1
    obtain ⟨ws, rws⟩ := WithItem.renderAll_ok h.2
    rw [List.mapM_cons, rs, rws]
    exact ⟨_, rfl⟩

mutual

theorem Stmt.lines_ok : ∀ (depth : Nat) (s : Stmt), s.printable fieldQuotable = true →
    ∃ ls, s.lines depth = .ok ls
  | depth, .functionDef name args body decorators returns isAsync, h => by
    simp only [Stmt.printable, Bool.and_eq_true] at h
    obtain ⟨⟨⟨ha, hb⟩, hd⟩, hr⟩ := h
    obtain ⟨decos, rdecos, -⟩ := mapM_id_prints (Expr.renderEach_prints decorators false .test hd)
    obtain ⟨a, ra, -⟩ := Arguments.render_prints args false ha
    obtain ⟨r, rr, -⟩ := Expr.renderOption_prints returns false .test hr
    obtain ⟨inner, rinner⟩ := Stmt.documentedLines_ok (depth + 1) body hb
    rw [Stmt.lines, rdecos, ra, rr, rinner]
    exact ⟨_, rfl⟩
  | depth, .classDef name bases keywords body decorators, h => by
    simp only [Stmt.printable, Bool.and_eq_true] at h
    obtain ⟨⟨⟨hbs, hks⟩, hb⟩, hd⟩ := h
    obtain ⟨decos, rdecos, -⟩ := mapM_id_prints (Expr.renderEach_prints decorators false .test hd)
    obtain ⟨bs, rbs, -⟩ := mapM_id_prints (Expr.renderEach_prints bases false .test hbs)
    obtain ⟨ks, rks, -⟩ := mapM_id_prints (Keyword.renderEach_prints keywords false hks)
    obtain ⟨inner, rinner⟩ := Stmt.documentedLines_ok (depth + 1) body hb
    rw [Stmt.lines, rdecos, rbs, rks, rinner]
    exact ⟨_, rfl⟩
  | depth, .returnStmt value, h => by
    simp only [Stmt.printable] at h
    obtain ⟨v, rv, -⟩ := Expr.renderOption_prints value false .test h
    rw [Stmt.lines, rv]
    exact ⟨_, rfl⟩
  | depth, .delete targets, h => by
    simp only [Stmt.printable] at h
    obtain ⟨ts, rts, -⟩ := mapM_id_prints (Expr.renderEach_prints targets false .test h)
    rw [Stmt.lines, rts]
    exact ⟨_, rfl⟩
  | depth, .assign targets value, h => by
    simp only [Stmt.printable, Bool.and_eq_true] at h
    obtain ⟨ts, rts, -⟩ := mapM_id_prints (Expr.renderEach_prints targets false .tuple h.1)
    obtain ⟨v, rv, -⟩ := Expr.render_prints value false .test h.2
    rw [Stmt.lines, rts, rv]
    exact ⟨_, rfl⟩
  | depth, .augAssign target o value, h => by
    simp only [Stmt.printable, Bool.and_eq_true] at h
    obtain ⟨t, rt, -⟩ := Expr.render_prints target false .test h.1
    obtain ⟨v, rv, -⟩ := Expr.render_prints value false .test h.2
    rw [Stmt.lines, rt, rv]
    exact ⟨_, rfl⟩
  | depth, .annAssign target hint value simple, h => by
    simp only [Stmt.printable, Bool.and_eq_true] at h
    obtain ⟨⟨ht, hh⟩, hv⟩ := h
    obtain ⟨t, rt, -⟩ := Expr.render_prints target false .test ht
    obtain ⟨a, ra, -⟩ := Expr.render_prints hint false .test hh
    obtain ⟨v, rv, -⟩ := Expr.renderOption_prints value false .test hv
    -- the equations of the printer split on whether the target is a plain name
    rw [Stmt.lines.eq_def]
    simp only [rt, ra, rv]
    exact ⟨_, rfl⟩
  | depth, .forLoop target iter body orelse isAsync, h => by
    simp only [Stmt.printable, Bool.and_eq_true] at h
    obtain ⟨⟨⟨ht, hi⟩, hb⟩, ho⟩ := h
    obtain ⟨t, rt, -⟩ := Expr.render_prints target false .tuple ht
    obtain ⟨i, ri, -⟩ := Expr.render_prints iter false .test hi
    obtain ⟨inner, rinner⟩ := Stmt.blockLines_ok (depth + 1) body hb
    obtain ⟨rest, rrest⟩ := Stmt.elseLines_ok depth false orelse ho
    rw [Stmt.lines, rt, ri, rinner, rrest]
    exact ⟨_, rfl⟩
  | depth, .whileLoop test body orelse, h => by
    simp only [Stmt.printable, Bool.and_eq_true] at h
    obtain ⟨⟨ht, hb⟩, ho⟩ := h
    obtain ⟨t, rt, -⟩ := Expr.render_prints test false .test ht
    obtain ⟨inner, rinner⟩ := Stmt.blockLines_ok (depth + 1) body hb
    obtain ⟨rest, rrest⟩ := Stmt.elseLines_ok depth false orelse ho
    rw [Stmt.lines, rt, rinner, rrest]
    exact ⟨_, rfl⟩
  | depth, .ifStmt test body orelse, h => by
    simp only [Stmt.printable, Bool.and_eq_true] at h
    obtain ⟨⟨ht, hb⟩, ho⟩ := h
    obtain ⟨t, rt, -⟩ := Expr.render_prints test false .test ht
    obtain ⟨inner, rinner⟩ := Stmt.blockLines_ok (depth + 1) body hb
    obtain ⟨rest, rrest⟩ := Stmt.elseLines_ok depth true orelse ho
    rw [Stmt.lines, rt, rinner, rrest]
    exact ⟨_, rfl⟩
  | depth, .withBlock items body isAsync, h => by
    simp only [Stmt.printable, Bool.and_eq_true] at h
    obtain ⟨ws, rws⟩ := WithItem.renderAll_ok h.1
    obtain ⟨inner, rinner⟩ := Stmt.blockLines_ok (depth + 1) body h.2
    rw [Stmt.lines, rws, rinner]
    exact ⟨_, rfl⟩
  | depth, .matchStmt subject cases, h => by
    simp only [Stmt.printable, Bool.and_eq_true] at h
    obtain ⟨s, rs, -⟩ := Expr.render_prints subject false .test h.1
    obtain ⟨inner, rinner⟩ := MatchCase.linesAll_ok (depth + 1) cases h.2
    rw [Stmt.lines, rs, rinner]
    exact ⟨_, rfl⟩
  | depth, .raise none none, _ => by
    rw [Stmt.lines]
    exact ⟨_, rfl⟩
  | depth, .raise none (some _), h => by
    simp [Stmt.printable] at h
  | depth, .raise (some exc) cause, h => by
    simp only [Stmt.printable, Expr.printableOption, Bool.and_eq_true] at h
    obtain ⟨e, re, -⟩ := Expr.render_prints exc false .test h.1
    obtain ⟨c, rc, -⟩ := Expr.renderOption_prints cause false .test h.2
    rw [Stmt.lines, re, rc]
    exact ⟨_, rfl⟩
  | depth, .tryBlock body handlers orelse finalbody isStar, h => by
    simp only [Stmt.printable, Bool.and_eq_true] at h
    obtain ⟨⟨⟨hb, hh⟩, ho⟩, hf⟩ := h
    obtain ⟨inner, rinner⟩ := Stmt.blockLines_ok (depth + 1) body hb
    obtain ⟨hs, rhs⟩ := Handler.linesAll_ok depth isStar handlers hh
    obtain ⟨rest, rrest⟩ := Stmt.elseLines_ok depth false orelse ho
    obtain ⟨final, rfinal⟩ := Stmt.blockLines_ok (depth + 1) finalbody hf
    rw [Stmt.lines, rinner, rhs, rrest, rfinal]
    exact ⟨_, rfl⟩
  | depth, .assert test msg, h => by
    simp only [Stmt.printable, Bool.and_eq_true] at h
    obtain ⟨t, rt, -⟩ := Expr.render_prints test false .test h.1
    obtain ⟨m, rm, -⟩ := Expr.renderOption_prints msg false .test h.2
    rw [Stmt.lines, rt, rm]
    exact ⟨_, rfl⟩
  | depth, .importNames names, _ => by
    rw [Stmt.lines]
    exact ⟨_, rfl⟩
  | depth, .importFrom module names level, _ => by
    rw [Stmt.lines]
    exact ⟨_, rfl⟩
  | depth, .global names, _ => by
    rw [Stmt.lines]
    exact ⟨_, rfl⟩
  | depth, .nonlocal names, _ => by
    rw [Stmt.lines]
    exact ⟨_, rfl⟩
  | depth, .expr value, h => by
    simp only [Stmt.printable] at h
    obtain ⟨v, rv, -⟩ := Expr.render_prints value false .yield h
    rw [Stmt.lines, rv]
    exact ⟨_, rfl⟩
  | depth, .pass, _ => by
    rw [Stmt.lines]
    exact ⟨_, rfl⟩
  | depth, .breakStmt, _ => by
    rw [Stmt.lines]
    exact ⟨_, rfl⟩
  | depth, .continueStmt, _ => by
    rw [Stmt.lines]
    exact ⟨_, rfl⟩
termination_by _ s _ => 2 * sizeOf s

theorem Stmt.blockLines_ok : ∀ (depth : Nat) (body : List Stmt),
    Stmt.printableAll fieldQuotable body = true → ∃ ls, Stmt.blockLines depth body = .ok ls
  | depth, [], _ => by
    rw [Stmt.blockLines]
    exact ⟨[], rfl⟩
  | depth, s :: rest, h => by
    simp only [Stmt.printableAll, Bool.and_eq_true] at h
    obtain ⟨first, rfirst⟩ := Stmt.lines_ok depth s h.1
    obtain ⟨more, rmore⟩ := Stmt.blockLines_ok depth rest h.2
    rw [Stmt.blockLines, rfirst, rmore]
    exact ⟨_, rfl⟩
termination_by _ body _ => 2 * sizeOf body

theorem Stmt.documentedLines_ok : ∀ (depth : Nat) (body : List Stmt),
    Stmt.printableAll fieldQuotable body = true → ∃ ls, Stmt.documentedLines depth body = .ok ls
  | depth, body, h => by
    rw [Stmt.documentedLines.eq_def]
    split
    · -- a leading docstring is written out as it stands; the rest prints as a body
      rename_i t u rest
      simp only [Stmt.printableAll, Bool.and_eq_true] at h
      obtain ⟨more, rmore⟩ := Stmt.blockLines_ok depth rest h.2
      rw [rmore]
      exact ⟨_, rfl⟩
    · exact Stmt.blockLines_ok depth body h
termination_by _ body _ => 2 * sizeOf body + 1

theorem Stmt.elseLines_ok : ∀ (depth : Nat) (chained : Bool) (orelse : List Stmt),
    Stmt.printableAll fieldQuotable orelse = true → ∃ ls, Stmt.elseLines depth chained orelse = .ok ls
  | depth, chained, orelse, h => by
    rw [Stmt.elseLines.eq_def]
    split
    · exact ⟨[], rfl⟩
    · rename_i test body orelse'
      cases chained with
      | true =>
        simp only [Stmt.printableAll, Stmt.printable, Bool.and_true, Bool.and_eq_true] at h
        obtain ⟨⟨ht, hb⟩, ho⟩ := h
        obtain ⟨t, rt, -⟩ := Expr.render_prints test false .test ht
        obtain ⟨inner, rinner⟩ := Stmt.blockLines_ok (depth + 1) body hb
        obtain ⟨rest, rrest⟩ := Stmt.elseLines_ok depth true orelse' ho
        simp only [↓reduceIte]
        rw [rt, rinner, rrest]
        exact ⟨_, rfl⟩
      | false =>
        obtain ⟨inner, rinner⟩ := Stmt.blockLines_ok (depth + 1) _ h
        simp only [Bool.false_eq_true, ↓reduceIte]
        rw [rinner]
        exact ⟨_, rfl⟩
    · obtain ⟨inner, rinner⟩ := Stmt.blockLines_ok (depth + 1) orelse h
      rw [rinner]
      exact ⟨_, rfl⟩
termination_by _ _ orelse _ => 2 * sizeOf orelse + 1

theorem Handler.linesAll_ok : ∀ (depth : Nat) (isStar : Bool) (handlers : List Handler),
    Handler.printableAll fieldQuotable handlers = true →
      ∃ ls, Handler.linesAll depth isStar handlers = .ok ls
  | depth, isStar, [], _ => by
    rw [Handler.linesAll]
    exact ⟨[], rfl⟩
  | depth, isStar, .mk type name body :: rest, h => by
    simp only [Handler.printableAll, Bool.and_eq_true] at h
    obtain ⟨⟨ht, hb⟩, hrest⟩ := h
    obtain ⟨t, rt, -⟩ := Expr.renderOption_prints type false .test ht
    obtain ⟨inner, rinner⟩ := Stmt.blockLines_ok (depth + 1) body hb
    obtain ⟨more, rmore⟩ := Handler.linesAll_ok depth isStar rest hrest
    rw [Handler.linesAll, rt, rinner, rmore]
    exact ⟨_, rfl⟩
termination_by _ _ handlers _ => 2 * sizeOf handlers

theorem MatchCase.linesAll_ok : ∀ (depth : Nat) (cases : List MatchCase),
    MatchCase.printableAll fieldQuotable cases = true → ∃ ls, MatchCase.linesAll depth cases = .ok ls
  | depth, [], _ => by
    rw [MatchCase.linesAll]
    exact ⟨[], rfl⟩
  | depth, .mk pattern guard body :: rest, h => by
    simp only [MatchCase.printableAll, Bool.and_eq_true] at h
    obtain ⟨⟨⟨hp, hg⟩, hb⟩, hrest⟩ := h
    obtain ⟨p, rp⟩ := Pattern.render_ok pattern .test hp
    obtain ⟨g, rg, -⟩ := Expr.renderOption_prints guard false .test hg
    obtain ⟨inner, rinner⟩ := Stmt.blockLines_ok (depth + 1) body hb
    obtain ⟨more, rmore⟩ := MatchCase.linesAll_ok depth rest hrest
    rw [MatchCase.linesAll, rp, rg, rinner, rmore]
    exact ⟨_, rfl⟩
termination_by _ cases _ => 2 * sizeOf cases

end

/-- A module whose statements all print, with every field free of backslashes and every
formatted part in its place, is printed without a fault. -/
theorem Module.render_ok {m : Module} (h : Stmt.printableAll fieldQuotable m = true) :
    ∃ text, m.render = .ok text := by
  obtain ⟨ls, rls⟩ := Stmt.documentedLines_ok 0 m h
  rw [Module.render, rls]
  exact ⟨_, rfl⟩

end Obfuscation.Syntax
