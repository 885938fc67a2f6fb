import Mathlib
import Obfuscation.Workspace.Path
/-!
Path texts and the locations they name. A plain name is a component that a path text writes and
reads back as itself: not empty, neither `.` nor `..`, and without a slash. Reading any text gives
a location of plain names; the absolute text of a location of plain names reads back as that
location, never ends in a slash, and joined with a name is the absolute text of the location one
level down; its last component is a plain name again.
-/

namespace Obfuscation.Workspace

/-- A component that reads back as itself: not empty, neither `.` nor `..`, and without a
slash. -/
def PlainName (c : String) : Prop := c ≠ "" ∧ c ≠ "." ∧ c ≠ ".." ∧ '/' ∉ c.toList

instance : DecidablePred PlainName := fun c =>
  inferInstanceAs (Decidable (c ≠ "" ∧ c ≠ "." ∧ c ≠ ".." ∧ '/' ∉ c.toList))

def Path.Plain (p : Path) : Prop := ∀ c ∈ p, PlainName c

theorem workText_plain : PlainName workText := by decide

theorem Path.Plain.append {p q : Path} (first : p.Plain) (second : q.Plain) :
    Path.Plain (p ++ q) := by
  intro c mem
  rcases List.mem_append.mp mem with inFirst | inSecond
  · exact first c inFirst
  · exact second c inSecond

theorem Path.Plain.snoc {p : Path} {n : String} (plain : p.Plain) (named : PlainName n) :
    Path.Plain (p ++ [n]) :=
  plain.append fun _ mem => List.mem_singleton.mp mem ▸ named

theorem Path.Plain.take {p : Path} (plain : p.Plain) (k : Nat) : Path.Plain (p.take k) :=
  fun c mem => plain c (List.mem_of_mem_take mem)

theorem Path.Plain.dropLast {p : Path} (plain : p.Plain) : Path.Plain p.dropLast :=
  fun c mem => plain c (List.mem_of_mem_dropLast mem)

theorem not_mem_of_mem_splitOn {xs w : List Char} {x : Char} :
    w ∈ xs.splitOn x → x ∉ w := by
  induction xs generalizing w with
  | nil =>
    intro mem
    rw [List.splitOn_nil, List.mem_singleton] at mem
    simp [mem]
  | cons y ys ih =>
    rw [List.splitOn_cons_eq_if_modifyHead]
    intro mem
    split at mem
    · rcases List.mem_cons.mp mem with rfl | later
      · simp
      · exact ih later
    · rename_i kept
      obtain ⟨r, rs, split⟩ := List.exists_cons_of_ne_nil (List.splitOn_ne_nil x ys)
      rw [split, List.modifyHead_cons] at mem
      rcases List.mem_cons.mp mem with rfl | later
      · intro inner
        rcases List.mem_cons.mp inner with same | inner
        · simp [same] at kept
        · exact ih (split ▸ List.mem_cons_self ..) inner
      · exact ih (split ▸ List.mem_cons_of_mem _ later)

theorem Path.Plain.push {acc : Path} {c : String} (plain : acc.Plain) (noSlash : '/' ∉ c.toList) :
    (Path.push acc c).Plain := by
  unfold Path.push
  split
  · exact plain
  · split
    · exact plain.dropLast
    · rename_i named up
      intro d mem
      rcases List.mem_append.mp mem with old | new
      · exact plain d old
      · simp only [Bool.or_eq_true, String.isEmpty_iff, beq_iff_eq, not_or] at named up
        rw [List.mem_singleton.mp new]
        exact ⟨named.1, named.2, up, noSlash⟩

theorem Path.Plain.foldl_push {acc : Path} {cs : List String} (plain : acc.Plain)
    (noSlash : ∀ c ∈ cs, '/' ∉ c.toList) : (cs.foldl Path.push acc).Plain := by
  induction cs generalizing acc with
  | nil => exact plain
  | cons c cs ih =>
    exact ih (plain.push (noSlash c (by simp))) fun d mem => noSlash d (List.mem_cons_of_mem _ mem)

theorem ofText_plain (s : String) : (Path.ofText s).Plain := by
  unfold Path.ofText
  refine Path.Plain.foldl_push (by simp [Path.Plain]) ?_
  simp only [List.mem_map, forall_exists_index, and_imp]
  rintro c w mem rfl
  simpa using not_mem_of_mem_splitOn mem

theorem foldl_push_plain {acc p : Path} (plain : p.Plain) : p.foldl Path.push acc = acc ++ p := by
  induction p generalizing acc with
  | nil => simp
  | cons c p ih =>
    obtain ⟨named, notDot, notUp, -⟩ := plain c (by simp)
    have step : Path.push acc c = acc ++ [c] := by simp [Path.push, named, notDot, notUp]
    rw [List.foldl_cons, step, ih fun d mem => plain d (List.mem_cons_of_mem _ mem)]
    simp

theorem append_flatten_eq_intercalate (h : List Char) (p : Path) :
    h ++ (p.map fun c => '/' :: c.toList).flatten = ['/'].intercalate (h :: p.map String.toList) := by
  induction p generalizing h with
  | nil => simp
  | cons c p ih =>
    rw [List.map_cons, List.flatten_cons, List.map_cons, List.intercalate_cons_cons, ← ih c.toList]
    simp

theorem toList_absolute (p : Path) :
    (Path.absolute p).toList = workText.toList ++ (p.map fun c => '/' :: c.toList).flatten := by
  simp [Path.absolute, String.toList_join, List.flatMap, Function.comp_def]

theorem toList_absolute_intercalate (p : Path) :
    (Path.absolute p).toList = ['/'].intercalate ((workText :: p).map String.toList) := by
  rw [toList_absolute, append_flatten_eq_intercalate, List.map_cons]

theorem isPrefixOf?_append (l t : List Char) : l.isPrefixOf? (l ++ t) = some t := by
  induction l with
  | nil => cases t <;> rfl
  | cons c l ih => simp [List.isPrefixOf?, ih]

theorem ofText_absolute (p : Path) (plain : p.Plain) : Path.ofText p.absolute = p := by
  cases p with
  | nil => simp [Path.ofText, Path.absolute, List.splitOn_nil, Path.push]
  | cons c p =>
    have chars : (Path.absolute (c :: p)).toList =
        (workText ++ "/").toList ++ ['/'].intercalate ((c :: p).map String.toList) := by
      rw [toList_absolute_intercalate, List.map_cons, List.map_cons, List.intercalate_cons_cons]
      simp
    have notWork : (Path.absolute (c :: p) == workText) = false := by
      rw [beq_eq_false_iff_ne]
      intro same
      have lengths := congrArg (·.toList.length) same
      simp only [chars, List.length_append] at lengths
      simp [workText] at lengths
      omega
    have noSlash : ∀ l ∈ (c :: p).map String.toList, '/' ∉ l := by
      simp only [List.mem_map, forall_exists_index, and_imp]
      rintro l d mem rfl
      exact (plain d mem).2.2.2
    simp only [Path.ofText, notWork, Bool.false_eq_true, if_false, chars, isPrefixOf?_append,
      Option.getD_some, List.splitOn_intercalate '/' noSlash (by simp), List.map_map]
    rw [show String.ofList ∘ String.toList = id from funext fun _ => by simp, List.map_id,
      foldl_push_plain plain, List.nil_append]

theorem absolute_not_slashEnded (p : Path) (plain : p.Plain) :
    (Path.absolute p).toList.getLast?.all (· == '/') = false := by
  rcases List.eq_nil_or_concat p with rfl | ⟨q, c, rfl⟩
  · decide
  · rw [List.concat_eq_append] at plain ⊢
    obtain ⟨named, -, -, noSlash⟩ := plain c (by simp)
    obtain ⟨cs, z, chars⟩ : ∃ cs z, c.toList = cs ++ [z] := by
      rcases List.eq_nil_or_concat c.toList with empty | found
      · exact absurd (String.toList_eq_nil_iff.mp empty) named
      · obtain ⟨cs, z, chars⟩ := found
        exact ⟨cs, z, by rw [chars, List.concat_eq_append]⟩
    have last : z ≠ '/' := fun same => noSlash (by simp [chars, same])
    have ends : ('/' :: c.toList).getLast? = some z := by
      rw [chars, ← List.cons_append, List.getLast?_append]
      rfl
    rw [toList_absolute, List.map_append, List.flatten_append, List.map_singleton,
      List.flatten_singleton, List.getLast?_append, List.getLast?_append, ends]
    simpa using last

theorem joinText_absolute (p : Path) (plain : p.Plain) (n : String) :
    joinText p.absolute n = (p ++ [n]).absolute := by
  simp only [joinText, absolute_not_slashEnded p plain, Bool.false_eq_true, if_false]
  rw [← String.toList_inj]
  simp [toList_absolute]

theorem baseText_absolute (p : Path) (plain : p.Plain) :
    baseText p.absolute = (workText :: p).getLast (List.cons_ne_nil _ _) := by
  have noSlash : ∀ l ∈ (workText :: p).map String.toList, '/' ∉ l := by
    simp only [List.mem_map, forall_exists_index, and_imp]
    rintro l d mem rfl
    rcases List.mem_cons.mp mem with rfl | mem
    · decide
    · exact (plain d mem).2.2.2
  rw [baseText, toList_absolute_intercalate, List.splitOn_intercalate '/' noSlash (by simp),
    List.map_map, show String.ofList ∘ String.toList = id from funext fun _ => by simp, List.map_id,
    List.getLast?_eq_some_getLast (List.cons_ne_nil _ _), Option.getD_some]

theorem baseText_absolute_plain (p : Path) (plain : p.Plain) : PlainName (baseText p.absolute) := by
  rw [baseText_absolute p plain]
  rcases List.mem_cons.mp (List.getLast_mem (List.cons_ne_nil workText p)) with work | mem
  · rw [work]
    exact workText_plain
  · exact plain _ mem

end Obfuscation.Workspace
