import Mathlib
import Obfuscation.Proofs.Effects
import Obfuscation.Proofs.Paths
import Obfuscation.Workspace.CommandLine
/-!
What the command line leaves alone. Copying and obfuscating write only at or below the
destination, so every file outside it keeps its text and no file appears outside it. This rests on
the tree holding plain names only, as every directory read from a disk does.
-/

namespace Obfuscation.Workspace

open Syntax Obfuscation.Run

/-! Trees of plain names -/

namespace Tree

/-- Every file and every directory of a tree lies at a location of plain names. -/
structure Plain (w : Tree) : Prop where
  files : ∀ f ∈ w.files, Path.Plain f.1
  dirs : ∀ d ∈ w.dirs, Path.Plain d

theorem empty_plain : ({} : Tree).Plain := ⟨by simp, by simp⟩

theorem addDir_files (w : Tree) (p : Path) : (w.addDir p).files = w.files := by
  unfold addDir
  generalize parents p ++ [p] = ds
  induction ds generalizing w with
  | nil => rfl
  | cons d ds ih =>
    rw [List.foldl_cons, ih]
    split <;> rfl

theorem Plain.addDir {w : Tree} {p : Path} (plain : w.Plain) (plainP : p.Plain) :
    (w.addDir p).Plain := by
  have each : ∀ d ∈ parents p ++ [p], Path.Plain d := by
    intro d mem
    rcases List.mem_append.mp mem with parent | self
    · obtain ⟨k, -, rfl⟩ := List.mem_map.mp (List.mem_of_mem_drop parent)
      exact plainP.take k
    · rw [List.mem_singleton.mp self]
      exact plainP
  unfold Tree.addDir
  generalize parents p ++ [p] = ds at each
  induction ds generalizing w with
  | nil => exact plain
  | cons d ds ih =>
    rw [List.foldl_cons]
    refine ih ?_ fun e mem => each e (List.mem_cons_of_mem _ mem)
    split
    · exact plain
    · refine ⟨plain.files, fun e mem => ?_⟩
      rcases List.mem_append.mp mem with old | new
      · exact plain.dirs e old
      · rw [List.mem_singleton.mp new]
        exact each d List.mem_cons_self

theorem lookup_map_update {p q : Path} (t : Text) (ne : q ≠ p) :
    ∀ fs : List (Path × Text),
      (fs.map fun (r, u) => if r == p then (r, t) else (r, u)).lookup q = fs.lookup q
  | [] => rfl
  | (r, u) :: rest => by
    have later := lookup_map_update t ne rest
    rw [List.map_cons]
    dsimp only
    by_cases here : r = p
    · rw [if_pos (beq_iff_eq.mpr here), List.lookup_cons, List.lookup_cons, later,
        beq_false_of_ne (here ▸ ne)]
    · rw [if_neg (by simpa using here), List.lookup_cons, List.lookup_cons, later]

theorem file?_put_of_ne (w : Tree) {p q : Path} (t : Text) (ne : q ≠ p) :
    (w.put p t).file? q = w.file? q := by
  unfold put file?
  dsimp only
  split
  · simp only [lookup_map_update t ne, addDir_files]
  · simp [List.lookup_append, List.lookup_cons, beq_false_of_ne ne, addDir_files]

theorem Plain.put {w : Tree} {p : Path} (plain : w.Plain) (plainP : p.Plain) (t : Text) :
    (w.put p t).Plain := by
  have made := plain.addDir plainP.dropLast
  unfold Tree.put
  dsimp only
  split
  · refine ⟨fun f mem => ?_, made.dirs⟩
    obtain ⟨⟨r, u⟩, old, rfl⟩ := List.mem_map.mp mem
    have kept := made.files _ old
    split <;> exact kept
  · refine ⟨fun f mem => ?_, made.dirs⟩
    rcases List.mem_append.mp mem with old | new
    · exact made.files f old
    · rw [List.mem_singleton.mp new]
      exact plainP

theorem makeDirs_eq_ok {w w' : Tree} {p : Path} {shown : String}
    (made : w.makeDirs p shown = .ok w') : w' = w.addDir p := by
  unfold makeDirs at made
  split at made
  · cases made
  · split at made
    · cases made
    · cases made
      rfl

theorem Plain.fileName {w : Tree} (plain : w.Plain) {p : Path} {n : String}
    (mem : n ∈ w.fileNames p) : PlainName n := by
  unfold fileNames at mem
  obtain ⟨f, inFiles, found⟩ := List.mem_filterMap.mp (List.mem_mergeSort.mp mem)
  have last : n ∈ f.1 := by
    obtain ⟨q, u⟩ := f
    dsimp only at found
    split at found
    · exact List.mem_of_getLast? found
    · cases found
  exact plain.files f inFiles n last

theorem Plain.dirName {w : Tree} (plain : w.Plain) {p : Path} {n : String}
    (mem : n ∈ w.dirNames p) : PlainName n := by
  unfold dirNames at mem
  obtain ⟨q, inDirs, found⟩ := List.mem_filterMap.mp (List.mem_mergeSort.mp mem)
  have last : n ∈ q := by
    split at found
    · exact List.mem_of_getLast? found
    · cases found
  exact plain.dirs q inDirs n last

theorem ofFiles_plain (fs : List (String × Text)) : (Tree.ofFiles fs).Plain := by
  unfold ofFiles
  have start : ({} : Tree).Plain := empty_plain
  revert start
  generalize ({} : Tree) = w
  -- each file put keeps the tree plain, whatever tree the fold starts from
  induction fs generalizing w with
  | nil => exact id
  | cons f fs ih =>
    obtain ⟨s, t⟩ := f
    intro plain
    rw [List.foldl_cons]
    exact ih (w.put (Path.ofText s) t) (plain.put (ofText_plain s) t)

end Tree

/-! Runs that keep the files outside a set of locations -/

/-- Every file at a location outside `R` has the text it had, and no file appears there. -/
def KeptOff (R : Path → Prop) (σ σ' : Session) : Prop :=
  ∀ q, ¬ R q → σ'.tree.file? q = σ.tree.file? q

theorem KeptOff.trans {R : Path → Prop} {σ₁ σ₂ σ₃ : Session} (first : KeptOff R σ₁ σ₂)
    (second : KeptOff R σ₂ σ₃) : KeptOff R σ₁ σ₃ :=
  fun q off => (second q off).trans (first q off)

/-- Runs that, from a work directory of plain names, end in one that keeps every file outside
`R`. -/
def keptOff (R : Path → Prop) : Closed Run :=
  keeps (fun σ => σ.tree.Plain) (KeptOff R) (fun _ _ _ => rfl) KeptOff.trans

theorem keptOff_mono {R R' : Path → Prop} (sub : ∀ q, R q → R' q) {α : Type} {x : Run α}
    (h : (keptOff R).holds x) : (keptOff R').holds x :=
  fun σ plain => ⟨(h σ plain).1, fun q off => (h σ plain).2 q fun r => off (sub q r)⟩

theorem keptOff_of_keepsTree (R : Path → Prop) {α : Type} {x : Run α} (h : treeKept.holds x) :
    (keptOff R).holds x := fun σ plain => by
  have same := treeKept_tree h σ
  refine ⟨?_, fun q _ => by rw [same]⟩
  show (x.run.run σ).2.tree.Plain
  rw [same]
  exact plain

theorem keptOff_tryCatch (R : Path → Prop) {α : Type} {x : Run α} {k : Fault → Run α}
    (body : (keptOff R).holds x) (handler : ∀ f, (keptOff R).holds (k f)) :
    (keptOff R).holds (tryCatch x k) :=
  keeps_tryCatch KeptOff.trans body handler

theorem KeepsFrom.off {R : Path → Prop} {α : Type} {x : Run α} {σ : Session} {w : Tree}
    (ends : (x.run.run σ).2.tree = w) (plain : w.Plain)
    (kept : ∀ q, ¬ R q → w.file? q = σ.tree.file? q) :
    KeepsFrom (fun σ => σ.tree.Plain) (KeptOff R) x σ := by
  refine ⟨?_, fun q off => ?_⟩
  · show (x.run.run σ).2.tree.Plain
    rw [ends]
    exact plain
  · show (x.run.run σ).2.tree.file? q = σ.tree.file? q
    rw [ends]
    exact kept q off

theorem KeepsFrom.throw_bind {I : Session → Prop} {F : Session → Session → Prop} {α β : Type}
    {f : Fault} {k : α → Run β} {σ : Session} (inv : I σ) (refl : F σ σ) :
    KeepsFrom I F (throw f >>= k) σ :=
  KeepsFrom.of_eq (by rw [run_bind_error (run_throw f σ)]) inv refl

theorem makeDirs_keepsFrom {I : Session → Prop} {F : Session → Session → Prop}
    (trans : ∀ {σ₁ σ₂ σ₃}, F σ₁ σ₂ → F σ₂ σ₃ → F σ₁ σ₃) {p : Path} {shown : String} {σ : Session}
    (inv : I σ) (refl : F σ σ) (grown : I { σ with tree := σ.tree.addDir p } ∧
      F σ { σ with tree := σ.tree.addDir p })
    {α : Type} {k : Unit → Run α} (rest : ∀ u, Keeps I F (k u)) :
    KeepsFrom I F (Run.ofExcept (σ.tree.makeDirs p shown) >>= fun made => Run.setTree made >>= k)
      σ := by
  cases made : σ.tree.makeDirs p shown with
  | error f => exact KeepsFrom.throw_bind inv refl
  | ok w =>
    rw [show Run.ofExcept (.ok w) = pure w from rfl, pure_bind, Tree.makeDirs_eq_ok made]
    exact KeepsFrom.bind_keeps trans (KeepsFrom.of_eq rfl grown.1 grown.2) rest

theorem makeDirs_keptOff {R : Path → Prop} {p : Path} {shown : String} (plainP : p.Plain)
    {σ : Session} (plain : σ.tree.Plain) {α : Type} {k : Unit → Run α}
    (rest : ∀ u, (keptOff R).holds (k u)) :
    KeepsFrom (fun σ => σ.tree.Plain) (KeptOff R)
      (Run.ofExcept (σ.tree.makeDirs p shown) >>= fun made => Run.setTree made >>= k) σ :=
  makeDirs_keepsFrom (F := KeptOff R) KeptOff.trans plain (fun _ _ => rfl)
    ⟨plain.addDir plainP, fun q _ => by simp only [Tree.file?, Tree.addDir_files]⟩ rest

theorem writeFile_keptOff {R : Path → Prop} {p : Path} (plainP : p.Plain) (written : R p)
    (t : Text) {α : Type} {k : Unit → Run α} (rest : ∀ u, (keptOff R).holds (k u)) :
    (keptOff R).holds (Run.tree >>= fun w => Run.setTree (w.put p t) >>= k) :=
  fun σ plain => by
    refine KeepsFrom.tree_bind (KeepsFrom.bind_keeps KeptOff.trans ?_ rest)
    exact KeepsFrom.off rfl (plain.put plainP t) fun q off =>
      Tree.file?_put_of_ne σ.tree t fun same => off (same ▸ written)

/-! Copying -/

/-- Where `copyFile` puts its copy: into the destination when that is a directory. -/
def copyTarget (w : Tree) (src dst : String) : String :=
  if w.isDir (Path.ofText dst) then joinText dst (baseText src) else dst

theorem copyFile_tree (src dst : String) (σ : Session) :
    ((copyFile src dst).run.run σ).2.tree = σ.tree ∨
      ∃ t, σ.tree.file? (Path.ofText src) = some t ∧ ((copyFile src dst).run.run σ).2.tree =
        σ.tree.put (Path.ofText (copyTarget σ.tree src dst)) t := by
  simp only [copyFile, copyTarget]
  rw [run_bind_ok (run_tree σ)]
  generalize (if σ.tree.isDir (Path.ofText dst) = true then joinText dst (baseText src) else dst) =
    target
  -- every way out but the last raises a fault before the tree is touched
  split
  · exact .inl (by rw [run_bind_error (run_throw _ σ)])
  · split
    · exact .inl rfl
    · rename_i t found
      split
      · exact .inl rfl
      · split
        · exact .inl rfl
        · refine .inr ⟨t, found, ?_⟩
          rw [run_setTree]

theorem copyTarget_absolute (w : Tree) {S Q : Path} (plainS : S.Plain) (plainQ : Q.Plain) :
    Path.ofText (copyTarget w S.absolute Q.absolute) = Q ∨
      Path.ofText (copyTarget w S.absolute Q.absolute) = Q ++ [baseText S.absolute] := by
  unfold copyTarget
  split
  · rw [joinText_absolute Q plainQ, ofText_absolute _ (plainQ.snoc
      (baseText_absolute_plain S plainS))]
    exact .inr rfl
  · rw [ofText_absolute Q plainQ]
    exact .inl rfl

theorem copyFile_writes {S Q : Path} (plainS : S.Plain) (plainQ : Q.Plain) :
    (keptOff fun q => q = Q ∨ q = Q ++ [baseText S.absolute]).holds
      (copyFile S.absolute Q.absolute) := by
  intro σ plain
  rcases copyFile_tree S.absolute Q.absolute σ with same | ⟨t, -, wrote⟩
  · exact KeepsFrom.off same plain fun _ _ => rfl
  · exact KeepsFrom.off wrote (plain.put (ofText_plain _) t) fun q off =>
      Tree.file?_put_of_ne σ.tree t fun same =>
        off (same ▸ copyTarget_absolute σ.tree plainS plainQ)

theorem copyFile_keepsOutside {d : Path} {S Q : Path} (plainS : S.Plain) (plainQ : Q.Plain)
    (inside : d <+: Q) : (keptOff (d <+: ·)).holds (copyFile S.absolute Q.absolute) :=
  keptOff_mono (fun q written => by
    rcases written with rfl | rfl
    · exact inside
    · exact inside.trans (List.prefix_append _ _)) (copyFile_writes plainS plainQ)

theorem Tree.Plain.entryName {w : Tree} (plain : w.Plain) {p : Path} {n : String}
    (mem : n ∈ w.entryNames p) : PlainName n := by
  unfold Tree.entryNames at mem
  rcases List.mem_append.mp (List.mem_mergeSort.mp mem) with file | dir
  · exact plain.fileName file
  · exact plain.dirName dir

theorem copyEntries_keepsOutside {d : Path} :
    ∀ (fuel : Nat) (S Q : Path), S.Plain → Q.Plain → d <+: Q →
      (keptOff (d <+: ·)).holds (copyEntries fuel S.absolute Q.absolute)
  | 0, _, _, _, _, _ => (keptOff _).pure_holds []
  | fuel + 1, S, Q, plainS, plainQ, inside => fun σ plain => by
    -- each name found in the source is a plain name, one level below both texts
    have deeper : ∀ name, PlainName name → (keptOff (d <+: ·)).holds
        (copyEntries fuel (joinText S.absolute name) (joinText Q.absolute name)) := by
      intro name named
      rw [joinText_absolute S plainS, joinText_absolute Q plainQ]
      exact copyEntries_keepsOutside fuel _ _ (plainS.snoc named) (plainQ.snoc named)
        (inside.trans (List.prefix_append _ _))
    have copies : ∀ name, PlainName name → (keptOff (d <+: ·)).holds
        (copyFile (joinText S.absolute name) (joinText Q.absolute name)) := by
      intro name named
      rw [joinText_absolute S plainS, joinText_absolute Q plainQ]
      exact copyFile_keepsOutside (plainS.snoc named) (plainQ.snoc named)
        (inside.trans (List.prefix_append _ _))
    simp only [copyEntries]
    refine KeepsFrom.tree_bind ?_
    -- a source that is no directory raises a fault before anything is made
    split
    · exact KeepsFrom.throw_bind plain fun _ _ => rfl
    · split
      · exact KeepsFrom.throw_bind plain fun _ _ => rfl
      · refine makeDirs_keptOff (ofText_plain _) plain fun _ => (keptOff _).bind_holds
          (Closed.forIn_holds _ _ _ _ fun name mem _ => ?_) fun _ => (keptOff _).pure_holds _
        have named := plain.entryName mem
        -- a failure is caught and collected, whatever the entry is
        split
        · exact (keptOff _).bind_holds (keptOff_tryCatch _ (deeper name named) fun _ =>
            (keptOff _).pure_holds _) fun _ => (keptOff _).pure_holds _
        · exact (keptOff _).bind_holds (keptOff_tryCatch _ ((keptOff _).bind_holds
            (copies name named) fun _ => (keptOff _).pure_holds _) fun _ =>
              (keptOff _).pure_holds _) fun _ => (keptOff _).pure_holds _

theorem copyTree_keepsOutside {S Q : Path} (plainS : S.Plain) (plainQ : Q.Plain) :
    (keptOff (Q <+: ·)).holds (copyTree S.absolute Q.absolute) :=
  (keptOff _).bind_holds (keptOff_of_keepsTree _ tree_keepsTree) fun _ =>
    (keptOff _).bind_holds (copyEntries_keepsOutside _ _ _ plainS plainQ (List.prefix_refl Q))
      fun failures => by
        split
        · exact keptOff_of_keepsTree _ (throw_keepsTree _)
        · exact (keptOff _).pure_holds ()

/-! Copying a tree apart from its destination -/

section Apart

variable (w : Tree) (S D : Path)

/-- The locations at or below the copy onto `D` of a file of the tree `S` of `w`. -/
def CopiedOnto (q : Path) : Prop := ∃ r, (w.file? (S ++ r)).isSome ∧ D ++ r <+: q

/-- Runs that, from a work directory of plain names whose tree `S` is as in `w`, end in one
where that tree is still as in `w` and every file outside the copies onto `D` of its files is
kept. -/
def copying : Closed Run :=
  keeps (fun σ => σ.tree.Plain ∧ ∀ r, σ.tree.file? (S ++ r) = w.file? (S ++ r))
    (KeptOff (CopiedOnto w S D)) (fun _ _ _ => rfl) KeptOff.trans

variable {w S D}

theorem not_copiedOnto_source (apart : ¬ S <+: D ∧ ¬ D <+: S) (r : Path) :
    ¬ CopiedOnto w S D (S ++ r) := by
  rintro ⟨r', -, below⟩
  rcases List.prefix_or_prefix_of_prefix ((List.prefix_append D r').trans below)
      (List.prefix_append S r) with onto | under
  · exact apart.2 onto
  · exact apart.1 under

theorem copyFile_copies (apart : ¬ S <+: D ∧ ¬ D <+: S) {p : Path} {n : String}
    (plainS : (S ++ p ++ [n]).Plain) (plainD : (D ++ p ++ [n]).Plain) :
    (copying w S D).holds (copyFile (S ++ p ++ [n]).absolute (D ++ p ++ [n]).absolute) := by
  rintro σ ⟨plain, source⟩
  rcases copyFile_tree (S ++ p ++ [n]).absolute (D ++ p ++ [n]).absolute σ with same | ⟨t, found, wrote⟩
  · refine ⟨⟨?_, fun r => ?_⟩, fun q _ => ?_⟩ <;> simp only [same]
    · exact plain
    · exact source r
  · -- the copy lands at or below the copy of its source, a file of the source tree in `w`
    have reached : CopiedOnto w S D
        (Path.ofText (copyTarget σ.tree (S ++ p ++ [n]).absolute (D ++ p ++ [n]).absolute)) := by
      rw [ofText_absolute _ plainS, List.append_assoc, source] at found
      refine ⟨p ++ [n], by rw [found]; rfl, ?_⟩
      rcases copyTarget_absolute σ.tree plainS plainD with same | below
      · rw [same, List.append_assoc]
      · rw [below]
        exact ⟨[baseText (S ++ p ++ [n]).absolute], by simp⟩
    refine ⟨⟨?_, fun r => ?_⟩, fun q off => ?_⟩
    · show (((copyFile _ _).run.run σ).2.tree).Plain
      rw [wrote]
      exact plain.put (ofText_plain _) t
    · show ((copyFile _ _).run.run σ).2.tree.file? (S ++ r) = w.file? (S ++ r)
      rw [wrote, Tree.file?_put_of_ne σ.tree t fun same =>
        not_copiedOnto_source apart r (same ▸ reached), source]
    · show ((copyFile _ _).run.run σ).2.tree.file? q = σ.tree.file? q
      rw [wrote]
      exact Tree.file?_put_of_ne σ.tree t fun same => off (same ▸ reached)

theorem copyEntries_copies (apart : ¬ S <+: D ∧ ¬ D <+: S) (plainS : S.Plain) (plainD : D.Plain) :
    ∀ (fuel : Nat) (p : Path), p.Plain →
      (copying w S D).holds (copyEntries fuel (S ++ p).absolute (D ++ p).absolute)
  | 0, _, _ => (copying w S D).pure_holds []
  | fuel + 1, p, plainP => fun σ inv => by
    have deeper : ∀ name, PlainName name → (copying w S D).holds (copyEntries fuel
        (joinText (S ++ p).absolute name) (joinText (D ++ p).absolute name)) := by
      intro name named
      rw [joinText_absolute _ (plainS.append plainP), joinText_absolute _ (plainD.append plainP),
        List.append_assoc, List.append_assoc]
      exact copyEntries_copies apart plainS plainD fuel _ (plainP.snoc named)
    have copies : ∀ name, PlainName name → (copying w S D).holds (copyFile
        (joinText (S ++ p).absolute name) (joinText (D ++ p).absolute name)) := by
      intro name named
      rw [joinText_absolute _ (plainS.append plainP), joinText_absolute _ (plainD.append plainP)]
      exact copyFile_copies apart ((plainS.append plainP).snoc named)
        ((plainD.append plainP).snoc named)
    simp only [copyEntries]
    refine KeepsFrom.tree_bind ?_
    split
    · exact KeepsFrom.throw_bind inv fun _ _ => rfl
    · split
      · exact KeepsFrom.throw_bind inv fun _ _ => rfl
      · -- making the destination touches no file
        refine makeDirs_keepsFrom (F := KeptOff (CopiedOnto w S D)) KeptOff.trans inv
          (fun _ _ => rfl)
          ⟨⟨inv.1.addDir (ofText_plain _), fun r => by
            simp only [Tree.file?, Tree.addDir_files]
            exact inv.2 r⟩, fun q _ => by simp only [Tree.file?, Tree.addDir_files]⟩
          fun _ => (copying w S D).bind_holds
            (Closed.forIn_holds _ _ _ _ fun name mem _ => ?_) fun _ => (copying w S D).pure_holds _
        have named := inv.1.entryName mem
        split
        · exact (copying w S D).bind_holds (keeps_tryCatch KeptOff.trans (deeper name named)
            fun _ => (copying w S D).pure_holds _) fun _ => (copying w S D).pure_holds _
        · exact (copying w S D).bind_holds (keeps_tryCatch KeptOff.trans
            ((copying w S D).bind_holds (copies name named) fun _ => (copying w S D).pure_holds _)
              fun _ => (copying w S D).pure_holds _) fun _ => (copying w S D).pure_holds _

theorem copyTree_copies (apart : ¬ S <+: D ∧ ¬ D <+: S) (plainS : S.Plain) (plainD : D.Plain) :
    (copying w S D).holds (copyTree S.absolute D.absolute) := by
  have entries : ∀ fuel, (copying w S D).holds (copyEntries fuel S.absolute D.absolute) := by
    intro fuel
    have whole := copyEntries_copies (w := w) apart plainS plainD fuel [] (by simp [Path.Plain])
    rwa [List.append_nil, List.append_nil] at whole
  refine (copying w S D).bind_holds ?_ fun n => (copying w S D).bind_holds
    (entries (n.dirs.length + 1)) fun failures => ?_
  · exact fun σ inv => ⟨inv, fun _ _ => rfl⟩
  · split
    · exact fun σ inv => ⟨inv, fun _ _ => rfl⟩
    · exact (copying w S D).pure_holds ()

end Apart

/-! Obfuscating in place -/

def Path.pyNamed (q : Path) : Bool := q.getLast?.any fun n => n.endsWith ".py"

theorem complain_keepsTree (shown : String) (f : Fault) (report : String) :
    treeKept.holds (complain shown f report) :=
  treeKept.bind_holds (say_keepsTree _) fun _ => report_keepsTree _

theorem processFile_writesOnly (shown level : String) (verbose : Bool) :
    (keptOff (· = Path.ofText shown)).holds (processFile shown level verbose) := fun σ plain => by
  have complains : ∀ f report,
      (keptOff (· = Path.ofText shown)).holds (complain shown f report) := fun f report =>
    keptOff_of_keepsTree _ (complain_keepsTree shown f report)
  simp only [processFile]
  refine KeepsFrom.tree_bind ?_
  -- a file that cannot be read, or read as a module, is only complained about
  split
  · exact complains _ _ σ plain
  · split
    · exact complains _ _ σ plain
    · exact complains _ _ σ plain
    · refine keptOff_tryCatch _ ?_ (fun f => complains f "") σ plain
      refine (keptOff _).bind_holds
        (keptOff_of_keepsTree _ (applyAll_keepsTree _ _ _)) fun m' => ?_
      split
      · refine writeFile_keptOff (R := (· = Path.ofText shown)) (ofText_plain shown) rfl _
          fun _ => ?_
        split
        · exact keptOff_of_keepsTree _ (say_keepsTree _)
        · exact (keptOff _).pure_holds ()
      · exact complains _ _

theorem processTree_writesPy (level : String) (verbose : Bool) :
    ∀ (fuel : Nat) (P : Path), P.Plain →
      (keptOff fun q => P <+: q ∧ q.pyNamed).holds (processTree level verbose fuel P.absolute P)
  | 0, _, _ => (keptOff _).pure_holds ()
  | fuel + 1, P, plainP => fun σ plain => by
    -- each name met is a plain name, and the walk goes on one level down
    have obfuscates : ∀ name, PlainName name → name.endsWith ".py" →
        (keptOff fun q => P <+: q ∧ q.pyNamed).holds
          (processFile (joinText P.absolute name) level verbose) := by
      intro name named py
      have writes := processFile_writesOnly (P ++ [name]).absolute level verbose
      rw [ofText_absolute _ (plainP.snoc named)] at writes
      rw [joinText_absolute P plainP]
      refine keptOff_mono (fun q written => ?_) writes
      rw [written]
      exact ⟨List.prefix_append _ _, by simp [Path.pyNamed, py]⟩
    have deeper : ∀ name, PlainName name → (keptOff fun q => P <+: q ∧ q.pyNamed).holds
        (processTree level verbose fuel (joinText P.absolute name) (P ++ [name])) := by
      intro name named
      rw [joinText_absolute P plainP]
      exact keptOff_mono (fun q below => ⟨(List.prefix_append _ _).trans below.1, below.2⟩)
        (processTree_writesPy level verbose fuel _ (plainP.snoc named))
    simp only [processTree]
    refine KeepsFrom.tree_bind ((keptOff _).bind_holds
      (Closed.forIn_holds _ _ _ _ fun name mem _ => ?_) (fun _ => (keptOff _).bind_holds
        (Closed.forIn_holds _ _ _ _ fun name mem _ => ?_) fun _ => (keptOff _).pure_holds ())
      σ plain)
    · -- only the names that end in `.py` are obfuscated
      split
      · rename_i py
        split
        · exact (keptOff _).bind_holds (keptOff_of_keepsTree _ (say_keepsTree _)) fun _ =>
            (keptOff _).bind_holds (obfuscates name (plain.fileName mem) py) fun _ =>
              (keptOff _).pure_holds _
        · exact (keptOff _).bind_holds (obfuscates name (plain.fileName mem) py) fun _ =>
            (keptOff _).pure_holds _
      · exact (keptOff _).pure_holds _
    · exact (keptOff _).bind_holds (deeper name (plain.dirName mem)) fun _ =>
        (keptOff _).pure_holds _

/-- Obfuscating a directory writes only the files below it whose names end in `.py`, and
obfuscating what is not a directory writes that file only. -/
theorem processDirectory_writes (level : String) (verbose : Bool) {D : Path} (plainD : D.Plain) :
    (keptOff fun q => (D <+: q ∧ q.pyNamed) ∨ q = D).holds
      (processDirectory D.absolute level verbose) := fun σ plain => by
  have writes := processFile_writesOnly D.absolute level verbose
  rw [ofText_absolute D plainD] at writes
  simp only [processDirectory]
  refine KeepsFrom.tree_bind ?_
  rw [ofText_absolute D plainD]
  split
  · exact keptOff_mono (fun q => .inl) (processTree_writesPy level verbose _ D plainD) σ plain
  · exact keptOff_mono (fun q => .inr) writes σ plain

/-! The command line -/

theorem obfuscateCopy_finish_writes (i : Invocation) (line : String) :
    (keptOff fun q => (Path.ofText i.dst <+: q ∧ q.pyNamed) ∨ q = Path.ofText i.dst).holds (do
      if i.verbose then Run.say line else pure ()
      processDirectory (absoluteText i.dst) i.level i.verbose
      if i.verbose then Run.say "Obfuscation complete." else pure ()) := by
  have processes := processDirectory_writes i.level i.verbose (ofText_plain i.dst)
  -- both announcements hang on the one flag
  split
  · exact (keptOff _).bind_holds (keptOff_of_keepsTree _ (say_keepsTree _)) fun _ =>
      (keptOff _).bind_holds processes fun _ => keptOff_of_keepsTree _ (say_keepsTree _)
  · exact (keptOff _).bind_holds processes fun _ => (keptOff _).pure_holds ()

theorem obfuscateCopy_keepsOutside (i : Invocation) :
    (keptOff (Path.ofText i.dst <+: ·)).holds (obfuscateCopy i) := fun σ plain => by
  have plainS := ofText_plain i.src
  have plainD := ofText_plain i.dst
  have finish : ∀ line, (keptOff (Path.ofText i.dst <+: ·)).holds _ := fun line =>
    keptOff_mono (fun q written => by
      rcases written with ⟨below, -⟩ | rfl
      · exact below
      · exact List.prefix_refl _) (obfuscateCopy_finish_writes i line)
  simp only [obfuscateCopy]
  refine KeepsFrom.tree_bind ?_
  split
  · -- a directory is copied as a tree
    exact (keptOff _).bind_holds (copyTree_keepsOutside plainS plainD) (fun _ => finish _) σ plain
  · -- a file is copied once the directory that receives it is made
    refine KeepsFrom.tree_bind (makeDirs_keptOff (ofText_plain _) plain fun _ => ?_)
    exact (keptOff _).bind_holds
      (copyFile_keepsOutside plainS plainD (List.prefix_refl _)) fun _ => finish _

/-- Whatever the command line is asked to copy and obfuscate, every file outside the destination
keeps its text, and no file appears outside it. -/
theorem runCommandLine_keeps_outside_dst (words : List String) (i : Invocation)
    (read : readWords words = .run i) (σ : Session) (plain : σ.tree.Plain) (q : Path)
    (outside : ¬ Path.ofText i.dst <+: q) :
    ((runCommandLine words).run.run σ).2.tree.file? q = σ.tree.file? q := by
  simp only [runCommandLine, read]
  exact ((keptOff _).bind_holds (obfuscateCopy_keepsOutside i) (fun _ =>
    (keptOff _).pure_holds 0) σ plain).2 q outside

/-- Copying `s` to `d` leaves the file `s/a.py` as it was. -/
theorem runCommandLine_keeps_source_file :
    readWords ["s", "d"] = .run ⟨"s", "d", "light", false⟩ ∧
      (Tree.ofFiles [("s/a.py", Text.ofString "x = 1\n"), ("d/b.py", Text.ofString "y = 2\n")]).Plain ∧
      ¬ Path.ofText "d" <+: ["s", "a.py"] ∧
      ((runCommandLine ["s", "d"]).run.run
          { tree := (Tree.ofFiles [("s/a.py", Text.ofString "x = 1\n"),
            ("d/b.py", Text.ofString "y = 2\n")]) }).2.tree.file? ["s", "a.py"] =
        (Tree.ofFiles [("s/a.py", Text.ofString "x = 1\n"), ("d/b.py", Text.ofString "y = 2\n")]).file?
          ["s", "a.py"] := by
  have read : readWords ["s", "d"] = .run ⟨"s", "d", "light", false⟩ := by decide +kernel
  have outside : ¬ Path.ofText "d" <+: ["s", "a.py"] := by decide +kernel
  exact ⟨read, Tree.ofFiles_plain _, outside,
    runCommandLine_keeps_outside_dst _ _ read _ (Tree.ofFiles_plain _) _ outside⟩

/-! Below the destination -/

/-- The locations that copying `S` onto `D`, begun in the work directory `w`, may write. A tree
copy makes the destination and writes at or below the copy of each file of the source; when
source and destination overlap, what it copies may be its own copies, and it may write anywhere
below the destination. A file copy writes the destination, or the name of the source inside
it. -/
def CopyReach (w : Tree) (S D q : Path) : Prop :=
  if w.isDir S then
    if S <+: D ∨ D <+: S then D <+: q else q = D ∨ CopiedOnto w S D q
  else q = D ∨ q = D ++ [baseText S.absolute]

theorem CopyReach.destination (w : Tree) (S D : Path) : CopyReach w S D D := by
  unfold CopyReach
  split
  · split
    · exact List.prefix_refl D
    · exact .inl rfl
  · exact .inl rfl

/-- The locations the command line may write: those the copy reaches, and the `.py` files below
the destination, which are obfuscated. -/
def CommandWrites (w : Tree) (i : Invocation) (q : Path) : Prop :=
  CopyReach w (Path.ofText i.src) (Path.ofText i.dst) q ∨ (Path.ofText i.dst <+: q ∧ q.pyNamed)

theorem obfuscateCopy_keepsUnwritten (i : Invocation) (σ : Session) (plain : σ.tree.Plain) :
    KeepsFrom (fun σ => σ.tree.Plain) (KeptOff (CommandWrites σ.tree i)) (obfuscateCopy i) σ := by
  have plainS := ofText_plain i.src
  have plainD := ofText_plain i.dst
  have finish : ∀ line, (keptOff (CommandWrites σ.tree i)).holds (do
      if i.verbose then Run.say line else pure ()
      processDirectory (absoluteText i.dst) i.level i.verbose
      if i.verbose then Run.say "Obfuscation complete." else pure ()) := fun line =>
    keptOff_mono (fun q written => by
      rcases written with py | rfl
      · exact .inr py
      · exact .inl (CopyReach.destination _ _ _)) (obfuscateCopy_finish_writes i line)
  have source : Path.ofText (absoluteText i.src) = Path.ofText i.src := ofText_absolute _ plainS
  simp only [obfuscateCopy]
  refine KeepsFrom.tree_bind ?_
  split
  · rename_i dir
    rw [source] at dir
    by_cases overlap : Path.ofText i.src <+: Path.ofText i.dst ∨
        Path.ofText i.dst <+: Path.ofText i.src
    · -- copies of copies: everything below the destination may be written
      have reach : ∀ q, Path.ofText i.dst <+: q → CommandWrites σ.tree i q := fun q below =>
        .inl (by simpa only [CopyReach, dir, overlap, if_true] using below)
      exact (keptOff _).bind_holds (keptOff_mono reach (copyTree_keepsOutside plainS plainD))
        (fun _ => finish _) σ plain
    · -- a tree apart from the destination is read as it was, and copied file by file
      have apart : ¬ Path.ofText i.src <+: Path.ofText i.dst ∧
          ¬ Path.ofText i.dst <+: Path.ofText i.src := not_or.mp overlap
      have reach : ∀ q, CopiedOnto σ.tree (Path.ofText i.src) (Path.ofText i.dst) q →
          CommandWrites σ.tree i q := fun q onto =>
        .inl (by simpa only [CopyReach, dir, overlap, if_true, if_false] using Or.inr onto)
      have copies : (copying σ.tree (Path.ofText i.src) (Path.ofText i.dst)).holds
          (copyTree (absoluteText i.src) (absoluteText i.dst)) :=
        copyTree_copies apart plainS plainD
      have copied : KeepsFrom (fun σ => σ.tree.Plain) (KeptOff (CommandWrites σ.tree i))
          (copyTree (absoluteText i.src) (absoluteText i.dst)) σ :=
        ⟨(copies σ ⟨plain, fun _ => rfl⟩).1.1, fun q off =>
          (copies σ ⟨plain, fun _ => rfl⟩).2 q fun onto => off (reach q onto)⟩
      exact KeepsFrom.bind_keeps (F := KeptOff (CommandWrites σ.tree i)) KeptOff.trans copied
        fun _ => finish _
  · rename_i file
    rw [source] at file
    have reach : ∀ q, (q = Path.ofText i.dst ∨
        q = Path.ofText i.dst ++ [baseText (Path.ofText i.src).absolute]) →
          CommandWrites σ.tree i q := fun q written =>
      .inl (by simpa only [CopyReach, file, if_false, Bool.false_eq_true] using written)
    -- a file is copied once the directory that receives it is made
    refine KeepsFrom.tree_bind (makeDirs_keptOff (ofText_plain _) plain fun _ => ?_)
    exact (keptOff _).bind_holds (keptOff_mono reach (copyFile_writes plainS plainD))
      fun _ => finish _

/-- Below the destination the command line is no less careful: a file changes only where the
copy reaches or where it is a `.py` file below the destination, which is obfuscated. Every other
file, such as a file of another kind that the copy does not overwrite, keeps its text. -/
theorem runCommandLine_keeps_unreached (words : List String) (i : Invocation)
    (read : readWords words = .run i) (σ : Session) (plain : σ.tree.Plain) (q : Path)
    (uncopied : ¬ CopyReach σ.tree (Path.ofText i.src) (Path.ofText i.dst) q)
    (unprocessed : ¬ (Path.ofText i.dst <+: q ∧ q.pyNamed)) :
    ((runCommandLine words).run.run σ).2.tree.file? q = σ.tree.file? q := by
  simp only [runCommandLine, read]
  have whole := KeepsFrom.bind_keeps (F := KeptOff (CommandWrites σ.tree i)) KeptOff.trans
    (obfuscateCopy_keepsUnwritten i σ plain)
    fun _ => (keptOff (CommandWrites σ.tree i)).pure_holds 0
  exact whole.2 q fun written => written.elim uncopied unprocessed

theorem runCommandLine_keeps_destination_notes :
    readWords ["s", "d"] = .run ⟨"s", "d", "light", false⟩ ∧
      (Tree.ofFiles [("s/a.py", Text.ofString "x = 1\n"), ("d/notes.txt", Text.ofString "n\n")]).Plain ∧
      ¬ CopyReach (Tree.ofFiles [("s/a.py", Text.ofString "x = 1\n"),
        ("d/notes.txt", Text.ofString "n\n")]) ["s"] ["d"] ["d", "notes.txt"] ∧
      ¬ (["d"] <+: ["d", "notes.txt"] ∧ Path.pyNamed ["d", "notes.txt"]) ∧
      ((runCommandLine ["s", "d"]).run.run
          { tree := (Tree.ofFiles [("s/a.py", Text.ofString "x = 1\n"),
            ("d/notes.txt", Text.ofString "n\n")]) }).2.tree.file? ["d", "notes.txt"] =
        (Tree.ofFiles [("s/a.py", Text.ofString "x = 1\n"), ("d/notes.txt", Text.ofString "n\n")]).file?
          ["d", "notes.txt"] := by
  have read : readWords ["s", "d"] = .run ⟨"s", "d", "light", false⟩ := by decide +kernel
  have notPy : ¬ (["d"] <+: ["d", "notes.txt"] ∧ Path.pyNamed ["d", "notes.txt"]) := by
    decide +kernel
  -- the only copy is `d/a.py`: the notes are neither the destination nor below a copy
  have uncopied : ¬ CopyReach (Tree.ofFiles [("s/a.py", Text.ofString "x = 1\n"),
      ("d/notes.txt", Text.ofString "n\n")]) ["s"] ["d"] ["d", "notes.txt"] := by
    have dir : (Tree.ofFiles [("s/a.py", Text.ofString "x = 1\n"),
        ("d/notes.txt", Text.ofString "n\n")]).isDir ["s"] := by decide +kernel
    have apart : ¬ (["s"] <+: ["d"] ∨ ["d"] <+: ["s"]) := by decide
    simp only [CopyReach, dir, apart, if_true, if_false, CopiedOnto, not_or]
    refine ⟨by decide, ?_⟩
    rintro ⟨r, found, below⟩
    obtain ⟨rest, glued⟩ := below
    rcases r with _ | ⟨c, _ | ⟨c', r⟩⟩
    · revert found
      decide +kernel
    · have named : c = "notes.txt" ∧ rest = [] := by simpa using glued
      obtain ⟨rfl, -⟩ := named
      revert found
      decide +kernel
    · simp at glued
  have named : Path.ofText "s" = ["s"] ∧ Path.ofText "d" = ["d"] := by decide +kernel
  have kept := runCommandLine_keeps_unreached _ _ read
    { tree := Tree.ofFiles [("s/a.py", Text.ofString "x = 1\n"), ("d/notes.txt", Text.ofString "n\n")] }
    (Tree.ofFiles_plain _) ["d", "notes.txt"]
  rw [show (⟨"s", "d", "light", false⟩ : Invocation).src = "s" from rfl,
    show (⟨"s", "d", "light", false⟩ : Invocation).dst = "d" from rfl, named.1, named.2] at kept
  exact ⟨read, Tree.ofFiles_plain _, uncopied, notPy, kept uncopied notPy⟩

end Obfuscation.Workspace
