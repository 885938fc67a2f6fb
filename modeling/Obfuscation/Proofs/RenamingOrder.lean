import Obfuscation.Proofs.Renaming
/-!
Renaming in the order of first occurrence. A name stays when it is kept or an earlier import
recorded it, and is otherwise renamed, names taking drawn names in order of first occurrence. The
proof carries `Tracks` along the leaves.
-/

namespace Obfuscation.Pass

open Syntax Entropy

section Spec

def recordedBy : Stmt → List String
  | .importNames names => names.map (recordedName · true)
  | .importFrom _ names _ => names.map (recordedName · false)
  | _ => []

def importedBy (L : List Leaf) : List String :=
  L.flatMap fun
    | .imports s => recordedBy s
    | _ => []

/-- A name stays as it is after the leaves `before` when it is a kept name or an import among
them recorded it. -/
def keptAfter (before : List Leaf) (x : String) : Bool :=
  keptNames.contains x || (importedBy before).contains x

def unkeptAt (before : List Leaf) : Leaf → List String
  | .name x => if keptAfter before x then [] else [x]
  | _ => []

/-- The names renamed where they stand among the leaves `L`, after the leaves `before`, in order
and with repeats. -/
def unkeptFrom (before : List Leaf) : List Leaf → List String
  | [] => []
  | ℓ :: L => unkeptAt before ℓ ++ unkeptFrom (before ++ [ℓ]) L

def addNew (seen : List String) (x : String) : List String :=
  if x ∈ seen then seen else seen ++ [x]

/-- The names renamed among some leaves, each once, in the order of its first occurrence where it
is renamed. -/
def renamedNames (L : List Leaf) : List String :=
  (unkeptFrom [] L).foldl addNew []

def drawsFrom (n : Nat) : List String → List (String × String)
  | [] => []
  | x :: xs => (x, nameAt n 8) :: drawsFrom (n + 1) xs

def announcements (n : Nat) (ids : List String) : String :=
  String.join ((drawsFrom n ids).map fun p => "Renaming variable " ++ p.1 ++ " to " ++ p.2 ++ "\n")

/-- The session after renaming the names `ids`: the name counter moves on by one for each, and
with `verbose` each is announced. -/
def afterRenaming (verbose : Bool) (σ : Session) (ids : List String) : Session :=
  { σ with
    entropy := { σ.entropy with nameDraws := σ.entropy.nameDraws + ids.length }
    printed := if verbose then σ.printed ++ announcements σ.entropy.nameDraws ids else σ.printed }

/-- What renaming puts in the place of a leaf after the leaves `before`, when the names `ids`
are renamed and drawn from the counter `base` on: a name that stays is itself and any other
name the one drawn for it, a string constant is itself, and an import gives nothing. -/
def renamedLeaf (base : Nat) (ids : List String) (before : List Leaf) : Leaf → Option Expr
  | .name x => some (.name (if keptAfter before x then x else nameAt (base + ids.idxOf x) 8))
  | .text t u => some (.constant (.str t u))
  | .part t u => some (.constant (.str t u))
  | .imports _ => none

def renamedLeavesFrom (base : Nat) (ids : List String) (before : List Leaf) :
    List Leaf → List (Option Expr)
  | [] => []
  | ℓ :: L => renamedLeaf base ids before ℓ :: renamedLeavesFrom base ids (before ++ [ℓ]) L

def renamedLeaves (base : Nat) (L : List Leaf) : List (Option Expr) :=
  renamedLeavesFrom base (renamedNames L) [] L

end Spec

section Lemmas

@[simp] theorem importedBy_nil : importedBy [] = [] := rfl

@[simp] theorem importedBy_append (L₁ L₂ : List Leaf) :
    importedBy (L₁ ++ L₂) = importedBy L₁ ++ importedBy L₂ :=
  List.flatMap_append

theorem unkeptFrom_append (before L₁ L₂ : List Leaf) :
    unkeptFrom before (L₁ ++ L₂) = unkeptFrom before L₁ ++ unkeptFrom (before ++ L₁) L₂ := by
  induction L₁ generalizing before with
  | nil => simp [unkeptFrom]
  | cons ℓ L₁ ih => simp [unkeptFrom, ih]

theorem prefix_addNew (seen : List String) (x : String) : seen <+: addNew seen x := by
  unfold addNew
  split
  · exact List.prefix_refl _
  · exact List.prefix_append _ _

theorem prefix_foldl_addNew (l : List String) : ∀ seen, seen <+: l.foldl addNew seen := by
  induction l with
  | nil => exact List.prefix_refl
  | cons x l ih => exact fun seen => (prefix_addNew seen x).trans (ih _)

theorem renamedNames_append (L₁ L₂ : List Leaf) :
    renamedNames (L₁ ++ L₂) = (unkeptFrom L₁ L₂).foldl addNew (renamedNames L₁) := by
  simp [renamedNames, unkeptFrom_append, List.foldl_append]

theorem renamedNames_grows (L₁ L₂ : List Leaf) : renamedNames L₁ <+: renamedNames (L₁ ++ L₂) := by
  rw [renamedNames_append]
  exact prefix_foldl_addNew _ _

theorem renamedNames_append_singleton (before : List Leaf) (ℓ : Leaf) :
    renamedNames (before ++ [ℓ]) = (unkeptAt before ℓ).foldl addNew (renamedNames before) := by
  simp [renamedNames_append, unkeptFrom]

theorem drawsFrom_append (n : Nat) (xs ys : List String) :
    drawsFrom n (xs ++ ys) = drawsFrom n xs ++ drawsFrom (n + xs.length) ys := by
  induction xs generalizing n with
  | nil => rfl
  | cons x xs ih =>
    simp only [List.cons_append, drawsFrom, ih, List.length_cons]
    congr 3
    omega

theorem lookup_drawsFrom (n : Nat) (ids : List String) (x : String) :
    (drawsFrom n ids).lookup x = if x ∈ ids then some (nameAt (n + ids.idxOf x) 8) else none := by
  induction ids generalizing n with
  | nil => simp [drawsFrom]
  | cons y ids ih =>
    by_cases same : x = y
    · simp [drawsFrom, same]
    · have differs : (x == y) = false := by simpa using same
      simp only [drawsFrom, List.lookup_cons, differs, ih, List.mem_cons, same, false_or,
        List.idxOf_cons_ne _ (Ne.symm same)]
      congr 3
      omega

@[simp] theorem afterRenaming_nameDraws (verbose : Bool) (σ : Session) (ids : List String) :
    (afterRenaming verbose σ ids).entropy.nameDraws = σ.entropy.nameDraws + ids.length := rfl

theorem afterRenaming_nil (verbose : Bool) (σ : Session) : afterRenaming verbose σ [] = σ := by
  cases verbose <;> simp [afterRenaming, announcements, drawsFrom]

theorem afterRenaming_append (verbose : Bool) (σ : Session) (ids ids' : List String) :
    afterRenaming verbose (afterRenaming verbose σ ids) ids' = afterRenaming verbose σ (ids ++ ids') := by
  have draws : σ.entropy.nameDraws + ids.length + ids'.length =
      σ.entropy.nameDraws + (ids ++ ids').length := by
    rw [List.length_append, Nat.add_assoc]
  cases verbose <;>
    simp [afterRenaming, announcements, drawsFrom_append, String.append_assoc, draws]

theorem mem_record_imported (r : Renaming) (n x : String) :
    x ∈ (r.record n).imported ↔ x ∈ r.imported ∨ x = n := by
  unfold Renaming.record
  split
  · rename_i present
    have present : n ∈ r.imported := List.contains_iff_mem.mp present
    constructor
    · exact .inl
    · rintro (old | rfl)
      · exact old
      · exact present
  · simp

theorem mem_foldl_record_imported {α : Type} (g : α → String) (x : String) :
    ∀ (as : List α) (r : Renaming),
      x ∈ (as.foldl (fun r a => r.record (g a)) r).imported ↔ x ∈ r.imported ∨ x ∈ as.map g
  | [], r => by simp
  | a :: as, r => by
    rw [List.foldl_cons, mem_foldl_record_imported g x as, mem_record_imported]
    simp [or_assoc]

theorem mem_recordImport_imported (r : Renaming) (s : Stmt) (x : String) :
    x ∈ (r.recordImport s).imported ↔ x ∈ r.imported ∨ x ∈ recordedBy s := by
  cases s <;> simp [Renaming.recordImport, recordedBy, mem_foldl_record_imported]

end Lemmas

section Run

variable (verbose : Bool) {x : String} {r : Renaming} {σ : Session}

theorem renameOne_run_kept (stays : x ∈ keptNames ∨ x ∈ r.imported) :
    ((renameOne verbose x).run r).run.run σ = (.ok (.name x, r), σ) := by
  simp [renameOne, stays]
  rfl

theorem renameOne_run_found {y : String} (moves : ¬(x ∈ keptNames ∨ x ∈ r.imported))
    (found : r.names.lookup x = some y) :
    ((renameOne verbose x).run r).run.run σ = (.ok (.name y, r), σ) := by
  simp [renameOne, moves, found]
  rfl

theorem renameOne_run_new (moves : ¬(x ∈ keptNames ∨ x ∈ r.imported))
    (absent : r.names.lookup x = none) :
    ((renameOne verbose x).run r).run.run σ =
      (.ok (.name (nameAt σ.entropy.nameDraws 8),
        { r with names := r.names ++ [(x, nameAt σ.entropy.nameDraws 8)] }),
        afterRenaming verbose σ [x]) := by
  -- the session as the code leaves it, with its announcement appended in two steps
  have said : afterRenaming verbose σ [x] = if verbose then
      { σ with entropy := (σ.entropy.drawName 8).2,
               printed := σ.printed ++ ("Renaming variable " ++ x ++ " to " ++ nameAt σ.entropy.nameDraws 8) ++ "\n" }
      else { σ with entropy := (σ.entropy.drawName 8).2 } := by
    cases verbose <;> simp [afterRenaming, announcements, drawsFrom, drawName_eq, String.append_assoc]
  rw [said]
  cases verbose <;> simp [renameOne, moves, absent] <;> rfl

end Run

/-- A renaming state as renaming the leaves `before` from the counter `base` on leaves it: the
names renamed so far with the names drawn for them in order, and the names their imports
recorded. -/
structure Tracks (base : Nat) (before : List Leaf) (r : Renaming) : Prop where
  names : r.names = drawsFrom base (renamedNames before)
  imported : ∀ x, x ∈ r.imported ↔ x ∈ importedBy before

theorem Tracks.empty (base : Nat) : Tracks base [] {} := ⟨rfl, by simp⟩

section Tracking

variable (verbose : Bool) (σ₀ : Session) {ids : List String} {before : List Leaf} {r : Renaming}

theorem Tracks.stays_iff (tracks : Tracks σ₀.entropy.nameDraws before r) (x : String) :
    (x ∈ keptNames ∨ x ∈ r.imported) ↔ keptAfter before x = true := by
  simp [keptAfter, tracks.imported]

theorem Tracks.snoc_of_unkeptAt (tracks : Tracks σ₀.entropy.nameDraws before r) {ℓ : Leaf}
    {r' : Renaming} (nothing : unkeptAt before ℓ = []) (names : r'.names = r.names)
    (imported : ∀ x, x ∈ r'.imported ↔ x ∈ r.imported ∨ x ∈ importedBy [ℓ]) :
    Tracks σ₀.entropy.nameDraws (before ++ [ℓ]) r' where
  names := by rw [names, tracks.names, renamedNames_append_singleton, nothing, List.foldl_nil]
  imported x := by rw [imported, tracks.imported, importedBy_append, List.mem_append]

theorem Tracks.renameOne_run (tracks : Tracks σ₀.entropy.nameDraws before r) (x : String)
    (within : renamedNames (before ++ [.name x]) <+: ids) :
    ∃ r', ((renameOne verbose x).run r).run.run (afterRenaming verbose σ₀ (renamedNames before)) =
        (.ok (.name (if keptAfter before x then x else nameAt (σ₀.entropy.nameDraws + ids.idxOf x) 8), r'),
          afterRenaming verbose σ₀ (renamedNames (before ++ [.name x]))) ∧
      Tracks σ₀.entropy.nameDraws (before ++ [.name x]) r' := by
  have stays_iff := tracks.stays_iff σ₀ x
  have lookup := lookup_drawsFrom σ₀.entropy.nameDraws (renamedNames before) x
  rw [← tracks.names] at lookup
  cases kept : keptAfter before x with
  | true =>
    have nothing : unkeptAt before (.name x) = [] := by simp [unkeptAt, kept]
    rw [renamedNames_append_singleton, nothing, List.foldl_nil]
    exact ⟨r, renameOne_run_kept verbose (stays_iff.mpr kept),
      tracks.snoc_of_unkeptAt σ₀ nothing rfl (by simp [importedBy])⟩
  | false =>
    have moves : ¬(x ∈ keptNames ∨ x ∈ r.imported) := by simp [stays_iff, kept]
    have renames : unkeptAt before (.name x) = [x] := by simp [unkeptAt, kept]
    rw [renamedNames_append_singleton, renames] at within ⊢
    by_cases seen : x ∈ renamedNames before
    · -- renamed before: its drawn name stands at its first position, in `ids` too
      have same : [x].foldl addNew (renamedNames before) = renamedNames before := by
        simp [addNew, seen]
      rw [same] at within ⊢
      obtain ⟨rest, rfl⟩ := within
      rw [if_pos seen] at lookup
      refine ⟨r, ?_, ⟨tracks.names.trans (by rw [renamedNames_append_singleton, renames, same]),
        fun y => by rw [tracks.imported]; simp [importedBy]⟩⟩
      rw [renameOne_run_found verbose moves lookup, List.idxOf_append_of_mem seen]
      rfl
    · -- a new name: the next draw, at the position it takes at the end of the renamed names
      have added : [x].foldl addNew (renamedNames before) = renamedNames before ++ [x] := by
        simp [addNew, seen]
      rw [added] at within ⊢
      obtain ⟨rest, rfl⟩ := within
      rw [if_neg seen] at lookup
      have position : ((renamedNames before ++ [x]) ++ rest).idxOf x = (renamedNames before).length := by
        rw [List.idxOf_append_of_mem (by simp), List.idxOf_append_of_notMem seen]
        simp
      refine ⟨{ r with names := r.names ++
          [(x, nameAt (σ₀.entropy.nameDraws + (renamedNames before).length) 8)] }, ?_,
        ⟨?_, fun y => by simpa [importedBy] using tracks.imported y⟩⟩
      · rw [renameOne_run_new verbose moves lookup, afterRenaming_append, position,
          afterRenaming_nameDraws]
        rfl
      · rw [renamedNames_append_singleton, renames, added, drawsFrom_append, ← tracks.names]
        rfl

theorem Tracks.renameLeaf_run (tracks : Tracks σ₀.entropy.nameDraws before r) (ℓ : Leaf)
    (within : renamedNames (before ++ [ℓ]) <+: ids) :
    ∃ r', (((renameVisit verbose).leaf ℓ).run r).run.run (afterRenaming verbose σ₀ (renamedNames before)) =
        (.ok (renamedLeaf σ₀.entropy.nameDraws ids before ℓ, r'),
          afterRenaming verbose σ₀ (renamedNames (before ++ [ℓ]))) ∧
      Tracks σ₀.entropy.nameDraws (before ++ [ℓ]) r' := by
  cases ℓ with
  | name x =>
    obtain ⟨r', run, tracks'⟩ := tracks.renameOne_run verbose σ₀ x within
    refine ⟨r', ?_, tracks'⟩
    simp only [LeafVisit.leaf, renameVisit, StateT.run_map]
    rw [Run.run_map_ok run]
    rfl
  | text t u =>
    have nothing : unkeptAt before (.text t u) = [] := rfl
    rw [renamedNames_append_singleton, nothing, List.foldl_nil]
    exact ⟨r, rfl, tracks.snoc_of_unkeptAt σ₀ nothing rfl (by simp [importedBy])⟩
  | part t u =>
    have nothing : unkeptAt before (.part t u) = [] := rfl
    rw [renamedNames_append_singleton, nothing, List.foldl_nil]
    exact ⟨r, rfl, tracks.snoc_of_unkeptAt σ₀ nothing rfl (by simp [importedBy])⟩
  | imports s =>
    have nothing : unkeptAt before (.imports s) = [] := rfl
    rw [renamedNames_append_singleton, nothing, List.foldl_nil]
    exact ⟨r.recordImport s, rfl, tracks.snoc_of_unkeptAt σ₀ nothing (r.recordImport_grows s).1
      (fun y => by rw [mem_recordImport_imported]; simp [importedBy])⟩

theorem Tracks.renameLeaves_run :
    ∀ (L : List Leaf) {before : List Leaf} {r : Renaming}, Tracks σ₀.entropy.nameDraws before r →
      renamedNames (before ++ L) <+: ids →
      ∃ r', ((L.mapM (renameVisit verbose).leaf).run r).run.run
          (afterRenaming verbose σ₀ (renamedNames before)) =
        (.ok (renamedLeavesFrom σ₀.entropy.nameDraws ids before L, r'),
          afterRenaming verbose σ₀ (renamedNames (before ++ L))) ∧
        Tracks σ₀.entropy.nameDraws (before ++ L) r'
  | [], before, r, tracks, _ => ⟨r, by simp [renamedLeavesFrom]; rfl, by simpa using tracks⟩
  | ℓ :: L, before, r, tracks, within => by
    have within' : renamedNames ((before ++ [ℓ]) ++ L) <+: ids := by simpa using within
    obtain ⟨r₁, first, tracks₁⟩ :=
      tracks.renameLeaf_run verbose σ₀ ℓ ((renamedNames_grows _ L).trans within')
    obtain ⟨r₂, rest, tracks₂⟩ := tracks₁.renameLeaves_run L within'
    refine ⟨r₂, ?_, by simpa using tracks₂⟩
    rw [List.mapM_cons, renaming_run_bind_ok first, renaming_run_bind_ok rest]
    simp only [List.append_assoc, List.singleton_append] at rest ⊢
    rfl

end Tracking

/-- Renaming a module from an empty renaming puts `renamedLeaf` in the place of every leaf: a
name stays as it is when it is kept or an import before it recorded it, and is otherwise the
name drawn at its position among the renamed names in order of first occurrence. The name
counter moves on once per renamed name and, with `verbose`, each is announced once in that
order; nothing else of the session changes. -/
theorem Module.rename_renames_first_occurrences (verbose : Bool) (m : Module) (σ : Session) :
    (Module.rename verbose m).run.run σ =
      (.ok (Stmt.fillAll m (renamedLeaves σ.entropy.nameDraws (Stmt.leavesAll m))),
        afterRenaming verbose σ (renamedNames (Stmt.leavesAll m))) := by
  obtain ⟨r, run, -⟩ := (Tracks.empty σ.entropy.nameDraws).renameLeaves_run verbose σ
    (Stmt.leavesAll m) (List.prefix_refl _)
  simp only [List.nil_append] at run
  rw [show renamedNames [] = [] from rfl, afterRenaming_nil] at run
  simp only [Module.rename, Module.renameWith, StateT.run'_eq, Stmt.walkLeavesAll_eq_fillAll,
    StateT.run_map]
  rw [Run.run_map_ok (Run.run_map_ok run _)]
  rfl

/-- A name renamed before an import of it, and kept after it. -/
example :
    renamedLeaves 0 [.name "y", .imports (.importFrom (some "m") [⟨"y", none⟩] 0), .name "y",
      .name "len"] =
      [some (.name "v_aaaaaaaa"), none, some (.name "y"), some (.name "len")] := by
  rfl

end Obfuscation.Pass
