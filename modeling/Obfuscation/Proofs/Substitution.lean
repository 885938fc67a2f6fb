import Obfuscation.Proofs.RenamingOrder
import Obfuscation.Proofs.Execution
/-!
Renaming as a substitution of names. Where each import comes before the uses of what it records,
renaming is one substitution of the module's names; where the module also uses no drawn name and
the counter has room, it is injective (`Module.rename_substitutes_names`).
-/

namespace Obfuscation.Pass

open Syntax Entropy

section Substitution

def namesOf (L : List Leaf) : List String :=
  L.flatMap fun
    | .name x => [x]
    | _ => []

def Module.names (m : Module) : List String := namesOf (Stmt.leavesAll m)

/-- Whether every import among some leaves comes before each use of a name it records. -/
def importsFirst : List Leaf → Bool
  | [] => true
  | .name x :: rest => !(importedBy rest).contains x && importsFirst rest
  | _ :: rest => importsFirst rest

/-- What substituting `ρ` puts in the place of a leaf: the name `ρ x` for a name `x`, a string
constant itself, and nothing for an import. -/
def Leaf.substituted (ρ : String → String) : Leaf → Option Expr
  | .name x => some (.name (ρ x))
  | .text t u => some (.constant (.str t u))
  | .part t u => some (.constant (.str t u))
  | .imports _ => none

/-- A module with every name `x` in it replaced by `ρ x`, and nothing else changed. -/
def Module.substitute (ρ : String → String) (m : Module) : Module :=
  Stmt.fillAll m ((Stmt.leavesAll m).map (Leaf.substituted ρ))

/-- The substitution renaming makes over the leaves `L` when the names `ids` are renamed and
drawn from the counter `base` on: a name that stays after all of `L` is itself, any other the
name drawn at its position among `ids`. -/
def renamingBy (base : Nat) (ids : List String) (L : List Leaf) (x : String) : String :=
  if keptAfter L x then x else nameAt (base + ids.idxOf x) 8

end Substitution

section Lemmas

theorem mem_namesOf {x : String} {L : List Leaf} :
    x ∈ namesOf L ↔ ∃ before after, L = before ++ .name x :: after := by
  constructor
  · intro mem
    obtain ⟨ℓ, inL, named⟩ := List.mem_flatMap.mp mem
    cases ℓ with
    | name y =>
      rw [List.mem_singleton] at named
      subst named
      exact List.append_of_mem inL
    | text _ _ | part _ _ | imports _ => cases named
  · rintro ⟨before, after, rfl⟩
    exact List.mem_flatMap.mpr ⟨.name x, by simp, List.mem_singleton_self x⟩

theorem keptAfter_mono {before : List Leaf} {x : String} (after : List Leaf)
    (kept : keptAfter before x = true) : keptAfter (before ++ after) x = true := by
  simp only [keptAfter, Bool.or_eq_true, List.contains_iff_mem, importedBy_append,
    List.mem_append] at kept ⊢
  tauto

theorem keptAfter_of_not_imported_after {before after : List Leaf} {x : String}
    (unrecorded : x ∉ importedBy after) :
    keptAfter (before ++ .name x :: after) x = keptAfter before x := by
  rw [keptAfter, keptAfter, importedBy_append,
    show importedBy (.name x :: after) = importedBy after from rfl]
  simp [unrecorded]

theorem mem_foldl_addNew {x : String} :
    ∀ (l seen : List String), x ∈ l.foldl addNew seen ↔ x ∈ seen ∨ x ∈ l
  | [], seen => by simp
  | y :: l, seen => by
    rw [List.foldl_cons, mem_foldl_addNew l, List.mem_cons]
    unfold addNew
    split
    · rename_i present
      constructor
      · rintro (old | later)
        · exact .inl old
        · exact .inr (.inr later)
      · rintro (old | rfl | later)
        · exact .inl old
        · exact .inl present
        · exact .inr later
    · simp only [List.mem_append, List.mem_singleton]
      tauto

theorem nodup_foldl_addNew : ∀ (l seen : List String), seen.Nodup → (l.foldl addNew seen).Nodup
  | [], _, nodup => nodup
  | y :: l, seen, nodup => by
    rw [List.foldl_cons]
    apply nodup_foldl_addNew l
    unfold addNew
    split
    · exact nodup
    · rename_i absent
      exact nodup.append (List.nodup_singleton y) (by simpa using absent)

theorem unkeptFrom_subset_namesOf : ∀ (before L : List Leaf), unkeptFrom before L ⊆ namesOf L
  | _, [] => List.Subset.refl _
  | before, ℓ :: L => by
    rw [unkeptFrom, namesOf, List.flatMap_cons]
    intro y mem
    rcases List.mem_append.mp mem with here | later
    · -- only a name that is not kept renames, and then it is the name itself
      refine List.mem_append_left _ ?_
      cases ℓ with
      | name x =>
        by_cases kept : keptAfter before x = true
        · simp [unkeptAt, kept] at here
        · simp only [unkeptAt, kept] at here
          exact here
      | text _ _ | part _ _ | imports _ => cases here
    · exact List.mem_append_right _ (unkeptFrom_subset_namesOf (before ++ [ℓ]) L later)

theorem length_renamedNames_le (L : List Leaf) : (renamedNames L).length ≤ (namesOf L).length := by
  have nodup : (renamedNames L).Nodup := nodup_foldl_addNew _ [] List.nodup_nil
  have sub : renamedNames L ⊆ namesOf L := fun x mem => by
    rw [renamedNames, mem_foldl_addNew] at mem
    rcases mem with never | renamed
    · cases never
    · exact unkeptFrom_subset_namesOf [] L renamed
  exact (nodup.subperm sub).length_le

theorem mem_renamedNames_of_unkept {x : String} {L : List Leaf} (used : x ∈ namesOf L)
    (moves : keptAfter L x = false) : x ∈ renamedNames L := by
  obtain ⟨before, after, rfl⟩ := mem_namesOf.mp used
  have movesHere : keptAfter before x = false := by
    cases kept : keptAfter before x
    · rfl
    · rw [keptAfter_mono (.name x :: after) kept] at moves
      cases moves
  rw [renamedNames, mem_foldl_addNew, unkeptFrom_append]
  refine .inr (List.mem_append_right _ ?_)
  simp [unkeptFrom, unkeptAt, movesHere]

theorem renamedLeaf_eq_substituted (base : Nat) (ids : List String) (before : List Leaf) :
    ∀ ℓ : Leaf, renamedLeaf base ids before ℓ =
      Leaf.substituted (fun x => if keptAfter before x then x else nameAt (base + ids.idxOf x) 8) ℓ
  | .name _ | .text _ _ | .part _ _ | .imports _ => rfl

theorem renamedLeavesFrom_eq_map (base : Nat) (ids : List String) :
    ∀ (before L : List Leaf), importsFirst L = true →
      renamedLeavesFrom base ids before L =
        L.map (Leaf.substituted (renamingBy base ids (before ++ L)))
  | _, [], _ => rfl
  | before, ℓ :: L, ordered => by
    have orderedRest : importsFirst L = true := by
      cases ℓ with
      | name x => exact (Bool.and_eq_true _ _ ▸ ordered).2
      | text _ _ | part _ _ | imports _ => exact ordered
    rw [renamedLeavesFrom, List.map_cons,
      renamedLeavesFrom_eq_map base ids (before ++ [ℓ]) L orderedRest, List.append_assoc,
      List.singleton_append, renamedLeaf_eq_substituted]
    congr 1
    cases ℓ with
    | name x =>
      -- no import after this use records `x`, so it is kept here as it is after all the leaves
      have unrecorded : x ∉ importedBy L := by
        have first := (Bool.and_eq_true _ _ ▸ ordered).1
        simpa using first
      simp only [Leaf.substituted, renamingBy, keptAfter_of_not_imported_after unrecorded]
    | text _ _ | part _ _ | imports _ => rfl

theorem nameAt_take_two (n k : Nat) : (nameAt n k).toList.take 2 = ['v', '_'] := by
  simp [nameAt]

theorem ne_nameAt {x : String} (fresh : x.toList.take 2 ≠ ['v', '_']) (n : Nat) : x ≠ nameAt n 8 :=
  fun same => fresh (same ▸ nameAt_take_two n 8)

end Lemmas

/-- Renaming a module whose imports come before the uses of the names they record substitutes
one function `ρ` for its names. When the module uses no name of the form renaming draws and at
most `62 ^ 8` names, `ρ` is injective on them: two uses of names share a name after renaming
exactly when they shared one before. Every other part of the module, the names that
definitions, parameters and declarations bind included, stays as it was. -/
theorem Module.rename_substitutes_names (verbose : Bool) (m : Module) (σ : Session)
    (ordered : importsFirst (Stmt.leavesAll m) = true)
    (fresh : ∀ x ∈ Module.names m, x.toList.take 2 ≠ ['v', '_'])
    (few : (Module.names m).length ≤ 62 ^ 8) :
    ∃ ρ : String → String, Set.InjOn ρ {x | x ∈ Module.names m} ∧
      ((Module.rename verbose m).run.run σ).1 = .ok (Module.substitute ρ m) := by
  let L := Stmt.leavesAll m
  let base := σ.entropy.nameDraws
  let ids := renamedNames L
  refine ⟨renamingBy base ids L, ?_, ?_⟩
  · -- kept names are themselves, renamed ones distinct drawn names, and the two never meet
    intro x used y usedToo same
    have distinct := List.inj_on_of_nodup_map
      (nameAt_nodup base ids.length 8 ((length_renamedNames_le L).trans few))
    simp only [renamingBy] at same
    cases keptX : keptAfter L x <;> cases keptY : keptAfter L y <;>
      simp only [keptX, keptY, Bool.false_eq_true, if_true, if_false] at same
    · have x_in := mem_renamedNames_of_unkept used keptX
      have y_in := mem_renamedNames_of_unkept usedToo keptY
      have position := distinct (List.mem_range.mpr (List.idxOf_lt_length_of_mem x_in))
        (List.mem_range.mpr (List.idxOf_lt_length_of_mem y_in)) same
      exact (List.idxOf_inj x_in).mp position
    · exact absurd same.symm (ne_nameAt (fresh y usedToo) _)
    · exact absurd same (ne_nameAt (fresh x used) _)
    · exact same
  · -- the run as renaming the leaves in order from an empty renaming gives it
    obtain ⟨r, run, -⟩ := (Tracks.empty base).renameLeaves_run verbose σ L (List.prefix_refl _)
    simp only [List.nil_append] at run
    rw [show renamedNames [] = [] from rfl, afterRenaming_nil] at run
    simp only [Module.rename, Module.renameWith, StateT.run'_eq, Stmt.walkLeavesAll_eq_fillAll,
      StateT.run_map]
    rw [Run.run_map_ok (Run.run_map_ok run _)]
    show Except.ok (Stmt.fillAll m (renamedLeavesFrom base ids [] L)) = _
    rw [renamedLeavesFrom_eq_map base ids [] L ordered, List.nil_append]
    rfl

/-- `x = 1; y = x` meets the conditions, and renaming it is a substitution injective on `x` and
`y`. -/
theorem rename_substitutes_names_of_assignments :
    let m : Module := [.assign [.name "x"] (.constant (.int 1)), .assign [.name "y"] (.name "x")]
    importsFirst (Stmt.leavesAll m) = true ∧ (∀ x ∈ Module.names m, x.toList.take 2 ≠ ['v', '_']) ∧
      (Module.names m).length ≤ 62 ^ 8 ∧
      ∃ ρ : String → String, Set.InjOn ρ {x | x ∈ Module.names m} ∧
        ((Module.rename false m).run.run {}).1 = .ok (Module.substitute ρ m) := by
  intro m
  have ordered : importsFirst (Stmt.leavesAll m) = true := by decide +kernel
  have fresh : ∀ x ∈ Module.names m, x.toList.take 2 ≠ ['v', '_'] := by decide +kernel
  have few : (Module.names m).length ≤ 62 ^ 8 := by decide +kernel
  exact ⟨ordered, fresh, few, Module.rename_substitutes_names false m {} ordered fresh few⟩

/-- Renaming `def f(x): return x` keeps the parameter `x` and renames its use, so the function
no longer returns its parameter. -/
theorem rename_keeps_parameter_renames_use :
    let m : Module := [.functionDef "f" (.mk [] [.mk "x" none] none [] [] none [])
      [.returnStmt (some (.name "x"))] [] none false]
    ∃ m' σ', (Module.rename false m).run.run {} = (.ok m', σ') ∧
      m'.flatMap Stmt.declared = ["x"] ∧ Module.names m' = ["v_aaaaaaaa"] := by
  intro m
  have renamed : ((Module.rename false m).run.run {}).1.toOption.any
      (fun m' => m'.flatMap Stmt.declared == ["x"] && Module.names m' == ["v_aaaaaaaa"]) = true := by
    decide +kernel
  revert renamed
  rcases (Module.rename false m).run.run {} with ⟨_ | m', σ'⟩
  · intro never
    cases never
  · intro kept
    obtain ⟨declared, used⟩ := (Bool.and_eq_true _ _).mp kept
    exact ⟨m', σ', rfl, beq_iff_eq.mp declared, beq_iff_eq.mp used⟩

end Obfuscation.Pass
