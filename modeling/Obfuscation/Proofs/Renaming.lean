import Mathlib
import Obfuscation.Proofs.Traversal
import Obfuscation.Proofs.Run
import Obfuscation.Pass.Transform
/-!
The renaming state across a sequence of sources. Drawn names are eight base-62 digits of a counter
after `v_`; a run keeps a renaming whose `i`-th replacement is the name drawn at step `i`. Over a
sequence of sources the state only grows.
-/

namespace Obfuscation.Entropy

/-- The name drawn after `n` earlier draws, with `k` characters after `v_`. -/
def nameAt (n k : Nat) : String := "v_" ++ String.ofList (nameDigits n k)

theorem drawName_eq (e : Entropy) (k : Int) :
    e.drawName k = (nameAt e.nameDraws k.toNat, { e with nameDraws := e.nameDraws + 1 }) := rfl

theorem nameAlphabet_nodup : nameAlphabet.Nodup := by decide +kernel

theorem nameAlphabet_length : nameAlphabet.length = 62 := by decide

theorem isAlphanum_of_mem_nameAlphabet : ∀ c ∈ nameAlphabet, c.isAlphanum :=
  List.all_eq_true.mp (by decide)

@[simp] theorem length_nameDigits (n k : Nat) : (nameDigits n k).length = k := by
  simp [nameDigits]

theorem mem_nameAlphabet_of_mem_nameDigits {n k : Nat} {c : Char} (mem : c ∈ nameDigits n k) :
    c ∈ nameAlphabet := by
  simp only [nameDigits, List.mem_map, List.mem_range] at mem
  obtain ⟨i, -, rfl⟩ := mem
  rw [List.getD_eq_getElem?_getD, List.getElem?_eq_getElem (by rw [nameAlphabet_length]; omega)]
  exact List.getElem_mem _

theorem nameDigits_succ (n k : Nat) :
    nameDigits n (k + 1) = nameDigits (n / 62) k ++ [nameAlphabet.getD (n % 62) 'a'] := by
  simp only [nameDigits, Nat.pow_eq, List.range_succ, List.map_append, List.map_cons,
    List.map_nil, Nat.add_sub_cancel, Nat.sub_self, Nat.pow_zero, Nat.div_one]
  congr 1
  apply List.map_congr_left
  intro i mem
  have lt : i < k := List.mem_range.mp mem
  have digit : k - i = (k - 1 - i) + 1 := by omega
  rw [digit, Nat.pow_succ, Nat.mul_comm, ← Nat.div_div_eq_div_mul]

theorem digit_inj {i j : Nat} (hi : i < 62) (hj : j < 62)
    (same : nameAlphabet.getD i 'a' = nameAlphabet.getD j 'a') : i = j := by
  rw [List.getD_eq_getElem?_getD, List.getElem?_eq_getElem (by rw [nameAlphabet_length]; omega),
    List.getD_eq_getElem?_getD, List.getElem?_eq_getElem (by rw [nameAlphabet_length]; omega),
    Option.getD_some, Option.getD_some] at same
  exact (nameAlphabet_nodup.getElem_inj_iff).mp same

theorem mod_eq_of_nameDigits_eq : ∀ {a b : Nat} (k : Nat), nameDigits a k = nameDigits b k →
    a % 62 ^ k = b % 62 ^ k
  | a, b, 0, _ => by simp [Nat.mod_one]
  | a, b, k + 1, same => by
    rw [nameDigits_succ, nameDigits_succ] at same
    obtain ⟨front, last⟩ := List.append_inj' same rfl
    have low : a % 62 = b % 62 :=
      digit_inj (Nat.mod_lt _ (by decide)) (Nat.mod_lt _ (by decide)) (List.singleton_inj.mp last)
    have high := mod_eq_of_nameDigits_eq k front
    rw [Nat.pow_succ, Nat.mul_comm, Nat.mod_mul, Nat.mod_mul, low, high]

theorem nameAt_inj {a b k : Nat} (same : nameAt a k = nameAt b k) :
    nameDigits a k = nameDigits b k := by
  have chars := congrArg String.toList same
  simpa [nameAt, String.toList_append, String.toList_ofList] using chars

theorem nameAt_form (n k : Nat) :
    ∃ cs : List Char, nameAt n k = "v_" ++ String.ofList cs ∧ cs.length = k ∧
      ∀ c ∈ cs, c.isAlphanum :=
  ⟨nameDigits n k, rfl, length_nameDigits n k,
    fun _ mem => isAlphanum_of_mem_nameAlphabet _ (mem_nameAlphabet_of_mem_nameDigits mem)⟩

theorem eq_of_add_mod_eq {M base i j : Nat} (hi : i < M) (hj : j < M)
    (same : (base + i) % M = (base + j) % M) : i = j := by
  wlog le : i ≤ j with symm
  · exact (symm hj hi same.symm (by omega)).symm
  have dvd : M ∣ (base + j) - (base + i) :=
    Nat.dvd_of_mod_eq_zero (Nat.sub_mod_eq_zero_of_mod_eq same.symm)
  rcases Nat.eq_zero_or_pos ((base + j) - (base + i)) with zero | pos
  · omega
  · have := Nat.le_of_dvd pos dvd
    omega

/-- Names drawn at fewer than `62 ^ k` consecutive counters are all different. -/
theorem nameAt_nodup (base len k : Nat) (few : len ≤ 62 ^ k) :
    ((List.range len).map fun i => nameAt (base + i) k).Nodup := by
  rw [List.nodup_map_iff_inj_on List.nodup_range]
  intro i mi j mj same
  have hi := List.mem_range.mp mi
  have hj := List.mem_range.mp mj
  exact eq_of_add_mod_eq (by omega) (by omega) (mod_eq_of_nameDigits_eq k (nameAt_inj same))

end Obfuscation.Entropy

namespace Obfuscation.Pass

open Syntax Entropy

/-- One renaming state grows into another: replacements are only added, after the others, and
recorded imports are only added. -/
structure Renaming.Grows (r r' : Renaming) : Prop where
  names : r.names <+: r'.names
  imported : r.imported ⊆ r'.imported

theorem Renaming.Grows.refl (r : Renaming) : r.Grows r :=
  ⟨List.prefix_refl _, List.Subset.refl _⟩

theorem Renaming.Grows.trans {r₁ r₂ r₃ : Renaming} (first : r₁.Grows r₂) (second : r₂.Grows r₃) :
    r₁.Grows r₃ :=
  ⟨first.names.trans second.names, List.Subset.trans first.imported second.imported⟩

/-- A renaming whose replacements were drawn from the counter `base` on: no kept name is
replaced, no name is replaced twice, and the `i`-th replacement is the name drawn at
`base + i`. -/
structure Renaming.Drawn (base : Nat) (r : Renaming) : Prop where
  unkept : ∀ p ∈ r.names, p.1 ∉ keptNames
  keys : (r.names.map Prod.fst).Nodup
  values : r.names.map Prod.snd = (List.range r.names.length).map fun i => nameAt (base + i) 8

/-- A renaming and a session as a renaming run keeps them: the renaming is drawn from `base` on
and the session's name counter stands right after its last replacement. -/
structure Renaming.Counted (base : Nat) (r : Renaming) (σ : Session) : Prop where
  drawn : r.Drawn base
  count : σ.entropy.nameDraws = base + r.names.length

theorem not_mem_keys_of_lookup_eq_none {x : String} :
    ∀ {l : List (String × String)}, l.lookup x = none → x ∉ l.map Prod.fst
  | [], _ => by simp
  | (k, b) :: rest, absent => by
    simp only [List.lookup_cons] at absent
    split at absent
    · cases absent
    · rename_i differs
      simp only [List.map_cons, List.mem_cons, not_or]
      exact ⟨fun same => by simp_all, not_mem_keys_of_lookup_eq_none absent⟩

theorem Renaming.Counted.add {base : Nat} {r : Renaming} {σ σ' : Session} {x : String}
    (counted : r.Counted base σ) (unkept : x ∉ keptNames) (fresh : r.names.lookup x = none)
    (count : σ'.entropy.nameDraws = σ.entropy.nameDraws + 1) :
    Renaming.Counted base ⟨r.names ++ [(x, nameAt σ.entropy.nameDraws 8)], r.imported⟩ σ' where
  drawn.unkept p mem := by
    rcases List.mem_append.mp mem with old | new
    · exact counted.drawn.unkept p old
    · rw [List.mem_singleton.mp new]
      exact unkept
  drawn.keys := by
    have absent := not_mem_keys_of_lookup_eq_none fresh
    simp only [List.map_append, List.map_cons, List.map_nil]
    rw [List.nodup_append]
    refine ⟨counted.drawn.keys, List.nodup_singleton _, ?_⟩
    intro a old b new same
    rw [List.mem_singleton] at new
    rw [same, new] at old
    exact absent old
  drawn.values := by
    rw [List.map_append, counted.drawn.values, List.length_append, List.length_singleton,
      List.range_succ, List.map_append, counted.count]
    rfl
  count := by
    rw [count, counted.count]
    simp only [List.length_append, List.length_singleton]
    omega

/-- What a name `x` may be replaced with under the renaming `R`: itself, when it is kept or
recorded as imported, or else the replacement `R` gives it. -/
def NameRenamed (R : Renaming) (x y : String) : Prop :=
  (y = x ∧ (x ∈ keptNames ∨ x ∈ R.imported)) ∨ (x ∉ keptNames ∧ R.names.lookup x = some y)

theorem renameOne_run (verbose : Bool) (x : String) {base : Nat} {r : Renaming} {σ : Session}
    (counted : r.Counted base σ) :
    ∃ y r' σ', ((renameOne verbose x).run r).run.run σ = (.ok (.name y, r'), σ') ∧
      r.Grows r' ∧ r'.Counted base σ' ∧ NameRenamed r' x y := by
  by_cases stays : x ∈ keptNames ∨ x ∈ r.imported
  · refine ⟨x, r, σ, ?_, .refl r, counted, .inl ⟨rfl, stays⟩⟩
    simp [renameOne, stays]
    rfl
  · cases found : r.names.lookup x with
    | some n =>
      refine ⟨n, r, σ, ?_, .refl r, counted, .inr ⟨fun kept => stays (.inl kept), found⟩⟩
      simp [renameOne, stays, found]
      rfl
    | none =>
      -- a new name is drawn at the current counter and added after the others
      let y := nameAt σ.entropy.nameDraws 8
      let drawn : Session := { σ with entropy := (σ.entropy.drawName 8).2 }
      let σ' : Session := if verbose then
        { drawn with printed := drawn.printed ++ ("Renaming variable " ++ x ++ " to " ++ y) ++ "\n" }
        else drawn
      have run : ((renameOne verbose x).run r).run.run σ =
          (.ok (.name y, ⟨r.names ++ [(x, y)], r.imported⟩), σ') := by
        cases verbose <;> simp [renameOne, stays, found] <;> rfl
      have count : σ'.entropy.nameDraws = σ.entropy.nameDraws + 1 := by
        cases verbose <;> rfl
      have unkept : x ∉ keptNames := fun kept => stays (.inl kept)
      refine ⟨y, ⟨r.names ++ [(x, y)], r.imported⟩, σ', run, ⟨List.prefix_append _ _,
        List.Subset.refl _⟩, counted.add unkept found count, .inr ⟨unkept, ?_⟩⟩
      simp [List.lookup_append, found]

theorem Renaming.grows_record_foldl {α : Type} (g : α → String) :
    ∀ (as : List α) (r : Renaming),
      (as.foldl (fun r a => r.record (g a)) r).names = r.names ∧
        r.imported ⊆ (as.foldl (fun r a => r.record (g a)) r).imported
  | [], r => ⟨rfl, List.Subset.refl _⟩
  | a :: as, r => by
    obtain ⟨names, imported⟩ := grows_record_foldl g as (r.record (g a))
    have recorded : (r.record (g a)).names = r.names ∧ r.imported ⊆ (r.record (g a)).imported := by
      unfold Renaming.record
      split
      · exact ⟨rfl, List.Subset.refl _⟩
      · exact ⟨rfl, List.subset_append_left _ _⟩
    exact ⟨names.trans recorded.1, List.Subset.trans recorded.2 imported⟩

theorem Renaming.recordImport_grows (r : Renaming) (s : Stmt) :
    (r.recordImport s).names = r.names ∧ r.imported ⊆ (r.recordImport s).imported := by
  unfold Renaming.recordImport
  split
  · exact grows_record_foldl _ _ r
  · exact grows_record_foldl _ _ r
  · exact ⟨rfl, List.Subset.refl _⟩

theorem Renaming.Counted.of_names {base : Nat} {r r' : Renaming} {σ σ' : Session}
    (counted : r.Counted base σ) (names : r'.names = r.names)
    (entropy : σ'.entropy = σ.entropy) : r'.Counted base σ' where
  drawn := ⟨names ▸ counted.drawn.unkept, names ▸ counted.drawn.keys,
    names ▸ counted.drawn.values⟩
  count := by rw [entropy, names, counted.count]

/-- What a leaf may be replaced with under the renaming `R`: a name by a name as `NameRenamed`
allows, a string constant by itself, and an import by nothing. -/
def LeafRenamed (R : Renaming) : Leaf → Option Expr → Prop
  | .name x, e => ∃ y, e = some (.name y) ∧ NameRenamed R x y
  | .text t u, e => e = some (.constant (.str t u))
  | .part t u, e => e = some (.constant (.str t u))
  | .imports _, e => e = none

/-- A module renamed under `R`: the module with every leaf replaced as `LeafRenamed` allows. -/
def RenamedBy (R : Renaming) (m m' : Module) : Prop :=
  ∃ rs, m' = Stmt.fillAll m rs ∧ List.Forall₂ (LeafRenamed R) (Stmt.leavesAll m) rs

theorem NameRenamed.mono {R R' : Renaming} {x y : String} (grows : R.Grows R')
    (renamed : NameRenamed R x y) : NameRenamed R' x y := by
  rcases renamed with ⟨same, kept | imported⟩ | ⟨unkept, found⟩
  · exact .inl ⟨same, .inl kept⟩
  · exact .inl ⟨same, .inr (grows.imported imported)⟩
  · obtain ⟨later, extended⟩ := grows.names
    refine .inr ⟨unkept, ?_⟩
    rw [← extended, List.lookup_append, found]
    rfl

theorem LeafRenamed.mono {R R' : Renaming} (grows : R.Grows R') :
    ∀ {ℓ : Leaf} {e : Option Expr}, LeafRenamed R ℓ e → LeafRenamed R' ℓ e
  | .name _, _, ⟨y, same, renamed⟩ => ⟨y, same, renamed.mono grows⟩
  | .text _ _, _, same => same
  | .part _ _, _, same => same
  | .imports _, _, same => same

theorem RenamedBy.mono {R R' : Renaming} {m m' : Module} (grows : R.Grows R')
    (renamed : RenamedBy R m m') : RenamedBy R' m m' :=
  let ⟨rs, filled, leaves⟩ := renamed
  ⟨rs, filled, leaves.imp fun _ _ => LeafRenamed.mono grows⟩

theorem renaming_run_bind_ok {α β : Type} {x : StateT Renaming Run α}
    {f : α → StateT Renaming Run β} {r r₁ : Renaming} {σ σ₁ : Session} {a : α}
    (h : (x.run r).run.run σ = (.ok (a, r₁), σ₁)) :
    ((x >>= f).run r).run.run σ = ((f a).run r₁).run.run σ₁ := by
  rw [StateT.run_bind, Run.run_bind_ok h]

theorem renameLeaf_run (verbose : Bool) (ℓ : Leaf) {base : Nat} {r : Renaming} {σ : Session}
    (counted : r.Counted base σ) :
    ∃ e r' σ', (((renameVisit verbose).leaf ℓ).run r).run.run σ = (.ok (e, r'), σ') ∧
      r.Grows r' ∧ r'.Counted base σ' ∧ LeafRenamed r' ℓ e := by
  cases ℓ with
  | name x =>
    obtain ⟨y, r', σ', run, grows, counted', renamed⟩ := renameOne_run verbose x counted
    refine ⟨some (.name y), r', σ', ?_, grows, counted', y, rfl, renamed⟩
    simp only [LeafVisit.leaf, renameVisit, StateT.run_map]
    rw [Run.run_map_ok run]
  | text t u => exact ⟨_, r, σ, rfl, .refl r, counted, rfl⟩
  | part t u => exact ⟨_, r, σ, rfl, .refl r, counted, rfl⟩
  | imports s =>
    obtain ⟨names, imported⟩ := r.recordImport_grows s
    exact ⟨none, r.recordImport s, σ, rfl, ⟨names ▸ List.prefix_refl _, imported⟩,
      counted.of_names names rfl, rfl⟩

theorem renameLeaves_run (verbose : Bool) :
    ∀ (L : List Leaf) {base : Nat} {r : Renaming} {σ : Session}, r.Counted base σ →
      ∃ es r' σ', ((L.mapM (renameVisit verbose).leaf).run r).run.run σ = (.ok (es, r'), σ') ∧
        r.Grows r' ∧ r'.Counted base σ' ∧ List.Forall₂ (LeafRenamed r') L es
  | [], _, r, σ, counted => ⟨[], r, σ, rfl, .refl r, counted, .nil⟩
  | ℓ :: L, _, r, σ, counted => by
    obtain ⟨e, r₁, σ₁, first, grows₁, counted₁, renamed⟩ := renameLeaf_run verbose ℓ counted
    obtain ⟨es, r₂, σ₂, rest, grows₂, counted₂, renamedRest⟩ := renameLeaves_run verbose L counted₁
    refine ⟨e :: es, r₂, σ₂, ?_, grows₁.trans grows₂, counted₂,
      List.Forall₂.cons (renamed.mono grows₂) renamedRest⟩
    rw [List.mapM_cons, renaming_run_bind_ok first, renaming_run_bind_ok rest]
    rfl

/-- Renaming a module continues a counted renaming into a counted one that it grows, and
renames the module under it. -/
theorem Module.renameWith_run (verbose : Bool) (m : Module) {base : Nat} {r : Renaming}
    {σ : Session} (counted : r.Counted base σ) :
    ∃ m' r' σ', ((Module.renameWith verbose m).run r).run.run σ = (.ok (m', r'), σ') ∧
      r.Grows r' ∧ r'.Counted base σ' ∧ RenamedBy r' m m' := by
  obtain ⟨es, r', σ', run, grows, counted', renamed⟩ :=
    renameLeaves_run verbose (Stmt.leavesAll m) counted
  refine ⟨Stmt.fillAll m es, r', σ', ?_, grows, counted', es, rfl, renamed⟩
  rw [Module.renameWith, Stmt.walkLeavesAll_eq_fillAll, StateT.run_map, Run.run_map_ok run]

/-- What holds of the renaming after every step of a run: no kept name is renamed, no name is
renamed twice, every replacement is `v_` and eight letters or digits, and the replacements are
all different as long as there are at most `62 ^ 8` of them. -/
structure Renaming.Valid (r : Renaming) : Prop where
  unkept : ∀ p ∈ r.names, p.1 ∉ keptNames
  keys : (r.names.map Prod.fst).Nodup
  form : ∀ p ∈ r.names, ∃ cs : List Char, p.2 = "v_" ++ String.ofList cs ∧ cs.length = 8 ∧
    ∀ c ∈ cs, c.isAlphanum
  injective : r.names.length ≤ 62 ^ 8 → (r.names.map Prod.snd).Nodup

theorem Renaming.Drawn.valid {base : Nat} {r : Renaming} (drawn : r.Drawn base) : r.Valid where
  unkept := drawn.unkept
  keys := drawn.keys
  form p mem := by
    have value : p.2 ∈ r.names.map Prod.snd := List.mem_map_of_mem mem
    rw [drawn.values, List.mem_map] at value
    obtain ⟨i, -, drawnAt⟩ := value
    rw [← drawnAt]
    exact nameAt_form (base + i) 8
  injective few := by
    rw [drawn.values]
    exact nameAt_nodup base _ 8 few

/-- The outcome of renaming one source reports the renamed module `m'` and the state `r'` after
it: the printed module and that state, or the fault of printing it. -/
def RenameStep.Reports (m' : Module) (r' : Renaming) : RenameStep → Prop
  | .done code _ state => Module.render m' = .ok code ∧ state = r'
  | .failed f => Module.render m' = .error f

/-- One step of renaming a sequence of sources, from the state `r` to the state `r'`, where `R`
is the state at the end of the sequence: the state grows and stays valid; a source that cannot be
read fails the step and leaves the state as it was; a source that can be read is renamed so that
every name renamed in it carries the replacement that `R` gives it. -/
structure SourceRenamed (R r : Renaming) (source : Text) (step : RenameStep) (r' : Renaming) :
    Prop where
  grows : r.Grows r'
  valid : r'.Valid
  unread : ∀ f, readSource source = .error f → step = .failed f ∧ r' = r
  renamed : ∀ m, readSource source = .ok m → ∃ m', RenamedBy R m m' ∧ step.Reports m' r'

/-- A sequence of sources renamed from the state `r`, step by step, ending in the state `R`. -/
inductive RenameRun (R : Renaming) : Renaming → List Text → List RenameStep → Prop
  | nil : RenameRun R R [] []
  | cons {r r' : Renaming} {source : Text} {rest : List Text} {step : RenameStep}
      {steps : List RenameStep} :
      SourceRenamed R r source step r' → RenameRun R r' rest steps →
        RenameRun R r (source :: rest) (step :: steps)

theorem RenameRun.grows {R r : Renaming} {sources : List Text} {steps : List RenameStep}
    (run : RenameRun R r sources steps) : r.Grows R := by
  induction run with
  | nil => exact .refl R
  | cons step _ ih => exact step.grows.trans ih

theorem run_modify (f : Session → Session) (σ : Session) :
    (modify f : Run PUnit).run.run σ = (.ok ⟨⟩, f σ) := rfl

theorem renameSources_run (verbose : Bool) :
    ∀ (sources : List Text) {base : Nat} {r : Renaming} {σ : Session}, r.Counted base σ →
      ∃ steps σ' R, (renameSources verbose sources r).run.run σ = (.ok steps, σ') ∧
        RenameRun R r sources steps
  | [], _, r, σ, _ => ⟨[], σ, r, rfl, .nil⟩
  | source :: rest, base, r, σ, counted => by
    cases read : readSource source with
    | error f =>
      obtain ⟨steps, σ', R, run, renamed⟩ := renameSources_run verbose rest counted
      refine ⟨.failed f :: steps, σ', R, ?_, .cons ⟨.refl r, counted.drawn.valid,
        fun _ same => ⟨(by cases read.symm.trans same; rfl), rfl⟩,
        fun _ same => (by cases read.symm.trans same)⟩ renamed⟩
      simp only [renameSources, read]
      rw [Run.run_bind_ok run]
      rfl
    | ok m =>
      -- the renaming runs with the printed output set aside, and the output is put back after
      let σ₁ : Session := { σ with printed := "" }
      obtain ⟨m', r', σ₂, renamedRun, grows, counted₂, renamedBy⟩ :=
        Module.renameWith_run verbose m (σ := σ₁) (counted.of_names rfl rfl)
      let σ₃ : Session := { σ₂ with printed := σ.printed }
      obtain ⟨steps, σ', R, run, renamed⟩ :=
        renameSources_run verbose rest (σ := σ₃) (counted₂.of_names rfl rfl)
      refine ⟨?step :: steps, σ', R, ?run, .cons ⟨grows, counted₂.drawn.valid,
        fun _ same => (by cases read.symm.trans same), ?renamed⟩ renamed⟩
      case run =>
        simp only [renameSources, read]
        rw [Run.run_bind_ok (Run.run_get σ), Run.run_bind_ok (Run.run_set _ _),
          Run.run_bind_ok renamedRun]
        dsimp only
        rw [Run.run_bind_ok (Run.run_get _), Run.run_bind_ok (run_modify _ _),
          Run.run_bind_ok run]
        rfl
      case renamed =>
        intro m₀ same
        cases read.symm.trans same
        refine ⟨m', renamedBy.mono renamed.grows, ?_⟩
        -- the step reports the printed module, or the fault of printing it
        cases rendered : Module.render m' with
        | ok code => exact ⟨rendered, rfl⟩
        | error f => exact rendered

theorem Renaming.counted_empty (σ : Session) : Renaming.Counted σ.entropy.nameDraws {} σ where
  drawn := ⟨by simp, by simp, by simp⟩
  count := by simp

/-- One renaming state carried through a sequence of sources, from the empty state: the run
succeeds, and at every step the state grows and stays valid, a source that cannot be read leaves
it as it was, and every name renamed in a source that can be read carries the replacement that
the state at the end gives it. -/
theorem renameSources_keeps_renaming (verbose : Bool) (sources : List Text) (σ : Session) :
    ∃ steps σ' R, (renameSources verbose sources {}).run.run σ = (.ok steps, σ') ∧
      RenameRun R {} sources steps :=
  renameSources_run verbose sources (Renaming.counted_empty σ)

end Obfuscation.Pass
