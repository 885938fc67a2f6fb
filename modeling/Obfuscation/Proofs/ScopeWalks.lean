import Obfuscation.Proofs.Scoping
import Obfuscation.Proofs.Relational
/-!
What the walks do to scopes. A pass steps events to others or brings new ones in; `Grown` relates
the events before and after. Leaf walks (`Stmt.walkLeavesAll_scan`) and definition walks
(`Stmt.walkDefsAll_scan`) relate scans, and `ScopeRules.of_rel` carries the scoping rules over.
-/

namespace Obfuscation.Syntax

/-- A list after a pass, from the list before: each element steps by `S` to one in its place,
and new elements that `X` admits come in between. Events of a block grow so, and so do the blocks
of a scan, where a new block is one with no declaration. -/
inductive Grown {α : Type} (S : α → α → Prop) (X : α → Prop) : List α → List α → Prop
  | nil : Grown S X [] []
  | step {a a' : α} {L L' : List α} : S a a' → Grown S X L L' → Grown S X (a :: L) (a' :: L')
  | extra {a' : α} {L L' : List α} : X a' → Grown S X L L' → Grown S X L (a' :: L')

namespace Grown

variable {α : Type} {S : α → α → Prop} {X : α → Prop}

theorem append {L₁ L₁' L₂ L₂' : List α} (first : Grown S X L₁ L₁') (second : Grown S X L₂ L₂') :
    Grown S X (L₁ ++ L₂) (L₁' ++ L₂') := by
  induction first with
  | nil => exact second
  | step stepped _ rest => exact .step stepped rest
  | extra new _ rest => exact .extra new rest

theorem refl (reflexive : ∀ a, S a a) : ∀ L : List α, Grown S X L L
  | [] => .nil
  | a :: L => .step (reflexive a) (Grown.refl reflexive L)

theorem of_extras : ∀ {L' : List α}, (∀ a ∈ L', X a) → Grown S X [] L'
  | [], _ => .nil
  | a :: L', new => .extra (new a (by simp)) (of_extras fun b mem => new b (by simp [mem]))

theorem map {β : Type} {S' : β → β → Prop} {X' : β → Prop} {f g : α → β}
    (stepped : ∀ a a', S a a' → S' (f a) (g a')) (new : ∀ a, X a → X' (g a)) {L L' : List α}
    (grown : Grown S X L L') : Grown S' X' (L.map f) (L'.map g) := by
  induction grown with
  | nil => exact .nil
  | step s _ rest => exact .step (stepped _ _ s) rest
  | extra x _ rest => exact .extra (new _ x) rest

theorem mem_after {L L' : List α} (grown : Grown S X L L') :
    ∀ a' ∈ L', (∃ a ∈ L, S a a') ∨ X a' := by
  induction grown with
  | nil => simp
  | step s _ rest =>
    intro b mem
    rcases List.mem_cons.mp mem with rfl | later
    · exact .inl ⟨_, List.mem_cons_self, s⟩
    · rcases rest b later with ⟨a, src, s'⟩ | x
      · exact .inl ⟨a, List.mem_cons_of_mem _ src, s'⟩
      · exact .inr x
  | extra x _ rest =>
    intro b mem
    rcases List.mem_cons.mp mem with rfl | later
    · exact .inr x
    · exact rest b later

theorem mem_before {L L' : List α} (grown : Grown S X L L') : ∀ a ∈ L, ∃ a' ∈ L', S a a' := by
  induction grown with
  | nil => simp
  | step s _ rest =>
    intro b mem
    rcases List.mem_cons.mp mem with rfl | later
    · exact ⟨_, List.mem_cons_self, s⟩
    · obtain ⟨a', dst, s'⟩ := rest b later
      exact ⟨a', List.mem_cons_of_mem _ dst, s'⟩
  | extra _ _ rest =>
    intro b mem
    obtain ⟨a', dst, s'⟩ := rest b mem
    exact ⟨a', List.mem_cons_of_mem _ dst, s'⟩

theorem nil_left {L : List α} (grown : Grown S X L []) : L = [] := by
  cases grown
  rfl

theorem trans (chain : ∀ a b c, S a b → S b c → S a c) (admitted : ∀ a b, X a → S a b → X b)
    {L L' L'' : List α} (first : Grown S X L L') (second : Grown S X L' L'') : Grown S X L L'' := by
  induction second generalizing L with
  | nil => rw [first.nil_left]; exact .nil
  | step s _ rest =>
    cases first with
    | step s' inner => exact .step (chain _ _ _ s' s) (rest inner)
    | extra x inner => exact .extra (admitted _ _ x s) (rest inner)
  | extra x _ rest => exact .extra x (rest first)

theorem trans_eq {L L' L'' : List α} (first : Grown (· = ·) X L L') (second : Grown (· = ·) X L' L'') :
    Grown (· = ·) X L L'' :=
  Grown.trans (S := (· = ·)) (fun _ _ _ => Eq.trans) (fun _ _ x same => same ▸ x) first second

end Grown

def Event.Plain (L : List Event) : Prop := ∀ d ∈ L, d.isDeclaration = false

/-- A block with no declaration: a pass may bring one in. -/
def Block.Plain (b : Block) : Prop := Event.Plain b.events

def Frame.Rel (S : Event → Event → Prop) (X : Event → Prop) (f f' : Frame) : Prop :=
  f'.kind = f.kind ∧ Grown S X f.events f'.events

def Block.Rel (S : Event → Event → Prop) (X : Event → Prop) (b b' : Block) : Prop :=
  b'.kind = b.kind ∧ Grown S X b.events b'.events ∧
    List.Forall₂ (Frame.Rel S X) b.enclosing b'.enclosing

/-- Scans whose events and hoisted targets are related, and whose blocks are, with new blocks
whose events `N` admits. -/
structure Scan.Rel (S : Event → Event → Prop) (X : Event → Prop) (N : List Event → Prop)
    (s s' : Scan) : Prop where
  events : Grown S X s.events s'.events
  hoisted : Grown S X s.hoisted s'.hoisted
  blocks : Grown (Block.Rel S X) (fun b => N b.events) s.blocks s'.blocks

@[simp] theorem Scan.empty_append (s : Scan) : Scan.empty ++ s = s := rfl

@[simp] theorem Scan.append_empty (s : Scan) : s ++ Scan.empty = s := by
  show (⟨s.events ++ [], s.hoisted ++ [], s.blocks ++ []⟩ : Scan) = s
  simp only [List.append_nil]

theorem Scan.append_assoc (a b c : Scan) : a ++ b ++ c = a ++ (b ++ c) := by
  show (⟨a.events ++ b.events ++ c.events, a.hoisted ++ b.hoisted ++ c.hoisted,
      a.blocks ++ b.blocks ++ c.blocks⟩ : Scan) =
    ⟨a.events ++ (b.events ++ c.events), a.hoisted ++ (b.hoisted ++ c.hoisted),
      a.blocks ++ (b.blocks ++ c.blocks)⟩
  simp only [List.append_assoc]

theorem Stmt.scanAll_append : ∀ (ss ss' : List Stmt),
    Stmt.scanAll (ss ++ ss') = Stmt.scanAll ss ++ Stmt.scanAll ss'
  | [], ss' => rfl
  | s :: ss, ss' => by
    rw [List.cons_append, Stmt.scanAll, Stmt.scanAll, Stmt.scanAll_append ss ss', Scan.append_assoc]

section Relations

variable {S : Event → Event → Prop} {X : Event → Prop} {N : List Event → Prop}

theorem Frame.Rel.refl (reflexive : ∀ e, S e e) (f : Frame) : Frame.Rel S X f f :=
  ⟨rfl, .refl reflexive f.events⟩

theorem Block.Rel.refl (reflexive : ∀ e, S e e) (b : Block) : Block.Rel S X b b :=
  ⟨rfl, .refl reflexive b.events, List.forall₂_same.mpr fun f _ => Frame.Rel.refl reflexive f⟩

theorem Scan.Rel.refl (reflexive : ∀ e, S e e) (s : Scan) : Scan.Rel S X N s s :=
  ⟨.refl reflexive _, .refl reflexive _, .refl (Block.Rel.refl reflexive) _⟩

theorem Scan.Rel.append {a a' b b' : Scan} (first : Scan.Rel S X N a a') (second : Scan.Rel S X N b b') :
    Scan.Rel S X N (a ++ b) (a' ++ b') :=
  ⟨first.events.append second.events, first.hoisted.append second.hoisted,
    first.blocks.append second.blocks⟩

theorem Scan.Rel.empty_left {s' : Scan} (events : ∀ e ∈ s'.events, X e)
    (hoisted : ∀ e ∈ s'.hoisted, X e) (blocks : ∀ b ∈ s'.blocks, N b.events) :
    Scan.Rel S X N Scan.empty s' :=
  ⟨.of_extras events, .of_extras hoisted, .of_extras blocks⟩

theorem Scan.Rel.single {e : Event} (admitted : X e) : Scan.Rel S X N Scan.empty (Scan.ofEvents [e]) :=
  .empty_left (by simp [Scan.ofEvents, admitted]) (by simp [Scan.ofEvents]) (by simp [Scan.ofEvents])

theorem Scan.Rel.prepend {a s s' : Scan} (new : Scan.Rel S X N Scan.empty a) (related : Scan.Rel S X N s s') :
    Scan.Rel S X N s (a ++ s') :=
  new.append related

theorem Scan.Rel.postpend {s s' b : Scan} (related : Scan.Rel S X N s s') (new : Scan.Rel S X N Scan.empty b) :
    Scan.Rel S X N s (s' ++ b) := by
  have both := related.append new
  rwa [Scan.append_empty] at both

theorem Block.Rel.within {f f' : Frame} (framed : Frame.Rel S X f f') {b b' : Block}
    (related : Block.Rel S X b b') : Block.Rel S X (b.within f) (b'.within f') :=
  ⟨related.1, related.2.1, List.rel_append related.2.2 (.cons framed .nil)⟩

theorem Block.Rel.open (kind : BlockKind) {L L' : List Event} (grown : Grown S X L L')
    {inner inner' : List Block} (related : Grown (Block.Rel S X) (fun b => N b.events) inner inner') :
    Grown (Block.Rel S X) (fun b => N b.events) (Block.open kind L inner)
      (Block.open kind L' inner') := by
  have framed : Frame.Rel S X ⟨kind, L⟩ ⟨kind, L'⟩ := ⟨rfl, grown⟩
  exact .step ⟨rfl, grown, .nil⟩
    (related.map (f := Block.within ⟨kind, L⟩) (g := Block.within ⟨kind, L'⟩)
      (fun _ _ => Block.Rel.within framed) fun _ new => new)

theorem Scan.Rel.block (kind : BlockKind) {start start' : List Event} (grown : Grown S X start start')
    {inner inner' : Scan} (related : Scan.Rel S X N inner inner') :
    Scan.Rel S X N (Scan.block kind start inner) (Scan.block kind start' inner') :=
  ⟨.nil, .nil, Block.Rel.open kind ((grown.append related.events).append related.hoisted)
    related.blocks⟩

theorem Scan.Rel.comprehension (inComp : Bool) {inner inner' : Scan}
    (related : Scan.Rel S X N inner inner') :
    Scan.Rel S X N (Scan.comprehension inComp inner) (Scan.comprehension inComp inner') := by
  cases inComp
  · exact ⟨related.hoisted, .nil, Block.Rel.open _ related.events related.blocks⟩
  · exact ⟨.nil, related.hoisted, Block.Rel.open _ related.events related.blocks⟩

theorem Scan.Rel.hoist (inComp : Bool) {s s' : Scan} (related : Scan.Rel S X N s s') :
    Scan.Rel S X N (Scan.hoist inComp s) (Scan.hoist inComp s') := by
  cases inComp
  · exact ⟨related.events, related.hoisted, related.blocks⟩
  · exact ⟨.nil, related.events.append related.hoisted, related.blocks⟩

theorem Stmt.functionDef_scan_rel (reflexive : ∀ e, S e e) (name : String) (args : Arguments)
    (decorators : List Expr) (returns : Option Expr) (isAsync : Bool) {body body' : List Stmt}
    (related : Scan.Rel S X N (Stmt.scanAll body) (Stmt.scanAll body')) :
    Scan.Rel S X N (Stmt.functionDef name args body decorators returns isAsync).scan
      (Stmt.functionDef name args body' decorators returns isAsync).scan := by
  simp only [Stmt.scan]
  exact (Scan.Rel.refl reflexive _).append (Scan.Rel.block .function (.refl reflexive _) related)

end Relations

theorem forall₂_trans {α : Type} {R : α → α → Prop} (chain : ∀ a b c, R a b → R b c → R a c) :
    ∀ {l l' l'' : List α}, List.Forall₂ R l l' → List.Forall₂ R l' l'' → List.Forall₂ R l l''
  | _, _, _, .nil, .nil => .nil
  | _, _, _, .cons first rest, .cons second rest' =>
    .cons (chain _ _ _ first second) (forall₂_trans chain rest rest')

section Composition

variable {X : Event → Prop} {N : List Event → Prop}

theorem Frame.Rel.trans {f f' f'' : Frame} (first : Frame.Rel (· = ·) X f f')
    (second : Frame.Rel (· = ·) X f' f'') : Frame.Rel (· = ·) X f f'' :=
  ⟨second.1.trans first.1, first.2.trans_eq second.2⟩

theorem Block.Rel.trans {b b' b'' : Block} (first : Block.Rel (· = ·) X b b')
    (second : Block.Rel (· = ·) X b' b'') : Block.Rel (· = ·) X b b'' :=
  ⟨second.1.trans first.1, first.2.1.trans_eq second.2.1,
    forall₂_trans (R := Frame.Rel (· = ·) X) (fun _ _ _ => Frame.Rel.trans) first.2.2 second.2.2⟩

theorem Scan.Rel.trans (new : ∀ L L', N L → Grown (· = ·) X L L' → N L') {s s' s'' : Scan}
    (first : Scan.Rel (· = ·) X N s s') (second : Scan.Rel (· = ·) X N s' s'') :
    Scan.Rel (· = ·) X N s s'' :=
  ⟨first.events.trans_eq second.events, first.hoisted.trans_eq second.hoisted,
    Grown.trans (S := Block.Rel (· = ·) X) (X := fun b => N b.events) (fun _ _ _ => Block.Rel.trans)
      (fun _ _ before related => new _ _ before related.2.1) first.blocks second.blocks⟩

omit N in
theorem Event.Plain.of_grown (plain : ∀ e, X e → e.isDeclaration = false) :
    ∀ L L', Event.Plain L → Grown (· = ·) X L L' → Event.Plain L' := by
  intro L L' before grown d mem
  rcases grown.mem_after d mem with ⟨d₀, src, rfl⟩ | new
  · exact before d₀ src
  · exact plain d new

end Composition

section LeafWalk

variable {S : Event → Event → Prop} {X : Event → Prop} {N : List Event → Prop}
  {R : Leaf → Expr → Prop}

/-- A relation of leaves to what may stand in their place that keeps scans related: what stands
for a name scans as the name did, up to `S` and `X`, and what stands for a string or a string part
brings in only events `X` admits. -/
structure KeepsScopes (S : Event → Event → Prop) (X : Event → Prop) (N : List Event → Prop)
    (R : Leaf → Expr → Prop) : Prop where
  refl : ∀ e, S e e
  name : ∀ {id : String} {e : Expr}, R (.name id) e → ∀ inComp target,
    Scan.Rel S X N ((Expr.name id).scan inComp target) (e.scan inComp target)
  text : ∀ {t : Text} {u : Bool} {e : Expr}, R (.text t u) e → ∀ inComp target,
    Scan.Rel S X N Scan.empty (e.scan inComp target)
  part : ∀ {t : Text} {u : Bool} {e : Expr}, R (.part t u) e → ∀ inComp,
    Scan.Rel S X N Scan.empty (e.scan inComp false)

variable (keeps : KeepsScopes S X N R)
include keeps

set_option linter.unusedSectionVars false

/- As for printing, each case unfolds one equation of the walk over sets and puts together the
relations its children keep; what the walk leaves as it was is related to itself. -/
mutual

theorem Expr.walkLeaves_scan : ∀ (e e' : Expr), e' ∈ (e.walkLeaves (LeafVisit.among R)).run →
    ∀ inComp target, Scan.Rel S X N (e.scan inComp target) (e'.scan inComp target)
  | .boolOp o values, e', walked => by
    simp only [Expr.walkLeaves, SetM.mem_run_map] at walked
    obtain ⟨vs, wv, rfl⟩ := walked
    intro inComp target
    simp only [Expr.scan]
    exact Expr.walkLeavesAll_scan values vs wv inComp false
  | .namedExpr target value, e', walked => by
    simp only [Expr.walkLeaves, SetM.mem_run_bind, SetM.mem_run_pure] at walked
    obtain ⟨t, wt, v, wv, rfl⟩ := walked
    intro inComp _
    simp only [Expr.scan]
    exact (Scan.Rel.hoist inComp (Expr.walkLeaves_scan target t wt inComp true)).append
      (Expr.walkLeaves_scan value v wv inComp false)
  | .binOp left o right, e', walked => by
    simp only [Expr.walkLeaves, SetM.mem_run_bind, SetM.mem_run_pure] at walked
    obtain ⟨l, wl, r, wr, rfl⟩ := walked
    intro inComp target
    simp only [Expr.scan]
    exact (Expr.walkLeaves_scan left l wl inComp false).append
      (Expr.walkLeaves_scan right r wr inComp false)
  | .unaryOp o operand, e', walked => by
    simp only [Expr.walkLeaves, SetM.mem_run_map] at walked
    obtain ⟨v, wv, rfl⟩ := walked
    intro inComp target
    simp only [Expr.scan]
    exact Expr.walkLeaves_scan operand v wv inComp false
  | .lambda args body, e', walked => by
    simp only [Expr.walkLeaves, SetM.mem_run_bind, SetM.mem_run_pure] at walked
    obtain ⟨a, wa, b, wb, rfl⟩ := walked
    obtain ⟨names, params⟩ := Arguments.walkLeaves_scan args a wa
    intro inComp target
    simp only [Expr.scan]
    rw [names]
    exact (params inComp).append
      (Scan.Rel.block .lambda (.refl keeps.refl _) (Expr.walkLeaves_scan body b wb false false))
  | .ifExp test body orelse, e', walked => by
    simp only [Expr.walkLeaves, SetM.mem_run_bind, SetM.mem_run_pure] at walked
    obtain ⟨t, wt, b, wb, o, wo, rfl⟩ := walked
    intro inComp target
    simp only [Expr.scan]
    exact ((Expr.walkLeaves_scan test t wt inComp false).append
      (Expr.walkLeaves_scan body b wb inComp false)).append
      (Expr.walkLeaves_scan orelse o wo inComp false)
  | .dict keys values, e', walked => by
    simp only [Expr.walkLeaves, SetM.mem_run_bind, SetM.mem_run_pure] at walked
    obtain ⟨ks, wk, vs, wv, rfl⟩ := walked
    intro inComp target
    simp only [Expr.scan]
    exact (Expr.walkLeavesOptions_scan keys ks wk inComp).append
      (Expr.walkLeavesAll_scan values vs wv inComp false)
  | .set elts, e', walked => by
    simp only [Expr.walkLeaves, SetM.mem_run_map] at walked
    obtain ⟨vs, wv, rfl⟩ := walked
    intro inComp target
    simp only [Expr.scan]
    exact Expr.walkLeavesAll_scan elts vs wv inComp false
  | .listComp elt gens, e', walked => by
    simp only [Expr.walkLeaves, SetM.mem_run_bind, SetM.mem_run_pure] at walked
    obtain ⟨v, wv, g, wg, rfl⟩ := walked
    intro inComp target
    simp only [Expr.scan]
    exact Comprehension.walkLeavesAll_scan gens g wg inComp (Expr.walkLeaves_scan elt v wv true false)
  | .setComp elt gens, e', walked => by
    simp only [Expr.walkLeaves, SetM.mem_run_bind, SetM.mem_run_pure] at walked
    obtain ⟨v, wv, g, wg, rfl⟩ := walked
    intro inComp target
    simp only [Expr.scan]
    exact Comprehension.walkLeavesAll_scan gens g wg inComp (Expr.walkLeaves_scan elt v wv true false)
  | .dictComp key value gens, e', walked => by
    simp only [Expr.walkLeaves, SetM.mem_run_bind, SetM.mem_run_pure] at walked
    obtain ⟨k, wk, v, wv, g, wg, rfl⟩ := walked
    intro inComp target
    simp only [Expr.scan]
    exact Comprehension.walkLeavesAll_scan gens g wg inComp
      ((Expr.walkLeaves_scan key k wk true false).append (Expr.walkLeaves_scan value v wv true false))
  | .generatorExp elt gens, e', walked => by
    simp only [Expr.walkLeaves, SetM.mem_run_bind, SetM.mem_run_pure] at walked
    obtain ⟨v, wv, g, wg, rfl⟩ := walked
    intro inComp target
    simp only [Expr.scan]
    exact Comprehension.walkLeavesAll_scan gens g wg inComp (Expr.walkLeaves_scan elt v wv true false)
  | .await value, e', walked => by
    simp only [Expr.walkLeaves, SetM.mem_run_map] at walked
    obtain ⟨v, wv, rfl⟩ := walked
    intro inComp target
    simp only [Expr.scan]
    exact Expr.walkLeaves_scan value v wv inComp false
  | .yield value, e', walked => by
    simp only [Expr.walkLeaves, SetM.mem_run_map] at walked
    obtain ⟨v, wv, rfl⟩ := walked
    intro inComp target
    simp only [Expr.scan]
    exact Expr.walkLeavesOption_scan value v wv inComp false
  | .yieldFrom value, e', walked => by
    simp only [Expr.walkLeaves, SetM.mem_run_map] at walked
    obtain ⟨v, wv, rfl⟩ := walked
    intro inComp target
    simp only [Expr.scan]
    exact Expr.walkLeaves_scan value v wv inComp false
  | .compare left ops comparators, e', walked => by
    simp only [Expr.walkLeaves, SetM.mem_run_bind, SetM.mem_run_pure] at walked
    obtain ⟨l, wl, cs, wcs, rfl⟩ := walked
    intro inComp target
    simp only [Expr.scan]
    exact (Expr.walkLeaves_scan left l wl inComp false).append
      (Expr.walkLeavesAll_scan comparators cs wcs inComp false)
  | .call func args keywords, e', walked => by
    simp only [Expr.walkLeaves, SetM.mem_run_bind, SetM.mem_run_pure] at walked
    obtain ⟨f, wf, a, wa, k, wk, rfl⟩ := walked
    intro inComp target
    simp only [Expr.scan]
    exact ((Expr.walkLeaves_scan func f wf inComp false).append
      (Expr.walkLeavesAll_scan args a wa inComp false)).append
      (Keyword.walkLeavesAll_scan keywords k wk inComp)
  | .formattedValue value conversion spec, e', walked => by
    simp only [Expr.walkLeaves, SetM.mem_run_bind, SetM.mem_run_pure] at walked
    obtain ⟨v, wv, s, ws, rfl⟩ := walked
    intro inComp target
    simp only [Expr.scan]
    exact (Expr.walkLeaves_scan value v wv inComp false).append
      (Expr.walkLeavesOption_scan spec s ws inComp false)
  | .joinedStr values, e', walked => by
    simp only [Expr.walkLeaves, SetM.mem_run_map] at walked
    obtain ⟨vs, wv, rfl⟩ := walked
    intro inComp target
    simp only [Expr.scan]
    exact Expr.walkParts_scan values vs wv inComp
  | .constant (.str t u), e', walked => by
    simp only [Expr.walkLeaves, LeafVisit.mem_among_text] at walked
    exact keeps.text walked
  | .constant .none, e', walked | .constant .true, e', walked | .constant .false, e', walked
  | .constant .ellipsis, e', walked | .constant (.int _), e', walked
  | .constant (.float _), e', walked | .constant (.imaginary _), e', walked
  | .constant (.bytes _), e', walked => by
    simp only [Expr.walkLeaves, SetM.mem_run_pure] at walked
    subst walked
    exact fun _ _ => .refl keeps.refl _
  | .attribute value attr, e', walked => by
    simp only [Expr.walkLeaves, SetM.mem_run_map] at walked
    obtain ⟨v, wv, rfl⟩ := walked
    intro inComp target
    simp only [Expr.scan]
    exact Expr.walkLeaves_scan value v wv inComp false
  | .subscript value slice, e', walked => by
    simp only [Expr.walkLeaves, SetM.mem_run_bind, SetM.mem_run_pure] at walked
    obtain ⟨v, wv, s, ws, rfl⟩ := walked
    intro inComp target
    simp only [Expr.scan]
    exact (Expr.walkLeaves_scan value v wv inComp false).append
      (Expr.walkLeaves_scan slice s ws inComp false)
  | .starred value, e', walked => by
    simp only [Expr.walkLeaves, SetM.mem_run_map] at walked
    obtain ⟨v, wv, rfl⟩ := walked
    intro inComp target
    simp only [Expr.scan]
    exact Expr.walkLeaves_scan value v wv inComp target
  | .name id, e', walked => by
    simp only [Expr.walkLeaves, LeafVisit.mem_among_name] at walked
    exact keeps.name walked
  | .list elts, e', walked => by
    simp only [Expr.walkLeaves, SetM.mem_run_map] at walked
    obtain ⟨vs, wv, rfl⟩ := walked
    intro inComp target
    simp only [Expr.scan]
    exact Expr.walkLeavesAll_scan elts vs wv inComp target
  | .tuple elts, e', walked => by
    simp only [Expr.walkLeaves, SetM.mem_run_map] at walked
    obtain ⟨vs, wv, rfl⟩ := walked
    intro inComp target
    simp only [Expr.scan]
    exact Expr.walkLeavesAll_scan elts vs wv inComp target
  | .slice lower upper step, e', walked => by
    simp only [Expr.walkLeaves, SetM.mem_run_bind, SetM.mem_run_pure] at walked
    obtain ⟨l, wl, u, wu, s, ws, rfl⟩ := walked
    intro inComp target
    simp only [Expr.scan]
    exact ((Expr.walkLeavesOption_scan lower l wl inComp false).append
      (Expr.walkLeavesOption_scan upper u wu inComp false)).append
      (Expr.walkLeavesOption_scan step s ws inComp false)
termination_by structural e => e

theorem Expr.walkLeavesAll_scan : ∀ (es es' : List Expr),
    es' ∈ (Expr.walkLeavesAll (LeafVisit.among R) es).run → ∀ inComp target,
      Scan.Rel S X N (Expr.scanAll inComp target es) (Expr.scanAll inComp target es')
  | [], es', walked => by
    simp only [Expr.walkLeavesAll, SetM.mem_run_pure] at walked
    subst walked
    exact fun _ _ => .refl keeps.refl _
  | e :: es, es', walked => by
    simp only [Expr.walkLeavesAll, SetM.mem_run_bind, SetM.mem_run_pure] at walked
    obtain ⟨e', we, rest, wrest, rfl⟩ := walked
    intro inComp target
    simp only [Expr.scanAll]
    exact (Expr.walkLeaves_scan e e' we inComp target).append
      (Expr.walkLeavesAll_scan es rest wrest inComp target)
termination_by structural es => es

theorem Expr.walkLeavesOption_scan : ∀ (o o' : Option Expr),
    o' ∈ (Expr.walkLeavesOption (LeafVisit.among R) o).run → ∀ inComp target,
      Scan.Rel S X N (Expr.scanOption inComp target o) (Expr.scanOption inComp target o')
  | none, o', walked => by
    simp only [Expr.walkLeavesOption, SetM.mem_run_pure] at walked
    subst walked
    exact fun _ _ => .refl keeps.refl _
  | some e, o', walked => by
    simp only [Expr.walkLeavesOption, SetM.mem_run_map] at walked
    obtain ⟨e', we, rfl⟩ := walked
    intro inComp target
    simp only [Expr.scanOption]
    exact Expr.walkLeaves_scan e e' we inComp target
termination_by structural o => o

theorem Expr.walkLeavesOptions_scan : ∀ (os os' : List (Option Expr)),
    os' ∈ (Expr.walkLeavesOptions (LeafVisit.among R) os).run → ∀ inComp,
      Scan.Rel S X N (Expr.scanOptions inComp os) (Expr.scanOptions inComp os')
  | [], os', walked => by
    simp only [Expr.walkLeavesOptions, SetM.mem_run_pure] at walked
    subst walked
    exact fun _ => .refl keeps.refl _
  | o :: os, os', walked => by
    simp only [Expr.walkLeavesOptions, SetM.mem_run_bind, SetM.mem_run_pure] at walked
    obtain ⟨o', wo, rest, wrest, rfl⟩ := walked
    intro inComp
    simp only [Expr.scanOptions]
    exact (Expr.walkLeavesOption_scan o o' wo inComp false).append
      (Expr.walkLeavesOptions_scan os rest wrest inComp)
termination_by structural os => os

theorem Expr.walkParts_scan : ∀ (vs vs' : List Expr),
    vs' ∈ (Expr.walkParts (LeafVisit.among R) vs).run → ∀ inComp,
      Scan.Rel S X N (Expr.scanAll inComp false vs) (Expr.scanAll inComp false vs')
  | [], vs', walked => by
    simp only [Expr.walkParts, SetM.mem_run_pure] at walked
    subst walked
    exact fun _ => .refl keeps.refl _
  | v :: vs, vs', walked => by
    intro inComp
    -- the walk's equation puts what follows the visit of the part into each arm of its match
    simp only [Expr.walkParts] at walked
    split at walked
    · simp only [SetM.mem_run_bind, SetM.mem_run_pure, LeafVisit.mem_among_part] at walked
      obtain ⟨v', wv, rest, wrest, rfl⟩ := walked
      simp only [Expr.scanAll]
      exact (keeps.part wv inComp).append (Expr.walkParts_scan vs rest wrest inComp)
    · simp only [SetM.mem_run_bind, SetM.mem_run_pure] at walked
      obtain ⟨v', wv, rest, wrest, rfl⟩ := walked
      simp only [Expr.scanAll]
      exact (Expr.walkLeaves_scan v v' wv inComp false).append (Expr.walkParts_scan vs rest wrest inComp)
termination_by structural vs => vs

theorem Comprehension.walkLeavesAll_scan : ∀ (gs gs' : List Comprehension),
    gs' ∈ (Comprehension.walkLeavesAll (LeafVisit.among R) gs).run → ∀ inComp {el el' : Scan},
      Scan.Rel S X N el el' →
        Scan.Rel S X N (Comprehension.scan inComp el gs) (Comprehension.scan inComp el' gs')
  | [], gs', walked => by
    simp only [Comprehension.walkLeavesAll, SetM.mem_run_pure] at walked
    subst walked
    intro inComp el el' elements
    simp only [Comprehension.scan]
    exact Scan.Rel.comprehension inComp elements
  | .mk target iter ifs isAsync :: rest, gs', walked => by
    simp only [Comprehension.walkLeavesAll, SetM.mem_run_bind, SetM.mem_run_pure] at walked
    obtain ⟨t, wt, i, wi, cs, wcs, more, wmore, rfl⟩ := walked
    intro inComp el el' elements
    simp only [Comprehension.scan]
    exact (Expr.walkLeaves_scan iter i wi inComp false).append (Scan.Rel.comprehension inComp
      ((((Expr.walkLeaves_scan target t wt true true).append
        (Expr.walkLeavesAll_scan ifs cs wcs true false)).append
        (Comprehension.walkLeavesAll_scanInner rest more wmore)).append elements))
termination_by structural gs => gs

theorem Comprehension.walkLeavesAll_scanInner : ∀ (gs gs' : List Comprehension),
    gs' ∈ (Comprehension.walkLeavesAll (LeafVisit.among R) gs).run →
      Scan.Rel S X N (Comprehension.scanInner gs) (Comprehension.scanInner gs')
  | [], gs', walked => by
    simp only [Comprehension.walkLeavesAll, SetM.mem_run_pure] at walked
    subst walked
    exact .refl keeps.refl _
  | .mk target iter ifs isAsync :: rest, gs', walked => by
    simp only [Comprehension.walkLeavesAll, SetM.mem_run_bind, SetM.mem_run_pure] at walked
    obtain ⟨t, wt, i, wi, cs, wcs, more, wmore, rfl⟩ := walked
    simp only [Comprehension.scanInner]
    exact (((Expr.walkLeaves_scan target t wt true true).append
      (Expr.walkLeaves_scan iter i wi true false)).append
      (Expr.walkLeavesAll_scan ifs cs wcs true false)).append
      (Comprehension.walkLeavesAll_scanInner rest more wmore)
termination_by structural gs => gs

theorem Keyword.walkLeavesAll_scan : ∀ (ks ks' : List Keyword),
    ks' ∈ (Keyword.walkLeavesAll (LeafVisit.among R) ks).run → ∀ inComp,
      Scan.Rel S X N (Keyword.scanAll inComp ks) (Keyword.scanAll inComp ks')
  | [], ks', walked => by
    simp only [Keyword.walkLeavesAll, SetM.mem_run_pure] at walked
    subst walked
    exact fun _ => .refl keeps.refl _
  | .mk name value :: rest, ks', walked => by
    simp only [Keyword.walkLeavesAll, SetM.mem_run_bind, SetM.mem_run_pure] at walked
    obtain ⟨v, wv, more, wmore, rfl⟩ := walked
    intro inComp
    simp only [Keyword.scanAll]
    exact (Expr.walkLeaves_scan value v wv inComp false).append
      (Keyword.walkLeavesAll_scan rest more wmore inComp)
termination_by structural ks => ks

theorem Arg.walkLeavesAll_scan : ∀ (as as' : List Arg),
    as' ∈ (Arg.walkLeavesAll (LeafVisit.among R) as).run →
      as'.map Arg.name = as.map Arg.name ∧
        ∀ inComp, Scan.Rel S X N (Arg.scanAll inComp as) (Arg.scanAll inComp as')
  | [], as', walked => by
    simp only [Arg.walkLeavesAll, SetM.mem_run_pure] at walked
    subst walked
    exact ⟨rfl, fun _ => .refl keeps.refl _⟩
  | .mk name hint :: rest, as', walked => by
    simp only [Arg.walkLeavesAll, SetM.mem_run_bind, SetM.mem_run_pure] at walked
    obtain ⟨a', wa, more, wmore, rfl⟩ := walked
    simp only [Arg.walkLeaves, SetM.mem_run_map] at wa
    obtain ⟨o, wo, rfl⟩ := wa
    obtain ⟨names, scans⟩ := Arg.walkLeavesAll_scan rest more wmore
    refine ⟨by simp only [List.map_cons, Arg.name, names], fun inComp => ?_⟩
    simp only [Arg.scanAll]
    exact (Expr.walkLeavesOption_scan hint o wo inComp false).append (scans inComp)
termination_by structural as => as

theorem Arg.walkLeavesOption_scan : ∀ (o o' : Option Arg),
    o' ∈ (Arg.walkLeavesOption (LeafVisit.among R) o).run →
      o'.toList.map Arg.name = o.toList.map Arg.name ∧
        ∀ inComp, Scan.Rel S X N (Arg.scanOption inComp o) (Arg.scanOption inComp o')
  | none, o', walked => by
    simp only [Arg.walkLeavesOption, SetM.mem_run_pure] at walked
    subst walked
    exact ⟨rfl, fun _ => .refl keeps.refl _⟩
  | some (.mk name hint), o', walked => by
    simp only [Arg.walkLeavesOption, SetM.mem_run_map] at walked
    obtain ⟨a', wa, rfl⟩ := walked
    simp only [Arg.walkLeaves, SetM.mem_run_map] at wa
    obtain ⟨h, wh, rfl⟩ := wa
    refine ⟨rfl, fun inComp => ?_⟩
    simp only [Arg.scanOption]
    exact Expr.walkLeavesOption_scan hint h wh inComp false
termination_by structural o => o

theorem Arguments.walkLeaves_scan : ∀ (a a' : Arguments),
    a' ∈ (a.walkLeaves (LeafVisit.among R)).run →
      a'.names = a.names ∧ ∀ inComp, Scan.Rel S X N (Arguments.scan inComp a) (Arguments.scan inComp a')
  | .mk posOnly args vararg kwOnly kwDefaults kwarg defaults, a', walked => by
    simp only [Arguments.walkLeaves, SetM.mem_run_bind, SetM.mem_run_pure] at walked
    obtain ⟨p, wp, as, was, va, wva, k, wk, kd, wkd, kw, wkw, d, wd, rfl⟩ := walked
    obtain ⟨pNames, pScan⟩ := Arg.walkLeavesAll_scan posOnly p wp
    obtain ⟨aNames, aScan⟩ := Arg.walkLeavesAll_scan args as was
    obtain ⟨vNames, vScan⟩ := Arg.walkLeavesOption_scan vararg va wva
    obtain ⟨kNames, kScan⟩ := Arg.walkLeavesAll_scan kwOnly k wk
    obtain ⟨kwNames, kwScan⟩ := Arg.walkLeavesOption_scan kwarg kw wkw
    refine ⟨?_, fun inComp => ?_⟩
    · simp only [Arguments.names_mk, List.map_append, pNames, aNames, vNames, kNames, kwNames]
    · simp only [Arguments.scan]
      exact (((((Expr.walkLeavesAll_scan defaults d wd inComp false).append
        (Expr.walkLeavesOptions_scan kwDefaults kd wkd inComp)).append (pScan inComp)).append
        (aScan inComp)).append (vScan inComp)).append (kScan inComp) |>.append (kwScan inComp)
termination_by structural a => a

end

mutual

theorem Pattern.walkLeaves_scan : ∀ (p p' : Pattern),
    p' ∈ (p.walkLeaves (LeafVisit.among R)).run → Scan.Rel S X N p.scan p'.scan
  | .value e, p', walked => by
    simp only [Pattern.walkLeaves, SetM.mem_run_map] at walked
    obtain ⟨e', we, rfl⟩ := walked
    simp only [Pattern.scan]
    exact Expr.walkLeaves_scan keeps e e' we false false
  | .singleton c, p', walked | .star _, p', walked | .capture none _, p', walked => by
    simp only [Pattern.walkLeaves, SetM.mem_run_pure] at walked
    subst walked
    exact .refl keeps.refl _
  | .sequence ps, p', walked => by
    simp only [Pattern.walkLeaves, SetM.mem_run_map] at walked
    obtain ⟨ps', wps, rfl⟩ := walked
    simp only [Pattern.scan]
    exact Pattern.walkLeavesAll_scan ps ps' wps
  | .mapping keys ps rest, p', walked => by
    simp only [Pattern.walkLeaves, SetM.mem_run_bind, SetM.mem_run_pure] at walked
    obtain ⟨ks, wks, ps', wps, rfl⟩ := walked
    simp only [Pattern.scan]
    exact ((Expr.walkLeavesAll_scan keeps keys ks wks false false).append
      (Pattern.walkLeavesAll_scan ps ps' wps)).append (.refl keeps.refl _)
  | .classPattern cls ps attrs kps, p', walked => by
    simp only [Pattern.walkLeaves, SetM.mem_run_bind, SetM.mem_run_pure] at walked
    obtain ⟨c, wc, ps', wps, kps', wkps, rfl⟩ := walked
    simp only [Pattern.scan]
    exact ((Expr.walkLeaves_scan keeps cls c wc false false).append
      (Pattern.walkLeavesAll_scan ps ps' wps)).append (Pattern.walkLeavesAll_scan kps kps' wkps)
  | .capture (some inner) name, p', walked => by
    simp only [Pattern.walkLeaves, SetM.mem_run_bind, SetM.mem_run_pure] at walked
    obtain ⟨inner', wi, rfl⟩ := walked
    simp only [Pattern.scan]
    exact (Pattern.walkLeaves_scan inner inner' wi).append (.refl keeps.refl _)
  | .alternatives ps, p', walked => by
    simp only [Pattern.walkLeaves, SetM.mem_run_map] at walked
    obtain ⟨ps', wps, rfl⟩ := walked
    simp only [Pattern.scan]
    exact Pattern.walkLeavesAll_scan ps ps' wps
termination_by structural p => p

theorem Pattern.walkLeavesAll_scan : ∀ (ps ps' : List Pattern),
    ps' ∈ (Pattern.walkLeavesAll (LeafVisit.among R) ps).run →
      Scan.Rel S X N (Pattern.scanAll ps) (Pattern.scanAll ps')
  | [], ps', walked => by
    simp only [Pattern.walkLeavesAll, SetM.mem_run_pure] at walked
    subst walked
    exact .refl keeps.refl _
  | p :: ps, ps', walked => by
    simp only [Pattern.walkLeavesAll, SetM.mem_run_bind, SetM.mem_run_pure] at walked
    obtain ⟨p', wp, rest, wrest, rfl⟩ := walked
    simp only [Pattern.scanAll]
    exact (Pattern.walkLeaves_scan p p' wp).append (Pattern.walkLeavesAll_scan ps rest wrest)
termination_by structural ps => ps

end

theorem WithItem.walkAll_scan {items items' : List WithItem}
    (walked : items' ∈ (items.mapM (WithItem.walkLeaves (LeafVisit.among R))).run) :
    Scan.Rel S X N (WithItem.scanAll items) (WithItem.scanAll items') := by
  have fits := SetM.mem_run_mapM.mp walked
  clear walked
  induction fits with
  | nil => exact .refl keeps.refl _
  | cons first _ ih =>
    simp only [WithItem.walkLeaves, SetM.mem_run_bind, SetM.mem_run_pure] at first
    obtain ⟨c, wc, v, wv, rfl⟩ := first
    simp only [WithItem.scanAll]
    exact ((Expr.walkLeaves_scan keeps _ c wc false false).append
      (Expr.walkLeavesOption_scan keeps _ v wv false true)).append ih

mutual

theorem Stmt.walkLeaves_scan : ∀ (s s' : Stmt),
    s' ∈ (s.walkLeaves (LeafVisit.among R)).run → Scan.Rel S X N s.scan s'.scan
  | .functionDef name args body decorators returns isAsync, s', walked => by
    simp only [Stmt.walkLeaves, SetM.mem_run_bind, SetM.mem_run_pure] at walked
    obtain ⟨a, wa, b, wb, d, wd, r, wr, rfl⟩ := walked
    obtain ⟨names, params⟩ := Arguments.walkLeaves_scan keeps args a wa
    simp only [Stmt.scan]
    rw [names]
    exact ((((Scan.Rel.refl keeps.refl _).append (params false)).append
      (Expr.walkLeavesAll_scan keeps decorators d wd false false)).append
      (Expr.walkLeavesOption_scan keeps returns r wr false false)).append
      (Scan.Rel.block .function (.refl keeps.refl _) (Stmt.walkLeavesAll_scan body b wb))
  | .classDef name bases keywords body decorators, s', walked => by
    simp only [Stmt.walkLeaves, SetM.mem_run_bind, SetM.mem_run_pure] at walked
    obtain ⟨bs, wbs, ks, wks, b, wb, d, wd, rfl⟩ := walked
    simp only [Stmt.scan]
    exact ((((Scan.Rel.refl keeps.refl _).append
      (Expr.walkLeavesAll_scan keeps bases bs wbs false false)).append
      (Keyword.walkLeavesAll_scan keeps keywords ks wks false)).append
      (Expr.walkLeavesAll_scan keeps decorators d wd false false)).append
      (Scan.Rel.block .classBody .nil (Stmt.walkLeavesAll_scan body b wb))
  | .returnStmt value, s', walked => by
    simp only [Stmt.walkLeaves, SetM.mem_run_map] at walked
    obtain ⟨v, wv, rfl⟩ := walked
    simp only [Stmt.scan]
    exact Expr.walkLeavesOption_scan keeps value v wv false false
  | .delete targets, s', walked => by
    simp only [Stmt.walkLeaves, SetM.mem_run_map] at walked
    obtain ⟨ts, wts, rfl⟩ := walked
    simp only [Stmt.scan]
    exact Expr.walkLeavesAll_scan keeps targets ts wts false true
  | .assign targets value, s', walked => by
    simp only [Stmt.walkLeaves, SetM.mem_run_bind, SetM.mem_run_pure] at walked
    obtain ⟨ts, wts, v, wv, rfl⟩ := walked
    simp only [Stmt.scan]
    exact (Expr.walkLeavesAll_scan keeps targets ts wts false true).append
      (Expr.walkLeaves_scan keeps value v wv false false)
  | .augAssign target o value, s', walked => by
    simp only [Stmt.walkLeaves, SetM.mem_run_bind, SetM.mem_run_pure] at walked
    obtain ⟨t, wt, v, wv, rfl⟩ := walked
    simp only [Stmt.scan]
    exact (Expr.walkLeaves_scan keeps target t wt false true).append
      (Expr.walkLeaves_scan keeps value v wv false false)
  | .annAssign target hint value simple, s', walked => by
    simp only [Stmt.walkLeaves, SetM.mem_run_bind, SetM.mem_run_pure] at walked
    obtain ⟨t, wt, a, wa, v, wv, rfl⟩ := walked
    simp only [Stmt.scan]
    exact ((Expr.walkLeaves_scan keeps target t wt false true).append
      (Expr.walkLeaves_scan keeps hint a wa false false)).append
      (Expr.walkLeavesOption_scan keeps value v wv false false)
  | .forLoop target iter body orelse isAsync, s', walked => by
    simp only [Stmt.walkLeaves, SetM.mem_run_bind, SetM.mem_run_pure] at walked
    obtain ⟨t, wt, i, wi, b, wb, o, wo, rfl⟩ := walked
    simp only [Stmt.scan]
    exact (((Expr.walkLeaves_scan keeps target t wt false true).append
      (Expr.walkLeaves_scan keeps iter i wi false false)).append
      (Stmt.walkLeavesAll_scan body b wb)).append (Stmt.walkLeavesAll_scan orelse o wo)
  | .whileLoop test body orelse, s', walked => by
    simp only [Stmt.walkLeaves, SetM.mem_run_bind, SetM.mem_run_pure] at walked
    obtain ⟨t, wt, b, wb, o, wo, rfl⟩ := walked
    simp only [Stmt.scan]
    exact ((Expr.walkLeaves_scan keeps test t wt false false).append
      (Stmt.walkLeavesAll_scan body b wb)).append (Stmt.walkLeavesAll_scan orelse o wo)
  | .ifStmt test body orelse, s', walked => by
    simp only [Stmt.walkLeaves, SetM.mem_run_bind, SetM.mem_run_pure] at walked
    obtain ⟨t, wt, b, wb, o, wo, rfl⟩ := walked
    simp only [Stmt.scan]
    exact ((Expr.walkLeaves_scan keeps test t wt false false).append
      (Stmt.walkLeavesAll_scan body b wb)).append (Stmt.walkLeavesAll_scan orelse o wo)
  | .withBlock items body isAsync, s', walked => by
    simp only [Stmt.walkLeaves, SetM.mem_run_bind, SetM.mem_run_pure] at walked
    obtain ⟨ws, wws, b, wb, rfl⟩ := walked
    simp only [Stmt.scan]
    exact (WithItem.walkAll_scan keeps wws).append (Stmt.walkLeavesAll_scan body b wb)
  | .matchStmt subject cases, s', walked => by
    simp only [Stmt.walkLeaves, SetM.mem_run_bind, SetM.mem_run_pure] at walked
    obtain ⟨v, wv, cs, wcs, rfl⟩ := walked
    simp only [Stmt.scan]
    exact (Expr.walkLeaves_scan keeps subject v wv false false).append
      (MatchCase.walkLeavesAll_scan cases cs wcs)
  | .raise exc cause, s', walked => by
    simp only [Stmt.walkLeaves, SetM.mem_run_bind, SetM.mem_run_pure] at walked
    obtain ⟨e, we, c, wc, rfl⟩ := walked
    simp only [Stmt.scan]
    exact (Expr.walkLeavesOption_scan keeps exc e we false false).append
      (Expr.walkLeavesOption_scan keeps cause c wc false false)
  | .tryBlock body handlers orelse finalbody isStar, s', walked => by
    simp only [Stmt.walkLeaves, SetM.mem_run_bind, SetM.mem_run_pure] at walked
    obtain ⟨b, wb, hs, whs, o, wo, f, wf, rfl⟩ := walked
    simp only [Stmt.scan]
    exact (((Stmt.walkLeavesAll_scan body b wb).append (Stmt.walkLeavesAll_scan orelse o wo)).append
      (Handler.walkLeavesAll_scan handlers hs whs)).append (Stmt.walkLeavesAll_scan finalbody f wf)
  | .assert test msg, s', walked => by
    simp only [Stmt.walkLeaves, SetM.mem_run_bind, SetM.mem_run_pure] at walked
    obtain ⟨t, wt, m, wm, rfl⟩ := walked
    simp only [Stmt.scan]
    exact (Expr.walkLeaves_scan keeps test t wt false false).append
      (Expr.walkLeavesOption_scan keeps msg m wm false false)
  | .importNames names, s', walked | .importFrom _ names _, s', walked => by
    simp only [Stmt.walkLeaves, LeafVisit.among_imports, SetM.mem_run_bind, SetM.mem_run_pure]
      at walked
    obtain ⟨_, -, rfl⟩ := walked
    exact .refl keeps.refl _
  | .global names, s', walked | .nonlocal names, s', walked | .pass, s', walked
  | .breakStmt, s', walked | .continueStmt, s', walked => by
    simp only [Stmt.walkLeaves, SetM.mem_run_pure] at walked
    subst walked
    exact .refl keeps.refl _
  | .expr value, s', walked => by
    simp only [Stmt.walkLeaves, SetM.mem_run_map] at walked
    obtain ⟨v, wv, rfl⟩ := walked
    simp only [Stmt.scan]
    exact Expr.walkLeaves_scan keeps value v wv false false
termination_by structural s => s

theorem Stmt.walkLeavesAll_scan : ∀ (ss ss' : List Stmt),
    ss' ∈ (Stmt.walkLeavesAll (LeafVisit.among R) ss).run → Scan.Rel S X N (Stmt.scanAll ss) (Stmt.scanAll ss')
  | [], ss', walked => by
    simp only [Stmt.walkLeavesAll, SetM.mem_run_pure] at walked
    subst walked
    exact .refl keeps.refl _
  | s :: ss, ss', walked => by
    simp only [Stmt.walkLeavesAll, SetM.mem_run_bind, SetM.mem_run_pure] at walked
    obtain ⟨s', ws, rest, wrest, rfl⟩ := walked
    simp only [Stmt.scanAll]
    exact (Stmt.walkLeaves_scan s s' ws).append (Stmt.walkLeavesAll_scan ss rest wrest)
termination_by structural ss => ss

theorem Handler.walkLeavesAll_scan : ∀ (hs hs' : List Handler),
    hs' ∈ (Handler.walkLeavesAll (LeafVisit.among R) hs).run →
      Scan.Rel S X N (Handler.scanAll hs) (Handler.scanAll hs')
  | [], hs', walked => by
    simp only [Handler.walkLeavesAll, SetM.mem_run_pure] at walked
    subst walked
    exact .refl keeps.refl _
  | .mk type name body :: rest, hs', walked => by
    simp only [Handler.walkLeavesAll, SetM.mem_run_bind, SetM.mem_run_pure] at walked
    obtain ⟨t, wt, b, wb, more, wmore, rfl⟩ := walked
    simp only [Handler.scanAll]
    exact (((Expr.walkLeavesOption_scan keeps type t wt false false).append (.refl keeps.refl _)).append
      (Stmt.walkLeavesAll_scan body b wb)).append (Handler.walkLeavesAll_scan rest more wmore)
termination_by structural hs => hs

theorem MatchCase.walkLeavesAll_scan : ∀ (cs cs' : List MatchCase),
    cs' ∈ (MatchCase.walkLeavesAll (LeafVisit.among R) cs).run →
      Scan.Rel S X N (MatchCase.scanAll cs) (MatchCase.scanAll cs')
  | [], cs', walked => by
    simp only [MatchCase.walkLeavesAll, SetM.mem_run_pure] at walked
    subst walked
    exact .refl keeps.refl _
  | .mk pattern guard body :: rest, cs', walked => by
    simp only [MatchCase.walkLeavesAll, SetM.mem_run_bind, SetM.mem_run_pure] at walked
    obtain ⟨p, wp, g, wg, b, wb, more, wmore, rfl⟩ := walked
    simp only [MatchCase.scanAll]
    exact (((Pattern.walkLeaves_scan keeps pattern p wp).append
      (Expr.walkLeavesOption_scan keeps guard g wg false false)).append
      (Stmt.walkLeavesAll_scan body b wb)).append (MatchCase.walkLeavesAll_scan rest more wmore)
termination_by structural cs => cs

end

end LeafWalk

section DefWalk

variable {X : Event → Prop} {N : List Event → Prop} {A : String → List Stmt → Set BodyEdit}
  {descend : Bool}

/-- Body edits that only bring in events `X` admits and plain blocks, whatever body they apply to;
`X` admits no declaration, so that edits compose with the walk inside the body. -/
structure KeepsBodyScopes (X : Event → Prop) (N : List Event → Prop)
    (A : String → List Stmt → Set BodyEdit) : Prop where
  new : ∀ L L', N L → Grown (· = ·) X L L' → N L'
  edit : ∀ {name : String} {body : List Stmt} {edit : BodyEdit}, edit ∈ A name body →
    ∀ b, Scan.Rel (· = ·) X N (Stmt.scanAll b) (Stmt.scanAll (edit b))

variable (keeps : KeepsBodyScopes X N A)
include keeps

set_option linter.unusedSectionVars false

mutual

theorem Stmt.walkDefs_scan : ∀ (s s' : Stmt),
    s' ∈ (s.walkDefs (DefVisit.among A descend)).run → Scan.Rel (· = ·) X N s.scan s'.scan
  | .functionDef name args body decorators returns false, s', walked => by
    simp only [Stmt.walkDefs] at walked
    obtain ⟨edit, admitted, walked⟩ := SetM.mem_run_bind.mp walked
    rw [DefVisit.mem_among_visit] at admitted
    -- the edit applies to the walked body when the walk descends, to the body itself otherwise
    have inner : ∃ b, Scan.Rel (· = ·) X N (Stmt.scanAll body) (Stmt.scanAll b) ∧
        s' = .functionDef name args (edit b) decorators returns false := by
      rcases Bool.eq_false_or_eq_true descend with descends | descends
      · rw [DefVisit.among_descend, if_pos descends] at walked
        simp only [SetM.mem_run_bind, SetM.mem_run_pure] at walked
        obtain ⟨b, wb, rfl⟩ := walked
        exact ⟨b, Stmt.walkDefsAll_scan body b wb, rfl⟩
      · rw [DefVisit.among_descend, if_neg (by simp [descends])] at walked
        simp only [SetM.mem_run_bind, SetM.mem_run_pure] at walked
        obtain ⟨_, rfl, rfl⟩ := walked
        exact ⟨_, .refl (fun _ => rfl) _, rfl⟩
    obtain ⟨b, related, rfl⟩ := inner
    exact Stmt.functionDef_scan_rel (fun _ => rfl) _ _ _ _ _
      (related.trans keeps.new (keeps.edit admitted b))
  | .functionDef name args body decorators returns true, s', walked => by
    simp only [Stmt.walkDefs, SetM.mem_run_bind, SetM.mem_run_pure] at walked
    obtain ⟨b, wb, rfl⟩ := walked
    exact Stmt.functionDef_scan_rel (fun _ => rfl) _ _ _ _ _ (Stmt.walkDefsAll_scan body b wb)
  | .classDef name bases keywords body decorators, s', walked => by
    simp only [Stmt.walkDefs, SetM.mem_run_bind, SetM.mem_run_pure] at walked
    obtain ⟨b, wb, rfl⟩ := walked
    simp only [Stmt.scan]
    exact (Scan.Rel.refl (fun _ => rfl) _).append
      (Scan.Rel.block .classBody .nil (Stmt.walkDefsAll_scan body b wb))
  | .forLoop target iter body orelse isAsync, s', walked => by
    simp only [Stmt.walkDefs, SetM.mem_run_bind, SetM.mem_run_pure] at walked
    obtain ⟨b, wb, o, wo, rfl⟩ := walked
    simp only [Stmt.scan]
    exact ((Scan.Rel.refl (fun _ => rfl) _).append (Stmt.walkDefsAll_scan body b wb)).append
      (Stmt.walkDefsAll_scan orelse o wo)
  | .whileLoop test body orelse, s', walked => by
    simp only [Stmt.walkDefs, SetM.mem_run_bind, SetM.mem_run_pure] at walked
    obtain ⟨b, wb, o, wo, rfl⟩ := walked
    simp only [Stmt.scan]
    exact ((Scan.Rel.refl (fun _ => rfl) _).append (Stmt.walkDefsAll_scan body b wb)).append
      (Stmt.walkDefsAll_scan orelse o wo)
  | .ifStmt test body orelse, s', walked => by
    simp only [Stmt.walkDefs, SetM.mem_run_bind, SetM.mem_run_pure] at walked
    obtain ⟨b, wb, o, wo, rfl⟩ := walked
    simp only [Stmt.scan]
    exact ((Scan.Rel.refl (fun _ => rfl) _).append (Stmt.walkDefsAll_scan body b wb)).append
      (Stmt.walkDefsAll_scan orelse o wo)
  | .withBlock items body isAsync, s', walked => by
    simp only [Stmt.walkDefs, SetM.mem_run_bind, SetM.mem_run_pure] at walked
    obtain ⟨b, wb, rfl⟩ := walked
    simp only [Stmt.scan]
    exact (Scan.Rel.refl (fun _ => rfl) _).append (Stmt.walkDefsAll_scan body b wb)
  | .matchStmt subject cases, s', walked => by
    simp only [Stmt.walkDefs, SetM.mem_run_map] at walked
    obtain ⟨cs, wcs, rfl⟩ := walked
    simp only [Stmt.scan]
    exact (Scan.Rel.refl (fun _ => rfl) _).append (MatchCase.walkDefsAll_scan cases cs wcs)
  | .tryBlock body handlers orelse finalbody isStar, s', walked => by
    simp only [Stmt.walkDefs, SetM.mem_run_bind, SetM.mem_run_pure] at walked
    obtain ⟨b, wb, hs, whs, o, wo, f, wf, rfl⟩ := walked
    simp only [Stmt.scan]
    exact (((Stmt.walkDefsAll_scan body b wb).append (Stmt.walkDefsAll_scan orelse o wo)).append
      (Handler.walkDefsAll_scan handlers hs whs)).append (Stmt.walkDefsAll_scan finalbody f wf)
  | .returnStmt _, s', walked | .delete _, s', walked | .assign _ _, s', walked
  | .augAssign _ _ _, s', walked | .annAssign _ _ _ _, s', walked | .raise _ _, s', walked
  | .assert _ _, s', walked | .importNames _, s', walked | .importFrom _ _ _, s', walked
  | .global _, s', walked | .nonlocal _, s', walked | .expr _, s', walked | .pass, s', walked
  | .breakStmt, s', walked | .continueStmt, s', walked => by
    simp only [Stmt.walkDefs, SetM.mem_run_pure] at walked
    subst walked
    exact .refl (fun _ => rfl) _
termination_by structural s => s

theorem Stmt.walkDefsAll_scan : ∀ (ss ss' : List Stmt),
    ss' ∈ (Stmt.walkDefsAll (DefVisit.among A descend) ss).run →
      Scan.Rel (· = ·) X N (Stmt.scanAll ss) (Stmt.scanAll ss')
  | [], ss', walked => by
    simp only [Stmt.walkDefsAll, SetM.mem_run_pure] at walked
    subst walked
    exact .refl (fun _ => rfl) _
  | s :: ss, ss', walked => by
    simp only [Stmt.walkDefsAll, SetM.mem_run_bind, SetM.mem_run_pure] at walked
    obtain ⟨s', ws, rest, wrest, rfl⟩ := walked
    simp only [Stmt.scanAll]
    exact (Stmt.walkDefs_scan s s' ws).append (Stmt.walkDefsAll_scan ss rest wrest)
termination_by structural ss => ss

theorem Handler.walkDefsAll_scan : ∀ (hs hs' : List Handler),
    hs' ∈ (Handler.walkDefsAll (DefVisit.among A descend) hs).run →
      Scan.Rel (· = ·) X N (Handler.scanAll hs) (Handler.scanAll hs')
  | [], hs', walked => by
    simp only [Handler.walkDefsAll, SetM.mem_run_pure] at walked
    subst walked
    exact .refl (fun _ => rfl) _
  | .mk type name body :: rest, hs', walked => by
    simp only [Handler.walkDefsAll, SetM.mem_run_bind, SetM.mem_run_pure] at walked
    obtain ⟨b, wb, more, wmore, rfl⟩ := walked
    simp only [Handler.scanAll]
    exact ((Scan.Rel.refl (fun _ => rfl) _).append (Stmt.walkDefsAll_scan body b wb)).append
      (Handler.walkDefsAll_scan rest more wmore)
termination_by structural hs => hs

theorem MatchCase.walkDefsAll_scan : ∀ (cs cs' : List MatchCase),
    cs' ∈ (MatchCase.walkDefsAll (DefVisit.among A descend) cs).run →
      Scan.Rel (· = ·) X N (MatchCase.scanAll cs) (MatchCase.scanAll cs')
  | [], cs', walked => by
    simp only [MatchCase.walkDefsAll, SetM.mem_run_pure] at walked
    subst walked
    exact .refl (fun _ => rfl) _
  | .mk pattern guard body :: rest, cs', walked => by
    simp only [MatchCase.walkDefsAll, SetM.mem_run_bind, SetM.mem_run_pure] at walked
    obtain ⟨b, wb, more, wmore, rfl⟩ := walked
    simp only [MatchCase.scanAll]
    exact ((Scan.Rel.refl (fun _ => rfl) _).append (Stmt.walkDefsAll_scan body b wb)).append
      (MatchCase.walkDefsAll_scan rest more wmore)
termination_by structural cs => cs

end

end DefWalk

/-! The rules carried over -/

/-- A use or a binding of `x`: what the passes bring in. -/
def Event.Touches (x : String) (e : Event) : Prop := e = .use x ∨ e = .bind x

theorem Module.mem_declaredNames {m : Module} {x : String} :
    x ∈ Module.declaredNames m ↔
      ∃ b ∈ Module.blocks m, ∃ d ∈ b.events, d.isDeclaration = true ∧ d.name = x := by
  simp only [Module.declaredNames, List.mem_flatMap, List.mem_map, List.mem_filter, and_assoc]

theorem Module.undeclared {m : Module} {x : String} (fresh : x ∉ Module.declaredNames m) :
    ∀ b ∈ Module.blocks m, ∀ d ∈ b.events, d.isDeclaration = true → ¬ d.name = x :=
  fun b mem d event declaration named => fresh (Module.mem_declaredNames.mpr ⟨b, mem, d, event, declaration, named⟩)

theorem Module.nonlocalFree_none {m : Module} (free : Module.nonlocalFree m = true) :
    ∀ b ∈ Module.blocks m, ∀ x, Event.declareNonlocal x ∉ b.events := by
  intro b mem x event
  have none := List.all_eq_true.mp (List.all_eq_true.mp free b mem) _ event
  simp [Event.name] at none

section Rules

variable {S : Event → Event → Prop} {X : Event → Prop} {fresh : String → Prop}

/-- What a pass may do to the events of a block and keep the rules: an event stays, or a use or
binding steps to one of a fresh name; what comes in is a use or binding of a fresh name. A module
whose declarations name nothing fresh then keeps its rules. -/
structure Event.Keeps (S : Event → Event → Prop) (X : Event → Prop) (fresh : String → Prop) :
    Prop where
  step : ∀ {e e'}, S e e' → e' = e ∨
    (e.isDeclaration = false ∧ e'.isDeclaration = false ∧ fresh e'.name)
  extra : ∀ {e}, X e → e.isDeclaration = false ∧ fresh e.name

variable (keeps : Event.Keeps S X fresh)
include keeps

theorem Grown.declaration_mem {L L' : List Event} (grown : Grown S X L L') {d : Event}
    (mem : d ∈ L') (declaration : d.isDeclaration = true) : d ∈ L := by
  rcases grown.mem_after d mem with ⟨d₀, src, stepped⟩ | new
  · rcases keeps.step stepped with rfl | ⟨-, plain, -⟩
    · exact src
    · simp [plain] at declaration
  · simp [(keeps.extra new).1] at declaration

theorem Grown.declaration_mem_after {L L' : List Event} (grown : Grown S X L L') {d : Event}
    (mem : d ∈ L) (declaration : d.isDeclaration = true) : d ∈ L' := by
  obtain ⟨d', dst, stepped⟩ := grown.mem_before d mem
  rcases keeps.step stepped with rfl | ⟨plain, -, -⟩
  · exact dst
  · simp [plain] at declaration

theorem Grown.declaredFirst {L L' : List Event} (grown : Grown S X L L')
    (declared : ∀ d ∈ L, d.isDeclaration = true → ¬ fresh d.name)
    (first : Event.declaredFirst L = true) : Event.declaredFirst L' = true := by
  induction grown with
  | nil => rfl
  | @step e e' L L' stepped rest ih =>
    simp only [Event.declaredFirst, Bool.and_eq_true, Bool.or_eq_true, Bool.not_eq_true',
      List.any_eq_false, Bool.and_eq_true, beq_iff_eq, not_and] at first ⊢
    refine ⟨?_, ih (fun d mem => declared d (List.mem_cons_of_mem _ mem)) first.2⟩
    rcases keeps.step stepped with rfl | ⟨-, -, named⟩
    · rcases first.1 with untouched | none
      · exact .inl untouched
      · exact .inr fun d mem declaration =>
          none d (Grown.declaration_mem keeps rest mem declaration) declaration
    · refine .inr fun d mem declaration same => ?_
      have src := Grown.declaration_mem keeps rest mem declaration
      exact declared d (List.mem_cons_of_mem _ src) declaration (same ▸ named)
  | @extra e' L L' new rest ih =>
    simp only [Event.declaredFirst, Bool.and_eq_true, Bool.or_eq_true, Bool.not_eq_true',
      List.any_eq_false, Bool.and_eq_true, beq_iff_eq, not_and] at ⊢
    refine ⟨.inr fun d mem declaration same => ?_, ih declared first⟩
    have src := Grown.declaration_mem keeps rest mem declaration
    exact declared d src declaration (same ▸ (keeps.extra new).2)

omit keeps in
theorem Block.Plain.rules {b : Block} (plain : b.Plain) :
    Event.declaredFirst b.events = true ∧ b.nonlocalsBound = true := by
  obtain ⟨kind, events, enclosing⟩ := b
  simp only [Block.Plain] at plain
  simp only [Block.nonlocalsBound, List.all_eq_true]
  refine ⟨?_, fun e mem => ?_⟩
  · clear enclosing kind
    induction events with
    | nil => rfl
    | cons e rest ih =>
      simp only [Event.declaredFirst, Bool.and_eq_true, Bool.or_eq_true, Bool.not_eq_true',
        List.any_eq_false, Bool.and_eq_true, beq_iff_eq, not_and]
      refine ⟨.inr fun d mem declaration => ?_, ih fun d mem => plain d (List.mem_cons_of_mem _ mem)⟩
      simp [plain d (List.mem_cons_of_mem _ mem)] at declaration
  · cases e with
    | declareNonlocal x =>
      have declaration := plain _ mem
      simp [Event.isDeclaration] at declaration
    | _ => rfl

theorem Block.nonlocalsBound_of_none {b b' : Block} (related : Block.Rel S X b b')
    (none : ∀ x, .declareNonlocal x ∉ b.events) : b'.nonlocalsBound = true := by
  simp only [Block.nonlocalsBound, List.all_eq_true]
  intro e mem
  cases e with
  | declareNonlocal x => exact absurd (Grown.declaration_mem keeps related.2.1 mem rfl) (none x)
  | _ => rfl

/-- The rules carry over from the blocks of a module to those after a pass, when the blocks after
are the blocks before, related, and new plain blocks. -/
theorem ScopeRules.of_blocks {N : List Event → Prop} {m m' : Module}
    (plainNew : ∀ L, N L → Event.Plain L)
    (related : Grown (Block.Rel S X) (fun b => N b.events) (Module.blocks m) (Module.blocks m'))
    (declared : ∀ b ∈ Module.blocks m, ∀ d ∈ b.events, d.isDeclaration = true → ¬ fresh d.name)
    (nonlocals : ∀ b ∈ Module.blocks m, ∀ b', Block.Rel S X b b' → b.nonlocalsBound = true →
      b'.nonlocalsBound = true)
    (rules : ScopeRules m) : ScopeRules m' := by
  intro b' mem
  rcases related.mem_after b' mem with ⟨b, src, rel⟩ | plain
  · exact ⟨Grown.declaredFirst keeps rel.2.1 (declared b src) (rules b src).1,
      nonlocals b src b' rel (rules b src).2⟩
  · exact Block.Plain.rules (plainNew _ plain)

end Rules

section Insertions

variable {X : Event → Prop} {fresh : String → Prop} (keeps : Event.Keeps (· = ·) X fresh)
include keeps

theorem Grown.mem_iff_of_declaration {L L' : List Event} (grown : Grown (· = ·) X L L') {d : Event}
    (declaration : d.isDeclaration = true) : d ∈ L' ↔ d ∈ L :=
  ⟨fun mem => Grown.declaration_mem keeps grown mem declaration,
    fun mem => Grown.declaration_mem_after keeps grown mem declaration⟩

omit keeps in
theorem Grown.mem_of_mem {L L' : List Event} (grown : Grown (· = ·) X L L') {d : Event}
    (mem : d ∈ L) : d ∈ L' := by
  obtain ⟨_, dst, rfl⟩ := grown.mem_before d mem
  exact dst

theorem Frame.nonlocalFound_of_rel (x : String) {fs fs' : List Frame}
    (related : List.Forall₂ (Frame.Rel (· = ·) X) fs fs') :
    Frame.nonlocalFound x fs = true → Frame.nonlocalFound x fs' = true := by
  induction related with
  | nil => exact id
  | @cons f f' fs fs' framed _ ih =>
    obtain ⟨kind, grown⟩ := framed
    have declares : ∀ d, d.isDeclaration = true → f'.events.contains d = f.events.contains d := by
      intro d declaration
      rw [Bool.eq_iff_iff, List.contains_iff_mem, List.contains_iff_mem]
      exact Grown.mem_iff_of_declaration keeps grown declaration
    have binds : f.binds x = true → f'.binds x = true := by
      simp only [Frame.binds, Bool.or_eq_true, List.contains_iff_mem]
      rintro (bound | imported)
      · exact .inl (grown.mem_of_mem bound)
      · exact .inr (grown.mem_of_mem imported)
    have global : f'.declaresGlobal x = f.declaresGlobal x := declares (.declareGlobal x) rfl
    have nonlocal : f'.declaresNonlocal x = f.declaresNonlocal x := declares (.declareNonlocal x) rfl
    intro found
    unfold Frame.nonlocalFound at found ⊢
    rw [kind, global, nonlocal]
    -- the same kind of frame and the same declarations; a binding here or further out stays
    rcases hk : f.kind with _ | _ | _ | _ | _ <;> simp only [hk, Bool.false_eq_true] at found ⊢
    case classBody => exact ih found
    all_goals
      by_cases isGlobal : f.declaresGlobal x = true
      · simp [isGlobal] at found
      · by_cases isNonlocal : f.declaresNonlocal x = true
        · simp only [isGlobal, isNonlocal, if_true] at found ⊢
          exact ih found
        · simp only [isGlobal, isNonlocal, Bool.false_eq_true, if_false, Bool.or_eq_true] at found ⊢
          rcases found with here | further
          · exact .inl (binds here)
          · exact .inr (ih further)

theorem Block.nonlocalsBound_of_rel {b b' : Block} (related : Block.Rel (· = ·) X b b')
    (bound : b.nonlocalsBound = true) : b'.nonlocalsBound = true := by
  simp only [Block.nonlocalsBound, List.all_eq_true] at bound ⊢
  intro e mem
  cases e with
  | declareNonlocal x =>
    have found := bound _ (Grown.declaration_mem keeps related.2.1 mem rfl)
    exact Frame.nonlocalFound_of_rel keeps x related.2.2 found
  | _ => rfl

omit keeps in
theorem Event.keeps_touches (x : String) : Event.Keeps (· = ·) (Event.Touches x) (· = x) where
  step := .inl ∘ Eq.symm
  extra := by
    rintro e (rfl | rfl)
    · exact ⟨rfl, rfl⟩
    · exact ⟨rfl, rfl⟩

/-- A pass that only brings in events of fresh names, none of them declarations, and plain
blocks, keeps the rules of a module whose declarations name nothing fresh. -/
theorem ScopeRules.of_insertions {N : List Event → Prop} {m m' : Module}
    (plainNew : ∀ L, N L → Event.Plain L)
    (related : Grown (Block.Rel (· = ·) X) (fun b => N b.events) (Module.blocks m) (Module.blocks m'))
    (declared : ∀ b ∈ Module.blocks m, ∀ d ∈ b.events, d.isDeclaration = true → ¬ fresh d.name)
    (rules : ScopeRules m) : ScopeRules m' :=
  ScopeRules.of_blocks keeps plainNew related declared
    (fun _ _ _ rel bound => Block.nonlocalsBound_of_rel keeps rel bound) rules

end Insertions

theorem Module.blocks_rel {S : Event → Event → Prop} {X : Event → Prop} {N : List Event → Prop}
    {m m' : Module} (related : Scan.Rel S X N (Stmt.scanAll m) (Stmt.scanAll m')) :
    Grown (Block.Rel S X) (fun b => N b.events) (Module.blocks m) (Module.blocks m') :=
  (Scan.Rel.block .module .nil related).blocks

section Touches

theorem Event.touches_plain (x : String) : ∀ e, Event.Touches x e → e.isDeclaration = false :=
  fun _ touched => ((Event.keeps_touches x).extra touched).1

end Touches

end Obfuscation.Syntax
