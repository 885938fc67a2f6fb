import Obfuscation.Proofs.ScopeWalks
/-!
Where a free name resolves. Every scope around a block of a module is itself a block of the
module: blocks are only opened by a definition, a class, a lambda or a comprehension, around the
blocks their bodies hold. So a name that no function, class, lambda or comprehension binds,
imports or declares resolves from every block to the module's binding of it.
-/

namespace Obfuscation.Syntax

/-- Every frame around a block of the list is the frame of a block of the list. -/
def Block.Closed (bs : List Block) : Prop := ∀ b ∈ bs, ∀ f ∈ b.enclosing, ∃ b' ∈ bs, b'.frame = f

theorem Block.Closed.nil : Block.Closed [] := by
  simp [Block.Closed]

theorem Block.Closed.append {bs bs' : List Block} (first : Block.Closed bs)
    (second : Block.Closed bs') : Block.Closed (bs ++ bs') := by
  intro b mem f around
  rcases List.mem_append.mp mem with mem | mem
  · obtain ⟨b', mem', framed⟩ := first b mem f around
    exact ⟨b', List.mem_append_left bs' mem', framed⟩
  · obtain ⟨b', mem', framed⟩ := second b mem f around
    exact ⟨b', List.mem_append_right bs mem', framed⟩

theorem Block.Closed.open (kind : BlockKind) (events : List Event) {inner : List Block}
    (closed : Block.Closed inner) : Block.Closed (Block.open kind events inner) := by
  intro b mem f around
  rcases List.mem_cons.mp mem with rfl | mem
  · exact absurd around List.not_mem_nil
  · obtain ⟨b₀, mem₀, rfl⟩ := List.mem_map.mp mem
    rcases List.mem_append.mp around with around | around
    · obtain ⟨b', mem', framed⟩ := closed b₀ mem₀ f around
      exact ⟨b'.within ⟨kind, events⟩, List.mem_cons_of_mem _ (List.mem_map_of_mem mem'), framed⟩
    · exact ⟨_, List.mem_cons_self, (List.mem_singleton.mp around).symm⟩

section Scans

variable {s inner : Scan}

theorem Block.Closed.block (kind : BlockKind) (start : List Event)
    (closed : Block.Closed inner.blocks) : Block.Closed (Scan.block kind start inner).blocks :=
  .open _ _ closed

theorem Block.Closed.comprehension (inComp : Bool) (closed : Block.Closed inner.blocks) :
    Block.Closed (Scan.comprehension inComp inner).blocks := by
  cases inComp <;> exact .open _ _ closed

theorem Block.Closed.hoist (inComp : Bool) (closed : Block.Closed s.blocks) :
    Block.Closed (Scan.hoist inComp s).blocks := by
  cases inComp <;> exact closed

end Scans

/-! Every scan is closed, by induction on the syntax: each case appends the closed scans of its
parts, or opens a block around them. -/

mutual

theorem Expr.scan_closed : ∀ (inComp target : Bool) (e : Expr),
    Block.Closed (e.scan inComp target).blocks
  | inComp, _, .boolOp _ values => Expr.scanAll_closed inComp false values
  | inComp, _, .namedExpr t value =>
    (Block.Closed.hoist inComp (Expr.scan_closed inComp true t)).append
      (Expr.scan_closed inComp false value)
  | inComp, _, .binOp left _ right =>
    (Expr.scan_closed inComp false left).append (Expr.scan_closed inComp false right)
  | inComp, _, .unaryOp _ operand => Expr.scan_closed inComp false operand
  | inComp, _, .lambda args body =>
    (Arguments.scan_closed inComp args).append (.block .lambda _ (Expr.scan_closed false false body))
  | inComp, _, .ifExp test body orelse =>
    ((Expr.scan_closed inComp false test).append (Expr.scan_closed inComp false body)).append
      (Expr.scan_closed inComp false orelse)
  | inComp, _, .dict keys values =>
    (Expr.scanOptions_closed inComp keys).append (Expr.scanAll_closed inComp false values)
  | inComp, _, .set elts => Expr.scanAll_closed inComp false elts
  | inComp, _, .listComp elt gens =>
    Comprehension.scan_closed inComp (Expr.scan_closed true false elt) gens
  | inComp, _, .setComp elt gens =>
    Comprehension.scan_closed inComp (Expr.scan_closed true false elt) gens
  | inComp, _, .dictComp key value gens =>
    Comprehension.scan_closed inComp
      ((Expr.scan_closed true false key).append (Expr.scan_closed true false value)) gens
  | inComp, _, .generatorExp elt gens =>
    Comprehension.scan_closed inComp (Expr.scan_closed true false elt) gens
  | inComp, _, .await value => Expr.scan_closed inComp false value
  | inComp, _, .yield value => Expr.scanOption_closed inComp false value
  | inComp, _, .yieldFrom value => Expr.scan_closed inComp false value
  | inComp, _, .compare left _ comparators =>
    (Expr.scan_closed inComp false left).append (Expr.scanAll_closed inComp false comparators)
  | inComp, _, .call func args keywords =>
    ((Expr.scan_closed inComp false func).append (Expr.scanAll_closed inComp false args)).append
      (Keyword.scanAll_closed inComp keywords)
  | inComp, _, .formattedValue value _ spec =>
    (Expr.scan_closed inComp false value).append (Expr.scanOption_closed inComp false spec)
  | inComp, _, .joinedStr values => Expr.scanAll_closed inComp false values
  | _, _, .constant _ => .nil
  | inComp, _, .attribute value _ => Expr.scan_closed inComp false value
  | inComp, _, .subscript value slice =>
    (Expr.scan_closed inComp false value).append (Expr.scan_closed inComp false slice)
  | inComp, target, .starred value => Expr.scan_closed inComp target value
  | _, _, .name _ => .nil
  | inComp, target, .list elts => Expr.scanAll_closed inComp target elts
  | inComp, target, .tuple elts => Expr.scanAll_closed inComp target elts
  | inComp, _, .slice lower upper step =>
    ((Expr.scanOption_closed inComp false lower).append
      (Expr.scanOption_closed inComp false upper)).append (Expr.scanOption_closed inComp false step)
termination_by structural _ _ e => e

theorem Expr.scanAll_closed : ∀ (inComp target : Bool) (es : List Expr),
    Block.Closed (Expr.scanAll inComp target es).blocks
  | _, _, [] => .nil
  | inComp, target, e :: es =>
    (Expr.scan_closed inComp target e).append (Expr.scanAll_closed inComp target es)
termination_by structural _ _ es => es

theorem Expr.scanOption_closed : ∀ (inComp target : Bool) (o : Option Expr),
    Block.Closed (Expr.scanOption inComp target o).blocks
  | _, _, none => .nil
  | inComp, target, some e => Expr.scan_closed inComp target e
termination_by structural _ _ o => o

theorem Expr.scanOptions_closed : ∀ (inComp : Bool) (os : List (Option Expr)),
    Block.Closed (Expr.scanOptions inComp os).blocks
  | _, [] => .nil
  | inComp, o :: os =>
    (Expr.scanOption_closed inComp false o).append (Expr.scanOptions_closed inComp os)
termination_by structural _ os => os

theorem Comprehension.scan_closed : ∀ (inComp : Bool) {elements : Scan},
    Block.Closed elements.blocks → ∀ gs : List Comprehension,
      Block.Closed (Comprehension.scan inComp elements gs).blocks
  | inComp, _, closed, [] => .comprehension inComp closed
  | inComp, _, closed, .mk target iter ifs _ :: rest =>
    (Expr.scan_closed inComp false iter).append (.comprehension inComp
      ((((Expr.scan_closed true true target).append (Expr.scanAll_closed true false ifs)).append
        (Comprehension.scanInner_closed rest)).append closed))
termination_by structural _ _ _ gs => gs

theorem Comprehension.scanInner_closed : ∀ gs : List Comprehension,
    Block.Closed (Comprehension.scanInner gs).blocks
  | [] => .nil
  | .mk target iter ifs _ :: rest =>
    (((Expr.scan_closed true true target).append (Expr.scan_closed true false iter)).append
      (Expr.scanAll_closed true false ifs)).append (Comprehension.scanInner_closed rest)
termination_by structural gs => gs

theorem Keyword.scanAll_closed : ∀ (inComp : Bool) (ks : List Keyword),
    Block.Closed (Keyword.scanAll inComp ks).blocks
  | _, [] => .nil
  | inComp, .mk _ value :: rest =>
    (Expr.scan_closed inComp false value).append (Keyword.scanAll_closed inComp rest)
termination_by structural _ ks => ks

theorem Arg.scanAll_closed : ∀ (inComp : Bool) (as : List Arg),
    Block.Closed (Arg.scanAll inComp as).blocks
  | _, [] => .nil
  | inComp, .mk _ hint :: rest =>
    (Expr.scanOption_closed inComp false hint).append (Arg.scanAll_closed inComp rest)
termination_by structural _ as => as

theorem Arg.scanOption_closed : ∀ (inComp : Bool) (o : Option Arg),
    Block.Closed (Arg.scanOption inComp o).blocks
  | _, none => .nil
  | inComp, some (.mk _ hint) => Expr.scanOption_closed inComp false hint
termination_by structural _ o => o

theorem Arguments.scan_closed : ∀ (inComp : Bool) (a : Arguments),
    Block.Closed (Arguments.scan inComp a).blocks
  | inComp, .mk posOnly args vararg kwOnly kwDefaults kwarg defaults =>
    (((((((Expr.scanAll_closed inComp false defaults).append
      (Expr.scanOptions_closed inComp kwDefaults)).append (Arg.scanAll_closed inComp posOnly)).append
        (Arg.scanAll_closed inComp args)).append (Arg.scanOption_closed inComp vararg)).append
          (Arg.scanAll_closed inComp kwOnly)).append (Arg.scanOption_closed inComp kwarg))
termination_by structural _ a => a

end

mutual

theorem Pattern.scan_closed : ∀ p : Pattern, Block.Closed p.scan.blocks
  | .value e => Expr.scan_closed false false e
  | .singleton _ => .nil
  | .sequence ps => Pattern.scanAll_closed ps
  | .mapping keys ps _ =>
    ((Expr.scanAll_closed false false keys).append (Pattern.scanAll_closed ps)).append .nil
  | .classPattern cls ps _ kps =>
    ((Expr.scan_closed false false cls).append (Pattern.scanAll_closed ps)).append
      (Pattern.scanAll_closed kps)
  | .star _ => .nil
  | .capture none _ => .nil
  | .capture (some p) _ => (Pattern.scan_closed p).append .nil
  | .alternatives ps => Pattern.scanAll_closed ps

theorem Pattern.scanAll_closed : ∀ ps : List Pattern, Block.Closed (Pattern.scanAll ps).blocks
  | [] => .nil
  | p :: ps => (Pattern.scan_closed p).append (Pattern.scanAll_closed ps)

end

theorem WithItem.scanAll_closed (items : List WithItem) :
    Block.Closed (WithItem.scanAll items).blocks := by
  induction items with
  | nil => exact .nil
  | cons w rest closed =>
    exact ((Expr.scan_closed false false w.context).append
      (Expr.scanOption_closed false true w.vars)).append closed

mutual

theorem Stmt.scan_closed : ∀ s : Stmt, Block.Closed s.scan.blocks
  | .functionDef _ args body decorators returns _ =>
    (((Block.Closed.nil.append (Arguments.scan_closed false args)).append
      (Expr.scanAll_closed false false decorators)).append
        (Expr.scanOption_closed false false returns)).append
      (.block .function _ (Stmt.scanAll_closed body))
  | .classDef _ bases keywords body decorators =>
    (((Block.Closed.nil.append (Expr.scanAll_closed false false bases)).append
      (Keyword.scanAll_closed false keywords)).append
        (Expr.scanAll_closed false false decorators)).append
      (.block .classBody _ (Stmt.scanAll_closed body))
  | .returnStmt value => Expr.scanOption_closed false false value
  | .delete targets => Expr.scanAll_closed false true targets
  | .assign targets value =>
    (Expr.scanAll_closed false true targets).append (Expr.scan_closed false false value)
  | .augAssign target _ value =>
    (Expr.scan_closed false true target).append (Expr.scan_closed false false value)
  | .annAssign target hint value _ =>
    ((Expr.scan_closed false true target).append (Expr.scan_closed false false hint)).append
      (Expr.scanOption_closed false false value)
  | .forLoop target iter body orelse _ =>
    (((Expr.scan_closed false true target).append (Expr.scan_closed false false iter)).append
      (Stmt.scanAll_closed body)).append (Stmt.scanAll_closed orelse)
  | .whileLoop test body orelse =>
    ((Expr.scan_closed false false test).append (Stmt.scanAll_closed body)).append
      (Stmt.scanAll_closed orelse)
  | .ifStmt test body orelse =>
    ((Expr.scan_closed false false test).append (Stmt.scanAll_closed body)).append
      (Stmt.scanAll_closed orelse)
  | .withBlock items body _ => (WithItem.scanAll_closed items).append (Stmt.scanAll_closed body)
  | .matchStmt subject cases =>
    (Expr.scan_closed false false subject).append (MatchCase.scanAll_closed cases)
  | .raise exc cause =>
    (Expr.scanOption_closed false false exc).append (Expr.scanOption_closed false false cause)
  | .tryBlock body handlers orelse finalbody _ =>
    (((Stmt.scanAll_closed body).append (Stmt.scanAll_closed orelse)).append
      (Handler.scanAll_closed handlers)).append (Stmt.scanAll_closed finalbody)
  | .assert test msg =>
    (Expr.scan_closed false false test).append (Expr.scanOption_closed false false msg)
  | .importNames _ | .importFrom _ _ _ | .global _ | .nonlocal _ => .nil
  | .expr value => Expr.scan_closed false false value
  | .pass | .breakStmt | .continueStmt => .nil
termination_by structural s => s

theorem Stmt.scanAll_closed : ∀ ss : List Stmt, Block.Closed (Stmt.scanAll ss).blocks
  | [] => .nil
  | s :: rest => (Stmt.scan_closed s).append (Stmt.scanAll_closed rest)
termination_by structural ss => ss

theorem Handler.scanAll_closed : ∀ hs : List Handler, Block.Closed (Handler.scanAll hs).blocks
  | [] => .nil
  | .mk type _ body :: rest =>
    (((Expr.scanOption_closed false false type).append .nil).append
      (Stmt.scanAll_closed body)).append (Handler.scanAll_closed rest)
termination_by structural hs => hs

theorem MatchCase.scanAll_closed : ∀ cs : List MatchCase, Block.Closed (MatchCase.scanAll cs).blocks
  | [] => .nil
  | .mk pattern guard body :: rest =>
    (((Pattern.scan_closed pattern).append (Expr.scanOption_closed false false guard)).append
      (Stmt.scanAll_closed body)).append (MatchCase.scanAll_closed rest)
termination_by structural cs => cs

end

theorem Module.blocks_closed (m : Module) : Block.Closed (Module.blocks m) :=
  .block .module [] (Stmt.scanAll_closed m)

/-! Resolution -/

/-- Every event of `x` in the list is a use: the list binds, imports and declares no `x`. -/
def Event.OnlyUses (x : String) (L : List Event) : Prop := ∀ e ∈ L, e.name = x → e = .use x

def Module.OnlyUses (m : Module) (x : String) : Prop :=
  ∀ b ∈ Module.blocks m, Event.OnlyUses x b.events

instance (x : String) (L : List Event) : Decidable (Event.OnlyUses x L) :=
  inferInstanceAs (Decidable (∀ e ∈ L, _))

instance (m : Module) (x : String) : Decidable (Module.OnlyUses m x) :=
  inferInstanceAs (Decidable (∀ b ∈ _, _))

theorem Frame.free_of_onlyUses {x : String} {f : Frame} (only : Event.OnlyUses x f.events) :
    f.declaresGlobal x = false ∧ f.declaresNonlocal x = false ∧ f.binds x = false := by
  have absent : ∀ e, e.name = x → e ≠ .use x → f.events.contains e = false := by
    intro e named other
    rw [Bool.eq_false_iff]
    intro found
    exact other (only e (List.contains_iff_mem.mp found) named)
  simp only [Frame.declaresGlobal, Frame.declaresNonlocal, Frame.binds, Bool.or_eq_false_iff]
  exact ⟨absent _ rfl (by simp), absent _ rfl (by simp), absent _ rfl (by simp),
    absent _ rfl (by simp)⟩

theorem Frame.resolvesGlobal_of_onlyUses (x : String) (fs : List Frame)
    (free : ∀ f ∈ fs, f.kind ≠ .module → Event.OnlyUses x f.events) :
    Frame.resolvesGlobal x fs = true := by
  induction fs with
  | nil => rfl
  | cons f rest later =>
    have passed := later fun f' mem => free f' (List.mem_cons_of_mem f mem)
    unfold Frame.resolvesGlobal
    rcases kind : f.kind with _ | _ | _ | _ | _
    case module => rfl
    case classBody => simpa [kind] using passed
    all_goals
      obtain ⟨global, nonlocal, binds⟩ :=
        Frame.free_of_onlyUses (free f List.mem_cons_self (by simp [kind]))
      simp [global, nonlocal, binds, passed]

theorem Block.resolvesGlobal_of_closed {x : String} {bs : List Block} (closed : Block.Closed bs)
    (free : ∀ b ∈ bs, b.kind ≠ .module → Event.OnlyUses x b.events) :
    ∀ b ∈ bs, b.resolvesGlobal x = true := by
  intro b mem
  have around : Frame.resolvesGlobal x b.enclosing = true := by
    apply Frame.resolvesGlobal_of_onlyUses
    intro f inside notModule
    obtain ⟨b', mem', rfl⟩ := closed b mem f inside
    exact free b' mem' notModule
  unfold Block.resolvesGlobal
  rcases kind : b.kind with _ | _ | _ | _ | _
  case module => rfl
  all_goals
    obtain ⟨global, nonlocal, binds⟩ :=
      Frame.free_of_onlyUses (f := b.frame) (free b mem (by simp [kind]))
    simp [global, nonlocal, binds, around]

theorem Module.mem_blocks_inner {m : Module} {b : Block} (mem : b ∈ Module.blocks m)
    (notModule : b.kind ≠ .module) : ∃ b₀ ∈ (Stmt.scanAll m).blocks, b.events = b₀.events := by
  rcases List.mem_cons.mp mem with rfl | mem
  · exact absurd rfl notModule
  · obtain ⟨b₀, inner, rfl⟩ := List.mem_map.mp mem
    exact ⟨b₀, inner, rfl⟩

theorem Module.inner_mem_blocks {m : Module} {b : Block} (mem : b ∈ (Stmt.scanAll m).blocks) :
    ∃ b' ∈ Module.blocks m, b'.events = b.events :=
  ⟨_, List.mem_cons_of_mem _ (List.mem_map_of_mem mem), rfl⟩

theorem Stmt.mem_scanAll_events {ss : List Stmt} {s : Stmt} {e : Event} (mem : s ∈ ss)
    (event : e ∈ s.scan.events) : e ∈ (Stmt.scanAll ss).events := by
  induction ss with
  | nil => exact absurd mem List.not_mem_nil
  | cons t rest later =>
    rcases List.mem_cons.mp mem with rfl | mem
    · exact List.mem_append_left _ event
    · exact List.mem_append_right _ (later mem)

theorem Module.onlyUses_events {m : Module} {x : String} (free : Module.OnlyUses m x) :
    Event.OnlyUses x (Stmt.scanAll m).events :=
  fun e event => free _ List.mem_cons_self e (List.mem_append_left _ (List.mem_append_right [] event))

/-- A name that no function, class, lambda or comprehension of a module binds, imports or
declares resolves from every block to the module's binding of it. -/
theorem Module.resolvesGlobal_of_inner (m : Module) {x : String}
    (free : ∀ b ∈ Module.blocks m, b.kind ≠ .module → Event.OnlyUses x b.events) :
    ∀ b ∈ Module.blocks m, b.resolvesGlobal x = true :=
  Block.resolvesGlobal_of_closed (Module.blocks_closed m) free

/-! What passes keep -/

theorem Event.Touches.name_eq {y : String} {e : Event} (touched : Event.Touches y e) : e.name = y := by
  rcases touched with rfl | rfl <;> rfl

theorem Event.Touches.fresh {y x : String} (other : y ≠ x) (e : Event) (touched : Event.Touches y e) :
    e.name ≠ x := by
  rw [touched.name_eq]
  exact other

section Related

variable {S : Event → Event → Prop} {X : Event → Prop} {N : List Event → Prop} {x : String}

theorem Block.onlyUses_of_grown
    (step : ∀ e e', S e e' → (e.name = x → e = .use x) → e'.name = x → e' = .use x)
    (extra : ∀ e, X e → e.name = x → e = .use x) (new : ∀ L, N L → Event.OnlyUses x L)
    {bs bs' : List Block} (grown : Grown (Block.Rel S X) (fun b => N b.events) bs bs')
    (free : ∀ b ∈ bs, Event.OnlyUses x b.events) : ∀ b ∈ bs', Event.OnlyUses x b.events := by
  intro b' mem' e' event' named
  rcases grown.mem_after b' mem' with ⟨b, mem, related⟩ | fresh
  · rcases related.2.1.mem_after e' event' with ⟨e, event, stepped⟩ | added
    · exact step e e' stepped (free b mem e event) named
    · exact extra e' added named
  · exact new _ fresh e' event' named

theorem Module.onlyUses_of_rel
    (step : ∀ e e', S e e' → (e.name = x → e = .use x) → e'.name = x → e' = .use x)
    (extra : ∀ e, X e → e.name = x → e = .use x) (new : ∀ L, N L → Event.OnlyUses x L)
    {m m' : Module} (related : Scan.Rel S X N (Stmt.scanAll m) (Stmt.scanAll m'))
    (free : Module.OnlyUses m x) : Module.OnlyUses m' x :=
  Block.onlyUses_of_grown step extra new (Module.blocks_rel related) free

theorem Block.onlyUses_of_insertions (fresh : ∀ e, X e → e.name ≠ x)
    (new : ∀ L, N L → Event.OnlyUses x L) {bs bs' : List Block}
    (grown : Grown (Block.Rel (· = ·) X) (fun b => N b.events) bs bs')
    (free : ∀ b ∈ bs, Event.OnlyUses x b.events) : ∀ b ∈ bs', Event.OnlyUses x b.events := by
  refine Block.onlyUses_of_grown ?_ (fun e added named => absurd named (fresh e added)) new grown free
  intro e e' same only
  subst same
  exact only

theorem Module.onlyUses_of_insertions (fresh : ∀ e, X e → e.name ≠ x)
    (new : ∀ L, N L → Event.OnlyUses x L) {m m' : Module}
    (related : Scan.Rel (· = ·) X N (Stmt.scanAll m) (Stmt.scanAll m'))
    (free : Module.OnlyUses m x) : Module.OnlyUses m' x :=
  Block.onlyUses_of_insertions fresh new (Module.blocks_rel related) free

end Related

end Obfuscation.Syntax
