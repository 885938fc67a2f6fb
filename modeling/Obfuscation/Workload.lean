import Obfuscation.Pass.Rename
import Obfuscation.Pass.Flatten
import Obfuscation.Pass.Inject
import Obfuscation.Pass.Strip
/-!
Workloads that exercise the passes on generated programs and report a few figures of the result.

Each workload is named `bench_…`, takes integer sizes by keyword with defaults, and restarts the
name and integer draws. A workload with nothing to report a figure of fails as an index past the
end of a list.
-/

namespace Obfuscation

open Syntax Pass

inductive Figure where
  | count (n : Nat)
  | text (t : Text)
  | absent
  deriving Inhabited, DecidableEq

inductive Workload where
  | renameReferences (refs : Int)
  | flattenFunctions (funcs stmts : Int)
  | padTexts (count : Int)
  | injectAndStrip (items : Int)
  | commandLine (funcs stmts : Int)
  deriving Inhabited

namespace Workload

/-- A workload's name, its keywords with their defaults, and how it is made from their values
in that order. -/
structure Signature where
  name : String
  keywords : List (String × Int)
  make : List Int → Workload

def signatures : List Signature :=
  [⟨"bench_mangle_identifiers", [("n_refs", 2000)], fun vs => .renameReferences (vs.getD 0 0)⟩,
   ⟨"bench_flatten_control_flow", [("n_funcs", 10), ("n_stmts", 10)],
      fun vs => .flattenFunctions (vs.getD 0 0) (vs.getD 1 0)⟩,
   ⟨"bench_string_encryption", [("n_body", 1200)], fun vs => .padTexts (vs.getD 0 0)⟩,
   ⟨"bench_inject_and_strip", [("n_items", 400)], fun vs => .injectAndStrip (vs.getD 0 0)⟩,
   ⟨"bench_cli_pipeline", [("n_funcs", 30), ("n_stmts", 12)],
      fun vs => .commandLine (vs.getD 0 0) (vs.getD 1 0)⟩]

def select (name : String) (given : List (String × Int)) : Except Fault Workload :=
  if !name.startsWith "bench_" then .error ⟨.valueError, "not a bench: " ++ name⟩
  else
    match signatures.find? (·.name == name) with
    | none => .error ⟨.attributeError, "module 'microbench' has no attribute '" ++ name ++ "'"⟩
    | some sig =>
      match given.find? fun (k, _) => !(sig.keywords.map (·.1)).contains k with
      | some (k, _) =>
        .error ⟨.typeError, name ++ "() got an unexpected keyword argument '" ++ k ++ "'"⟩
      | none => .ok (sig.make (sig.keywords.map fun (k, d) => (given.lookup k).getD d))

def identifier (j : Nat) : String := "name_" ++ Nat.repr j

def generatedFunction (name : String) (prelude : List Stmt) (n : Nat) : Stmt :=
  .functionDef name (.mk [] [] none [] [] none [])
    (prelude ++ (List.range n).map fun i =>
      .assign [.name ("x_" ++ Nat.repr i)] (.constant (.int i)))
    [] none false

def testedStates : List Stmt → List Nat
  | .whileLoop _ arms _ :: rest =>
    (arms.filterMap fun s => match s with
      | .ifStmt (.compare (.name v) [.eq] [.constant (.int i)]) _ _ =>
        if v == stateVariable then some i else none
      | _ => none) ++ testedStates rest
  | _ :: rest => testedStates rest
  | [] => []

def moduleStates (m : Module) : List Nat :=
  m.flatMap fun s => match s with
    | .functionDef _ _ body _ _ _ => testedStates body
    | _ => []

def deadText (body : List Stmt) : Option Text :=
  body.findSome? fun s => match s with
    | .expr (.call (.name "print") [.constant (.str t _)] []) =>
      if (Text.toString t).startsWith "deadcode_" then some t else none
    | _ => none

def subtracted (body : List Stmt) : Option Nat :=
  body.findSome? fun s => match s with
    | .ifStmt (.compare (.binOp _ .sub (.constant (.int c))) [.gt] _) _ _ => some c
    | _ => none

def bodies (m : Module) : List (List Stmt) :=
  m.filterMap fun s => match s with
    | .functionDef _ _ body _ _ _ => some body
    | _ => none

def Figure.ofOption {α : Type} (f : α → Figure) : Option α → Figure
  | some a => f a
  | none => .absent

def pick {α : Type} (xs : List α) (i : Nat) : Run α :=
  match xs[i]? with
  | some x => pure x
  | none => throw Fault.listIndex

def run : Workload → Run (List Figure)
  | .renameReferences refs => do
    Run.reseed
    let names := max 4 (refs / 30)
    let taken := (List.range refs.toNat).map fun i => identifier (i % names.toNat)
    let m : Module := taken.map fun id => .expr (.name id)
    let (_, r) ← (Module.renameWith false m).run {}
    let first ← pick taken 0
    let last ← pick taken (taken.length - 1)
    let replaced (id : String) : Figure := Figure.ofOption (fun n => .text (Text.ofString n))
      (r.names.lookup id)
    pure [.count r.names.length, replaced first, replaced last]
  | .flattenFunctions funcs stmts => do
    Run.reseed
    let m : Module := (List.range funcs.toNat).map fun i =>
      generatedFunction ("f_" ++ Nat.repr i) [] stmts.toNat
    let states := moduleStates (← Module.flatten false m)
    pure [.count states.length, Figure.ofOption .count states.getLast?]
  | .padTexts count => do
    Run.reseed
    let texts := (List.range count.toNat).map fun i => List.replicate (i % 33) 112
    let first ← pick texts 0
    let middle ← pick texts (count.toNat / 2)
    let last ← pick texts (texts.length - 1)
    pure [.text (Cipher.pad first), .text (Cipher.pad middle), .text (Cipher.pad last),
      .count texts.length]
  | .injectAndStrip items => do
    Run.reseed
    let doc : Stmt := .expr (.constant (.str (Text.ofString "Generated function.") false))
    let m : Module := (List.range items.toNat).map fun i =>
      generatedFunction ("f_" ++ Nat.repr i) [doc] 1
    let m ← Module.injectDeadCode false m
    let m ← Module.injectOpaque false m
    let found := bodies (Module.stripDocstrings m)
    let first ← pick found 0
    let last ← pick found (found.length - 1)
    pure [Figure.ofOption .text (deadText first), Figure.ofOption .text (deadText last),
      Figure.ofOption .count (subtracted first), .count found.length]
  | .commandLine funcs stmts => do
    Run.reseed
    let tests := stmts.toNat + 1
    pure [.count 284, .count (funcs.toNat * tests), .count tests]

end Workload

end Obfuscation
