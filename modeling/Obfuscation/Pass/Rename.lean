import Obfuscation.Syntax.Walk
import Obfuscation.Session
/-!
Renaming variables. Every name is replaced by a drawn name, the same for every occurrence across
the module, except the kept names and the names imported so far; a name's replacement is drawn at
its first occurrence in the walk. The state carries over from one module to the next.
-/

namespace Obfuscation.Pass

open Syntax

/-- The names of the renaming so far, each with its replacement in the order they were first
met, and the names recorded by imports. -/
structure Renaming where
  names : List (String × String) := []
  imported : List String := []
  deriving Inhabited

def Renaming.sortedNames (r : Renaming) : List (String × String) :=
  r.names.mergeSort fun a b => decide (a.1 ≤ b.1)

def Renaming.sortedImported (r : Renaming) : List String :=
  r.imported.mergeSort fun a b => decide (a ≤ b)

/-- Names that are never replaced. -/
def keptNames : List String :=
  ["print", "len", "range", "int", "str", "float", "True", "False", "None", "decrypt_string"]

/-- The name an imported alias records: its alias, or for `import`, the first component of the
dotted module name. -/
def recordedName (a : Alias) (dotted : Bool) : String :=
  match a.asName with
  | some n => n
  | none => if dotted then (a.name.splitOn ".").headD a.name else a.name

def Renaming.record (r : Renaming) (n : String) : Renaming :=
  if r.imported.contains n then r else { r with imported := r.imported ++ [n] }

def Renaming.recordImport (r : Renaming) : Stmt → Renaming
  | .importNames names => names.foldl (fun r a => r.record (recordedName a true)) r
  | .importFrom _ names _ => names.foldl (fun r a => r.record (recordedName a false)) r
  | _ => r

/-- The replacement of one name: kept and imported names stay; a name met before takes its
replacement; a new name draws one. -/
def renameOne (verbose : Bool) (id : String) : StateT Renaming Run Expr := do
  let r ← get
  if keptNames.contains id || r.imported.contains id then return .name id
  match r.names.lookup id with
  | some n => return .name n
  | none =>
    let n ← Run.drawName 8
    set { r with names := r.names ++ [(id, n)] }
    if verbose then Run.say ("Renaming variable " ++ id ++ " to " ++ n)
    return .name n

def renameVisit (verbose : Bool) : LeafVisit (StateT Renaming Run) where
  name := renameOne verbose
  text t u := pure (.constant (.str t u))
  part t u := pure (.constant (.str t u))
  imports s := modify (·.recordImport s)

def Module.renameWith (verbose : Bool) (m : Module) : StateT Renaming Run Module :=
  Stmt.walkLeavesAll (renameVisit verbose) m

def Module.rename (verbose : Bool) (m : Module) : Run Module :=
  (Module.renameWith verbose m).run' {}

end Obfuscation.Pass
