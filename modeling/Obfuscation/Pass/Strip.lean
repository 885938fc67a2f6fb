import Obfuscation.Syntax.Walk
/-!
Stripping docstrings.

The first statement of a module, and the first statement of the body of every function
definition reached through statement bodies, is removed when it is a string expression. Class
and `async` function docstrings stay. Function bodies can also be cleared whole, by name.
-/

namespace Obfuscation.Pass

open Syntax

/-- A body without its leading string expression, if any. -/
def dropDocstring : List Stmt → List Stmt
  | s :: rest => if s.isStringExpr then rest else s :: rest
  | [] => []

def stripVisit : DefVisit Id where
  visit _ _ := pure dropDocstring
  descend := true

def Module.stripDocstrings (m : Module) : Module :=
  Id.run (Stmt.walkDefsAll stripVisit (dropDocstring m))

def clearVisit (names : List String) : DefVisit Id where
  visit name _ := pure (if names.contains name then fun _ => [] else id)
  descend := true

/-- Empty the body of every function definition whose name is listed. -/
def Module.clearBodies (names : List String) (m : Module) : Module :=
  Id.run (Stmt.walkDefsAll (clearVisit names) m)

end Obfuscation.Pass
