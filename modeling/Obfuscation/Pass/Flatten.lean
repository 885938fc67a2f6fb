import Obfuscation.Syntax.Walk
import Obfuscation.Session
/-!
Flattening the control flow of functions. The body `s₀ … sₙ₋₁` becomes a `while True` loop on
`__state` with an `if __state == i` arm running `sᵢ` for each `i` and a last arm that breaks out.
Definitions inside a flattened one are not flattened; `async` ones are walked through.
-/

namespace Obfuscation.Pass

open Syntax

def stateVariable : String := "__state"

def stateIs (i : Nat) : Expr := .compare (.name stateVariable) [.eq] [.constant (.int i)]

def setState (i : Nat) : Stmt := .assign [.name stateVariable] (.constant (.int i))

def stepArm (s : Stmt) (i : Nat) : Stmt := .ifStmt (stateIs i) [s, setState (i + 1)] []

/-- A body as a state machine; an empty body stays empty. -/
def flattenBody (body : List Stmt) : List Stmt :=
  if body.isEmpty then body
  else
    let arms := body.zipIdx.map fun (s, i) => stepArm s i
    [setState 0,
      .whileLoop (.constant .true) (arms ++ [.ifStmt (stateIs body.length) [.breakStmt] []]) []]

/-- The visit of flattening: a non-empty body is flattened and not descended into. -/
def flattenVisit (verbose : Bool) : DefVisit Run where
  visit name body :=
    if body.isEmpty then pure id
    else do
      if verbose then Run.say ("Flattening control flow in function: " ++ name)
      pure flattenBody
  descend := false

def Module.flatten (verbose : Bool) (m : Module) : Run Module :=
  Stmt.walkDefsAll (flattenVisit verbose) m

/-- Flatten each function defined at the top level of a module, and nothing else. -/
def Module.flattenTopLevel (m : Module) : Module :=
  m.map fun s => match s with
    | .functionDef name args body decorators returns false =>
      .functionDef name args (flattenBody body) decorators returns false
    | other => other

end Obfuscation.Pass
