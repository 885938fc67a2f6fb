import Obfuscation.Syntax.Walk
import Obfuscation.Session
/-!
Injecting code that does nothing. Dead code puts a print of `deadcode_` and a drawn number first in
every function body; opaque predicates put an always-false `if` at a drawn position of every
non-empty body. Both draw for a definition before going on into its body.
-/

namespace Obfuscation.Pass

open Syntax

def intText (n : Int) : String :=
  if n < 0 then "-" ++ Nat.repr n.natAbs else Nat.repr n.natAbs

def printStmt (t : String) : Stmt :=
  .expr (.call (.name "print") [.constant (.str (Text.ofString t) false)] [])

def deadStmt (n : Int) : Stmt := printStmt ("deadcode_" ++ intText n)

def deadCodeVisit (verbose : Bool) : DefVisit Run where
  visit name _ := do
    let n ← Run.drawBetween 1000 9999
    if verbose then Run.say ("Injecting dead code in function: " ++ name)
    pure (deadStmt n :: ·)
  descend := true

def Module.injectDeadCode (verbose : Bool) (m : Module) : Run Module :=
  Stmt.walkDefsAll (deadCodeVisit verbose) m

/-- The test `3 * 7 - 21 > 0`, always false. -/
def opaqueTest : Expr :=
  .compare
    (.binOp (.binOp (.constant (.int 3)) .mult (.constant (.int 7))) .sub (.constant (.int 21)))
    [.gt] [.constant (.int 0)]

def opaqueStmt : Stmt := .ifStmt opaqueTest [printStmt "Dead opaque code"] []

def insertAt {α : Type} (xs : List α) (i : Nat) (x : α) : List α := xs.take i ++ x :: xs.drop i

def opaqueVisit (verbose : Bool) : DefVisit Run where
  visit name body :=
    if body.isEmpty then pure id
    else do
      let pos ← Run.drawBetween 0 body.length
      if verbose then
        Run.say ("Inserted opaque predicate in function " ++ name ++ " at position " ++ intText pos)
      pure (insertAt · pos.toNat opaqueStmt)
  descend := true

def Module.injectOpaque (verbose : Bool) (m : Module) : Run Module :=
  Stmt.walkDefsAll (opaqueVisit verbose) m

end Obfuscation.Pass
