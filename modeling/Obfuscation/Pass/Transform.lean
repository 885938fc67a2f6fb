import Obfuscation.Syntax.Parse
import Obfuscation.Syntax.Printer.Stmt
import Obfuscation.Pass.Rename
import Obfuscation.Pass.Seal
import Obfuscation.Pass.Flatten
import Obfuscation.Pass.Inject
import Obfuscation.Pass.Strip
/-!
Transforming source text by named passes, run in the order given on one module. A name that names
no pass is a missing key, found when its turn comes. Renaming can also run over a sequence of
sources with one renaming state.
-/

namespace Obfuscation.Pass

open Syntax

inductive Transform where
  | rename
  | sealStrings
  | flatten
  | injectDeadCode
  | injectOpaque
  | stripDocstrings
  | ensureDecryptor
  deriving DecidableEq, Repr, Inhabited

def Transform.ofName? : String → Option Transform
  | "mangle" => some .rename
  | "encrypt_strings" => some .sealStrings
  | "flatten" => some .flatten
  | "inject_dead_code" => some .injectDeadCode
  | "inject_opaque_predicates" => some .injectOpaque
  | "strip_metadata" => some .stripDocstrings
  | "ensure_decrypt_function" => some .ensureDecryptor
  | _ => none

def Transform.heavy : List Transform :=
  [.rename, .sealStrings, .flatten, .injectDeadCode, .injectOpaque, .stripDocstrings]

def Transform.apply (verbose : Bool) : Transform → Module → Run Module
  | .rename, m => Module.rename verbose m
  | .sealStrings, m => Module.sealStrings verbose m
  | .flatten, m => Module.flatten verbose m
  | .injectDeadCode, m => Module.injectDeadCode verbose m
  | .injectOpaque, m => Module.injectOpaque verbose m
  | .stripDocstrings, m => pure (Module.stripDocstrings m)
  | .ensureDecryptor, m => pure (Module.ensureDecryptor m)

/-- Run passes named in order, each name looked up when its turn comes. -/
def applyNamed (verbose : Bool) : List Text → Module → Run Module
  | [], m => pure m
  | n :: rest, m => do
    match Transform.ofName? (Text.toString n) with
    | some t => applyNamed verbose rest (← t.apply verbose m)
    | none => throw (Fault.missingKey n)

def readSource (source : Text) : Except Fault Module := Module.parse source "<unknown>"

/-- Read a source, clear the bodies of the listed functions, run the named passes and print the
result. -/
def transformSource (source : Text) (clear : List String) (passes : List Text) (verbose : Bool) :
    Run String := do
  let m ← Run.ofExcept (readSource source)
  let m ← applyNamed verbose passes (Module.clearBodies clear m)
  Run.ofExcept (Module.render m)

/-- Read a source, clear the bodies of the listed functions, flatten each function defined at
the top level and print the result. -/
def flattenSource (source : Text) (clear : List String) : Except Fault String := do
  let m ← readSource source
  Module.render (Module.flattenTopLevel (Module.clearBodies clear m))

/-- The outcome of renaming one source of a sequence: the printed code, what was announced, and
the renaming state after it; or the fault that stopped it. -/
inductive RenameStep where
  | done (code printed : String) (state : Renaming)
  | failed (f : Fault)

/-- Rename each source in turn with one renaming state, each step announcing on its own. -/
def renameSources (verbose : Bool) : List Text → Renaming → Run (List RenameStep)
  | [], _ => pure []
  | source :: rest, r =>
    match readSource source with
    | .error f => do
      let steps ← renameSources verbose rest r
      pure (.failed f :: steps)
    | .ok m => do
      let before ← get
      set { before with printed := "" }
      let (renamed, r') ← (Module.renameWith verbose m).run r
      let announced := (← get).printed
      modify fun s => { s with printed := before.printed }
      let step := match Module.render renamed with
        | .ok code => RenameStep.done code announced r'
        | .error f => RenameStep.failed f
      let steps ← renameSources verbose rest r'
      pure (step :: steps)

end Obfuscation.Pass
