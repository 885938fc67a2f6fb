import Obfuscation.Session
/-!
Copying files and directory trees in the work directory. A failure to copy one entry of a tree
does not stop the others: the failures are collected and raised together once every entry has
been tried. A directory is listed in the order of its names.
-/

namespace Obfuscation.Workspace

/-- Copy a file; `src` and `dst` are written as given, and a directory destination receives the
file under its own name. -/
def copyFile (src dst : String) : Run Unit := do
  let w ← Run.tree
  let dst := if w.isDir (Path.ofText dst) then joinText dst (baseText src) else dst
  let s := Path.ofText src
  let d := Path.ofText dst
  if s == d && w.isFile s then throw (Fault.sameFile src dst)
  match w.file? s with
  | none => throw (w.openFault s src)
  | some t =>
    if w.isDir d then throw (Fault.isDirectory dst)
    else if !w.isDir d.dropLast then throw (w.openFault d dst)
    else Run.setTree (w.put d t)

namespace Tree

def entryNames (w : Tree) (p : Path) : List String :=
  (w.fileNames p ++ w.dirNames p).mergeSort fun a b => decide (a ≤ b)

end Tree

/-- The item a tree copy collects for an entry it fails to copy: its source, its destination and
the message of the failure, written as a tuple. -/
def copyFailure (src dst : String) (f : Fault) : String :=
  "(" ++ Text.quote (Text.ofString src) ++ ", " ++ Text.quote (Text.ofString dst) ++ ", " ++
    Text.quote (Text.ofString f.message) ++ ")"

/-- The items a tree copy collects for a file listed as `name` that it would copy onto itself.
The failure is a same-file error, whose message the tree copy takes for a list of failures and
so collects character by character; the source shows as the directory entry it was listed as. -/
def sameFileFailures (name dst : String) : List String :=
  let message := "<DirEntry " ++ Text.quote (Text.ofString name) ++ "> and " ++
    Text.quote (Text.ofString dst) ++ " are the same file"
  message.toList.map fun c => Text.quote [c.toNat]

def Fault.copyFailures (items : List String) : Fault :=
  ⟨.copyFailures, "[" ++ ", ".intercalate items ++ "]"⟩

/-- Copy the entries of the directory `src` into the directory `dst`, subdirectories at most
`fuel` levels deep, giving the failures collected on the way. The source is listed before the
destination is made. -/
def copyEntries : Nat → String → String → Run (List String)
  | 0, _, _ => pure []
  | fuel + 1, src, dst => do
    let w ← Run.tree
    let s := Path.ofText src
    if (Tree.parents s).any w.isFile || w.isFile s then throw (Fault.notDirectory src)
    if !w.isDir s then throw (Fault.noSuchFile src)
    let made ← Run.ofExcept (w.makeDirs (Path.ofText dst) dst)
    Run.setTree made
    let mut failures := []
    for name in w.entryNames s do
      let source := joinText src name
      let target := joinText dst name
      if w.isDir (s ++ [name]) then
        -- the failures below a subdirectory join the list; one that cannot be made is one item
        failures := failures ++ (← tryCatch (copyEntries fuel source target)
          fun f => pure [copyFailure source target f])
      else
        failures := failures ++ (← tryCatch (do copyFile source target; pure [])
          fun f => pure (if f.kind == .sameFile then sameFileFailures name target
            else [copyFailure source target f]))
    pure failures

/-- Copy the directory tree `src` onto `dst`, keeping what `dst` holds; the failures to copy
single entries are raised together at the end. -/
def copyTree (src dst : String) : Run Unit := do
  let failures ← copyEntries ((← Run.tree).dirs.length + 1) src dst
  if !failures.isEmpty then throw (Fault.copyFailures failures)

end Obfuscation.Workspace
