import Obfuscation.Workspace.CommandLine
/-!
The obfuscator as a program. What lies at the source and the destination is loaded into a tree,
the command line runs on the tree, and every directory made and file written is then made and
written on disk, also when the run stopped with an error; such an error exits with status 1.
-/

namespace Obfuscation.Workspace

def diskText (p : Path) : String := "/".intercalate p

/-- Add to a tree what lies at a location: a file with its text, or a directory with everything
under it. -/
partial def loadInto (w : Tree) (p : Path) : IO Tree := do
  let real := (← IO.currentDir) / diskText p
  if ← real.isDir then
    let entries ← real.readDir
    entries.foldlM (fun w e => loadInto w (p ++ [e.fileName])) (w.addDir p)
  else if ← real.pathExists then
    pure (w.put p (Text.ofString (← IO.FS.readFile real)))
  else pure w

/-- Make the directories and write the files of `after` that `before` does not have as they are. -/
def writeChanges (before after : Tree) : IO Unit := do
  let here ← IO.currentDir
  for d in after.dirs do
    if !before.dirs.contains d then IO.FS.createDirAll (here / diskText d)
  for (p, t) in after.files do
    if before.file? p != some t then IO.FS.writeFile (here / diskText p) (Text.toString t)

/-- A path text as the model reads it: below the current directory `cwd`, it is written from
the work directory. -/
def modelText (cwd s : String) : String :=
  match s.dropPrefix? (cwd ++ "/") with
  | some rest => workText ++ "/" ++ rest.toString
  | none => if s == cwd then workText else s

end Obfuscation.Workspace

def main (args : List String) : IO UInt32 := do
  let cwd := (← IO.currentDir).toString
  let args := args.map (Obfuscation.Workspace.modelText cwd)
  let before ← match Obfuscation.Workspace.readWords args with
    | .run i => do
      let w ← Obfuscation.Workspace.loadInto {} (Obfuscation.Workspace.Path.ofText i.src)
      Obfuscation.Workspace.loadInto w (Obfuscation.Workspace.Path.ofText i.dst)
    | _ => pure {}
  let (outcome, session) := ((Obfuscation.Workspace.runCommandLine args).run).run { tree := before }
  let shown (s : String) := s.replace Obfuscation.Workspace.workText cwd
  IO.print (shown session.printed)
  IO.eprint (shown session.reported)
  Obfuscation.Workspace.writeChanges before session.tree
  match outcome with
  | .ok code => pure code.toUInt32
  | .error f =>
    IO.eprintln (f.kind.name ++ ": " ++ shown f.message)
    pure 1
