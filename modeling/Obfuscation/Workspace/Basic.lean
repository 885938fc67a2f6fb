import Obfuscation.Workspace.Path
import Obfuscation.Fault
/-!
The work directory: text files and directories.

Every file lies in a directory that exists, and every directory other than the work directory
itself is recorded, so that empty directories are kept. Reading a file gives its text with line
ends read as newlines; looking up a file whose path runs through a file, or that is a directory,
or that is missing, fails with the error the system reports for it, naming the path as written.
-/

namespace Obfuscation.Workspace

/-- Files with their text, and the directories other than the work directory. -/
structure Tree where
  files : List (Path × Text) := []
  dirs : List Path := []
  deriving Inhabited

namespace Tree

def isDir (w : Tree) (p : Path) : Bool := p.isEmpty || w.dirs.contains p

def file? (w : Tree) (p : Path) : Option Text := w.files.lookup p

def isFile (w : Tree) (p : Path) : Bool := (w.file? p).isSome

def holds (w : Tree) (p : Path) : Bool := w.isDir p || w.isFile p

def parents (p : Path) : List Path := (List.range p.length).map p.take |>.drop 1

def addDir (w : Tree) (p : Path) : Tree :=
  (parents p ++ [p]).foldl (fun w d =>
    if d.isEmpty || w.dirs.contains d then w else { w with dirs := w.dirs ++ [d] }) w

def put (w : Tree) (p : Path) (t : Text) : Tree :=
  let w := w.addDir p.dropLast
  if w.isFile p then { w with files := w.files.map fun (q, u) => if q == p then (q, t) else (q, u) }
  else { w with files := w.files ++ [(p, t)] }

def ofFiles (fs : List (String × Text)) : Tree :=
  fs.foldl (fun w (s, t) => w.put (Path.ofText s) t) {}

def fileNames (w : Tree) (p : Path) : List String :=
  (w.files.filterMap fun (q, _) =>
    if q.dropLast == p && q.length == p.length + 1 then q.getLast? else none).mergeSort
      fun a b => decide (a ≤ b)

def dirNames (w : Tree) (p : Path) : List String :=
  (w.dirs.filterMap fun q =>
    if q.dropLast == p && q.length == p.length + 1 then q.getLast? else none).mergeSort
      fun a b => decide (a ≤ b)

def listing (w : Tree) : List (String × Text) :=
  (w.files.map fun (p, t) => ("/".intercalate p, t)).mergeSort fun a b => decide (a.1 ≤ b.1)

end Tree

def Fault.noSuchFile (shown : String) : Fault :=
  ⟨.fileNotFound, "[Errno 2] No such file or directory: " ++ Text.quote (Text.ofString shown)⟩

def Fault.isDirectory (shown : String) : Fault :=
  ⟨.isADirectory, "[Errno 21] Is a directory: " ++ Text.quote (Text.ofString shown)⟩

def Fault.notDirectory (shown : String) : Fault :=
  ⟨.notADirectory, "[Errno 20] Not a directory: " ++ Text.quote (Text.ofString shown)⟩

def Fault.alreadyExists (shown : String) : Fault :=
  ⟨.fileExists, "[Errno 17] File exists: " ++ Text.quote (Text.ofString shown)⟩

def Fault.sameFile (a b : String) : Fault :=
  ⟨.sameFile, Text.quote (Text.ofString a) ++ " and " ++ Text.quote (Text.ofString b) ++
    " are the same file"⟩

def readLineEnds : Text → Text
  | 13 :: 10 :: rest => 10 :: readLineEnds rest
  | 13 :: rest => 10 :: readLineEnds rest
  | c :: rest => c :: readLineEnds rest
  | [] => []

namespace Tree

/-- Why a location is not a file that can be opened: it runs through a file, is a directory,
or is missing. -/
def openFault (w : Tree) (p : Path) (shown : String) : Fault :=
  if (parents p).any w.isFile then Fault.notDirectory shown
  else if w.isDir p then Fault.isDirectory shown
  else Fault.noSuchFile shown

def read (w : Tree) (p : Path) (shown : String) : Except Fault Text :=
  match w.file? p with
  | some t => .ok (readLineEnds t)
  | none => .error (w.openFault p shown)

/-- Make a directory and those that hold it; an existing directory is kept, a file in the way
fails. -/
def makeDirs (w : Tree) (p : Path) (shown : String) : Except Fault Tree :=
  if w.isFile p then .error (Fault.alreadyExists shown)
  else if (parents p).any w.isFile then .error (Fault.notDirectory shown)
  else .ok (w.addDir p)

end Tree

end Obfuscation.Workspace
