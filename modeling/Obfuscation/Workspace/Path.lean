/-!
Paths of the work directory, written relative to it or absolute under it (`<WORK>`). A path names
a list of components: empty components and `.` are dropped, and `..` steps up, never above the
work directory.
-/

namespace Obfuscation.Workspace

/-- A location inside the work directory, as its components; the work directory is `[]`. -/
abbrev Path := List String

def workText : String := "<WORK>"

/-- One component of a path text read onto the location before it: an empty component and `.`
stay where they are, `..` steps up. -/
def Path.push (acc : Path) (c : String) : Path :=
  if c.isEmpty || c == "." then acc
  else if c == ".." then acc.dropLast
  else acc ++ [c]

def Path.ofText (s : String) : Path :=
  let rest : List Char :=
    if s == workText then [] else ((workText ++ "/").toList.isPrefixOf? s.toList).getD s.toList
  ((rest.splitOn '/').map String.ofList).foldl Path.push []

def Path.absolute (p : Path) : String := String.join (workText :: p.map ("/" ++ ·))

def joinText (a b : String) : String :=
  if a.toList.getLast?.all (· == '/') then a ++ b else a ++ "/" ++ b

def baseText (s : String) : String := (((s.toList.splitOn '/').map String.ofList).getLast?).getD s

/-- The directory part of a path text: all up to its last slash, trailing slashes dropped unless
it is made of slashes only. -/
def dirText (s : String) : String :=
  let head := (s.toList.reverse.dropWhile (· != '/')).reverse
  if head.all (· == '/') then String.ofList head
  else String.ofList (head.reverse.dropWhile (· == '/')).reverse

end Obfuscation.Workspace
