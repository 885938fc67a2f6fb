import Obfuscation.Workspace.Process
import Obfuscation.Workspace.Copy
/-!
The command line of the obfuscator: `main.py [-h] [--level {none,light,medium,heavy}] [--verbose]
src dst` copies `src` to `dst` and obfuscates the copy in place at the level. Reading the words
stops at the first mistake, which prints the usage line and exits with status 2; help exits with
status 0.
-/

namespace Obfuscation.Workspace

structure Invocation where
  src : String
  dst : String
  level : String
  verbose : Bool
  deriving Inhabited, DecidableEq

inductive Reading where
  | run (i : Invocation)
  | help
  | mistake (message : String)
  deriving Inhabited, DecidableEq

inductive Switch where
  | help
  | level
  | verbose
  deriving DecidableEq, Inhabited

def switchNames : List (String × Switch) :=
  [("-h", .help), ("--help", .help), ("--level", .level), ("--verbose", .verbose)]

def Switch.title : Switch → String
  | .help => "-h/--help"
  | .level => "--level"
  | .verbose => "--verbose"

def levelChoices : List String := ["none", "light", "medium", "heavy"]

def usageLine : String :=
  "usage: main.py [-h] [--level \x7bnone,light,medium,heavy\x7d] [--verbose] src dst\n"

def helpText : String :=
  usageLine ++ "\nPython Obfuscator\n\npositional arguments:\n" ++
  "  src                   Source file or directory to obfuscate\n" ++
  "  dst                   Destination file or directory for obfuscated code\n\n" ++
  "options:\n" ++
  "  -h, --help            show this help message and exit\n" ++
  "  --level \x7bnone,light,medium,heavy\x7d\n" ++
  "                        Obfuscation level\n" ++
  "  --verbose             Enable verbose output\n"

inductive Word where
  | positional (s : String)
  | switch (o : Switch) (name : String) (explicit : Option String)
  | unknown (s : String)
  | ambiguous (s : String) (names : List String)
  | separator

def isNegativeNumber (s : String) : Bool :=
  match s.toList with
  | '-' :: rest =>
    let (whole, frac) := rest.span Char.isDigit
    match frac with
    | [] => !whole.isEmpty
    | '.' :: digits => !digits.isEmpty && digits.all Char.isDigit
    | _ => false
  | _ => false

def classifyDashed (s : String) : Word :=
  match switchNames.lookup s with
  | some o => .switch o s none
  | none =>
    if s == "-" then .positional s
    else
      let (head, tail) := match s.splitOn "=" with
        | h :: t@(_ :: _) => (h, some ("=".intercalate t))
        | _ => (s, none)
      match (switchNames.lookup head, tail) with
      | (some o, some v) => .switch o head (some v)
      | _ =>
        let found : List (Switch × String × Option String) :=
          if s.startsWith "--" then
            switchNames.filterMap fun (n, o) =>
              if n.startsWith "--" && n.startsWith head then some (o, n, tail) else none
          else
            switchNames.filterMap fun (n, o) =>
              if n == String.ofList (s.toList.take 2) then
                some (o, n, some (String.ofList (s.toList.drop 2)))
              else if n.startsWith s then some (o, n, none)
              else none
        match found with
        | [(o, n, e)] => .switch o n e
        | _ :: _ :: _ => .ambiguous s (found.map fun (_, n, _) => n)
        | [] =>
          if isNegativeNumber s || s.toList.contains ' ' then .positional s else .unknown s

def classify : Bool → List String → List Word
  | _, [] => []
  | true, w :: rest => .positional w :: classify true rest
  | false, w :: rest =>
    if w == "--" then .separator :: classify true rest
    else if w.startsWith "-" then classifyDashed w :: classify false rest
    else .positional w :: classify false rest

structure Gathered where
  positional : List String := []
  extra : List String := []
  level : String := "light"
  verbose : Bool := false

def ignoredValue (o : Switch) (v : String) : Reading :=
  .mistake
    ("argument " ++ o.title ++ ": ignored explicit argument " ++ Text.quote (Text.ofString v))

def chooseLevel (g : Gathered) (v : String) : Except Reading Gathered :=
  if levelChoices.contains v then .ok { g with level := v }
  else .error (.mistake ("argument --level: invalid choice: " ++ Text.quote (Text.ofString v) ++
    " (choose from " ++ ", ".intercalate (levelChoices.map (Text.quote ∘ Text.ofString)) ++ ")"))

def gather : Gathered → List Word → Except Reading Gathered
  | g, [] => .ok g
  | g, .separator :: rest => gather g rest
  | g, .positional s :: rest =>
    if g.positional.length < 2 then gather { g with positional := g.positional ++ [s] } rest
    else gather { g with extra := g.extra ++ [s] } rest
  | g, .unknown s :: rest => gather { g with extra := g.extra ++ [s] } rest
  | _, .ambiguous s names :: _ =>
    .error (.mistake ("ambiguous option: " ++ s ++ " could match " ++ ", ".intercalate names))
  | _, .switch .help name explicit :: _ =>
    match explicit with
    | none => .error .help
    | some v =>
      if name == "-h" && !v.isEmpty then
        match v.toList.dropWhile (· == 'h') with
        | [] => .error .help
        | left => .error (ignoredValue .help (String.ofList left))
      else .error (ignoredValue .help v)
  | g, .switch .verbose _ explicit :: rest =>
    match explicit with
    | none => gather { g with verbose := true } rest
    | some v => .error (ignoredValue .verbose v)
  | g, .switch .level _ (some v) :: rest => do gather (← chooseLevel g v) rest
  | g, .switch .level _ none :: .positional v :: rest => do gather (← chooseLevel g v) rest
  | _, .switch .level _ none :: _ => .error (.mistake "argument --level: expected one argument")

/-- The mistake of the first word that could be more than one option. Every word is classified
before any is acted on, so this mistake comes before anything an earlier word would do. -/
def firstAmbiguous : List Word → Option Reading
  | [] => none
  | .ambiguous s names :: _ =>
    some (.mistake ("ambiguous option: " ++ s ++ " could match " ++ ", ".intercalate names))
  | _ :: rest => firstAmbiguous rest

def readWords (words : List String) : Reading :=
  let classified := classify false words
  match firstAmbiguous classified with
  | some r => r
  | none =>
    match gather {} classified with
    | .error r => r
    | .ok g =>
      match g.positional with
      | [src, dst] =>
        if g.extra.isEmpty then .run ⟨src, dst, g.level, g.verbose⟩
        else .mistake ("unrecognized arguments: " ++ " ".intercalate g.extra)
      | [_] => .mistake "the following arguments are required: dst"
      | _ => .mistake "the following arguments are required: src, dst"

def absoluteText (s : String) : String := (Path.ofText s).absolute

def obfuscateCopy (i : Invocation) : Run Unit := do
  let src := absoluteText i.src
  let dst := absoluteText i.dst
  if (← Run.tree).isDir (Path.ofText src) then
    copyTree src dst
    if i.verbose then Run.say ("Copied source directory from " ++ src ++ " to " ++ dst)
  else
    let dstDir := dirText dst
    Run.setTree (← Run.ofExcept ((← Run.tree).makeDirs (Path.ofText dstDir) dstDir))
    copyFile src dst
    if i.verbose then Run.say ("Copied source file from " ++ src ++ " to " ++ dst)
  processDirectory dst i.level i.verbose
  if i.verbose then Run.say "Obfuscation complete."

def runCommandLine (words : List String) : Run Nat := do
  match readWords words with
  | .help =>
    Run.say (String.ofList (helpText.toList.dropLast))
    pure 0
  | .mistake m =>
    Run.report (usageLine ++ "main.py: error: " ++ m ++ "\n")
    pure 2
  | .run i =>
    obfuscateCopy i
    pure 0

end Obfuscation.Workspace
