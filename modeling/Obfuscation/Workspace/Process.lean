import Obfuscation.Pass.Transform
import Obfuscation.Syntax.Printer.Trace
/-!
Obfuscating files of the work directory in place: read, parse, transform by the passes of the
level, print and write back. Whatever goes wrong is reported as `Error processing` and the run goes
on. A directory is walked files first, in order of names, and only `.py` files are obfuscated.
-/

namespace Obfuscation.Workspace

open Syntax Pass Text

def levelPasses (level : String) : List Transform :=
  if level == "heavy" then Transform.heavy
  else if level == "medium" then [.rename, .sealStrings]
  else if level == "light" then [.rename]
  else []

def applyAll (verbose : Bool) : List Transform → Module → Run Module
  | [], m => pure m
  | t :: rest, m => do applyAll verbose rest (← t.apply verbose m)

/-- Whether a code point is white space: the ASCII blanks and separators, and the Unicode space
separators and line and paragraph separators. -/
def isBlankCode (c : Nat) : Bool :=
  (9 ≤ c && c ≤ 13) || (28 ≤ c && c ≤ 32) || c == 0x85 || c == 0xA0 || c == 0x1680 ||
    (0x2000 ≤ c && c ≤ 0x200A) || c == 0x2028 || c == 0x2029 || c == 0x202F || c == 0x205F ||
    c == 0x3000

/-- The lines of a report of a syntax error that show where it is: the line without its leading
blanks, and carets under the columns from `offset` to `endOffset` (counted from 1), tabs kept for
alignment. An end of zero or of minus one marks one column; an end before the start marks none,
and no caret line is shown for a start before the line's first character. Carets past the end of
the line stand right after it. -/
def placeLines (line : Text) (offset endOffset : Int) : String :=
  let rtext := (line.reverse.dropWhile (· == 10)).reverse
  let ltext := rtext.dropWhile fun c => c == 32 || c == 10 || c == 12
  let spaces : Int := rtext.length - ltext.length
  let finish := if endOffset == 0 then offset else endOffset
  let finish := if offset == finish || finish == -1 then offset + 1 else finish
  let shown := "    " ++ Text.toString ltext ++ "\n"
  let col := offset - 1 - spaces
  if col < 0 then shown
  else
    let endCol := finish - 1 - spaces
    let pad := (ltext.take col.toNat).map fun c => if isBlankCode c then Text.charOf c else ' '
    shown ++ "    " ++ String.ofList pad ++
      String.ofList (List.replicate (endCol - col).toNat '^') ++ "\n"

def parseCalls : String :=
  "Traceback (most recent call last):\n" ++
  "  File \"/repo/pipeline.py\", line 33, in process_file\n" ++
  "    tree = ast.parse(source_code, filename=file_path)\n" ++
  "           ^^^^^^^^^^^^^^^^^^^^^^^^^^^^^^^^^^^^^^^^^^\n" ++
  "  File \"/usr/local/lib/python3.11/ast.py\", line 50, in parse\n" ++
  "    return compile(source, filename, mode, flags,\n" ++
  "           ^^^^^^^^^^^^^^^^^^^^^^^^^^^^^^^^^^^^^^\n"

def byteLength (t : Text) : Nat := t.foldl (fun n c => n + (utf8Code c).length) 0

/-- The number of characters that decoding the first `n` bytes of a text's UTF-8 form gives: a
character cut short counts as one, and so does reading past the end. -/
def charsInBytes : Text → Nat → Nat
  | [], n => if n > 0 then 1 else 0
  | c :: rest, n =>
    let w := (utf8Code c).length
    if w ≤ n then charsInBytes rest (n - w) + 1
    else if n > 0 then 1 else 0

/-- The text of bytes that may begin inside a character: each byte that cannot begin one reads
as the replacement character. -/
def decodePiece (bytes : List UInt8) : Text :=
  let broken := bytes.takeWhile isContinuation
  broken.map (fun _ => 0xFFFD) ++ (decodeUtf8 (bytes.drop broken.length)).toOption.getD []

/-- The last piece of a line's bytes (its line end included) when the line is read back in
pieces of at most 999 bytes: only the last piece is kept. -/
def lastPiece (bytes : List UInt8) : List UInt8 :=
  bytes.drop (999 * ((bytes.length - 1) / 999))

/-- The lines of a text as a file reader sees them: a carriage return, alone or before a line
feed, ends a line too. -/
def fileLines (source : Text) : List Text :=
  let rec unify : Text → Text
    | 13 :: 10 :: rest => 10 :: unify rest
    | 13 :: rest => 10 :: unify rest
    | c :: rest => c :: unify rest
    | [] => []
  (unify source).splitOn 10

/-- The line shown with a syntax fault in a source with lines `lines`, and the fault's offsets in
it. A line read back from the file keeps its last piece only, and the offsets, which count bytes
of the whole line they lie on, become characters of that piece, an end past it standing just
after it. A field's line found by the parser has
offsets that count its bytes, less the place of the field in the source for lines after the
first, so that they may fall below zero. -/
def shownPlace (lines : List Text) (f : SyntaxFault) : Text × Int × Int :=
  let sourceLine (n : Nat) : Text := (lines[n - 1]?).getD []
  match f.shown with
  | .file =>
    let line := sourceLine f.line
    let ending : Text := if f.line < lines.length then [10] else []
    let piece := decodePiece (lastPiece ((line ++ ending).flatMap utf8Code))
    -- an offset counts bytes of the line it lies on, the end's possibly a later one
    let toChars (on : Text) (offset : Nat) : Int :=
      if offset == 0 then 0 else charsInBytes piece (byteLength (on.take (offset - 1)) + 1)
    (piece, toChars line f.offset, toChars (sourceLine f.endLine) f.endOffset)
  | .lexer => (sourceLine f.line, f.offset, f.endOffset)
  | .fieldText text => (text, f.offset, f.endOffset)
  | .fieldParse text endText first endFirst tokenLine tokenCol braceCol =>
    let start : Int := byteLength ((sourceLine tokenLine).take tokenCol) + braceCol
    -- an offset counts bytes of the line it lies on, less the field's start on a later line
    let toBytes (on : Text) (onFirst : Bool) (offset : Nat) : Int :=
      if offset == 0 then 0
      else
        let b : Int := byteLength (on.take (offset - 1)) + 1
        if onFirst then b else b - start
    (text, toBytes text first f.offset, toBytes endText endFirst f.endOffset)

/-- The report of a syntax error met while obfuscating the file `shown` with text `source`: the
calls that led to it, the file and line, the place, and the error. -/
def syntaxReport (shown : String) (source : Text) (f : SyntaxFault) : String :=
  let (line, offset, endOffset) := shownPlace (fileLines source) f
  parseCalls ++
  "  File \"" ++ shown ++ "\", line " ++ Nat.repr f.line ++ "\n" ++
  placeLines line offset endOffset ++
  f.kind.name ++ ": " ++ f.message ++ "\n"

def wholeReport (f : Fault) : String :=
  parseCalls ++ f.kind.name ++ ": " ++ f.message ++ "\n"

/-- The lines of one frame of a failure report: the file, line and function, the text of the
line, and carets under the failing call when it does not fill the line. -/
def frameLines (file : String) (f : CallFrame) : String :=
  "  File \"" ++ file ++ "\", line " ++ Nat.repr f.line ++ ", in " ++ f.function ++ "\n" ++
  "    " ++ f.text ++ "\n" ++
  match f.carets with
  | some (start, width) =>
    "    " ++ String.ofList (List.replicate start ' ') ++
      String.ofList (List.replicate width '^') ++ "\n"
  | none => ""

def printerSource : String := "/usr/local/lib/python3.11/ast.py"

/-- The report of a failure to print the obfuscated module of a file: the calls from the
processing of the file down to the failing one, and the error. -/
def printReport (m : Module) (f : Fault) : String :=
  "Traceback (most recent call last):\n" ++
  frameLines "/repo/pipeline.py"
    ⟨52, "process_file", "new_code = ast.unparse(tree)", some (11, 17)⟩ ++
  String.join (((Module.failureFrames m).getD []).map (frameLines printerSource)) ++
  f.kind.name ++ ": " ++ f.message ++ "\n"

def complain (shown : String) (f : Fault) (report : String) : Run Unit := do
  Run.say ("Error processing " ++ shown ++ ": " ++ f.message)
  Run.report report

def processFile (shown : String) (level : String) (verbose : Bool) : Run Unit := do
  let p := Path.ofText shown
  let w ← Run.tree
  let read : Except Fault Text :=
    if shown.isEmpty then .error (Fault.noSuchFile shown) else w.read p shown
  match read with
  | .error f => complain shown f ""
  | .ok source =>
    match Module.read source with
    | .error (.whole f) => complain shown f (wholeReport f)
    | .error (.located f) => complain shown (f.toFault shown) (syntaxReport shown source f)
    | .ok m =>
      tryCatch (do
          let m ← applyAll verbose (levelPasses level) m
          match Module.render m with
          | .ok code =>
            Run.setTree ((← Run.tree).put p (Text.ofString code))
            if verbose then Run.say ("Obfuscation complete for " ++ shown)
          | .error f => complain shown f (printReport m f))
        fun f => complain shown f ""

/-- Obfuscate the `.py` files of a directory and its subdirectories, at most `fuel` levels deep;
`shown` is how the directory is written. -/
def processTree (level : String) (verbose : Bool) : Nat → String → Path → Run Unit
  | 0, _, _ => pure ()
  | fuel + 1, shown, p => do
    let w ← Run.tree
    for name in w.fileNames p do
      if name.endsWith ".py" then
        let file := joinText shown name
        if verbose then Run.say ("Processing file: " ++ file)
        processFile file level verbose
    for name in w.dirNames p do
      processTree level verbose fuel (joinText shown name) (p ++ [name])

def processDirectory (shown : String) (level : String) (verbose : Bool) : Run Unit := do
  let w ← Run.tree
  let p := Path.ofText shown
  if !shown.isEmpty && w.isDir p then processTree level verbose (w.dirs.length + 1) shown p
  else processFile shown level verbose

end Obfuscation.Workspace
