import Obfuscation.Syntax.Token
import Obfuscation.Text.Identifier
import Obfuscation.Text.Quote
/-!
The lexer: Python source text to tokens. Indentation is compared with a stack of open levels,
giving `indent` and `dedent`; inside brackets lines join. A fault is reported at once (`raised`),
only signalled (`halted`), or is the end of input inside a bracket (`unclosed`).
-/

namespace Obfuscation.Syntax

open Obfuscation.Text

/-- A fault that reading only signals, so that parsing meets it when it looks past the last
token read. -/
inductive Signal where
  | fault (f : SyntaxFault)
  /-- The input ends right after a backslash that joins lines, at a line and column. -/
  | cutOff (line col : Nat)
  deriving Inhabited

abbrev OpenBracket := Char × Nat × Nat

/-- How reading tokens ended. A signalled fault keeps the innermost bracket open at that point. -/
inductive LexEnd where
  | complete
  | raised (f : SyntaxFault)
  | halted (s : Signal) (innermost : Option OpenBracket)
  | unclosed (bracket : Char) (line col : Nat)
  deriving Inhabited

def unclosedFault (bracket : Char) (line col : Nat) : SyntaxFault :=
  SyntaxFault.spanning ("'" ++ String.singleton bracket ++ "' was never closed") line col (col + 1)

/-- The fault parsing reports when it meets a signalled fault: input cut off after a backslash
is a bracket never closed when one is open, and the end of input otherwise. -/
def Signal.report (s : Signal) (innermost : Option OpenBracket) : SyntaxFault :=
  match s, innermost with
  | .fault f, _ => f
  | .cutOff _ _, some (b, line, col) => unclosedFault b line col
  | .cutOff line col, none =>
    -- the place is the end of the backslash's line, its line end included
    ⟨.syntaxError, "unexpected EOF while parsing", line, col + 2, line, 0, .file⟩

/-- The state of the lexer. `indents` holds the open indentation levels, innermost first, each
as a column with tabs to multiples of eight and a column with tabs as single spaces; `brackets`
holds the open brackets, innermost first, with their places. `lastLine` is the number of the
last line and `lastLineEnd` the column just past its line end, where reading stops. -/
structure Lexer where
  rest : List Char
  line : Nat
  col : Nat
  lastLine : Nat
  lastLineEnd : Nat
  atLineStart : Bool
  blank : Bool
  indents : List (Nat × Nat)
  brackets : List (Char × Nat × Nat)
  pending : Int

inductive LexStep where
  | emit (t : Token) (s : Lexer)
  | skip (s : Lexer)
  | stop (e : LexEnd)
  | halt (s : Signal)

def isNameStart (c : Char) : Bool := c.isAlpha || c == '_' || c.toNat ≥ 128

def isNameChar (c : Char) : Bool := c.isAlphanum || c == '_' || c.toNat ≥ 128

/-- Whether a word is a string prefix: any case of `r`, `u`, `b`, `f`, `br`, `rb`, `fr`, `rf`. -/
def isStringPrefix (w : List Char) : Bool :=
  let l := String.ofList (w.map Char.toLower)
  ["r", "u", "b", "f", "br", "rb", "fr", "rf"].contains l

def threeCharOps : List String := ["**=", "...", "//=", "<<=", ">>="]

def twoCharOps : List String :=
  ["!=", "%=", "&=", "**", "*=", "+=", "-=", "->", "//", "/=", ":=", "<<", "<=", "<>", "==",
    ">=", ">>", "@=", "^=", "|="]

def upperHex (n : Nat) : String :=
  let digits := (Nat.toDigits 16 n).map Char.toUpper
  String.ofList (List.replicate (4 - digits.length) '0' ++ digits)

def invalidNameChar? (w : List Char) : Option Nat :=
  match w with
  | [] => none
  | c :: rest =>
    if !isIdentStart c then some 0
    else (rest.findIdx? (fun d => !isIdentContinue d)).map (· + 1)

def normaliseLines (cs : List Char) : List Char :=
  let rec go : List Char → List Char
    | '\r' :: '\n' :: rest => '\n' :: go rest
    | '\r' :: rest => '\n' :: go rest
    | c :: rest => c :: go rest
    | [] => []
  let out := go cs
  if out.getLast? == some '\n' then out else out ++ ['\n']

/-- The result of measuring indentation at a line start. `contCol` is the column of the first
backslash that joined a line with a column other than zero, or zero. -/
structure Indentation where
  col : Nat
  alt : Nat
  contCol : Nat
  rest : List Char
  line : Nat
  column : Nat
  fault : Option Signal

/-- Measure indentation: spaces count one, a tab moves to the next multiple of eight (and counts
one in the other measure), a form feed resets both, and a backslash joins the next line. -/
def measureIndent (col alt contCol : Nat) (line column : Nat) :
    List Char → Indentation
  | ' ' :: r => measureIndent (col + 1) (alt + 1) contCol line (column + 1) r
  | '\t' :: r => measureIndent ((col / 8 + 1) * 8) (alt + 1) contCol line (column + 1) r
  | '\x0c' :: r => measureIndent 0 0 contCol line (column + 1) r
  | '\\' :: '\n' :: r =>
    if r.isEmpty then ⟨col, alt, contCol, r, line, column, some (.cutOff line column)⟩
    else measureIndent col alt (if contCol == 0 then col else contCol) (line + 1) 0 r
  | '\\' :: r =>
    ⟨col, alt, contCol, '\\' :: r, line, column,
      some (.fault (SyntaxFault.spanning "unexpected character after line continuation character"
        line (column + 1) (column + 1)))⟩
  | r => ⟨col, alt, contCol, r, line, column, none⟩

/-- A token that starts at the lexer's place and ends `width` characters later on the same
line. -/
def Lexer.token (s : Lexer) (kind : TokenKind) (text : List Char) : Token :=
  ⟨kind, String.ofList text, s.line, s.col, s.line, s.col + text.length⟩

def Lexer.advance (s : Lexer) (consumed : List Char) (rest : List Char) : Lexer :=
  { s with rest := rest, col := s.col + consumed.length }

def Lexer.raise (s : Lexer) (message : String) (offset : Nat) : LexStep :=
  .stop (.raised ⟨.syntaxError, message, s.line, offset, s.line, offset, .lexer⟩)

/-- Digits, with single underscores allowed between digits. Returns the digits read and the rest,
or the number of characters read before an underscore not followed by a digit. -/
def readDigitRun (isDigit : Char → Bool) : List Char → List Char × List Char × Bool
  | c :: rest =>
    if isDigit c then
      let (more, rest', ok) := readDigitRun isDigit rest
      (c :: more, rest', ok)
    else if c == '_' then
      match rest with
      | d :: rest' =>
        if isDigit d then
          let (more, rest'', ok) := readDigitRun isDigit rest'
          ('_' :: d :: more, rest'', ok)
        else (['_'], rest, false)
      | [] => (['_'], [], false)
    else ([], c :: rest, true)
  | [] => ([], [], true)

/-- Whether a word ends where the characters `cs` begin: at their end or before a character
that cannot continue a name. -/
def wordEnds (cs : List Char) : Bool :=
  match cs with
  | c :: _ => !isNameChar c
  | [] => true

/-- Whether the characters after a number begin one of the keywords that may follow a number
(`and`, `else`, `for`, `if`, `in`, `is`, `not`, `or`). The two-letter ones are recognised by
their first two letters alone; the others must end there, so `1or_` is a bad number. -/
def keywordFollows (cs : List Char) : Bool :=
  match cs with
  | 'a' :: 'n' :: 'd' :: rest => wordEnds rest
  | 'e' :: 'l' :: 's' :: 'e' :: rest => wordEnds rest
  | 'f' :: 'o' :: 'r' :: rest => wordEnds rest
  | 'i' :: c :: _ => c == 'f' || c == 'n' || c == 's'
  | 'o' :: 'r' :: rest => wordEnds rest
  | 'n' :: 'o' :: 't' :: rest => wordEnds rest
  | _ => false

/-- The check after a number: an ASCII letter, digit or underscore may not follow directly, unless
a keyword that may follow a number begins there (a character outside ASCII just ends the
number). -/
def endOfNumber (kind : String) (read : List Char) (rest : List Char) :
    Except (String × Nat) (List Char × List Char) :=
  match rest with
  | c :: _ =>
    if keywordFollows rest then .ok (read, rest)
    else if c.toNat < 128 && isNameChar c then .error ("invalid " ++ kind ++ " literal", read.length)
    else .ok (read, rest)
  | [] => .ok (read, rest)

def readExponent (read : List Char) (cs : List Char) :
    Except (String × Nat) (List Char × List Char) :=
  let imaginary (read : List Char) (rest : List Char) :=
    match rest with
    | j :: rest' =>
      if j == 'j' || j == 'J' then endOfNumber "imaginary" (read ++ [j]) rest'
      else endOfNumber "decimal" read rest
    | [] => .ok (read, [])
  match cs with
  | e :: rest =>
    if e == 'e' || e == 'E' then
      let (sign, afterSign) := match rest with
        | s :: r => if s == '+' || s == '-' then ([s], r) else ([], rest)
        | [] => ([], [])
      match afterSign with
      | d :: _ =>
        if d.isDigit then
          let (digits, after, ok) := readDigitRun Char.isDigit afterSign
          if !ok then .error ("invalid decimal literal", read.length + 1 + sign.length +
            digits.length)
          else imaginary (read ++ [e] ++ sign ++ digits) after
        else if sign.isEmpty then
          match endOfNumber "decimal" read (e :: rest) with
          | .error err => .error err
          | .ok _ => .ok (read, e :: rest)
        else .error ("invalid decimal literal", read.length + 2)
      | [] =>
        if sign.isEmpty then .ok (read, e :: rest)
        else .error ("invalid decimal literal", read.length + 2)
    else imaginary read cs
  | [] => .ok (read, [])

def readFraction (read : List Char) (cs : List Char) :
    Except (String × Nat) (List Char × List Char) :=
  match cs with
  | '.' :: rest =>
    let (digits, after, ok) :=
      match rest with
      | d :: _ => if d.isDigit then readDigitRun Char.isDigit rest else ([], rest, true)
      | [] => ([], [], true)
    if !ok then .error ("invalid decimal literal", read.length + 1 + digits.length)
    else readExponent (read ++ ['.'] ++ digits) after
  | _ => readExponent read cs

def readBased (kind : String) (isDigit : Char → Bool) (read : List Char) (cs : List Char) :
    Except (String × Nat) (List Char × List Char) :=
  let afterUnderscore := match cs with
    | '_' :: r => ('_' :: [], r)
    | r => ([], r)
  match afterUnderscore.2 with
  | d :: _ =>
    if isDigit d then
      let (digits, rest, ok) := readDigitRun isDigit afterUnderscore.2
      let readSoFar := read.length + afterUnderscore.1.length + digits.length
      if !ok then
        -- a decimal digit after an underscore is read before it is refused
        match rest with
        | e :: _ =>
          if e.isDigit && kind != "hexadecimal" then
            .error ("invalid digit '" ++ String.singleton e ++ "' in " ++ kind ++ " literal",
              readSoFar + 1)
          else .error ("invalid " ++ kind ++ " literal", readSoFar)
        | [] => .error ("invalid " ++ kind ++ " literal", readSoFar)
      else
        let read := read ++ afterUnderscore.1 ++ digits
        match rest with
        | c :: _ =>
          if c.isDigit && kind != "hexadecimal" then
            .error ("invalid digit '" ++ String.singleton c ++ "' in " ++ kind ++ " literal",
              read.length + 1)
          else endOfNumber kind read rest
        | [] => .ok (read, rest)
    else if d.isDigit && kind != "hexadecimal" then
      .error ("invalid digit '" ++ String.singleton d ++ "' in " ++ kind ++ " literal",
        read.length + afterUnderscore.1.length + 1)
    else .error ("invalid " ++ kind ++ " literal", read.length + afterUnderscore.1.length)
  | [] => .error ("invalid " ++ kind ++ " literal", read.length + afterUnderscore.1.length)

/-- The zeros after a number's leading `0`, each underscore followed by a digit: the zeros and
underscores read and the rest, which a digit other than zero after an underscore begins; `false`
when an underscore is not followed by a digit. -/
def readZeros : List Char → List Char × List Char × Bool
  | '_' :: d :: rest =>
    if d == '0' then
      let (more, rest', ok) := readZeros rest
      ('_' :: '0' :: more, rest', ok)
    else (['_'], d :: rest, d.isDigit)
  | ['_'] => (['_'], [], false)
  | '0' :: rest =>
    let (more, rest', ok) := readZeros rest
    ('0' :: more, rest', ok)
  | cs => ([], cs, true)

/-- A number starting with a digit. The error gives the message and the number of the number's
characters read when the fault is found, which is the column, counted from 1 at the number's
start, that the fault points at. -/
def readNumber (cs : List Char) : Except (String × Nat) (List Char × List Char) :=
  match cs with
  | '0' :: x :: rest =>
    if x == 'x' || x == 'X' then readBased "hexadecimal" (fun c => c.isDigit ||
      ('a' ≤ c && c ≤ 'f') || ('A' ≤ c && c ≤ 'F')) ['0', x] rest
    else if x == 'o' || x == 'O' then readBased "octal" (fun c => '0' ≤ c && c ≤ '7') ['0', x] rest
    else if x == 'b' || x == 'B' then readBased "binary" (fun c => c == '0' || c == '1') ['0', x]
      rest
    else
      -- zeros, possibly with underscores, then maybe more digits
      let (tailZeros, afterZeros, ok) := readZeros (x :: rest)
      let zeros := '0' :: tailZeros
      if !ok then .error ("invalid decimal literal", zeros.length)
      else
        let (more, afterMore, ok2) := match afterZeros with
          | d :: _ => if d.isDigit then readDigitRun Char.isDigit afterZeros
              else ([], afterZeros, true)
          | [] => ([], [], true)
        if !ok2 then .error ("invalid decimal literal", zeros.length + more.length)
        else
          let read := zeros ++ more
          match afterMore with
          | '.' :: _ => readFraction read afterMore
          | e :: _ =>
            if e == 'e' || e == 'E' || e == 'j' || e == 'J' then readExponent read afterMore
            else if !more.isEmpty then
              .error ("leading zeros in decimal integer literals are not permitted; use an 0o " ++
                "prefix for octal integers", 0)
            else endOfNumber "decimal" read afterMore
          | [] => .ok (read, [])
  | _ =>
    let (digits, rest, ok) := readDigitRun Char.isDigit cs
    if !ok then .error ("invalid decimal literal", digits.length)
    else readFraction digits rest

/-- The body of a string literal after its opening quote(s): the characters up to and including
the closing quote(s), the rest, and the number of line ends crossed; `none` if the literal does
not end (with the number of line ends crossed before the fault). -/
def readStringBody (quote : Char) (triple : Bool) : List Char → Nat →
    Option (List Char × List Char) × Nat
  | [], lines => (none, lines)
  | c :: rest, lines =>
    if c == quote then
      if !triple then (some ([c], rest), lines)
      else match rest with
        | q2 :: q3 :: rest' =>
          if q2 == quote && q3 == quote then (some ([c, q2, q3], rest'), lines)
          else
            let (r, n) := readStringBody quote triple rest lines
            (r.map fun (body, rest'') => (c :: body, rest''), n)
        | _ =>
          let (r, n) := readStringBody quote triple rest lines
          (r.map fun (body, rest'') => (c :: body, rest''), n)
    else if c == '\n' && !triple then (none, lines)
    else if c == '\\' then
      match rest with
      | d :: rest' =>
        let (r, n) := readStringBody quote triple rest' (if d == '\n' then lines + 1 else lines)
        (r.map fun (body, rest'') => (c :: d :: body, rest''), n)
      | [] => (none, lines)
    else
      let (r, n) := readStringBody quote triple rest (if c == '\n' then lines + 1 else lines)
      (r.map fun (body, rest'') => (c :: body, rest''), n)

/-- The column after reading `text` from column `col`: past the last line end if there is one. -/
def columnAfter (col : Nat) (text : List Char) : Nat :=
  match text.reverse.findIdx? (· == '\n') with
  | some k => k
  | none => col + text.length

def Lexer.readString (s : Lexer) (pfx : List Char) (cs : List Char) : LexStep :=
  match cs with
  | q :: rest =>
    let (opening, body) := match rest with
      | a :: b :: r => if a == q && b == q then ([q, q, q], r) else ([q], rest)
      | _ => ([q], rest)
    let triple := opening.length == 3
    match readStringBody q triple body 0 with
    | (some (inner, after), _) =>
      let text := pfx ++ opening ++ inner
      let lines := (text.filter (· == '\n')).length
      let t : Token := ⟨.string, String.ofList text, s.line, s.col, s.line + lines,
        columnAfter s.col text⟩
      .emit t { s with rest := after, line := s.line + lines, col := columnAfter s.col text }
    | (none, lines) =>
      let detected := min (s.line + lines) s.lastLine
      let message := if triple then
          "unterminated triple-quoted string literal (detected at line " ++ Nat.repr detected ++ ")"
        else "unterminated string literal (detected at line " ++ Nat.repr detected ++ ")"
      .stop (.raised ⟨.syntaxError, message, s.line, s.col + 1, s.line, s.col + 1, .lexer⟩)
  | [] => .stop .complete

/-- Read a name, or a string literal if the word is a string prefix directly followed by a
quote. -/
def Lexer.readWord (s : Lexer) (cs : List Char) : LexStep :=
  let word := cs.takeWhile isNameChar
  let rest := cs.dropWhile isNameChar
  let quoteNext := match rest with
    | q :: _ => q == '\'' || q == '"'
    | [] => false
  if quoteNext && isStringPrefix word then
    s.readString word rest
  else
    match (if word.any (·.toNat ≥ 128) then invalidNameChar? word else none) with
    | some k =>
      let c := word.getD k ' '
      let message := if isPrintable c.toNat then
          "invalid character '" ++ String.singleton c ++ "' (U+" ++ upperHex c.toNat ++ ")"
        else "invalid non-printable character U+" ++ upperHex c.toNat
      s.raise message (s.col + k + 1)
    | none => .emit (s.token .name word) (s.advance word rest)

def Lexer.readOperator (s : Lexer) (c : Char) (rest : List Char) : LexStep :=
  let three := String.ofList (c :: rest.take 2)
  let two := String.ofList (c :: rest.take 1)
  if rest.length ≥ 2 && threeCharOps.contains three then
    .emit (s.token .op three.toList) (s.advance three.toList (rest.drop 2))
  else if rest.length ≥ 1 && twoCharOps.contains two then
    .emit (s.token .op two.toList) (s.advance two.toList (rest.drop 1))
  else if c == '(' || c == '[' || c == '{' then
    if s.brackets.length ≥ 200 then s.raise "too many nested parentheses" (s.col + 1)
    else .emit (s.token .op [c])
      { s.advance [c] rest with brackets := (c, s.line, s.col) :: s.brackets }
  else if c == ')' || c == ']' || c == '}' then
    match s.brackets with
    | [] => s.raise ("unmatched '" ++ String.singleton c ++ "'") (s.col + 1)
    | (opening, line, _) :: outer =>
      if (opening == '(' && c == ')') || (opening == '[' && c == ']') ||
          (opening == '{' && c == '}') then
        .emit (s.token .op [c]) { s.advance [c] rest with brackets := outer }
      else
        let base := "closing parenthesis '" ++ String.singleton c ++
          "' does not match opening parenthesis '" ++ String.singleton opening ++ "'"
        let message := if line != s.line then base ++ " on line " ++ Nat.repr line else base
        s.raise message (s.col + 1)
  else if !isPrintable c.toNat then
    s.raise ("invalid non-printable character U+" ++ upperHex c.toNat) (s.col + 1)
  else .emit (s.token .op [c]) (s.advance [c] rest)

def Lexer.readToken (s : Lexer) : LexStep :=
  let spaces := s.rest.takeWhile fun c => c == ' ' || c == '\t' || c == '\x0c'
  let s := s.advance spaces (s.rest.drop spaces.length)
  match s.rest with
  | [] =>
    match s.brackets with
    | (b, line, col) :: _ => .stop (.unclosed b line col)
    | [] => .emit ⟨.endMarker, "", s.lastLine, s.lastLineEnd, s.lastLine, s.lastLineEnd⟩ s
  | '#' :: _ =>
    let comment := s.rest.takeWhile (· != '\n')
    match s.rest.drop comment.length with
    | '\n' :: rest =>
      -- a line end after a comment starts at the comment
      let next := { s with rest := rest, line := s.line + 1, col := 0, atLineStart := true }
      if s.blank || !s.brackets.isEmpty then .skip next
      else .emit ⟨.newline, "", s.line, s.col, s.line, s.col + comment.length⟩ next
    | after => .skip (s.advance comment after)
  | '\n' :: rest =>
    let next := { s with rest := rest, line := s.line + 1, col := 0, atLineStart := true }
    if s.blank || !s.brackets.isEmpty then .skip next
    else .emit ⟨.newline, "", s.line, s.col, s.line, s.col + 1⟩ next
  | '\\' :: rest =>
    match rest with
    | '\n' :: more =>
      if more.isEmpty then .halt (.cutOff s.line s.col)
      else .skip { s with rest := more, line := s.line + 1, col := 0 }
    | _ =>
      .halt (.fault (SyntaxFault.spanning "unexpected character after line continuation character"
        s.line (s.col + 1) (s.col + 1)))
  | '.' :: rest =>
    match rest with
    | d :: _ =>
      if d.isDigit then
        match readFraction [] s.rest with
        | .ok (text, after) => .emit (s.token .number text) (s.advance text after)
        | .error (message, k) => s.raise message (s.col + k)
      else if rest.take 2 == ['.', '.'] then
        .emit (s.token .op ['.', '.', '.']) (s.advance ['.', '.', '.'] (rest.drop 2))
      else .emit (s.token .op ['.']) (s.advance ['.'] rest)
    | [] => .emit (s.token .op ['.']) (s.advance ['.'] rest)
  | c :: rest =>
    if isNameStart c then s.readWord s.rest
    else if c.isDigit then
      match readNumber s.rest with
      | .ok (text, after) => .emit (s.token .number text) (s.advance text after)
      | .error (message, k) =>
        if message.startsWith "leading zeros" then
          let zeros := s.rest.takeWhile fun d => d == '0' || d == '_'
          -- the range ends after the first digit that is not a zero
          .stop (.raised ⟨.syntaxError, message, s.line, s.col + 1, s.line,
            s.col + zeros.length + 1, .lexer⟩)
        else s.raise message (s.col + k)
    else if c == '\'' || c == '"' then s.readString [] s.rest
    else s.readOperator c rest

def Lexer.startLine (s : Lexer) : LexStep :=
  let m := measureIndent 0 0 0 s.line 0 s.rest
  match m.fault with
  | some e => .halt e
  | none =>
    let s' := { s with rest := m.rest, line := m.line, col := m.column, atLineStart := false }
    let blank := match m.rest with
      | '#' :: _ => true
      | '\n' :: _ => true
      | _ => false
    let s' := { s' with blank := blank }
    if blank || !s.brackets.isEmpty then .skip s'
    else
      -- a backslash after some indentation fixes the level; one at the line's start does not
      let col := if m.contCol == 0 then m.col else m.contCol
      let alt := if m.contCol == 0 then m.alt else m.contCol
      let (top, topAlt) := s.indents.headD (0, 0)
      -- faults of indentation point at the line's start, or past its end for a dedent
      let lineEnd := m.column + (m.rest.takeWhile (· != '\n')).length + 1
      let tabFault : LexStep := .halt (.fault ⟨.tabError,
        "inconsistent use of tabs and spaces in indentation", s'.line, 1, s'.line, 0, .file⟩)
      if col == top then
        if alt != topAlt then tabFault else .skip s'
      else if col > top then
        if s.indents.length ≥ 100 then
          .halt (.fault ⟨.indentationError, "too many levels of indentation", s'.line, 1,
            s'.line, 0, .file⟩)
        else if alt ≤ topAlt then tabFault
        else .skip { s' with indents := (col, alt) :: s.indents, pending := 1 }
      else
        let kept := s.indents.dropWhile fun (c, _) => col < c
        let closed := s.indents.length - kept.length
        let (outer, outerAlt) := kept.headD (0, 0)
        if col != outer then
          .halt (.fault ⟨.indentationError,
            "unindent does not match any outer indentation level", s'.line, lineEnd, s'.line, 0,
            .file⟩)
        else if alt != outerAlt then tabFault
        else
          let remaining := if kept.isEmpty then [(0, 0)] else kept
          .skip { s' with indents := remaining, pending := -(closed : Int) }

def Lexer.step (s : Lexer) : LexStep :=
  if s.atLineStart then s.startLine
  else if s.pending > 0 then
    .emit ⟨.indent, "", s.line, s.col, s.line, s.col⟩ { s with pending := s.pending - 1 }
  else if s.pending < 0 then
    let (line, col) := if s.rest.isEmpty then (s.lastLine, s.lastLineEnd) else (s.line, s.col)
    .emit ⟨.dedent, "", line, col, line, col⟩ { s with pending := s.pending + 1 }
  else s.readToken

def Lexer.run : Nat → Lexer → Array Token → Array Token × LexEnd
  | 0, _, acc => (acc, .complete)
  | fuel + 1, s, acc =>
    match s.step with
    | .emit t s' =>
      if t.kind == .endMarker then (acc.push t, .complete)
      else Lexer.run fuel s' (acc.push t)
    | .skip s' => Lexer.run fuel s' acc
    | .stop e => (acc, e)
    | .halt e => (acc, .halted e s.brackets.head?)

def tokenize (source : List Char) : Array Token × LexEnd :=
  let lastLine := (source.filter (· == '\n')).length
  -- the text ends with a line end: reading stops after the last line and its line end
  let lastLineEnd := match (source.splitOn '\n').dropLast.getLast? with
    | some l => l.length + 1
    | none => 0
  let start : Lexer := ⟨source, 1, 0, lastLine, lastLineEnd, true, false, [(0, 0)], [], 0⟩
  Lexer.run (3 * source.length + 10) start #[]

end Obfuscation.Syntax
