import Obfuscation.Syntax.Token
import Obfuscation.Syntax.Tree
import Obfuscation.Bytes.Hex
import Obfuscation.Text.Names
/-!
String literals: from the text of string tokens to constants and joined strings. Adjacent literals
join, into a joined string when any is formatted. A formatted field is `{expression=!c:spec}`; its
expression is read by a reader that the caller supplies.
-/

namespace Obfuscation.Syntax

open Obfuscation.Text

/-- The prefix flags of a string token, its body between the quotes, and the number of quote
characters on each side. -/
structure LiteralParts where
  bytes : Bool
  raw : Bool
  formatted : Bool
  body : List Char
  width : Nat

def LiteralParts.ofToken (text : String) : LiteralParts :=
  let cs := text.toList
  let pfx := cs.takeWhile fun c => c != '\'' && c != '"'
  let quoted := cs.drop pfx.length
  let lower := pfx.map Char.toLower
  let q := quoted.headD '\''
  let triple := quoted.length ≥ 6 && quoted.take 3 == [q, q, q]
  let width := if triple then 3 else 1
  let body := (quoted.drop width).take (quoted.length - 2 * width)
  ⟨lower.contains 'b', lower.contains 'r', lower.contains 'f', body, width⟩

/-- A decoding error: its message and the byte range it covers in the escape form. -/
structure EscapeError where
  message : String
  start : Nat
  stop : Nat

def hexDigit? (c : Char) : Option Nat := Bytes.hexValue? c.toNat

def readHexDigits : Nat → List Char → Nat × Nat × List Char
  | 0, cs => (0, 0, cs)
  | count + 1, c :: rest =>
    match hexDigit? c with
    | some v =>
      let (value, n, rest') := readHexDigits count rest
      (v * Nat.pow 16 n + value, n + 1, rest')
    | none => (0, 0, c :: rest)
  | _ + 1, [] => (0, 0, [])

def readOctal (value : Nat) : Nat → List Char → Nat × Nat
  | count + 1, c :: rest =>
    if '0' ≤ c && c ≤ '7' then
      let (v, n) := readOctal (value * 8 + (c.toNat - 48)) count rest
      (v, n + 1)
    else (value, 0)
  | _, _ => (value, 0)

/-- The width of a character in the escape form of a literal body: one for ASCII, ten for a
character written as `\UXXXXXXXX`. -/
def escapeWidth (c : Char) : Nat := if c.toNat < 128 then 1 else 10

/-- The width of text in the escape form, read from a point where no backslash is pending: a
backslash is read together with the character after it, and a backslash before a non-ASCII
character is written `\u005c` ahead of that character's ten. -/
def escapeFormWidth : List Char → Nat
  | [] => 0
  | '\\' :: c :: rest =>
    (if c.toNat < 128 then 2 else 16) + escapeFormWidth rest
  | c :: rest => escapeWidth c + escapeFormWidth rest

/-- The character a `\N{...}` escape names. A name is made of ASCII characters; any other
character stands in the escape form as `\U` and hexadecimal digits, which name nothing. -/
def characterNamedBy (name : List Char) : Option Char :=
  if name.all (·.toNat < 128) then characterNamed (String.ofList name) else none

/-- Decode the escapes of a string literal body. `pos` is the offset in the escape form, where
non-ASCII characters count ten. -/
def decodeEscapes (pos : Nat) : List Char → Except EscapeError Text
  | [] => .ok []
  | '\\' :: rest =>
    match rest with
    | [] => .ok [0x5C]
    | c :: more =>
      let simple (v : Nat) : Except EscapeError Text := (v :: ·) <$> decodeEscapes (pos + 2) more
      if c == '\n' then decodeEscapes (pos + 2) more
      else if c == '\\' then simple 0x5C
      else if c == '\'' then simple 0x27
      else if c == '"' then simple 0x22
      else if c == 'a' then simple 7
      else if c == 'b' then simple 8
      else if c == 'f' then simple 12
      else if c == 'n' then simple 10
      else if c == 'r' then simple 13
      else if c == 't' then simple 9
      else if c == 'v' then simple 11
      else if '0' ≤ c && c ≤ '7' then
        let (value, used) := readOctal (c.toNat - 48) 2 more
        (value :: ·) <$> decodeEscapes (pos + 2 + used) (more.drop used)
      else if c == 'x' || c == 'u' || c == 'U' then
        let count := if c == 'x' then 2 else if c == 'u' then 4 else 8
        let (value, n, _) := readHexDigits count more
        if n < count then
          let what := if c == 'x' then "truncated \\xXX escape"
            else if c == 'u' then "truncated \\uXXXX escape" else "truncated \\UXXXXXXXX escape"
          .error ⟨what, pos, pos + 2 + n⟩
        else if value > 0x10FFFF then .error ⟨"illegal Unicode character", pos, pos + 2 + n⟩
        else (value :: ·) <$> decodeEscapes (pos + 2 + n) (more.drop n)
      else if c == 'N' then
        match more with
        | '{' :: afterBrace =>
          let name := afterBrace.takeWhile (· != '}')
          let width := escapeFormWidth name
          if name.length = afterBrace.length then
            .error ⟨"malformed \\N character escape", pos, pos + 3 + width⟩
          else if name.isEmpty then .error ⟨"malformed \\N character escape", pos, pos + 3⟩
          else match characterNamedBy name with
            | some v =>
              (v.toNat :: ·) <$> decodeEscapes (pos + 4 + width) (afterBrace.drop (name.length + 1))
            | none => .error ⟨"unknown Unicode character name", pos, pos + 4 + width⟩
        | _ => .error ⟨"malformed \\N character escape", pos, pos + 2⟩
      else if c.toNat ≥ 128 then
        (fun t => 0x5C :: c.toNat :: t) <$> decodeEscapes (pos + 6 + escapeWidth c) more
      else (fun t => 0x5C :: c.toNat :: t) <$> decodeEscapes (pos + 2) more
  | c :: rest => (c.toNat :: ·) <$> decodeEscapes (pos + escapeWidth c) rest
termination_by cs => cs.length
decreasing_by all_goals simp only [List.length_cons, List.length_drop]; all_goals omega

def decodeByteEscapes (pos : Nat) : List Char → Except String (List UInt8)
  | [] => .ok []
  | '\\' :: rest =>
    match rest with
    | [] => .ok [0x5C]
    | c :: more =>
      let simple (v : Nat) : Except String (List UInt8) :=
        (v.toUInt8 :: ·) <$> decodeByteEscapes (pos + 2) more
      if c == '\n' then decodeByteEscapes (pos + 2) more
      else if c == '\\' then simple 0x5C
      else if c == '\'' then simple 0x27
      else if c == '"' then simple 0x22
      else if c == 'a' then simple 7
      else if c == 'b' then simple 8
      else if c == 'f' then simple 12
      else if c == 'n' then simple 10
      else if c == 'r' then simple 13
      else if c == 't' then simple 9
      else if c == 'v' then simple 11
      else if '0' ≤ c && c ≤ '7' then
        let (value, used) := readOctal (c.toNat - 48) 2 more
        (value.toUInt8 :: ·) <$> decodeByteEscapes (pos + 2 + used) (more.drop used)
      else if c == 'x' then
        let (value, n, _) := readHexDigits 2 more
        if n < 2 then .error ("invalid \\x escape at position " ++ Nat.repr pos)
        else (value.toUInt8 :: ·) <$> decodeByteEscapes (pos + 4) (more.drop 2)
      else (fun t => 0x5C :: c.toNat.toUInt8 :: t) <$> decodeByteEscapes (pos + 2) more
  | c :: rest => (c.toNat.toUInt8 :: ·) <$> decodeByteEscapes (pos + 1) rest
termination_by cs => cs.length
decreasing_by all_goals simp only [List.length_cons, List.length_drop]; all_goals omega

def EscapeError.describe (e : EscapeError) : String :=
  let place := if e.stop == e.start + 1 then "byte in position " ++ Nat.repr e.start
    else "bytes in position " ++ Nat.repr e.start ++ "-" ++ Nat.repr (e.stop - 1)
  "(unicode error) 'unicodeescape' codec can't decode " ++ place ++ ": " ++ e.message

def decodeStringBody (raw : Bool) (body : List Char) (site : Token) : Except SyntaxFault Text :=
  if raw || !body.contains '\\' then .ok (body.map Char.toNat)
  else (decodeEscapes 0 body).mapError fun e => SyntaxFault.atToken e.describe site

/-- Text and fields collected while joining literals: the text not yet closed into a part, the
parts so far, and whether a formatted literal was seen. -/
structure Joined where
  text : Option Text
  parts : Array Expr
  formatted : Bool

def Joined.addText (j : Joined) (t : Text) : Joined :=
  if t.isEmpty then j else { j with text := some ((j.text.getD []) ++ t) }

def Joined.closeText (j : Joined) (uPrefix : Bool) : Joined :=
  match j.text with
  | some t => { j with text := none, parts := j.parts.push (.constant (.str t uPrefix)) }
  | none => j

def Joined.addField (j : Joined) (uPrefix : Bool) (e : Expr) : Joined :=
  let j := j.closeText uPrefix
  { j with parts := j.parts.push e }

def Joined.finish (j : Joined) (uPrefix : Bool) : Expr :=
  if !j.formatted then .constant (.str (j.text.getD []) uPrefix)
  else .joinedStr (j.closeText uPrefix).parts.toList

/-- Where the literal scanner stands: in plain text, after a backslash, after `\N`, or inside
the braces of a `\N{…}` name. -/
inductive LiteralScan where
  | plain
  | escape
  | escapeN
  | charName

/-- The literal text at the start of a formatted body, up to a brace that begins or ends a field.
At the top level a doubled brace ends the literal after its first brace (`true` says so), and a
single closing brace is a fault. Braces of a `\N{…}` escape are part of the text. -/
def findLiteral (raw : Bool) (topLevel : Bool) :
    LiteralScan → List Char → List Char → Except String (List Char × List Char × Bool)
  | _, acc, [] => .ok (acc.reverse, [], false)
  | .charName, acc, c :: rest =>
    findLiteral raw topLevel (if c == '}' then .plain else .charName) (c :: acc) rest
  | .escapeN, acc, c :: rest =>
    findLiteral raw topLevel (if c == '{' then .charName else .plain) (c :: acc) rest
  | state, acc, c :: rest =>
    if c == '{' || c == '}' then
      if topLevel then
        match rest with
        | d :: more =>
          if d == c then .ok ((c :: acc).reverse, more, true)
          else if c == '}' then .error "f-string: single '\x7d' is not allowed"
          else .ok (acc.reverse, c :: rest, false)
        | [] =>
          if c == '}' then .error "f-string: single '\x7d' is not allowed"
          else .ok (acc.reverse, c :: rest, false)
      else .ok (acc.reverse, c :: rest, false)
    else match state with
      | .escape => findLiteral raw topLevel (if c == 'N' then .escapeN else .plain) (c :: acc) rest
      | _ =>
        if !raw && c == '\\' && !rest.isEmpty then findLiteral raw topLevel .escape (c :: acc) rest
        else findLiteral raw topLevel .plain (c :: acc) rest

/-- Scanning state of a field's expression: the open brackets and the open quote, if any
(with whether it is tripled). -/
structure FieldScan where
  brackets : List Char
  quote : Option (Char × Bool)

/-- The text of a field's expression, up to `!`, `:`, `}` or `=` outside brackets and quotes
(but not `!=`, `==`, `<=`, `>=`). -/
def scanField (st : FieldScan) : List Char → List Char → Except String (List Char × List Char)
  | acc, [] =>
    if st.quote.isSome then .error "f-string: unterminated string"
    else match st.brackets with
      | b :: _ => .error ("f-string: unmatched '" ++ String.singleton b ++ "'")
      | [] => .ok (acc.reverse, [])
  | acc, c :: rest =>
    if c == '\\' then .error "f-string expression part cannot include a backslash"
    else match st.quote with
    | some (q, triple) =>
      if c == q then
        if triple then
          if rest.take 2 == [q, q] then scanField { st with quote := none } (q :: q :: c :: acc)
            (rest.drop 2)
          else scanField st (c :: acc) rest
        else scanField { st with quote := none } (c :: acc) rest
      else scanField st (c :: acc) rest
    | none =>
      if c == '\'' || c == '"' then
        if rest.take 2 == [c, c] then
          scanField { st with quote := some (c, true) } (c :: c :: c :: acc) (rest.drop 2)
        else scanField { st with quote := some (c, false) } (c :: acc) rest
      else if c == '[' || c == '{' || c == '(' then
        if st.brackets.length ≥ 200 then .error "f-string: too many nested parenthesis"
        else scanField { st with brackets := c :: st.brackets } (c :: acc) rest
      else if c == '#' then .error "f-string expression part cannot include '#'"
      else if st.brackets.isEmpty && (c == '!' || c == ':' || c == '}' || c == '=' || c == '>' ||
          c == '<') then
        let twoChar := match rest with
          | n :: _ => n == '=' && (c == '!' || c == '=' || c == '<' || c == '>')
          | [] => false
        if twoChar then scanField st ('=' :: c :: acc) (rest.drop 1)
        else if c == '>' || c == '<' then scanField st (c :: acc) rest
        else .ok (acc.reverse, c :: rest)
      else if c == ']' || c == '}' || c == ')' then
        match st.brackets with
        | [] => .error ("f-string: unmatched '" ++ String.singleton c ++ "'")
        | opening :: outer =>
          if (opening == '(' && c == ')') || (opening == '[' && c == ']') ||
              (opening == '{' && c == '}') then
            scanField { st with brackets := outer } (c :: acc) rest
          else .error ("f-string: closing parenthesis '" ++ String.singleton c ++
            "' does not match opening parenthesis '" ++ String.singleton opening ++ "'")
      else scanField st (c :: acc) rest
termination_by _ cs => cs.length
decreasing_by all_goals simp only [List.length_cons, List.length_drop]; all_goals omega

def isAsciiBlank (c : Char) : Bool :=
  c == ' ' || c == '\t' || c == '\n' || c == '\r' || c == '\x0b' || c == '\x0c'

/-- How to read the parts of formatted literals: the raw flag, the `u` flag of the first token,
the token that faults point at, the reader of field expressions, and the string token being read
with the number of its closing quote characters. -/
structure FieldReader where
  raw : Bool
  uPrefix : Bool
  site : Token
  read : List Char → Except SyntaxFault Expr
  token : Token
  width : Nat

/-- A fault of a field's expression moved to its place in the source. `cs` is the rest of the
token's body from the field's opening brace and `expr` the expression's text. The expression is
read as a text of its own, the expression between parentheses, whose first line is the line of
the source where the brace stands; the fault is shown with its line of that text. -/
def FieldReader.relocate (r : FieldReader) (cs expr : List Char) (f : SyntaxFault) :
    SyntaxFault :=
  let text := r.token.text.toList
  let before := text.take (text.length - r.width - cs.length)
  let breaks := before.count '\n'
  let afterBrace := (cs.drop 1).takeWhile fun c => c != '}' && c != '\n'
  let braceCol :=
    if afterBrace.all fun c => c == ' ' || c == '\t' || c == '\x0c' then 0
    else (before.reverse.takeWhile (· != '\n')).foldl (fun n c => n + c.utf8Size) 0
  let lines := ('(' :: expr ++ [')']).splitOn '\n'
  let here := (lines[f.line - 1]?).getD []
  let shown : LineSource := match f.shown with
    | .file =>
      -- the token's column counts only when the brace is on the token's first line
      .fieldParse (here.map Char.toNat) ((lines[f.endLine - 1]?).getD [] |>.map Char.toNat)
        (f.line == 1) (f.endLine == 1) r.token.line
        (if breaks == 0 then r.token.col else 0) braceCol
    | .lexer => .fieldText (here.map Char.toNat)
    | other => other
  { f.shiftLines (r.token.line + breaks - 1) with shown := shown }

def FieldReader.fault {α : Type} (r : FieldReader) (message : String) : Except SyntaxFault α :=
  .error (SyntaxFault.atToken message r.site)

def FieldReader.literalText (r : FieldReader) (chars : List Char) : Except SyntaxFault Text :=
  decodeStringBody r.raw chars r.site

mutual

/-- Read the parts of a formatted body at nesting `level` into `j`, giving the rest: at the top
level the rest is empty, inside a specification it starts with the closing brace. -/
def FieldReader.scanBody (r : FieldReader) : Nat → Nat → Joined → List Char →
    Except SyntaxFault (Joined × List Char)
  | 0, _, j, cs => .ok (j, cs)
  | fuel + 1, level, j, cs => do
    let (lit, rest, doubled) ← match findLiteral r.raw (level == 0) .plain [] cs with
      | .ok v => pure v
      | .error m => r.fault m
    let j := j.addText (← r.literalText lit)
    if doubled then r.scanBody fuel level j rest
    else match rest with
      | [] =>
        if level == 0 then .ok (j, []) else r.fault "f-string: expecting '\x7d'"
      | '}' :: _ =>
        if level == 0 then r.fault "f-string: unexpected end of string" else .ok (j, rest)
      | _ =>
        let (selfText, field, after) ← r.scanFieldAt fuel level rest
        r.scanBody fuel level ((j.addText (selfText.getD [])).addField r.uPrefix field) after

/-- Read one field starting at its opening brace: the text a `=` keeps, the field, and the
rest after the closing brace. -/
def FieldReader.scanFieldAt (r : FieldReader) : Nat → Nat → List Char →
    Except SyntaxFault (Option Text × Expr × List Char)
  | 0, _, _ => r.fault "f-string: expressions nested too deeply"
  | fuel + 1, level, cs => do
    if level ≥ 2 then r.fault "f-string: expressions nested too deeply"
    else
      let inner := cs.drop 1
      let (exprText, rest) ← match scanField ⟨[], none⟩ [] inner with
        | .ok v => pure v
        | .error m => r.fault m
      if rest.isEmpty then r.fault "f-string: expecting '\x7d'"
      else
        let stop := rest.headD '}'
        if exprText.all fun c => c == ' ' || c == '\t' || c == '\n' || c == '\x0c' then
          if stop == '!' || stop == ':' || stop == '=' then
            r.fault ("f-string: expression required before '" ++ String.singleton stop ++ "'")
          else r.fault "f-string: empty expression not allowed"
        else
          let value ← (r.read exprText).mapError (r.relocate cs exprText)
          -- `=` keeps the expression's text, with the blanks after the `=`
          let (selfText, rest) :=
            match rest with
            | '=' :: more =>
              let blanks := more.takeWhile isAsciiBlank
              (some (exprText ++ ['='] ++ blanks), more.drop blanks.length)
            | _ => (none, rest)
          if rest.isEmpty then r.fault "f-string: expecting '\x7d'"
          else
            let (conversion, rest) ← match rest with
              | '!' :: more =>
                match more with
                | [] => r.fault "f-string: expecting '\x7d'"
                | c :: more' =>
                  if c == 's' || c == 'r' || c == 'a' then pure ((c.toNat : Int), more')
                  else r.fault "f-string: invalid conversion character: expected 's', 'r', or 'a'"
              | _ => pure ((-1 : Int), rest)
            let (spec, rest) ← match rest with
              | ':' :: more =>
                if more.isEmpty then r.fault "f-string: expecting '\x7d'"
                else do
                  let (j, after) ← r.scanBody fuel (level + 1) ⟨none, #[], true⟩ more
                  pure (some (j.finish r.uPrefix), after)
              | _ => pure (none, rest)
            match rest with
            | '}' :: after =>
              let conversion := if selfText.isSome && spec.isNone && conversion == -1 then 114
                else conversion
              pure (selfText.map (·.map Char.toNat), .formattedValue value conversion spec, after)
            | _ => r.fault "f-string: expecting '\x7d'"

end

/-- The value of a string token that is not formatted: bytes for a byte string, text otherwise.
Faults of escapes point at `site`; a byte string holding a character outside ASCII is a fault at
the token itself. -/
def decodePlain (parts : LiteralParts) (t site : Token) :
    Except SyntaxFault (List UInt8 ⊕ Text) :=
  if parts.bytes then
    if parts.body.any (·.toNat ≥ 128) then
      .error (SyntaxFault.atToken "bytes can only contain ASCII literal characters" t)
    else if parts.raw || !parts.body.contains '\\' then
      .ok (.inl (parts.body.map (·.toNat.toUInt8)))
    else match decodeByteEscapes 0 parts.body with
      | .ok more => .ok (.inl more)
      | .error m => .error (SyntaxFault.atToken ("(value error) " ++ m) site)
  else
    (decodeStringBody parts.raw parts.body site).map .inr

/-- The expression of adjacent string tokens: a byte string, a string, or a joined string when
any token is formatted. Faults point at `site`; `read` reads field expressions. -/
def joinStrings (tokens : List Token) (site : Token)
    (read : List Char → Except SyntaxFault Expr) : Except SyntaxFault Expr := do
  let uPrefix := match tokens with
    | t :: _ => t.text.startsWith "u"
    | [] => false
  let reader (raw : Bool) (t : Token) (width : Nat) : FieldReader :=
    ⟨raw, uPrefix, site, read, t, width⟩
  let firstBytes := match tokens with
    | t :: _ => (LiteralParts.ofToken t.text).bytes
    | [] => false
  -- a token that is not formatted is decoded before it is compared with the first one, so its
  -- own faults come before a mix of kinds; a formatted one is read after the comparison
  let step (acc : Joined × List UInt8) (t : Token) : Except SyntaxFault (Joined × List UInt8) := do
    let (j, bs) := acc
    let parts := LiteralParts.ofToken t.text
    let decoded ← if parts.formatted then pure none else some <$> decodePlain parts t site
    if parts.bytes != firstBytes then
      .error (SyntaxFault.atToken "cannot mix bytes and nonbytes literals" site)
    else match decoded with
      | some (.inl more) => pure (j, bs ++ more)
      | some (.inr text) => pure (j.addText text, bs)
      | none =>
        let (j', _) ←
          (reader parts.raw t parts.width).scanBody (parts.body.length + 2) 0
            { j with formatted := true }
          parts.body
        pure (j', bs)
  let (j, bs) ← tokens.foldlM step (⟨none, #[], false⟩, [])
  if firstBytes then pure (.constant (.bytes bs)) else pure (j.finish uPrefix)

end Obfuscation.Syntax
