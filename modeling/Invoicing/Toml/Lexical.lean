import Invoicing.Toml.Parser

/-!
# Blanks, comments, strings and keys of TOML

* Blanks are spaces and tabs; a line break is a line feed or a carriage return before one.
* A comment runs from `#` over tabs and all printable characters; a control character ends it,
  and must then be a line break.
* A basic string `"…"` holds printable characters and escapes `\b`, `\f`, `\n`, `\r`, `\t`,
  `\\`, `\"`, `\uXXXX` and `\UXXXXXXXX` (naming a character); a literal string `'…'` holds
  printable characters as they are. Their multi-line forms `"""…"""` and `'''…'''` drop a line
  break right after the opening, hold line breaks (a carriage return and line feed become a line
  feed) and up to two quotes in a row, and a backslash at the end of a line of a basic one drops
  the blanks and breaks after it.
* A key is a bare name of ASCII letters, digits, `-` and `_`, or a quoted string; a dotted key
  is keys with `.` between them, blanks around each. A key of 80 parts or more is refused.
-/

namespace Invoicing

namespace Toml

/-- Whether a character is a blank: a space or a tab. -/
def isBlank (c : Char) : Bool := c = ' ' || c = '\t'

/-- Whether a character is not ASCII. -/
def isNonAscii (c : Char) : Bool := 0x80 ≤ c.toNat

/-- Blanks. -/
def ws : Parser (List Char) := takeAll isBlank

/-- A line break: a line feed, or a carriage return and a line feed. -/
def newline : Parser Unit := (char '\n').orElse (do char '\r'; char '\n')

/-- Whether a character may stand in a comment: a tab, a printable ASCII character, or any
other character that is not ASCII. -/
def isCommentChar (c : Char) : Bool :=
  c = '\t' || (0x20 ≤ c.toNat && c.toNat ≤ 0x7E) || isNonAscii c

/-- A comment: `#` and the characters of a comment. -/
def comment : Parser Unit := do
  char '#'
  let _ ← takeAll isCommentChar

/-- The end of a line: a line break or the end of the text. -/
def lineEnding : Parser Unit := newline.orElse eof

/-- What may follow a value or a header on its line: blanks, a comment, and the end of the
line. -/
def lineTrailing : Parser Unit := do
  let _ ← ws
  let _ ← comment.optional
  lineEnding

/-- Blanks, comments and line breaks, as between the values of an array; `fuel` bounds the
lines. -/
def wsCommentNewlineFuel : Nat → Parser Unit
  | 0 => pure ()
  | fuel + 1 => do
    let start := (← get).pos
    let _ ← ws
    match ← peekChar with
    | some '#' =>
      comment
      newline
    | some '\n' => newline
    | some '\r' => newline
    | _ => return ()
    if (← get).pos ≠ start then wsCommentNewlineFuel fuel

/-- Blanks, comments and line breaks. -/
def wsCommentNewline : Parser Unit := do
  wsCommentNewlineFuel ((← get).rest.length + 1)

/-- Whether a character may stand unescaped in a basic string. -/
def isBasicUnescaped (c : Char) : Bool :=
  isBlank c || c = '!' || (0x23 ≤ c.toNat && c.toNat ≤ 0x5B) ||
    (0x5D ≤ c.toNat && c.toNat ≤ 0x7E) || isNonAscii c

/-- Whether a character may stand in a literal string. -/
def isLiteralChar (c : Char) : Bool :=
  c = '\t' || (0x20 ≤ c.toNat && c.toNat ≤ 0x26) || (0x28 ≤ c.toNat && c.toNat ≤ 0x7E) ||
    isNonAscii c

/-- The value of a hexadecimal digit. -/
def hexDigit? (c : Char) : Option Nat :=
  if c.isDigit then some (c.toNat - 48)
  else if 'a' ≤ c && c ≤ 'f' then some (c.toNat - 87)
  else if 'A' ≤ c && c ≤ 'F' then some (c.toNat - 55)
  else none

/-- Whether a character is a hexadecimal digit. -/
def isHexDigit (c : Char) : Bool := (hexDigit? c).isSome

/-- Exactly `n` hexadecimal digits naming a character. -/
def hexEscape (n : Nat) : Parser Char :=
  ((takeWhile 0 n isHexDigit).verify (·.length = n)).tryMap fun ds =>
    let v := ds.foldl (fun acc c => acc * 16 + (hexDigit? c).getD 0) 0
    if v < 0xD800 ∨ (0xDFFF < v ∧ v < 0x110000) then .ok (Char.ofNat v)
    else .error "value is out of range"

/-- The character after a backslash. -/
def escapeChar : Parser Char := do
  let c ← anyChar
  match c with
  | 'b' => pure '\x08'
  | 'f' => pure '\x0C'
  | 'n' => pure '\n'
  | 'r' => pure '\r'
  | 't' => pure '\t'
  | '\\' => pure '\\'
  | '"' => pure '"'
  | 'u' => ((hexEscape 4).cutErr).label "unicode 4-digit hex code"
  | 'U' => ((hexEscape 8).cutErr).label "unicode 8-digit hex code"
  | _ =>
    ((((((((((backtrack : Parser Char).cutErr.label "escape sequence").expect "`b`").expect
      "`f`").expect "`n`").expect "`r`").expect "`t`").expect "`u`").expect "`U`").expect
      "`\\`").expect "`\"`"

/-- An escape: a backslash and the character after it. -/
def escaped : Parser Char := do
  char '\\'
  escapeChar

/-- A run of a basic string: unescaped characters, or one escape. -/
def basicChars : Parser (List Char) :=
  (takeWhile 1 0x10FFFFFF isBasicUnescaped).orElse (do return [← escaped])

/-- A basic string. -/
def basicString : Parser String := do
  char '"'
  let parts ← many basicChars
  ((char '"').cutErr).label "basic string"
  pure (String.ofList parts.flatten)

/-- One or two quotes `q` inside a multi-line string, when `term` follows them. -/
def quotesBefore (q : Char) (term : Parser Unit) : Parser (List Char) :=
  (do char q; char q; let c ← get; let _ ← term; set c; pure [q, q]).orElse
    (do char q; let c ← get; let _ ← term; set c; pure [q])

/-- A backslash at the end of a line of a multi-line basic string, with the blanks and breaks
after it. -/
def escapedNewline : Parser Unit := do
  let _ ← many1 do
    char '\\'
    let _ ← ws
    newline
    let _ ← many ((newline.map fun _ => ['\n']).orElse (takeWhile 1 0x10FFFFFF isBlank))

/-- A run of a multi-line basic string. -/
def mlBasicContent : Parser (List Char) :=
  choice [takeWhile 1 0x10FFFFFF isBasicUnescaped, escapedNewline.map fun _ => [],
    do return [← escaped], newline.map fun _ => ['\n']]

/-- The rest of the body of a multi-line basic string after its first run: one or two quotes
with runs after them, while there are; `fuel` bounds the rounds. -/
def mlBasicMore : Nat → List Char → Parser (List Char)
  | 0, acc => pure acc
  | fuel + 1, acc => do
    match ← (quotesBefore '"' ((satisfy (· ≠ '"')).map fun _ => ())).optional with
    | none => pure acc
    | some qs =>
      match ← mlBasicContent.optional with
      | none => pure acc
      | some c =>
        let rest ← many mlBasicContent
        mlBasicMore fuel (acc ++ qs ++ c ++ rest.flatten)

/-- The body of a multi-line basic string. -/
def mlBasicBody : Parser String := do
  let first ← many mlBasicContent
  let body ← mlBasicMore ((← get).rest.length + 1) first.flatten
  let last ← (quotesBefore '"' (literal "\"\"\"")).optional
  pure (String.ofList (body ++ last.getD []))

/-- A multi-line basic string. -/
def mlBasicString : Parser String :=
  (do
    literal "\"\"\""
    let _ ← newline.optional
    let body ← mlBasicBody.cutErr
    (literal "\"\"\"").cutErr
    pure body).label "multiline basic string"

/-- A literal string. -/
def literalString : Parser String :=
  (do
    char '\''
    let s ← (takeAll isLiteralChar).cutErr
    (char '\'').cutErr
    pure (String.ofList s)).label "literal string"

/-- A run of a multi-line literal string. -/
def mlLiteralContent : Parser Unit := ((satisfy isLiteralChar).map fun _ => ()).orElse newline

/-- The body of a multi-line literal string, with carriage returns before line feeds dropped. -/
def mlLiteralBody : Parser String := do
  let text ← Parser.recognize do
    let _ ← many mlLiteralContent
    let _ ← many do
      let _ ← quotesBefore '\'' ((satisfy (· ≠ '\'')).map fun _ => ())
      let _ ← many1 mlLiteralContent
    let _ ← (quotesBefore '\'' (literal "'''")).optional
  pure ((String.ofList text).replace "\r\n" "\n")

/-- A multi-line literal string. -/
def mlLiteralString : Parser String :=
  (do
    literal "'''"
    let _ ← newline.optional
    let body ← mlLiteralBody.cutErr
    (literal "'''").cutErr
    pure body).label "multiline literal string"

/-- A string of any of the four kinds. -/
def string : Parser String := choice [mlBasicString, basicString, mlLiteralString, literalString]

/-- A key: its text, and how it was written. -/
structure Key where
  name : String
  raw : String
  deriving DecidableEq, Repr

/-- Whether a character may stand in a bare key. -/
def isBareKeyChar (c : Char) : Bool :=
  ('a' ≤ c && c ≤ 'z') || ('A' ≤ c && c ≤ 'Z') || c.isDigit || c = '-' || c = '_'

/-- A simple key: a basic or literal string, or a bare key. -/
def simpleKey : Parser Key := do
  let start ← get
  let name ← match ← peekChar with
    | some '"' => basicString
    | some '\'' => literalString
    | some _ => (takeWhile 1 0x10FFFFFF isBareKeyChar).map String.ofList
    | none => backtrack
  let stop ← get
  pure ⟨name, String.ofList (start.rest.take (stop.pos - start.pos))⟩

/-- The most parts a dotted key may have, and the deepest nesting of values. -/
def depthLimit : Nat := 80

/-- A key: simple keys with `.` between them, blanks around each. -/
def key : Parser (List Key) :=
  ((separated1 (do let _ ← ws; let k ← simpleKey; let _ ← ws; pure k) (char '.')).label
    "key").tryMap fun ks =>
      if depthLimit ≤ ks.length then .error "recursion limit exceeded" else .ok ks

end Toml

end Invoicing
