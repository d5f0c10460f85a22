import Invoicing.Json.Value

/-!
# JSON tokens

`tokens` cuts a JSON text into tokens, each with three places: where it starts, the place one
byte further (where an error about the token that has not been consumed is reported) and where
it stops. A place is a line, counted from 1, and a column, the number of bytes since the line
began. Blanks (space, tab, line feed, carriage return) separate tokens.

The reading of numbers and strings is exact about failures: the token stream ends with a
`bad` token carrying the syntax error and the place it is reported at, and nothing after it is
read. A number past the binary64 range is a `huge` token instead: reading it as a value fails,
but a value that is skipped may hold it, so the tokens go on after it. In the same way a string
with an escaped lone surrogate is a `badString` token that skipping steps over. Numbers are read as a significand of at most 64 bits and a decimal exponent; further
significand digits are dropped. The significand is converted to binary64 and then multiplied
or divided, once, by the binary64 value nearest to the power of ten, so the result is not
always the nearest binary64 value to the text.
-/

namespace Invoicing

/-- A place in a text: the line, from 1, and the bytes since the line began. -/
structure Pos where
  line : Nat
  col : Nat
  deriving DecidableEq, Repr, Inhabited

/-- The syntax errors of JSON text. -/
inductive SyntaxCode where
  | eofWhileParsingList
  | eofWhileParsingObject
  | eofWhileParsingString
  | eofWhileParsingValue
  | expectedColon
  | expectedListCommaOrEnd
  | expectedObjectCommaOrEnd
  | expectedSomeIdent
  | expectedSomeValue
  | invalidEscape
  | invalidNumber
  | numberOutOfRange
  | controlCharacterWhileParsingString
  | keyMustBeAString
  | loneLeadingSurrogateInHexEscape
  | trailingComma
  | trailingCharacters
  | unexpectedEndOfHexEscape
  | recursionLimitExceeded
  deriving DecidableEq, Repr

/-- The text of a syntax error. -/
def SyntaxCode.message : SyntaxCode → String
  | .eofWhileParsingList => "EOF while parsing a list"
  | .eofWhileParsingObject => "EOF while parsing an object"
  | .eofWhileParsingString => "EOF while parsing a string"
  | .eofWhileParsingValue => "EOF while parsing a value"
  | .expectedColon => "expected `:`"
  | .expectedListCommaOrEnd => "expected `,` or `]`"
  | .expectedObjectCommaOrEnd => "expected `,` or `\x7d`"
  | .expectedSomeIdent => "expected ident"
  | .expectedSomeValue => "expected value"
  | .invalidEscape => "invalid escape"
  | .invalidNumber => "invalid number"
  | .numberOutOfRange => "number out of range"
  | .controlCharacterWhileParsingString =>
    "control character (\\u0000-\\u001F) found while parsing a string"
  | .keyMustBeAString => "key must be a string"
  | .loneLeadingSurrogateInHexEscape => "lone leading surrogate in hex escape"
  | .trailingComma => "trailing comma"
  | .trailingCharacters => "trailing characters"
  | .unexpectedEndOfHexEscape => "unexpected end of hex escape"
  | .recursionLimitExceeded => "recursion limit exceeded"

/-- What a token is. -/
inductive TokenKind where
  | null
  | bool (b : Bool)
  | num (n : JsonNumber)
  | str (s : String)
  | beginArray
  | endArray
  | beginObject
  | endObject
  | comma
  | colon
  /-- A character that starts no token. -/
  | stray
  /-- A number past the binary64 range, and the place its failure is reported at. -/
  | huge (place : Pos)
  /-- A malformed token: the error and the place it is reported at. -/
  | bad (code : SyntaxCode) (place : Pos)
  /-- A string that cannot be read: reading it fails with `code` at `place`. Skipping it fails
  with `skipFault` when there is one, and otherwise goes on after its closing quote. -/
  | badString (code : SyntaxCode) (place : Pos) (skipFault : Option (SyntaxCode × Pos))
  /-- The end of the text. -/
  | eof
  deriving Repr, Inhabited

/-- A token with its first character and the places where it starts, one byte further, and
where it stops. -/
structure Token where
  kind : TokenKind
  lead : Char
  start : Pos
  peek : Pos
  stop : Pos
  deriving Repr, Inhabited

/-- Where the text is being read: the characters left and the place of the first of them. -/
structure Cursor where
  rest : List Char
  pos : Pos

namespace Cursor

/-- The place one byte further than the cursor, or the cursor's place at the end. -/
def peekPos (c : Cursor) : Pos :=
  match c.rest with
  | [] => c.pos
  | '\n' :: _ => ⟨c.pos.line + 1, 0⟩
  | _ :: _ => ⟨c.pos.line, c.pos.col + 1⟩

/-- Steps over one character. -/
def advance (c : Cursor) : Cursor :=
  match c.rest with
  | [] => c
  | ch :: rest =>
    if ch = '\n' then ⟨rest, ⟨c.pos.line + 1, 0⟩⟩ else ⟨rest, ⟨c.pos.line, c.pos.col + ch.utf8Size⟩⟩

/-- Skips blanks in the characters `cs` at place `p`. -/
def skipBlanksAt : List Char → Pos → Cursor
  | [], p => ⟨[], p⟩
  | ch :: rest, p =>
    if ch = ' ' || ch = '\t' || ch = '\r' then skipBlanksAt rest ⟨p.line, p.col + 1⟩
    else if ch = '\n' then skipBlanksAt rest ⟨p.line + 1, 0⟩
    else ⟨ch :: rest, p⟩

/-- Skips blanks. -/
def skipBlanks (c : Cursor) : Cursor := skipBlanksAt c.rest c.pos

end Cursor

/-- The value of a hexadecimal digit. -/
def hexValue? (c : Char) : Option Nat :=
  if '0' ≤ c && c ≤ '9' then some (c.toNat - 48)
  else if 'a' ≤ c && c ≤ 'f' then some (c.toNat - 87)
  else if 'A' ≤ c && c ≤ 'F' then some (c.toNat - 55)
  else none

/-- The binary64 value nearest to a significand, times the binary64 value nearest to
`10 ^ exponent` or divided by that of `10 ^ -exponent`; beyond 308 places the division is
repeated by `1e308`. `none` when the product is past the largest finite value. The loop runs
at most `fuel` times. -/
def scaleSignificand (x : Binary64) (exponent : Int) : Nat → Option Binary64
  | 0 => some x
  | fuel + 1 =>
    if exponent.natAbs ≤ 308 then
      if 0 ≤ exponent then x.mul (Binary64.pow10 exponent.toNat)
      else x.div (Binary64.pow10 exponent.natAbs)
    else if x.isZero then some x
    else if 0 ≤ exponent then none
    else
      match x.div (Binary64.pow10 308) with
      | none => none
      | some y => scaleSignificand y (exponent + 308) fuel

/-- The number of a significand and a decimal exponent, or the out-of-range failure. -/
def floatOfParts (negative : Bool) (significand : Nat) (exponent : Int) : Option Binary64 :=
  let base := Binary64.ofNat significand
  let steps := exponent.natAbs / 308 + 2
  (scaleSignificand base exponent steps).map fun x => if negative then x.negate else x

/-- Whether `acc * 10 + d` exceeds `2 ^ 64 - 1`. -/
def wouldOverflow (acc d : Nat) : Bool := Nat.pow 2 64 - 1 < acc * 10 + d

/-- The outcome of reading one token: the token kind and the cursor after it. -/
abbrev Lexed := TokenKind × Cursor

/-- A failure reported at the cursor's place. -/
def failAt (code : SyntaxCode) (c : Cursor) : Lexed := (.bad code c.pos, c)

/-- A failure reported one byte past the cursor's place. -/
def failPeek (code : SyntaxCode) (c : Cursor) : Lexed := (.bad code c.peekPos, c)

/-- Reads the rest of a literal word after its first letter. -/
def lexWord (word : List Char) (kind : TokenKind) (c : Cursor) : Lexed :=
  match word with
  | [] => (kind, c)
  | w :: ws =>
    match c.rest with
    | [] => failAt .eofWhileParsingValue c
    | ch :: _ =>
      let c' := c.advance
      if ch = w then lexWord ws kind c' else failAt .expectedSomeIdent c'

/-- The number after its digits: a float when negative zero or beyond `-2 ^ 63`. -/
def integerKind (negative : Bool) (significand : Nat) : TokenKind :=
  if !negative then .num (.nat significand)
  else if significand = 0 then .num (.float ⟨true, 0, 0⟩)
  else if significand ≤ Nat.pow 2 63 then .num (.negInt (-(significand : Int)))
  else .num (.float (Binary64.ofNat significand).negate)

/-- The float from parts, or a `huge` token failing at the cursor. -/
def finishFloat (negative : Bool) (significand : Nat) (exponent : Int) (c : Cursor) : Lexed :=
  match floatOfParts negative significand exponent with
  | some x => (.num (.float x), c)
  | none => (.huge c.pos, c)

/-- Reads the digits of an exponent once the first digit has been read. -/
def lexExponentDigits (negative : Bool) (significand : Nat) (start : Int) (positiveExp : Bool)
    (e : Nat) : List Char → Cursor → Lexed
  | [], c =>
    finishFloat negative significand (if positiveExp then start + e else start - e) c
  | ch :: rest, c =>
    if ch.isDigit then
      let d := ch.toNat - 48
      let c' := c.advance
      if Nat.pow 2 31 - 1 < e * 10 + d then
        -- the exponent overflows: past the largest value, or zero
        let skipped := c'.rest.takeWhile Char.isDigit
        let c'' := skipped.foldl (fun acc _ => acc.advance) c'
        if significand != 0 && positiveExp then (.huge c'.pos, c'')
        else (.num (.float ⟨negative, 0, 0⟩), c'')
      else lexExponentDigits negative significand start positiveExp (e * 10 + d) rest c'
    else finishFloat negative significand (if positiveExp then start + e else start - e) c

/-- Reads an exponent after `e` or `E`. -/
def lexExponent (negative : Bool) (significand : Nat) (start : Int) (c : Cursor) : Lexed :=
  let c := c.advance
  let (positiveExp, c) :=
    match c.rest with
    | '+' :: _ => (true, c.advance)
    | '-' :: _ => (false, c.advance)
    | _ => (true, c)
  match c.rest with
  | [] => failAt .eofWhileParsingValue c
  | ch :: rest =>
    let c' := c.advance
    if ch.isDigit then lexExponentDigits negative significand start positiveExp (ch.toNat - 48) rest c'
    else failAt .invalidNumber c'

/-- Skips digits that no longer fit the significand, then reads an exponent if one follows. -/
def lexDroppedDigits (negative : Bool) (significand : Nat) (exponent : Int) (c : Cursor) : Lexed :=
  let skipped := c.rest.takeWhile Char.isDigit
  let c := skipped.foldl (fun acc _ => acc.advance) c
  match c.rest with
  | 'e' :: _ | 'E' :: _ => lexExponent negative significand exponent c
  | _ => finishFloat negative significand exponent c

/-- Reads fraction digits after the point. -/
def lexFraction (negative : Bool) (significand : Nat) (exponent : Int) (digits : Nat) :
    List Char → Cursor → Lexed
  | [], c =>
    if digits = 0 then failPeek .eofWhileParsingValue c
    else finishFloat negative significand exponent c
  | ch :: rest, c =>
    if ch.isDigit then
      let d := ch.toNat - 48
      if wouldOverflow significand d then lexDroppedDigits negative significand exponent c
      else lexFraction negative (significand * 10 + d) (exponent - 1) (digits + 1) rest c.advance
    else if digits = 0 then failPeek .invalidNumber c
    else if ch = 'e' || ch = 'E' then lexExponent negative significand exponent c
    else finishFloat negative significand exponent c

/-- Reads what follows the whole digits: a point, an exponent, or the end of the number. -/
def lexAfterWhole (negative : Bool) (significand : Nat) (exponent : Int) (c : Cursor) : Lexed :=
  match c.rest with
  | '.' :: rest => lexFraction negative significand exponent 0 rest c.advance
  | 'e' :: _ | 'E' :: _ => lexExponent negative significand exponent c
  | _ =>
    if exponent = 0 then (integerKind negative significand, c)
    else finishFloat negative significand exponent c

/-- Counts whole digits that no longer fit the significand as powers of ten. -/
def lexLongWhole (negative : Bool) (significand : Nat) (exponent : Int) :
    List Char → Cursor → Lexed
  | [], c => finishFloat negative significand exponent c
  | ch :: rest, c =>
    if ch.isDigit then lexLongWhole negative significand (exponent + 1) rest c.advance
    else if ch = '.' then
      -- fraction digits are dropped
      lexFraction negative significand exponent 0 rest c.advance
    else lexAfterWhole negative significand exponent c

/-- Reads whole digits after the first non-zero one. -/
def lexWhole (negative : Bool) (significand : Nat) : List Char → Cursor → Lexed
  | [], c => lexAfterWhole negative significand 0 c
  | ch :: rest, c =>
    if ch.isDigit then
      let d := ch.toNat - 48
      if wouldOverflow significand d then lexLongWhole negative significand 0 (ch :: rest) c
      else lexWhole negative (significand * 10 + d) rest c.advance
    else lexAfterWhole negative significand 0 c

/-- Reads a number at the cursor, after its sign. -/
def lexNumber (negative : Bool) (c : Cursor) : Lexed :=
  match c.rest with
  | [] => failAt .eofWhileParsingValue c
  | ch :: rest =>
    let c' := c.advance
    if ch = '0' then
      match rest with
      | d :: _ => if d.isDigit then failPeek .invalidNumber c' else lexAfterWhole negative 0 0 c'
      | [] => lexAfterWhole negative 0 0 c'
    else if ch.isDigit then lexWhole negative (ch.toNat - 48) rest c'
    else failAt .invalidNumber c'

/-- A Unicode scalar value from a code point that is known not to be a surrogate. -/
def charOfCode (n : Nat) : Char := Char.ofNat n

/-- Reads four hexadecimal digits after `\u`. Fewer than four bytes left is the end of the
string; a byte that is no hexadecimal digit makes the escape invalid. -/
def lexHex4 (c : Cursor) : Except Lexed (Nat × Cursor) :=
  let bytes := (c.rest.map Char.utf8Size).foldl (· + ·) 0
  if bytes < 4 then
    let endPos := c.rest.foldl (fun acc _ => acc.advance) c
    .error (failAt .eofWhileParsingString endPos)
  else
    match c.rest with
    | a :: b :: d :: e :: rest =>
      match hexValue? a, hexValue? b, hexValue? d, hexValue? e with
      | some x1, some x2, some x3, some x4 =>
        .ok (x1 * 4096 + x2 * 256 + x3 * 16 + x4, ⟨rest, ⟨c.pos.line, c.pos.col + 4⟩⟩)
      | _, _, _, _ => .error (.bad .invalidEscape ⟨c.pos.line, c.pos.col + 4⟩, c)
    | _ =>
      .error (.bad .invalidEscape ⟨c.pos.line, c.pos.col + 4⟩, c)

/-- Reads a `\u` escape, pairing surrogates. -/
def lexUnicodeEscape (c : Cursor) : Except Lexed (Char × Cursor) := do
  let (n, c) ← lexHex4 c
  if 56320 ≤ n && n ≤ 57343 then throw (failAt .loneLeadingSurrogateInHexEscape c)
  if n < 55296 || 56319 < n then return (charOfCode n, c)
  -- a leading surrogate must be followed by `\u` and a trailing one
  match c.rest with
  | [] => throw (failAt .eofWhileParsingString c)
  | '\\' :: _ =>
    let c := c.advance
    match c.rest with
    | [] => throw (failAt .eofWhileParsingString c)
    | 'u' :: _ =>
      let (n2, c) ← lexHex4 c.advance
      if n2 < 56320 || 57343 < n2 then throw (failAt .loneLeadingSurrogateInHexEscape c)
      return (charOfCode (65536 + (n - 55296) * 1024 + (n2 - 56320)), c)
    | _ :: _ => throw (failAt .unexpectedEndOfHexEscape c.advance)
  | _ :: _ => throw (failAt .unexpectedEndOfHexEscape c.advance)

/-- Reads the characters of a string after its opening quote; `fuel` bounds the steps. -/
def lexString (acc : List Char) (c : Cursor) : Nat → Lexed
  | 0 => failAt .eofWhileParsingString c
  | fuel + 1 =>
    match c.rest with
    | [] => failAt .eofWhileParsingString c
    | ch :: _ =>
      if ch = '"' then (.str (String.ofList acc.reverse), c.advance)
      else if ch = '\\' then
        let c := c.advance
        match c.rest with
        | [] => failAt .eofWhileParsingString c
        | e :: _ =>
          let c' := c.advance
          let simple : Option Char :=
            if e = '"' then some '"' else if e = '\\' then some '\\' else if e = '/' then some '/'
            else if e = 'b' then some (Char.ofNat 8) else if e = 'f' then some (Char.ofNat 12)
            else if e = 'n' then some '\n' else if e = 'r' then some '\r'
            else if e = 't' then some '\t' else none
          match simple with
          | some s => lexString (s :: acc) c' fuel
          | none =>
            if e = 'u' then
              match lexUnicodeEscape c' with
              | .ok (u, c'') => lexString (u :: acc) c'' fuel
              | .error failure => failure
            else failAt .invalidEscape c'
      else if ch.toNat < 32 then failAt .controlCharacterWhileParsingString c.advance
      else lexString (ch :: acc) c.advance fuel

/-- Steps over the characters of a string after its opening quote the way a skipped value is
read: escapes are checked but not turned into characters, so `\u` needs four hexadecimal digits
but may stand for a lone surrogate, and a control character is reported where it stands rather
than after it. The cursor after the closing quote, or the failure and its place; `fuel` bounds
the steps. -/
def skipString (c : Cursor) : Nat → Except (SyntaxCode × Pos) Cursor
  | 0 => .error (.eofWhileParsingString, c.pos)
  | fuel + 1 =>
    match c.rest with
    | [] => .error (.eofWhileParsingString, c.pos)
    | ch :: _ =>
      if ch = '"' then .ok c.advance
      else if ch = '\\' then
        let c := c.advance
        match c.rest with
        | [] => .error (.eofWhileParsingString, c.pos)
        | e :: _ =>
          let c' := c.advance
          if ['"', '\\', '/', 'b', 'f', 'n', 'r', 't'].contains e then skipString c' fuel
          else if e = 'u' then
            match lexHex4 c' with
            | .ok (_, c'') => skipString c'' fuel
            | .error (.bad code place, _) => .error (code, place)
            | .error (_, c'') => .error (.invalidEscape, c''.pos)
          else .error (.invalidEscape, c'.pos)
      else if ch.toNat < 32 then .error (.controlCharacterWhileParsingString, c.pos)
      else skipString c.advance fuel

/-- Reads a string after its opening quote; one that cannot be read is also stepped over as a
skipped value would be (see `TokenKind.badString`). -/
def lexStringToken (c : Cursor) : Lexed :=
  let fuel := c.rest.length + 1
  match lexString [] c fuel with
  | (.bad code place, stop) =>
    match skipString c fuel with
    | .ok after => (.badString code place none, after)
    | .error fault => (.badString code place (some fault), stop)
  | lexed => lexed

/-- Reads one token at a cursor that is not at a blank. -/
def lexOne (c : Cursor) : Lexed :=
  match c.rest with
  | [] => (.eof, c)
  | ch :: _ =>
    if ch = '[' then (.beginArray, c.advance)
    else if ch = ']' then (.endArray, c.advance)
    else if ch = '{' then (.beginObject, c.advance)
    else if ch = '}' then (.endObject, c.advance)
    else if ch = ',' then (.comma, c.advance)
    else if ch = ':' then (.colon, c.advance)
    else if ch = 'n' then lexWord ['u', 'l', 'l'] .null c.advance
    else if ch = 't' then lexWord ['r', 'u', 'e'] (.bool true) c.advance
    else if ch = 'f' then lexWord ['a', 'l', 's', 'e'] (.bool false) c.advance
    else if ch = '-' then lexNumber true c.advance
    else if ch.isDigit then lexNumber false c
    else if ch = '"' then lexStringToken c.advance
    else (.stray, c)

/-- Whether a token ends the stream. -/
def TokenKind.isLast : TokenKind → Bool
  | .bad _ _ | .badString _ _ (some _) | .eof | .stray => true
  | _ => false

/-- The tokens from the cursor on, ending with the end of the text, a stray character or a
malformed token. `fuel` bounds the number of tokens. -/
def tokensFrom (c : Cursor) : Nat → List Token
  | 0 => []
  | fuel + 1 =>
    let c := c.skipBlanks
    let (kind, c') := lexOne c
    let lead := match c.rest with
      | ch :: _ => ch
      | [] => ' '
    let tok : Token := { kind := kind, lead := lead, start := c.pos, peek := c.peekPos, stop := c'.pos }
    if kind.isLast then [tok] else tok :: tokensFrom c' fuel

/-- The tokens of a text (see the module comment). -/
def tokens (text : String) : List Token :=
  let cs := text.toList
  tokensFrom ⟨cs, ⟨1, 0⟩⟩ (cs.length + 1)

end Invoicing
