import Invoicing.Config.Setting
import Invoicing.Decode.Error

/-!
# RON configuration files

A RON (Rusty Object Notation) file is read byte by byte. Blanks are spaces, tabs, line feeds and
carriage returns; comments are `// …` to the end of the line and `/* … */`, which nest. The text
may start with attributes `#![enable(implicit_some, …)]`. A value is then:
* `true`, `false`, `None`, `()` (the unit), `inf`, `-inf` or `NaN`;
* `Some(value)` (with `implicit_some`, `Some` without a bracket stands before a bare value);
* a name, alone (the unit) or before a bracketed body: `(name: value, …)` is a map with text
  keys, and any other bracketed body `(value, …)` a sequence; a bracketed body may also stand
  without a name;
* `[value, …]` a sequence and `{key: value, …}` a map with keys of any kind; each may end with
  a comma;
* a number: whole numbers in decimal or, after `0x`, `0b` or `0o`, in another base, with `_`
  between digits, fit in 64 bits (a positive one past the signed range is kept as a real
  number); anything else that looks like a number is read as a real number, with no `_`;
* a string `"…"` with escapes `\\`, `\"`, `\'`, `\n`, `\r`, `\t`, `\0`, `\xHH` and `\u{H…}`,
  or a raw string `r#"…"#`; or a character `'c'`.
Nothing but blanks may follow the value. A text that does not read fails with the line and the
column (counted in bytes from 1) where reading stood, and what went wrong there. When a whole
number does not read, it is read again as a real number from its start, but the column goes on
from where the whole number stopped.

Nesting is limited to 128 levels. The root must be a map, possibly inside `Some(…)`; its keys
and the keys of maps inside it must be text. Keys are checked in the order maps keep them:
truth values, characters, maps, numbers, options, strings, sequences and the unit.

What is proved here:
* `fault_text_eof`: the text of the failure at the end of the input.
-/

namespace Invoicing

namespace Config

namespace Ron

/-- A RON value. -/
inductive Value where
  | bool (b : Bool)
  | char (c : Char)
  | map (keys values : List Value)
  | integer (i : Int)
  | float (x : Floating)
  | present (v : Value)
  | absent
  | string (s : String)
  | seq (items : List Value)
  | unit

/-- What went wrong reading a RON text. -/
inductive Fault where
  | eof
  | expectedArrayEnd
  | expectedAttribute
  | expectedAttributeEnd
  | expectedComma
  | expectedChar
  | expectedFloat
  | floatUnderscore
  | expectedInteger
  | expectedOption
  | expectedOptionEnd
  | expectedMapColon
  | expectedMapEnd
  | expectedStructLike
  | expectedStructLikeEnd
  | expectedString
  | expectedStringEnd
  | expectedIdentifier
  | invalidEscape (what : String)
  | integerOutOfBounds
  | noSuchExtension (name : String)
  | unclosedBlockComment
  | underscoreAtBeginning
  | unexpectedByte (c : Char)
  | trailingCharacters
  | suggestRawIdentifier (name : String)
  | exceededRecursionLimit

/-- Whether a byte is an ASCII letter. -/
def isLetterByte (b : UInt8) : Bool := (65 ≤ b && b ≤ 90) || (97 ≤ b && b ≤ 122)

/-- Whether a byte is an ASCII digit. -/
def isDigitByte (b : UInt8) : Bool := 48 ≤ b && b ≤ 57

/-- Whether a byte may start a name: a letter or `_`. -/
def isNameStart (b : UInt8) : Bool := isLetterByte b || b = 95

/-- Whether a byte may continue a name: a letter, a digit or `_`. -/
def isNamePart (b : UInt8) : Bool := isNameStart b || isDigitByte b

/-- Whether a byte may stand in a raw name: a name byte, `.`, `+` or `-`. -/
def isRawNamePart (b : UInt8) : Bool := isNamePart b || b = 46 || b = 43 || b = 45

/-- Whether a byte may stand in a whole number: hexadecimal digits and `_`. -/
def isIntegerByte (b : UInt8) : Bool :=
  isDigitByte b || (65 ≤ b && b ≤ 70) || (97 ≤ b && b ≤ 102) || b = 95

/-- Whether a byte may stand in a real number: digits, `.`, `e`, `E`, `+`, `-` and `_`. -/
def isFloatByte (b : UInt8) : Bool :=
  isDigitByte b || b = 46 || b = 101 || b = 69 || b = 43 || b = 45 || b = 95

/-- Whether a byte is a blank: space, tab, line feed or carriage return. -/
def isBlankByte (b : UInt8) : Bool := b = 32 || b = 9 || b = 10 || b = 13

/-- The byte of an ASCII character. -/
def byte (c : Char) : UInt8 := c.toNat.toUInt8

/-- The text of UTF-8 bytes. -/
def decode (bs : List UInt8) : String := (String.fromUTF8? ⟨bs.toArray⟩).getD ""

/-- A character shown in a message: in single quotes, with quote, backslash, tab, line feed,
carriage return and NUL escaped by a backslash and the characters `Escaped.isEscaped` names as
`\u{…}`. -/
def showChar (c : Char) : String :=
  let body :=
    if c = '\'' then "\\'" else if c = '\\' then "\\\\"
    else if c = '\n' then "\\n" else if c = '\r' then "\\r" else if c = '\t' then "\\t"
    else if c.toNat = 0 then "\\0"
    else if Escaped.isEscaped c then "\\u\x7b" ++ hexText c.toNat ++ "\x7d"
    else String.singleton c
  "'" ++ body ++ "'"

/-- A name in a message: in backquotes, as a raw name `r#…` when it is no plain name. -/
def nameText (name : String) : String :=
  let bs := name.toUTF8.toList
  if bs.isEmpty || !bs.all isRawNamePart then showString name ++ "_[invalid identifier]"
  else match bs with
    | b :: rest =>
      if isNameStart b && rest.all isNamePart then "`" ++ name ++ "`" else "`r#" ++ name ++ "`"
    | [] => "`" ++ name ++ "`"

/-- The message of a failure. -/
def Fault.text : Fault → String
  | .eof => "Unexpected end of RON"
  | .expectedArrayEnd => "Expected closing `]`"
  | .expectedAttribute => "Expected an `#![enable(...)]` attribute"
  | .expectedAttributeEnd => "Expected closing `)]` after the enable attribute"
  | .expectedComma => "Expected comma"
  | .expectedChar => "Expected char"
  | .expectedFloat => "Expected float"
  | .floatUnderscore => "Unexpected underscore in float"
  | .expectedInteger => "Expected integer"
  | .expectedOption => "Expected option"
  | .expectedOptionEnd => "Expected closing `)`"
  | .expectedMapColon => "Expected colon"
  | .expectedMapEnd => "Expected closing `\x7d`"
  | .expectedStructLike => "Expected opening `(`"
  | .expectedStructLikeEnd => "Expected closing `)`"
  | .expectedString => "Expected string"
  | .expectedStringEnd => "Expected end of string"
  | .expectedIdentifier => "Expected identifier"
  | .invalidEscape what => what
  | .integerOutOfBounds => "Integer is out of bounds"
  | .noSuchExtension name => "No RON extension named " ++ nameText name
  | .unclosedBlockComment => "Unclosed block comment"
  | .underscoreAtBeginning => "Unexpected leading underscore in an integer"
  | .unexpectedByte c => "Unexpected byte " ++ showChar c
  | .trailingCharacters => "Non-whitespace trailing characters"
  | .suggestRawIdentifier name =>
    "Found invalid std identifier `" ++ name ++ "`, try the raw identifier `r#" ++ name ++
      "` instead"
  | .exceededRecursionLimit =>
    "Exceeded recursion limit, try increasing the limit and using `serde_stacker` to protect " ++
      "against a stack overflow"

theorem fault_text_eof : Fault.text .eof = "Unexpected end of RON" := rfl

/-- Where reading stands: the bytes left, the line and column, and whether `implicit_some` is
enabled. -/
structure Reader where
  rest : List UInt8
  line : Nat
  col : Nat
  implicitSome : Bool

/-- A failure at a line and column. -/
structure Failure where
  fault : Fault
  line : Nat
  col : Nat

/-- The text of a failure: `line:column: message`. -/
def Failure.text (f : Failure) : String :=
  toString f.line ++ ":" ++ toString f.col ++ ": " ++ f.fault.text

/-- A reader of RON text. -/
abbrev Parse := StateT Reader (Except Failure)

/-- Fails where reading stands. -/
def fail {α : Type} (f : Fault) : Parse α := do
  let s ← get
  throw ⟨f, s.line, s.col⟩

/-- Passes one byte, counting lines. -/
def Reader.step (s : Reader) : Reader :=
  match s.rest with
  | [] => s
  | b :: rest =>
    if b = 10 then { s with rest := rest, line := s.line + 1, col := 1 }
    else { s with rest := rest, col := s.col + 1 }

/-- Passes bytes. -/
def Reader.stepN : Nat → Reader → Reader
  | 0, s => s
  | n + 1, s => Reader.stepN n s.step

/-- Passes `n` bytes. -/
def advance (n : Nat) : Parse Unit := modify (Reader.stepN n)

/-- The next byte, if any. -/
def peek : Parse (Option UInt8) := return (← get).rest.head?

/-- The next byte, failing at the end. -/
def peekOrEof : Parse UInt8 := do
  match (← get).rest with
  | b :: _ => pure b
  | [] => fail .eof

/-- Takes the next byte, failing at the end. -/
def eatByte : Parse UInt8 := do
  let b ← peekOrEof
  advance 1
  pure b

/-- Whether the bytes ahead start with a text. -/
def testFor (s : String) : Parse Bool := return s.toUTF8.toList.isPrefixOf (← get).rest

/-- Passes a text if it is ahead. -/
def consume (s : String) : Parse Bool := do
  if ← testFor s then
    advance s.utf8ByteSize
    return true
  else return false

/-- Whether a word is ahead, not followed by a byte of a name. -/
def checkIdent (s : String) : Parse Bool := do
  let bs := s.toUTF8.toList
  let rest := (← get).rest
  return bs.isPrefixOf rest && !((rest.drop bs.length).head?.any isNamePart)

/-- Passes a word if it is ahead, not followed by a byte of a name. -/
def consumeIdent (s : String) : Parse Bool := do
  if ← checkIdent s then
    advance s.utf8ByteSize
    return true
  else return false

/-- Passes a block comment after its opening, counting the nesting `level`; `fuel` bounds the
steps. -/
def blockComment : Nat → Nat → Parse Unit
  | _, 0 => pure ()
  | 0, _ + 1 => fail .unclosedBlockComment
  | fuel + 1, level + 1 => do
    let rest := (← get).rest
    if rest.isEmpty then fail .unclosedBlockComment
    advance (rest.takeWhile fun b => b ≠ byte '/' && b ≠ byte '*').length
    if ← consume "/*" then blockComment fuel (level + 2)
    else if ← consume "*/" then blockComment fuel level
    else
      match (← get).rest with
      | [] => fail .unclosedBlockComment
      | _ :: _ =>
        advance 1
        blockComment fuel (level + 1)

/-- Passes a comment if one is ahead. -/
def skipComment : Parse Bool := do
  if !(← consume "/") then return false
  let b ← eatByte
  if b = byte '/' then
    advance ((← get).rest.takeWhile (· ≠ 10)).length
    return true
  else if b = byte '*' then
    blockComment ((← get).rest.length + 1) 1
    return true
  else fail (.unexpectedByte (Char.ofNat b.toNat))

/-- Passes blanks and comments; `fuel` bounds the comments. -/
def skipBlanks : Nat → Parse Unit
  | 0 => pure ()
  | fuel + 1 => do
    advance ((← get).rest.takeWhile isBlankByte).length
    if ← skipComment then skipBlanks fuel

/-- Passes blanks and comments. -/
def skipWs : Parse Unit := do skipBlanks ((← get).rest.length + 1)

/-- Passes a comma with the blanks around it; whether there was one. -/
def comma : Parse Bool := do
  skipWs
  if ← consume "," then
    skipWs
    return true
  else return false

/-- Passes a name: letters, digits and `_` not starting with a digit, or `r#` and the bytes of
a raw name. A name that goes on with raw name bytes suggests the raw form. -/
def identifier : Parse (List UInt8) := do
  let rest := (← get).rest
  let next ← peekOrEof
  let plain := rest.takeWhile isNamePart
  let raw := rest.takeWhile isRawNamePart
  let plainName : Parse (List UInt8) := do
    if plain.length < raw.length then fail (.suggestRawIdentifier (decode raw))
    advance plain.length
    pure plain
  if !isNameStart next then
    if isRawNamePart next then fail (.suggestRawIdentifier (decode raw))
    else fail .expectedIdentifier
  else if next = byte 'r' then
    match rest with
    | _ :: second :: more =>
      if second = byte '"' then fail .expectedIdentifier
      else if second = byte '#' then
        if !isRawNamePart (more.headD 0) then fail .expectedIdentifier
        else
          advance 2
          let name := (← get).rest.takeWhile isRawNamePart
          advance name.length
          pure name
      else plainName
    | _ => fail .eof
  else plainName

/-- Runs a reader, giving nothing and leaving the place as it was when it fails. -/
def attempt {α : Type} (p : Parse α) : Parse (Option α) := do
  let s ← get
  match p.run s with
  | .ok (a, s') =>
    set s'
    pure (some a)
  | .error _ => pure none

/-- Runs a reader on a copy of the place, which is then dropped; a failure is reported where
reading stands. -/
def onCopy {α : Type} (p : Parse α) : Parse α := do
  let s ← get
  match p.run s with
  | .ok (a, _) => pure a
  | .error f => throw { f with line := s.line, col := s.col }

/-- The value of a hexadecimal digit. -/
def hexValue? (b : UInt8) : Option Nat :=
  if isDigitByte b then some (b.toNat - 48)
  else if 97 ≤ b && b ≤ 102 then some (b.toNat - 87)
  else if 65 ≤ b && b ≤ 70 then some (b.toNat - 55)
  else none

/-- Accumulates the digits of a whole number in a base within `lo ≤ n ≤ hi`, adding or (for a
negative number) subtracting each digit; `_` is passed over. -/
def accumulate (base : Nat) (negative : Bool) (lo hi : Int) :
    List UInt8 → Int → Except Fault Int
  | [], acc => .ok acc
  | b :: rest, acc =>
    if b = 95 then accumulate base negative lo hi rest acc
    else
      let scaled := acc * base
      if scaled < lo ∨ hi < scaled then .error .integerOutOfBounds
      else
        let digit := (hexValue? b).getD 0
        if base ≤ digit then .error .expectedInteger
        else
          let next := if negative then scaled - digit else scaled + digit
          if next < lo ∨ hi < next then .error .integerOutOfBounds
          else accumulate base negative lo hi rest next

/-- Reads a whole number after its sign, within `lo ≤ n ≤ hi`. -/
def wholeNumber (negative : Bool) (lo hi : Int) : Parse Int := do
  let base := match (← get).rest with
    | 48 :: 120 :: _ => 16
    | 48 :: 98 :: _ => 2
    | 48 :: 111 :: _ => 8
    | _ => 10
  if base ≠ 10 then advance 2
  let digits := (← get).rest.takeWhile isIntegerByte
  if digits.isEmpty then fail .expectedInteger
  if digits.head? = some 95 then fail .underscoreAtBeginning
  let result := accumulate base negative lo hi digits 0
  advance digits.length
  match result with
  | .ok n => pure n
  | .error f => fail f

/-- Reads a real number: `inf`, `NaN` with an optional sign, or the bytes of a real number,
which may not hold `_`. -/
def realNumber : Parse Floating := do
  if ← consumeIdent "inf" then return .infinite false
  if ← consumeIdent "+inf" then return .infinite false
  if ← consumeIdent "-inf" then return .infinite true
  if ← consumeIdent "NaN" then return .nan
  if ← consumeIdent "+NaN" then return .nan
  if ← consumeIdent "-NaN" then return .nan
  let run := (← get).rest.takeWhile isFloatByte
  match run.findIdx? (· = 95) with
  | some i =>
    advance i
    fail .floatUnderscore
  | none =>
    let r := Floating.read? (run.map fun b => Char.ofNat b.toNat)
    advance run.length
    match r with
    | some x => pure x
    | none => fail .expectedFloat

/-- Whether a number ahead is real: after an optional sign, more bytes of a real number than of
a whole number. -/
def realAhead (rest : List UInt8) : Bool :=
  let body := match rest with
    | b :: more => if b = 43 || b = 45 then more else rest
    | [] => []
  (body.takeWhile isIntegerByte).length < (body.takeWhile isFloatByte).length

/-- Reads a number: a whole number if it reads as one, else a real number from the same start
(with the column where the whole number stopped). -/
def number : Parse Value := do
  let start ← get
  if realAhead start.rest then return .float (← realNumber)
  let whole : Parse Int := match start.rest with
    | 45 :: _ => do
      advance 1
      wholeNumber true (-(Nat.pow 2 63 : Int)) (Nat.pow 2 63 - 1)
    | 43 :: _ => do
      advance 1
      wholeNumber false (-(Nat.pow 2 63 : Int)) (Nat.pow 2 63 - 1)
    | _ => wholeNumber false 0 (Nat.pow 2 64 - 1)
  match whole.run start with
  | .ok (n, after) =>
    set after
    if n < Nat.pow 2 63 then return .integer n
    else return .float (.finite (Binary64.ofNat n.toNat))
  | .error f =>
    set { start with line := f.line, col := f.col }
    return .float (← realNumber)

/-- Reads an escape after a backslash. -/
def escape : Parse Char := do
  let b ← eatByte
  if b = byte '\'' then pure '\''
  else if b = byte '"' then pure '"'
  else if b = byte '\\' then pure '\\'
  else if b = byte 'n' then pure '\n'
  else if b = byte 'r' then pure '\r'
  else if b = byte 't' then pure '\t'
  else if b = byte '0' then pure '\x00'
  else if b = byte 'x' then
    let high ← eatByte
    let some h := hexValue? high | fail (.invalidEscape "Non-hex digit found")
    let low ← eatByte
    let some l := hexValue? low | fail (.invalidEscape "Non-hex digit found")
    pure (Char.ofNat (h * 16 + l))
  else if b = byte 'u' then
    let open_ ← eatByte
    if open_ ≠ byte '\x7b' then fail (.invalidEscape "Missing \x7b in Unicode escape")
    let code ← unicodeDigits 6 0 0
    match code with
    | (0, _) => fail (.invalidEscape "Expected 1-6 digits, got 0 digits in Unicode escape")
    | (_, n) =>
      let close ← eatByte
      if close ≠ byte '\x7d' then fail (.invalidEscape "No \x7d at the end of Unicode escape")
      if n < 0xD800 ∨ (0xDFFF < n ∧ n < 0x110000) then pure (Char.ofNat n)
      else fail (.invalidEscape "Not a valid char")
  else fail (.invalidEscape "Unknown escape character")
where
  /-- Reads up to `budget` hexadecimal digits before a closing brace: how many and their value. -/
  unicodeDigits : Nat → Nat → Nat → Parse (Nat × Nat)
    | 0, count, n => pure (count, n)
    | budget + 1, count, n => do
      let b ← peekOrEof
      if b = byte '\x7d' then return (count, n)
      advance 1
      let some d := hexValue? b | fail (.invalidEscape "Non-hex digit found")
      unicodeDigits budget (count + 1) (n * 16 + d)

/-- Reads the rest of a string after its opening quote, with the characters so far; `fuel`
bounds the escapes. -/
def quotedRest : Nat → List Char → Parse String
  | 0, _ => fail .expectedStringEnd
  | fuel + 1, acc => do
    let rest := (← get).rest
    match rest.findIdx? (fun b => b = byte '\\' || b = byte '"') with
    | none => fail .expectedStringEnd
    | some i =>
      let piece := (decode (rest.take i)).toList
      advance (i + 1)
      if (rest.drop i).head? = some (byte '"') then
        pure (String.ofList (acc ++ piece))
      else
        let c ← escape
        quotedRest fuel (acc ++ piece ++ [c])

/-- Reads a raw string after its `r`: hashes, a quote, the text, a quote and as many hashes. -/
def rawString : Parse String := do
  let hashes := (← get).rest.takeWhile (· = byte '#')
  advance hashes.length
  if !(← consume "\"") then fail .expectedString
  let ending := byte '"' :: hashes
  let rest := (← get).rest
  let ends := (List.range (rest.length + 1)).find? fun i => ending.isPrefixOf (rest.drop i)
  match ends with
  | none => fail .expectedStringEnd
  | some i =>
    advance (i + hashes.length + 1)
    pure (decode (rest.take i))

/-- Reads a string. -/
def string : Parse String := do
  if ← consume "\"" then quotedRest ((← get).rest.length + 1) []
  else if ← consume "r" then rawString
  else fail .expectedString

/-- Reads a character literal. -/
def charLiteral : Parse Char := do
  if !(← consume "'") then fail .expectedChar
  let c ← if (← peekOrEof) = byte '\\' then do
      advance 1
      escape
    else do
      let rest := (← get).rest
      match (rest.take 5).findIdx? (· = byte '\'') with
      | none => fail .expectedChar
      | some pos =>
        match (decode (rest.take pos)).toList with
        | [c] =>
          advance pos
          pure c
        | _ => fail .expectedChar
  if !(← consume "'") then fail .expectedChar
  pure c

/-- Reads items separated by commas up to a closing byte, which is left ahead; `hadComma` says
whether another item may come. -/
def commaSeparated {α : Type} (closing : UInt8) (item : Parse α) :
    Nat → Bool → List α → Parse (List α)
  | 0, _, acc => pure acc.reverse
  | fuel + 1, hadComma, acc => do
    skipWs
    let b ← peekOrEof
    if b = closing then pure acc.reverse
    else if hadComma then
      let x ← item
      let more ← comma
      commaSeparated closing item fuel more (x :: acc)
    else fail .expectedComma

/-- The reader of nested values, if nesting may go deeper. -/
def nested (inner : Option (Parse Value)) : Parse (Parse Value) :=
  match inner with
  | some p => pure p
  | none => fail .exceededRecursionLimit

/-- Reads the colon and the value of an entry. -/
def entryValue (p : Parse Value) : Parse Value := do
  skipWs
  if !(← consume ":") then fail .expectedMapColon
  skipWs
  p

/-- Reads items up to a closing byte. -/
def items {α : Type} (closing : UInt8) (item : Parse α) : Parse (List α) := do
  commaSeparated closing item ((← get).rest.length + 1) true []

/-- Reads a bracketed body whose first item is no `name:`, as a sequence. -/
def tuple (inner : Option (Parse Value)) : Parse Value := do
  let _ ← consume "("
  let p ← nested inner
  let xs ← items (byte ')') p
  skipWs
  if ← consume ")" then pure (.seq xs) else fail .expectedArrayEnd

/-- Reads a bracketed body of `name: value` entries, as a map. -/
def struct (inner : Option (Parse Value)) : Parse Value := do
  skipWs
  if !(← consume "(") then fail .expectedStructLike
  let p ← nested inner
  let entries ← items (byte ')') do
    let k ← identifier
    let v ← entryValue p
    pure (Value.string (decode k), v)
  skipWs
  if ← consume ")" then pure (.map (entries.map (·.1)) (entries.map (·.2)))
  else fail .expectedStructLikeEnd

/-- Whether a bracketed body is a sequence: it does not start with `name:`. -/
def tupleAhead : Parse Bool := do
  let _ ← consume "("
  skipWs
  match ← attempt identifier with
  | none => pure true
  | some _ =>
    skipWs
    let c ← eatByte
    pure (c ≠ byte ':')

/-- Reads what follows a name, or a bracketed body: the unit when no bracket follows. -/
def anyStruct (inner : Option (Parse Value)) : Parse Value := do
  if !(← testFor "(") then return .unit
  if ← onCopy tupleAhead then tuple inner else struct inner

/-- Reads a sequence in square brackets. -/
def sequence (inner : Option (Parse Value)) : Parse Value := do
  let _ ← consume "["
  let p ← nested inner
  let xs ← items (byte ']') p
  skipWs
  if ← consume "]" then pure (.seq xs) else fail .expectedArrayEnd

/-- Reads a map in braces. -/
def mapValue (inner : Option (Parse Value)) : Parse Value := do
  let _ ← consume "\x7b"
  let p ← nested inner
  let entries ← items (byte '\x7d') do
    let k ← p
    let v ← entryValue p
    pure (k, v)
  skipWs
  if ← consume "\x7d" then pure (.map (entries.map (·.1)) (entries.map (·.2)))
  else fail .expectedMapEnd

/-- Reads `Some(value)`, or with `implicit_some` a bare value. -/
def optionValue (inner : Option (Parse Value)) : Parse Value := do
  if ← consume "None" then return .absent
  if ← consume "Some" then
    skipWs
    if ← consume "(" then
      skipWs
      let p ← nested inner
      let v ← p
      let _ ← comma
      if ← consume ")" then return .present v else fail .expectedOptionEnd
  if (← get).implicitSome then
    let p ← nested inner
    return .present (← p)
  fail .expectedOption

/-- Reads a value, with the reader of values nested in it. -/
def valueWith (inner : Option (Parse Value)) : Parse Value := do
  if ← consumeIdent "true" then return .bool true
  if ← consumeIdent "false" then return .bool false
  if ← checkIdent "Some" then return ← optionValue inner
  if ← consumeIdent "None" then return .absent
  if ← consume "()" then return .unit
  if ← consumeIdent "inf" then return .float (.infinite false)
  if ← consumeIdent "-inf" then return .float (.infinite true)
  if ← consumeIdent "NaN" then return .float .nan
  match ← attempt identifier with
  | some _ =>
    skipWs
    anyStruct inner
  | none =>
    let b ← peekOrEof
    if b = byte '(' then anyStruct inner
    else if b = byte '[' then sequence inner
    else if b = byte '\x7b' then mapValue inner
    else if isDigitByte b || b = byte '+' || b = byte '-' then number
    else if b = byte '.' then return .float (← realNumber)
    else if b = byte '"' || b = byte 'r' then return .string (← string)
    else if b = byte '\'' then return .char (← charLiteral)
    else fail (.unexpectedByte (Char.ofNat b.toNat))

/-- Reads a value that may nest `limit` levels deep. -/
def value : Nat → Parse Value
  | 0 => valueWith none
  | n + 1 => valueWith (some (value n))

/-- Reads an attribute `#![enable(…)]` if one is ahead; whether there was one. -/
def enableAttribute : Parse Bool := do
  if (← peek) ≠ some (byte '#') then return false
  let mut whole := true
  for part in ["#", "!", "[", "enable", "("] do
    skipWs
    whole := (← consume part) && whole
  if !whole then fail .expectedAttribute
  skipWs
  names ((← get).rest.length + 1)
  let mut closed := true
  for part in [")", "]"] do
    skipWs
    closed := (← consume part) && closed
  if closed then return true else fail .expectedAttributeEnd
where
  /-- Reads the names of the extensions, separated by commas. -/
  names : Nat → Parse Unit
    | 0 => pure ()
    | fuel + 1 => do
      let name := decode (← identifier)
      if name = "implicit_some" then modify fun s => { s with implicitSome := true }
      else if name ≠ "unwrap_newtypes" ∧ name ≠ "unwrap_variant_newtypes" then
        fail (.noSuchExtension name)
      let more ← comma
      let nameAhead := (← peek).any isNamePart
      if !more && nameAhead then fail .expectedComma
      if more && nameAhead then names fuel

/-- Reads the attributes at the start, each followed by blanks. -/
def attributes : Nat → Parse Unit
  | 0 => pure ()
  | fuel + 1 => do
    if ← enableAttribute then
      skipWs
      attributes fuel

/-- Reads a whole RON text: attributes, one value and blanks. -/
def document : Parse Value := do
  skipWs
  attributes ((← get).rest.length + 1)
  let v ← value 128
  skipWs
  if !(← get).rest.isEmpty then fail .trailingCharacters
  pure v

/-- The place of a key among the kinds of values, in the order maps keep their keys. -/
def Value.rank : Value → Nat
  | .bool _ => 0
  | .char _ => 1
  | .map _ _ => 2
  | .integer _ | .float _ => 3
  | .present _ | .absent => 4
  | .string _ => 5
  | .seq _ => 6
  | .unit => 7

/-- Whether one key comes before another in a map. -/
def keyBefore (a b : Value) : Bool :=
  if a.rank ≠ b.rank then a.rank < b.rank
  else match a, b with
    | .bool x, .bool y => !x && y
    | .char x, .char y => x < y
    | .string x, .string y => x < y
    | .integer x, .integer y => x < y
    | .integer _, .float _ => true
    | _, _ => false

/-- Whether two keys are the same key of a map. -/
def sameKey (a b : Value) : Bool :=
  match a, b with
  | .bool x, .bool y => x == y
  | .char x, .char y => x == y
  | .string x, .string y => x == y
  | .integer x, .integer y => x == y
  | .unit, .unit => true
  | .absent, .absent => true
  | _, _ => false

/-- A key as text, or what it is instead. -/
def Value.keyText : Value → Except String String
  | .string s => .ok s
  | .char c => .ok (String.singleton c)
  | v =>
    let found := match v with
      | .bool b => "the boolean `" ++ toString b ++ "`"
      | .integer i => "the signed integer `" ++ toString i ++ "`"
      | .float x => "the floating point number `" ++ x.text ++ "`"
      | .map _ _ => "a map"
      | .seq _ => "a sequence"
      | .unit => "a unit value"
      | _ => "an optional value"
    .error ("Expected a string but found " ++ found ++ " instead")

/-- The failure of the entry a map keeps first, of those that fail: entries replaced by a later
one with the same key are dropped. -/
def firstEntryFault (entries : List (Value × Option String)) : Option String :=
  let kept := entries.zipIdx.filter fun ((k, _), i) =>
    !(entries.drop (i + 1)).any fun (k', _) => sameKey k k'
  let best := kept.foldl (fun (best : Option (Value × String)) ((k, fault), _) =>
    match fault, best with
    | some e, none => some (k, e)
    | some e, some (bk, be) => if keyBefore k bk then some (k, e) else some (bk, be)
    | none, b => b) none
  best.map (·.2)

mutual

/-- The setting of a value, once the keys of the maps inside it read as text. -/
def Value.setting : Value → Except String Setting
  | .bool b => .ok (.bool b)
  | .char c => .ok (.text (String.singleton c))
  | .map ks vs =>
    match firstEntryFault (entryFaults ks vs) with
    | some e => .error e
    | none => .ok .map
  | .integer i => .ok (.int i)
  | .float x => .ok (.real x)
  | .present v => v.setting
  | .absent => .ok .nil
  | .string s => .ok (.text s)
  | .seq xs =>
    match firstFault xs with
    | some e => .error e
    | none => .ok .seq
  | .unit => .ok .nil

/-- Each key of a map with the failure of its entry, if any. -/
def entryFaults : List Value → List Value → List (Value × Option String)
  | k :: ks, v :: vs =>
    let fault := match k.keyText with
      | .error e => some e
      | .ok _ =>
        match v.setting with
        | .error e => some e
        | .ok _ => none
    (k, fault) :: entryFaults ks vs
  | _, _ => []

/-- The failure of the first value of a list that fails. -/
def firstFault : List Value → Option String
  | [] => none
  | v :: rest =>
    match v.setting with
    | .error e => some e
    | .ok _ => firstFault rest

end

/-- The root of a file: the entries of a map (inside `Some` if so written), later keys
replacing earlier ones, or the value that is no map. -/
def rootOf : Value → Except String (Sum Setting (List (String × Setting)))
  | .present v => rootOf v
  | .map ks vs =>
    match firstEntryFault (entryFaults ks vs) with
    | some e => .error e
    | none =>
      let entries := (ks.zip vs).filterMap fun (k, v) =>
        match k.keyText, v.setting with
        | .ok name, .ok s => some (name, s)
        | _, _ => none
      .ok (.inr (entries.foldl (fun acc (k, s) => acc.filter (·.1 ≠ k) ++ [(k, s)]) []))
  | v => v.setting.map .inl

/-- Reads a RON text: the entries of its root map, or the root that is no map. -/
def read (text : String) : Except String (Sum Setting (List (String × Setting))) :=
  match document.run ⟨text.toUTF8.toList, 1, 1, false⟩ with
  | .error f => .error f.text
  | .ok (v, _) => rootOf v

end Ron

end Config

end Invoicing
