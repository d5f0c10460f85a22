import Invoicing.Config.Grammar
import Invoicing.Config.Setting
import Invoicing.Text.Categories

/-!
# JSON5 configuration files

A JSON5 file is read with a parsing expression grammar (see `Grammar`) of the JSON5 syntax:
* blanks are the JSON5 white space and line terminators; comments are `/* … */` and `// …`;
* a value is `null`, `true` or `false`, a string in double or single quotes, a number, an
  object or an array; objects and arrays may end with a comma;
* a key is a name (letters, `$`, `_` and `\uXXXX`, then also marks, digits and connectors) or a
  string;
* a number has an optional sign, then hexadecimal digits after `0x`, a decimal number with an
  optional point and exponent, `Infinity` or `NaN`;
* a string escapes `\b`, `\f`, `\n`, `\r`, `\t`, `\v`, `\0`, `\xHH`, `\uXXXX`, a line break
  (which is dropped), and any other character but a digit, `x` and `u` (which stands for
  itself).
A text that does not follow the grammar fails with the place it got furthest to, the line there
and the rules that were expected.

The values are then read:
* a number without a point, and without an exponent unless it is hexadecimal, is a whole number:
  hexadecimal digits must fit in 32 bits and decimal ones in 64 signed bits;
* other numbers are real: `Infinity`, `-Infinity` and `NaN` as written, others rounded to the
  nearest binary64 value, which must be finite (so `+Infinity` is too large);
* an escape `\xHH` or `\uXXXX` must name a character: half of a surrogate pair does not.
Objects and arrays are compound settings; the root must be an object, whose later keys replace
earlier ones.

What is proved here:
* `isWhole_hex`: a hexadecimal literal without a point reads as a whole number.
-/

namespace Invoicing

namespace Config

namespace Json5

open Grammar

/-- The rules of the JSON5 grammar that are reported and kept, in the grammar's order. -/
inductive Rule where
  | endOfInput
  | array
  | boolean
  | charEscape
  | charLiteral
  | hexEscape
  | identifier
  | nulEscape
  | null
  | number
  | object
  | string
  | unicodeEscape
  deriving DecidableEq, Repr

/-- The place of a rule in the grammar's order. -/
def Rule.rank : Rule → Nat
  | .endOfInput => 0
  | .array => 1
  | .boolean => 2
  | .charEscape => 3
  | .charLiteral => 4
  | .hexEscape => 5
  | .identifier => 6
  | .nulEscape => 7
  | .null => 8
  | .number => 9
  | .object => 10
  | .string => 11
  | .unicodeEscape => 12

/-- The name of a rule in failure messages. -/
def Rule.name : Rule → String
  | .endOfInput => "EOI"
  | .array => "array"
  | .boolean => "boolean"
  | .charEscape => "char_escape_sequence"
  | .charLiteral => "char_literal"
  | .hexEscape => "hex_escape_sequence"
  | .identifier => "identifier"
  | .nulEscape => "nul_escape_sequence"
  | .null => "null"
  | .number => "number"
  | .object => "object"
  | .string => "string"
  | .unicodeEscape => "unicode_escape_sequence"

/-- A JSON5 parsing expression. -/
abbrev Pattern := Expr Rule

/-- These characters. -/
def lit (s : String) : Pattern := .text s.toList

/-- Any character. -/
def anyChar : Pattern := .oneOf fun _ => true

/-- An ASCII digit. -/
def digit : Pattern := .oneOf Char.isDigit

/-- An ASCII hexadecimal digit. -/
def hexDigit : Pattern :=
  .oneOf fun c => c.isDigit || ('a' ≤ c && c ≤ 'f') || ('A' ≤ c && c ≤ 'F')

/-- Whether a character ends a line: line feed, carriage return, line or paragraph separator. -/
def isLineTerminator (c : Char) : Bool :=
  c = '\n' || c = '\r' || c = '\u2028' || c = '\u2029'

/-- A line terminator. -/
def lineTerminator : Pattern := .oneOf isLineTerminator

/-- A line break: carriage return and line feed, or one line terminator. -/
def lineBreak : Pattern := .alt (lit "\r\n") lineTerminator

/-- Whether a character stands after a backslash for a fixed character. -/
def isSingleEscape (c : Char) : Bool := "'\"\\bfnrtv".toList.contains c

/-- Whether a character may not stand for itself after a backslash. -/
def isEscapeChar (c : Char) : Bool := isSingleEscape c || c.isDigit || c = 'x' || c = 'u'

/-- What may follow a backslash. -/
def escape : Pattern :=
  .alts [.call .charEscape, .call .nulEscape, .seq (lit "x") (.call .hexEscape),
    .seq (lit "u") (.call .unicodeEscape)]

/-- A character of a string between the quotes `quote`. -/
def quoted (quote : String) : Pattern :=
  .alts [.seq (lit "\\") escape, .seq (lit "\\") lineBreak,
    .seq (.notAhead (lit quote)) (.call .charLiteral)]

/-- The whole part of a decimal number: `0`, or digits not starting with `0`. -/
def wholePart : Pattern :=
  .alt (lit "0") (.seq (.oneOf fun c => '1' ≤ c && c ≤ '9') (.star digit))

/-- An exponent: `e` in any case, an optional sign and digits. -/
def exponent : Pattern :=
  .seqs [.textFold ['e'], .opt (.alt (lit "+") (lit "-")), Expr.plus digit]

/-- A decimal number: a whole part with a point and optional digits, a point and digits, or a
whole part, each with an optional exponent. -/
def decimal : Pattern :=
  .alts [.seqs [wholePart, lit ".", .star digit, .opt exponent],
    .seqs [lit ".", Expr.plus digit, .opt exponent],
    .seq wholePart (.opt exponent)]

/-- The start of a name: a letter, `$` or `_`, or an escape `\uXXXX`. -/
def nameStart : Pattern :=
  .alt (.seq (.ahead (.oneOf fun c => Categories.isLetter c || c = '$' || c = '_'))
      (.call .charLiteral))
    (.seq (lit "\\u") (.call .unicodeEscape))

/-- A later character of a name: a start, or a mark, digit, connector or joiner. -/
def namePart : Pattern :=
  .alt nameStart
    (.seq (.ahead (.oneOf fun c => Categories.isNonspacingMark c || Categories.isDiacritic c ||
        Categories.isDecimalDigit c || Categories.isConnector c || c = '\u200C' || c = '\u200D'))
      (.call .charLiteral))

/-- A value. -/
def value : Pattern :=
  .alts [.call .null, .call .boolean, .call .string, .call .number, .call .object, .call .array]

/-- A member of an object: a key, a colon and a value. -/
def member : Pattern := .seqs [.alt (.call .identifier) (.call .string), lit ":", value]

/-- The body of each rule. -/
def Rule.body : Rule → Pattern
  | .endOfInput => .finish
  | .array =>
    .alt (.seqs [lit "[", lit "]"])
      (.seqs [lit "[", value, .star (.seq (lit ",") value), .opt (lit ","), lit "]"])
  | .boolean => .alt (lit "true") (lit "false")
  | .charEscape =>
    .alt (.oneOf isSingleEscape)
      (.seq (.notAhead (.oneOf fun c => isEscapeChar c || isLineTerminator c)) anyChar)
  | .charLiteral => .seq (.notAhead (.alt (lit "\\") lineTerminator)) anyChar
  | .hexEscape => Expr.times 2 hexDigit
  | .identifier => .seq nameStart (.star namePart)
  | .nulEscape => lit "0"
  | .null => lit "null"
  | .number =>
    .seq (.opt (.alt (lit "+") (lit "-")))
      (.alts [.seq (.textFold ['0', 'x']) (Expr.plus hexDigit), decimal, lit "Infinity",
        lit "NaN"])
  | .object =>
    .alt (.seqs [lit "\x7b", lit "\x7d"])
      (.seqs [lit "\x7b", member, .star (.seq (lit ",") member), .opt (lit ","), lit "\x7d"])
  | .string =>
    .alt (.seqs [lit "\"", .star (quoted "\""), lit "\""])
      (.seqs [lit "'", .star (quoted "'"), lit "'"])
  | .unicodeEscape => Expr.times 4 hexDigit

/-- The kind of each rule: objects, arrays and the end are plain, names and strings compound,
the rest atomic. -/
def Rule.kind : Rule → Option Atomicity
  | .endOfInput | .array | .object => none
  | .identifier | .string => some .compound
  | _ => some .atomic

/-- Whether a character is a blank between tokens. -/
def isBlank (c : Char) : Bool :=
  c = '\t' || c = '\x0B' || c = '\x0C' || c = ' ' || c = '\u00A0' || c = '\uFEFF' ||
    Categories.isSpaceSeparator c || isLineTerminator c

/-- The JSON5 grammar. -/
def grammar : RuleSet Rule where
  body := Rule.body
  kind := Rule.kind
  blank := .oneOf isBlank
  comment :=
    .alt (.seqs [lit "/*", .star (.seq (.notAhead (lit "*/")) anyChar), lit "*/"])
      (.seq (lit "//") (.star (.seq (.notAhead lineTerminator) anyChar)))

/-- A whole text: a value and the end. -/
def document : Pattern := .seqs [.text [], value, .call .endOfInput]

/-- The value of hexadecimal digits. -/
def hexDigits (cs : List Char) : Nat :=
  cs.foldl (fun n c =>
    let d := if c.isDigit then c.toNat - 48
      else if 'a' ≤ c && c ≤ 'f' then c.toNat - 87
      else c.toNat - 55
    n * 16 + d) 0

/-- The text a string piece stands for. -/
def piece : Node Rule → Except String (List Char)
  | .mk .charLiteral s _ => .ok s
  | .mk .charEscape s _ =>
    .ok (match s with
      | ['b'] => ['\x08']
      | ['f'] => ['\x0C']
      | ['n'] => ['\n']
      | ['r'] => ['\r']
      | ['t'] => ['\t']
      | ['v'] => ['\x0B']
      | s => s)
  | .mk .nulEscape _ _ => .ok ['\x00']
  | .mk .hexEscape s _ | .mk .unicodeEscape s _ =>
    let n := hexDigits s
    if n < 0xD800 ∨ (0xDFFF < n ∧ n < 0x110000) then .ok [Char.ofNat n]
    else .error "error parsing hex prefix"
  | _ => .ok []

/-- The text of a string or a name from its pieces. -/
def pieces : List (Node Rule) → Except String (List Char)
  | [] => .ok []
  | n :: rest => do
    let first ← piece n
    let more ← pieces rest
    pure (first ++ more)

/-- Whether a number is hexadecimal: `0x` or `0X` and more. -/
def isHexLiteral (s : List Char) : Bool :=
  2 < s.length && (s.take 2 = ['0', 'x'] || s.take 2 = ['0', 'X'])

/-- Whether a number reads as a whole number: no point, no exponent unless hexadecimal, and
not infinite or not a number. -/
def isWhole (s : List Char) : Bool :=
  !s.contains '.' && (isHexLiteral s || (!s.contains 'e' && !s.contains 'E')) &&
    !(["Infinity", "-Infinity", "+Infinity", "NaN", "-NaN", "+NaN"].map String.toList).contains s

theorem isWhole_hex (d : Char) (rest : List Char) (hd : d = 'x' ∨ d = 'X')
    (hdot : '.' ∉ rest) : isWhole ('0' :: d :: '0' :: rest) = true := by
  rcases hd with rfl | rfl <;> simp [isWhole, isHexLiteral, hdot]

/-- A whole number in decimal with an optional sign, if it fits in 64 signed bits. -/
def signedDecimal? (s : List Char) : Option Int :=
  let (neg, ds) := match s with
    | '-' :: r => (true, r)
    | '+' :: r => (false, r)
    | r => (false, r)
  if ds.isEmpty || !ds.all Char.isDigit then none
  else
    let n := ds.foldl (fun n c => n * 10 + (c.toNat - 48)) 0
    if neg then (if n ≤ Nat.pow 2 63 then some (-(n : Int)) else none)
    else if n < Nat.pow 2 63 then some n else none

/-- The setting a number stands for. -/
def number (s : List Char) : Except String Setting :=
  if isWhole s then
    if isHexLiteral s then
      let n := hexDigits (s.drop 2)
      if n < Nat.pow 2 32 then .ok (.int n) else .error "error parsing hex"
    else
      match signedDecimal? s with
      | some i => .ok (.int i)
      | none => .error "error parsing integer"
  else if s = "Infinity".toList then .ok (.real (.infinite false))
  else if s = "-Infinity".toList then .ok (.real (.infinite true))
  else if s = "NaN".toList || s = "-NaN".toList then .ok (.real .nan)
  else
    match Floating.read? s with
    | some (.finite x) => .ok (.real (.finite x))
    | some _ => .error "error parsing number: too large"
    | none => .error "error parsing number"

mutual

/-- The setting a value stands for, once everything inside it reads. -/
def settingOf : Node Rule → Except String Setting
  | .mk .null _ _ => .ok .nil
  | .mk .boolean s _ => .ok (.bool (s = "true".toList))
  | .mk .string _ inner => (pieces inner).map fun cs => .text (String.ofList cs)
  | .mk .identifier _ inner => (pieces inner).map fun cs => .text (String.ofList cs)
  | .mk .number s _ => number s
  | .mk .object _ inner => (checkAll inner).map fun _ => .map
  | .mk .array _ inner => (checkAll inner).map fun _ => .seq
  | .mk _ _ _ => .ok .nil

/-- Reads every value of a list in order, for its failures. -/
def checkAll : List (Node Rule) → Except String Unit
  | [] => .ok ()
  | n :: rest => (settingOf n).bind fun _ => checkAll rest

end

/-- The members of an object from its keys and values, later keys replacing earlier ones. -/
def members : List (Node Rule) → List (String × Setting) → Except String (List (String × Setting))
  | key :: v :: rest, acc => do
    let k ← settingOf key
    let name := match k with
      | .text s => s
      | _ => ""
    let s ← settingOf v
    members rest ((acc.filter (·.1 ≠ name)) ++ [(name, s)])
  | _, acc => .ok acc

/-- Reads a JSON5 text: the members of its root object, or the root that is no object. -/
def read (text : String) : Except String (Sum Setting (List (String × Setting))) :=
  let input := text.toList
  match grammar.parse document input with
  | .error t => .error (t.report input Rule.rank Rule.name)
  | .ok (.mk .object _ inner :: _) => (members inner []).map .inr
  | .ok (root :: _) => (settingOf root).map .inl
  | .ok [] => .ok (.inr [])

end Json5

end Config

end Invoicing
