import Invoicing.Toml.Lexical
import Invoicing.Config.Setting

/-!
# TOML values

A value is read by its first character:
* a quote starts a string;
* `[` an array of values separated by commas, with blanks, comments and line breaks around
  them and an optional comma at the end;
* `{` an inline table of `key = value` entries separated by commas on one line;
* a sign or a digit a date-time, else a real number, else a whole number;
* `true`, `false`, `inf` and `nan` are themselves, and anything else is reported as a string
  that lacks its quotes.

Numbers have `_` only between digits. A whole number is decimal without leading zeros, or
hexadecimal, octal or binary after `0x`, `0o`, `0b`, and fits in 64 signed bits. A real number has
a fraction or an exponent or both, and must not round to positive infinity (negative infinity is
accepted). A date-time is a date `YYYY-MM-DD` (the day within its month), optionally followed by
`T`, `t` or a blank and a time, or a time `HH:MM:SS` alone; a time may have a fraction of a
second (nine digits are kept) and an offset `Z` or `±HH:MM`. It is kept as text, written back as
`YYYY-MM-DDTHH:MM:SS`, the fraction without trailing zeros, and `Z` or the offset with its sign
(`+` for zero).

Arrays and inline tables nest at most 79 deep. In an inline table a key may not be given twice,
nor extend a value that is no table.

What is proved here:
* `offsetText_zero`: an offset of zero is written `+00:00`.
-/

namespace Invoicing

namespace Toml

open Config

mutual

/-- An entry of a table: a value with the name of its kind, a table, or an array of tables. -/
inductive Item where
  | value (s : Setting) (kind : String)
  | table (t : Table)
  | tables (ts : List Table)

/-- A table: its entries in order, and whether it was made implicitly and by a dotted key. -/
inductive Table where
  | mk (entries : List (String × Item)) (implicit dotted : Bool)

end

/-- The entries of a table. -/
def Table.entries : Table → List (String × Item)
  | .mk es _ _ => es

/-- Whether a table was made implicitly, as the parent of another. -/
def Table.implicit : Table → Bool
  | .mk _ i _ => i

/-- Whether a table was made by a dotted key. -/
def Table.dotted : Table → Bool
  | .mk _ _ d => d

/-- A table with no entries. -/
def Table.empty (implicit dotted : Bool) : Table := .mk [] implicit dotted

/-- The entry of a key. -/
def Table.find? (t : Table) (k : String) : Option Item := t.entries.lookup k

/-- Sets the entry of a key, in its place if it has one. -/
def Table.set (t : Table) (k : String) (item : Item) : Table :=
  match t with
  | .mk es i d =>
    if (es.lookup k).isSome then .mk (es.map fun (k', v) => if k' = k then (k, item) else (k', v)) i d
    else .mk (es ++ [(k, item)]) i d

/-- Removes the entry of a key. -/
def Table.remove (t : Table) (k : String) : Table :=
  match t with
  | .mk es i d => .mk (es.filter (·.1 ≠ k)) i d

/-- Sets whether a table is implicit and dotted. -/
def Table.withFlags (t : Table) (implicit dotted : Bool) : Table := .mk t.entries implicit dotted

/-- The failure of a key given twice. -/
def duplicateKey (k : String) : String := "duplicate key `" ++ k ++ "`"

/-- The failure of a dotted key that goes through a value. -/
def extendWrongType (path : List Key) (kind : String) : String :=
  "dotted key `" ++ ".".intercalate (path.map (·.name)) ++
    "` attempted to extend non-table type (" ++ kind ++ ")"

/-- Applies a change to the table at a path inside an inline table, making dotted tables on the
way; `full` is the whole path, for messages. -/
def Table.modifyInline {α : Type} (full : List Key) (f : Table → Except String (Table × α)) :
    Table → List Key → Nat → Except String (Table × α)
  | t, [], _ => f t
  | t, k :: rest, i =>
    match (t.find? k.name).getD (.table (Table.empty true true)) with
    | .table sub => do
      let (sub', a) ← Table.modifyInline full f sub rest (i + 1)
      pure (t.set k.name (.table sub'), a)
    | .value _ kind => .error (extendWrongType (full.take (i + 1)) kind)
    | .tables _ => .error (extendWrongType (full.take (i + 1)) "array")

/-- The inline table of entries read in order. -/
def tableFromPairs (pairs : List (List Key × Key × Item)) : Except String Table :=
  pairs.foldlM (fun root (path, k, item) =>
    (root.modifyInline path (fun table =>
      if table.dotted = path.isEmpty then .error (duplicateKey k.name)
      else match table.find? k.name with
        | some _ => .error (duplicateKey k.name)
        | none => .ok (table.set k.name item, ())) path 0).map (·.1))
    (Table.empty false false)

/-- An ASCII digit. -/
def digit : Parser Char := satisfy Char.isDigit

/-- The value of decimal digits. -/
def digitsValue (ds : List Char) : Nat := ds.foldl (fun n c => n * 10 + (c.toNat - 48)) 0

/-- Digits of a class after the first, each possibly after one `_`. -/
def digitsAfterFirst (p : Char → Bool) : Parser Unit := do
  let _ ← many (((satisfy p).map fun _ => ()).orElse do
    char '_'
    let _ ← ((satisfy p).cutErr).expect "digit")

/-- A decimal whole number with an optional sign, as its text. -/
def decInt : Parser (List Char) :=
  (Parser.recognize do
    let _ ← (satisfy fun c => c = '+' || c = '-').optional
    (do
        let _ ← satisfy fun c => '1' ≤ c && c ≤ '9'
        digitsAfterFirst Char.isDigit).orElse
      (digit.map fun _ => ())).label "integer"

/-- Digits that may start with zero, as their text. -/
def zeroPrefixableInt : Parser (List Char) :=
  Parser.recognize do
    let _ ← digit
    digitsAfterFirst Char.isDigit

/-- A fraction: a point and digits. -/
def frac : Parser Unit := do
  char '.'
  let _ ← (zeroPrefixableInt.cutErr).expect "digit"

/-- An exponent: `e` or `E`, an optional sign and digits. -/
def exponent : Parser Unit := do
  let _ ← satisfy fun c => c = 'e' || c = 'E'
  let _ ← (satisfy fun c => c = '+' || c = '-').optional
  let _ ← zeroPrefixableInt.cutErr

/-- The text of a real number: a whole number, then an exponent, or a fraction and an optional
exponent. -/
def floatText : Parser (List Char) :=
  Parser.recognize do
    let _ ← decInt
    exponent.orElse (do frac; let _ ← exponent.optional)

/-- `inf` or `nan` with an optional sign. -/
def specialFloat : Parser Floating := do
  let sign ← (satisfy fun c => c = '+' || c = '-').optional
  let v ← (do literal "inf"; pure (Floating.infinite false)).orElse
    (do literal "nan"; pure Floating.nan)
  pure (if sign = some '-' then (match v with
      | .infinite _ => .infinite true
      | other => other) else v)

/-- A real number. -/
def float : Parser Floating :=
  ((floatText.andThen (Parser.cutErr do
      let text ← takeAll fun _ => true
      match Floating.read? (text.filter (· ≠ '_')) with
      | some (.infinite false) => backtrack
      | some x => pure x
      | none => failAt false 0 (some "invalid float literal"))).orElse specialFloat).label
    "floating-point number"

/-- The value of digits in a radix. -/
def radixValue (radix : Nat) (ds : List Char) : Nat :=
  ds.foldl (fun n c => n * radix + (hexDigit? c).getD 0) 0

/-- A whole number after a prefix, in a radix. -/
def radixInt (radix : Nat) (name pre : String) (p : Char → Bool) : Parser Int :=
  (((do
      literal pre
      Parser.recognize (Parser.cutErr do
        let _ ← satisfy p
        digitsAfterFirst p)).label name).tryMap fun ds =>
    let v := radixValue radix (ds.filter (· ≠ '_'))
    if v < Nat.pow 2 63 then .ok (v : Int) else .error "number too large to fit in target type")

/-- A decimal whole number from its text, if it fits in 64 signed bits. -/
def decimalValue (text : List Char) : Except String Int :=
  let cs := text.filter (· ≠ '_')
  let (neg, ds) := match cs with
    | '-' :: r => (true, r)
    | '+' :: r => (false, r)
    | r => (false, r)
  let n := digitsValue ds
  if neg then
    if n ≤ Nat.pow 2 63 then .ok (-(n : Int)) else .error "number too small to fit in target type"
  else if n < Nat.pow 2 63 then .ok (n : Int) else .error "number too large to fit in target type"

/-- A whole number. -/
def integer : Parser Int := do
  match ← peekN 2 with
  | ['0', 'x'] => (radixInt 16 "hexadecimal integer" "0x" isHexDigit).cutErr
  | ['0', 'o'] => (radixInt 8 "octal integer" "0o" fun c => '0' ≤ c && c ≤ '7').cutErr
  | ['0', 'b'] => (radixInt 2 "binary integer" "0b" fun c => c = '0' || c = '1').cutErr
  | _ => decInt.andThen ((takeAll fun _ => true).tryMap decimalValue).cutErr

/-- Exactly `n` digits with their value. -/
def unsignedDigits (least most : Nat) : Parser Nat := (takeWhile least most Char.isDigit).map digitsValue

/-- Two digits whose value lies in a range. -/
def ranged (least most : Nat) : Parser Nat :=
  (unsignedDigits 2 2).tryMap fun d =>
    if least ≤ d ∧ d ≤ most then .ok d else .error "value is out of range"

/-- Whether a year is a leap year. -/
def isLeap (y : Nat) : Bool := y % 4 = 0 && (y % 100 ≠ 0 || y % 400 = 0)

/-- The number of days of a month. -/
def monthDays (y m : Nat) : Nat :=
  if m = 2 then (if isLeap y then 29 else 28)
  else if m = 4 ∨ m = 6 ∨ m = 9 ∨ m = 11 then 30 else 31

/-- A date: year, month and day. -/
def fullDate : Parser (Nat × Nat × Nat) := do
  let y ← unsignedDigits 4 4
  char '-'
  let m ← (ranged 1 12).cutErr
  (char '-').cutErr
  let dayStart := (← get).pos
  let d ← (ranged 1 31).cutErr
  if monthDays y m < d then failAt true dayStart (some "value is out of range")
  else pure (y, m, d)

/-- A time of day: hour, minute, second and nanoseconds. -/
structure Time where
  hour : Nat
  minute : Nat
  second : Nat
  nanos : Nat
  deriving DecidableEq, Repr

/-- A fraction of a second in nanoseconds, digits past the ninth dropped. -/
def secondFraction : Parser Nat :=
  (do char '.'; takeWhile 1 0x10FFFFFF Char.isDigit).tryMap fun ds =>
    let kept := ds.take 9
    .ok (digitsValue kept * Nat.pow 10 (9 - kept.length))

/-- A time: hour, minute and second, with an optional fraction. -/
def partialTime : Parser Time := do
  let h ← ranged 0 23
  char ':'
  Parser.cutErr do
    let m ← ranged 0 59
    char ':'
    let s ← ranged 0 60
    let f ← secondFraction.optional
    pure ⟨h, m, s, f.getD 0⟩

/-- An offset: `Z` (none) or minutes east. -/
def timeOffset : Parser (Option Int) :=
  (((satisfy fun c => c = 'Z' || c = 'z').map fun _ => none).orElse do
    let sign ← satisfy fun c => c = '+' || c = '-'
    let (h, m) ← Parser.cutErr do
      let h ← ranged 0 23
      char ':'
      let m ← ranged 0 59
      pure (h, m)
    let minutes : Int := h * 60 + m
    pure (some (if sign = '-' then -minutes else minutes))).label "time offset"

/-- A number in decimal, with zeros in front up to a width. -/
def pad (width n : Nat) : String :=
  let s := toString n
  String.ofList (List.replicate (width - s.length) '0') ++ s

/-- The text of a time. -/
def Time.text (t : Time) : String :=
  let base := pad 2 t.hour ++ ":" ++ pad 2 t.minute ++ ":" ++ pad 2 t.second
  if t.nanos = 0 then base
  else base ++ "." ++ String.ofList ((pad 9 t.nanos).toList.reverse.dropWhile (· = '0')).reverse

/-- The text of an offset. -/
def offsetText : Option Int → String
  | none => "Z"
  | some m => (if m < 0 then "-" else "+") ++ pad 2 (m.natAbs / 60) ++ ":" ++ pad 2 (m.natAbs % 60)

theorem offsetText_zero : offsetText (some 0) = "+00:00" := by decide

/-- A date-time, a date or a time, as its text. -/
def dateTime : Parser String :=
  ((do
      let (y, m, d) ← fullDate
      let date := pad 4 y ++ "-" ++ pad 2 m ++ "-" ++ pad 2 d
      let time ← (do
          let _ ← satisfy fun c => c = 'T' || c = 't' || c = ' '
          let t ← partialTime
          let o ← timeOffset.optional
          pure (t, o)).optional
      match time with
      | none => pure date
      | some (t, o) => pure (date ++ "T" ++ t.text ++ (o.map offsetText).getD "")).label
    "date-time").orElse ((partialTime.map Time.text).label "time")

/-- The reader of nested values, or the failure of nesting too deep. -/
def nested (inner : Option (Parser Item)) : Parser (Parser Item) := do
  match inner with
  | some p => pure p
  | none => failAt false (← get).pos (some "recursion limit exceeded")

/-- An array, with the reader of its values. -/
def array (inner : Option (Parser Item)) : Parser Item := do
  char '['
  Parser.cutErr do
    let p ← nested inner
    let _ ← (do
      let _ ← separated1 (do wsCommentNewline; let v ← p; wsCommentNewline; pure v) (char ',')
      let _ ← (char ',').optional).optional
    wsCommentNewline
  (((char ']').cutErr).label "array").expect "`]`"
  pure (.value .seq "array")

/-- An entry of an inline table: the path, the last key and the value. -/
def inlineEntry (p : Parser Item) : Parser (List Key × Key × Item) := do
  let ks ← key
  let v ← Parser.cutErr do
    let _ ← ((char '=').expect "`.`").expect "`=`"
    let _ ← ws
    let v ← p
    let _ ← ws
    pure v
  match ks.getLast? with
  | some k => pure (ks.dropLast, k, v)
  | none => backtrack

/-- An inline table, with the reader of its values. -/
def inlineTable (inner : Option (Parser Item)) : Parser Item := do
  char '\x7b'
  let t ← ((do
      let p ← nested inner
      let entries ← separated0 (inlineEntry p) (char ',')
      let _ ← ws
      pure entries).tryMap tableFromPairs).cutErr
  (((char '\x7d').cutErr).label "inline table").expect "`\x7d`"
  pure (.table t)

/-- A parser that stands for a string without its quotes in failures. -/
def asString (p : Parser Item) : Parser Item := ((p.label "string").expect "`\"`").expect "`'`"

/-- A value, with the reader of values nested in it. -/
def valueWith (inner : Option (Parser Item)) : Parser Item := do
  match ← peekChar with
  | none => backtrack
  | some c =>
    if c = '"' || c = '\'' then return .value (.text (← string)) "string"
    else if c = '[' then array inner
    else if c = '\x7b' then inlineTable inner
    else if c = '+' || c = '-' || c.isDigit then
      choice [dateTime.map (fun t => .value (.text t) "datetime"),
        float.map (fun x => .value (.real x) "float"),
        integer.map (fun i => .value (.int i) "integer")]
    else if c = '_' then (integer.map fun i => .value (.int i) "integer").expect "leading digit"
    else if c = '.' then (float.map fun x => .value (.real x) "float").expect "leading digit"
    else if c = 't' then asString do
      (literal "true").cutErr
      pure (.value (.bool true) "boolean")
    else if c = 'f' then asString do
      (literal "false").cutErr
      pure (.value (.bool false) "boolean")
    else if c = 'i' then asString do
      literal "inf"
      pure (.value (.real (.infinite false)) "float")
    else if c = 'n' then asString do
      literal "nan"
      pure (.value (.real .nan) "float")
    else asString backtrack

/-- A value that may nest `limit` levels of arrays and inline tables. -/
def value : Nat → Parser Item
  | 0 => valueWith none
  | n + 1 => valueWith (some (value n))

end Toml

end Invoicing
