import Invoicing.Config.Setting
import Invoicing.Json.Token
import Invoicing.Text.Blank

/-!
# INI settings

An INI document is read character by character:
* blanks and line breaks between entries are passed;
* `;` or `#` starts a comment to the end of the line, but only in the first column;
* `[name]` starts a section, whose entries become a map at the root;
* anything else is a key, read up to the next `=` or `:` (across line breaks), then trimmed;
* after the `=` or `:` and the blanks of the line, the value is read to the end of the line and
  trimmed; when it starts with `"` or `'`, the quote is dropped, the text up to the matching
  quote (across line breaks) is taken with the rest of the line after it, and the two are
  trimmed together.
In keys, names and values a backslash escapes: `\0`, `\a`, `\b`, `\t`, `\r`, `\n`, `\xHHHH`, a
line break (dropped), or any other character for itself.

Values are texts. A failure names its line and column (from 1) and what was expected.
-/

namespace Invoicing

namespace Ini

open Config

/-- Where reading stands: the characters left, and the line and column of the current one. -/
structure Cursor where
  rest : List Char
  line : Nat
  col : Nat

/-- A reader over the document; a failure is its text. -/
abbrev Reader := StateT Cursor (Except String)

/-- The current character. -/
def current : Reader (Option Char) := do return (← get).rest.head?

/-- Moves to the next character, counting lines and columns. -/
def bump : Reader Unit :=
  modify fun c =>
    match c.rest with
    | [] => c
    | _ :: rest =>
      match rest.head? with
      | some '\n' => ⟨rest, c.line + 1, 0⟩
      | some _ => ⟨rest, c.line, c.col + 1⟩
      | none => ⟨rest, c.line, c.col⟩

/-- Fails with the place of the current character. -/
def fail {α : Type} (message : String) : Reader α := do
  let c ← get
  throw (toString (c.line + 1) ++ ":" ++ toString (c.col + 1) ++ " " ++ message)

/-- Passes characters while `p` holds. -/
def skipWhile (p : Char → Bool) : Nat → Reader Unit
  | 0 => pure ()
  | fuel + 1 => do
    match ← current with
    | some c => if p c then bump; skipWhile p fuel else pure ()
    | none => pure ()

/-- Passes a comment with its line break. -/
def skipComment : Nat → Reader Unit
  | 0 => pure ()
  | fuel + 1 => do
    match ← current with
    | some c => bump; if c = '\n' then pure () else skipComment fuel
    | none => pure ()

/-- How the stopping characters of a text are shown in a message. -/
def endpointText (stops : List (Option Char)) : String :=
  let one (s : Option Char) : String :=
    match s with
    | some c => "Some('" ++ (if c = '\n' then "\\n" else if c = '\r' then "\\r" else String.singleton c) ++ "')"
    | none => "None"
  "[" ++ ", ".intercalate (stops.map one) ++ "]"

/-- The current character, or the failure of a text that ends before a stop. -/
def charOrEnd (stops : List (Option Char)) : Reader Char := do
  match ← current with
  | some c => pure c
  | none => fail ("expecting \"" ++ endpointText stops ++ "\" but found EOF.")

/-- Four characters of a `\x` escape. -/
def hexCode (stops : List (Option Char)) : Nat → List Char → Reader (List Char)
  | 0, acc => pure acc.reverse
  | n + 1, acc => do
    bump
    let ch ← charOrEnd stops
    if ch = '\\' then
      bump
      if (← current) ≠ some '\n' then
        fail ("expecting \"\\\\n\" but found \"" ++
          (match ← current with | some c => "Some(" ++ toString (repr c) ++ ")" | none => "None") ++ "\".")
    hexCode stops n (ch :: acc)

/-- Reads text up to one of the stops (not passed), with escapes. -/
def readUntil (stops : List (Option Char)) : Nat → String → Reader String
  | 0, acc => pure acc
  | fuel + 1, acc => do
    if stops.contains (← current) then return acc
    let ch ← charOrEnd stops
    let acc ← if ch = '\\' then do
        bump
        let e ← charOrEnd stops
        if e = '0' then pure (acc.push '\x00')
        else if e = 'a' then pure (acc.push '\x07')
        else if e = 'b' then pure (acc.push '\x08')
        else if e = 't' then pure (acc.push '\t')
        else if e = 'r' then pure (acc.push '\r')
        else if e = 'n' then pure (acc.push '\n')
        else if e = '\n' then pure acc
        else if e = 'x' then do
          let code ← hexCode stops 4 []
          match hexNumberOf code with
          | some n =>
            if n < 0xD800 ∨ (0xDFFF < n ∧ n < 0x110000) then pure (acc.push (Char.ofNat n))
            else fail "unknown character in \\xHH form"
          | none => fail "unknown character in \\xHH form"
        else pure (acc.push e)
      else pure (acc.push ch)
    bump
    readUntil stops fuel acc
where
  /-- The value of hexadecimal digits. -/
  hexNumberOf (cs : List Char) : Option Nat :=
    cs.foldl (fun acc c => acc.bind fun n => (hexValue? c).map fun d => n * 16 + d) (some 0)

/-- Whether a character is passed between entries. -/
def between (c : Char) : Bool := isBlank c

/-- Whether a character is a blank within a line. -/
def inLine (c : Char) : Bool := c = '\t' ∨ (isBlank c ∧ c ≠ '\n' ∧ c ≠ '\r')

/-- A text trimmed of blanks at both ends. -/
def trim (s : String) : String := trimBlanks s

/-- A value: a quoted text, if the value starts with a quote, and the rest of the line,
trimmed together. -/
def value (budget : Nat) : Reader String := do
  let eol := [some '\n', some '\r', none]
  match ← current with
  | none => pure ""
  | some q =>
    if q = '"' ∨ q = '\'' then
      bump
      let inner ← readUntil [some q] budget ""
      bump
      let rest ← readUntil eol budget ""
      pure (trim (inner ++ rest))
    else
      pure (trim (← readUntil eol budget ""))

/-- The entries of the document: the sections in order, `none` for the one before any header,
each with its entries in order. -/
def entries (budget : Nat) : Nat → String → Option String →
    List (Option String × List (String × String)) →
    Reader (List (Option String × List (String × String)))
  | 0, _, _, acc => pure acc
  | fuel + 1, key, sec, acc => do
    skipWhile between budget
    match ← current with
    | none => pure acc
    | some c =>
      if c = ';' ∨ c = '#' then
        if 1 < (← get).col then fail "doesn't support inline comment"
        skipComment budget
        entries budget fuel key sec acc
      else if c = '[' then
        bump
        let name ← readUntil [some ']'] budget ""
        if (← current) = some ']' then bump
        let name := trim name
        entries budget fuel key (some name) (acc ++ [(some name, [])])
      else if c = '=' ∨ c = ':' then
        if key.isEmpty then fail "missing key"
        bump
        skipWhile inLine budget
        let v ← value budget
        let acc := match acc.reverse with
          | (s, es) :: rest => if s = sec then (rest.reverse ++ [(s, es ++ [(key, v)])])
            else acc ++ [(sec, [(key, v)])]
          | [] => [(sec, [(key, v)])]
        entries budget fuel "" sec acc
      else
        let k ← readUntil [some '=', some ':'] budget ""
        entries budget fuel (trim k) sec acc

/-- The settings at the root of a document, or the text of the failure. -/
def read (source : String) : Except String (List (String × Setting)) :=
  let cs := source.toList
  let budget := cs.length + 2
  let start : Cursor := ⟨cs, 0, if cs.head? = some '\n' then 0 else 1⟩
  let start := if cs.head? = some '\n' then { start with line := 1 } else start
  match (entries budget budget "" none []).run start with
  | .error e => .error e
  | .ok (sections, _) =>
    .ok (sections.foldl (fun (root : List (String × Setting)) (s, es) =>
      match s with
      | none => es.foldl (fun r (k, v) => (r.filter (·.1 ≠ k)) ++ [(k, .text v)]) root
      | some name => (root.filter (·.1 ≠ name)) ++ [(name, .map)]) [])

end Ini

end Invoicing
