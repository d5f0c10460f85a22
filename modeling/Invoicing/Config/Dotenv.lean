import Invoicing.Text.Blank
import Invoicing.Text.Alphanumeric

/-!
# Environment files

An environment file (`.env`) holds `NAME=value` lines. Reading one adds each variable to the
environment unless it is already set, line after line; the first line that does not read ends
the reading, and what came before it stays.

**Lines.** A logical line is one physical line, or several when a quote or an escape is still
open at the end of one. While lines are joined a backslash passes the character after it, also
inside single quotes. A line whose text starts, after blanks, with `#` is empty. A `#` right
after a blank outside quotes starts a comment, which is cut off. A text that ends inside a
quote or an escape, or after a trailing blank with no line break, does not read.

**Entries.** After blanks, an entry is an optional `export`, a name (an ASCII letter or `_`,
then letters, digits, `_` and `.`), `=`, and a value. In a value:
* `'…'` is taken literally and `"…"` allows the escapes `\\`, `\'`, `\"`, `\$`, `\ ` and `\n`,
  as does the unquoted text;
* outside single quotes `$NAME` and `${NAME}` stand for the variable's value in the
  environment, or else the value an earlier line of the file gave it, or else nothing; a bare
  name runs over all letters and digits, not only ASCII ones;
* outside quotes a blank ends the value; only blanks and a comment may follow.
-/

namespace Invoicing

namespace Dotenv

/-- Where the joining of lines stands after a character. -/
inductive Joint where
  | complete
  | blank
  | escape
  | strongOpen
  | strongOpenEscape
  | weakOpen
  | weakOpenEscape
  deriving DecidableEq, Repr

/-- The state after one more character, or `none` when a `#` after a blank starts a comment. -/
def Joint.next : Joint → Char → Option Joint
  | .blank, c =>
    if c = '#' then none
    else some (if c = '\\' then .escape else if c = '"' then .weakOpen
      else if c = '\'' then .strongOpen else .complete)
  | .escape, _ => some .complete
  | .complete, c =>
    some (if isBlank c ∧ c ≠ '\n' ∧ c ≠ '\r' then .blank else if c = '\\' then .escape
      else if c = '"' then .weakOpen else if c = '\'' then .strongOpen else .complete)
  | .weakOpen, c =>
    some (if c = '\\' then .weakOpenEscape else if c = '"' then .complete else .weakOpen)
  | .weakOpenEscape, _ => some .weakOpen
  | .strongOpen, c =>
    some (if c = '\\' then .strongOpenEscape else if c = '\'' then .complete else .strongOpen)
  | .strongOpenEscape, _ => some .strongOpen

/-- Runs the joint over a physical line from `j`: the state at its end, or the position of a
comment's `#`. -/
def scan : Joint → List Char → Nat → Except Nat Joint
  | j, [], _ => .ok j
  | j, c :: cs, i =>
    match j.next c with
    | none => .error i
    | some j' => scan j' cs (i + 1)

/-- The physical lines of a text, each with its line feed. -/
def physical (cs : List Char) : List (List Char) :=
  let (lines, last) := cs.foldl (fun (acc : List (List Char) × List Char) c =>
    if c = '\n' then ((acc.2 ++ [c]) :: acc.1, []) else (acc.1, acc.2 ++ [c])) ([], [])
  (if last.isEmpty then lines else last :: lines).reverse

/-- A line without its final line feed and the carriage return before it. -/
def chomp (cs : List Char) : List Char :=
  match cs.reverse with
  | '\n' :: '\r' :: rest => rest.reverse
  | '\n' :: rest => rest.reverse
  | _ => cs

/-- The next logical line from the physical lines: `none` at the end, `some (.error ())` for a
text that ends unfinished; with the physical lines left. -/
def nextLine (buf : List Char) (j : Joint) (started : Bool) :
    List (List Char) → Option (Except Unit (List Char)) × List (List Char)
  | [] => (if started then some (.error ()) else none, [])
  | l :: rest =>
    let text := buf ++ l
    if (dropBlanks text).head? = some '#' then (some (.ok []), rest)
    else
      match scan j l 0 with
      | .error i => (some (.ok (buf ++ l.take i)), rest)
      | .ok .complete => (some (.ok (chomp text)), rest)
      | .ok j' => nextLine text j' true rest

theorem nextLine_rest_length (buf : List Char) (j : Joint) (started : Bool)
    (ls : List (List Char)) : (nextLine buf j started ls).2.length ≤ ls.length := by
  induction ls generalizing buf j started with
  | nil => simp [nextLine]
  | cons l rest ih =>
    simp only [nextLine]
    split
    · simp
    · split
      · simp
      · simp
      · rename_i j' _ _
        have := ih (buf ++ l) j' true
        simp only [List.length_cons]
        omega

/-- The logical lines of physical lines, up to and with the first that ends unfinished. -/
def logical : Nat → List (List Char) → List (Except Unit (List Char))
  | 0, _ => []
  | fuel + 1, ls =>
    match nextLine [] .complete false ls with
    | (none, _) => []
    | (some (.error ()), _) => [.error ()]
    | (some (.ok line), rest) => .ok line :: logical fuel rest

/-- How a value refers to a variable: not at all, by `$NAME`, or by `${NAME}`. -/
inductive Reference where
  | none
  | bare
  | braced
  deriving DecidableEq, Repr

/-- The reading of a value so far. -/
structure ValueScan where
  strong : Bool := false
  weak : Bool := false
  escaped : Bool := false
  expectingEnd : Bool := false
  output : String := ""
  reference : Reference := .none
  name : String := ""

/-- One more character of a value, with `resolve` giving the value of a variable; `none` when a
comment ends the value. -/
def ValueScan.step (resolve : String → String) (v : ValueScan) (c : Char) :
    Except Unit (Option ValueScan) :=
  if v.expectingEnd then
    if c = ' ' ∨ c = '\t' then .ok (some v) else if c = '#' then .ok none else .error ()
  else if v.escaped then
    if c = '\\' ∨ c = '\'' ∨ c = '"' ∨ c = '$' ∨ c = ' ' then
      .ok (some { v with output := v.output.push c, escaped := false })
    else if c = 'n' then .ok (some { v with output := v.output.push '\n', escaped := false })
    else .error ()
  else if v.strong then
    if c = '\'' then .ok (some { v with strong := false })
    else .ok (some { v with output := v.output.push c })
  else if v.reference ≠ .none then
    if Alphanumeric.isAlphanumeric c then .ok (some { v with name := v.name.push c })
    else if v.reference = .bare then
      if c = '{' ∧ v.name.isEmpty then .ok (some { v with reference := .braced })
      else
        let out := v.output ++ resolve v.name
        if c = '$' then .ok (some { v with output := out, name := "" })
        else .ok (some { v with output := out.push c, name := "", reference := .none })
    else if c = '}' then
      .ok (some { v with output := v.output ++ resolve v.name, name := "", reference := .none })
    else .ok (some { v with name := v.name.push c })
  else if c = '$' then .ok (some { v with reference := .bare })
  else if v.weak then
    if c = '"' then .ok (some { v with weak := false })
    else if c = '\\' then .ok (some { v with escaped := true })
    else .ok (some { v with output := v.output.push c })
  else if c = '\'' then .ok (some { v with strong := true })
  else if c = '"' then .ok (some { v with weak := true })
  else if c = '\\' then .ok (some { v with escaped := true })
  else if c = ' ' ∨ c = '\t' then .ok (some { v with expectingEnd := true })
  else .ok (some { v with output := v.output.push c })

/-- Reads the characters of a value from `v`. -/
def scanValue (resolve : String → String) : ValueScan → List Char → Except Unit String
  | v, [] =>
    if v.reference = .braced ∨ v.strong ∨ v.weak then .error ()
    else .ok (v.output ++ resolve v.name)
  | v, c :: cs =>
    match v.step resolve c with
    | .error () => .error ()
    | .ok none => .ok v.output
    | .ok (some v') => scanValue resolve v' cs

/-- Whether a character may start a name. -/
def nameStart (c : Char) : Bool := ('a' ≤ c ∧ c ≤ 'z') ∨ ('A' ≤ c ∧ c ≤ 'Z') ∨ c = '_'

/-- Whether a character may continue a name. -/
def nameChar (c : Char) : Bool := nameStart c ∨ c.isDigit ∨ c = '.'

/-- A name at the front of a line, with the rest. -/
def takeName (cs : List Char) : Except Unit (String × List Char) :=
  match cs with
  | c :: _ =>
    if nameStart c then .ok (String.ofList (cs.takeWhile nameChar), cs.dropWhile nameChar)
    else .error ()
  | [] => .error ()

/-- The rest of a line after its `=`. -/
def equals (cs : List Char) : Except Unit (List Char) :=
  match cs with
  | '=' :: rest => .ok rest
  | _ => .error ()

/-- The entry of a logical line, `none` for an empty line or a comment. -/
def parseLine (resolve : String → String) (line : List Char) :
    Except Unit (Option (String × String)) := do
  let cs := dropBlanks (dropBlanks line.reverse).reverse
  if cs.isEmpty ∨ cs.head? = some '#' then return none
  let (first, rest) ← takeName cs
  let rest := dropBlanks rest
  let (name, rest) ←
    if first = "export" then
      match equals rest with
      | .ok r => pure (first, r)
      | .error () => do
        let (n, r) ← takeName rest
        pure (n, ← equals (dropBlanks r))
    else pure (first, ← equals rest)
  let rest := dropBlanks rest
  if rest.isEmpty ∨ rest.head? = some '#' then return some (name, "")
  return some (name, ← scanValue resolve {} rest)

/-- Reads logical lines into the environment `env`, with `read` the values the file gave so
far, latest first. -/
def apply (env read : List (String × String)) : List (Except Unit (List Char)) →
    List (String × String)
  | [] => env
  | .error () :: _ => env
  | .ok line :: rest =>
    let resolve (n : String) : String := ((env.lookup n).orElse fun _ => read.lookup n).getD ""
    match parseLine resolve line with
    | .error () => env
    | .ok none => apply env read rest
    | .ok (some (n, v)) =>
      let env' := if (env.lookup n).isSome then env else env ++ [(n, v)]
      apply env' ((n, v) :: read) rest

/-- The environment after reading an environment file's text (see the module comment); a
leading byte-order mark is skipped. -/
def load (env : List (String × String)) (text : String) : List (String × String) :=
  let cs := match text.toList with
    | c :: rest => if c.toNat = 0xFEFF then rest else c :: rest
    | [] => []
  let lines := physical cs
  apply env [] (logical lines.length lines)

end Dotenv

end Invoicing
