/-!
# Parsers for TOML documents

The reading of a TOML document is built from small parsers over the characters of the text.
A parser either reads something and moves on, or fails. A failure records:
* whether it is final (a *cut*): an ordinary failure lets a choice try its next alternative, a
  final one ends the whole reading;
* where reading stood when it failed;
* what was being read (a *label*, such as `integer`) and what was expected there (such as
  ``newline`` or `` `=` ``), from the innermost parser outwards;
* its cause, a message of its own, when a value was read but is not acceptable.

A few parsers move the place of a failure back to where they started: a parser whose result is
checked afterwards (`tryMap`, `verify`) and one that reads again what another has taken
(`andThen`). A choice reports the failure of its last alternative.

The message of a failure is `invalid <label>` for the innermost label, then
`expected <a>, <b>, …` for everything expected, then the cause, on lines of their own.

What is proved here:
* `orElse_ok`: a choice whose first alternative reads gives that reading.
-/

namespace Invoicing

namespace Toml

/-- What a failure says about itself: what was being read, or what was expected. -/
inductive Context where
  | label (what : String)
  | expected (what : String)
  deriving DecidableEq, Repr

/-- A failure: whether it is final, where reading stood, what it says, and its cause. -/
structure Failure where
  cut : Bool
  pos : Nat
  contexts : List Context
  cause : Option String
  deriving DecidableEq, Repr

/-- Where reading stands: the characters left and the offset of the first. -/
structure Cursor where
  rest : List Char
  pos : Nat
  deriving DecidableEq, Repr

/-- A parser of TOML text. -/
abbrev Parser := StateT Cursor (Except Failure)

/-- An ordinary failure where reading stands. -/
def backtrack {α : Type} : Parser α := fun c => .error ⟨false, c.pos, [], none⟩

/-- A failure with a cause at an offset. -/
def failAt {α : Type} (cut : Bool) (pos : Nat) (cause : Option String) : Parser α :=
  fun _ => .error ⟨cut, pos, [], cause⟩

/-- The parser with its reading changed by a function. -/
def Parser.map {α β : Type} (p : Parser α) (f : α → β) : Parser β := fun c =>
  match p c with
  | .ok (a, c') => .ok (f a, c')
  | .error e => .error e

/-- The parser with its ordinary failures made final. -/
def Parser.cutErr {α : Type} (p : Parser α) : Parser α := fun c =>
  match p c with
  | .error e => .error { e with cut := true }
  | done => done

/-- The parser with a context added to its failures. -/
def Parser.context {α : Type} (p : Parser α) (ctx : Context) : Parser α := fun c =>
  match p c with
  | .error e => .error { e with contexts := e.contexts ++ [ctx] }
  | done => done

/-- The parser with a label added to its failures. -/
def Parser.label {α : Type} (p : Parser α) (what : String) : Parser α := p.context (.label what)

/-- The parser with something expected added to its failures. -/
def Parser.expect {α : Type} (p : Parser α) (what : String) : Parser α :=
  p.context (.expected what)

/-- The first parser, or, when it fails ordinarily, the second from the same place. -/
def Parser.orElse {α : Type} (p q : Parser α) : Parser α := fun c =>
  match p c with
  | .error e => if e.cut then .error e else q c
  | done => done

theorem orElse_ok {α : Type} (p q : Parser α) (c : Cursor) (a : α) (c' : Cursor)
    (h : p c = .ok (a, c')) : p.orElse q c = .ok (a, c') := by
  simp [Parser.orElse, h]

/-- The first of several parsers that reads. -/
def choice {α : Type} : List (Parser α) → Parser α
  | [] => backtrack
  | [p] => p
  | p :: rest => p.orElse (choice rest)

/-- The parser's reading, or nothing (and the place unchanged) when it fails ordinarily. -/
def Parser.optional {α : Type} (p : Parser α) : Parser (Option α) := fun c =>
  match p c with
  | .ok (a, c') => .ok (some a, c')
  | .error e => if e.cut then .error e else .ok (none, c)

/-- The parser's reading checked by a function; a refusal fails ordinarily, with its cause, where
the parser started. -/
def Parser.tryMap {α β : Type} (p : Parser α) (f : α → Except String β) : Parser β := fun c =>
  match p c with
  | .ok (a, c') =>
    match f a with
    | .ok b => .ok (b, c')
    | .error msg => .error ⟨false, c.pos, [], some msg⟩
  | .error e => .error e

/-- The parser's reading checked by a test; a refusal fails ordinarily where the parser
started. -/
def Parser.verify {α : Type} (p : Parser α) (ok : α → Bool) : Parser α := fun c =>
  match p c with
  | .ok (a, c') => if ok a then .ok (a, c') else .error ⟨false, c.pos, [], none⟩
  | .error e => .error e

/-- The text a parser reads. -/
def Parser.recognize {α : Type} (p : Parser α) : Parser (List Char) := fun c =>
  match p c with
  | .ok (_, c') => .ok (c.rest.take (c'.pos - c.pos), c')
  | .error e => .error e

/-- Reads text with a parser and then reads that text again with a second one; a failure of the
second is placed where the first started. -/
def Parser.andThen {β : Type} (p : Parser (List Char)) (q : Parser β) : Parser β := fun c =>
  match p c with
  | .ok (text, c') =>
    match q ⟨text, c.pos⟩ with
    | .ok (b, _) => .ok (b, c')
    | .error e => .error { e with pos := c.pos }
  | .error e => .error e

/-- The next character, if any, without reading it. -/
def peekChar : Parser (Option Char) := fun c => .ok (c.rest.head?, c)

/-- The next characters, up to `n`, without reading them. -/
def peekN (n : Nat) : Parser (List Char) := fun c => .ok (c.rest.take n, c)

/-- Passes `n` characters. -/
def advance (n : Nat) : Parser Unit := fun c =>
  .ok ((), ⟨c.rest.drop n, c.pos + min n c.rest.length⟩)

/-- Any one character. -/
def anyChar : Parser Char := fun c =>
  match c.rest with
  | ch :: rest => .ok (ch, ⟨rest, c.pos + 1⟩)
  | [] => .error ⟨false, c.pos, [], none⟩

/-- One character of a class. -/
def satisfy (p : Char → Bool) : Parser Char := fun c =>
  match c.rest with
  | ch :: rest => if p ch then .ok (ch, ⟨rest, c.pos + 1⟩) else .error ⟨false, c.pos, [], none⟩
  | [] => .error ⟨false, c.pos, [], none⟩

/-- One given character. -/
def char (ch : Char) : Parser Unit := fun c =>
  match c.rest with
  | x :: rest => if x = ch then .ok ((), ⟨rest, c.pos + 1⟩) else .error ⟨false, c.pos, [], none⟩
  | [] => .error ⟨false, c.pos, [], none⟩

/-- Given characters. -/
def literal (s : String) : Parser Unit := fun c =>
  let cs := s.toList
  if cs.isPrefixOf c.rest then .ok ((), ⟨c.rest.drop cs.length, c.pos + cs.length⟩)
  else .error ⟨false, c.pos, [], none⟩

/-- Characters of a class, at least `least` and at most `most`. -/
def takeWhile (least most : Nat) (p : Char → Bool) : Parser (List Char) := fun c =>
  let run := (c.rest.takeWhile p).take most
  if run.length < least then .error ⟨false, c.pos, [], none⟩
  else .ok (run, ⟨c.rest.drop run.length, c.pos + run.length⟩)

/-- Characters of a class, as many as there are. -/
def takeAll (p : Char → Bool) : Parser (List Char) := fun c =>
  let run := c.rest.takeWhile p
  .ok (run, ⟨c.rest.drop run.length, c.pos + run.length⟩)

/-- The end of the text. -/
def eof : Parser Unit := fun c =>
  if c.rest.isEmpty then .ok ((), c) else .error ⟨false, c.pos, [], none⟩

/-- Applies a parser again and again while it reads and moves on, at most `fuel` times. -/
def manyFuel {α : Type} (p : Parser α) : Nat → List α → Parser (List α)
  | 0, acc => pure acc.reverse
  | fuel + 1, acc => fun c =>
    match p c with
    | .ok (a, c') =>
      if c'.pos = c.pos then .ok ((a :: acc).reverse, c') else manyFuel p fuel (a :: acc) c'
    | .error e => if e.cut then .error e else .ok (acc.reverse, c)

/-- A parser as many times as it reads. -/
def many {α : Type} (p : Parser α) : Parser (List α) := fun c =>
  manyFuel p (c.rest.length + 1) [] c

/-- A parser at least once, then as many times as it reads. -/
def many1 {α : Type} (p : Parser α) : Parser (List α) := do
  let first ← p
  let more ← many p
  pure (first :: more)

/-- Items after the first, each after a separator; an item that fails ordinarily ends the list
before its separator. -/
def separatedFuel {α β : Type} (item : Parser α) (sep : Parser β) :
    Nat → List α → Parser (List α)
  | 0, acc => pure acc.reverse
  | fuel + 1, acc => fun c =>
    match sep c with
    | .error e => if e.cut then .error e else .ok (acc.reverse, c)
    | .ok (_, c1) =>
      match item c1 with
      | .error e => if e.cut then .error e else .ok (acc.reverse, c)
      | .ok (a, c2) => separatedFuel item sep fuel (a :: acc) c2

/-- One item or more, with separators between. -/
def separated1 {α β : Type} (item : Parser α) (sep : Parser β) : Parser (List α) := fun c =>
  match item c with
  | .error e => .error e
  | .ok (a, c') => separatedFuel item sep (c'.rest.length + 1) [a] c'

/-- Items with separators between, perhaps none. -/
def separated0 {α β : Type} (item : Parser α) (sep : Parser β) : Parser (List α) := fun c =>
  match item c with
  | .error e => if e.cut then .error e else .ok ([], c)
  | .ok (a, c') => separatedFuel item sep (c'.rest.length + 1) [a] c'

/-- A character expected, as a message shows it. -/
def showExpectedChar (c : Char) : String :=
  if c = '\n' then "newline" else "`" ++ String.singleton c ++ "`"

/-- The message of a failure: the innermost label, all that was expected, and the cause. -/
def Failure.message (f : Failure) : String :=
  let label := f.contexts.findSome? fun
    | .label l => some l
    | .expected _ => none
  let expected := f.contexts.filterMap fun
    | .expected e => some e
    | .label _ => none
  let parts := (label.map ("invalid " ++ ·)).toList ++
    (if expected.isEmpty then [] else ["expected " ++ ", ".intercalate expected]) ++
    f.cause.toList
  "\n".intercalate parts

/-- The line (from 0) and column (from 0) of an offset in a text, and the text of the line: the
column counts characters, or bytes when the character at the offset takes more than one; an
offset past the end is counted on from the last character. -/
def place (cs : List Char) (pos : Nat) : Nat × Nat × String :=
  let lines := (String.ofList cs).splitOn "\n"
  match cs.length with
  | 0 => (0, pos, lines.headD "")
  | n + 1 =>
    let at0 := min pos n
    let before := cs.take at0
    let fromStart := before.reverse.takeWhile (· ≠ '\n')
    let line := before.count '\n'
    let column := match cs[at0]? with
      | some c =>
        if c.utf8Size = 1 then fromStart.length
        else fromStart.foldl (fun n c => n + c.utf8Size) 0
      | none => fromStart.length
    (line, column + (pos - at0), lines.getD line "")

/-- The report of a failure in a document: the place, the line with a mark under it, and the
message. -/
def Failure.render (f : Failure) (source : List Char) : String :=
  let (line, column, text) := place source f.pos
  let num := toString (line + 1)
  let gutter := String.ofList (List.replicate (num.length + 1) ' ')
  "TOML parse error at line " ++ num ++ ", column " ++ toString (column + 1) ++ "\n" ++
    gutter ++ "|\n" ++
    num ++ " | " ++ text ++ "\n" ++
    gutter ++ "|" ++ String.ofList (List.replicate (column + 1) ' ') ++ "^\n" ++
    f.message ++ "\n"

end Toml

end Invoicing
