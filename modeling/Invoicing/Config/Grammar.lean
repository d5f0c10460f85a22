/-!
# Parsing expressions

An engine for parsing expression grammars whose failures name the rules that were expected
where the parse went furthest.

A grammar names its rules by a type `ρ`. Each rule has a body, an expression, and a kind:
* a plain rule lets blanks and comments stand between the parts of its sequences and
  repetitions, and keeps the rules matched inside it;
* an atomic rule lets nothing stand between parts, and neither reports nor keeps the rules
  inside it;
* a compound rule lets nothing stand between parts, but reports and keeps the rules inside it.
Expressions that are not rules (the pieces a grammar writes out) are inlined in the bodies.

A rule that fails is an attempt at the offset where it started. The engine keeps only the
attempts at the furthest offset; a rule that fails after exactly one inner attempt at its own
offset leaves that attempt in its place, and otherwise replaces the inner attempts with itself.
Inside a negative lookahead a rule that matches is an attempt too, of what was not wanted.

Every recursion spends fuel, so the engine is total; a parse out of fuel fails.

What is proved here:
* `run_zero`: with no fuel every expression fails and the attempts are unchanged.
-/

namespace Invoicing

namespace Config

namespace Grammar

/-- How a rule treats what stands between parts and the rules inside it. -/
inductive Atomicity where
  /-- Blanks and comments may stand between parts. -/
  | loose
  /-- Nothing stands between parts; inner rules are neither reported nor kept. -/
  | atomic
  /-- Nothing stands between parts; inner rules are reported and kept. -/
  | compound
  deriving DecidableEq, Repr

/-- The lookahead the engine is inside. -/
inductive Lookahead where
  | none
  | positive
  | negative
  deriving DecidableEq, Repr

/-- A parsing expression over rules named by `ρ`. -/
inductive Expr (ρ : Type) where
  /-- These characters. -/
  | text (s : List Char)
  /-- These characters, ASCII letters in any case. -/
  | textFold (s : List Char)
  /-- One character of a class. -/
  | oneOf (p : Char → Bool)
  /-- The end of the input. -/
  | finish
  /-- One expression, then the other. -/
  | seq (a b : Expr ρ)
  /-- The first expression, or else the second. -/
  | alt (a b : Expr ρ)
  /-- The expression, or nothing. -/
  | opt (a : Expr ρ)
  /-- The expression as many times as it matches. -/
  | star (a : Expr ρ)
  /-- Whether the expression matches here, consuming nothing. -/
  | ahead (a : Expr ρ)
  /-- Whether the expression fails here, consuming nothing. -/
  | notAhead (a : Expr ρ)
  /-- A rule. -/
  | call (r : ρ)

/-- An expression, then itself as many times as it matches. -/
def Expr.plus {ρ : Type} (a : Expr ρ) : Expr ρ := .seq a (.star a)

/-- An expression a number of times, one after another. -/
def Expr.times {ρ : Type} : Nat → Expr ρ → Expr ρ
  | 0, _ => .text []
  | 1, a => a
  | n + 2, a => .seq a (Expr.times (n + 1) a)

/-- Expressions one after another. -/
def Expr.seqs {ρ : Type} : List (Expr ρ) → Expr ρ
  | [] => .text []
  | [a] => a
  | a :: rest => .seq a (Expr.seqs rest)

/-- The first expression of a list that matches. -/
def Expr.alts {ρ : Type} : List (Expr ρ) → Expr ρ
  | [] => .oneOf fun _ => false
  | [a] => a
  | a :: rest => .alt a (Expr.alts rest)

/-- A grammar: the body and the kind of each rule (none for a plain rule, which keeps the kind
of where it stands), and the blanks and comments that may stand between parts. -/
structure RuleSet (ρ : Type) where
  body : ρ → Expr ρ
  kind : ρ → Option Atomicity
  blank : Expr ρ
  comment : Expr ρ

/-- A rule that matched: its name, the text it matched and the rules kept inside it. -/
inductive Node (ρ : Type) where
  | mk (rule : ρ) (text : List Char) (inner : List (Node ρ))

/-- Where the parse stands: the offset in characters and the characters left. -/
structure Cursor where
  pos : Nat
  rest : List Char

/-- The attempts at the furthest offset: rules expected, and rules not wanted. -/
structure Attempts (ρ : Type) where
  furthest : Nat
  expected : List ρ
  unexpected : List ρ

/-- The surroundings of an expression: the kind of the rule it is in and the lookahead. -/
structure Context where
  atomicity : Atomicity
  lookahead : Lookahead

/-- What a run gives: the cursor after the match and the rules kept, or nothing, with the
attempts so far. -/
abbrev Outcome (ρ : Type) := Option (Cursor × List (Node ρ)) × Attempts ρ

/-- The number of attempts recorded at an offset. -/
def Attempts.countAt {ρ : Type} (t : Attempts ρ) (pos : Nat) : Nat :=
  if t.furthest = pos then t.expected.length + t.unexpected.length else 0

/-- Records a rule tried at `pos`, where the attempts numbered `expectedMark` and
`unexpectedMark` before it and `before` attempts stood at its offset. -/
def Attempts.track {ρ : Type} (t : Attempts ρ) (ctx : Context) (rule : ρ) (pos : Nat)
    (expectedMark unexpectedMark before : Nat) : Attempts ρ :=
  if ctx.atomicity = .atomic then t
  else
    let now := t.countAt pos
    if before < now ∧ now - before = 1 then t
    else
      let t := if pos = t.furthest then
          { t with expected := t.expected.take expectedMark,
                   unexpected := t.unexpected.take unexpectedMark }
        else t
      let t := if t.furthest < pos then ⟨pos, [], []⟩ else t
      if pos = t.furthest then
        if ctx.lookahead = .negative then { t with unexpected := t.unexpected ++ [rule] }
        else { t with expected := t.expected ++ [rule] }
      else t

/-- Applies a step again and again while it matches, at most `budget` times, collecting the
rules it keeps. -/
def repeatRun {ρ : Type} (step : Cursor → Attempts ρ → Outcome ρ) :
    Nat → Cursor → Attempts ρ → List (Node ρ) → Outcome ρ
  | 0, cur, t, kept => (some (cur, kept), t)
  | budget + 1, cur, t, kept =>
    match step cur t with
    | (some (next, more), t) => repeatRun step budget next t (kept ++ more)
    | (none, t) => (some (cur, kept), t)

/-- What may stand between parts: blanks, then comments each followed by blanks. -/
def RuleSet.gap {ρ : Type} (g : RuleSet ρ) : Expr ρ :=
  .seq (.star g.blank) (.star (.seq g.comment (.star g.blank)))

/-- Runs an expression at a cursor. -/
def run {ρ : Type} (g : RuleSet ρ) : Nat → Expr ρ → Context → Cursor → Attempts ρ → Outcome ρ
  | 0, _, _, _, t => (none, t)
  | fuel + 1, e, ctx, cur, t =>
    let between (c : Cursor) (t : Attempts ρ) : Cursor × Attempts ρ :=
      if ctx.atomicity = .loose then
        match run g fuel g.gap ⟨.atomic, ctx.lookahead⟩ c t with
        | (some (c', _), t) => (c', t)
        | (none, t) => (c, t)
      else (c, t)
    match e with
    | .text s =>
      if s.isPrefixOf cur.rest then (some (⟨cur.pos + s.length, cur.rest.drop s.length⟩, []), t)
      else (none, t)
    | .textFold s =>
      let low (c : Char) : Char := if c.isUpper then Char.ofNat (c.toNat + 32) else c
      if (s.map low).isPrefixOf ((cur.rest.take s.length).map low) then
        (some (⟨cur.pos + s.length, cur.rest.drop s.length⟩, []), t)
      else (none, t)
    | .oneOf p =>
      match cur.rest with
      | c :: rest => if p c then (some (⟨cur.pos + 1, rest⟩, []), t) else (none, t)
      | [] => (none, t)
    | .finish => if cur.rest.isEmpty then (some (cur, []), t) else (none, t)
    | .seq a b =>
      match run g fuel a ctx cur t with
      | (none, t) => (none, t)
      | (some (c, first), t) =>
        let (c, t) := between c t
        match run g fuel b ctx c t with
        | (none, t) => (none, t)
        | (some (c, second), t) => (some (c, first ++ second), t)
    | .alt a b =>
      match run g fuel a ctx cur t with
      | (none, t) => run g fuel b ctx cur t
      | done => done
    | .opt a =>
      match run g fuel a ctx cur t with
      | (none, t) => (some (cur, []), t)
      | done => done
    | .star a =>
      match run g fuel a ctx cur t with
      | (none, t) => (some (cur, []), t)
      | (some (c, first), t) =>
        let step (c : Cursor) (t : Attempts ρ) : Outcome ρ :=
          let (c', t) := between c t
          run g fuel a ctx c' t
        repeatRun step (c.rest.length + 1) c t first
    | .ahead a =>
      let inner : Context :=
        ⟨ctx.atomicity, if ctx.lookahead = .negative then .negative else .positive⟩
      match run g fuel a inner cur t with
      | (some _, t) => (some (cur, []), t)
      | (none, t) => (none, t)
    | .notAhead a =>
      let inner : Context :=
        ⟨ctx.atomicity, if ctx.lookahead = .negative then .positive else .negative⟩
      match run g fuel a inner cur t with
      | (some _, t) => (none, t)
      | (none, t) => (some (cur, []), t)
    | .call r =>
      let expectedMark := if cur.pos = t.furthest then t.expected.length else 0
      let unexpectedMark := if cur.pos = t.furthest then t.unexpected.length else 0
      let before := t.countAt cur.pos
      let inner : Context := match g.kind r with
        | some a => ⟨a, ctx.lookahead⟩
        | none => ctx
      match run g fuel (g.body r) inner cur t with
      | (some (c, kept), t) =>
        let t := if ctx.lookahead = .negative then
            t.track ctx r cur.pos expectedMark unexpectedMark before
          else t
        let kept := if ctx.lookahead = .none ∧ ctx.atomicity ≠ .atomic then
            [.mk r (cur.rest.take (c.pos - cur.pos)) kept]
          else kept
        (some (c, kept), t)
      | (none, t) =>
        let t := if ctx.lookahead ≠ .negative then
            t.track ctx r cur.pos expectedMark unexpectedMark before
          else t
        (none, t)

theorem run_zero {ρ : Type} (g : RuleSet ρ) (e : Expr ρ) (ctx : Context) (cur : Cursor)
    (t : Attempts ρ) : run g 0 e ctx cur t = (none, t) := rfl

/-- Parses a whole text with an expression in a plain setting, with fuel enough for any
nesting the text can hold. The rules kept, or the attempts where the parse went furthest. -/
def RuleSet.parse {ρ : Type} (g : RuleSet ρ) (top : Expr ρ) (input : List Char) :
    Except (Attempts ρ) (List (Node ρ)) :=
  match run g (64 * (input.length + 4)) top ⟨.loose, .none⟩ ⟨0, input⟩ ⟨0, [], []⟩ with
  | (some (_, kept), _) => .ok kept
  | (none, t) => .error t

/-- Rules in the order of their ranks, each once. -/
def ordered {ρ : Type} (rank : ρ → Nat) (rs : List ρ) : List ρ :=
  let ranks := (rs.map rank).mergeSort (· ≤ ·)
  (ranks.eraseDups).filterMap fun k => rs.find? fun r => rank r = k

/-- Names in a list: `a`, `a or b`, or `a, b, or c`. -/
def enumerate (names : List String) : String :=
  match names with
  | [a] => a
  | [a, b] => a ++ " or " ++ b
  | _ =>
    match names.getLast? with
    | some last => ", ".intercalate names.dropLast ++ ", or " ++ last
    | none => ""

/-- The message of the attempts: what was not wanted and what was expected. -/
def Attempts.message {ρ : Type} (t : Attempts ρ) (rank : ρ → Nat) (name : ρ → String) :
    String :=
  let pos := (ordered rank t.expected).map name
  let neg := (ordered rank t.unexpected).map name
  match neg.isEmpty, pos.isEmpty with
  | false, false => "unexpected " ++ enumerate neg ++ "; expected " ++ enumerate pos
  | false, true => "unexpected " ++ enumerate neg
  | true, false => "expected " ++ enumerate pos
  | true, true => "unknown parsing error"

/-- The line and column, from 1, of an offset: lines end at line feeds, and a column counts
characters. -/
def lineColumn (input : List Char) (pos : Nat) : Nat × Nat :=
  let before := input.take pos
  let line := 1 + before.count '\n'
  let column := 1 + (before.reverse.takeWhile (· ≠ '\n')).length
  (line, column)

/-- The line that holds an offset, with its line feed. Where the offset is at a line break the
breaks are shown as the symbols for them; elsewhere they are left out. -/
def lineAt (input : List Char) (pos : Nat) : String :=
  let start := pos - ((input.take pos).reverse.takeWhile (· ≠ '\n')).length
  let tail := input.drop pos
  let upto := tail.takeWhile (· ≠ '\n')
  let line := (input.drop start).take (pos - start) ++ upto ++
    (if upto.length < tail.length then ['\n'] else [])
  match tail with
  | c :: _ =>
    if c = '\n' ∨ c = '\r' then
      String.ofList (line.map fun c => if c = '\r' then '␍' else if c = '\n' then '␊' else c)
    else String.ofList (line.filter fun c => c ≠ '\r' ∧ c ≠ '\n')
  | [] => String.ofList (line.filter fun c => c ≠ '\r' ∧ c ≠ '\n')

/-- The report of a failed parse: where it went furthest, the line there with a mark under the
place, and the message. -/
def Attempts.report {ρ : Type} (t : Attempts ρ) (input : List Char) (rank : ρ → Nat)
    (name : ρ → String) : String :=
  let (line, column) := lineColumn input t.furthest
  let number := toString line
  let pad := String.ofList (List.replicate number.length ' ')
  let text := lineAt input t.furthest
  let under := String.ofList ((text.toList.take (column - 1)).map fun c =>
    if c = '\t' then '\t' else ' ')
  pad ++ "--> " ++ number ++ ":" ++ toString column ++ "\n" ++
  pad ++ " |\n" ++
  number ++ " | " ++ text ++ "\n" ++
  pad ++ " | " ++ under ++ "^---\n" ++
  pad ++ " |\n" ++
  pad ++ " = " ++ t.message rank name

end Grammar

end Config

end Invoicing
