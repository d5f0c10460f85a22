/-!
# Log events and their filter

The service logs events with a level, a target (the module that emits them), a message and named
fields. Some events happen inside a span, a named stretch of work that records values for its own
fields. A filter decides which events are written. It is given as comma-separated directives:
* a level alone (`trace`, `debug`, `info`, `warn`, `error`, `off` in any case, or `0` to `5`)
  sets the level for every target;
* otherwise a directive is a target, a span part `[name{field=value}]`, or one of each in either
  order, then optionally `=` and a level; without a level every level passes. A target that
  reads as a level counts as none. Inside the brackets the name runs up to a `{`; the field
  filter is the longest tail of what stands between that `{` and the next `}` that reads as a
  field name, maybe with `=` and a value.

A directive with no span name and no field value judges events directly: of those whose target
starts the event's target and whose field names the event has, the most specific decides (the
longest target, then the most field names; a later directive with the same target and field
names replaces an earlier one). A directive with a span name or a field judges what happens
inside spans: a span it matches (the target starts the span's, the name is the span's, the span
has the fields it names and records the values it asks for) lets through, for every event
inside, the most verbose level of the directives matching it. A span is only opened when its
level passes the most verbose level of the whole filter, and an event nothing lets through is
not written.

The filter comes from `RUST_LOG` when it is set and every directive in it reads; otherwise from
the configured log level, where directives that do not read are dropped.

What is proved here:
* `allows_silent`: a directive of rank 0 alone writes nothing.
-/

namespace Invoicing

namespace Logging

/-- How severe an event is, from the most severe. -/
inductive Level where
  | error
  | warn
  | info
  | debug
  | trace
  deriving DecidableEq, Repr

/-- The verbosity of a level: 1 for errors up to 5 for traces. -/
def Level.rank : Level → Nat
  | .error => 1
  | .warn => 2
  | .info => 3
  | .debug => 4
  | .trace => 5

theorem Level.rank_pos (l : Level) : 0 < l.rank := by
  cases l <;> decide

/-- The name of a level as the log writes it. -/
def Level.name : Level → String
  | .error => "ERROR"
  | .warn => "WARN"
  | .info => "INFO"
  | .debug => "DEBUG"
  | .trace => "TRACE"

/-- A value a span records for one of its fields. -/
inductive FieldValue where
  | nat (n : Nat)
  | text (s : String)
  deriving DecidableEq, Repr

/-- A span: its name, its target, its level, and the values of its fields. -/
structure Span where
  name : String
  target : String
  level : Level
  fields : List (String × FieldValue)
  deriving DecidableEq, Repr

/-- A log event: its level, target and message, the names of its fields (the message among
them), and the span it happens in, if any. -/
structure Event where
  level : Level
  target : String
  message : String
  fields : List String
  span : Option Span
  deriving DecidableEq, Repr

/-- An event outside any span, with the names of its fields besides the message. -/
def Event.plain (level : Level) (target message : String) (fields : List String) : Event :=
  ⟨level, target, message, "message" :: fields, none⟩

/-- The event as it happens inside a span. -/
def Event.within (e : Event) (s : Span) : Event := { e with span := some s }

/-- A field a directive names, with the value it asks for, if any. -/
structure FieldMatch where
  name : String
  value : Option String
  deriving DecidableEq, Repr

/-- A directive: the target it covers (every target when absent), the span name it asks for,
the fields it names, and the most verbose rank it lets through (0 lets nothing through). -/
structure Directive where
  target : Option String
  span : Option String
  fields : List FieldMatch
  rank : Nat
  deriving DecidableEq, Repr

/-- ASCII letters in lower case. -/
def lower (s : String) : String :=
  String.ofList (s.toList.map fun c => if 'A' ≤ c ∧ c ≤ 'Z' then Char.ofNat (c.toNat + 32) else c)

/-- The rank of a level word: a name in any case or a digit from 0 to 5. -/
def levelWord? (s : String) : Option Nat :=
  match lower s with
  | "off" | "0" => some 0
  | "error" | "1" => some 1
  | "warn" | "2" => some 2
  | "info" | "3" => some 3
  | "debug" | "4" => some 4
  | "trace" | "5" => some 5
  | _ => none

/-- Whether a target would read as a level: a level name, or digits with an optional `+` of
value at most 5. -/
def readsAsLevel (s : String) : Bool :=
  let ds := match s.toList with
    | '+' :: r => r
    | r => r
  (levelWord? s).isSome ||
    (!ds.isEmpty && ds.all Char.isDigit && ds.foldl (fun n c => n * 10 + (c.toNat - 48)) 0 ≤ 5)

/-- Whether a character may stand in a target. -/
def targetChar (c : Char) : Bool :=
  c.isAlphanum || c == '_' || c == ':' || c == '-' || 127 < c.toNat

/-- Whether a character is an ASCII letter, digit or underscore. -/
def wordChar (c : Char) : Bool := c.isAlphanum || c == '_'

/-- Whether a field filter starts a text and runs to its end: a word character, then word
characters and dots, then nothing, or `=` and a value. -/
def fieldAt : List Char → Bool
  | c :: rest =>
    wordChar c &&
      match rest.dropWhile (fun d => wordChar d || d == '.') with
      | [] => true
      | '=' :: v => !v.isEmpty
      | _ => false
  | [] => false

/-- The field filter of the text between braces: from the first place where a field filter
runs to the end, its name up to the first `=` and its value up to the next. -/
def fieldFilter : List Char → List FieldMatch
  | [] => []
  | c :: rest =>
    if fieldAt (c :: rest) then
      match (String.ofList (c :: rest)).splitOn "=" with
      | name :: value :: _ => [⟨name, some value⟩]
      | _ => [⟨String.ofList (c :: rest), none⟩]
    else fieldFilter rest

/-- Reads the inside of a span part, its brackets stripped: the span name before any `{`, and
the field filter between that `{` and the first `}` after it. -/
def spanPart (inner : List Char) : Option String × List FieldMatch :=
  let name := inner.takeWhile (· ≠ '{')
  let fields := match inner.drop name.length with
    | '{' :: rest => if rest.contains '}' then fieldFilter (rest.takeWhile (· ≠ '}')) else []
    | _ => []
  (if name.isEmpty then none else some (String.ofList name), fields)

/-- Reads the targets and span parts before a directive's `=`: at most two parts, the later of
two of a kind counting; with the rest of the text. A span part is given by what stands between
its brackets. -/
def parts : Nat → List Char → Option String → Option (List Char) →
    Option (Option String × Option (List Char) × List Char)
  | 0, cs, t, sp => some (t, sp, cs)
  | n + 1, cs, t, sp =>
    match cs with
    | '[' :: rest =>
      match rest.dropWhile (· ≠ ']') with
      | ']' :: after => parts n after t (some (rest.takeWhile (· ≠ ']')))
      | _ => none
    | c :: _ =>
      if targetChar c then
        let name := cs.takeWhile targetChar
        parts n (cs.drop name.length) (some (String.ofList name)) sp
      else some (t, sp, cs)
    | [] => some (t, sp, [])

/-- Reads a directive. -/
def Directive.parse? (s : String) : Option Directive :=
  match levelWord? s with
  | some r => some ⟨none, none, [], r⟩
  | none =>
    match parts 2 s.toList none none with
    | none => none
    | some (t, sp, rest) =>
      if t.isNone ∧ sp.isNone then none
      else
        let rank : Option Nat := match rest with
          | [] => some 5
          | ['='] => some 5
          | '=' :: lv => levelWord? (String.ofList lv)
          | _ => none
        let (name, fields) := match sp with
          | some inner =>
            spanPart ((inner.dropWhile (· = '[')).reverse.dropWhile (· = '[')).reverse
          | none => (none, [])
        rank.map fun r => ⟨t.filter (!readsAsLevel ·), name, fields, r⟩

/-- A filter: its directives in order. -/
abbrev Filter := List Directive

/-- The pieces of a directive text. -/
def pieces (s : String) : List String := (s.splitOn ",").filter (!·.isEmpty)

/-- Reads a filter, dropping directives that do not read. -/
def Filter.lossy (s : String) : Filter := (pieces s).filterMap Directive.parse?

/-- Reads a filter whose directives must all read. -/
def Filter.strict (s : String) : Option Filter := (pieces s).mapM Directive.parse?

/-- The filter of a run: `RUST_LOG` when it is set and reads, the configured level otherwise. -/
def Filter.ofSettings (rustLog : Option String) (level : String) : Filter :=
  match rustLog.bind Filter.strict with
  | some f => f
  | none => Filter.lossy level

/-- Whether a directive judges events directly: it names no span and asks no field value. -/
def Directive.isStatic (d : Directive) : Bool :=
  d.span.isNone && d.fields.all (·.value.isNone)

/-- Whether a directive judges what happens inside spans: it names a span or a field. -/
def Directive.isDynamic (d : Directive) : Bool :=
  d.span.isSome || !d.fields.isEmpty

/-- How two directives that judge events directly compare in specificity: by the length of the
target (none is least), then by the number of field names, then by the target and the field
names themselves. Directives comparing equal have the same target and field names. -/
def Directive.specificity (d b : Directive) : Ordering :=
  (compare (d.target.map String.length) (b.target.map String.length)).then
    ((compare d.fields.length b.fields.length).then
      ((compare d.target b.target).then
        (compare (d.fields.map (·.name)) (b.fields.map (·.name)))))

/-- Whether a directive covers an event directly: its target starts the event's, and the event
has every field it names. -/
def Directive.covers (d : Directive) (e : Event) : Bool :=
  (match d.target with
    | some t => e.target.startsWith t
    | none => true) &&
    d.fields.all fun m => e.fields.contains m.name

/-- The directive that decides for an event directly: the most specific of those judging
events directly that cover it, the last of equals. -/
def Filter.decider (f : Filter) (e : Event) : Option Directive :=
  ((f.filter Directive.isStatic).filter (·.covers e)).foldl (fun best d =>
    match best with
    | none => some d
    | some b => if d.specificity b = .lt then best else some d) none

/-- Reads an unsigned 64-bit number: an optional `+` and decimal digits. -/
def unsigned? (s : String) : Option Nat :=
  let ds := match s.toList with
    | '+' :: r => r
    | r => r
  if !ds.isEmpty && ds.all Char.isDigit then
    let n := ds.foldl (fun n c => n * 10 + (c.toNat - 48)) 0
    if n < Nat.pow 2 64 then some n else none
  else none

/-- Whether a text reads as a floating-point number: an optional sign, then `inf`, `infinity`
or `nan` in any case, or digits with an optional fraction (one side of the point at least) and
an optional exponent. Every integer text reads so too. -/
def readsAsFloat (s : String) : Bool :=
  let body := match s.toList with
    | '+' :: r => r
    | '-' :: r => r
    | r => r
  let word := lower (String.ofList body)
  let whole := body.takeWhile Char.isDigit
  let afterWhole := body.drop whole.length
  let (frac, afterFrac) : List Char × List Char := match afterWhole with
    | '.' :: r => (r.takeWhile Char.isDigit, r.dropWhile Char.isDigit)
    | r => ([], r)
  let exponentReads : Bool := match afterFrac with
    | [] => true
    | c :: r =>
      (c == 'e' || c == 'E') &&
        (let ds := match r with
          | '+' :: q => q
          | '-' :: q => q
          | q => q
         !ds.isEmpty && ds.all Char.isDigit)
  word == "inf" || word == "infinity" || word == "nan" ||
    ((!whole.isEmpty || !frac.isEmpty) && exponentReads)

/-- Whether a recorded value is the one a field filter asks for: a number matches a value that
reads as that unsigned number; a text matches a value equal to it that reads as no truth value
and no number. -/
def FieldMatch.accepts (m : FieldMatch) (v : FieldValue) : Bool :=
  match m.value with
  | none => true
  | some want =>
    match v with
    | .nat n => want != "true" && want != "false" && unsigned? want == some n
    | .text s => want != "true" && want != "false" && !readsAsFloat want && want == s

/-- Whether a directive matches a span: its target starts the span's, its span name is the
span's, and the span has every field it names, with the value it asks for. -/
def Directive.matchesSpan (d : Directive) (s : Span) : Bool :=
  (match d.target with
    | some t => s.target.startsWith t
    | none => true) &&
    (match d.span with
      | some n => n == s.name
      | none => true) &&
    d.fields.all fun m =>
      match s.fields.lookup m.name with
      | some v => m.accepts v
      | none => false

/-- The directives of a list that no later one with the same target, span name and fields
replaces. -/
def lastOfEach : List Directive → List Directive
  | [] => []
  | d :: rest =>
    if rest.any (fun e => e.target == d.target && e.span == d.span && e.fields == d.fields) then
      lastOfEach rest
    else d :: lastOfEach rest

/-- The most verbose rank a filter lets through inside a span: the greatest rank of the
directives judging spans that match it, 0 when none does. -/
def Filter.spanRank (f : Filter) (s : Span) : Nat :=
  ((lastOfEach (f.filter Directive.isDynamic)).filter (·.matchesSpan s)).foldl
    (fun r d => max r d.rank) 0

/-- The most verbose rank a filter lets through anywhere: the greatest rank of its directives,
or that of traces when a directive asks a field value, which is only known once recorded. -/
def Filter.ceiling (f : Filter) : Nat :=
  if f.any (fun d => d.isDynamic && d.fields.any (·.value.isSome)) then 5
  else f.foldl (fun r d => max r d.rank) 0

/-- Whether a filter writes an event: the directive deciding for it directly lets its level
through, or it happens inside a span that is opened and lets its level through. -/
def Filter.allows (f : Filter) (e : Event) : Bool :=
  let direct := match f.decider e with
    | some d => decide (e.level.rank ≤ d.rank)
    | none => false
  let inSpan := match e.span with
    | some s => decide (s.level.rank ≤ f.ceiling) && decide (e.level.rank ≤ f.spanRank s)
    | none => false
  direct || inSpan

theorem allows_silent (e : Event) (d : Directive) (h : d.rank = 0) :
    Filter.allows [d] e = false := by
  have hp := Level.rank_pos e.level
  have hdir : ∀ x, Filter.decider [d] e = some x → x = d := by
    intro x hx
    cases hs : d.isStatic <;> cases hc : d.covers e <;>
      simp_all [Filter.decider, List.filter]
  have hspan : ∀ s, Filter.spanRank [d] s = 0 := by
    intro s
    cases hy : d.isDynamic <;> cases hm : d.matchesSpan s <;>
      simp_all [Filter.spanRank, List.filter, lastOfEach]
  simp only [Filter.allows, Bool.or_eq_false_iff]
  constructor
  · split
    · rename_i x hx
      rw [hdir x hx, h]
      simp only [decide_eq_false_iff_not, Nat.not_le]
      exact hp
    · rfl
  · split
    · rw [hspan]
      simp only [Bool.and_eq_false_iff, decide_eq_false_iff_not, Nat.not_le]
      exact Or.inr hp
    · rfl

end Logging

end Invoicing
