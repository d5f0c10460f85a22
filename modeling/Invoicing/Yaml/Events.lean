import Invoicing.Yaml.Scanner

/-!
# YAML events

The tokens of a stream are read into events: the stream's and each document's start and end,
the start and end of each sequence and mapping, scalars, and aliases. A mapping's events are
its keys and values one after the other.

The reading is a machine whose phase says what may come next, with a stack of phases to go back
to when a node is done. Each node may carry an anchor, numbered from 1 in the order they are met
(0 is none), and a tag, whose handle is resolved: `!!` is the YAML tag prefix
`tag:yaml.org,2002:`, a handle given by a `%TAG` directive is its prefix, and any other handle
of the form `!name!` fails. An alias names the latest anchor of its name in its document.

A node left out (a key with no value, a value with no key, an empty document) is the empty plain
scalar `~`. A failure names the token where it was found.

What is proved here:
* `emptyScalar_plain`: a node left out reads as a plain scalar.
-/

namespace Invoicing

namespace Yaml

/-- A resolved tag: the prefix its handle stands for, and its name. -/
structure Tag where
  handle : String
  suffix : String
  deriving DecidableEq, Repr

/-- What the tokens of a stream say, one step at a time. -/
inductive Event where
  | streamStart
  | streamEnd
  | documentStart
  | documentEnd
  | aliasRef (id : Nat)
  | scalar (text : String) (style : Style) (anchor : Nat) (tag : Option Tag)
  | sequenceStart (anchor : Nat)
  | sequenceEnd
  | mappingStart (anchor : Nat)
  | mappingEnd
  deriving DecidableEq, Repr

/-- A node left out. -/
def emptyScalar : Event := .scalar "~" .plain 0 none

theorem emptyScalar_plain : ∃ t, emptyScalar = .scalar t .plain 0 none := ⟨"~", rfl⟩

/-- What may come next. -/
inductive Phase where
  | streamStart
  | implicitDocumentStart
  | documentStart
  | documentContent
  | documentEnd
  | blockNode
  | blockSequenceFirstEntry
  | blockSequenceEntry
  | indentlessSequenceEntry
  | blockMappingFirstKey
  | blockMappingKey
  | blockMappingValue
  | flowSequenceFirstEntry
  | flowSequenceEntry
  | flowSequenceEntryMappingKey
  | flowSequenceEntryMappingValue
  | flowSequenceEntryMappingEnd
  | flowMappingFirstKey
  | flowMappingKey
  | flowMappingValue
  | flowMappingEmptyValue
  | finished
  deriving DecidableEq, Repr

/-- The state of the reading: the tokens left and the failure after them, the phase and the
phases to go back to, the anchors of the document with the next number, and the tag
directives. -/
structure EventParser where
  tokens : List Token
  fault : Option Fault
  phase : Phase
  phases : List Phase
  anchors : List (String × Nat)
  nextAnchor : Nat
  tags : List (String × String)

/-- Reading events: a change of the state that may fail. -/
abbrev Parse := StateT EventParser (Except Fault)

/-- The next token; past the last, the failure that ended the tokens. -/
def peekToken : Parse Token := do
  let s ← get
  match s.tokens with
  | t :: _ => pure t
  | [] => throw (s.fault.getD ⟨⟨0, 0, 0⟩, "unexpected end of stream"⟩)

/-- Passes the next token. -/
def skipToken : Parse Unit := modify fun s => { s with tokens := s.tokens.drop 1 }

/-- Fails at a place. -/
def failAt {α : Type} (m : Mark) (info : String) : Parse α := throw ⟨m, info⟩

/-- Moves to a phase. -/
def moveTo (p : Phase) : Parse Unit := modify fun s => { s with phase := p }

/-- Remembers a phase to go back to. -/
def pushPhase (p : Phase) : Parse Unit := modify fun s => { s with phases := p :: s.phases }

/-- Goes back to the last phase remembered. -/
def popPhase : Parse Unit := modify fun s =>
  match s.phases with
  | p :: ps => { s with phase := p, phases := ps }
  | [] => s

/-- Gives an anchor the next number. -/
def registerAnchor (name : String) : Parse Nat := do
  let s ← get
  set { s with anchors := (name, s.nextAnchor) :: s.anchors, nextAnchor := s.nextAnchor + 1 }
  return s.nextAnchor

/-- Resolves the handle of a tag. -/
def resolveTag (m : Mark) (handle suffix : String) : Parse Tag := do
  let tags := (← get).tags
  if handle = "!!" then
    return ⟨(tags.lookup "!!").getD "tag:yaml.org,2002:", suffix⟩
  if handle.isEmpty && suffix = "!" then
    return ⟨(tags.lookup "").getD "", suffix⟩
  match tags.lookup handle with
  | some pre => return ⟨pre, suffix⟩
  | none =>
    if 2 ≤ handle.length && handle.startsWith "!" && handle.endsWith "!" then
      failAt m "the handle wasn't declared"
    return ⟨handle, suffix⟩

/-- Reads the directives before a document. -/
def processDirectives : Parse Unit := do
  let mut version := false
  for _ in [0:(← get).tokens.length] do
    let t ← peekToken
    match t.kind with
    | .versionDirective =>
      if version then failAt t.mark "duplicate version directive"
      version := true
    | .tagDirective handle pre =>
      if ((← get).tags.lookup handle).isSome then
        failAt t.mark
          "the TAG directive must only be given at most once per handle in the same document"
      modify fun s => { s with tags := (handle, pre) :: s.tags }
    | _ => break
    skipToken

/-- The start of the stream. -/
def streamStart : Parse (Event × Mark) := do
  let t ← peekToken
  match t.kind with
  | .streamStart =>
    moveTo .implicitDocumentStart
    skipToken
    return (.streamStart, t.mark)
  | _ => failAt t.mark "did not find expected <stream-start>"

/-- A document that starts with `---`, after its directives. -/
def explicitDocumentStart : Parse (Event × Mark) := do
  processDirectives
  let t ← peekToken
  match t.kind with
  | .documentStart =>
    pushPhase .documentEnd
    moveTo .documentContent
    skipToken
    return (.documentStart, t.mark)
  | _ => failAt t.mark "did not find expected <document start>"

/-- The start of a document, or the end of the stream; a document may start without `---`
first in the stream or after `...`. -/
def documentStart (implicit : Bool) : Parse (Event × Mark) := do
  if !implicit then
    for _ in [0:(← get).tokens.length] do
      if (← peekToken).kind = .documentEnd then skipToken else break
  let t ← peekToken
  match t.kind with
  | .streamEnd =>
    moveTo .finished
    skipToken
    return (.streamEnd, t.mark)
  | .versionDirective | .tagDirective _ _ | .documentStart => explicitDocumentStart
  | _ =>
    if implicit then
      processDirectives
      pushPhase .documentEnd
      moveTo .blockNode
      return (.documentStart, t.mark)
    else explicitDocumentStart

/-- The end of a document, with or without `...`. -/
def documentEnd : Parse (Event × Mark) := do
  let t ← peekToken
  let explicitEnd := t.kind = .documentEnd
  if explicitEnd then skipToken
  modify fun s => { s with tags := [] }
  if explicitEnd then moveTo .implicitDocumentStart
  else
    let n ← peekToken
    match n.kind with
    | .versionDirective | .tagDirective _ _ =>
      failAt n.mark "missing explicit document end marker before directive"
    | _ => moveTo .documentStart
  return (.documentEnd, t.mark)

/-- A node: an alias, or a scalar or collection with its anchor and tag; a collection in block
context only when `block`, and a sequence of `-` entries at the indentation of its mapping
key when `indentless`. -/
def parseNode (block indentless : Bool) : Parse (Event × Mark) := do
  let t ← peekToken
  if let .aliasRef name := t.kind then
    popPhase
    skipToken
    match (← get).anchors.lookup name with
    | some id => return (.aliasRef id, t.mark)
    | none => failAt t.mark "while parsing node, found unknown anchor"
  let mut anchor := 0
  let mut tag : Option Tag := none
  match t.kind with
  | .anchor name =>
    skipToken
    anchor ← registerAnchor name
    let t2 ← peekToken
    if let .tag handle suffix := t2.kind then
      skipToken
      tag := some (← resolveTag t2.mark handle suffix)
  | .tag handle suffix =>
    skipToken
    tag := some (← resolveTag t.mark handle suffix)
    let t2 ← peekToken
    if let .anchor name := t2.kind then
      skipToken
      anchor ← registerAnchor name
  | _ => pure ()
  let t ← peekToken
  match t.kind with
  | .blockEntry =>
    if indentless then
      moveTo .indentlessSequenceEntry
      return (.sequenceStart anchor, t.mark)
  | .scalar style text =>
    popPhase
    skipToken
    return (.scalar text style anchor tag, t.mark)
  | .flowSequenceStart =>
    moveTo .flowSequenceFirstEntry
    return (.sequenceStart anchor, t.mark)
  | .flowMappingStart =>
    moveTo .flowMappingFirstKey
    return (.mappingStart anchor, t.mark)
  | .blockSequenceStart =>
    if block then
      moveTo .blockSequenceFirstEntry
      return (.sequenceStart anchor, t.mark)
  | .blockMappingStart =>
    if block then
      moveTo .blockMappingFirstKey
      return (.mappingStart anchor, t.mark)
  | _ => pure ()
  if tag.isSome || anchor > 0 then
    popPhase
    return (.scalar "" .plain anchor tag, t.mark)
  failAt t.mark "while parsing a node, did not find expected node content"

/-- The content of a document that starts with `---`; it may be left out. -/
def documentContent : Parse (Event × Mark) := do
  let t ← peekToken
  match t.kind with
  | .versionDirective | .tagDirective _ _ | .documentStart | .documentEnd | .streamEnd =>
    popPhase
    return (emptyScalar, t.mark)
  | _ => parseNode true false

/-- An entry of a block sequence, or its end. -/
def blockSequenceEntry (first : Bool) : Parse (Event × Mark) := do
  if first then skipToken
  let t ← peekToken
  match t.kind with
  | .blockEnd =>
    popPhase
    skipToken
    return (.sequenceEnd, t.mark)
  | .blockEntry =>
    skipToken
    let n ← peekToken
    match n.kind with
    | .blockEntry | .blockEnd =>
      moveTo .blockSequenceEntry
      return (emptyScalar, n.mark)
    | _ =>
      pushPhase .blockSequenceEntry
      parseNode true false
  | _ => failAt t.mark "while parsing a block collection, did not find expected '-' indicator"

/-- An entry of a sequence of `-` entries at the indentation of its mapping key, or its end. -/
def indentlessSequenceEntry : Parse (Event × Mark) := do
  let t ← peekToken
  match t.kind with
  | .blockEntry =>
    skipToken
    let n ← peekToken
    match n.kind with
    | .blockEntry | .key | .value | .blockEnd =>
      moveTo .indentlessSequenceEntry
      return (emptyScalar, n.mark)
    | _ =>
      pushPhase .indentlessSequenceEntry
      parseNode true false
  | _ =>
    popPhase
    return (.sequenceEnd, t.mark)

/-- A key of a block mapping, or its end. -/
def blockMappingKey (first : Bool) : Parse (Event × Mark) := do
  if first then skipToken
  let t ← peekToken
  match t.kind with
  | .key =>
    skipToken
    let n ← peekToken
    match n.kind with
    | .key | .value | .blockEnd =>
      moveTo .blockMappingValue
      return (emptyScalar, n.mark)
    | _ =>
      pushPhase .blockMappingValue
      parseNode true true
  | .value =>
    moveTo .blockMappingValue
    return (emptyScalar, t.mark)
  | .blockEnd =>
    popPhase
    skipToken
    return (.mappingEnd, t.mark)
  | _ => failAt t.mark "while parsing a block mapping, did not find expected key"

/-- A value of a block mapping. -/
def blockMappingValue : Parse (Event × Mark) := do
  let t ← peekToken
  match t.kind with
  | .value =>
    skipToken
    let n ← peekToken
    match n.kind with
    | .key | .value | .blockEnd =>
      moveTo .blockMappingKey
      return (emptyScalar, n.mark)
    | _ =>
      pushPhase .blockMappingKey
      parseNode true true
  | _ =>
    moveTo .blockMappingKey
    return (emptyScalar, t.mark)

/-- An entry of a flow sequence, or its end; a `key: value` entry is a mapping of one pair. -/
def flowSequenceEntry (first : Bool) : Parse (Event × Mark) := do
  if first then skipToken
  let t ← peekToken
  match t.kind with
  | .flowSequenceEnd =>
    popPhase
    skipToken
    return (.sequenceEnd, t.mark)
  | .flowEntry =>
    if !first then skipToken
  | _ =>
    if !first then failAt t.mark "while parsing a flow sequence, expected ',' or ']'"
  let t ← peekToken
  match t.kind with
  | .flowSequenceEnd =>
    popPhase
    skipToken
    return (.sequenceEnd, t.mark)
  | .key =>
    moveTo .flowSequenceEntryMappingKey
    skipToken
    return (.mappingStart 0, t.mark)
  | _ =>
    pushPhase .flowSequenceEntry
    parseNode false false

/-- The key of a one-pair mapping in a flow sequence. -/
def flowSequenceEntryMappingKey : Parse (Event × Mark) := do
  let t ← peekToken
  match t.kind with
  | .value | .flowEntry | .flowSequenceEnd =>
    skipToken
    moveTo .flowSequenceEntryMappingValue
    return (emptyScalar, t.mark)
  | _ =>
    pushPhase .flowSequenceEntryMappingValue
    parseNode false false

/-- The value of a one-pair mapping in a flow sequence. -/
def flowSequenceEntryMappingValue : Parse (Event × Mark) := do
  let t ← peekToken
  match t.kind with
  | .value =>
    skipToken
    let n ← peekToken
    match n.kind with
    | .flowEntry | .flowSequenceEnd =>
      moveTo .flowSequenceEntryMappingEnd
      return (emptyScalar, n.mark)
    | _ =>
      pushPhase .flowSequenceEntryMappingEnd
      parseNode false false
  | _ =>
    moveTo .flowSequenceEntryMappingEnd
    return (emptyScalar, t.mark)

/-- The end of a one-pair mapping in a flow sequence. -/
def flowSequenceEntryMappingEnd : Parse (Event × Mark) := do
  let t ← peekToken
  moveTo .flowSequenceEntry
  return (.mappingEnd, t.mark)

/-- A key of a flow mapping, or its end. -/
def flowMappingKey (first : Bool) : Parse (Event × Mark) := do
  if first then skipToken
  let t ← peekToken
  if t.kind ≠ .flowMappingEnd then
    if !first then
      if t.kind = .flowEntry then skipToken
      else failAt t.mark "while parsing a flow mapping, did not find expected ',' or '\x7d'"
    let t ← peekToken
    match t.kind with
    | .key =>
      skipToken
      let n ← peekToken
      match n.kind with
      | .value | .flowEntry | .flowMappingEnd =>
        moveTo .flowMappingValue
        return (emptyScalar, n.mark)
      | _ =>
        pushPhase .flowMappingValue
        return ← parseNode false false
    | .value =>
      moveTo .flowMappingValue
      return (emptyScalar, t.mark)
    | .flowMappingEnd => pure ()
    | _ =>
      pushPhase .flowMappingEmptyValue
      return ← parseNode false false
  popPhase
  skipToken
  return (.mappingEnd, t.mark)

/-- A value of a flow mapping; for a key with no `:`, the value left out. -/
def flowMappingValue (empty : Bool) : Parse (Event × Mark) := do
  let t ← peekToken
  if empty then
    moveTo .flowMappingKey
    return (emptyScalar, t.mark)
  if t.kind = .value then
    skipToken
    let n ← peekToken
    match n.kind with
    | .flowEntry | .flowMappingEnd => pure ()
    | _ =>
      pushPhase .flowMappingKey
      return ← parseNode false false
  moveTo .flowMappingKey
  return (emptyScalar, t.mark)

/-- The next event. -/
def nextEvent : Parse (Event × Mark) := do
  let _ ← peekToken
  match (← get).phase with
  | .streamStart => streamStart
  | .implicitDocumentStart => documentStart true
  | .documentStart => documentStart false
  | .documentContent => documentContent
  | .documentEnd => documentEnd
  | .blockNode => parseNode true false
  | .blockSequenceFirstEntry => blockSequenceEntry true
  | .blockSequenceEntry => blockSequenceEntry false
  | .indentlessSequenceEntry => indentlessSequenceEntry
  | .blockMappingFirstKey => blockMappingKey true
  | .blockMappingKey => blockMappingKey false
  | .blockMappingValue => blockMappingValue
  | .flowSequenceFirstEntry => flowSequenceEntry true
  | .flowSequenceEntry => flowSequenceEntry false
  | .flowSequenceEntryMappingKey => flowSequenceEntryMappingKey
  | .flowSequenceEntryMappingValue => flowSequenceEntryMappingValue
  | .flowSequenceEntryMappingEnd => flowSequenceEntryMappingEnd
  | .flowMappingFirstKey => flowMappingKey true
  | .flowMappingKey => flowMappingKey false
  | .flowMappingValue => flowMappingValue false
  | .flowMappingEmptyValue => flowMappingValue true
  | .finished => return (.streamEnd, (← peekToken).mark)

/-- The events of a stream's tokens up to the end of the stream, and the failure that stopped
them, if any; a failure of the tokens stops the events where they run out. -/
def parseEvents (tokens : List Token) (fault : Option Fault) :
    List (Event × Mark) × Option Fault :=
  let rec go : Nat → EventParser → List (Event × Mark) → List (Event × Mark) × Option Fault
    | 0, _, acc => (acc.reverse, none)
    | fuel + 1, s, acc =>
      match nextEvent.run s with
      | .error f => (acc.reverse, some f)
      | .ok ((ev, m), s') =>
        if ev = .streamEnd then (((ev, m) :: acc).reverse, none)
        else
          let s' := if ev = .documentStart then { s' with anchors := [] } else s'
          go fuel s' ((ev, m) :: acc)
  go (3 * tokens.length + 8) ⟨tokens, fault, .streamStart, [], [], 1, []⟩ []

end Yaml

end Invoicing
