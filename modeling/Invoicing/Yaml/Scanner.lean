import Invoicing.Json.Token

/-!
# YAML tokens

A YAML stream is first cut into tokens: the stream's start and end, document markers and
directives, the starts and ends of block and flow collections, entry and key indicators, anchors,
aliases, tags and scalars. Each token carries the place where it starts.

Block structure is read from indentation. A stack holds the indentation of the open block
collections: a key or entry further right than the innermost opens a new collection, and a line
further left closes collections until one fits. After a mapping's `:` the indentation moves one
column right for the rest of the line without opening a collection, so that a flow collection or
quoted scalar there may not continue on a line left of it.

A *simple key* is a node that may turn out to be a mapping key once a `:` follows it on the same
line. When one could start, the scanner remembers where, and holds back the tokens after it; a
`:` then inserts the key token (and the start of a block mapping, when the key opens one) before
them. A key that cannot be one any more, because the line ended, is forgotten; in block context a
key at the indentation of its mapping must be one, and a failure otherwise.

Scalars are read with their folding: in plain and quoted scalars a single line break becomes a
space and more breaks become line breaks; a literal block scalar keeps its breaks, a folded one
joins lines that start without blanks, and the final breaks are kept, clipped to one, or dropped
as the block's chomping indicator says. Double-quoted scalars resolve escapes.

Tabs may separate tokens but not indent: a tab in the indentation of a block before content, a
tab after `:` before content with no space, and a tab in the indentation of a continued plain or
quoted scalar fail. A comment must follow a blank, and only a comment may follow a quoted scalar
on its line (or a `:`, or a flow indicator in flow context).

A failure is reported with its place: characters before it, the line from 1 and the column from
1 (see `Fault.text`).

What is proved here:
* `fault_text`: the shape of a failure's text.
-/

namespace Invoicing

namespace Yaml

/-- A place in a stream: the characters before it, its line (from 1) and column (from 0). -/
structure Mark where
  index : Nat
  line : Nat
  col : Nat
  deriving DecidableEq, Repr

/-- The place after a character: a line feed starts a new line (a carriage return alone is
passed as a line break, see `skipBreak`). -/
def Mark.next (m : Mark) (c : Char) : Mark :=
  if c = '\n' then ⟨m.index + 1, m.line + 1, 0⟩ else ⟨m.index + 1, m.line, m.col + 1⟩

/-- A failure to read a stream: where, and what went wrong. -/
structure Fault where
  mark : Mark
  info : String
  deriving DecidableEq, Repr

/-- The text of a failure, with its place. -/
def Fault.text (f : Fault) : String :=
  f.info ++ " at byte " ++ toString f.mark.index ++ " line " ++ toString f.mark.line ++
    " column " ++ toString (f.mark.col + 1)

theorem fault_text (m : Mark) (info : String) :
    (Fault.mk m info).text = info ++ " at byte " ++ toString m.index ++ " line " ++
      toString m.line ++ " column " ++ toString (m.col + 1) := rfl

/-- How a scalar is written. -/
inductive Style where
  | plain
  | singleQuoted
  | doubleQuoted
  | literal
  | folded
  deriving DecidableEq, Repr

/-- What a token is. -/
inductive TokenKind where
  | streamStart
  | streamEnd
  | versionDirective
  | tagDirective (handle pre : String)
  | documentStart
  | documentEnd
  | blockSequenceStart
  | blockMappingStart
  | blockEnd
  | flowSequenceStart
  | flowSequenceEnd
  | flowMappingStart
  | flowMappingEnd
  | blockEntry
  | flowEntry
  | key
  | value
  | aliasRef (name : String)
  | anchor (name : String)
  | tag (handle suffix : String)
  | scalar (style : Style) (text : String)
  deriving DecidableEq, Repr

/-- A token and where it starts. -/
structure Token where
  mark : Mark
  kind : TokenKind
  deriving DecidableEq, Repr

/-- A place where a simple key may start: whether it still may, whether it must, the number of
the token it would come before, and the place. -/
structure SimpleKey where
  possible : Bool
  required : Bool
  number : Nat
  mark : Mark
  deriving DecidableEq, Repr

/-- A simple key that cannot be one. -/
def SimpleKey.none : SimpleKey := ⟨false, false, 0, ⟨0, 0, 0⟩⟩

/-- An indentation on the stack: the indentation it replaced, and whether it is a block
collection's, closed with a block end, or only one column right of a mapping value's key, which
goes away quietly. -/
structure Indent where
  col : Int
  needsBlockEnd : Bool
  deriving DecidableEq, Repr

/-- The state of the scanner:
* the characters left and the place of the first;
* the tokens fetched and not yet handed out, and how many were handed out;
* whether the stream was started;
* whether a simple key may start here, and the simple key of each flow level, innermost first;
* the indentation of the innermost block collection (-1 at the root), and the stack of those
  it replaced;
* how many flow collections are open;
* the place right after a quoted scalar, where a `:` with no blank after it is still a value
  indicator in flow context;
* whether only blanks stand before the place on its line. -/
structure Scanner where
  rest : List Char
  mark : Mark
  queue : List Token
  delivered : Nat
  started : Bool
  keyAllowed : Bool
  keys : List SimpleKey
  indent : Int
  indents : List Indent
  flowLevel : Nat
  adjacentValueAt : Nat
  leading : Bool

/-- The scanner at the start of a text. -/
def Scanner.start (source : String) : Scanner :=
  ⟨source.toList, ⟨0, 1, 0⟩, [], 0, false, true, [], -1, [], 0, 0, true⟩

/-- Scanning: a change of the scanner that may fail. -/
abbrev Scan := StateT Scanner (Except Fault)

/-- Whether a character breaks a line. -/
def isBreak (c : Char) : Bool := c = '\n' || c = '\r'

/-- Whether a character stands for the end of the stream, which reads as a zero character. -/
def isStreamEnd (c : Char) : Bool := c.toNat = 0

/-- Whether a character breaks a line or ends the stream. -/
def isBreakOrEnd (c : Char) : Bool := isBreak c || isStreamEnd c

/-- Whether a character is a blank: a space or a tab. -/
def isBlank (c : Char) : Bool := c = ' ' || c = '\t'

/-- Whether a character is a blank, breaks a line or ends the stream. -/
def isBlankOrEnd (c : Char) : Bool := isBlank c || isBreakOrEnd c

/-- Whether a character is a flow indicator. -/
def isFlowIndicator (c : Char) : Bool :=
  c = ',' || c = '[' || c = ']' || c = '\x7b' || c = '\x7d'

/-- Whether a character is an ASCII letter or digit, `_` or `-`. -/
def isWordChar (c : Char) : Bool := c.isAlphanum || c = '_' || c = '-'

/-- Whether a character may stand in an anchor's name. -/
def isAnchorChar (c : Char) : Bool := !isBlankOrEnd c && !isFlowIndicator c

/-- Whether a character may stand in a URI. -/
def isUriChar (c : Char) : Bool :=
  isWordChar c || ['#', ';', '/', '?', ':', '@', '&', '=', '+', '$', ',', '.', '!', '~', '*', '\'',
    '(', ')', '[', ']', '%'].contains c

/-- Whether a character may stand in a tag's name after its handle. -/
def isTagChar (c : Char) : Bool := isUriChar c && !isFlowIndicator c && c ≠ '!'

/-- The character `n` places ahead, or the zero character past the end. -/
def peek (n : Nat) : Scan Char := do
  return (← get).rest.getD n (Char.ofNat 0)

/-- The place of the next character. -/
def here : Scan Mark := do
  return (← get).mark

/-- Fails at a place. -/
def fault {α : Type} (m : Mark) (info : String) : Scan α := throw ⟨m, info⟩

/-- Passes one character. -/
def skip : Scan Unit := modify fun s =>
  match s.rest with
  | [] => s
  | c :: rest =>
    { s with rest := rest, mark := s.mark.next c,
             leading := if isBreak c then true else s.leading && isBlank c }

/-- Passes `n` characters. -/
def skipN (n : Nat) : Scan Unit := do
  for _ in [0:n] do skip

/-- Passes a line break; a carriage return and a line feed count as one, and a carriage return
alone starts a new line too. -/
def skipBreak : Scan Unit := do
  if (← peek 0) = '\r' && (← peek 1) = '\n' then skipN 2
  else if (← peek 0) = '\r' then
    modify fun s =>
      { s with rest := s.rest.drop 1, mark := Mark.mk (s.mark.index + 1) (s.mark.line + 1) 0,
               leading := true }
  else if isBreak (← peek 0) then skip

/-- Passes characters while they are of a class, giving them. -/
def takeWhile (p : Char → Bool) : Scan String := do
  let mut out := ""
  for _ in [0:(← get).rest.length] do
    let c ← peek 0
    if !p c then break
    out := out.push c
    skip
  return out

/-- Passes characters up to the end of the line. -/
def skipToBreak : Scan Unit := do
  let _ ← takeWhile fun c => !isBreakOrEnd c

/-- Adds a token at the end of those held. -/
def push (t : Token) : Scan Unit := modify fun s => { s with queue := s.queue ++ [t] }

/-- Adds a token among those held, before the one at a position. -/
def insertAt (pos : Nat) (t : Token) : Scan Unit := modify fun s =>
  { s with queue := s.queue.take pos ++ t :: s.queue.drop pos }

/-- Lets a simple key start here, or not. -/
def allowKey (allowed : Bool) : Scan Unit := modify fun s => { s with keyAllowed := allowed }

/-- Forgets the innermost simple key; it fails when that key had to be one. -/
def removeSimpleKey : Scan Unit := do
  let s ← get
  match s.keys with
  | k :: ks =>
    if k.possible && k.required then fault s.mark "simple key expected"
    set { s with keys := { k with possible := false } :: ks }
  | [] => pure ()

/-- Remembers that a simple key may start here, when one may; in block context at the column of
the innermost block collection it must be a key. -/
def saveSimpleKey : Scan Unit := do
  let s ← get
  if s.keyAllowed then
    let required := s.flowLevel = 0 && s.indent = (s.mark.col : Int) &&
      (s.indents.head?.map (·.needsBlockEnd)).getD false
    let k : SimpleKey := ⟨true, required, s.delivered + s.queue.length, s.mark⟩
    set { s with keys := k :: s.keys.drop 1 }

/-- Forgets the simple keys that started on an earlier line or too far back, in block context;
one that had to be a key fails. -/
def staleSimpleKeys : Scan Unit := do
  let s ← get
  let stale (k : SimpleKey) : Bool :=
    k.possible && s.flowLevel = 0 &&
      (k.mark.line < s.mark.line || k.mark.index + 1024 < s.mark.index)
  if s.keys.any fun k => stale k && k.required then fault s.mark "simple key expect ':'"
  set { s with keys := s.keys.map fun k => if stale k then { k with possible := false } else k }

/-- Closes the indentations further right than a column, each block collection with a block
end. -/
def unrollIndent (col : Int) : Scan Unit := do
  if (← get).flowLevel > 0 then return
  for _ in [0:(← get).indents.length] do
    let s ← get
    if s.indent ≤ col then break
    match s.indents with
    | i :: is =>
      let queue := if i.needsBlockEnd then s.queue ++ [Token.mk s.mark .blockEnd] else s.queue
      set { s with queue := queue, indent := i.col, indents := is }
    | [] => break

/-- Drops the innermost indentations that are not block collections'. -/
def unrollNonBlockIndents : Scan Unit := do
  for _ in [0:(← get).indents.length] do
    let s ← get
    match s.indents with
    | i :: is => if i.needsBlockEnd then break else set { s with indent := i.col, indents := is }
    | [] => break

/-- Opens a block collection at a column further right than the innermost one, with its start
token at the end, or before the token of a number. An innermost indentation that is not a block
collection's, at or left of the column, is dropped first. -/
def rollIndent (col : Nat) (number : Option Nat) (kind : TokenKind) (m : Mark) : Scan Unit := do
  if (← get).flowLevel > 0 then return
  let s ← get
  if s.indent ≤ (col : Int) then
    match s.indents with
    | i :: is => if !i.needsBlockEnd then set { s with indent := i.col, indents := is }
    | [] => pure ()
  let s ← get
  if s.indent < (col : Int) then
    set { s with indents := ⟨s.indent, true⟩ :: s.indents, indent := col }
    match number with
    | some n => insertAt (n - s.delivered) ⟨m, kind⟩
    | none => push ⟨m, kind⟩

/-- In block context, inside a block collection, moves the indentation one column right, not as
a block collection's own. -/
def rollOneColIndent : Scan Unit := do
  let s ← get
  if s.flowLevel = 0 && (s.indents.head?.map (·.needsBlockEnd)).getD false then
    set { s with indents := ⟨s.indent, false⟩ :: s.indents, indent := s.indent + 1 }

/-- Passes blanks (tabs only when `tabs`) and a comment after them, to the end of the line;
gives whether a tab and whether a space were passed. A comment must follow a blank. -/
def skipWsToEol (tabs : Bool) : Scan (Bool × Bool) := do
  let mut tab := false
  let mut space := false
  for _ in [0:(← get).rest.length] do
    let c ← peek 0
    if c = ' ' then
      space := true
      skip
    else if c = '\t' && tabs then
      tab := true
      skip
    else if c = '#' then
      if !tab && !space then
        fault (← here) "comments must be separated from other tokens by whitespace"
      skipToBreak
    else break
  return (tab, space)

/-- The start of the stream. -/
def fetchStreamStart : Scan Unit := modify fun s =>
  { s with indent := -1, started := true, keyAllowed := true,
           queue := s.queue ++ [Token.mk s.mark .streamStart], keys := SimpleKey.none :: s.keys }

/-- The end of the stream, on a line of its own; every open block collection is closed. -/
def fetchStreamEnd : Scan Unit := do
  let s ← get
  if s.mark.col ≠ 0 then set { s with mark := Mark.mk s.mark.index (s.mark.line + 1) 0 }
  let s ← get
  if s.keys.any fun k => k.possible && k.required then fault s.mark "simple key expected"
  set { s with keys := s.keys.map fun (k : SimpleKey) => { k with possible := false } }
  unrollIndent (-1)
  removeSimpleKey
  allowKey false
  push ⟨(← get).mark, .streamEnd⟩

/-- A `%YAML` directive's number. -/
def versionNumber (m : Mark) : Scan Unit := do
  let ds ← takeWhile Char.isDigit
  if 9 < ds.length then
    fault m "while scanning a YAML directive, found extremely long version number"
  if ds.isEmpty then
    fault m "while scanning a YAML directive, did not find expected version number"

/-- A tag handle: `!`, `!!`, or `!name!`; outside a directive the last `!` may be missing. -/
def tagHandle (directive : Bool) (m : Mark) : Scan String := do
  if (← peek 0) ≠ '!' then
    fault m (if directive then "while scanning a tag directive, did not find expected '!'"
      else "while scanning a tag, did not find expected '!'")
  skip
  let name ← takeWhile isWordChar
  if (← peek 0) = '!' then
    skip
    return "!" ++ name ++ "!"
  if directive && !name.isEmpty then
    fault m "while parsing a tag directive, did not find expected '!'"
  return "!" ++ name

/-- A character written as `%` escapes of its octets: the octets are read as a UTF-8 sequence
of the length the first announces, and the code is the octets side by side. -/
def uriEscapes (m : Mark) : Scan Char := do
  let mut width := 0
  let mut code := 0
  for _ in [0:4] do
    let c0 ← peek 0
    let c1 ← peek 1
    let c2 ← peek 2
    let octet ← match c0, hexValue? c1, hexValue? c2 with
      | '%', some h, some l => pure (h * 16 + l)
      | _, _, _ => fault m "while parsing a tag, did not find URI escaped octet"
    if width = 0 then
      width ←
        if octet &&& 0x80 = 0 then pure 1
        else if octet &&& 0xE0 = 0xC0 then pure 2
        else if octet &&& 0xF0 = 0xE0 then pure 3
        else if octet &&& 0xF8 = 0xF0 then pure 4
        else fault m "while parsing a tag, found an incorrect leading UTF-8 octet"
      code := octet
    else
      if octet &&& 0xC0 ≠ 0x80 then
        fault m "while parsing a tag, found an incorrect trailing UTF-8 octet"
      code := code * 256 + octet
    skipN 3
    width := width - 1
    if width = 0 then break
  if code < 0xD800 || (0xDFFF < code && code < 0x110000) then return Char.ofNat code
  fault m "while parsing a tag, found an invalid UTF-8 codepoint"

/-- The name part of a tag, of characters of a class, after a head whose first character is
dropped. -/
def tagUri (allowed : Char → Bool) (head : String) (m : Mark) : Scan String := do
  let mut out := if 1 < head.length then (head.drop 1).toString else ""
  let mut length := head.length
  for _ in [0:(← get).rest.length] do
    let c ← peek 0
    if !allowed c then break
    if c = '%' then out := out.push (← uriEscapes m)
    else
      out := out.push c
      skip
    length := length + 1
  if length = 0 then fault m "while parsing a tag, did not find expected tag URI"
  return out

/-- A `%TAG` directive's handle and prefix. -/
def tagDirectiveValue (m : Mark) : Scan TokenKind := do
  let _ ← takeWhile isBlank
  let handle ← tagHandle true m
  let _ ← takeWhile isBlank
  let pre ← tagUri isUriChar "" m
  if isBlankOrEnd (← peek 0) then return .tagDirective handle pre
  fault m "while scanning TAG, did not find expected whitespace or line break"

/-- A directive line. -/
def fetchDirective : Scan Unit := do
  unrollIndent (-1)
  removeSimpleKey
  allowKey false
  let m ← here
  skip
  let name ← takeWhile isWordChar
  if name.isEmpty then
    fault m "while scanning a directive, could not find expected directive name"
  if !isBlankOrEnd (← peek 0) then
    fault m "while scanning a directive, found unexpected non-alphabetical character"
  let kind ← match name with
    | "YAML" => do
      let _ ← takeWhile isBlank
      versionNumber m
      if (← peek 0) ≠ '.' then
        fault m "while scanning a YAML directive, did not find expected digit or '.' character"
      skip
      versionNumber m
      pure TokenKind.versionDirective
    | "TAG" => tagDirectiveValue m
    | _ => do
      skipToBreak
      pure (TokenKind.tagDirective "" "")
  let _ ← takeWhile isBlank
  if (← peek 0) = '#' then skipToBreak
  if !isBreakOrEnd (← peek 0) then
    fault m "while scanning a directive, did not find expected comment or line break"
  skipBreak
  push ⟨m, kind⟩

/-- A document marker `---` or `...`. -/
def fetchDocumentIndicator (kind : TokenKind) : Scan Unit := do
  unrollIndent (-1)
  removeSimpleKey
  allowKey false
  let m ← here
  skipN 3
  push ⟨m, kind⟩

/-- `[` or `{`, and the blanks and comment after it. -/
def fetchFlowCollectionStart (kind : TokenKind) : Scan Unit := do
  saveSimpleKey
  rollOneColIndent
  let s ← get
  if s.flowLevel = 255 then fault s.mark "recursion limit exceeded"
  set { s with keys := SimpleKey.none :: s.keys, flowLevel := s.flowLevel + 1 }
  allowKey true
  let m ← here
  skip
  let _ ← skipWsToEol true
  push ⟨m, kind⟩

/-- `]` or `}`, and the blanks and comment after it. -/
def fetchFlowCollectionEnd (kind : TokenKind) : Scan Unit := do
  removeSimpleKey
  modify fun s =>
    if s.flowLevel > 0 then { s with flowLevel := s.flowLevel - 1, keys := s.keys.drop 1 } else s
  allowKey false
  let m ← here
  skip
  let _ ← skipWsToEol true
  if (← get).flowLevel > 0 then modify fun s => { s with adjacentValueAt := s.mark.index }
  push ⟨m, kind⟩

/-- `,` between flow entries, and the blanks and comment after it. -/
def fetchFlowEntry : Scan Unit := do
  removeSimpleKey
  allowKey true
  let m ← here
  skip
  let _ ← skipWsToEol true
  push ⟨m, .flowEntry⟩

/-- `-` before a block sequence entry, and the blanks and comment after it. -/
def fetchBlockEntry : Scan Unit := do
  let s ← get
  if s.flowLevel > 0 then fault s.mark "\"-\" is only valid inside a block"
  if !s.keyAllowed then fault s.mark "block sequence entries are not allowed in this context"
  match s.queue.getLast? with
  | some t =>
    match t.kind with
    | .anchor _ | .tag _ _ =>
      if s.mark.col = 0 && t.mark.col = 0 && s.indent > -1 then
        fault t.mark "invalid indentation for anchor"
    | _ => pure ()
  | none => pure ()
  let m := s.mark
  skip
  rollIndent m.col none .blockSequenceStart m
  let (tab, _) ← skipWsToEol true
  if tab && (← peek 0) = '-' && isBlankOrEnd (← peek 1) then
    fault (← here) "'-' must be followed by a valid YAML whitespace"
  let c ← peek 0
  if isBreak c || isFlowIndicator c then rollOneColIndent
  removeSimpleKey
  allowKey true
  push ⟨m, .blockEntry⟩

/-- Passes spaces, line breaks and comments after `?`; at least one space or break must
come. -/
def skipYamlWhitespace : Scan Unit := do
  let mut need := true
  for _ in [0:(← get).rest.length] do
    let c ← peek 0
    if c = ' ' then
      skip
      need := false
    else if isBreak c then
      skipBreak
      if (← get).flowLevel = 0 then allowKey true
      need := false
    else if c = '#' then skipToBreak
    else break
  if need then fault (← here) "expected whitespace"

/-- `?` before a key, and the blanks after it, which may not end at a tab. -/
def fetchKey : Scan Unit := do
  let s ← get
  let m := s.mark
  if s.flowLevel = 0 then
    if !s.keyAllowed then fault m "mapping keys are not allowed in this context"
    rollIndent m.col none .blockMappingStart m
  removeSimpleKey
  allowKey ((← get).flowLevel = 0)
  skip
  skipYamlWhitespace
  if (← peek 0) = '\t' then fault (← here) "tabs disallowed in this context"
  push ⟨m, .key⟩

/-- `:` before a value: the remembered simple key, if any, becomes a key before its tokens.
Tabs right after the `:` must be followed by a space before content. -/
def fetchValue : Scan Unit := do
  let m ← here
  skip
  if (← peek 0) = '\t' then
    let (_, space) ← skipWsToEol true
    let c ← peek 0
    if !space && isWordChar c then
      fault (← here) "':' must be followed by a valid YAML whitespace"
  let s ← get
  match s.keys with
  | k :: ks =>
    if k.possible then
      insertAt (k.number - s.delivered) ⟨k.mark, .key⟩
      rollIndent k.mark.col (some k.number) .blockMappingStart m
      rollOneColIndent
      modify fun s => { s with keys := { k with possible := false } :: ks }
      allowKey false
    else
      if s.flowLevel = 0 then
        if !s.keyAllowed then fault m "mapping values are not allowed in this context"
        rollIndent m.col none .blockMappingStart m
      rollOneColIndent
      allowKey (s.flowLevel = 0)
  | [] => pure ()
  push ⟨m, .value⟩

/-- `&name` or `*name`. -/
def fetchAnchor (isAlias : Bool) : Scan Unit := do
  saveSimpleKey
  allowKey false
  let m ← here
  skip
  let name ← takeWhile isAnchorChar
  if name.isEmpty then
    fault m
      "while scanning an anchor or alias, did not find expected alphabetic or numeric character"
  push ⟨m, if isAlias then .aliasRef name else .anchor name⟩

/-- A tag: `!<name>`, `!!name`, `!handle!name`, `!name` or `!`. -/
def fetchTag : Scan Unit := do
  saveSimpleKey
  allowKey false
  let m ← here
  let (handle, suffix) ←
    if (← peek 1) = '<' then do
      skipN 2
      let suffix ← tagUri isUriChar "" m
      if (← peek 0) ≠ '>' then fault m "while scanning a tag, did not find the expected '>'"
      skip
      pure ("", suffix)
    else do
      let handle ← tagHandle false m
      if 2 ≤ handle.length && handle.startsWith "!" && handle.endsWith "!" then
        pure (handle, ← tagUri isTagChar "" m)
      else
        let suffix ← tagUri isTagChar handle m
        if suffix.isEmpty then pure ("", "!") else pure ("!", suffix)
  let c ← peek 0
  if isBlankOrEnd c || ((← get).flowLevel > 0 && isFlowIndicator c) then
    push ⟨m, .tag handle suffix⟩
  else
    fault m "while scanning a tag, did not find expected whitespace or line break"

/-- Passes the indentation, up to a column, and the empty lines before a line of a block
scalar; gives the breaks passed. -/
def blockScalarIndent (indent : Nat) : Scan String := do
  let mut breaks := ""
  for _ in [0:(← get).rest.length + 1] do
    for _ in [0:(← get).rest.length] do
      if (← here).col < indent && (← peek 0) = ' ' then skip else break
    if !isBreak (← peek 0) then break
    skipBreak
    breaks := breaks.push '\n'
  return breaks

/-- Passes the spaces and empty lines before the first line of a block scalar with no
indentation indicator; gives its indentation, the deepest met and at least one column right of
the enclosing block, and the breaks passed. -/
def blockScalarFirstIndent : Scan (Nat × String) := do
  let mut maxIndent := 0
  let mut breaks := ""
  for _ in [0:(← get).rest.length + 1] do
    let _ ← takeWhile (· = ' ')
    let col := (← here).col
    if col > maxIndent then maxIndent := col
    if !isBreak (← peek 0) then break
    skipBreak
    breaks := breaks.push '\n'
  return (max maxIndent ((← get).indent + 1).toNat, breaks)

/-- Whether the next characters are `...` and a blank or the end. -/
def atDocumentEnd : Scan Bool := do
  return (← get).rest.take 3 = ['.', '.', '.'] && isBlankOrEnd (← peek 3)

/-- How a block scalar keeps its final line breaks. -/
inductive Chomping where
  | strip
  | clip
  | keep
  deriving DecidableEq, Repr

/-- A block scalar after `|` (literal) or `>` (folded), with its header. -/
def blockScalar (literal : Bool) : Scan Token := do
  let start ← here
  let style := if literal then Style.literal else Style.folded
  skip
  unrollNonBlockIndents
  let mut chomping := Chomping.clip
  let mut increment := 0
  let c ← peek 0
  if c = '+' || c = '-' then
    chomping := if c = '+' then .keep else .strip
    skip
    let d ← peek 0
    if d.isDigit then
      if d = '0' then
        fault start "while scanning a block scalar, found an indentation indicator equal to 0"
      increment := d.toNat - 48
      skip
  else if c.isDigit then
    if c = '0' then
      fault start "while scanning a block scalar, found an indentation indicator equal to 0"
    increment := c.toNat - 48
    skip
    let d ← peek 0
    if d = '+' || d = '-' then
      chomping := if d = '+' then .keep else .strip
      skip
  let _ ← skipWsToEol true
  if !isBreakOrEnd (← peek 0) then
    fault start "while scanning a block scalar, did not find expected comment or line break"
  let mut chompingBreak := ""
  if isBreak (← peek 0) then
    skipBreak
    chompingBreak := "\n"
  if (← peek 0) = '\t' then fault start "a block scalar content cannot start with a tab"
  let enclosing := (← get).indent
  let (indent, firstBreaks) ←
    if increment > 0 then do
      let indent := if enclosing ≥ 0 then (enclosing + increment).toNat else increment
      pure (indent, ← blockScalarIndent indent)
    else blockScalarFirstIndent
  let mut trailing := firstBreaks
  if isStreamEnd (← peek 0) then
    let line := (← here).line
    let contents :=
      if chomping = .strip then ""
      else if line = start.line then ""
      else if chomping = .clip then chompingBreak
      else if trailing.isEmpty then chompingBreak
      else trailing
    return ⟨start, .scalar style contents⟩
  let col := (← here).col
  if col < indent && (col : Int) > (← get).indent then
    fault (← here) "wrongly indented line in block scalar"
  let m ← here
  let mut out := ""
  let mut leadingBreak := ""
  let mut leadingBlank := false
  for _ in [0:(← get).rest.length + 1] do
    if (← here).col ≠ indent || isStreamEnd (← peek 0) then break
    if indent = 0 && (← atDocumentEnd) then break
    let trailingBlank := isBlank (← peek 0)
    if !literal && !leadingBreak.isEmpty && !leadingBlank && !trailingBlank then
      out := out ++ trailing
      if trailing.isEmpty then out := out.push ' '
    else
      out := out ++ leadingBreak ++ trailing
    leadingBreak := ""
    trailing := ""
    leadingBlank := isBlank (← peek 0)
    out := out ++ (← takeWhile fun c => !isBreakOrEnd c)
    if isStreamEnd (← peek 0) then break
    skipBreak
    leadingBreak := "\n"
    trailing ← blockScalarIndent indent
  if chomping ≠ .strip then
    out := out ++ leadingBreak
    if isStreamEnd (← peek 0) && (← here).col ≥ max indent 1 then out := out.push '\n'
  if chomping = .keep then out := out ++ trailing
  return ⟨m, .scalar style out⟩

/-- Whether the next characters are a document marker at the start of a line. -/
def atDocumentMarker : Scan Bool := do
  let s ← get
  let three := s.rest.take 3
  return s.mark.col = 0 && (three = ['-', '-', '-'] || three = ['.', '.', '.']) &&
    isBlankOrEnd (← peek 3)

/-- The character of an escape in a double-quoted scalar, or the number of hexadecimal digits
that name it. -/
def escapeOf (c : Char) : Option (Sum Char Nat) :=
  match c with
  | '0' => some (.inl (Char.ofNat 0))
  | 'a' => some (.inl (Char.ofNat 7))
  | 'b' => some (.inl (Char.ofNat 8))
  | 't' => some (.inl '\t')
  | '\t' => some (.inl '\t')
  | 'n' => some (.inl '\n')
  | 'v' => some (.inl (Char.ofNat 11))
  | 'f' => some (.inl (Char.ofNat 12))
  | 'r' => some (.inl '\r')
  | 'e' => some (.inl (Char.ofNat 27))
  | ' ' => some (.inl ' ')
  | '"' => some (.inl '"')
  | '/' => some (.inl '/')
  | '\\' => some (.inl '\\')
  | 'N' => some (.inl (Char.ofNat 0x85))
  | '_' => some (.inl (Char.ofNat 0xA0))
  | 'L' => some (.inl (Char.ofNat 0x2028))
  | 'P' => some (.inl (Char.ofNat 0x2029))
  | 'x' => some (.inr 2)
  | 'u' => some (.inr 4)
  | 'U' => some (.inr 8)
  | _ => none

/-- A character named by hexadecimal digits after an escape. -/
def hexEscape (start : Mark) (n : Nat) : Scan Char := do
  let ds := (← get).rest.take n
  let mut v := 0
  for i in [0:n] do
    match hexValue? (ds.getD i (Char.ofNat 0)) with
    | some d => v := v * 16 + d
    | none =>
      fault start "while parsing a quoted scalar, did not find expected hexdecimal number"
  if v < 0xD800 || (0xDFFF < v && v < 0x110000) then
    skipN n
    return Char.ofNat v
  fault start "while parsing a quoted scalar, found invalid Unicode character escape code"

/-- What a run of blanks and breaks inside a scalar makes: the blanks themselves when no break
is among them; the line breaks after the first when there are more; a space for a single
break. -/
def folded (leadingBreak trailing whitespace : String) (breaks : Bool) : String :=
  if breaks then
    if leadingBreak.isEmpty then trailing
    else if trailing.isEmpty then " "
    else trailing
  else whitespace

/-- A quoted scalar: single-quoted, with `''` for a quote, or double-quoted, with escapes. Its
lines must not be left of the indentation, and after it only blanks and a comment may follow on
its line, or a `:` (on its first line in block context), or in flow context `,`, `]` or `}`. -/
def flowScalar (single : Bool) : Scan Token := do
  let start ← here
  skip
  let mut out := ""
  for _ in [0:(← get).rest.length + 1] do
    if ← atDocumentMarker then
      fault start "while scanning a quoted scalar, found unexpected document indicator"
    if isStreamEnd (← peek 0) then
      fault start "while scanning a quoted scalar, found unexpected end of stream"
    if ((← here).col : Int) < (← get).indent then
      fault start "invalid indentation in quoted scalar"
    let mut breaks := false
    let mut closed := false
    for _ in [0:(← get).rest.length] do
      let c ← peek 0
      let d ← peek 1
      if isBlankOrEnd c then break
      if single && c = '\'' && d = '\'' then
        out := out.push '\''
        skipN 2
      else if (single && c = '\'') || (!single && c = '"') then
        closed := true
        break
      else if !single && c = '\\' && isBreak d then
        skip
        skipBreak
        breaks := true
        break
      else if !single && c = '\\' then
        match escapeOf d with
        | none => fault start "while parsing a quoted scalar, found unknown escape character"
        | some (.inl e) =>
          out := out.push e
          skipN 2
        | some (.inr n) =>
          skipN 2
          out := out.push (← hexEscape start n)
      else
        out := out.push c
        skip
    let c ← peek 0
    if closed || (single && c = '\'') || (!single && c = '"') then break
    let mut whitespace := ""
    let mut leadingBreak := ""
    let mut trailing := ""
    for _ in [0:(← get).rest.length] do
      let c ← peek 0
      if isBlank c then
        if breaks then
          if c = '\t' && ((← here).col : Int) < (← get).indent then
            fault (← here) "tab cannot be used as indentation"
        else whitespace := whitespace.push c
        skip
      else if isBreak c then
        if breaks then trailing := trailing.push '\n'
        else
          whitespace := ""
          leadingBreak := "\n"
          breaks := true
        skipBreak
      else break
    out := out ++ folded leadingBreak trailing whitespace breaks
  skip
  let _ ← skipWsToEol true
  let c ← peek 0
  let s ← get
  let fine :=
    (s.flowLevel > 0 && (c = ',' || c = '\x7d' || c = ']')) || isBreakOrEnd c ||
      (c = ':' && (s.flowLevel > 0 || start.line = s.mark.line))
  if !fine then fault s.mark "invalid trailing content after double-quoted scalar"
  let kind := if single then Style.singleQuoted else Style.doubleQuoted
  return ⟨start, .scalar kind out⟩

/-- Whether the next character may go on in a plain scalar: not a `:` before a blank (or, in
flow context, before a flow indicator), and not a flow indicator in flow context. -/
def plainGoesOn : Scan Bool := do
  let c ← peek 0
  let d ← peek 1
  let flow := (← get).flowLevel > 0
  return !(c = ':' && (isBlankOrEnd d || (flow && isFlowIndicator d))) &&
    !(flow && isFlowIndicator c)

/-- A plain scalar: it ends before `: ` or ` #`, before a flow indicator in flow context, and,
in block context, at a line indented no further than the enclosing block. -/
def plainScalar : Scan Token := do
  unrollNonBlockIndents
  let s ← get
  let indent := s.indent + 1
  let start := s.mark
  if s.flowLevel > 0 && (start.col : Int) < indent then
    fault start "invalid indentation in flow construct"
  let mut out := ""
  let mut leadingBreak := ""
  let mut trailing := ""
  let mut whitespace := ""
  let mut breaks := false
  for _ in [0:s.rest.length + 1] do
    if ← atDocumentMarker then break
    if (← peek 0) = '#' then break
    if (← get).flowLevel > 0 && (← peek 0) = '-' && isFlowIndicator (← peek 1) then
      fault (← here) "plain scalar cannot start with '-' followed by ,[]\x7b\x7d"
    for _ in [0:(← get).rest.length] do
      if isBlankOrEnd (← peek 0) then break
      if !(← plainGoesOn) then break
      if breaks || !whitespace.isEmpty then
        out := out ++ folded leadingBreak trailing whitespace breaks
        leadingBreak := ""
        trailing := ""
        whitespace := ""
        breaks := false
      out := out.push (← peek 0)
      skip
    let c ← peek 0
    if !(isBlank c || isBreak c) then break
    for _ in [0:(← get).rest.length] do
      let c ← peek 0
      if isBlank c then
        if !breaks then
          whitespace := whitespace.push c
          skip
        else if ((← here).col : Int) < indent && c = '\t' then
          let _ ← skipWsToEol true
          if !isBreakOrEnd (← peek 0) then
            fault start "while scanning a plain scalar, found a tab"
        else skip
      else if isBreak c then
        if breaks then trailing := trailing.push '\n'
        else
          whitespace := ""
          leadingBreak := "\n"
          breaks := true
        skipBreak
      else break
    if (← get).flowLevel = 0 && ((← here).col : Int) < indent then break
  if breaks then allowKey true
  return ⟨start, .scalar .plain out⟩

/-- Passes blanks, line breaks and comments before the next token. A tab in the indentation of
a block, before content on its line, fails. -/
def skipToNextToken : Scan Unit := do
  for _ in [0:(← get).rest.length + 1] do
    let s ← get
    let c ← peek 0
    if c = '\t' && !s.indents.isEmpty && s.leading && (s.mark.col : Int) < s.indent then
      let _ ← skipWsToEol true
      if !isBreakOrEnd (← peek 0) then
        fault (← here) "tabs disallowed within this context (block indentation)"
    else if isBlank c then skip
    else if isBreak c then
      skipBreak
      if (← get).flowLevel = 0 then allowKey true
    else if c = '#' then skipToBreak
    else break

/-- Fetches the next token or tokens. -/
def fetchNextToken : Scan Unit := do
  if !(← get).started then
    fetchStreamStart
    return
  skipToNextToken
  staleSimpleKeys
  unrollIndent (← here).col
  let c ← peek 0
  let d ← peek 1
  let s ← get
  if isStreamEnd c then fetchStreamEnd
  else if s.mark.col = 0 && c = '%' then fetchDirective
  else if s.mark.col = 0 && s.rest.take 3 = ['-', '-', '-'] && isBlankOrEnd (← peek 3) then
    fetchDocumentIndicator .documentStart
  else if s.mark.col = 0 && s.rest.take 3 = ['.', '.', '.'] && isBlankOrEnd (← peek 3) then
    fetchDocumentIndicator .documentEnd
    let _ ← skipWsToEol true
    if !isBreakOrEnd (← peek 0) then
      fault (← here) "invalid content after document end marker"
  else if (s.mark.col : Int) < s.indent then fault s.mark "invalid indentation"
  else
    let flow := s.flowLevel > 0
    match c with
    | '[' => fetchFlowCollectionStart .flowSequenceStart
    | '\x7b' => fetchFlowCollectionStart .flowMappingStart
    | ']' => fetchFlowCollectionEnd .flowSequenceEnd
    | '\x7d' => fetchFlowCollectionEnd .flowMappingEnd
    | ',' => fetchFlowEntry
    | '*' => fetchAnchor true
    | '&' => fetchAnchor false
    | '!' => fetchTag
    | '\'' =>
      saveSimpleKey
      allowKey false
      let t ← flowScalar true
      modify fun s => { s with adjacentValueAt := s.mark.index }
      push t
    | '"' =>
      saveSimpleKey
      allowKey false
      let t ← flowScalar false
      modify fun s => { s with adjacentValueAt := s.mark.index }
      push t
    | _ =>
      if c = '-' && isBlankOrEnd d then fetchBlockEntry
      else if c = '?' && isBlankOrEnd d then fetchKey
      else if c = ':' &&
          (isBlankOrEnd d || (flow && (isFlowIndicator d || s.mark.index = s.adjacentValueAt))) then
        fetchValue
      else if (c = '|' || c = '>') && !flow then
        saveSimpleKey
        allowKey true
        push (← blockScalar (c = '|'))
      else if c = '%' || c = '@' || c.toNat = 96 then
        fault s.mark ("unexpected character: `" ++ String.singleton c ++ "'")
      else
        saveSimpleKey
        allowKey false
        push (← plainScalar)

/-- Fetches tokens until the first can be handed out: none may be while a simple key before
them is still possible. -/
def fetchMoreTokens : Scan Unit := do
  for _ in [0:(← get).rest.length + 4] do
    let s ← get
    let needMore ←
      if s.queue.isEmpty then pure true
      else do
        staleSimpleKeys
        let s ← get
        pure (s.keys.any fun k => k.possible && k.number = s.delivered)
    if !needMore then break
    fetchNextToken

/-- Hands out the next token. -/
def nextToken : Scan (Option Token) := do
  fetchMoreTokens
  let s ← get
  match s.queue with
  | t :: rest =>
    set { s with queue := rest, delivered := s.delivered + 1 }
    return some t
  | [] => return none

/-- The tokens of a text up to the end of the stream, and the failure that stopped them, if
any. -/
def scan (source : String) : List Token × Option Fault :=
  let rec go : Nat → Scanner → List Token → List Token × Option Fault
    | 0, _, acc => (acc.reverse, none)
    | fuel + 1, s, acc =>
      match nextToken.run s with
      | .error f => (acc.reverse, some f)
      | .ok (none, _) => (acc.reverse, none)
      | .ok (some t, s') =>
        if t.kind = .streamEnd then ((t :: acc).reverse, none) else go fuel s' (t :: acc)
  go (4 * source.length + 8) (Scanner.start source) []

end Yaml

end Invoicing
