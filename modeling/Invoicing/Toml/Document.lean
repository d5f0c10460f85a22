import Invoicing.Toml.Value

/-!
# TOML documents

A document is read line by line: blank lines, comment lines, table headers `[key]` and
`[[key]]`, and `key = value` lines, each value followed only by blanks and a comment. Values go
into the table of the last header, or the root before any header.

Tables are built as the lines come:
* a dotted key `a.b = 1` makes tables `a` on the way, which count as made by dotted keys; it may
  go on in a table made that way, but not in one made by a header, and not through a value;
* a header `[a.b]` makes `a` on the way as an implicit table; it may later be given its own
  header, once, but a table already given a header or made by dotted keys may not be;
* a header `[[a]]` adds a table to the array of tables `a`, and keys through `a` go into its
  last table;
* a key may be given once in each table.
A table is filed into its parent when the next header comes, or at the end.

A failure is reported with its line and column and a copy of the line (see `Failure.render`);
a key given twice names the table (`in table a.b`, or `in document root`), a header names the
key as written, and a failure of a header is `invalid table header`.

At the root a value is a setting of its own kind (a date-time as its text), an inline table or a
table a map, and an array or an array of tables a sequence.
-/

namespace Invoicing

namespace Toml

open Config

/-- Where the reading of a document stands: the root table, and the table being filled with its
path and whether it belongs to an array of tables. -/
structure Document where
  root : Table
  current : Table
  path : List Key
  isArray : Bool

/-- A document before any line. -/
def Document.start : Document := ⟨Table.empty false false, Table.empty false false, [], false⟩

/-- The failure of a key given twice in a table, named by its path. -/
def duplicateIn (k : String) (table : List Key) : String :=
  if table.isEmpty then "duplicate key `" ++ k ++ "` in document root"
  else "duplicate key `" ++ k ++ "` in table `" ++ ".".intercalate (table.map (·.name)) ++ "`"

/-- The failure of a header whose table is taken, naming its last key as written. -/
def duplicateHeader (path : List Key) : String :=
  match path.getLast? with
  | some k => duplicateIn k.raw path.dropLast
  | none => ""

/-- Applies a change to the table at a path below a table, making implicit tables on the way
(made by dotted keys when `dotted`) and going into the last table of an array of tables;
`full` is the whole path, for messages. -/
def Table.modifyAt {α : Type} (dotted : Bool) (full : List Key)
    (f : Table → Except String (Table × α)) : Table → List Key → Nat → Except String (Table × α)
  | t, [], _ => f t
  | t, k :: rest, i =>
    match (t.find? k.name).getD (.table (Table.empty true dotted)) with
    | .value _ kind => .error (extendWrongType (full.take (i + 1)) kind)
    | .tables ts =>
      match ts.getLast? with
      | some last => do
        let (last', a) ← Table.modifyAt dotted full f last rest (i + 1)
        pure (t.set k.name (.tables (ts.dropLast ++ [last'])), a)
      | none => .error (duplicateKey k.name)
    | .table sub =>
      if dotted && !sub.implicit then .error (duplicateKey k.name)
      else do
        let (sub', a) ← Table.modifyAt dotted full f sub rest (i + 1)
        pure (t.set k.name (.table sub'), a)

/-- Puts a value into the table being filled, at a path of dotted keys. -/
def Document.keyval (d : Document) (path : List Key) (k : Key) (item : Item) :
    Except String Document := do
  let item := match item with
    | .table _ => .value .map "inline table"
    | other => other
  let (current, _) ← d.current.modifyAt true path (fun table =>
    if table.dotted = path.isEmpty then .error (duplicateKey k.name)
    else match table.find? k.name with
      | some _ => .error (duplicateIn k.name d.path)
      | none => .ok (table.set k.name item, ())) path 0
  pure { d with current := current }

/-- Files the table being filled into its parent. -/
def Document.finalize (d : Document) : Except String Document := do
  match d.path.getLast? with
  | none => pure ⟨d.current, Table.empty false false, [], false⟩
  | some k =>
    let parent := d.path.dropLast
    let (root, _) ← d.root.modifyAt false parent (fun t =>
      if d.isArray then
        match t.find? k.name with
        | some (.tables ts) => .ok (t.set k.name (.tables (ts ++ [d.current])), ())
        | none => .ok (t.set k.name (.tables [d.current]), ())
        | some _ => .error (duplicateHeader d.path)
      else
        match t.find? k.name with
        | some (.table old) =>
          if old.implicit then .ok (t.set k.name (.table d.current), ())
          else .error (duplicateHeader d.path)
        | some _ => .error (duplicateHeader d.path)
        | none => .ok (t.set k.name (.table d.current), ())) parent 0
    pure ⟨root, Table.empty false false, [], false⟩

/-- Starts the table of a header `[path]`, taking over an implicit table of that path. -/
def Document.startTable (d : Document) (path : List Key) : Except String Document := do
  match path.getLast? with
  | none => .error ""
  | some k =>
    let (root, taken) ← d.root.modifyAt false path.dropLast (fun t =>
      match t.find? k.name with
      | some (.table old) =>
        if old.implicit && !old.dotted then .ok (t.remove k.name, some old)
        else .error (duplicateHeader path)
      | some _ => .error (duplicateHeader path)
      | none => .ok (t, none)) path.dropLast 0
    pure ⟨root, (taken.getD (Table.empty false false)).withFlags false false, path, false⟩

/-- Starts a table of a header `[[path]]`, making the array of tables if there is none. -/
def Document.startArray (d : Document) (path : List Key) : Except String Document := do
  match path.getLast? with
  | none => .error ""
  | some k =>
    let (root, _) ← d.root.modifyAt false path.dropLast (fun t =>
      match t.find? k.name with
      | some (.tables _) => .ok (t, ())
      | some _ => .error (duplicateHeader path)
      | none => .ok (t.set k.name (.tables []), ())) path.dropLast 0
    pure ⟨root, Table.empty false false, path, true⟩

/-- A header with the rest of its line: whether it is of an array of tables, and its path. -/
def header : Parser (Bool × List Key) := do
  if (← peekN 2) = ['[', '['] then
    literal "[["
    let ks ← key.cutErr
    (((literal "]]").cutErr).expect "`.`").expect "`]]`"
    ((lineTrailing.cutErr).expect "newline").expect "`#`"
    pure (true, ks)
  else
    char '['
    let ks ← key.cutErr
    (((char ']').cutErr).expect "`.`").expect "`]`"
    ((lineTrailing.cutErr).expect "newline").expect "`#`"
    pure (false, ks)

/-- A `key = value` line: the path, the last key and the value. -/
def keyvalLine : Parser (List Key × Key × Item) := do
  let ks ← key
  let v ← Parser.cutErr do
    let _ ← ((char '=').expect "`.`").expect "`=`"
    let _ ← ws
    let v ← value (depthLimit - 1)
    (lineTrailing.expect "newline").expect "`#`"
    pure v
  match ks.getLast? with
  | some k => pure (ks.dropLast, k, v)
  | none => backtrack

/-- Reads one line at a cursor that stands at its start, after blanks. -/
def line (c : Cursor) (d : Document) : Except Failure (Cursor × Document) :=
  match c.rest with
  | [] => .ok (c, d)
  | ch :: _ =>
    if ch = '#' then
      match (Parser.cutErr do comment; lineEnding) c with
      | .ok (_, c') => .ok (c', d)
      | .error e => .error e
    else if ch = '[' then
      match (header.label "table header").cutErr c with
      | .error e => .error e
      | .ok ((isArray, path), c') =>
        match d.finalize.bind fun d => if isArray then d.startArray path else d.startTable path with
        | .ok d' => .ok (c', d')
        | .error msg => .error ⟨true, c.pos, [.label "table header"], some msg⟩
    else if ch = '\n' ∨ ch = '\r' then
      match newline c with
      | .ok (_, c') => .ok (c', d)
      | .error _ => .error ⟨false, c.pos, [], none⟩
    else
      match keyvalLine.cutErr c with
      | .error e => .error e
      | .ok ((path, k, item), c') =>
        match d.keyval path k item with
        | .ok d' => .ok (c', d')
        | .error msg => .error ⟨true, c.pos, [], some msg⟩

/-- Reads the lines of a document, each followed by blanks; `fuel` bounds the lines. -/
def lines : Nat → Cursor → Document → Except Failure Document
  | 0, _, d => .ok d
  | fuel + 1, c, d =>
    if c.rest.isEmpty then .ok d
    else
      match line c d with
      | .error e => .error e
      | .ok (c', d') =>
        match ws c' with
        | .ok (_, c'') => lines fuel c'' d'
        | .error e => .error e

/-- The setting of an entry at the root. -/
def Item.setting : Item → Setting
  | .value s _ => s
  | .table _ => .map
  | .tables _ => .seq

/-- The settings at the root of a document, or the text of the failure. -/
def read (source : String) : Except String (List (String × Setting)) :=
  let cs := source.toList
  let start : Cursor := match cs with
    | c :: rest => if c.toNat = 0xFEFF then ⟨rest, 1⟩ else ⟨cs, 0⟩
    | [] => ⟨[], 0⟩
  let c := match ws start with
    | .ok (_, c) => c
    | .error _ => start
  match lines (c.rest.length + 1) c Document.start with
  | .error f => .error (f.render cs)
  | .ok d =>
    match d.finalize with
    | .error msg => .error (msg ++ "\n")
    | .ok d => .ok (d.root.entries.map fun (k, item) => (k, item.setting))

end Toml

end Invoicing
