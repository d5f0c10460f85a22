import Invoicing.Yaml.Events
import Invoicing.Config.Setting

/-!
# YAML nodes and settings

The events of a stream are built into the nodes of its documents, and the one document of a
configuration file into settings.

A scalar becomes a node by its style and tag:
* a quoted or block scalar is text;
* a plain scalar with a YAML tag (`!!int`, `!!float`, `!!bool`, `!!null`) must read as that
  kind, or it is a bad value; with another YAML tag, or any other tag, it is text;
* an untagged plain scalar is resolved by its text (`Node.ofPlain`): `0x` and `0o` numbers,
  numbers with `+`, `~` and `null`, `true` and `false`, decimal whole numbers in the signed 64-bit
  range, real numbers (kept as their text), and text for anything else.
An alias is a copy of the node of its anchor, as that node was when it was done; an anchor whose
node is not done yet is a bad value. A mapping may not hold a key twice: the first repeat fails,
naming the key as its node is written out (see `Node.debug`) and placed at its value.

A document's root becomes settings: text, whole numbers and truth values as they are, real
numbers when their text reads as a decimal float (the dotted forms such as `.inf` do not, and
fail), nothing for null and bad values, and maps and sequences of settings.

What is proved here:
* `ofScalar_quoted`: a double-quoted scalar is text, whatever its tag.
-/

namespace Invoicing

namespace Yaml

open Config

/-- A node of a document. Real numbers keep their text. -/
inductive Node where
  | real (text : String)
  | integer (i : Int)
  | string (s : String)
  | boolean (b : Bool)
  | array (items : List Node)
  | hash (entries : List (Node × Node))
  | null
  | badValue
  deriving Repr

mutual

/-- Whether two nodes are the same, entries of mappings in order. -/
def Node.same : Node → Node → Bool
  | .real a, .real b => a == b
  | .integer a, .integer b => a == b
  | .string a, .string b => a == b
  | .boolean a, .boolean b => a == b
  | .array a, .array b => Node.sameItems a b
  | .hash a, .hash b => Node.sameEntries a b
  | .null, .null => true
  | .badValue, .badValue => true
  | _, _ => false

/-- Whether two lists of nodes are the same, in order. -/
def Node.sameItems : List Node → List Node → Bool
  | [], [] => true
  | a :: as, b :: bs => Node.same a b && Node.sameItems as bs
  | _, _ => false

/-- Whether two lists of entries are the same, in order. -/
def Node.sameEntries : List (Node × Node) → List (Node × Node) → Bool
  | [], [] => true
  | (k, v) :: as, (k', v') :: bs => Node.same k k' && Node.same v v' && Node.sameEntries as bs
  | _, _ => false

end

mutual

/-- A node written out in full, as a failure names a key. -/
def Node.debug : Node → String
  | .real t => "Real(" ++ showString t ++ ")"
  | .integer i => "Integer(" ++ toString i ++ ")"
  | .string s => "String(" ++ showString s ++ ")"
  | .boolean b => "Boolean(" ++ toString b ++ ")"
  | .array items => "Array([" ++ Node.debugItems items ++ "])"
  | .hash entries => "Hash(\x7b" ++ Node.debugEntries entries ++ "\x7d)"
  | .null => "Null"
  | .badValue => "BadValue"

/-- Nodes written out, with commas between. -/
def Node.debugItems : List Node → String
  | [] => ""
  | [n] => Node.debug n
  | n :: rest => Node.debug n ++ ", " ++ Node.debugItems rest

/-- Entries written out as `key: value`, with commas between. -/
def Node.debugEntries : List (Node × Node) → String
  | [] => ""
  | [(k, v)] => Node.debug k ++ ": " ++ Node.debug v
  | (k, v) :: rest => Node.debug k ++ ": " ++ Node.debug v ++ ", " ++ Node.debugEntries rest

end

/-- Digits of a radix as a number, `none` when empty or when one is not a digit. -/
def radixValue (radix : Nat) (cs : List Char) : Option Nat :=
  if cs.isEmpty then none
  else cs.foldl (fun acc c => acc.bind fun n =>
    (hexValue? c).bind fun d => if d < radix then some (n * radix + d) else none) (some 0)

/-- A number of a radix with an optional sign, in the signed 64-bit range. -/
def signedIn (radix : Nat) (cs : List Char) : Option Int :=
  let (neg, body) := match cs with
    | '-' :: r => (true, r)
    | '+' :: r => (false, r)
    | r => (false, r)
  (radixValue radix body).bind fun n =>
    if neg then (if n ≤ Nat.pow 2 63 then some (-(n : Int)) else none)
    else if n < Nat.pow 2 63 then some n else none

/-- Whether a text is one of the dotted forms of infinity and not-a-number. -/
def dottedFloat (s : String) : Bool :=
  [".inf", ".Inf", ".INF", "+.inf", "+.Inf", "+.INF", "-.inf", "-.Inf", "-.INF",
    ".nan", "NaN", ".NAN"].contains s

/-- Whether a text is a real number: a dotted form, or a decimal float. -/
def isReal (s : String) : Bool := dottedFloat s || (Config.Floating.read? s.toList).isSome

/-- The node of an untagged plain scalar. -/
def Node.ofPlain (s : String) : Node :=
  let cs := s.toList
  let prefixed : Option Int :=
    if s.startsWith "0x" then signedIn 16 (cs.drop 2)
    else if s.startsWith "0o" then signedIn 8 (cs.drop 2)
    else if s.startsWith "+" then signedIn 10 (cs.drop 1)
    else none
  match prefixed with
  | some i => .integer i
  | none =>
    if s = "~" || s = "null" then .null
    else if s = "true" then .boolean true
    else if s = "false" then .boolean false
    else
      match signedIn 10 cs with
      | some i => .integer i
      | none => if isReal s then .real s else .string s

/-- The node of a plain scalar with a YAML tag. -/
def Node.ofTagged (name s : String) : Node :=
  match name with
  | "bool" =>
    if s = "true" then .boolean true else if s = "false" then .boolean false else .badValue
  | "int" =>
    match signedIn 10 s.toList with
    | some i => .integer i
    | none => .badValue
  | "float" => if isReal s then .real s else .badValue
  | "null" => if s = "~" || s = "null" then .null else .badValue
  | _ => .string s

/-- The node of a scalar. -/
def Node.ofScalar (text : String) (style : Style) (tag : Option Tag) : Node :=
  if style ≠ .plain then .string text
  else
    match tag with
    | some t =>
      if t.handle = "tag:yaml.org,2002:" then Node.ofTagged t.suffix text else .string text
    | none => Node.ofPlain text

theorem ofScalar_quoted (text : String) (tag : Option Tag) :
    Node.ofScalar text .doubleQuoted tag = .string text := by
  simp [Node.ofScalar]

/-- The building of documents: the open collections, innermost first, each with its anchor; the
key waiting for its value in each open mapping (a bad value when none); the nodes of anchors;
the documents done, last first; and the first failure. -/
structure Builder where
  open_ : List (Node × Nat)
  keys : List Node
  anchors : List (Nat × Node)
  docs : List Node
  fault : Option Fault

/-- Adds a node done, with its anchor, to the innermost open collection, or makes it the
document's root. -/
def Builder.insert (b : Builder) (node : Node) (anchor : Nat) (m : Mark) : Builder :=
  let b := if anchor > 0 then { b with anchors := (anchor, node) :: b.anchors } else b
  match b.open_ with
  | [] => { b with open_ := [(node, anchor)] }
  | (.array items, a) :: rest => { b with open_ := (.array (items ++ [node]), a) :: rest }
  | (.hash entries, a) :: rest =>
    match b.keys with
    | k :: ks =>
      match k with
      | .badValue => { b with keys := node :: ks }
      | _ =>
        let b := { b with keys := .badValue :: ks }
        if entries.any fun e => Node.same e.1 k then
          { b with fault := some ⟨m, Node.debug k ++ ": duplicated key in mapping"⟩ }
        else { b with open_ := (.hash (entries ++ [(k, node)]), a) :: rest }
    | [] => b
  | _ => b

/-- Takes in one event. -/
def Builder.step (b : Builder) (ev : Event) (m : Mark) : Builder :=
  if b.fault.isSome then b
  else
    match ev with
    | .documentEnd =>
      match b.open_ with
      | [] => { b with docs := .badValue :: b.docs }
      | [(n, _)] => { b with docs := n :: b.docs, open_ := [] }
      | _ => b
    | .sequenceStart a => { b with open_ := (.array [], a) :: b.open_ }
    | .mappingStart a => { b with open_ := (.hash [], a) :: b.open_, keys := .badValue :: b.keys }
    | .sequenceEnd =>
      match b.open_ with
      | (n, a) :: rest => Builder.insert { b with open_ := rest } n a m
      | [] => b
    | .mappingEnd =>
      match b.open_ with
      | (n, a) :: rest => Builder.insert { b with open_ := rest, keys := b.keys.drop 1 } n a m
      | [] => b
    | .scalar text style a tag => b.insert (Node.ofScalar text style tag) a m
    | .aliasRef id => b.insert ((b.anchors.lookup id).getD .badValue) 0 m
    | _ => b

/-- The documents of a stream's events, or the first failure. -/
def build (events : List (Event × Mark)) : Except Fault (List Node) :=
  let b := events.foldl (fun (b : Builder) (p : Event × Mark) => b.step p.1 p.2)
    (Builder.mk [] [] [] [] none)
  match b.fault with
  | some f => .error f
  | none => .ok b.docs.reverse

/-- The failure of a real number whose text does not read as a decimal float. -/
def floatFailure (t : String) : String := "Parsing " ++ t ++ " as floating point number failed"

mutual

/-- The setting of a node, or the failure of a real number in it. -/
def Node.setting : Node → Except String Setting
  | .string s => .ok (.text s)
  | .real t =>
    match Config.Floating.read? t.toList with
    | some r => .ok (.real r)
    | none => .error (floatFailure t)
  | .integer i => .ok (.int i)
  | .boolean b => .ok (.bool b)
  | .hash entries => (Node.entrySettings entries).map fun _ => .map
  | .array items => (Node.itemSettings items).map fun _ => .seq
  | .null => .ok .nil
  | .badValue => .ok .nil

/-- The settings of the values of entries, in order. -/
def Node.entrySettings : List (Node × Node) → Except String (List Setting)
  | [] => .ok []
  | (_, v) :: rest => do
    let s ← Node.setting v
    let ss ← Node.entrySettings rest
    pure (s :: ss)

/-- The settings of nodes, in order. -/
def Node.itemSettings : List Node → Except String (List Setting)
  | [] => .ok []
  | n :: rest => do
    let s ← Node.setting n
    let ss ← Node.itemSettings rest
    pure (s :: ss)

end

/-- The name of a key at the root: text as it is, a whole number in decimal. -/
def Node.keyName : Node → String
  | .string s => s
  | .integer i => toString i
  | n => Node.debug n

/-- The settings of a document's root: the entries of a mapping, a later one of a name taking
the place of an earlier, or a setting of another kind. -/
def rootSettings (root : Node) : Except String (Sum Setting (List (String × Setting))) :=
  match root with
  | .hash entries => do
    let settings ← Node.entrySettings entries
    let named := (entries.map fun e => Node.keyName e.1).zip settings
    pure (.inr (named.foldl (fun acc (k, v) => (acc.filter (·.1 ≠ k)) ++ [(k, v)]) []))
  | n => (Node.setting n).map .inl

/-- The settings at the root of a stream, or the text of the failure. A stream of no document is
an empty map, and one of several documents is refused. -/
def read (source : String) : Except String (Sum Setting (List (String × Setting))) :=
  let (tokens, scanFault) := scan source
  let (events, fault) := parseEvents tokens scanFault
  match fault with
  | some f => .error f.text
  | none =>
    match build events with
    | .error f => .error f.text
    | .ok [] => .ok (.inr [])
    | .ok [d] => rootSettings d
    | .ok ds => .error ("Got " ++ toString ds.length ++ " YAML documents, expected 1")

end Yaml

end Invoicing
