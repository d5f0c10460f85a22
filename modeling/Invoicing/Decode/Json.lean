import Invoicing.Decode.Basic

/-!
# JSON values as decoder input and output

`Decoder.json` reads any JSON value; objects come out with their keys sorted and each key once,
the last occurrence winning. At most 127 arrays and objects may be open at once. `Json.parse?` reads a whole text that way.

A value can also be decoded again: `Json.tokenKinds` lays it out as the tokens of its compact
text, and `Decoder.runValue` runs a decoder on them. Such a run reports failures without places,
and an array with more elements than a record has fields by its length.
-/

namespace Invoicing

namespace Decoder

/-- Reads the members of an object, each value by `d`, into a key-sorted list; `fuel` bounds the
number of members. -/
def entries {α : Type} (d : Decoder α) (acc : List (String × α)) (first : Bool) :
    Nat → Decoder (List (String × α))
  | 0 => pure acc
  | fuel + 1 => do
    match ← nextKey first with
    | none => pure acc
    | some key =>
      let v ← within (.field key) (do colon; d)
      let acc := acc.filter (fun p => p.1 != key)
      entries d (acc ++ [(key, v)]) false fuel

/-- The number of arrays and objects that may be open at once: opening one more is refused at
its bracket. -/
def nestingLimit : Nat := 127

/-- Any JSON value inside `depth` open arrays and objects; `fuel` bounds the depth of nesting. -/
def json (depth : Nat) : Nat → Decoder Json
  | 0 => pure .null
  | fuel + 1 => do
    let t ← peek
    match t.kind with
    | .null => do advance; pure .null
    | .bool b => do advance; pure (.bool b)
    | .num n => do advance; pure (.num n)
    | .str s => do advance; pure (.str s)
    | .beginArray => do
      if nestingLimit ≤ depth then syntaxAt .recursionLimitExceeded t.peek
      advance
      let items ← elements (json (depth + 1) fuel) 0 true (← remaining)
      closeArray items.length
      pure (.arr items)
    | .beginObject => do
      if nestingLimit ≤ depth then syntaxAt .recursionLimitExceeded t.peek
      advance
      let fields ← entries (json (depth + 1) fuel) [] true (← remaining)
      closeObject
      pure (.obj (fields.mergeSort (fun a b => decide (a.1 ≤ b.1))))
    | _ => noValue t

/-- The end of a text after its value: only blanks may follow. -/
def finish : Decoder Unit := do
  let t ← peek
  match t.kind with
  | .eof => pure ()
  | _ => syntaxAt .trailingCharacters t.peek

end Decoder

namespace Json

/-- Reads a whole JSON text. -/
def parse? (text : String) : Except DecodeError Json :=
  Decoder.runText (do
    let j ← Decoder.json 0 ((tokens text).length + 1)
    Decoder.finish
    pure j) text

mutual
/-- The tokens of a value's compact text. -/
def tokenKinds : Json → List TokenKind
  | .null => [.null]
  | .bool b => [.bool b]
  | .num n => [.num n]
  | .str s => [.str s]
  | .arr items => .beginArray :: itemKinds items ++ [.endArray]
  | .obj fields => .beginObject :: fieldKinds fields ++ [.endObject]

/-- The tokens of array elements with commas between them. -/
def itemKinds : List Json → List TokenKind
  | [] => []
  | [j] => tokenKinds j
  | j :: rest => tokenKinds j ++ .comma :: itemKinds rest

/-- The tokens of object members with commas between them. -/
def fieldKinds : List (String × Json) → List TokenKind
  | [] => []
  | [(k, j)] => .str k :: .colon :: tokenKinds j
  | (k, j) :: rest => .str k :: .colon :: tokenKinds j ++ .comma :: fieldKinds rest
end

end Json

namespace Decoder

/-- Runs a decoder on a JSON value. -/
def runValue {α : Type} (d : Decoder α) (j : Json) : Except DecodeError α :=
  let here : Pos := ⟨0, 0⟩
  let toks := (j.tokenKinds ++ [TokenKind.eof]).map fun k =>
    { kind := k, lead := ' ', start := here, peek := here, stop := here : Token }
  (d.run [] |>.run { toks := toks, here := here, fromText := false }).map Prod.fst

end Decoder

end Invoicing
