import Invoicing.Decode.Error

/-!
# Decoders

A `Decoder` reads a value from a stream of JSON tokens. The tokens come either from a text (a
request body) or from a JSON value (a payload already parsed); `Feed.fromText` tells which,
because the two report some failures differently.

Reading stands at a place that moves as tokens are looked at and consumed: looking at the next
token moves it to the token's start, consuming it moves it to the token's end. A failure of
data is reported where reading stands when it is found, which fixes the places in messages:
* a scalar of the wrong type or value is reported after it, an array or object of the wrong
  type at its bracket;
* a failure found by a record once its fields are read (a missing field, too few elements) is
  reported after the closing bracket, a duplicate field before the token after its name.

A syntax failure is reported at a place of its own, usually one byte past the token that
caused it.

The combinators follow the shape of the data: `list` reads an array, `record` an object or,
field by field, an array, and `nullable` a value or `null`. Values that no field asks for are
skipped by `skipValue`, which checks their syntax a little less strictly than reading does: a
trailing comma is reported as a missing value or key, a number past the binary64 range passes,
and so does a string, key or value, with an escaped lone surrogate.
-/

namespace Invoicing

/-- The tokens still to decode and the place where reading stands. -/
structure Feed where
  toks : List Token
  here : Pos
  /-- Whether the tokens come from text. From a value, places mean nothing and an array longer
  than wanted is reported by its length. -/
  fromText : Bool

/-- A decoder: it knows the path to the value it decodes, consumes tokens, and fails with a
`DecodeError`. -/
abbrev Decoder (α : Type) := ReaderT (List Segment) (StateT Feed (Except DecodeError)) α

namespace Decoder

/-- Fails at a place. -/
def failAt {α : Type} (malformed : Bool) (message : String) (place : Pos) : Decoder α := do
  let path ← read
  throw { malformed := malformed, message := message, place := place, path := path }

/-- A syntax failure at a place. -/
def syntaxAt {α : Type} (code : SyntaxCode) (place : Pos) : Decoder α :=
  failAt true code.message place

/-- A data failure where reading stands. -/
def dataError {α : Type} (message : String) : Decoder α := do
  failAt false message (← get).here

/-- The next token; reading moves to its start. -/
def peek : Decoder Token := do
  let s ← get
  match s.toks with
  | [] => pure { kind := .eof, lead := ' ', start := s.here, peek := s.here, stop := s.here }
  | t :: _ =>
    set { s with here := t.start }
    pure t

/-- Consumes the next token; reading moves to its end. -/
def advance : Decoder Unit := do
  let s ← get
  match s.toks with
  | [] => pure ()
  | t :: rest => set { s with toks := rest, here := t.stop }

/-- The number of tokens left, which bounds every loop over them. -/
def remaining : Decoder Nat := do
  return (← get).toks.length

/-- Decodes with one more step on the path. -/
def within {α : Type} (seg : Segment) (d : Decoder α) : Decoder α :=
  withReader (· ++ [seg]) d

/-- The failure of a token where a value should start. -/
def noValue {α : Type} (t : Token) : Decoder α :=
  match t.kind with
  | .bad code place | .badString code place _ => syntaxAt code place
  | .huge place => syntaxAt .numberOutOfRange place
  | .eof => syntaxAt .eofWhileParsingValue t.peek
  | _ => syntaxAt .expectedSomeValue t.peek

/-- How a number is named in messages. -/
def unexpectedOf : JsonNumber → Unexpected
  | .nat n => .unsigned n
  | .negInt i => .signed i
  | .float x => .float x

/-- Rejects the next token as a value of the wrong type. A scalar is consumed and reported
after it, an array or object is reported at its bracket. -/
def wrongType {α : Type} (t : Token) (wanted : String) : Decoder α :=
  match t.kind with
  | .null => do advance; dataError (invalidTypeText .null wanted)
  | .bool b => do advance; dataError (invalidTypeText (.bool b) wanted)
  | .num n => do advance; dataError (invalidTypeText (unexpectedOf n) wanted)
  | .str s => do advance; dataError (invalidTypeText (.str s) wanted)
  | .beginArray => dataError (invalidTypeText .seq wanted)
  | .beginObject => dataError (invalidTypeText .map wanted)
  | _ => noValue t

/-- A string; `wanted` names what the string stands for. -/
def string (wanted : String) : Decoder String := do
  let t ← peek
  match t.kind with
  | .str s => do advance; pure s
  | _ => wrongType t wanted

/-- A string that stands for itself. -/
def text : Decoder String := string "a string"

/-- A whole number from `lo` to `hi`; `wanted` names the range. -/
def integer (lo hi : Int) (wanted : String) : Decoder Int := do
  let t ← peek
  match t.kind with
  | .num (.nat n) => do
    advance
    if (n : Int) ≤ hi then pure n else dataError (invalidValueText (.unsigned n) wanted)
  | .num (.negInt i) => do
    advance
    if lo ≤ i then pure i else dataError (invalidValueText (.signed i) wanted)
  | _ => wrongType t wanted

/-- A 32-bit signed whole number. -/
def int32 : Decoder Int := integer (-Int.pow 2 31) (Int.pow 2 31 - 1) "i32"

/-- A 64-bit signed whole number. -/
def int64 : Decoder Int := integer (-Int.pow 2 63) (Int.pow 2 63 - 1) "i64"

/-- A boolean. -/
def bool : Decoder Bool := do
  let t ← peek
  match t.kind with
  | .bool b => do advance; pure b
  | _ => wrongType t "a boolean"

/-- `none` for `null`, otherwise the value. -/
def nullable {α : Type} (d : Decoder α) : Decoder (Option α) := do
  let t ← peek
  match t.kind with
  | .null => do advance; pure none
  | _ => some <$> d

/-- After a value was refused inside an array or object, reading moves over the closing
bracket if it follows (and over a comma and up to the next token in an array), which is where
the refusal is then reported. -/
def settle (array : Bool) : Decoder Unit := do
  let t ← peek
  match t.kind with
  | .endArray => if array then advance else pure ()
  | .endObject => if array then pure () else advance
  | .comma =>
    if array then do
      advance
      let _ ← peek
      pure ()
    else pure ()
  | _ => pure ()

/-- A failure found by the decoder of an array or object (not inside one of its elements),
reported where `settle` leaves reading. -/
def refuse {α : Type} (array : Bool) (message : String) : Decoder α := do
  settle array
  dataError message

/-- Whether another element follows in an array; `first` is whether none has been read. The
comma before the element is consumed. -/
def nextElement (first : Bool) : Decoder Bool := do
  let t ← peek
  match t.kind with
  | .eof => syntaxAt .eofWhileParsingList t.peek
  | .endArray => pure false
  | .comma =>
    if first then pure true
    else do
      advance
      let t2 ← peek
      match t2.kind with
      | .endArray => syntaxAt .trailingComma t2.peek
      | .eof => syntaxAt .eofWhileParsingValue t2.peek
      | _ => pure true
  | _ => if first then pure true else syntaxAt .expectedListCommaOrEnd t.peek

/-- The next key of an object, `none` at its end; `first` is whether none has been read. -/
def nextKey (first : Bool) : Decoder (Option String) := do
  let t ← peek
  let key (t : Token) : Decoder (Option String) :=
    match t.kind with
    | .str s => do advance; pure (some s)
    | .endObject => syntaxAt .trailingComma t.peek
    | .eof => syntaxAt .eofWhileParsingValue t.peek
    | .badString code place _ => syntaxAt code place
    | _ => syntaxAt .keyMustBeAString t.peek
  match t.kind with
  | .eof => syntaxAt .eofWhileParsingObject t.peek
  | .endObject => pure none
  | .comma =>
    if first then key t
    else do
      advance
      key (← peek)
  | _ => if first then key t else syntaxAt .expectedObjectCommaOrEnd t.peek

/-- The colon after a key. -/
def colon : Decoder Unit := do
  let t ← peek
  match t.kind with
  | .colon => advance
  | .eof => syntaxAt .eofWhileParsingObject t.peek
  | _ => syntaxAt .expectedColon t.peek

/-- Skips values separated by commas up to the closing bracket of an array read from a value,
counting them; `fuel` bounds the count. -/
def countRest (skip : Decoder Unit) (n : Nat) : Nat → Decoder Nat
  | 0 => pure n
  | fuel + 1 => do
    let t ← peek
    match t.kind with
    | .comma => do
      advance
      skip
      countRest skip (n + 1) fuel
    | _ => pure n

/-- What may stand where reading is in a value that is skipped. -/
inductive Skipping where
  /-- A value. -/
  | value
  /-- What follows the opening bracket of an array or one of its elements. -/
  | items (first : Bool)
  /-- What follows the opening brace of an object or one of its values. -/
  | members (first : Bool)

/-- Skips tokens as `Skipping` says; `fuel` bounds the depth of the walk. -/
def skip : Nat → Skipping → Decoder Unit
  | 0, _ => pure ()
  | fuel + 1, .value => do
    let t ← peek
    match t.kind with
    | .null | .bool _ | .num _ | .str _ | .huge _ | .badString _ _ none => advance
    | .badString _ _ (some (code, place)) => syntaxAt code place
    | .beginArray => do
      advance
      skip fuel (.items true)
    | .beginObject => do
      advance
      skip fuel (.members true)
    | _ => noValue t
  | fuel + 1, .items first => do
    let t ← peek
    match t.kind with
    | .endArray => advance
    | .eof => syntaxAt .eofWhileParsingList t.peek
    | .comma =>
      if first then skip fuel .value
      else do
        advance
        skip fuel .value
        skip fuel (.items false)
    | _ =>
      if first then do
        skip fuel .value
        skip fuel (.items false)
      else syntaxAt .expectedListCommaOrEnd t.peek
  | fuel + 1, .members first => do
    let t ← peek
    let member : Decoder Unit := do
      let k ← peek
      match k.kind with
      | .str _ | .badString _ _ none => advance
      | .badString _ _ (some (code, place)) => syntaxAt code place
      | .eof => syntaxAt .eofWhileParsingObject k.peek
      | _ => syntaxAt .keyMustBeAString k.peek
      colon
      skip fuel .value
      skip fuel (.members false)
    match t.kind with
    | .endObject => advance
    | .eof => syntaxAt .eofWhileParsingObject t.peek
    | .comma =>
      if first then member
      else do
        advance
        member
    | _ => if first then member else syntaxAt .expectedObjectCommaOrEnd t.peek

/-- Skips one value. -/
def skipValue : Decoder Unit := do
  skip (2 * (← remaining) + 2) .value

/-- The closing bracket of an array whose elements were read. From text, more elements are a
syntax failure; from a value, their count is reported. -/
def closeArray (read : Nat) : Decoder Unit := do
  let t ← peek
  match t.kind with
  | .endArray => advance
  | .comma =>
    if (← get).fromText then do
      advance
      let t2 ← peek
      match t2.kind with
      | .endArray => syntaxAt .trailingComma t2.peek
      | _ => syntaxAt .trailingCharacters t2.peek
    else do
      let total ← countRest skipValue read (← remaining)
      dataError ("invalid length " ++ toString total ++ ", expected fewer elements in array")
  | .eof => syntaxAt .eofWhileParsingList t.peek
  | _ => syntaxAt .trailingCharacters t.peek

/-- The closing brace of an object whose members were read. -/
def closeObject : Decoder Unit := do
  let t ← peek
  match t.kind with
  | .endObject => advance
  | .comma => syntaxAt .trailingComma t.peek
  | .eof => syntaxAt .eofWhileParsingObject t.peek
  | _ => syntaxAt .trailingCharacters t.peek

/-- Reads the elements of an array from element `i` on; `fuel` bounds their number. -/
def elements {α : Type} (d : Decoder α) (i : Nat) (first : Bool) : Nat → Decoder (List α)
  | 0 => pure []
  | fuel + 1 => do
    if ← nextElement first then
      let x ← within (.index i) d
      let rest ← elements d (i + 1) false fuel
      pure (x :: rest)
    else pure []

/-- An array of values. -/
def list {α : Type} (d : Decoder α) : Decoder (List α) := do
  let t ← peek
  match t.kind with
  | .beginArray => do
    advance
    let items ← elements d 0 true (← remaining)
    closeArray items.length
    pure items
  | _ => wrongType t "a sequence"

end Decoder

/-- How one field of a record is read into the record being built. -/
structure Field (σ : Type) where
  name : String
  /-- Whether the field may be missing from an object (it is optional or has a default). -/
  missingOk : Bool
  /-- Whether the field may be left off the end of an array (it has a declared default). -/
  droppable : Bool
  read : σ → Decoder σ

namespace Field

/-- A field that must be given. -/
def required {σ : Type} (name : String) (read : σ → Decoder σ) : Field σ :=
  ⟨name, false, false, read⟩

/-- An optional field without a declared default: it may be missing from an object but not
from an array. -/
def optional {σ : Type} (name : String) (read : σ → Decoder σ) : Field σ :=
  ⟨name, true, false, read⟩

/-- A field with a declared default: it may be missing anywhere. -/
def withDefault {σ : Type} (name : String) (read : σ → Decoder σ) : Field σ :=
  ⟨name, true, true, read⟩

end Field

namespace Decoder

/-- Reads the members of an object into a record; `seen` holds the fields read so far and
`fuel` bounds the number of members. At the end, the first field in declaration order that is
neither read nor optional is missing. -/
def members {σ : Type} (fields : List (Field σ)) (acc : σ) (seen : List String) (first : Bool) :
    Nat → Decoder σ
  | 0 => pure acc
  | fuel + 1 => do
    match ← nextKey first with
    | none =>
      match fields.find? (fun f => !f.missingOk && !seen.contains f.name) with
      | some f => refuse false ("missing field `" ++ f.name ++ "`")
      | none => pure acc
    | some key =>
      match fields.find? (fun f => f.name == key) with
      | some f =>
        if seen.contains key then refuse false ("duplicate field `" ++ key ++ "`")
        else do
          let acc ← within (.field key) (do colon; f.read acc)
          members fields acc (key :: seen) false fuel
      | none => do
        within (.field key) (do colon; skipValue)
        members fields acc seen false fuel

/-- Reads the elements of an array into a record, one field each in declaration order, from
field `i` on, `n` elements having been read. A field with a declared default may be left off
the end; any other missing field is too few elements, reported with its position. Returns the
record and the number of elements read. -/
def positional {σ : Type} (wanted : String) (total : Nat) :
    List (Field σ) → σ → Nat → Nat → Decoder (σ × Nat)
  | [], acc, _, n => pure (acc, n)
  | f :: rest, acc, i, n => do
    if ← nextElement (n == 0) then
      let acc ← within (.index i) (f.read acc)
      positional wanted total rest acc (i + 1) (n + 1)
    else if f.droppable then positional wanted total rest acc (i + 1) n
    else
      refuse true ("invalid length " ++ toString i ++ ", expected " ++ wanted ++ " with " ++
        toString total ++ " elements")

/-- A record named `name` with the given fields, read from an object or from an array, starting
from `init`. -/
def record {σ : Type} (name : String) (fields : List (Field σ)) (init : σ) : Decoder σ := do
  let t ← peek
  let wanted := "struct " ++ name
  match t.kind with
  | .beginObject => do
    advance
    let r ← members fields init [] true (← remaining)
    closeObject
    pure r
  | .beginArray => do
    advance
    let (r, n) ← positional wanted fields.length fields init 0 0
    closeArray n
    pure r
  | _ => wrongType t wanted

/-- Runs a decoder on the tokens of a text. Text after the value is not looked at. -/
def runText {α : Type} (d : Decoder α) (text : String) : Except DecodeError α :=
  (d.run [] |>.run { toks := tokens text, here := ⟨1, 0⟩, fromText := true }).map Prod.fst

end Decoder

end Invoicing
