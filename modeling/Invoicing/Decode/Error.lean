import Invoicing.Json.Token
import Invoicing.Text.Escaped

/-!
# Decoding failures

A payload that cannot become a request or a record fails with a `DecodeError`: the message, the
place in the text where reading stood (when the payload was text), the path of fields and
positions leading to the failing value, and whether the text is malformed (no JSON) or the data
is of the wrong shape.

`DecodeError.message` is the text without place or path, as reported for payloads that arrive
as JSON values; `DecodeError.textMessage` adds the path in front (`items[0].quantity: …`) and
the place behind (`… at line 1 column 25`), as reported for request bodies.

The wording of the data failures: `invalid type: <found>, expected <wanted>`,
`invalid value: <found>, expected <wanted>`, `missing field` and `duplicate field` with the
field name in backquotes, and `invalid length <n>, expected <wanted>`.
-/

namespace Invoicing

/-- Lowercase hexadecimal digits of a number, without leading zeros. -/
def hexText (n : Nat) : String := String.ofList (Nat.toDigits 16 n)

/-- A string shown in a message: in double quotes, with quote, backslash, tab, line feed,
carriage return and NUL escaped by a backslash and the other characters that `Escaped.isEscaped`
names as `\u{…}`. -/
def showString (s : String) : String :=
  let esc (c : Char) : String :=
    if c = '"' then "\\\"" else if c = '\\' then "\\\\"
    else if c = '\n' then "\\n" else if c = '\r' then "\\r" else if c = '\t' then "\\t"
    else if c.toNat = 0 then "\\0"
    else if Escaped.isEscaped c then "\\u\x7b" ++ hexText c.toNat ++ "\x7d"
    else String.singleton c
  "\"" ++ String.join (s.toList.map esc) ++ "\""

/-- What a decoder met instead of what it wanted. -/
inductive Unexpected where
  | null
  | bool (b : Bool)
  | unsigned (n : Nat)
  | signed (i : Int)
  | float (x : Binary64)
  | str (s : String)
  | seq
  | map
  deriving Repr

/-- How a met value is named in messages. -/
def Unexpected.text : Unexpected → String
  | .null => "null"
  | .bool b => "boolean `" ++ (if b then "true" else "false") ++ "`"
  | .unsigned n => "integer `" ++ toString n ++ "`"
  | .signed i => "integer `" ++ toString i ++ "`"
  | .float x => "floating point `" ++ x.toShortText ++ "`"
  | .str s => "string " ++ showString s
  | .seq => "sequence"
  | .map => "map"

/-- A step on the way to a value: an object field or an array position. -/
inductive Segment where
  | field (name : String)
  | index (i : Nat)
  deriving DecidableEq, Repr

/-- A path written as `a.b[2].c`. -/
def pathText : List Segment → String
  | [] => "."
  | segs =>
    let rec go : Bool → List Segment → String
      | _, [] => ""
      | first, .field n :: rest => (if first then "" else ".") ++ n ++ go false rest
      | _, .index i :: rest => "[" ++ toString i ++ "]" ++ go false rest
    go true segs

/-- A decoding failure (see the module comment). -/
structure DecodeError where
  /-- Whether the text is no JSON at all, rather than JSON of the wrong shape. -/
  malformed : Bool
  message : String
  place : Pos
  path : List Segment
  deriving Repr

namespace DecodeError

/-- The failure with its place, without the path. -/
def placedMessage (e : DecodeError) : String :=
  e.message ++ " at line " ++ toString e.place.line ++ " column " ++ toString e.place.col

/-- The failure as reported for a request body: path, message and place. -/
def textMessage (e : DecodeError) : String :=
  let prefixText := if e.path.isEmpty then "" else pathText e.path ++ ": "
  prefixText ++ e.placedMessage

end DecodeError

/-- `invalid type: <found>, expected <wanted>`. -/
def invalidTypeText (found : Unexpected) (wanted : String) : String :=
  "invalid type: " ++ found.text ++ ", expected " ++ wanted

/-- `invalid value: <found>, expected <wanted>`. -/
def invalidValueText (found : Unexpected) (wanted : String) : String :=
  "invalid value: " ++ found.text ++ ", expected " ++ wanted

end Invoicing
