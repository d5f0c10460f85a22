import Invoicing.Json.Binary64

/-!
# JSON values

A `Json` value is what a JSON text denotes. Numbers keep the class the text gives them: a
whole number without fraction or exponent is an unsigned or a negative integer when it fits in
64 bits, and anything else is a binary64 value. Objects are lists of fields; a value read from
text has its keys sorted and each key once, the last occurrence winning.

`Json.compact` writes a value with no spaces, strings escaped minimally (quote, backslash and
control characters) and numbers as `Binary64.toJsonText` writes them. `Json.render` writes the
same text with every character from U+007F up escaped as `\uXXXX`, so the result is ASCII.
-/

namespace Invoicing

/-- A JSON number, classified as a reader classifies its text. -/
inductive JsonNumber where
  /-- A whole number from 0 to `2 ^ 64 - 1`. -/
  | nat (n : Nat)
  /-- A negative whole number not below `-2 ^ 63`. -/
  | negInt (i : Int)
  /-- Any other number. -/
  | float (x : Binary64)
  deriving DecidableEq, Repr, Inhabited

/-- The text of a number. -/
def JsonNumber.text : JsonNumber → String
  | .nat n => toString n
  | .negInt i => toString i
  | .float x => x.toJsonText

/-- A JSON value. -/
inductive Json where
  | null
  | bool (b : Bool)
  | num (n : JsonNumber)
  | str (s : String)
  | arr (items : List Json)
  | obj (fields : List (String × Json))
  deriving Repr, Inhabited

namespace Json

/-- A whole number as a JSON integer. -/
def ofInt (i : Int) : Json :=
  if i < 0 then .num (.negInt i) else .num (.nat i.toNat)

/-- A whole number as a JSON integer. -/
def ofNat (n : Nat) : Json := .num (.nat n)

/-- An optional string, `null` when absent. -/
def ofOption {α : Type} (f : α → Json) : Option α → Json
  | some a => f a
  | none => .null

/-- The value of a field of an object, `none` for a missing field or a non-object. -/
def field? (j : Json) (key : String) : Option Json :=
  match j with
  | .obj fields => (fields.find? (fun p => p.1 == key)).map Prod.snd
  | _ => none

/-- The field's value, treating a missing field like `null`. -/
def fieldOrNull (j : Json) (key : String) : Json := (j.field? key).getD .null

/-- Inserts a field into a key-sorted field list, replacing an earlier value of the key. -/
def insertSorted (key : String) (v : Json) : List (String × Json) → List (String × Json)
  | [] => [(key, v)]
  | (k, w) :: rest =>
    if key == k then (key, v) :: rest
    else if key < k then (key, v) :: (k, w) :: rest
    else (k, w) :: insertSorted key v rest

/-- An object whose fields are those of `top` put over those of `base`, keys sorted; a `top`
that is not an object stands for itself. -/
def overlay (base top : Json) : Json :=
  match base, top with
  | .obj bs, .obj ts =>
    .obj (ts.foldl (fun acc p => insertSorted p.1 p.2 acc) (bs.mergeSort fun a b => decide (a.1 ≤ b.1)))
  | _, _ => top

/-- The hexadecimal digit of a number below 16. -/
def hexDigit (n : Nat) : Char :=
  if n < 10 then Char.ofNat (48 + n) else Char.ofNat (87 + n)

/-- `\u` and four hexadecimal digits of a code unit. -/
def unitEscape (u : Nat) : String :=
  "\\u" ++ String.ofList [hexDigit (u / 4096 % 16), hexDigit (u / 256 % 16),
    hexDigit (u / 16 % 16), hexDigit (u % 16)]

/-- The escape of one character inside a string: quote, backslash and control characters
always, and characters from U+007F up when `ascii` is set (as UTF-16 units). -/
def escapeChar (ascii : Bool) (c : Char) : String :=
  if c = '"' then "\\\""
  else if c = '\\' then "\\\\"
  else if c = '\n' then "\\n"
  else if c = '\r' then "\\r"
  else if c = '\t' then "\\t"
  else if c.toNat = 8 then "\\b"
  else if c.toNat = 12 then "\\f"
  else if c.toNat < 32 then unitEscape c.toNat
  else if ascii && 127 ≤ c.toNat then
    if c.toNat < 65536 then unitEscape c.toNat
    else
      let v := c.toNat - 65536
      unitEscape (55296 + v / 1024) ++ unitEscape (56320 + v % 1024)
  else String.singleton c

/-- A string in quotes, escaped. -/
def quote (ascii : Bool) (s : String) : String :=
  "\"" ++ String.join (s.toList.map (escapeChar ascii)) ++ "\""

mutual
/-- Writes a value with no spaces; `ascii` escapes every character from U+007F up. -/
def write (ascii : Bool) : Json → String
  | .null => "null"
  | .bool true => "true"
  | .bool false => "false"
  | .num n => n.text
  | .str s => quote ascii s
  | .arr items => "[" ++ writeItems ascii items ++ "]"
  | .obj fields => "\x7b" ++ writeFields ascii fields ++ "\x7d"

/-- Array elements separated by commas. -/
def writeItems (ascii : Bool) : List Json → String
  | [] => ""
  | [j] => write ascii j
  | j :: rest => write ascii j ++ "," ++ writeItems ascii rest

/-- Object fields separated by commas. -/
def writeFields (ascii : Bool) : List (String × Json) → String
  | [] => ""
  | [(k, j)] => quote ascii k ++ ":" ++ write ascii j
  | (k, j) :: rest => quote ascii k ++ ":" ++ write ascii j ++ "," ++ writeFields ascii rest
end

/-- Compact JSON text. -/
def compact (j : Json) : String := write false j

/-- Compact, pure ASCII JSON text. -/
def render (j : Json) : String := write true j

end Json

end Invoicing
