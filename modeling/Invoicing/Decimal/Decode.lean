import Invoicing.Decimal.Text
import Invoicing.Decode.Basic

/-!
# Decimals in JSON

A decimal is written in JSON as a string in `Decimal.toText` form, and read from a string or a
number:
* a string by `Decimal.read?` (plain notation, else scientific notation);
* a whole number exactly;
* any other number from the shortest positional text of its binary64 value, by
  `Decimal.ofText?` (so `0.1` is `0.1` and `1e21` is `1000000000000000000000`).

A string or number that cannot be read is an invalid value, a number named by its JSON text;
anything else is an invalid type.
An array or object is entered before it is refused, so the refusal is reported after it.
-/

namespace Invoicing

namespace Decimal

/-- What a decimal is called in messages. -/
def expected : String := "a Decimal type representing a fixed-point number"

/-- Reads a decimal (see the module comment). -/
def decoder : Decoder Decimal := do
  let t ← Decoder.peek
  match t.kind with
  | .num (.nat n) => do
    Decoder.advance
    pure (ofNat n)
  | .num (.negInt i) => do
    Decoder.advance
    pure (ofInt i)
  | .num (.float x) => do
    Decoder.advance
    match ofText? x.toPlainText with
    | some d => pure d
    | none =>
      Decoder.dataError ("invalid value: floating point `" ++ x.toJsonText ++ "`, expected " ++
        expected)
  | .str s => do
    Decoder.advance
    match read? s with
    | some d => pure d
    | none => Decoder.dataError (invalidValueText (.str s) expected)
  | .beginArray => do
    Decoder.advance
    Decoder.refuse true (invalidTypeText .seq expected)
  | .beginObject => do
    Decoder.advance
    Decoder.refuse false (invalidTypeText .map expected)
  | _ => Decoder.wrongType t expected

/-- A decimal as JSON: its text as a string. -/
def toJson (d : Decimal) : Json := .str d.toText

end Decimal

end Invoicing
