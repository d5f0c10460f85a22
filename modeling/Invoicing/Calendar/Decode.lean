import Invoicing.Calendar.Lenient
import Invoicing.Decode.Basic

/-!
# Dates and instants in JSON

A date is written as its `YYYY-MM-DD` text and an instant as its RFC 3339 text in UTC. Both are
read from strings by the lenient readers; a string that does not read is refused with the
reader's fault.
-/

namespace Invoicing

namespace Date

/-- Reads a date given as a JSON string. -/
def decoder : Decoder Date := do
  let s ← Decoder.string "a formatted date string"
  match readLenient s with
  | .ok d => pure d
  | .error e => Decoder.dataError e.message

/-- A date as JSON. -/
def toJson (d : Date) : Json := .str d.text

end Date

namespace Instant

/-- Reads an instant given as a JSON string. -/
def decoder : Decoder Instant := do
  let s ← Decoder.string "an RFC 3339 formatted date and time string"
  match readLenient s with
  | .ok t => pure t
  | .error e => Decoder.dataError e.message

/-- An instant as JSON. -/
def toJson (t : Instant) : Json := .str t.text

end Instant

end Invoicing
