import Invoicing.Text.Utf8
import Invoicing.Request.Invoice

/-!
# Query strings

A query string is a list of `name=value` pairs separated by `&`; empty pieces are skipped, and
a piece without `=` has an empty value. In names and values `+` stands for a space and `%`
with two hexadecimal digits for a byte; the bytes are read as UTF-8, lossily.

A listing query takes `page` and `page_size` as 64-bit integers and, for invoices, `status` as
text; other names are ignored. The pairs are read in order, and the first fault ends the
reading: a name given twice, or a number that does not read. A number has an optional sign and
at least one decimal digit, and must fit in 64 bits.
-/

namespace Invoicing

namespace Query

/-- The value of a hexadecimal digit. -/
def hexValue? (c : Char) : Option Nat :=
  if '0' ≤ c ∧ c ≤ '9' then some (c.toNat - 48)
  else if 'a' ≤ c ∧ c ≤ 'f' then some (c.toNat - 87)
  else if 'A' ≤ c ∧ c ≤ 'F' then some (c.toNat - 55)
  else none

/-- The bytes of an encoded component: `%` and two hexadecimal digits is a byte, any other
character its own bytes. -/
def bytes : List Char → List Nat
  | '%' :: h :: l :: rest =>
    match hexValue? h, hexValue? l with
    | some a, some b => (a * 16 + b) :: bytes rest
    | _, _ => 0x25 :: bytes (h :: l :: rest)
  | c :: rest => Utf8.encodeChar c ++ bytes rest
  | [] => []

/-- The text of an encoded component. -/
def decode (s : String) : String :=
  Utf8.decodeLossy (bytes (s.toList.map fun c => if c = '+' then ' ' else c))

/-- The decoded pairs of a query string. -/
def pairs (query : String) : List (String × String) :=
  (query.splitOn "&").filterMap fun piece =>
    if piece.isEmpty then none
    else
      match piece.splitOn "=" with
      | name :: rest => some (decode name, decode ("=".intercalate rest))
      | [] => none

/-- Why a number of a query did not read. -/
inductive NumberFault where
  | empty
  | invalidDigit
  | tooLarge
  | tooSmall
  deriving DecidableEq, Repr

/-- The text of a number fault. -/
def NumberFault.message : NumberFault → String
  | .empty => "cannot parse integer from empty string"
  | .invalidDigit => "invalid digit found in string"
  | .tooLarge => "number too large to fit in target type"
  | .tooSmall => "number too small to fit in target type"

/-- Accumulates decimal digits into a magnitude that may not pass `limit`; the first fault wins,
a digit being checked before the bound. -/
def digits (limit : Nat) (overflow : NumberFault) : List Char → Nat → Except NumberFault Nat
  | [], acc => .ok acc
  | c :: rest, acc =>
    if c.isDigit then
      let next := acc * 10 + (c.toNat - 48)
      if limit < next then .error overflow else digits limit overflow rest next
    else .error .invalidDigit

/-- Reads a 64-bit integer. -/
def int64 (s : String) : Except NumberFault Int :=
  match s.toList with
  | [] => .error .empty
  | '-' :: rest =>
    if rest.isEmpty then .error .invalidDigit
    else (digits (Nat.pow 2 63) .tooSmall rest 0).map fun n => -(n : Int)
  | '+' :: rest =>
    if rest.isEmpty then .error .invalidDigit
    else (digits (Nat.pow 2 63 - 1) .tooLarge rest 0).map fun n => (n : Int)
  | cs => (digits (Nat.pow 2 63 - 1) .tooLarge cs 0).map fun n => (n : Int)

/-- Reads the pairs of a listing query into `q`; `withStatus` admits the status filter. -/
def listing (withStatus : Bool) : List (String × String) → ListQuery → Except String ListQuery
  | [], q => .ok q
  | (name, value) :: rest, q =>
    if name = "page" then
      if q.page.isSome then .error "duplicate field `page`"
      else
        match int64 value with
        | .ok n => listing withStatus rest { q with page := some n }
        | .error e => .error e.message
    else if name = "page_size" then
      if q.pageSize.isSome then .error "duplicate field `page_size`"
      else
        match int64 value with
        | .ok n => listing withStatus rest { q with pageSize := some n }
        | .error e => .error e.message
    else if withStatus && name = "status" then
      if q.status.isSome then .error "duplicate field `status`"
      else listing withStatus rest { q with status := some value }
    else listing withStatus rest q

end Query

end Invoicing
