import Invoicing.Decimal.Basic

/-!
# What a column accepts

The store keeps text, bounded text and fixed-point numbers, and refuses a value a column cannot
hold with a database error:
* no text may hold the character U+0000;
* bounded text of `n` characters refuses a longer value, unless everything past the `n`-th
  character is spaces, which are cut off;
* a fixed-point column of precision `p` and scale `s` rounds a value to `s` places, a half going
  away from zero, and refuses one whose magnitude reaches `10 ^ (p - s)`.

A stored number reads back with exactly the column's places, except zero, which reads back as
plain `0`; `Column.numeric` gives the value in that read-back form.

What is proved here:
* `numeric_scale`: a number that is not zero reads back with the column's places.
-/

namespace Invoicing

/-- Why the store refused a statement. -/
inductive DbError where
  /-- The statement ran past its time limit. -/
  | timeout
  /-- A text longer than its column's bound. -/
  | tooLong (limit : Nat)
  /-- A text holding U+0000. -/
  | nulByte
  /-- A number too large for its column. -/
  | numericOverflow
  /-- A second row with the same value of a unique key. -/
  | unique (constraint : String)
  /-- A reference to a row that does not exist. -/
  | foreignKey (table constraint : String)
  /-- A row that breaks a check on its values. -/
  | check (table constraint : String)
  /-- A statement meant to give a row gave none. -/
  | noRows
  /-- No connection could be made. -/
  | unavailable
  deriving DecidableEq, Repr

namespace DbError

/-- The database's own text of the error. -/
def text : DbError → String
  | .timeout => "canceling statement due to statement timeout"
  | .tooLong n => "value too long for type character varying(" ++ toString n ++ ")"
  | .nulByte => "invalid byte sequence for encoding \"UTF8\": 0x00"
  | .numericOverflow => "numeric field overflow"
  | .unique c => "duplicate key value violates unique constraint \"" ++ c ++ "\""
  | .foreignKey t c =>
    "insert or update on table \"" ++ t ++ "\" violates foreign key constraint \"" ++ c ++ "\""
  | .check t c => "new row for relation \"" ++ t ++ "\" violates check constraint \"" ++ c ++ "\""
  | .noRows => "no rows returned by a query that expected to return at least one row"
  | .unavailable => "pool timed out while waiting for an open connection"

/-- The error as a client of the database reports it: errors the database returned say so. -/
def message (e : DbError) : String :=
  match e with
  | .noRows | .unavailable => e.text
  | _ => "error returned from database: " ++ e.text

end DbError

namespace Column

/-- A text without U+0000. -/
def text (s : String) : Except DbError String :=
  if s.toList.contains (Char.ofNat 0) then .error .nulByte else .ok s

/-- An optional text without U+0000. -/
def optionalText (s : Option String) : Except DbError (Option String) :=
  match s with
  | some v => (text v).map some
  | none => .ok none

/-- A text of at most `n` characters; spaces past the bound are cut off. -/
def varchar (n : Nat) (s : String) : Except DbError String :=
  if s.length ≤ n then .ok s
  else if (s.toList.drop n).all (· = ' ') then .ok (String.ofList (s.toList.take n))
  else .error (.tooLong n)

/-- An optional text of at most `n` characters. -/
def optionalVarchar (n : Nat) (s : Option String) : Except DbError (Option String) :=
  match s with
  | some v => (varchar n v).map some
  | none => .ok none

/-- A number kept to `scale` places within `precision` digits, in its read-back form. -/
def numeric (precision scale : Nat) (d : Decimal) : Except DbError Decimal :=
  let r := d.roundDp scale .awayFromZero
  let m := r.mant * Nat.pow 10 (scale - r.scale)
  if Nat.pow 10 precision ≤ m then .error .numericOverflow
  else if m = 0 then .ok Decimal.zero
  else .ok (Decimal.make r.neg m scale)

/-- A computed number in its read-back form: zero is plain `0`. -/
def readBack (d : Decimal) : Decimal := if d.isZero then Decimal.zero else d

theorem numeric_scale (precision scale : Nat) (d e : Decimal)
    (h : numeric precision scale d = .ok e) (hz : e.isZero = false) : e.scale = scale := by
  simp only [numeric] at h
  split at h
  · cases h
  · split at h
    · cases h
      simp [Decimal.zero, Decimal.isZero] at hz
    · cases h
      rfl

end Column

end Invoicing
