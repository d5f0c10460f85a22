import Invoicing.Text.Blank

/-!
# Calendar dates

A `Date` is a day of the proleptic Gregorian calendar with a year from -262143 to 262142.
Dates are numbered by `toDays`, the days since 1970-01-01, and `ofDays` turns a number back into
a date, so adding days is adding numbers.

Dates are written `YYYY-MM-DD`; a year outside 0 to 9999 carries its sign and at least four
digits (`-0001-01-01`, `+12345-01-01`).

`Date.parse?` reads the same layout leniently: each number may be preceded by blanks, a year
has one to four digits or a sign and any number of digits, a month and a day one or two digits.
Nothing may follow the day, and the date must exist.

What is proved here:
* `isLeapYear_iff`: the leap-year rule.
-/

namespace Invoicing

/-- A day of the proleptic Gregorian calendar. -/
structure Date where
  year : Int
  month : Nat
  day : Nat
  deriving DecidableEq, Repr, Inhabited

namespace Date

/-- The earliest year. -/
def minYear : Int := -262143

/-- The latest year. -/
def maxYear : Int := 262142

/-- Whether a year has a 29th of February. -/
def isLeapYear (y : Int) : Bool := (y % 4 == 0 && y % 100 != 0) || y % 400 == 0

theorem isLeapYear_iff (y : Int) :
    isLeapYear y = true ↔ (4 ∣ y ∧ ¬ 100 ∣ y) ∨ 400 ∣ y := by
  rw [Int.dvd_iff_emod_eq_zero, Int.dvd_iff_emod_eq_zero, Int.dvd_iff_emod_eq_zero]
  simp only [isLeapYear, Bool.or_eq_true, Bool.and_eq_true, beq_iff_eq, bne_iff_ne, ne_eq]

/-- The number of days of a month. -/
def daysInMonth (y : Int) (m : Nat) : Nat :=
  if m = 2 then (if isLeapYear y then 29 else 28)
  else if m = 4 ∨ m = 6 ∨ m = 9 ∨ m = 11 then 30
  else 31

/-- Whether the numbers name an existing day in the supported years. -/
def isValid (d : Date) : Bool :=
  minYear ≤ d.year && d.year ≤ maxYear && 1 ≤ d.month && d.month ≤ 12 && 1 ≤ d.day &&
    d.day ≤ daysInMonth d.year d.month

/-- The date with these numbers, if it exists. -/
def make? (y : Int) (m d : Nat) : Option Date :=
  let date : Date := ⟨y, m, d⟩
  if date.isValid then some date else none

/-- The number of days since 1970-01-01 (negative before it). -/
def toDays (d : Date) : Int :=
  let y : Int := if d.month ≤ 2 then d.year - 1 else d.year
  let era := y / 400
  let yoe := y - era * 400
  let mp : Int := ((d.month + 9) % 12 : Nat)
  let doy := (153 * mp + 2) / 5 + (d.day : Int) - 1
  let doe := yoe * 365 + yoe / 4 - yoe / 100 + doy
  era * 146097 + doe - 719468

/-- The date `z` days after 1970-01-01. -/
def ofDays (z : Int) : Date :=
  let z := z + 719468
  let era := z / 146097
  let doe := z - era * 146097
  let yoe := (doe - doe / 1460 + doe / 36524 - doe / 146096) / 365
  let y := yoe + era * 400
  let doy := doe - (365 * yoe + yoe / 4 - yoe / 100)
  let mp := (5 * doy + 2) / 153
  let day := doy - (153 * mp + 2) / 5 + 1
  let month := if mp < 10 then mp + 3 else mp - 9
  ⟨if month ≤ 2 then y + 1 else y, month.toNat, day.toNat⟩

/-- The date `n` days later. -/
def addDays (d : Date) (n : Int) : Date := ofDays (d.toDays + n)

/-- `n` with at least `width` digits. -/
def padded (width : Nat) (n : Nat) : String :=
  let digits := Nat.toDigits 10 n
  String.ofList (List.replicate (width - digits.length) '0' ++ digits)

/-- A year: four digits from 0 to 9999, otherwise a sign and at least four digits. -/
def yearText (y : Int) : String :=
  if 0 ≤ y ∧ y ≤ 9999 then padded 4 y.toNat
  else (if y < 0 then "-" else "+") ++ padded 4 y.natAbs

/-- The date as `YYYY-MM-DD`. -/
def text (d : Date) : String :=
  yearText d.year ++ "-" ++ padded 2 d.month ++ "-" ++ padded 2 d.day

/-- Reads at least `min` and at most `max` ASCII digits; more digits are left unread. -/
def scanDigits (min max : Nat) (cs : List Char) : Option (Nat × List Char) :=
  let digits := (cs.takeWhile Char.isDigit).take max
  if digits.length < min then none
  else some (digits.foldl (fun acc c => acc * 10 + (c.toNat - 48)) 0, cs.drop digits.length)

/-- Reads a year after blanks: a sign and any digits, or one to four digits. -/
def scanYear (cs : List Char) : Option (Int × List Char) :=
  match dropBlanks cs with
  | '-' :: rest => (scanDigits 1 rest.length rest).map fun (n, r) => (-(n : Int), r)
  | '+' :: rest => (scanDigits 1 rest.length rest).map fun (n, r) => ((n : Int), r)
  | rest => (scanDigits 1 4 rest).map fun (n, r) => ((n : Int), r)

/-- Reads a number of one or two digits after blanks. -/
def scanTwo (cs : List Char) : Option (Nat × List Char) := scanDigits 1 2 (dropBlanks cs)

/-- Reads `YYYY-MM-DD` leniently (see the module comment). -/
def parse? (s : String) : Option Date := do
  let (y, r) ← scanYear s.toList
  let r ← match r with
    | '-' :: r => some r
    | _ => none
  let (m, r) ← scanTwo r
  let r ← match r with
    | '-' :: r => some r
    | _ => none
  let (d, r) ← scanTwo r
  if r.isEmpty then make? y m d else none

end Date

end Invoicing
