import Invoicing.Calendar.Instant

/-!
# Lenient reading of stored dates and instants

Records that carry dates and instants accept them in a lenient layout, and a text that does not
fit is refused with one of six faults, named in the order they are found:
* a date: year, `-`, month, `-`, day, with blanks allowed before every number, around the
  hyphens and at the end;
* an instant: such a date, `T`, `t` or a space, then hour, `:`, minute, `:`, second (one or two
  digits each, blanks allowed before them and around the colons), an optional fraction, blanks,
  and an offset: `Z`, `z`, `UTC` in any case, or a sign, two hour digits, optional colons or
  blanks, and two minute digits. Only blanks may follow.

A year without sign has one to four digits; with a sign, any number. Months, days, hours,
minutes and seconds (up to the leap second 60) out of their ranges are out of range, as are a
day that does not exist and an offset of 24 hours or more; an instant whose UTC date falls
outside the supported years is impossible.
-/

namespace Invoicing

/-- Why a date or instant could not be read. -/
inductive ReadFault where
  | outOfRange
  | impossible
  | notEnough
  | invalid
  | tooShort
  | tooLong
  deriving DecidableEq, Repr

/-- The text of a fault. -/
def ReadFault.message : ReadFault → String
  | .outOfRange => "input is out of range"
  | .impossible => "no possible date and time matching input"
  | .notEnough => "input is not enough for unique date and time"
  | .invalid => "input contains invalid characters"
  | .tooShort => "premature end of input"
  | .tooLong => "trailing input"

namespace Lenient

/-- Reads at least `min` and at most `max` ASCII digits. -/
def number (cs : List Char) (min max : Nat) : Except ReadFault (Nat × List Char) :=
  if cs.length < min then .error .tooShort
  else
    let digits := (cs.takeWhile Char.isDigit).take max
    if digits.length < min then .error .invalid
    else .ok (digits.foldl (fun acc c => acc * 10 + (c.toNat - 48)) 0, cs.drop digits.length)

/-- Reads a year after blanks: a sign and any digits, or one to four digits. -/
def year (cs : List Char) : Except ReadFault (Int × List Char) :=
  match dropBlanks cs with
  | '-' :: rest => (number rest 1 rest.length).map fun (n, r) => (-(n : Int), r)
  | '+' :: rest => (number rest 1 rest.length).map fun (n, r) => ((n : Int), r)
  | rest => (number rest 1 4).map fun (n, r) => ((n : Int), r)

/-- Reads a number of one or two digits after blanks, which must lie in `[lo, hi]`. -/
def field (cs : List Char) (lo hi : Nat) : Except ReadFault (Nat × List Char) := do
  let (n, r) ← number (dropBlanks cs) 1 2
  if lo ≤ n && n ≤ hi then pure (n, r) else throw .outOfRange

/-- Expects a character. -/
def literal (c : Char) : List Char → Except ReadFault (List Char)
  | [] => .error .tooShort
  | x :: rest => if x = c then .ok rest else .error .invalid

/-- Reads year, month and day with blanks around the hyphens. -/
def dateParts (cs : List Char) : Except ReadFault ((Int × Nat × Nat) × List Char) := do
  let (y, r) ← year cs
  if y < -Int.pow 2 31 || Int.pow 2 31 ≤ y then throw .outOfRange
  let r ← literal '-' (dropBlanks r)
  let (m, r) ← field r 1 12
  let r ← literal '-' (dropBlanks r)
  let (d, r) ← field r 1 31
  pure ((y, m, d), r)

/-- The date of the parts, if it exists. -/
def toDate (y : Int) (m d : Nat) : Except ReadFault Date :=
  match Date.make? y m d with
  | some date => .ok date
  | none => .error .outOfRange

/-- Reads a fraction of a second after the point: one to nine digits kept, more skipped. -/
def fraction (cs : List Char) : Except ReadFault (Nat × List Char) := do
  let (n, r) ← number cs 1 9
  let used := cs.length - r.length
  pure (n * Nat.pow 10 (9 - used), r.dropWhile Char.isDigit)

/-- The length of a text in UTF-8 bytes. -/
def byteCount (cs : List Char) : Nat := cs.foldl (fun n c => n + c.utf8Size) 0

/-- Reads an offset from UTC in seconds (see the module comment). Hours and minutes are read as
two bytes each: fewer than two bytes left is a premature end, two that are not digits are
invalid characters, and minutes from 60 on are out of range. -/
def offset (cs : List Char) : Except ReadFault (Int × List Char) :=
  match cs with
  | 'Z' :: rest | 'z' :: rest => .ok (0, rest)
  | [] => .error .tooShort
  | c :: rest =>
    if !(c = '+' || c = '-' || c.toNat = 8722) then .error .invalid
    else if byteCount rest < 2 then .error .tooShort
    else
      match rest with
      | h1 :: h2 :: afterHours =>
        if h1.isDigit && h2.isDigit then
          let hours := (h1.toNat - 48) * 10 + (h2.toNat - 48)
          let r := afterHours.dropWhile (fun x => x = ':' || isBlank x)
          if byteCount r < 2 then .error .tooShort
          else
            match r with
            | m1 :: m2 :: afterMinutes =>
              if '0' ≤ m1 && m1 ≤ '5' && m2.isDigit then
                let minutes := (m1.toNat - 48) * 10 + (m2.toNat - 48)
                let secs : Int := (hours * 3600 + minutes * 60 : Nat)
                .ok (if c = '+' then secs else -secs, afterMinutes)
              else if '6' ≤ m1 && m1 ≤ '9' && m2.isDigit then .error .outOfRange
              else .error .invalid
            | _ => .error .invalid
        else .error .invalid
      | _ => .error .invalid

end Lenient

namespace Date

/-- Reads a date leniently (see the module comment). -/
def readLenient (s : String) : Except ReadFault Date := do
  let ((y, m, d), r) ← Lenient.dateParts s.toList
  if !(dropBlanks r).isEmpty then throw .tooLong
  Lenient.toDate y m d

end Date

namespace Instant

/-- Reads an instant leniently (see the module comment). -/
def readLenient (s : String) : Except ReadFault Instant := do
  let ((y, mo, d), r) ← Lenient.dateParts s.toList
  let r ← match r with
    | c :: rest => if c = 'T' || c = 't' || c = ' ' then pure rest else throw .invalid
    | [] => throw .tooShort
  let (h, r) ← Lenient.field r 0 23
  let r ← Lenient.literal ':' (dropBlanks r)
  let (mi, r) ← Lenient.field r 0 59
  let r ← Lenient.literal ':' (dropBlanks r)
  let (se, r) ← Lenient.field r 0 60
  let (nanos, r) ← match r with
    | '.' :: rest => Lenient.fraction rest
    | _ => pure (0, r)
  let r := dropBlanks r
  let (off, r) ← match r with
    | u :: t :: c :: rest =>
      if u.toLower = 'u' && t.toLower = 't' && c.toLower = 'c' then pure (0, rest)
      else Lenient.offset r
    | _ => Lenient.offset r
  if !(dropBlanks r).isEmpty then throw .tooLong
  let date ← Lenient.toDate y mo d
  if 86400 ≤ off.natAbs then throw .outOfRange
  let t := ofLocal date h mi se nanos off
  if !t.inRange then throw .impossible
  pure t

end Instant

end Invoicing
