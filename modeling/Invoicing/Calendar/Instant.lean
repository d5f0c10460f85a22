import Invoicing.Calendar.Date

/-!
# Instants

An `Instant` is a moment in UTC: whole seconds since 1970-01-01T00:00:00Z and nanoseconds
within the second. A leap second is the second before it with nanoseconds from 10^9 on, so
`23:59:60.5` is second `23:59:59` with 1.5 * 10^9 nanoseconds. Any minute may end in one, and it
stays one when an offset moves it to another minute.

Instants are written as RFC 3339 in UTC, `YYYY-MM-DDTHH:MM:SSZ`, with a fraction of the second
only when it is not zero, in three, six or nine digits, the fewest that are exact
(`2000-02-29T23:59:59.123456789Z`, `2026-01-01T00:00:00.500Z`); a leap second shows as `60`.

`Instant.parseRfc3339?` reads RFC 3339 strictly: four-digit year, two-digit fields, `T`, `t` or a
space between date and time, seconds up to 60, a fraction of any length (digits past the ninth
are dropped), and `Z`, `z` or an offset `±HH:MM` below 24 hours, which is subtracted to give UTC.
-/

namespace Invoicing

/-- A moment in UTC. -/
structure Instant where
  seconds : Int
  nanos : Nat
  deriving DecidableEq, Repr, Inhabited

namespace Instant

/-- Midnight UTC at the start of a date. -/
def ofDate (d : Date) : Instant := ⟨d.toDays * 86400, 0⟩

/-- Whether the UTC date of an instant lies in the supported years. -/
def inRange (t : Instant) : Bool :=
  (Instant.ofDate ⟨Date.minYear, 1, 1⟩).seconds ≤ t.seconds &&
    t.seconds < (Instant.ofDate ⟨Date.maxYear + 1, 1, 1⟩).seconds

/-- The instant at a local date and time (`second` up to 60) written with an offset from UTC
in seconds. -/
def ofLocal (date : Date) (hour minute second : Nat) (nanos : Nat) (offset : Int) : Instant :=
  let leap := if second = 60 then 1000000000 else 0
  ⟨date.toDays * 86400 + (hour * 3600 + minute * 60 + min second 59 : Nat) - offset,
    nanos + leap⟩

/-- The UTC date of the instant. -/
def date (t : Instant) : Date := Date.ofDays (t.seconds / 86400)

/-- Whether one instant is earlier than another. -/
def before (a b : Instant) : Bool :=
  a.seconds < b.seconds || (a.seconds == b.seconds && a.nanos < b.nanos)

/-- The fraction of a second: nothing for zero, else three, six or nine digits. -/
def fractionText (nanos : Nat) : String :=
  if nanos = 0 then ""
  else if nanos % 1000000 = 0 then "." ++ Date.padded 3 (nanos / 1000000)
  else if nanos % 1000 = 0 then "." ++ Date.padded 6 (nanos / 1000)
  else "." ++ Date.padded 9 nanos

/-- The instant as RFC 3339 in UTC (see the module comment). -/
def text (t : Instant) : String :=
  let secs := t.seconds % 86400
  let h := (secs / 3600).toNat
  let m := (secs % 3600 / 60).toNat
  let (s, nanos) :=
    if t.nanos < 1000000000 then ((secs % 60).toNat, t.nanos)
    else ((secs % 60).toNat + 1, t.nanos - 1000000000)
  t.date.text ++ "T" ++ Date.padded 2 h ++ ":" ++ Date.padded 2 m ++ ":" ++ Date.padded 2 s ++
    fractionText nanos ++ "Z"

/-- Reads exactly `n` ASCII digits. -/
def exactDigits (n : Nat) (cs : List Char) : Option (Nat × List Char) :=
  let digits := cs.take n
  if digits.length = n && digits.all Char.isDigit then
    some (digits.foldl (fun acc c => acc * 10 + (c.toNat - 48)) 0, cs.drop n)
  else none

/-- Expects one character. -/
def expectChar (c : Char) : List Char → Option (List Char)
  | x :: rest => if x = c then some rest else none
  | [] => none

/-- Reads a fraction of a second after the point: at least one digit, the first nine kept. -/
def scanFraction (cs : List Char) : Option (Nat × List Char) :=
  let digits := cs.takeWhile Char.isDigit
  if digits.isEmpty then none
  else
    let kept := digits.take 9
    let n := kept.foldl (fun acc c => acc * 10 + (c.toNat - 48)) 0
    some (n * Nat.pow 10 (9 - kept.length), cs.drop digits.length)

/-- Reads the offset from UTC in seconds: `Z`, `z` or `±HH:MM` below 24 hours. -/
def scanOffset : List Char → Option (Int × List Char)
  | 'Z' :: rest | 'z' :: rest => some (0, rest)
  | c :: rest =>
    if c = '+' || c = '-' || c.toNat = 8722 then do
      let (h, r) ← exactDigits 2 rest
      let r ← expectChar ':' r
      let (m, r) ← exactDigits 2 r
      if 24 ≤ h || 60 ≤ m then none
      else
        let off : Int := (h * 3600 + m * 60 : Nat)
        some (if c = '+' then off else -off, r)
    else none
  | [] => none

/-- Reads an RFC 3339 date and time (see the module comment). -/
def parseRfc3339? (s : String) : Option Instant := do
  let cs := s.toList
  let (y, r) ← exactDigits 4 cs
  let r ← expectChar '-' r
  let (mo, r) ← exactDigits 2 r
  let r ← expectChar '-' r
  let (d, r) ← exactDigits 2 r
  let r ← match r with
    | c :: rest => if c = 'T' || c = 't' || c = ' ' then some rest else none
    | [] => none
  let (h, r) ← exactDigits 2 r
  let r ← expectChar ':' r
  let (mi, r) ← exactDigits 2 r
  let r ← expectChar ':' r
  let (se, r) ← exactDigits 2 r
  let (nanos, r) ← match r with
    | '.' :: rest => scanFraction rest
    | _ => some (0, r)
  let (off, r) ← scanOffset r
  if !r.isEmpty || 24 ≤ h || 60 ≤ mi || 60 < se then none
  else
    let date ← Date.make? y mo d
    some (ofLocal date h mi se nanos off)

end Instant

end Invoicing
