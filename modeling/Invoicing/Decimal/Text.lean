import Invoicing.Decimal.Arith

/-!
# Decimal text

`Decimal.toText` writes every digit of the mantissa with the point `scale` places from the
right, so the scale shows: `2.50`, `0.005`, `100`. A negative value starts with `-`; zero never
does.

`Decimal.ofText?` reads plain decimal notation: an optional sign as the first character,
digits with at most one point, and underscores between digits after the first one. Digits
beyond the 28th place, or beyond what fits in 96 bits after the point, are not kept: the first
of them that is not an underscore rounds the last kept digit (five and up rounds up), and the
text must go on with digits and underscores only. Too many whole digits is a failure.

`Decimal.ofScientific?` reads `base e exponent` (either case of `e`), the base in plain notation
and the exponent a whole number with an optional sign. A negative exponent moves the point to
the left; past the 28th place the value is rounded there, half away from zero, and an exponent
past 28 is a failure.

`Decimal.read?` tries plain notation first and scientific notation second, which is how a
figure given as a string is read.
-/

namespace Invoicing

namespace Decimal

/-- The figure as text: all mantissa digits, a point `scale` places from the right, at least
one digit before the point, and `-` in front of a negative value. -/
def toText (d : Decimal) : String :=
  let digits := Nat.toDigits 10 d.mant
  let padded := List.replicate (d.scale + 1 - digits.length) '0' ++ digits
  let whole := padded.take (padded.length - d.scale)
  let frac := padded.drop (padded.length - d.scale)
  let sign := if d.neg then "-" else ""
  if d.scale = 0 then sign ++ String.ofList whole
  else sign ++ String.ofList whole ++ "." ++ String.ofList frac

/-- What the reader of plain notation has seen so far. -/
structure Reading where
  neg : Bool
  mant : Nat
  scale : Nat
  point : Bool
  digits : Bool

/-- The value read, or `none` if no digit was seen. -/
def Reading.finish (r : Reading) : Option Decimal :=
  if r.digits then some (make r.neg r.mant r.scale) else none

/-- Stops keeping digits; `rest` is the text after the last kept digit. Its first character
that is not an underscore rounds (a digit of five or more rounds up), and the text must go on
with digits and underscores only. When rounding up overflows the mantissa, one more place is
dropped. -/
def Reading.roundAt (r : Reading) (rest : List Char) : Option Decimal :=
  match rest.dropWhile (· = '_') with
  | [] => some (make r.neg r.mant r.scale)
  | c :: more =>
    if !c.isDigit || !more.all (fun d => d.isDigit || d = '_') then none
    else if c.toNat - '0'.toNat < 5 then some (make r.neg r.mant r.scale)
    else if r.mant + 1 < mantLimit then some (make r.neg (r.mant + 1) r.scale)
    else if r.scale = 0 then none
    else some (make r.neg ((r.mant + 1 + 4) / 10) (r.scale - 1))

/-- Reads digits, one point and separating underscores. -/
def Reading.run (r : Reading) : List Char → Option Decimal
  | [] => r.finish
  | c :: rest =>
    if c.isDigit then
      let m := r.mant * 10 + (c.toNat - '0'.toNat)
      if mantLimit ≤ m then
        if r.point then r.roundAt (c :: rest) else none
      else
        let r' : Reading :=
          { r with mant := m, scale := if r.point then r.scale + 1 else r.scale, digits := true }
        match rest with
        | [] => r'.finish
        | _ :: _ => if r'.point && maxScale ≤ r'.scale then r'.roundAt rest else r'.run rest
    else if c = '.' && !r.point then { r with point := true }.run rest
    else if c = '_' && r.digits then r.run rest
    else none

/-- Reads plain decimal notation (see the module comment). -/
def ofText? (s : String) : Option Decimal :=
  let start : Reading := ⟨false, 0, 0, false, false⟩
  match s.toList with
  | '-' :: rest => { start with neg := true }.run rest
  | '+' :: rest => start.run rest
  | cs => start.run cs

/-- Reads a whole number below `2 ^ 32` written as digits with an optional leading `+`. -/
def readWord? (cs : List Char) : Option Nat :=
  let digits := match cs with
    | '+' :: rest => rest
    | _ => cs
  if digits.isEmpty || !digits.all Char.isDigit then none
  else
    let n := digits.foldl (fun acc c => acc * 10 + (c.toNat - '0'.toNat)) 0
    if n < Nat.pow 2 32 then some n else none

/-- The same mantissa read at `s` places; more than 28 places is a failure. -/
def withScale? (d : Decimal) (s : Nat) : Option Decimal :=
  if s ≤ maxScale then some (make d.neg d.mant s) else none

/-- The same mantissa read at `s` places, rounded to 28 places (half away from zero) when `s`
is more. -/
def withScaleRounded (d : Decimal) (s : Nat) : Decimal :=
  if s ≤ maxScale then make d.neg d.mant s
  else make d.neg (Tie.awayFromZero.divRound d.mant (Nat.pow 10 (s - maxScale))) maxScale

/-- `d` times `10 ^ e`, multiplied in at most two steps of up to nineteen places. -/
def shiftUp? (d : Decimal) (e : Nat) : Option Decimal :=
  if 19 ≤ e then
    match mul d (ofNat (Nat.pow 10 19)) with
    | none => none
    | some d' => if e = 19 then some d' else mul d' (ofNat (Nat.pow 10 (e - 19)))
  else mul d (ofNat (Nat.pow 10 e))

/-- Reads `base e exponent` (see the module comment). A negative exponent adds places, rounding
past the 28th; a positive one up to the base's places removes them; a larger one multiplies the
base and then drops trailing zeros. -/
def ofScientific? (s : String) : Option Decimal :=
  let cs := s.toList
  let base := cs.takeWhile (fun c => c != 'e' && c != 'E')
  let rest := cs.dropWhile (fun c => c != 'e' && c != 'E')
  match rest with
  | [] => none
  | _ :: exp =>
    match ofText? (String.ofList base) with
    | none => none
    | some d =>
      match exp with
      | '-' :: digits =>
        (readWord? digits).bind fun e =>
          if maxScale < e then none else some (d.withScaleRounded (d.scale + e))
      | _ =>
        (readWord? exp).bind fun e =>
          if e ≤ d.scale then d.withScale? (d.scale - e)
          else if maxScale < e then none
          else (d.shiftUp? e).map normalize

/-- Reads a figure given as text: plain notation, else scientific notation. -/
def read? (s : String) : Option Decimal :=
  match ofText? s with
  | some d => some d
  | none => ofScientific? s

end Decimal

end Invoicing
