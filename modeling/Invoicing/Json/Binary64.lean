/-!
# Binary64 numbers

JSON numbers with a fraction or an exponent are IEEE 754 binary64 values. A `Binary64` is a
finite one: `± mant * 2 ^ exp`, with the mantissa below `2 ^ 53`. It is kept canonical: a normal
value has a mantissa of at least `2 ^ 52`, a subnormal one has exponent `-1074`, and zero has
mantissa and exponent `0`. The sign of zero is kept.

`Binary64.round` rounds a non-negative fraction `n / d` to the nearest value, ties to even, and
fails past the largest finite value; `ofDecimal?` does so for a decimal significand and
exponent. Products and quotients round their exact results.

`Binary64.shortest` gives the shortest decimal digits that round back to a value, the nearest
such when two of that length do. Three layouts write them:
* `toPlainText`: positional, no exponent and no trailing `.0` (`1e21` is
  `1000000000000000000000`, `1e-7` is `0.0000001`);
* `toJsonText`: positional for decimal exponents from -4 to 15 with at least one fraction
  digit, otherwise one digit, a point and the rest, `e`, a sign and at least two exponent
  digits (`1.5`, `100.0`, `1e+30`, `1e-05`);
* `toShortText`: positional up to sixteen digits before the point and four zeros after it,
  with `.0` on a whole number, otherwise one digit, maybe a point and the rest, `e` and the
  exponent without a plus sign (`1.5`, `0.00001`, `1e-6`, `1e30`).
-/

namespace Invoicing

/-- A finite binary64 value `± mant * 2 ^ exp` in canonical form. -/
structure Binary64 where
  neg : Bool
  mant : Nat
  exp : Int
  deriving DecidableEq, Repr, Inhabited

namespace Binary64

/-- The fraction `num / den` equal to the magnitude. -/
def ratio (x : Binary64) : Nat × Nat :=
  (x.mant * Nat.pow 2 x.exp.toNat, Nat.pow 2 (-x.exp).toNat)

/-- Whether the value is zero (of either sign). -/
def isZero (x : Binary64) : Bool := x.mant == 0

/-- `n / d` rounded to a whole number, a tie going to the even neighbour. -/
def divRoundEven (n d : Nat) : Nat :=
  let q := n / d
  let r := n % d
  if d < 2 * r || (2 * r == d && q % 2 == 1) then q + 1 else q

/-- `⌊n / d * 2 ^ -e⌋`. -/
def scaledFloor (n d : Nat) (e : Int) : Nat :=
  if 0 ≤ e then n / (d * Nat.pow 2 e.toNat) else n * Nat.pow 2 (-e).toNat / d

/-- The binary64 value nearest to `n / d` (`d > 0`) with the given sign, ties to even; `none`
when the magnitude rounds past the largest finite value. -/
def round (neg : Bool) (n d : Nat) : Option Binary64 :=
  if n = 0 then some ⟨neg, 0, 0⟩
  else
    let b : Int := (Nat.log2 n : Int) - (Nat.log2 d : Int)
    let e0 := b - 52
    let e1 := if scaledFloor n d e0 < Nat.pow 2 52 then e0 - 1 else e0
    let e := max e1 (-1074)
    let m := divRoundEven (n * Nat.pow 2 (-e).toNat) (d * Nat.pow 2 e.toNat)
    let (m, e) := if m = Nat.pow 2 53 then (Nat.pow 2 52, e + 1) else (m, e)
    if 971 < e then none
    else if m = 0 then some ⟨neg, 0, 0⟩
    else some ⟨neg, m, e⟩

/-- The value nearest to a whole number. -/
def ofNat (n : Nat) : Binary64 := (round false n 1).getD ⟨false, 0, 0⟩

/-- The number of decimal digits of `n` (one for zero). -/
def decimalLength (n : Nat) : Nat := (Nat.toDigits 10 n).length

/-- The value nearest to `digits * 10 ^ exponent` with the given sign, ties to even; `none`
past the largest finite value. A value of at least `10 ^ 310` overflows and one below
`10 ^ -330` is zero, which settles huge exponents without computing their powers. -/
def ofDecimal? (neg : Bool) (digits : Nat) (exponent : Int) : Option Binary64 :=
  if digits = 0 then some ⟨neg, 0, 0⟩
  else
    let magnitude := (decimalLength digits : Int) + exponent
    if 310 < magnitude then none
    else if magnitude < -330 then some ⟨neg, 0, 0⟩
    else if 0 ≤ exponent then round neg (digits * Nat.pow 10 exponent.toNat) 1
    else round neg digits (Nat.pow 10 (-exponent).toNat)

/-- The rounded product; `none` past the largest finite value. -/
def mul (x y : Binary64) : Option Binary64 :=
  let (a, b) := x.ratio
  let (c, d) := y.ratio
  round (x.neg != y.neg) (a * c) (b * d)

/-- The rounded quotient by a non-zero value. -/
def div (x y : Binary64) : Option Binary64 :=
  let (a, b) := x.ratio
  let (c, d) := y.ratio
  round (x.neg != y.neg) (a * d) (b * c)

/-- The value nearest to `10 ^ k`. -/
def pow10 (k : Nat) : Binary64 := ofNat (Nat.pow 10 k)

/-- The opposite value. -/
def negate (x : Binary64) : Binary64 := { x with neg := !x.neg }

/-- The number of decimal digits of a positive whole number. -/
def digitCount (n : Nat) : Nat := (Nat.toDigits 10 n).length

/-- `⌊log10 (n / d)⌋` for `n, d > 0`. -/
def decimalExponent (n d : Nat) : Int :=
  let t : Int := (digitCount n : Int) - (digitCount d : Int)
  let atLeast : Bool :=
    if 0 ≤ t then d * Nat.pow 10 t.toNat ≤ n else d ≤ n * Nat.pow 10 (-t).toNat
  if atLeast then t else t - 1

/-- Whether `c * 10 ^ k` rounds to `x`. -/
def readsBack (x : Binary64) (c : Nat) (k : Int) : Bool :=
  let r := if 0 ≤ k then round x.neg (c * Nat.pow 10 k.toNat) 1 else round x.neg c (Nat.pow 10 (-k).toNat)
  r == some x

/-- `|c * 10 ^ k - n / d|` compared for two candidates: whether `c₁` is strictly nearer than
`c₂` (both at the same `k`). -/
def nearer (n d c₁ c₂ : Nat) (k : Int) : Bool :=
  -- compare |c * 10^k * d - n| scaled to whole numbers
  let scale (c : Nat) : Int :=
    if 0 ≤ k then (c * Nat.pow 10 k.toNat * d : Nat) - (n : Int)
    else (c * d : Nat) - ((n * Nat.pow 10 (-k).toNat : Nat) : Int)
  (scale c₁).natAbs < (scale c₂).natAbs

/-- Tries `len`, `len + 1`, … digits, `fuel` times, for the first length at which one of the
two neighbours of `n / d` on the grid `10 ^ k` reads back as `x`. -/
def shortestFrom (x : Binary64) (n d : Nat) (e10 : Int) (len : Nat) : Nat → Nat × Int
  | 0 => (0, 0)
  | fuel + 1 =>
    let k : Int := e10 - (len : Int) + 1
    let c : Nat := if 0 ≤ k then n / (d * Nat.pow 10 k.toNat) else n * Nat.pow 10 (-k).toNat / d
    let lo := readsBack x c k
    let hi := readsBack x (c + 1) k
    if lo && hi then (if nearer n d (c + 1) c k then (c + 1, k) else (c, k))
    else if lo then (c, k)
    else if hi then (c + 1, k)
    else shortestFrom x n d e10 (len + 1) fuel

/-- The shortest digits `c` and exponent `k` with `c * 10 ^ k` reading back as `x`, with
trailing zeros of `c` moved into `k`. Zero gives `(0, 0)`. -/
def shortest (x : Binary64) : Nat × Int :=
  if x.isZero then (0, 0)
  else
    let (n, d) := x.ratio
    let (c, k) := shortestFrom x n d (decimalExponent n d) 1 17
    let rec strip : Nat → Nat → Int → Nat × Int
      | 0, c, k => (c, k)
      | fuel + 1, c, k => if c % 10 == 0 && c != 0 then strip fuel (c / 10) (k + 1) else (c, k)
    strip 20 c k

/-- The sign as text. -/
def signText (x : Binary64) : String := if x.neg then "-" else ""

/-- Positional text with no exponent and no `.0` (see the module comment). -/
def toPlainText (x : Binary64) : String :=
  let (c, k) := x.shortest
  let digits := Nat.toDigits 10 c
  let body :=
    if 0 ≤ k then String.ofList digits ++ String.ofList (List.replicate k.toNat '0')
    else
      let frac := (-k).toNat
      let padded := List.replicate (frac + 1 - digits.length) '0' ++ digits
      String.ofList (padded.take (padded.length - frac)) ++ "." ++
        String.ofList (padded.drop (padded.length - frac))
  x.signText ++ body

/-- JSON number text (see the module comment). -/
def toJsonText (x : Binary64) : String :=
  let (c, k) := x.shortest
  let digits := Nat.toDigits 10 c
  let len := digits.length
  -- the decimal exponent of the first digit
  let e : Int := k + (len : Int) - 1
  let body :=
    if c = 0 then "0.0"
    else if -4 ≤ e ∧ e < 16 then
      if 0 ≤ k then String.ofList digits ++ String.ofList (List.replicate k.toNat '0') ++ ".0"
      else
        let frac := (-k).toNat
        let padded := List.replicate (frac + 1 - len) '0' ++ digits
        String.ofList (padded.take (padded.length - frac)) ++ "." ++
          String.ofList (padded.drop (padded.length - frac))
    else
      let mantissa :=
        match digits with
        | [] => "0"
        | [d] => String.singleton d
        | d :: rest => String.singleton d ++ "." ++ String.ofList rest
      let expDigits := Nat.toDigits 10 e.natAbs
      let expText := String.ofList (List.replicate (2 - expDigits.length) '0' ++ expDigits)
      mantissa ++ "e" ++ (if e < 0 then "-" else "+") ++ expText
  x.signText ++ body

/-- Short text with `e` beyond sixteen whole digits or four leading zeros (see the module
comment). -/
def toShortText (x : Binary64) : String :=
  let (c, k) := x.shortest
  let digits := Nat.toDigits 10 c
  let len := digits.length
  -- the place of the point, counted in digits from the left
  let point : Int := (len : Int) + k
  let zeros (n : Nat) : String := String.ofList (List.replicate n '0')
  let body :=
    if c = 0 then "0.0"
    else if 0 ≤ k ∧ point ≤ 16 then String.ofList digits ++ zeros k.toNat ++ ".0"
    else if 0 < point ∧ point ≤ 16 then
      String.ofList (digits.take point.toNat) ++ "." ++ String.ofList (digits.drop point.toNat)
    else if -5 < point ∧ point ≤ 0 then "0." ++ zeros (-point).toNat ++ String.ofList digits
    else
      let mantissa := match digits with
        | [] => "0"
        | [d] => String.singleton d
        | d :: rest => String.singleton d ++ "." ++ String.ofList rest
      mantissa ++ "e" ++ toString (point - 1)
  x.signText ++ body

end Binary64

end Invoicing
