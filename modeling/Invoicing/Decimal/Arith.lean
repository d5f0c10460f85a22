import Invoicing.Decimal.Basic

/-!
# Decimal arithmetic

Sums, differences and products are computed exactly and then brought into range by `fit`:
the fewest trailing digits are dropped, ties to even, until the mantissa has at most 96 bits
and the scale at most 28 places. An operation fails (`none`) only when even a whole number
would not fit.

Three shortcuts decide the scale of some results, and the invoice figures show them:
* a sum or difference with a zero operand is the other operand, scale included
  (`999 + 0.00 = 999`, `0 + 1.00 = 1.00`);
* a product with a zero factor is `0` with no places;
* a sum keeps the larger scale of its operands, a product the sum of their scales.

A quotient keeps the dividend's scale when the division is exact; otherwise it is taken to as
many places as fit, ties to even, with trailing zeros dropped (`150 / 100 = 1.5`).

What is proved here:
* `add_zero_left`, `add_zero_right`, `mul_zero_left`: the shortcuts above.
* `fit_of_lt`: an exact result that is already in range is returned as it is.
-/

namespace Invoicing

namespace Decimal

/-- The least `k`, trying `k`, `k + 1`, … for `fuel` steps, for which `m / 10 ^ k` is below
the mantissa limit. -/
def leastFitting (m : Nat) (k : Nat) : Nat → Option Nat
  | 0 => none
  | fuel + 1 => if m / Nat.pow 10 k < mantLimit then some k else leastFitting m (k + 1) fuel

/-- The exact value `± m / 10 ^ s` brought into range. At least `s - 28` trailing digits are
dropped, and then the fewest more that make the mantissa fit; the last dropped digit rounds,
ties to even. `none` when more digits would be dropped than the fraction has. -/
def fit (neg : Bool) (m s : Nat) : Option Decimal :=
  match leastFitting m (s - maxScale) (s + 1 - (s - maxScale)) with
  | none => none
  | some k =>
    let r := Tie.toEven.divRound m (Nat.pow 10 k)
    if r < mantLimit then some (make neg r (s - k))
    else if k < s then some (make neg (Tie.toEven.divRound r 10) (s - k - 1))
    else none

theorem fit_of_lt (neg : Bool) (m s : Nat) (hm : m < mantLimit) (hs : s ≤ maxScale) :
    fit neg m s = some (make neg m s) := by
  have h0 : s - maxScale = 0 := Nat.sub_eq_zero_of_le hs
  have hr : Tie.toEven.divRound m 1 = m := by
    simp [Tie.divRound, Nat.mod_one]
  have hp : Nat.pow 10 0 = 1 := rfl
  unfold fit
  rw [h0, Nat.sub_zero]
  simp only [leastFitting, hp, Nat.div_one, hm, if_true, hr, Nat.sub_zero]

/-- The sum. A zero operand gives back the other one, scale included; otherwise the exact sum
at the larger scale is brought into range. -/
def add (a b : Decimal) : Option Decimal :=
  if a.isZero then some b
  else if b.isZero then some a
  else
    let s := max a.scale b.scale
    let x := a.numAt s + b.numAt s
    fit (decide (x < 0)) x.natAbs s

/-- The difference `a - b`. -/
def sub (a b : Decimal) : Option Decimal := add a b.negate

/-- The product. A zero factor gives `0` with no places; two factors below `2 ^ 32` whose
scales add up to more than 47 places give `0` as well; otherwise the exact product at the
summed scale is brought into range. -/
def mul (a b : Decimal) : Option Decimal :=
  if a.isZero || b.isZero then some zero
  else if a.mant < Nat.pow 2 32 && b.mant < Nat.pow 2 32 && maxScale + 19 < a.scale + b.scale then some zero
  else fit (a.neg != b.neg) (a.mant * b.mant) (a.scale + b.scale)

theorem add_zero_left (a b : Decimal) (h : a.isZero = true) : add a b = some b := by
  simp [add, h]

theorem add_zero_right (a b : Decimal) (ha : a.isZero = false) (h : b.isZero = true) :
    add a b = some a := by
  simp [add, ha, h]

theorem mul_zero_left (a b : Decimal) (h : a.isZero = true) : mul a b = some zero := by
  simp [mul, h]

/-- The greatest scale `28 - i`, trying `i`, `i + 1`, … for `fuel` steps and never going below
`low`, at which the quotient `n * 10 ^ (scale + up - down) / d` is below the mantissa limit. -/
def greatestFitting (n d up down low : Nat) (i : Nat) : Nat → Option Nat
  | 0 => none
  | fuel + 1 =>
    let s := maxScale - i
    if s < low then none
    else if n * Nat.pow 10 (s + up - down) / d < mantLimit then some s
    else greatestFitting n d up down low (i + 1) fuel

/-- The quotient. Dividing zero gives `0`. An exact division keeps the dividend's places less
the divisor's; when that would be negative, whole blocks of nine places are added. An inexact
one is taken to as many places as fit, ties to even, and its trailing zeros are dropped. -/
def div (a b : Decimal) : Option Decimal :=
  if b.isZero then none
  else if a.isZero then some zero
  else
    let neg := a.neg != b.neg
    if a.mant % b.mant == 0 then
      if b.scale ≤ a.scale then some (make neg (a.mant / b.mant) (a.scale - b.scale))
      else
        let blocks := (b.scale - a.scale + 8) / 9
        let q := a.mant / b.mant * Nat.pow 10 (9 * blocks)
        if q < mantLimit then some (make neg q (a.scale + 9 * blocks - b.scale)) else none
    else
      -- the quotient at `s` places is `a.mant * 10 ^ (s + b.scale - a.scale) / b.mant`
      match greatestFitting a.mant b.mant b.scale a.scale (a.scale - b.scale) 0 (maxScale + 1) with
      | none => none
      | some s =>
        let r := Tie.toEven.divRound (a.mant * Nat.pow 10 (s + b.scale - a.scale)) b.mant
        if r < mantLimit then some (normalize (make neg r s)) else none

end Decimal

end Invoicing
