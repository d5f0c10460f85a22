/-!
# Fixed-point decimals

A `Decimal` is the number `± mant / 10 ^ scale`. Mantissas stay below `2 ^ 96` and scales at
most 28 places. The scale belongs to the value as printed: `2.50` and `2.5` are the same number
but different figures, and every invoice figure keeps the scale its arithmetic gave it. A zero
mantissa is never negative (`Decimal.make` drops that sign), so each scale has one zero.

This module holds the type, its order, and rounding to a number of places under a tie rule.

What is proved here:
* `make_mant`, `make_scale`: the smart constructor keeps mantissa and scale.
* `roundDp_of_scale_le`: a value with at most `dp` places is returned unchanged.
* `roundDp_scale`: otherwise the result has exactly `dp` places.
-/

namespace Invoicing

/-- The number `± mant / 10 ^ scale`. -/
structure Decimal where
  mant : Nat
  scale : Nat
  neg : Bool
  deriving DecidableEq, Repr, Inhabited

namespace Decimal

/-- Mantissas stay below this bound: 96 bits. -/
def mantLimit : Nat := Nat.pow 2 96

/-- The most places a decimal carries. -/
def maxScale : Nat := 28

/-- The decimal with the given sign, mantissa and scale; a zero is never negative. -/
def make (neg : Bool) (mant scale : Nat) : Decimal :=
  { mant := mant, scale := scale, neg := neg && mant != 0 }

@[simp] theorem make_mant (neg : Bool) (m s : Nat) : (make neg m s).mant = m := rfl

@[simp] theorem make_scale (neg : Bool) (m s : Nat) : (make neg m s).scale = s := rfl

/-- Zero with no places. -/
def zero : Decimal := ⟨0, 0, false⟩

/-- A whole number with no places. -/
def ofNat (n : Nat) : Decimal := ⟨n, 0, false⟩

/-- A signed whole number with no places. -/
def ofInt (i : Int) : Decimal := make (decide (i < 0)) i.natAbs 0

/-- One hundred, the divisor of a percentage. -/
def hundred : Decimal := ofNat 100

/-- Whether the value is zero, at any scale. -/
def isZero (d : Decimal) : Bool := d.mant == 0

/-- The signed mantissa: the decimal is `num / 10 ^ scale`. -/
def num (d : Decimal) : Int := if d.neg then -(d.mant : Int) else (d.mant : Int)

/-- The signed mantissa the value has at `s` places, for `s` at least its own scale. -/
def numAt (d : Decimal) (s : Nat) : Int := d.num * Int.pow 10 (s - d.scale)

/-- `a` is below `b` as a number, whatever their scales. -/
instance : LT Decimal := ⟨fun a b => a.num * Int.pow 10 b.scale < b.num * Int.pow 10 a.scale⟩

/-- `a` is at most `b` as a number, whatever their scales. -/
instance : LE Decimal := ⟨fun a b => a.num * Int.pow 10 b.scale ≤ b.num * Int.pow 10 a.scale⟩

instance (a b : Decimal) : Decidable (a < b) :=
  inferInstanceAs (Decidable (a.num * Int.pow 10 b.scale < b.num * Int.pow 10 a.scale))

instance (a b : Decimal) : Decidable (a ≤ b) :=
  inferInstanceAs (Decidable (a.num * Int.pow 10 b.scale ≤ b.num * Int.pow 10 a.scale))

/-- The magnitude, scale kept. -/
def abs (d : Decimal) : Decimal := { d with neg := false }

/-- The opposite number, scale kept. -/
def negate (d : Decimal) : Decimal := make (!d.neg) d.mant d.scale

/-- How a value lying exactly halfway between two neighbours is rounded. -/
inductive Tie where
  /-- To the neighbour of larger magnitude. -/
  | awayFromZero
  /-- To the neighbour whose last digit is even. -/
  | toEven
  deriving DecidableEq, Repr

/-- `n / d` rounded to a whole number, a remainder of exactly half going as the tie rule says. -/
def Tie.divRound (t : Tie) (n d : Nat) : Nat :=
  let q := n / d
  let r := n % d
  match t with
  | .awayFromZero => if d ≤ 2 * r then q + 1 else q
  | .toEven => if d < 2 * r || (2 * r == d && q % 2 == 1) then q + 1 else q

/-- `d` rounded to `dp` places. A value with at most `dp` places is returned unchanged, scale
included; any other result has exactly `dp` places. -/
def roundDp (d : Decimal) (dp : Nat) (t : Tie) : Decimal :=
  if d.scale ≤ dp then d
  else make d.neg (t.divRound d.mant (Nat.pow 10 (d.scale - dp))) dp

theorem roundDp_of_scale_le (d : Decimal) (dp : Nat) (t : Tie) (h : d.scale ≤ dp) :
    d.roundDp dp t = d := by
  simp [roundDp, h]

theorem roundDp_scale (d : Decimal) (dp : Nat) (t : Tie) (h : dp < d.scale) :
    (d.roundDp dp t).scale = dp := by
  simp [roundDp, Nat.not_le.mpr h]

/-- A mantissa and scale with the trailing zeros of the fraction removed. -/
def stripZeros : Nat → Nat → Nat × Nat
  | m, 0 => (m, 0)
  | m, s + 1 => if m % 10 == 0 then stripZeros (m / 10) s else (m, s + 1)

/-- The same number with the fewest places: trailing zeros of the fraction dropped, and zero
written `0`. -/
def normalize (d : Decimal) : Decimal :=
  let p := stripZeros d.mant d.scale
  make d.neg p.1 p.2

end Decimal

end Invoicing
