import Invoicing.Decimal.Arith
import Invoicing.Store.Column
import Mathlib.Data.Nat.Cast.Field
import Mathlib.Algebra.Order.Round
import Mathlib.Data.Rat.Floor
import Mathlib.Tactic.Linarith
import Mathlib.Tactic.FieldSimp

/-!
# The value of a decimal

A decimal stands for the rational number `± mant / 10 ^ scale` (`Decimal.val`); the order of
decimals is the order of their values. This module says what the arithmetic does to values:

* rounding to `dp` places with ties away from zero is `roundHalfAway dp` of the value, which
  is Mathlib's `round` (halves up) applied to the magnitude;
* a sum or product whose exact mantissa fits in 96 bits at no more than 28 places is computed,
  and exactly (`add_some`, `mul_some`), and dividing by a hundred is exact when two more places
  fit (`div_hundred_some`); whatever result such an operation gave is that one (`add_exact`,
  `mul_exact`, `div_hundred_exact`);
* a product that does not fit still loses less than one unit (`mul_lower`), so a product too
  large to be exact is far too large for any money column;
* a number column stores a value rounded to its places (`Column.numeric_val`), so a value that
  already has at most that many places is stored exactly (`Column.numeric_val_of_scale_le`).
-/

namespace Invoicing

/-- `x` to `dp` places, a half going away from zero. -/
def roundHalfAway (dp : ℕ) (x : ℚ) : ℚ :=
  if x < 0 then -((round (-x * 10 ^ dp) : ℚ) / 10 ^ dp) else (round (x * 10 ^ dp) : ℚ) / 10 ^ dp

/-- A number that already has at most `dp` places is its own rounding. -/
theorem roundHalfAway_eq_self {dp : ℕ} {x : ℚ} (z : ℤ) (hz : x * 10 ^ dp = z) :
    roundHalfAway dp x = x := by
  have h10 : (10 : ℚ) ^ dp ≠ 0 := by positivity
  have hneg : -x * 10 ^ dp = ((-z : ℤ) : ℚ) := by push_cast; rw [← hz]; ring
  unfold roundHalfAway
  split
  · rw [hneg, round_intCast]; push_cast; rw [← hz]; field_simp
  · rw [hz, round_intCast, ← hz]; field_simp

/-- Rounding moves a value by less than one. -/
theorem roundHalfAway_abs_ge (dp : ℕ) (x : ℚ) : |x| - 1 ≤ |roundHalfAway dp x| := by
  have hp : (0 : ℚ) < 10 ^ dp := by positivity
  have hp1 : (1 : ℚ) ≤ 10 ^ dp := one_le_pow₀ (by norm_num)
  -- `round` moves a value by at most a half
  have key : ∀ y : ℚ, y - 1 ≤ |(round (y * 10 ^ dp) : ℚ) / 10 ^ dp| := by
    intro y
    have hr := abs_le.mp (abs_sub_round (y * 10 ^ dp))
    calc y - 1 ≤ (round (y * 10 ^ dp) : ℚ) / 10 ^ dp := by
          rw [le_div_iff₀ hp]
          nlinarith
      _ ≤ _ := le_abs_self _
  unfold roundHalfAway
  split
  · rename_i hx
    rw [abs_neg, abs_of_neg hx]
    exact key (-x)
  · rename_i hx
    rw [abs_of_nonneg (not_lt.mp hx)]
    exact key x

/-- Rounding keeps a value that is not negative not negative. -/
theorem roundHalfAway_nonneg (dp : ℕ) {x : ℚ} (hx : 0 ≤ x) : 0 ≤ roundHalfAway dp x := by
  unfold roundHalfAway
  rw [if_neg (not_lt.mpr hx)]
  have : (0 : ℤ) ≤ round (x * 10 ^ dp) := by
    rw [round_eq]
    exact Int.floor_nonneg.mpr (by positivity)
  positivity

namespace Decimal

/-- The number a decimal stands for. -/
def val (d : Decimal) : ℚ := d.num / 10 ^ d.scale

theorem val_eq (d : Decimal) : d.val = (if d.neg then -(d.mant : ℚ) else d.mant) / 10 ^ d.scale := by
  unfold val num
  split <;> push_cast <;> rfl

@[simp] theorem val_make (neg : Bool) (m s : ℕ) :
    (make neg m s).val = (if neg then -(m : ℚ) else m) / 10 ^ s := by
  rw [val_eq]
  cases neg <;> by_cases hm : m = 0 <;> simp [make, hm]

@[simp] theorem val_zero : zero.val = 0 := by simp [val, zero, num]

theorem val_neg_iff (d : Decimal) : d.val < 0 ↔ d.neg = true ∧ d.mant ≠ 0 := by
  have h10 : (0 : ℚ) < 10 ^ d.scale := by positivity
  rw [val_eq]
  cases d.neg <;> by_cases hm : d.mant = 0 <;> simp [hm, div_neg_iff, h10, Nat.pos_of_ne_zero]

theorem roundDp_scale_le (d : Decimal) (dp : ℕ) (t : Tie) : (d.roundDp dp t).scale ≤ dp := by
  unfold roundDp
  split <;> simp_all

theorem half_shift (n d : ℕ) (hd : 0 < d) :
    (n : ℚ) / d + 1 / 2 = ((2 * n + d : ℕ) : ℤ) / ((2 * d : ℕ) : ℚ) := by
  push_cast
  field_simp

/-- Rounding a quotient away from zero is Mathlib's `round`, which takes halves up. -/
theorem Tie.divRound_awayFromZero (n d : ℕ) (hd : 0 < d) :
    ((Tie.awayFromZero.divRound n d : ℕ) : ℤ) = round ((n : ℚ) / d) := by
  rw [round_eq, half_shift n d hd, Rat.floor_intCast_div_natCast]
  simp only [Tie.divRound]
  have hn := Nat.div_add_mod n d
  have hr := Nat.mod_lt n hd
  generalize n / d = q at *
  generalize n % d = r at *
  subst hn
  norm_cast
  symm
  split
  · apply Nat.div_eq_of_lt_le <;> linarith
  · apply Nat.div_eq_of_lt_le <;> linarith


/-- The exact value of a decimal has at most as many places as its scale. -/
theorem val_mul_pow (d : Decimal) {dp : ℕ} (h : d.scale ≤ dp) :
    d.val * 10 ^ dp = ((d.num * 10 ^ (dp - d.scale) : ℤ) : ℚ) := by
  have hs : dp = d.scale + (dp - d.scale) := by omega
  unfold val
  push_cast
  rw [hs, pow_add]
  field_simp
  rw [← hs]

/-- Rounding a decimal away from zero rounds its value away from zero. -/
theorem val_roundDp_away (d : Decimal) (dp : ℕ) :
    (d.roundDp dp .awayFromZero).val = roundHalfAway dp d.val := by
  unfold roundDp
  split
  · rename_i h
    exact (roundHalfAway_eq_self _ (val_mul_pow d h)).symm
  rename_i h
  -- the dropped places: `|d.val| * 10 ^ dp` is the mantissa over `10 ^ k`
  obtain ⟨k, hk⟩ : ∃ k, d.scale = dp + k := ⟨d.scale - dp, by omega⟩
  have hshift : (d.mant : ℚ) / 10 ^ d.scale * 10 ^ dp = (d.mant : ℚ) / (10 ^ k : ℕ) := by
    rw [hk, pow_add]; push_cast; field_simp
  have hround := Tie.divRound_awayFromZero d.mant (10 ^ k) (by positivity)
  have hpow : Nat.pow 10 (d.scale - dp) = 10 ^ k := by rw [hk]; simp
  rw [val_make, hpow]
  unfold roundHalfAway
  rw [val_eq]
  by_cases hm : d.mant = 0
  · simp [hm, Tie.divRound]
  cases hn : d.neg
  · have : ¬ ((d.mant : ℚ) / 10 ^ d.scale < 0) := not_lt.mpr (by positivity)
    simp only [Bool.false_eq_true, if_false, this]
    rw [hshift, ← hround]
    rfl
  · have : (-(d.mant : ℚ)) / 10 ^ d.scale < 0 := by
      apply div_neg_of_neg_of_pos _ (by positivity)
      simp only [Left.neg_neg_iff, Nat.cast_pos]; omega
    simp only [if_true, this]
    simp only [neg_div, neg_neg]
    rw [hshift, ← hround]
    rfl


theorem lt_iff_val {a b : Decimal} : a < b ↔ a.val < b.val := by
  show a.num * 10 ^ b.scale < b.num * 10 ^ a.scale ↔ _
  unfold val
  rw [div_lt_div_iff₀ (by positivity) (by positivity)]
  norm_cast

theorem le_iff_val {a b : Decimal} : a ≤ b ↔ a.val ≤ b.val := by
  show a.num * 10 ^ b.scale ≤ b.num * 10 ^ a.scale ↔ _
  unfold val
  rw [div_le_div_iff₀ (by positivity) (by positivity)]
  norm_cast

@[simp] theorem val_abs (d : Decimal) : d.abs.val = |d.val| := by
  rw [val_eq, val_eq]
  cases d.neg <;> simp [abs, abs_div]

@[simp] theorem val_negate (d : Decimal) : d.negate.val = -d.val := by
  rw [negate, val_make, val_eq]
  cases d.neg <;> simp [neg_div]

/-- The mantissa is the magnitude of the value at the decimal's own scale. -/
theorem mant_eq (d : Decimal) : (d.mant : ℚ) = |d.val| * 10 ^ d.scale := by
  rw [val_eq]
  cases d.neg <;> simp [abs_div]

@[simp] theorem val_numAt (d : Decimal) {s : ℕ} (h : d.scale ≤ s) :
    ((d.numAt s : ℤ) : ℚ) / 10 ^ s = d.val := by
  have hs : s = d.scale + (s - d.scale) := by omega
  unfold numAt val
  push_cast
  rw [show Int.pow 10 (s - d.scale) = 10 ^ (s - d.scale) from rfl, hs, pow_add]
  push_cast
  field_simp
  rw [← hs]


theorem Tie.div_le_divRound (t : Tie) (n d : ℕ) : n / d ≤ t.divRound n d := by
  cases t <;> simp only [Tie.divRound] <;> split <;> omega

theorem leastFitting_spec {m k fuel j : ℕ} (h : leastFitting m k fuel = some j) :
    k ≤ j ∧ j < k + fuel := by
  induction fuel generalizing k with
  | zero => cases h
  | succ fuel ih =>
    unfold leastFitting at h
    split at h
    · cases h
      omega
    · have := ih h
      omega

/-- Bringing a value into range loses less than one unit of the value: the result's magnitude,
at the original scale, falls short of `m` by less than `10 ^ s`. -/
theorem fit_lower {neg : Bool} {m s : ℕ} {d : Decimal} (h : fit neg m s = some d) :
    d.scale ≤ s ∧ m < d.mant * 10 ^ (s - d.scale) + 10 ^ s := by
  unfold fit at h
  split at h
  · cases h
  rename_i k hk
  have hks : k ≤ s := by have := leastFitting_spec hk; omega
  -- `m` is below the next multiple of `10 ^ k` after the rounded-off part
  have hP : 0 < 10 ^ k := by positivity
  have hPs : 10 ^ k ≤ 10 ^ s := Nat.pow_le_pow_right (by omega) hks
  have hm : m < m / 10 ^ k * 10 ^ k + 10 ^ k := Nat.lt_div_mul_add hP
  have hr := Tie.div_le_divRound .toEven m (10 ^ k)
  have hrP : m / 10 ^ k * 10 ^ k ≤ Tie.toEven.divRound m (10 ^ k) * 10 ^ k :=
    Nat.mul_le_mul_right _ hr
  simp only [Nat.pow_eq] at h
  split at h
  · cases h
    refine ⟨by simp, ?_⟩
    rw [make_mant, make_scale, show s - (s - k) = k by omega]
    omega
  split at h
  · cases h
    rename_i hlt
    refine ⟨by simp; omega, ?_⟩
    rw [make_mant, make_scale, show s - (s - k - 1) = k + 1 by omega, pow_succ]
    -- one more digit dropped: the rounded mantissa is below ten times the new one, plus ten
    generalize Tie.toEven.divRound m (10 ^ k) = r at hrP
    have hD := Tie.div_le_divRound .toEven r 10
    have hr10 : r < r / 10 * 10 + 10 := Nat.lt_div_mul_add (by omega)
    have h10 : 10 ^ (k + 1) ≤ 10 ^ s := Nat.pow_le_pow_right (by omega) hlt
    rw [pow_succ] at h10
    nlinarith
  · cases h


theorem val_eq_zero {d : Decimal} (h : d.isZero = true) : d.val = 0 := by
  have hm : d.mant = 0 := by simpa [isZero] using h
  rw [val_eq]
  simp [hm]

/-- A product whose exact mantissa fits is exact, and keeps the summed scale. -/
theorem mul_some {a b : Decimal} (hs : a.scale + b.scale ≤ maxScale)
    (hm : a.mant * b.mant < mantLimit) :
    ∃ c, mul a b = some c ∧ c.val = a.val * b.val ∧ c.mant = a.mant * b.mant ∧
      c.scale ≤ a.scale + b.scale := by
  unfold mul
  split
  · -- a zero factor gives plain zero
    rename_i hz
    refine ⟨zero, rfl, ?_⟩
    rcases Bool.or_eq_true_iff.mp hz with ha | hb
    · have hm0 : a.mant = 0 := by simpa [isZero] using ha
      exact ⟨by simp [val_eq_zero ha], by simp [zero, hm0], by simp [zero]⟩
    · have hm0 : b.mant = 0 := by simpa [isZero] using hb
      exact ⟨by simp [val_eq_zero hb], by simp [zero, hm0], by simp [zero]⟩
  split
  · rename_i h47
    simp only [Bool.and_eq_true, decide_eq_true_eq] at h47
    simp only [maxScale] at hs h47
    omega
  refine ⟨_, fit_of_lt _ _ _ hm hs, ?_, rfl, le_refl _⟩
  rw [val_make, val_eq a, val_eq b, pow_add]
  cases a.neg <;> cases b.neg <;> simp <;> field_simp

theorem mul_exact {a b c : Decimal} (h : mul a b = some c) (hs : a.scale + b.scale ≤ maxScale)
    (hm : a.mant * b.mant < mantLimit) :
    c.val = a.val * b.val ∧ c.mant = a.mant * b.mant ∧ c.scale ≤ a.scale + b.scale := by
  obtain ⟨c', hc', hexact⟩ := mul_some hs hm
  rw [h, Option.some.injEq] at hc'
  exact hc' ▸ hexact

/-- A sum whose exact value fits at the larger scale is exact, and keeps at most that scale. -/
theorem add_some {a b : Decimal} (hs : max a.scale b.scale ≤ maxScale)
    (hm : |a.val + b.val| * 10 ^ max a.scale b.scale < mantLimit) :
    ∃ c, add a b = some c ∧ c.val = a.val + b.val ∧ c.scale ≤ max a.scale b.scale := by
  unfold add
  split
  · rename_i ha
    exact ⟨b, rfl, by simp [val_eq_zero ha], le_max_right _ _⟩
  split
  · rename_i hb
    exact ⟨a, rfl, by simp [val_eq_zero hb], le_max_left _ _⟩
  -- the exact sum at the larger scale
  dsimp only
  generalize hx : a.numAt (max a.scale b.scale) + b.numAt (max a.scale b.scale) = x
  have hv : (x : ℚ) / 10 ^ max a.scale b.scale = a.val + b.val := by
    rw [← hx, Int.cast_add, add_div, val_numAt a (le_max_left _ _), val_numAt b (le_max_right _ _)]
  have hxl : x.natAbs < mantLimit := by
    have habs : ((x.natAbs : ℕ) : ℚ) = |a.val + b.val| * 10 ^ max a.scale b.scale := by
      rw [← hv, abs_div, abs_of_pos (by positivity : (0 : ℚ) < 10 ^ _), Nat.cast_natAbs]
      field_simp
      exact Int.cast_abs
    exact_mod_cast habs ▸ hm
  refine ⟨_, fit_of_lt _ _ _ hxl hs, ?_, by simp⟩
  rw [val_make, ← hv]
  by_cases hneg : x < 0
  · simp [hneg, abs_of_neg hneg, Nat.cast_natAbs]
  · simp [hneg, abs_of_nonneg (not_lt.mp hneg), Nat.cast_natAbs]

theorem add_exact {a b c : Decimal} (h : add a b = some c) (hs : max a.scale b.scale ≤ maxScale)
    (hm : |a.val + b.val| * 10 ^ max a.scale b.scale < mantLimit) :
    c.val = a.val + b.val ∧ c.scale ≤ max a.scale b.scale := by
  obtain ⟨c', hc', hexact⟩ := add_some hs hm
  rw [h, Option.some.injEq] at hc'
  exact hc' ▸ hexact

theorem stripZeros_val (m s : ℕ) :
    ((stripZeros m s).1 : ℚ) / 10 ^ (stripZeros m s).2 = m / 10 ^ s := by
  induction s generalizing m with
  | zero => simp [stripZeros]
  | succ s ih =>
    unfold stripZeros
    split
    · rename_i h10
      rw [ih]
      have hm : (m : ℚ) = ((m / 10 : ℕ) : ℚ) * 10 := by
        exact_mod_cast (Nat.div_mul_cancel (Nat.dvd_of_mod_eq_zero (by simpa using h10))).symm
      rw [hm, pow_succ]
      field_simp
    · rfl

@[simp] theorem val_normalize (d : Decimal) : d.normalize.val = d.val := by
  unfold normalize
  rw [val_make, val_eq]
  cases d.neg <;> simp [neg_div, stripZeros_val]

/-- The scale `greatestFitting` settles on is at least every scale in its range at which the
quotient fits. -/
theorem greatestFitting_ge {n d up down low i fuel s t : ℕ}
    (h : greatestFitting n d up down low i fuel = some s) (ht : t + i ≤ maxScale) (hlow : low ≤ t)
    (hfit : n * 10 ^ (t + up - down) / d < mantLimit) : t ≤ s := by
  induction fuel generalizing i with
  | zero => cases h
  | succ fuel ih =>
    unfold greatestFitting at h
    dsimp only at h
    split at h
    · cases h
    split at h
    · cases h
      omega
    · -- the scale tried does not fit, so `t` lies below it
      rename_i hno
      have hne : t ≠ maxScale - i := by
        rintro rfl
        exact hno (by simpa using hfit)
      exact ih h (by omega)

/-- A scale in the range of `greatestFitting` at which the quotient fits makes it settle on
one. -/
theorem greatestFitting_some {n d up down low i fuel t : ℕ} (ht : t + i ≤ maxScale)
    (hlow : low ≤ t) (hfit : n * 10 ^ (t + up - down) / d < mantLimit)
    (hfuel : maxScale < fuel + i) : ∃ s, greatestFitting n d up down low i fuel = some s := by
  induction fuel generalizing i with
  | zero => omega
  | succ fuel ih =>
    unfold greatestFitting
    dsimp only
    split
    · omega
    split
    · exact ⟨_, rfl⟩
    · -- the scale tried does not fit, so `t` lies below it
      rename_i hno
      have hne : t ≠ maxScale - i := by
        rintro rfl
        exact hno (by simpa using hfit)
      exact ih (by omega) (by omega)

/-- The quotient fits at the scale `greatestFitting` settles on. -/
theorem greatestFitting_fits {n d up down low i fuel s : ℕ}
    (h : greatestFitting n d up down low i fuel = some s) :
    n * 10 ^ (s + up - down) / d < mantLimit := by
  induction fuel generalizing i with
  | zero => cases h
  | succ fuel ih =>
    unfold greatestFitting at h
    dsimp only at h
    split at h
    · cases h
    split at h
    · cases h
      simpa using ‹_ < mantLimit›
    · exact ih h

/-- Dividing by a hundred is exact when two more places fit. -/
theorem div_hundred_some {a : Decimal} (hs : a.scale + 2 ≤ maxScale) (hm : a.mant < mantLimit) :
    ∃ c, div a hundred = some c ∧ c.val = a.val / 100 := by
  unfold div
  simp only [hundred, ofNat, isZero, Nat.reduceBEq, Bool.false_eq_true, if_false, Nat.zero_le,
    if_true, Nat.sub_zero, Bool.bne_false]
  split
  · rename_i ha
    exact ⟨_, rfl, by simp [val_eq_zero (by simpa [isZero] using ha)]⟩
  split
  · -- a whole number of hundredths: the mantissa is divided exactly
    rename_i hdvd
    refine ⟨_, rfl, ?_⟩
    have h100 : ((a.mant / 100 : ℕ) : ℚ) = a.mant / 100 := by
      rw [Nat.cast_div (Nat.dvd_of_mod_eq_zero (by simpa using hdvd)) (by norm_num)]
      norm_num
    rw [val_make, val_eq, h100]
    cases a.neg <;> simp <;> ring
  -- the quotient is taken to at least two more places, where it is exact
  have hfit2 : a.mant * 10 ^ (a.scale + 2 + 0 - a.scale) / 100 < mantLimit := by
    simpa [Nat.add_sub_cancel_left] using (by omega : a.mant * 100 / 100 < mantLimit)
  split
  · rename_i hnone
    exact absurd hnone (Option.ne_none_iff_exists'.mpr
      (greatestFitting_some (by simpa using hs) (by omega) hfit2 (by simp [maxScale])))
  rename_i s hsome
  have hge : a.scale + 2 ≤ s := greatestFitting_ge hsome (by simpa using hs) (by omega) hfit2
  have hfits := greatestFitting_fits hsome
  have hdvd : 100 ∣ a.mant * 10 ^ (s - a.scale) := by
    obtain ⟨j, hj⟩ : ∃ j, s - a.scale = j + 2 := ⟨s - a.scale - 2, by omega⟩
    rw [hj, pow_add]
    exact Dvd.dvd.mul_left (by norm_num) _
  have hr : Tie.toEven.divRound (a.mant * 10 ^ (s - a.scale)) 100 =
      a.mant * 10 ^ (s - a.scale) / 100 := by
    simp [Tie.divRound, Nat.mod_eq_zero_of_dvd hdvd]
  simp only [Nat.add_zero, Nat.pow_eq, hr]
  simp only [Nat.add_zero] at hfits
  rw [if_pos hfits]
  refine ⟨_, rfl, ?_⟩
  have hq : ((a.mant * 10 ^ (s - a.scale) / 100 : ℕ) : ℚ) =
      a.mant * 10 ^ (s - a.scale) / 100 := by
    rw [Nat.cast_div hdvd (by norm_num)]
    push_cast
    ring
  have hsplit : (10 : ℚ) ^ s = 10 ^ a.scale * 10 ^ (s - a.scale) := by
    rw [← pow_add]
    congr 1
    omega
  rw [val_normalize, val_make, val_eq, hq, hsplit]
  cases a.neg <;> simp <;> field_simp

theorem div_hundred_exact {a c : Decimal} (h : div a hundred = some c)
    (hs : a.scale + 2 ≤ maxScale) (hm : a.mant < mantLimit) : c.val = a.val / 100 := by
  obtain ⟨c', hc', hexact⟩ := div_hundred_some hs hm
  rw [h, Option.some.injEq] at hc'
  exact hc' ▸ hexact

/-- The magnitude of a value is its mantissa at its own scale. -/
theorem abs_val (d : Decimal) : |d.val| = d.mant / 10 ^ d.scale := by
  rw [mant_eq]
  field_simp

/-- A product loses less than one unit when it is brought into range. -/
theorem mul_lower {a b c : Decimal} (h : mul a b = some c) :
    ((a.mant * b.mant : ℕ) : ℚ) / 10 ^ (a.scale + b.scale) < |c.val| + 1 := by
  unfold mul at h
  split at h
  · rename_i hz
    cases h
    have hm : a.mant * b.mant = 0 := by
      rcases Bool.or_eq_true_iff.mp hz with ha | hb <;> simp_all [isZero]
    simp [hm]
  split at h
  · -- two narrow factors with more than 47 places: the product is below one unit
    rename_i hnarrow
    cases h
    simp only [Bool.and_eq_true, decide_eq_true_eq, Nat.pow_eq, maxScale] at hnarrow
    obtain ⟨⟨ha, hb⟩, hs⟩ := hnarrow
    have hs48 : 48 ≤ a.scale + b.scale := by
      have := of_decide_eq_true hs
      omega
    have hm : a.mant * b.mant < 2 ^ 64 := by
      calc a.mant * b.mant < 2 ^ 32 * 2 ^ 32 := Nat.mul_lt_mul'' ha hb
        _ = 2 ^ 64 := by norm_num
    have h48 : (10 : ℚ) ^ 48 ≤ 10 ^ (a.scale + b.scale) := pow_le_pow_right₀ (by norm_num) hs48
    have hm' : ((a.mant * b.mant : ℕ) : ℚ) < 10 ^ 48 := by
      calc ((a.mant * b.mant : ℕ) : ℚ) < 2 ^ 64 := by exact_mod_cast hm
        _ ≤ 10 ^ 48 := by norm_num
    rw [val_zero, abs_zero, zero_add, div_lt_one (by positivity)]
    linarith
  · obtain ⟨hsc, hlt⟩ := fit_lower h
    have hsplit : (10 : ℚ) ^ (a.scale + b.scale) = 10 ^ c.scale * 10 ^ (a.scale + b.scale - c.scale) := by
      rw [← pow_add]
      congr 1
      omega
    have hlt' : ((a.mant * b.mant : ℕ) : ℚ) < c.mant * 10 ^ (a.scale + b.scale - c.scale) + 10 ^ (a.scale + b.scale) := by
      exact_mod_cast hlt
    rw [abs_val, div_lt_iff₀ (by positivity), add_mul, one_mul, hsplit]
    rw [hsplit] at hlt'
    field_simp
    linarith

end Decimal

namespace Column

/-- A number column stores its value rounded to the column's places, away from zero. -/
theorem numeric_val {p s : ℕ} {d e : Decimal} (h : numeric p s d = .ok e) :
    e.val = roundHalfAway s d.val ∧ e.scale ≤ s := by
  have hr := Decimal.val_roundDp_away d s
  have hrs := Decimal.roundDp_scale_le d s .awayFromZero
  unfold numeric at h
  dsimp only at h
  split at h
  · cases h
  split at h
  · -- nothing is left after rounding: zero
    rename_i hz
    cases h
    have hm : (d.roundDp s .awayFromZero).mant = 0 := by
      simpa [Nat.pow_eq, pow_ne_zero] using hz
    refine ⟨?_, by simp [Decimal.zero]⟩
    rw [Decimal.val_zero, ← hr, Decimal.val_eq]
    simp [hm]
  · cases h
    refine ⟨?_, by simp⟩
    rw [← hr, Decimal.val_make, Decimal.val_eq (d.roundDp s .awayFromZero)]
    have hsplit : (10 : ℚ) ^ s = 10 ^ (d.roundDp s .awayFromZero).scale *
        10 ^ (s - (d.roundDp s .awayFromZero).scale) := by
      rw [← pow_add]
      congr 1
      omega
    rw [hsplit]
    cases (d.roundDp s .awayFromZero).neg <;> simp [Nat.pow_eq] <;> field_simp

/-- A value that already has at most the column's places is stored as it is. -/
theorem numeric_val_of_scale_le {p s : ℕ} {d e : Decimal} (h : numeric p s d = .ok e)
    (hd : d.scale ≤ s) : e.val = d.val ∧ e.scale ≤ s := by
  obtain ⟨hv, hs⟩ := numeric_val h
  exact ⟨hv.trans (roundHalfAway_eq_self _ (Decimal.val_mul_pow d hd)), hs⟩

end Column
end Invoicing
