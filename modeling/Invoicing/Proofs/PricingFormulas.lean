import Invoicing.Proofs.PricingExact
import Invoicing.Service.Invoices
import Mathlib.Algebra.Order.BigOperators.Group.List
import Mathlib.Data.Nat.Cast.Order.Field

/-!
# Pricing follows its formulas

The pricing formulas, on numbers: the rate, the quantities and the unit prices are kept to four
places and the discount to two, each amount is its quantity times its unit price kept to two
places, the subtotal is the sum of the amounts, the tax is the subtotal times the rate over a
hundred kept to two places, and the total is the subtotal plus the tax less the discount. The
checks come in a fixed order: the rate's range, the discount's sign and bound, then each item in
turn (the signs and bounds of its quantity and unit price, the bound of its amount, the bound of
the running subtotal), and last the bound of the total (`Formula.price`).

`calculate` computes on decimals of bounded width, which could round a product or fail on an
overflow. It does neither where it matters: it answers exactly what the formulas answer, the
error of the first failing check included (`calculate_figures`). A product too wide to be exact
is far beyond the money bound, and fails the amount check either way; the tax of a subtotal
within the bound is within it too, so its check never fails.

What is proved here:
* `Formula.price_ok_iff`: the formulas accept exactly the figures that pass every check, stated
  of the figures themselves (`Formula.Accepts`), and give `Formula.figures`.
* `tax_some`, `total_some`: the tax and the total of figures within the money bound come out
  exactly.
* `priceItem_figures`, `priceItems_figures`, `calculate_figures`: pricing on decimals answers as
  the formulas on their values.
* `calculate_follows_formulas`: the two together, with the places every figure keeps.
-/

namespace Invoicing

open Decimal

/-- The figures of a priced invoice as numbers. -/
structure Figures where
  lines : List (ℚ × ℚ × ℚ)
  subtotal : ℚ
  taxRate : ℚ
  taxAmount : ℚ
  discountAmount : ℚ
  totalAmount : ℚ

/-- A priced line as numbers: its quantity, unit price and amount. -/
def PricedLine.figures (l : PricedLine) : ℚ × ℚ × ℚ :=
  (l.quantity.val, l.unitPrice.val, l.amount.val)

/-- A priced invoice as numbers. -/
def Totals.figures (T : Totals) : Figures :=
  ⟨T.lines.map PricedLine.figures, T.subtotal.val, T.taxRate.val, T.taxAmount.val,
    T.discountAmount.val, T.totalAmount.val⟩

namespace Formula

/-! ## The formulas -/

/-- The amount of an item given as numbers: its quantity and unit price kept to four places,
their product kept to two. -/
def amount (x : ℚ × ℚ) : ℚ := roundHalfAway 2 (roundHalfAway 4 x.1 * roundHalfAway 4 x.2)

/-- The line of an item given as numbers. -/
def lineOf (x : ℚ × ℚ) : ℚ × ℚ × ℚ := (roundHalfAway 4 x.1, roundHalfAway 4 x.2, amount x)

/-- Item `n`, given as numbers: its quantity and unit price must not be negative nor beyond
their maxima, and its amount not beyond the money bound. -/
def line (n : ℕ) (x : ℚ × ℚ) : Except PricingError (ℚ × ℚ × ℚ) :=
  if roundHalfAway 4 x.1 < 0 then .error (.negativeQuantity n)
  else if roundHalfAway 4 x.2 < 0 then .error (.negativeUnitPrice n)
  else if maxQuantity.val < roundHalfAway 4 x.1 then .error (.quantityTooLarge n)
  else if maxUnitPrice.val < roundHalfAway 4 x.2 then .error (.unitPriceTooLarge n)
  else if maxMoney.val < amount x then .error (.moneyTooLarge (.itemAmount n))
  else .ok (lineOf x)

/-- The items from number `n` on, after amounts that came to `sub`: each line in turn, and the
running subtotal after it, which must stay within the money bound. -/
def lines (n : ℕ) (sub : ℚ) : List (ℚ × ℚ) → Except PricingError (List (ℚ × ℚ × ℚ) × ℚ)
  | [] => .ok ([], sub)
  | x :: rest =>
    match line n x with
    | .error e => .error e
    | .ok l =>
      if maxMoney.val < sub + l.2.2 then .error (.moneyTooLarge .subtotal)
      else (lines (n + 1) (sub + l.2.2) rest).map fun r => (l :: r.1, r.2)

theorem lines_nil (n : ℕ) (sub : ℚ) : lines n sub [] = .ok ([], sub) := rfl

-- Proved from the unfolding lemma: Lean's own equation lemma for this clause takes seconds to
-- generate, as it checks the clause by unfolding the structural recursion.
theorem lines_cons (n : ℕ) (sub : ℚ) (x : ℚ × ℚ) (rest : List (ℚ × ℚ)) :
    lines n sub (x :: rest) =
      match line n x with
      | .error e => .error e
      | .ok l =>
        if maxMoney.val < sub + l.2.2 then .error (.moneyTooLarge .subtotal)
        else (lines (n + 1) (sub + l.2.2) rest).map fun r => (l :: r.1, r.2) := by
  rw [lines.eq_def]

/-- The tax on a subtotal at a rate, kept to two places. -/
def tax (subtotal rate : ℚ) : ℚ := roundHalfAway 2 (subtotal * rate / 100)

/-- Items priced under a tax rate and a discount, all given as numbers: the rate must lie
between 0 and 100, the discount must not be negative nor beyond the money bound, the items must
pass, and the total must stay within the money bound. -/
def price (xs : List (ℚ × ℚ)) (taxRate discount : ℚ) : Except PricingError Figures :=
  let t := roundHalfAway 4 taxRate
  let d := roundHalfAway 2 discount
  if t < 0 ∨ 100 < t then .error .taxRateOutOfRange
  else if d < 0 then .error .negativeDiscount
  else if maxMoney.val < d then .error (.moneyTooLarge .discount)
  else
    match lines 1 0 xs with
    | .error e => .error e
    | .ok (ls, S) =>
      if maxMoney.val < |S + tax S t - d| then .error (.moneyTooLarge .total)
      else .ok ⟨ls, S, t, tax S t, d, S + tax S t - d⟩

/-! ## What the formulas accept -/

/-- An item whose quantity and unit price, kept to four places, are not negative and within
their maxima, and whose amount is within the money bound. -/
def LineFits (x : ℚ × ℚ) : Prop :=
  0 ≤ roundHalfAway 4 x.1 ∧ 0 ≤ roundHalfAway 4 x.2 ∧ roundHalfAway 4 x.1 ≤ maxQuantity.val ∧
    roundHalfAway 4 x.2 ≤ maxUnitPrice.val ∧ amount x ≤ maxMoney.val

/-- The subtotal of items given as numbers. -/
def subtotal (xs : List (ℚ × ℚ)) : ℚ := (xs.map amount).sum

/-- What the formulas accept, said of the figures themselves. -/
structure Accepts (xs : List (ℚ × ℚ)) (taxRate discount : ℚ) : Prop where
  rateInRange : 0 ≤ roundHalfAway 4 taxRate ∧ roundHalfAway 4 taxRate ≤ 100
  discountInRange : 0 ≤ roundHalfAway 2 discount ∧ roundHalfAway 2 discount ≤ maxMoney.val
  linesFit : ∀ x ∈ xs, LineFits x
  /-- Every running subtotal is within the money bound. -/
  prefixes : ∀ k, subtotal (xs.take k) ≤ maxMoney.val
  total : |subtotal xs + tax (subtotal xs) (roundHalfAway 4 taxRate) - roundHalfAway 2 discount| ≤
    maxMoney.val

/-- The figures the formulas give. -/
def figures (xs : List (ℚ × ℚ)) (taxRate discount : ℚ) : Figures :=
  let t := roundHalfAway 4 taxRate
  let d := roundHalfAway 2 discount
  ⟨xs.map lineOf, subtotal xs, t, tax (subtotal xs) t, d, subtotal xs + tax (subtotal xs) t - d⟩

theorem LineFits.amount_nonneg {x : ℚ × ℚ} (h : LineFits x) : 0 ≤ amount x :=
  roundHalfAway_nonneg 2 (mul_nonneg h.1 h.2.1)

theorem line_ok_iff {n : ℕ} {x : ℚ × ℚ} {l : ℚ × ℚ × ℚ} :
    line n x = .ok l ↔ LineFits x ∧ l = lineOf x := by
  unfold line LineFits
  split_ifs with h1 h2 h3 h4 h5
  · exact iff_of_false (by simp) fun h => not_lt.mpr h.1.1 h1
  · exact iff_of_false (by simp) fun h => not_lt.mpr h.1.2.1 h2
  · exact iff_of_false (by simp) fun h => not_lt.mpr h.1.2.2.1 h3
  · exact iff_of_false (by simp) fun h => not_lt.mpr h.1.2.2.2.1 h4
  · exact iff_of_false (by simp) fun h => not_lt.mpr h.1.2.2.2.2 h5
  · rw [Except.ok.injEq, eq_comm]
    exact ⟨fun h => ⟨⟨not_lt.mp h1, not_lt.mp h2, not_lt.mp h3, not_lt.mp h4, not_lt.mp h5⟩, h⟩,
      And.right⟩

theorem line_error_of_not {n : ℕ} {x : ℚ × ℚ} (h : ¬ LineFits x) : ∃ e, line n x = .error e := by
  cases hl : line n x with
  | error e => exact ⟨e, rfl⟩
  | ok l => exact absurd (line_ok_iff.mp hl).1 h

@[simp] theorem subtotal_nil : subtotal [] = 0 := rfl

@[simp] theorem subtotal_cons (x : ℚ × ℚ) (xs : List (ℚ × ℚ)) :
    subtotal (x :: xs) = amount x + subtotal xs := by
  simp [subtotal]

/-- The items pass, from a running subtotal within the bound, exactly when each passes and every
running subtotal stays within the bound; they then give their lines and add their amounts. -/
theorem lines_ok_iff {n : ℕ} {sub : ℚ} {xs : List (ℚ × ℚ)} {r : List (ℚ × ℚ × ℚ) × ℚ}
    (hsub : sub ≤ maxMoney.val) :
    lines n sub xs = .ok r ↔ (∀ x ∈ xs, LineFits x) ∧
      (∀ k, sub + subtotal (xs.take k) ≤ maxMoney.val) ∧ r = (xs.map lineOf, sub + subtotal xs) := by
  induction xs generalizing n sub r with
  | nil =>
    simp only [lines_nil, Except.ok.injEq, List.not_mem_nil, IsEmpty.forall_iff, implies_true,
      List.take_nil, subtotal_nil, add_zero, hsub, List.map_nil, true_and]
    exact eq_comm
  | cons x rest ih =>
    rw [lines_cons]
    by_cases hx : LineFits x
    · rw [(line_ok_iff (n := n)).mpr ⟨hx, rfl⟩]
      dsimp only
      simp only [lineOf]
      by_cases hover : maxMoney.val < sub + amount x
      · -- the running subtotal after this item is too large: so is the prefix of length one
        simp only [hover, if_true, reduceCtorEq, false_iff, not_and]
        intro _ hk
        have := hk 1
        simp only [List.take_succ_cons, List.take_zero, subtotal_cons, subtotal_nil, add_zero] at this
        linarith
      · simp only [hover, if_false]
        cases hrest : lines (n + 1) (sub + amount x) rest with
        | error e =>
          simp only [Except.map, reduceCtorEq, false_iff, not_and]
          intro hall hk
          -- every item passes and every prefix stays within the bound: the rest would pass
          have hok := (ih (n := n + 1) (r := (rest.map lineOf, sub + amount x + subtotal rest))
            (not_lt.mp hover)).mpr ⟨fun y hy => hall y (List.mem_cons_of_mem _ hy), fun k => by
              have := hk (k + 1)
              simp only [List.take_succ_cons, subtotal_cons] at this
              linarith, rfl⟩
          rw [hrest] at hok
          cases hok
        | ok r' =>
          obtain ⟨hall, hk, rfl⟩ := (ih (not_lt.mp hover)).mp hrest
          -- the prefixes of the whole list: the empty one, and this item before a prefix of the rest
          have hprefix : ∀ k, sub + subtotal ((x :: rest).take k) ≤ maxMoney.val := by
            intro k
            cases k with
            | zero => simpa using hsub
            | succ k =>
              have := hk k
              simp only [List.take_succ_cons, subtotal_cons]
              linarith
          simp only [Except.map, Except.ok.injEq, List.mem_cons, forall_eq_or_imp, hx, implies_true,
            hprefix, true_and, List.map_cons, lineOf, subtotal_cons, add_assoc]
          exact ⟨fun h => ⟨hall, h.symm⟩, fun h => h.2.symm⟩
    · obtain ⟨e, he⟩ := line_error_of_not (n := n) hx
      rw [he]
      simp only [reduceCtorEq, false_iff, not_and]
      intro hall
      exact absurd (hall x List.mem_cons_self) hx

/-- The formulas accept exactly the figures that pass every check, and then give their figures. -/
theorem price_ok_iff {xs : List (ℚ × ℚ)} {taxRate discount : ℚ} {V : Figures} :
    price xs taxRate discount = .ok V ↔
      Accepts xs taxRate discount ∧ V = figures xs taxRate discount := by
  unfold price
  dsimp only
  by_cases hr : roundHalfAway 4 taxRate < 0 ∨ 100 < roundHalfAway 4 taxRate
  · rw [if_pos hr]
    refine iff_of_false (by simp) fun ⟨h, _⟩ => ?_
    rcases hr with hr | hr <;> linarith [h.rateInRange.1, h.rateInRange.2]
  rw [if_neg hr]
  by_cases hd : roundHalfAway 2 discount < 0
  · rw [if_pos hd]
    exact iff_of_false (by simp) fun ⟨h, _⟩ => not_lt.mpr h.discountInRange.1 hd
  rw [if_neg hd]
  by_cases hdm : maxMoney.val < roundHalfAway 2 discount
  · rw [if_pos hdm]
    exact iff_of_false (by simp) fun ⟨h, _⟩ => not_lt.mpr h.discountInRange.2 hdm
  rw [if_neg hdm]
  have hrate : 0 ≤ roundHalfAway 4 taxRate ∧ roundHalfAway 4 taxRate ≤ 100 :=
    ⟨not_lt.mp (not_or.mp hr).1, not_lt.mp (not_or.mp hr).2⟩
  have hdisc : 0 ≤ roundHalfAway 2 discount ∧ roundHalfAway 2 discount ≤ maxMoney.val :=
    ⟨not_lt.mp hd, not_lt.mp hdm⟩
  cases hl : lines 1 0 xs with
  | error e =>
    refine iff_of_false (by simp) fun ⟨h, _⟩ => ?_
    -- accepted items would pass
    have hok := (lines_ok_iff (n := 1) (r := (xs.map lineOf, 0 + subtotal xs))
      maxMoney_pos.le).mpr ⟨h.linesFit, fun k => by simpa using h.prefixes k, rfl⟩
    rw [hl] at hok
    cases hok
  | ok r =>
    obtain ⟨hfit, hpre, rfl⟩ := (lines_ok_iff maxMoney_pos.le).mp hl
    simp only [zero_add]
    by_cases ht : maxMoney.val < |subtotal xs + tax (subtotal xs) (roundHalfAway 4 taxRate) -
        roundHalfAway 2 discount|
    · rw [if_pos ht]
      exact iff_of_false (by simp) fun ⟨h, _⟩ => not_lt.mpr h.total ht
    · rw [if_neg ht, Except.ok.injEq, eq_comm]
      have hacc : Accepts xs taxRate discount :=
        ⟨hrate, hdisc, hfit, fun k => by simpa using hpre k, not_lt.mp ht⟩
      exact ⟨fun h => ⟨hacc, h⟩, And.right⟩

end Formula

/-- Rounding keeps the order of values that are not negative. -/
theorem roundHalfAway_mono {dp : ℕ} {x y : ℚ} (h0 : 0 ≤ x) (hxy : x ≤ y) :
    roundHalfAway dp x ≤ roundHalfAway dp y := by
  unfold roundHalfAway
  rw [if_neg (not_lt.mpr h0), if_neg (not_lt.mpr (h0.trans hxy))]
  have hr : round (x * 10 ^ dp) ≤ round (y * 10 ^ dp) := by
    rw [round_eq, round_eq]
    exact Int.floor_le_floor (by gcongr)
  have hr' : ((round (x * 10 ^ dp) : ℤ) : ℚ) ≤ round (y * 10 ^ dp) := by exact_mod_cast hr
  exact div_le_div_of_nonneg_right hr' (by positivity)

/-- The tax on a subtotal that is not negative, at a rate of at most a hundred, is at most the
subtotal, when the subtotal has at most two places. -/
theorem tax_le {S t : ℚ} (z : ℤ) (hz : S * 10 ^ 2 = z) (hS : 0 ≤ S) (ht0 : 0 ≤ t) (ht : t ≤ 100) :
    Formula.tax S t ≤ S := by
  have hle : S * t / 100 ≤ S := by
    rw [div_le_iff₀ (by norm_num)]
    nlinarith
  calc Formula.tax S t ≤ roundHalfAway 2 S :=
        roundHalfAway_mono (div_nonneg (mul_nonneg hS ht0) (by norm_num)) hle
    _ = S := roundHalfAway_eq_self z hz

theorem Formula.subtotal_nonneg {xs : List (ℚ × ℚ)} (h : ∀ x ∈ xs, Formula.LineFits x) :
    0 ≤ Formula.subtotal xs :=
  List.sum_nonneg fun a ha => by
    obtain ⟨x, hx, rfl⟩ := List.mem_map.mp ha
    exact (h x hx).amount_nonneg

/-! ## Products that always come out -/

namespace Decimal

theorem Tie.divRound_le (t : Tie) (n d : ℕ) : t.divRound n d ≤ n / d + 1 := by
  cases t <;> simp only [Tie.divRound] <;> split <;> omega

/-- `leastFitting` finds a number of digits to drop whenever some number in its range makes the
mantissa fit, and finds one at most that large. -/
theorem leastFitting_isSome {m k fuel i : ℕ} (hi : i < fuel) (hfit : m / 10 ^ (k + i) < mantLimit) :
    ∃ j, leastFitting m k fuel = some j ∧ j ≤ k + i := by
  induction fuel generalizing k i with
  | zero => omega
  | succ fuel ih =>
    unfold leastFitting
    split
    · exact ⟨k, rfl, by omega⟩
    · rename_i hk
      -- dropping `k` digits is not enough, so more are needed and `i` is not zero
      cases i with
      | zero => exact absurd hfit (by simpa using hk)
      | succ i =>
        obtain ⟨j, hj, hjle⟩ := ih (k := k + 1) (i := i) (by omega)
          (by rwa [show k + 1 + i = k + (i + 1) by omega])
        exact ⟨j, hj, by omega⟩

/-- An exact value whose whole part, plus one, fits in a mantissa is brought into range. -/
theorem fit_isSome (neg : Bool) {m s : ℕ} (hs : s ≤ maxScale) (hm : m / 10 ^ s + 1 < mantLimit) :
    ∃ d, fit neg m s = some d := by
  have h0 : s - maxScale = 0 := Nat.sub_eq_zero_of_le hs
  obtain ⟨j, hj, hjs⟩ : ∃ j, leastFitting m 0 (s + 1) = some j ∧ j ≤ 0 + s :=
    leastFitting_isSome (by omega) (by rw [Nat.zero_add]; omega)
  unfold fit
  rw [h0, Nat.sub_zero, hj]
  dsimp only
  split
  · exact ⟨_, rfl⟩
  split
  · exact ⟨_, rfl⟩
  · -- no digit is left to drop: then all of the fraction was dropped, and the whole part fits
    rename_i hr hjs'
    have hjeq : j = s := by omega
    subst hjeq
    have := Tie.divRound_le .toEven m (Nat.pow 10 j)
    simp only [Nat.pow_eq] at this hr
    omega

/-- A product whose whole part, plus one, fits in a mantissa comes out. -/
theorem mul_isSome {a b : Decimal} (hs : a.scale + b.scale ≤ maxScale)
    (hm : a.mant * b.mant / 10 ^ (a.scale + b.scale) + 1 < mantLimit) : ∃ c, mul a b = some c := by
  unfold mul
  split
  · exact ⟨_, rfl⟩
  split
  · exact ⟨_, rfl⟩
  · exact fit_isSome _ hs hm

end Decimal

/-! ## Pricing an item -/

section Item

variable {q p c : Decimal}

/-- The mantissa of a product at the summed scale is the magnitude of the product. -/
theorem mant_mul_eq (q p : Decimal) :
    ((q.mant * p.mant : ℕ) : ℚ) = |q.val * p.val| * 10 ^ (q.scale + p.scale) := by
  push_cast
  rw [mant_eq, mant_eq, abs_mul, pow_add]
  ring

/-- A quantity and a unit price within their maxima have a product that comes out: its whole
part is below `10 ^ 22`. -/
theorem mul_isSome_of_le (hqs : q.scale ≤ 4) (hps : p.scale ≤ 4) (hq0 : 0 ≤ q.val)
    (hp0 : 0 ≤ p.val) (hqm : q.val ≤ maxQuantity.val) (hpm : p.val ≤ maxUnitPrice.val) :
    ∃ c, mul q p = some c := by
  have hpos : (0 : ℚ) < 10 ^ (q.scale + p.scale) := by positivity
  have hprod : q.val * p.val < 10 ^ 22 := by
    have hq : maxQuantity.val < 10 ^ 10 := by norm_num [maxQuantity, val_eq]
    have hp : maxUnitPrice.val < 10 ^ 12 := by norm_num [maxUnitPrice, val_eq]
    calc q.val * p.val ≤ maxQuantity.val * maxUnitPrice.val :=
          mul_le_mul hqm hpm hp0 (hq0.trans hqm)
      _ < 10 ^ 10 * 10 ^ 12 := by
          apply mul_lt_mul'' hq hp (hq0.trans hqm) (hp0.trans hpm)
      _ = 10 ^ 22 := by norm_num
  have hwhole : q.mant * p.mant / 10 ^ (q.scale + p.scale) < 10 ^ 22 := by
    have hcast : ((q.mant * p.mant / 10 ^ (q.scale + p.scale) : ℕ) : ℚ) < 10 ^ 22 := by
      calc ((q.mant * p.mant / 10 ^ (q.scale + p.scale) : ℕ) : ℚ)
          ≤ ((q.mant * p.mant : ℕ) : ℚ) / ((10 ^ (q.scale + p.scale) : ℕ) : ℚ) := Nat.cast_div_le
        _ = q.val * p.val := by
          rw [mant_mul_eq, abs_of_nonneg (mul_nonneg hq0 hp0)]
          push_cast
          field_simp
        _ < 10 ^ 22 := hprod
    exact_mod_cast hcast
  exact mul_isSome (by simp only [maxScale]; omega) (by
    have : (10 : ℕ) ^ 22 + 1 < mantLimit := by simp only [mantLimit, Nat.pow_eq]; norm_num
    omega)

/-- A product of two figures of at most four places whose exact mantissa is wider than 96 bits is
at least `2 ^ 96 / 10 ^ 8`, far beyond the money bound. -/
theorem wide_product_beyond_money (hqs : q.scale ≤ 4) (hps : p.scale ≤ 4) (hq0 : 0 ≤ q.val)
    (hp0 : 0 ≤ p.val) (hwide : mantLimit ≤ q.mant * p.mant) :
    maxMoney.val + 2 < q.val * p.val := by
  have hbig : (mantLimit : ℚ) / 10 ^ 8 ≤ q.val * p.val := by
    have h8 : (10 : ℚ) ^ (q.scale + p.scale) ≤ 10 ^ 8 :=
      pow_le_pow_right₀ (by norm_num) (by omega)
    have hm : (mantLimit : ℚ) ≤ |q.val * p.val| * 10 ^ (q.scale + p.scale) := by
      rw [← mant_mul_eq]
      exact_mod_cast hwide
    rw [div_le_iff₀ (by positivity), ← abs_of_nonneg (mul_nonneg hq0 hp0)]
    calc (mantLimit : ℚ) ≤ |q.val * p.val| * 10 ^ (q.scale + p.scale) := hm
      _ ≤ |q.val * p.val| * 10 ^ 8 := by gcongr
  have hlimit : maxMoney.val + 2 < (mantLimit : ℚ) / 10 ^ 8 := by
    norm_num [mantLimit]
  linarith

/-- The amount check on the product as computed is the check on the exact product, and an amount
that passes is the exact product rounded: a product too wide to be exact is beyond the money
bound either way. -/
theorem amount_check (hqs : q.scale ≤ 4) (hps : p.scale ≤ 4) (hq0 : 0 ≤ q.val) (hp0 : 0 ≤ p.val)
    (hc : mul q p = some c) :
    (maxMoney < (roundMoney c).abs ↔ maxMoney.val < roundHalfAway 2 (q.val * p.val)) ∧
      (roundHalfAway 2 (q.val * p.val) ≤ maxMoney.val →
        (roundMoney c).val = roundHalfAway 2 (q.val * p.val)) := by
  have hround : (roundMoney c).val = roundHalfAway 2 c.val := val_roundDp_away _ _
  have hx0 : 0 ≤ roundHalfAway 2 (q.val * p.val) := roundHalfAway_nonneg 2 (mul_nonneg hq0 hp0)
  rw [lt_iff_val, val_abs, hround]
  by_cases hfits : q.mant * p.mant < mantLimit
  · obtain ⟨hval, -, -⟩ := mul_exact hc (by simp only [maxScale]; omega) hfits
    rw [hval, abs_of_nonneg hx0]
    exact ⟨Iff.rfl, fun _ => rfl⟩
  · have hbig := wide_product_beyond_money hqs hps hq0 hp0 (not_lt.mp hfits)
    have hc' : q.val * p.val < |c.val| + 1 := by
      have hlow := mul_lower hc
      rw [mant_mul_eq, abs_of_nonneg (mul_nonneg hq0 hp0)] at hlow
      rwa [mul_div_assoc, div_self (by positivity), mul_one] at hlow
    have hcr := roundHalfAway_abs_ge 2 c.val
    have hxr := roundHalfAway_abs_ge 2 (q.val * p.val)
    rw [abs_of_nonneg hx0, abs_of_nonneg (mul_nonneg hq0 hp0)] at hxr
    refine ⟨iff_of_true (by linarith) (by linarith), fun h => absurd h (not_le.mpr ?_)⟩
    linarith

/-- Pricing an item answers as the formulas on its values. -/
theorem priceItem_figures (n : ℕ) (quantity unitPrice : Decimal) :
    (priceItem n quantity unitPrice).map PricedLine.figures =
      Formula.line n (quantity.val, unitPrice.val) := by
  have hq : (roundRate quantity).val = roundHalfAway 4 quantity.val := val_roundDp_away _ _
  have hp : (roundRate unitPrice).val = roundHalfAway 4 unitPrice.val := val_roundDp_away _ _
  have hqs : (roundRate quantity).scale ≤ 4 := roundDp_scale_le _ _ _
  have hps : (roundRate unitPrice).scale ≤ 4 := roundDp_scale_le _ _ _
  unfold priceItem Formula.line Formula.lineOf Formula.amount
  dsimp only
  rw [← hq, ← hp]
  generalize roundRate quantity = q at hqs ⊢
  generalize roundRate unitPrice = p at hps ⊢
  simp only [bind, Except.bind, pure, Except.pure, throw, throwThe, MonadExceptOf.throw, lt_iff_val,
    val_zero]
  -- the four checks on the quantity and the unit price are the formulas' checks
  by_cases h1 : q.val < 0
  · simp only [h1, if_true, Except.map]
  by_cases h2 : p.val < 0
  · simp only [h1, h2, if_true, if_false, Except.map]
  by_cases h3 : maxQuantity.val < q.val
  · simp only [h1, h2, h3, if_true, if_false, Except.map]
  by_cases h4 : maxUnitPrice.val < p.val
  · simp only [h1, h2, h3, h4, if_true, if_false, Except.map]
  -- then the product comes out, and its amount is checked as the exact one
  obtain ⟨c, hc⟩ := mul_isSome_of_le hqs hps (not_lt.mp h1) (not_lt.mp h2) (not_lt.mp h3)
    (not_lt.mp h4)
  obtain ⟨hiff, hval⟩ := amount_check hqs hps (not_lt.mp h1) (not_lt.mp h2) hc
  simp only [h1, h2, h3, h4, if_false, orOverflow, hc, checkMoney]
  by_cases h5 : maxMoney.val < roundHalfAway 2 (q.val * p.val)
  · simp only [hiff.mpr h5, h5, if_true, Except.map]
  · simp only [mt hiff.mp h5, h5, if_false, Except.map, PricedLine.figures, hval (not_lt.mp h5)]

end Item

/-! ## Pricing the items and the invoice -/

/-- Pricing the items after a running subtotal within the money bound answers as the formulas on
their values: the same lines, the same subtotal, or the same first failure. -/
theorem priceItems_figures (n : ℕ) (sub : Decimal) (items : List (Decimal × Decimal))
    (hs : sub.scale ≤ 2) (h0 : 0 ≤ sub.val) (hM : sub.val ≤ maxMoney.val) :
    (priceItems n sub items).map (fun r => (r.1.map PricedLine.figures, r.2.val)) =
      Formula.lines n sub.val (items.map fun x => (x.1.val, x.2.val)) := by
  induction items generalizing n sub with
  | nil => rfl
  | cons x rest ih =>
    obtain ⟨q, p⟩ := x
    have hitem := priceItem_figures n q p
    simp only [priceItems, Formula.lines_cons, List.map_cons, bind, Except.bind]
    cases hl : priceItem n q p with
    | error e =>
      rw [hl] at hitem
      rw [← hitem]
      rfl
    | ok line =>
      rw [hl] at hitem
      rw [← hitem]
      dsimp only [Except.map]
      obtain ⟨-, -, hexact, hbound, hq0, hp0⟩ := priceItem_ok hl
      have ha0 : 0 ≤ line.amount.val := by
        rw [hexact.amount]
        exact roundHalfAway_nonneg 2 (mul_nonneg hq0 hp0)
      rw [abs_of_nonneg ha0] at hbound
      have hsum0 : 0 ≤ sub.val + line.amount.val := add_nonneg h0 ha0
      -- the running subtotal is added exactly
      obtain ⟨c, hc, hcv, hcs⟩ := add_money_some hs hexact.amount_scale (by
        rw [abs_of_nonneg hsum0]
        linarith [maxMoney_pos])
      simp only [orOverflow, hc, checkMoney, lt_iff_val, val_abs, hcv, abs_of_nonneg hsum0,
        PricedLine.figures]
      by_cases hover : maxMoney.val < sub.val + line.amount.val
      · simp only [hover, if_true]
      · simp only [hover, if_false]
        have ih' := ih (n + 1) c hcs (hcv ▸ hsum0) (hcv ▸ not_lt.mp hover)
        rw [hcv] at ih'
        rw [← ih']
        cases priceItems (n + 1) c rest <;> rfl

/-- The tax on a subtotal within the money bound, at a rate between 0 and 100, comes out
exactly: the product and the division by a hundred lose nothing, and the tax is not negative and
at most the subtotal. -/
theorem tax_some {S t : Decimal} (hSs : S.scale ≤ 2) (hS0 : 0 ≤ S.val) (hSb : S.val ≤ maxMoney.val)
    (hts : t.scale ≤ 4) (hr0 : 0 ≤ t.val) (hr100 : t.val ≤ 100) :
    ∃ taxed tx, mul S t = some taxed ∧ div taxed hundred = some tx ∧
      (roundMoney tx).val = Formula.tax S.val t.val ∧ 0 ≤ (roundMoney tx).val ∧
        (roundMoney tx).val ≤ S.val := by
  have hfits := taxed_fits hSs (by rwa [abs_of_nonneg hS0]) hts hr0 hr100
  obtain ⟨taxed, htaxed, htaxedv, htaxedm, htaxeds⟩ :=
    mul_some (by simp only [maxScale]; omega) hfits
  obtain ⟨tx, htx, htxv⟩ := div_hundred_some (by simp only [maxScale]; omega) (htaxedm ▸ hfits)
  have htaxr : (roundMoney tx).val = Formula.tax S.val t.val := by
    rw [roundMoney, val_roundDp_away, htxv, htaxedv]
    rfl
  refine ⟨taxed, tx, htaxed, htx, htaxr, ?_, ?_⟩
  · rw [htaxr]
    exact roundHalfAway_nonneg 2 (div_nonneg (mul_nonneg hS0 hr0) (by norm_num))
  · rw [htaxr]
    exact tax_le _ (val_mul_pow S hSs) hS0 hr0 hr100

/-- A subtotal and a tax within the money bound, less a discount within it, add up exactly. -/
theorem total_some {S x d : Decimal} (hSs : S.scale ≤ 2) (hxs : x.scale ≤ 2) (hds : d.scale ≤ 2)
    (hS0 : 0 ≤ S.val) (hSb : S.val ≤ maxMoney.val) (hx0 : 0 ≤ x.val) (hxb : x.val ≤ maxMoney.val)
    (hd0 : 0 ≤ d.val) (hdb : d.val ≤ maxMoney.val) :
    ∃ gross total, add S x = some gross ∧ add gross d.negate = some total ∧
      total.val = S.val + x.val - d.val := by
  obtain ⟨gross, hgross, hgv, hgs⟩ := add_money_some hSs hxs (by
    rw [abs_of_nonneg (by linarith)]
    linarith)
  obtain ⟨total, htot, htotv, -⟩ := add_money_some (b := d.negate) hgs
    (by simpa [negate] using hds) (by
      rw [val_negate, hgv, ← sub_eq_add_neg]
      calc |S.val + x.val - d.val| ≤ |S.val + x.val| + |d.val| := abs_sub _ _
        _ ≤ 3 * maxMoney.val := by
            rw [abs_of_nonneg (by linarith), abs_of_nonneg hd0]
            linarith)
  exact ⟨gross, total, hgross, htot, by rw [htotv, val_negate, hgv, ← sub_eq_add_neg]⟩

/-- Pricing an invoice answers as the formulas on its values: the same figures, or the same first
failure. No figure overflows, and the tax never fails its check. -/
theorem calculate_figures (items : List (Decimal × Decimal)) (taxRate discount : Decimal) :
    (calculate items taxRate discount).map Totals.figures =
      Formula.price (items.map fun x => (x.1.val, x.2.val)) taxRate.val discount.val := by
  have ht : (roundRate taxRate).val = roundHalfAway 4 taxRate.val := val_roundDp_away _ _
  have hd : (roundMoney discount).val = roundHalfAway 2 discount.val := val_roundDp_away _ _
  have hts : (roundRate taxRate).scale ≤ 4 := roundDp_scale_le _ _ _
  have hds : (roundMoney discount).scale ≤ 2 := roundDp_scale_le _ _ _
  have hM := maxMoney_pos
  have hitems := priceItems_figures 1 zero items (by simp [zero]) (by simp)
    (by simpa using hM.le)
  rw [val_zero] at hitems
  unfold calculate Formula.price
  dsimp only
  rw [← ht, ← hd]
  generalize roundRate taxRate = t at hts ⊢
  generalize roundMoney discount = d at hds ⊢
  simp only [bind, Except.bind, pure, Except.pure, throw, throwThe, MonadExceptOf.throw, lt_iff_val,
    val_zero, val_hundred]
  -- the rate, then the discount
  by_cases hr : t.val < 0 ∨ 100 < t.val
  · simp only [hr, if_true, Except.map]
  have hr0 : 0 ≤ t.val := not_lt.mp (not_or.mp hr).1
  have hr100 : t.val ≤ 100 := not_lt.mp (not_or.mp hr).2
  by_cases hneg : d.val < 0
  · simp only [hr, hneg, if_true, if_false, Except.map]
  have hd0 : 0 ≤ d.val := not_lt.mp hneg
  simp only [hr, hneg, if_false, checkMoney, lt_iff_val, val_abs, abs_of_nonneg hd0]
  by_cases hdm : maxMoney.val < d.val
  · simp only [hdm, if_true, Except.map]
  simp only [hdm, if_false]
  -- then the items
  cases hres : priceItems 1 zero items with
  | error e =>
    rw [hres] at hitems
    rw [← hitems]
    rfl
  | ok res =>
    obtain ⟨ls, S⟩ := res
    rw [hres] at hitems
    rw [← hitems]
    dsimp only [Except.map]
    obtain ⟨-, -, -, hSs, hSb, -⟩ := priceItems_ok hres (by simp [zero]) (by simpa using hM.le)
    have hS0 : 0 ≤ S.val := by
      obtain ⟨hfit, -, hr'⟩ := (Formula.lines_ok_iff (by simpa using hM.le)).mp hitems.symm
      rw [(Prod.mk.inj hr').2, zero_add]
      exact Formula.subtotal_nonneg hfit
    rw [abs_of_nonneg hS0] at hSb
    -- the tax comes out exactly and passes its check; the total is added exactly
    obtain ⟨taxed, tx, htaxed, htx, htaxr, htax0, htaxle⟩ := tax_some hSs hS0 hSb hts hr0 hr100
    have htcheck : ¬ maxMoney.val < |(roundMoney tx).val| := by
      rw [abs_of_nonneg htax0]
      exact not_lt.mpr (by linarith)
    obtain ⟨gross, total, hgross, htot, htotv⟩ := total_some (x := roundMoney tx) hSs
      (roundDp_scale_le _ _ _) hds hS0 hSb htax0 (by linarith) hd0 (not_lt.mp hdm)
    have htotal : total.val = S.val + Formula.tax S.val t.val - d.val := by rw [htotv, htaxr]
    simp only [orOverflow, htaxed, htx, htcheck, if_false, hgross, Decimal.sub, htot, htotal]
    by_cases hover : maxMoney.val < |S.val + Formula.tax S.val t.val - d.val|
    · simp only [hover, if_true]
    · simp only [hover, if_false, Totals.figures, htaxr, htotal]

/-- A refusal of pricing reaches the service as invalid input with the refusal's message. -/
theorem price_figures (items : List (Decimal × Decimal)) (taxRate discount : Decimal) :
    (Service.price items taxRate discount).map Totals.figures =
      (Formula.price (items.map fun x => (x.1.val, x.2.val)) taxRate.val discount.val).mapError
        fun e => .invalidInput e.message := by
  rw [← calculate_figures]
  unfold Service.price
  cases calculate items taxRate discount <;> rfl

/-- Pricing follows its formulas: it answers what the formulas answer on the values of its
inputs, a refusal as invalid input with the message of the first failing check; it succeeds
exactly when the figures pass every check, said of the figures themselves; and it then gives the
formulas' figures, each kept to its column's places. -/
theorem calculate_follows_formulas (items : List (Decimal × Decimal)) (taxRate discount : Decimal) :
    (Service.price items taxRate discount).map Totals.figures =
        (Formula.price (items.map fun x => (x.1.val, x.2.val)) taxRate.val discount.val).mapError
          (fun e => .invalidInput e.message) ∧
      ((∃ T, Service.price items taxRate discount = .ok T) ↔
        Formula.Accepts (items.map fun x => (x.1.val, x.2.val)) taxRate.val discount.val) ∧
      ∀ T, Service.price items taxRate discount = .ok T →
        T.figures = Formula.figures (items.map fun x => (x.1.val, x.2.val)) taxRate.val discount.val ∧
          T.Exact := by
  have hfig := calculate_figures items taxRate discount
  -- the service answers what pricing answers, a refusal turned into invalid input
  have hprice : ∀ T, Service.price items taxRate discount = .ok T ↔
      calculate items taxRate discount = .ok T := by
    intro T
    unfold Service.price
    cases calculate items taxRate discount <;> simp [Except.mapError]
  refine ⟨price_figures items taxRate discount, ⟨fun ⟨T, hT⟩ => ?_, fun hacc => ?_⟩,
    fun T hT => ?_⟩
  · rw [(hprice T).mp hT] at hfig
    exact (Formula.price_ok_iff.mp hfig.symm).1
  · -- the formulas accept, so they answer with figures, and so does pricing
    cases hT : calculate items taxRate discount with
    | error e =>
      rw [hT] at hfig
      have hok := Formula.price_ok_iff.mpr ⟨hacc, rfl⟩
      rw [← hfig] at hok
      cases hok
    | ok T => exact ⟨T, (hprice T).mpr hT⟩
  · have hc := (hprice T).mp hT
    rw [hc] at hfig
    exact ⟨(Formula.price_ok_iff.mp hfig.symm).2, (calculate_ok hc).2.1⟩

end Invoicing
