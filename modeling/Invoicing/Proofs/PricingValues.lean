import Invoicing.Proofs.PricingFormulas

/-!
# What pricing looks at

Pricing decides on the values of its inputs alone. Its answers are the formulas' answers on those
values (`calculate_figures`), and the formulas never overflow and never refuse a tax: a refusal of
pricing is always one of the checks of a rate, a discount, an item or a total
(`calculate_error_isCheck`). The only step that may round on the way is the product of a quantity
and a unit price, and it does so only when the exact product is wider than 96 bits, which the
amount check then refuses (`product_exact_or_refused`).

Pricing also takes its own output back as it is. Rounding to a number of places leaves a figure
that already has no more places untouched, scale included (`Decimal.roundDp_roundDp`), so pricing
the rounded quantities and unit prices under the rounded rate and discount is pricing the inputs
(`calculate_rounded`), and the lines, rate and discount of a priced invoice price to that very
invoice (`calculate_own_output`).

What is proved here:
* `calculate_never_overflows`: no overflow and no refused tax; products round only when refused;
  the figures of a priced invoice are the formulas' figures, and its tax is at most its subtotal,
  which is within the money bound.
* `calculate_reads_values`: inputs of equal values are priced alike, the same refusal or figures
  of equal values, and a priced invoice prices to itself.
-/

namespace Invoicing

open Decimal

/-! ## Refusals are checks -/

namespace Formula

/-- A refusal of one item is one of the item's checks. -/
theorem line_error_isCheck {n : ℕ} {x : ℚ × ℚ} {e : PricingError} (h : line n x = .error e) :
    e ≠ .overflow ∧ e ≠ .moneyTooLarge .taxAmount := by
  unfold line at h
  split_ifs at h <;> cases h <;> simp

/-- A refusal of the items is a check of one item or of a running subtotal. -/
theorem lines_error_isCheck {n : ℕ} {sub : ℚ} {xs : List (ℚ × ℚ)} {e : PricingError}
    (h : lines n sub xs = .error e) : e ≠ .overflow ∧ e ≠ .moneyTooLarge .taxAmount := by
  induction xs generalizing n sub with
  | nil => cases h
  | cons x rest ih =>
    rw [lines_cons] at h
    split at h
    · rename_i e' hline
      cases h
      exact line_error_isCheck hline
    · split at h
      · cases h
        simp
      · -- the rest of the items refused
        cases hrest : lines (n + 1) (sub + _) rest with
        | error e' =>
          rw [hrest] at h
          cases h
          exact ih hrest
        | ok r => rw [hrest] at h; cases h

/-- A refusal of the formulas is a check of the rate, the discount, the items or the total. -/
theorem price_error_isCheck {xs : List (ℚ × ℚ)} {taxRate discount : ℚ} {e : PricingError}
    (h : price xs taxRate discount = .error e) : e ≠ .overflow ∧ e ≠ .moneyTooLarge .taxAmount := by
  unfold price at h
  dsimp only at h
  split_ifs at h
  · cases h; simp
  · cases h; simp
  · cases h; simp
  · split at h
    · rename_i e' hlines
      cases h
      exact lines_error_isCheck hlines
    · split_ifs at h
      cases h
      simp

end Formula

/-- Pricing never overflows and never refuses a tax: every refusal is one the formulas give. -/
theorem calculate_error_isCheck {items : List (Decimal × Decimal)} {taxRate discount : Decimal}
    {e : PricingError} (h : calculate items taxRate discount = .error e) :
    e ≠ .overflow ∧ e ≠ .moneyTooLarge .taxAmount := by
  have hfig := calculate_figures items taxRate discount
  rw [h] at hfig
  exact Formula.price_error_isCheck hfig.symm

/-! ## The one product that may round -/

/-- The product of a quantity and a unit price that passed their checks comes out, and exactly,
unless its exact mantissa is wider than 96 bits; then the item is refused for its amount. -/
theorem product_exact_or_refused (n : ℕ) (quantity unitPrice : Decimal)
    (hq0 : 0 ≤ (roundRate quantity).val) (hp0 : 0 ≤ (roundRate unitPrice).val)
    (hqm : (roundRate quantity).val ≤ maxQuantity.val)
    (hpm : (roundRate unitPrice).val ≤ maxUnitPrice.val) :
    ∃ c, mul (roundRate quantity) (roundRate unitPrice) = some c ∧
      (c.val = (roundRate quantity).val * (roundRate unitPrice).val ∨
        mantLimit ≤ (roundRate quantity).mant * (roundRate unitPrice).mant ∧
          priceItem n quantity unitPrice = .error (.moneyTooLarge (.itemAmount n))) := by
  have hqs : (roundRate quantity).scale ≤ 4 := roundDp_scale_le _ _ _
  have hps : (roundRate unitPrice).scale ≤ 4 := roundDp_scale_le _ _ _
  obtain ⟨c, hc⟩ := mul_isSome_of_le hqs hps hq0 hp0 hqm hpm
  refine ⟨c, hc, ?_⟩
  by_cases hfits : (roundRate quantity).mant * (roundRate unitPrice).mant < mantLimit
  · exact .inl (mul_exact hc (by simp only [maxScale]; omega) hfits).1
  refine .inr ⟨not_lt.mp hfits, ?_⟩
  -- the exact product is far beyond the money bound, so the formulas refuse the amount
  have hbig := wide_product_beyond_money hqs hps hq0 hp0 (not_lt.mp hfits)
  have hq : roundHalfAway 4 quantity.val = (roundRate quantity).val := (val_roundDp_away _ _).symm
  have hp : roundHalfAway 4 unitPrice.val = (roundRate unitPrice).val := (val_roundDp_away _ _).symm
  have hamount : maxMoney.val < Formula.amount (quantity.val, unitPrice.val) := by
    have hround := roundHalfAway_abs_ge 2 ((roundRate quantity).val * (roundRate unitPrice).val)
    rw [abs_of_nonneg (mul_nonneg hq0 hp0),
      abs_of_nonneg (roundHalfAway_nonneg 2 (mul_nonneg hq0 hp0))] at hround
    rw [Formula.amount, hq, hp]
    linarith
  have hline : Formula.line n (quantity.val, unitPrice.val) =
      .error (.moneyTooLarge (.itemAmount n)) := by
    simp only [Formula.line, hq, hp, not_lt.mpr hq0, not_lt.mpr hp0, not_lt.mpr hqm,
      not_lt.mpr hpm, hamount, if_true, if_false]
  have hfig := priceItem_figures n quantity unitPrice
  rw [hline] at hfig
  cases hitem : priceItem n quantity unitPrice with
  | error e =>
    rw [hitem] at hfig
    cases hfig
    rfl
  | ok l => rw [hitem] at hfig; cases hfig

/-- Pricing never overflows and never refuses a tax. A quantity and a unit price that passed
their checks have a product that comes out, exactly unless the exact mantissa is wider than 96
bits, and then the item is refused for its amount. A priced invoice has the figures the formulas
give on exact values, and its tax is at most its subtotal, which is within the money bound. -/
theorem calculate_never_overflows (items : List (Decimal × Decimal)) (taxRate discount : Decimal) :
    (∀ e, calculate items taxRate discount = .error e →
        e ≠ .overflow ∧ e ≠ .moneyTooLarge .taxAmount) ∧
      (∀ x ∈ items, ∀ n, 0 ≤ (roundRate x.1).val → 0 ≤ (roundRate x.2).val →
        (roundRate x.1).val ≤ maxQuantity.val → (roundRate x.2).val ≤ maxUnitPrice.val →
        ∃ c, mul (roundRate x.1) (roundRate x.2) = some c ∧
          (c.val = (roundRate x.1).val * (roundRate x.2).val ∨
            mantLimit ≤ (roundRate x.1).mant * (roundRate x.2).mant ∧
              priceItem n x.1 x.2 = .error (.moneyTooLarge (.itemAmount n)))) ∧
      ∀ T, calculate items taxRate discount = .ok T →
        T.figures = Formula.figures (items.map fun x => (x.1.val, x.2.val)) taxRate.val discount.val ∧
          T.taxAmount.val ≤ T.subtotal.val ∧ T.subtotal.val ≤ maxMoney.val := by
  refine ⟨fun e he => calculate_error_isCheck he,
    fun x _ n hq0 hp0 hqm hpm => product_exact_or_refused n x.1 x.2 hq0 hp0 hqm hpm,
    fun T hT => ?_⟩
  have hfig := calculate_figures items taxRate discount
  rw [hT] at hfig
  obtain ⟨hacc, hV⟩ := Formula.price_ok_iff.mp hfig.symm
  obtain ⟨-, hexact, -⟩ := calculate_ok hT
  -- the subtotal is the formulas' subtotal: not negative, and within the bound as the last
  -- running subtotal
  have hS : T.subtotal.val = Formula.subtotal (items.map fun x => (x.1.val, x.2.val)) :=
    congrArg Figures.subtotal hV
  have hS0 : 0 ≤ T.subtotal.val := hS ▸ Formula.subtotal_nonneg hacc.linesFit
  have hSb : T.subtotal.val ≤ maxMoney.val := by
    have hlast := hacc.prefixes (items.map fun x => (x.1.val, x.2.val)).length
    rwa [List.take_length, ← hS] at hlast
  refine ⟨hV, ?_, hSb⟩
  rw [hexact.taxAmount]
  exact tax_le _ (val_mul_pow T.subtotal hexact.subtotal_scale) hS0 hexact.taxRate_nonneg
    hexact.taxRate_le

/-- The largest quantity at the largest unit price: their product is too wide to be kept exactly,
and the item is refused by its amount check, not by an overflow. -/
theorem widest_item_refused :
    calculate [(maxQuantity, maxUnitPrice)] hundred zero =
        .error (.moneyTooLarge (.itemAmount 1)) ∧
      ∃ c, mul maxQuantity maxUnitPrice = some c ∧
        (c.val = maxQuantity.val * maxUnitPrice.val ∨
          mantLimit ≤ maxQuantity.mant * maxUnitPrice.mant ∧
            priceItem 1 maxQuantity maxUnitPrice = .error (.moneyTooLarge (.itemAmount 1))) := by
  have hround : roundRate maxQuantity = maxQuantity ∧ roundRate maxUnitPrice = maxUnitPrice :=
    ⟨by decide, by decide⟩
  have hbounds : 0 ≤ maxQuantity.val ∧ 0 ≤ maxUnitPrice.val := by
    norm_num [Decimal.val_eq, maxQuantity, maxUnitPrice]
  have hwide := (calculate_never_overflows [(maxQuantity, maxUnitPrice)] hundred zero).2.1
    (maxQuantity, maxUnitPrice) (List.mem_singleton_self _) 1
  rw [hround.1, hround.2] at hwide
  exact ⟨rfl, hwide hbounds.1 hbounds.2 le_rfl le_rfl⟩

/-! ## Pricing its own output -/

/-- A figure already rounded to `dp` places is its own rounding, scale included. -/
theorem Decimal.roundDp_roundDp (d : Decimal) (dp : ℕ) (t : Tie) :
    (d.roundDp dp t).roundDp dp t = d.roundDp dp t :=
  roundDp_of_scale_le _ dp t (roundDp_scale_le d dp t)

@[simp] theorem roundRate_roundRate (d : Decimal) : roundRate (roundRate d) = roundRate d :=
  Decimal.roundDp_roundDp d 4 .awayFromZero

@[simp] theorem roundMoney_roundMoney (d : Decimal) : roundMoney (roundMoney d) = roundMoney d :=
  Decimal.roundDp_roundDp d 2 .awayFromZero

theorem priceItem_rounded (n : ℕ) (quantity unitPrice : Decimal) :
    priceItem n (roundRate quantity) (roundRate unitPrice) = priceItem n quantity unitPrice := by
  simp only [priceItem, roundRate_roundRate]

theorem priceItems_rounded (n : ℕ) (sub : Decimal) (items : List (Decimal × Decimal)) :
    priceItems n sub (items.map fun x => (roundRate x.1, roundRate x.2)) = priceItems n sub items := by
  induction items generalizing n sub with
  | nil => rfl
  | cons x rest ih =>
    obtain ⟨q, p⟩ := x
    simp only [List.map_cons, priceItems, priceItem_rounded, ih]

/-- Pricing rounds its inputs first, so rounded inputs price as the inputs themselves. -/
theorem calculate_rounded (items : List (Decimal × Decimal)) (taxRate discount : Decimal) :
    calculate (items.map fun x => (roundRate x.1, roundRate x.2)) (roundRate taxRate)
      (roundMoney discount) = calculate items taxRate discount := by
  simp only [calculate, roundRate_roundRate, roundMoney_roundMoney, priceItems_rounded]

/-- A priced invoice carries the rate and the discount as rounded, and the lines and subtotal of
its items. -/
theorem calculate_ok_inputs {items : List (Decimal × Decimal)} {taxRate discount : Decimal}
    {T : Totals} (h : calculate items taxRate discount = .ok T) :
    T.taxRate = roundRate taxRate ∧ T.discountAmount = roundMoney discount ∧
      priceItems 1 zero items = .ok (T.lines, T.subtotal) := by
  obtain ⟨-, -, -, -, lines, subtotal, -, -, -, -, hres, -, -, -, -, -, -, rfl⟩ :=
    calculate_ok_steps h
  exact ⟨rfl, rfl, hres⟩

/-- A priced invoice prices to itself: its lines' quantities and unit prices, under its rate and
discount, give the same invoice, scales included. -/
theorem calculate_own_output {items : List (Decimal × Decimal)} {taxRate discount : Decimal}
    {T : Totals} (h : calculate items taxRate discount = .ok T) :
    calculate (T.lines.map fun l => (l.quantity, l.unitPrice)) T.taxRate T.discountAmount = .ok T := by
  obtain ⟨hlines, -, -⟩ := calculate_ok h
  obtain ⟨hrate, hdiscount, -⟩ := calculate_ok_inputs h
  rw [hlines, hrate, hdiscount, calculate_rounded, h]

/-- Inputs of equal values are priced alike: both are refused for the same reason, or both are
priced to figures of equal values. -/
theorem calculate_congr_val {items items' : List (Decimal × Decimal)}
    {taxRate taxRate' discount discount' : Decimal}
    (hitems : items.map (fun x => (x.1.val, x.2.val)) = items'.map (fun x => (x.1.val, x.2.val)))
    (htax : taxRate.val = taxRate'.val) (hdiscount : discount.val = discount'.val) :
    (∃ e, calculate items taxRate discount = .error e ∧
        calculate items' taxRate' discount' = .error e) ∨
      ∃ T T', calculate items taxRate discount = .ok T ∧
        calculate items' taxRate' discount' = .ok T' ∧ T.figures = T'.figures := by
  -- both answer as the formulas on the same values
  have hsame : (calculate items taxRate discount).map Totals.figures =
      (calculate items' taxRate' discount').map Totals.figures := by
    rw [calculate_figures, calculate_figures, hitems, htax, hdiscount]
  cases h : calculate items taxRate discount with
  | error e =>
    cases h' : calculate items' taxRate' discount' with
    | error e' =>
      rw [h, h'] at hsame
      cases hsame
      exact .inl ⟨e, rfl, rfl⟩
    | ok T' => rw [h, h'] at hsame; cases hsame
  | ok T =>
    cases h' : calculate items' taxRate' discount' with
    | error e' => rw [h, h'] at hsame; cases hsame
    | ok T' =>
      rw [h, h'] at hsame
      exact .inr ⟨T, T', rfl, rfl, Except.ok.inj hsame⟩

/-- Pricing reads values only: inputs of equal values, whatever their scales, are refused for the
same reason or priced to figures of equal values; and the lines, rate and discount of a priced
invoice price to that very invoice, scales included. -/
theorem calculate_reads_values :
    (∀ (items items' : List (Decimal × Decimal)) (taxRate taxRate' discount discount' : Decimal),
        items.map (fun x => (x.1.val, x.2.val)) = items'.map (fun x => (x.1.val, x.2.val)) →
        taxRate.val = taxRate'.val → discount.val = discount'.val →
        (∃ e, calculate items taxRate discount = .error e ∧
            calculate items' taxRate' discount' = .error e) ∨
          ∃ T T', calculate items taxRate discount = .ok T ∧
            calculate items' taxRate' discount' = .ok T' ∧ T.figures = T'.figures) ∧
      ∀ (items : List (Decimal × Decimal)) (taxRate discount : Decimal) (T : Totals),
        calculate items taxRate discount = .ok T →
          calculate (T.lines.map fun l => (l.quantity, l.unitPrice)) T.taxRate T.discountAmount =
            .ok T :=
  ⟨fun _ _ _ _ _ _ hitems htax hdiscount => calculate_congr_val hitems htax hdiscount,
    fun _ _ _ _ h => calculate_own_output h⟩

/-- Two units at `19.99` under a rate of `18`, and the same written `2.00`, `19.990` and `18.00`
with a discount of `0.00`, are priced alike. -/
theorem trailing_zeros_priced_alike :
    (∃ e, calculate [(⟨2, 0, false⟩, ⟨1999, 2, false⟩)] ⟨18, 0, false⟩ zero = .error e ∧
        calculate [(⟨200, 2, false⟩, ⟨19990, 3, false⟩)] ⟨1800, 2, false⟩ ⟨0, 2, false⟩ =
          .error e) ∨
      ∃ T T', calculate [(⟨2, 0, false⟩, ⟨1999, 2, false⟩)] ⟨18, 0, false⟩ zero = .ok T ∧
        calculate [(⟨200, 2, false⟩, ⟨19990, 3, false⟩)] ⟨1800, 2, false⟩ ⟨0, 2, false⟩ =
          .ok T' ∧ T.figures = T'.figures :=
  calculate_reads_values.1 _ _ _ _ _ _ (by norm_num [Decimal.val_eq])
    (by norm_num [Decimal.val_eq]) (by norm_num [Decimal.val_eq, Decimal.zero])

end Invoicing
