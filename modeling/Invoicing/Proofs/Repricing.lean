import Invoicing.Proofs.Balance
import Mathlib.Algebra.Order.BigOperators.Group.List

/-!
# Pricing stored figures again

Pricing refuses nothing that already passed it. Quantities and unit prices kept to four places,
not negative and within their maxima, whose rounded products, sum, tax and total stay within the
money bound, price without a refusal, under a rate between 0 and 100 and a discount within the
money bound (`calculate_some`). The figures come out as the formulas give them on values, and the
rate and the discount as given.

The columns keep exactly such figures. A value fits a number column when it has at most the
column's places and fewer digits than its precision (`Column.Fits`); what a column stored fits it
(`Column.numeric_fits`), and a value that fits is stored as it is (`Column.numeric_some`). So the
items of a balanced invoice whose figures fit their columns price again to the invoice's own
figures and the items' own amounts (`Balanced.reprice`).

What is proved here:
* `priceItem_some`, `priceItems_some`, `calculate_some`: figures that pass the checks price.
* `Column.numeric_fits`, `Column.numeric_some`: a number column stores what fits it, as it is.
* `Balanced.reprice`: a balanced invoice prices again to its own figures.
-/

namespace Invoicing

open Decimal

/-- A quantity and a unit price that pricing takes as they are: kept to four places, not
negative, within their maxima, and with a rounded product within the money bound. -/
structure Priceable (q p : Decimal) : Prop where
  quantity_scale : q.scale ≤ 4
  unitPrice_scale : p.scale ≤ 4
  quantity_nonneg : 0 ≤ q.val
  unitPrice_nonneg : 0 ≤ p.val
  quantity_le : q.val ≤ maxQuantity.val
  unitPrice_le : p.val ≤ maxUnitPrice.val
  amount_le : roundHalfAway 2 (q.val * p.val) ≤ maxMoney.val

/-- The amount of a line: its quantity times its unit price, rounded to money. -/
def lineAmount (x : Decimal × Decimal) : ℚ := roundHalfAway 2 (x.1.val * x.2.val)

theorem Priceable.amount_nonneg {q p : Decimal} (h : Priceable q p) :
    0 ≤ lineAmount (q, p) :=
  roundHalfAway_nonneg 2 (mul_nonneg h.quantity_nonneg h.unitPrice_nonneg)

theorem priceItem_some (n : ℕ) {q p : Decimal} (h : Priceable q p) :
    ∃ l, priceItem n q p = .ok l ∧ l.quantity = q ∧ l.unitPrice = p ∧
      l.amount.val = lineAmount (q, p) ∧ l.amount.scale ≤ 2 := by
  have hrq : roundRate q = q := roundDp_of_scale_le _ _ _ h.quantity_scale
  have hrp : roundRate p = p := roundDp_of_scale_le _ _ _ h.unitPrice_scale
  have hq0 : ¬ q < zero := fun hlt => by
    rw [lt_iff_val, val_zero] at hlt; linarith [h.quantity_nonneg]
  have hp0 : ¬ p < zero := fun hlt => by
    rw [lt_iff_val, val_zero] at hlt; linarith [h.unitPrice_nonneg]
  have hqm : ¬ maxQuantity < q := fun hlt => by
    rw [lt_iff_val] at hlt; linarith [h.quantity_le]
  have hpm : ¬ maxUnitPrice < p := fun hlt => by
    rw [lt_iff_val] at hlt; linarith [h.unitPrice_le]
  have hx := h.amount_nonneg
  have hmoved := roundHalfAway_abs_ge 2 (q.val * p.val)
  -- the exact product fits: it is within one unit of an amount within the money bound
  have hfits : q.mant * p.mant < mantLimit := by
    have hprod : ((q.mant * p.mant : ℕ) : ℚ) = |q.val * p.val| * 10 ^ (q.scale + p.scale) := by
      push_cast
      rw [mant_eq, mant_eq, abs_mul, pow_add]
      ring
    have h8 : (10 : ℚ) ^ (q.scale + p.scale) ≤ 10 ^ 8 :=
      pow_le_pow_right₀ (by norm_num) (by linarith [h.quantity_scale, h.unitPrice_scale])
    have hle : |q.val * p.val| ≤ maxMoney.val + 1 := by
      rw [lineAmount, abs_of_nonneg hx] at *
      linarith [h.amount_le]
    have hlim : ((q.mant * p.mant : ℕ) : ℚ) < mantLimit := by
      rw [hprod]
      calc |q.val * p.val| * 10 ^ (q.scale + p.scale) ≤ (maxMoney.val + 1) * 10 ^ 8 :=
            mul_le_mul hle h8 (by positivity) (by linarith [maxMoney_pos])
        _ < mantLimit := by norm_num [mantLimit]
    exact_mod_cast hlim
  obtain ⟨c, hc, hcv, -, -⟩ :=
    mul_some (by simp only [maxScale]; linarith [h.quantity_scale, h.unitPrice_scale]) hfits
  have hround : (roundMoney c).val = lineAmount (q, p) := by
    rw [roundMoney, val_roundDp_away, hcv, lineAmount]
  have hmoney : checkMoney (.itemAmount n) (roundMoney c) = .ok (roundMoney c) :=
    checkMoney_of_le _ (by rw [hround, abs_of_nonneg hx]; exact h.amount_le)
  refine ⟨⟨q, p, roundMoney c⟩, ?_, rfl, rfl, hround, roundDp_scale_le _ _ _⟩
  simp only [priceItem, hrq, hrp, hq0, hp0, hqm, hpm, if_false, orOverflow, hc, bind,
    Except.bind, hmoney]
  rfl

theorem priceItems_some (n : ℕ) (sub : Decimal) {items : List (Decimal × Decimal)}
    (hs : sub.scale ≤ 2) (hsub : 0 ≤ sub.val) (hitems : ∀ x ∈ items, Priceable x.1 x.2)
    (hsum : sub.val + (items.map lineAmount).sum ≤ maxMoney.val) :
    ∃ lines final, priceItems n sub items = .ok (lines, final) ∧
      final.val = sub.val + (items.map lineAmount).sum ∧ final.scale ≤ 2 := by
  induction items generalizing n sub with
  | nil => exact ⟨[], sub, rfl, by simp, hs⟩
  | cons x rest ih =>
    obtain ⟨q, p⟩ := x
    have hx : Priceable q p := hitems _ List.mem_cons_self
    have hrest : ∀ y ∈ rest, Priceable y.1 y.2 := fun y hy => hitems y (List.mem_cons_of_mem _ hy)
    have hrest0 : 0 ≤ (rest.map lineAmount).sum :=
      List.sum_nonneg fun a ha => by
        obtain ⟨y, hy, rfl⟩ := List.mem_map.mp ha
        exact (hrest y hy).amount_nonneg
    rw [List.map_cons, List.sum_cons] at hsum
    obtain ⟨l, hl, rfl, rfl, hla, hlas⟩ := priceItem_some n hx
    -- the running subtotal stays within the money bound: every amount is at least zero
    have hnew : 0 ≤ sub.val + l.amount.val := by linarith [hx.amount_nonneg]
    obtain ⟨c, hc, hcv, hcs⟩ := add_money_some hs hlas (by
      rw [abs_of_nonneg hnew]; linarith [maxMoney_pos])
    have hcheck : checkMoney .subtotal c = .ok c :=
      checkMoney_of_le _ (by rw [hcv, abs_of_nonneg hnew]; linarith)
    obtain ⟨lines, final, hrun, hfv, hfs⟩ :=
      ih (n + 1) c hcs (hcv ▸ hnew) hrest (by rw [hcv]; linarith)
    refine ⟨l :: lines, final, ?_, ?_, hfs⟩
    · simp only [priceItems, hl, bind, Except.bind, orOverflow, hc, hcheck, hrun]
      rfl
    · rw [hfv, hcv, hla, List.map_cons, List.sum_cons]
      ring


/-- Figures that pass every check of pricing as they are price without a refusal: lines that
`calculate` takes as they are, a subtotal, a tax and a total within the money bound, a rate
between 0 and 100 kept to four places, and a discount within the money bound kept to two. The
rate and the discount are kept as given. -/
theorem calculate_some {items : List (Decimal × Decimal)} {taxRate discount : Decimal}
    (hitems : ∀ x ∈ items, Priceable x.1 x.2)
    (hrs : taxRate.scale ≤ 4) (hr0 : 0 ≤ taxRate.val) (hr100 : taxRate.val ≤ 100)
    (hds : discount.scale ≤ 2) (hd0 : 0 ≤ discount.val) (hdm : discount.val ≤ maxMoney.val)
    (hsub : (items.map lineAmount).sum ≤ maxMoney.val)
    (htax : roundHalfAway 2 ((items.map lineAmount).sum * taxRate.val / 100) ≤ maxMoney.val)
    (htotal : |(items.map lineAmount).sum +
      roundHalfAway 2 ((items.map lineAmount).sum * taxRate.val / 100) - discount.val| ≤
        maxMoney.val) :
    ∃ T, calculate items taxRate discount = .ok T ∧ T.taxRate = taxRate ∧
      T.discountAmount = discount := by
  have hM := maxMoney_pos
  -- the rate and the discount pass their checks as they are
  have hrate : roundRate taxRate = taxRate := roundDp_of_scale_le _ _ _ hrs
  have hdisc : roundMoney discount = discount := roundDp_of_scale_le _ _ _ hds
  have hrange : ¬ (taxRate < zero ∨ hundred < taxRate) := by
    rw [lt_iff_val, lt_iff_val, val_zero, val_hundred]
    intro h
    rcases h with h | h <;> linarith
  have hneg : ¬ discount < zero := by
    rw [lt_iff_val, val_zero]
    linarith
  have hdcheck : checkMoney .discount discount = .ok discount :=
    checkMoney_of_le _ (by rw [abs_of_nonneg hd0]; exact hdm)
  -- the lines, then the tax on their subtotal
  obtain ⟨lines, subtotal, hlines, hsv, hss⟩ :=
    priceItems_some 1 zero (by simp [zero]) (by simp) hitems (by simpa using hsub)
  rw [val_zero, zero_add] at hsv
  have hsum0 : 0 ≤ (items.map lineAmount).sum :=
    List.sum_nonneg fun a ha => by
      obtain ⟨y, hy, rfl⟩ := List.mem_map.mp ha
      exact (hitems y hy).amount_nonneg
  have hfits := taxed_fits hss (by rw [hsv, abs_of_nonneg hsum0]; exact hsub) hrs hr0 hr100
  obtain ⟨taxed, htaxed, htaxedv, htaxedm, htaxeds⟩ :=
    mul_some (by simp only [maxScale]; omega) hfits
  obtain ⟨tax, htaxq, htaxv⟩ := div_hundred_some (by simp only [maxScale]; omega) (htaxedm ▸ hfits)
  have htaxr : (roundMoney tax).val = roundHalfAway 2 ((items.map lineAmount).sum * taxRate.val / 100) := by
    rw [roundMoney, val_roundDp_away, htaxv, htaxedv, hsv]
  have htax0 : 0 ≤ (roundMoney tax).val := by
    rw [htaxr]
    exact roundHalfAway_nonneg 2 (by positivity)
  have htcheck : checkMoney .taxAmount (roundMoney tax) = .ok (roundMoney tax) :=
    checkMoney_of_le _ (by rw [abs_of_nonneg htax0, htaxr]; exact htax)
  -- then the total
  obtain ⟨gross, hgross, hgv, hgs⟩ := add_money_some (b := roundMoney tax) hss
    (roundDp_scale_le _ _ _) (by
    rw [abs_of_nonneg (by linarith)]
    linarith)
  obtain ⟨total, htot, htotv, -⟩ := add_money_some (b := discount.negate) hgs
    (by simpa [negate] using hds) (by
    rw [val_negate, hgv, hsv, htaxr, ← sub_eq_add_neg]
    linarith)
  have hcheck : checkMoney .total total = .ok total :=
    checkMoney_of_le _ (by rw [htotv, val_negate, hgv, hsv, htaxr, ← sub_eq_add_neg]; exact htotal)
  refine ⟨⟨lines, subtotal, taxRate, roundMoney tax, discount, total⟩, ?_, rfl, rfl⟩
  simp only [calculate, hrate, hrange, hdisc, hneg, hdcheck, if_false, bind, Except.bind, hlines,
    orOverflow, htaxed, htaxq, htcheck, hgross, Decimal.sub, htot, hcheck]
  rfl

namespace Column

/-- A value a number column of precision `p` and scale `s` holds as it is: it has at most `s`
places and fewer than `p` digits at that scale. -/
def Fits (p s : ℕ) (d : Decimal) : Prop := d.scale ≤ s ∧ |d.val| * 10 ^ s < 10 ^ p

/-- The digits of a value at a scale it fits in. -/
theorem abs_val_mul_pow {d : Decimal} {s : ℕ} (hs : d.scale ≤ s) :
    |d.val| * 10 ^ s = ((d.mant * 10 ^ (s - d.scale) : ℕ) : ℚ) := by
  have hsplit : (10 : ℚ) ^ s = 10 ^ d.scale * 10 ^ (s - d.scale) := by
    rw [← pow_add]
    congr 1
    omega
  rw [hsplit, abs_val]
  push_cast
  field_simp

/-- What a number column stores fits it. -/
theorem numeric_fits {p s : ℕ} {d e : Decimal} (h : numeric p s d = .ok e) : Fits p s e := by
  unfold numeric at h
  dsimp only at h
  split at h
  · cases h
  rename_i hlt
  split at h
  · cases h
    exact ⟨by simp [Decimal.zero], by simp⟩
  · cases h
    refine ⟨by simp, ?_⟩
    rw [abs_val_mul_pow (by simp)]
    simp only [Decimal.make_mant, Decimal.make_scale, Nat.sub_self, pow_zero, Nat.mul_one]
    exact_mod_cast Nat.lt_of_not_le (by simpa using hlt)

/-- A value that fits a number column is stored, as it is by value. -/
theorem numeric_some {p s : ℕ} {d : Decimal} (hd : Fits p s d) :
    ∃ e, numeric p s d = .ok e ∧ e.val = d.val ∧ e.scale ≤ s := by
  obtain ⟨e, he⟩ : ∃ e, numeric p s d = .ok e := by
    have hdigits : d.mant * 10 ^ (s - d.scale) < 10 ^ p := by
      have h := hd.2
      rw [abs_val_mul_pow hd.1] at h
      exact_mod_cast h
    unfold numeric
    dsimp only
    rw [roundDp_of_scale_le _ _ _ hd.1, if_neg (by simpa using hdigits)]
    split <;> exact ⟨_, rfl⟩
  exact ⟨e, he, numeric_val_of_scale_le he hd.1⟩

/-- A value that fits a column is at most the column's largest value. -/
theorem Fits.abs_le {p s : ℕ} {d : Decimal} (h : Fits p s d) :
    |d.val| ≤ ((10 ^ p - 1 : ℕ) : ℚ) / 10 ^ s := by
  have hdigits : d.mant * 10 ^ (s - d.scale) < 10 ^ p := by
    have h' := h.2
    rw [abs_val_mul_pow h.1] at h'
    exact_mod_cast h'
  rw [le_div_iff₀ (by positivity), abs_val_mul_pow h.1]
  exact_mod_cast Nat.le_sub_one_of_lt hdigits

end Column

theorem val_maxQuantity : maxQuantity.val = ((10 ^ 14 - 1 : ℕ) : ℚ) / 10 ^ 4 := by
  simp [val_eq, maxQuantity]

theorem val_maxUnitPrice : maxUnitPrice.val = ((10 ^ 16 - 1 : ℕ) : ℚ) / 10 ^ 4 := by
  simp [val_eq, maxUnitPrice]

theorem maxMoney_eq : maxMoney.val = ((10 ^ 16 - 1 : ℕ) : ℚ) / 10 ^ 2 := by
  simp [val_eq, maxMoney]

namespace Column

/-- A money figure that fits its column is within the money bound. -/
theorem Fits.abs_le_maxMoney {d : Decimal} (h : Fits 16 2 d) : |d.val| ≤ maxMoney.val :=
  maxMoney_eq ▸ h.abs_le

end Column

/-- The figures of an item row fit their columns, and neither its quantity nor its unit price is
negative. -/
structure Item.FiguresFit (it : Item) : Prop where
  quantity : Column.Fits 14 4 it.quantity
  unitPrice : Column.Fits 16 4 it.unitPrice
  amount : Column.Fits 16 2 it.amount
  quantity_nonneg : 0 ≤ it.quantity.val
  unitPrice_nonneg : 0 ≤ it.unitPrice.val

/-- The figures of an invoice header fit their columns. -/
structure Invoice.FiguresFit (i : Invoice) : Prop where
  subtotal : Column.Fits 16 2 i.subtotal
  taxRate : Column.Fits 7 4 i.taxRate
  taxAmount : Column.Fits 16 2 i.taxAmount
  discountAmount : Column.Fits 16 2 i.discountAmount
  totalAmount : Column.Fits 16 2 i.totalAmount

/-- A stored item whose amount is its rounded product is taken by pricing as it is. -/
theorem Item.FiguresFit.priceable {it : Item} (h : it.FiguresFit)
    (hamount : it.amount.val = roundHalfAway 2 (it.quantity.val * it.unitPrice.val)) :
    Priceable it.quantity it.unitPrice where
  quantity_scale := h.quantity.1
  unitPrice_scale := h.unitPrice.1
  quantity_nonneg := h.quantity_nonneg
  unitPrice_nonneg := h.unitPrice_nonneg
  quantity_le := val_maxQuantity ▸ (le_abs_self _).trans h.quantity.abs_le
  unitPrice_le := val_maxUnitPrice ▸ (le_abs_self _).trans h.unitPrice.abs_le
  amount_le := hamount ▸ (le_abs_self _).trans h.amount.abs_le_maxMoney

/-- Only which items an invoice has matters to its balance, not their order. -/
theorem Balanced.perm {i : Invoice} {items items' : List Item} (h : Balanced i items)
    (hp : items'.Perm items) : Balanced i items' where
  nonempty hnil := h.nonempty (List.nil_perm.mp (hnil ▸ hp))
  sortOrders := by
    rw [hp.length_eq]
    exact (hp.map _).trans h.sortOrders
  amounts it hit := h.amounts it (hp.mem_iff.mp hit)
  subtotal := h.subtotal.trans ((hp.map _).sum_eq).symm
  taxAmount := h.taxAmount
  totalAmount := h.totalAmount
  taxRate_nonneg := h.taxRate_nonneg
  taxRate_le := h.taxRate_le
  discount_nonneg := h.discount_nonneg

/-- The items of a balanced invoice whose figures fit their columns price again, under the
invoice's tax rate and discount, to the invoice's own figures and the items' own amounts. -/
theorem Balanced.reprice {i : Invoice} {items : List Item} (hb : Balanced i items)
    (hi : i.FiguresFit) (hitems : ∀ it ∈ items, it.FiguresFit) :
    ∃ T, calculate (items.map fun it => (it.quantity, it.unitPrice)) i.taxRate i.discountAmount =
        .ok T ∧ T.Exact ∧
      T.lines.map (fun l => (l.quantity, l.unitPrice)) =
        items.map (fun it => (it.quantity, it.unitPrice)) ∧
      T.lines.map (fun l => l.amount.val) = items.map (fun it => it.amount.val) ∧
      T.subtotal.val = i.subtotal.val ∧ T.taxRate = i.taxRate ∧ T.taxAmount.val = i.taxAmount.val ∧
      T.discountAmount = i.discountAmount ∧ T.totalAmount.val = i.totalAmount.val := by
  have hpriceable : ∀ x ∈ items.map (fun it => (it.quantity, it.unitPrice)), Priceable x.1 x.2 := by
    intro x hx
    obtain ⟨it, hit, rfl⟩ := List.mem_map.mp hx
    exact (hitems it hit).priceable (hb.amounts it hit)
  -- the amounts priced again are the stored ones, so their sum is the stored subtotal
  have hsum : ((items.map fun it => (it.quantity, it.unitPrice)).map lineAmount).sum =
      i.subtotal.val := by
    rw [hb.subtotal, List.map_map]
    congr 1
    exact List.map_congr_left fun it hit => (hb.amounts it hit).symm
  obtain ⟨T, hT, hrate, hdisc⟩ := calculate_some hpriceable hi.taxRate.1 hb.taxRate_nonneg
    hb.taxRate_le hi.discountAmount.1 hb.discount_nonneg
    ((le_abs_self _).trans hi.discountAmount.abs_le_maxMoney)
    (by rw [hsum]; exact (le_abs_self _).trans hi.subtotal.abs_le_maxMoney)
    (by rw [hsum, ← hb.taxAmount]; exact (le_abs_self _).trans hi.taxAmount.abs_le_maxMoney)
    (by rw [hsum, ← hb.taxAmount, ← hb.totalAmount]; exact hi.totalAmount.abs_le_maxMoney)
  obtain ⟨hmap, hex, -⟩ := calculate_ok hT
  have hamounts : T.lines.map (fun l => l.amount.val) = items.map (fun it => it.amount.val) :=
    lines_amounts_of_stored hT fun it hit =>
      ⟨hb.amounts it hit, (hitems it hit).quantity.1, (hitems it hit).unitPrice.1⟩
  have hsub : T.subtotal.val = i.subtotal.val := by
    rw [hex.subtotal, hamounts, hb.subtotal]
  have htax : T.taxAmount.val = i.taxAmount.val := by
    rw [hex.taxAmount, hsub, hrate, hb.taxAmount]
  refine ⟨T, hT, hex, ?_, hamounts, hsub, hrate, htax, hdisc, ?_⟩
  · -- quantities and unit prices kept to four places are not moved by rounding to four
    rw [hmap, List.map_map]
    refine List.map_congr_left fun it hit => ?_
    have hq : roundRate it.quantity = it.quantity :=
      roundDp_of_scale_le _ _ _ (hitems it hit).quantity.1
    have hp : roundRate it.unitPrice = it.unitPrice :=
      roundDp_of_scale_le _ _ _ (hitems it hit).unitPrice.1
    simp only [Function.comp_apply, hq, hp]
  · rw [hex.totalAmount, hsub, htax, hdisc, hb.totalAmount]

end Invoicing
