import Invoicing.Proofs.DecimalValue
import Invoicing.Pricing

/-!
# Pricing is exact

Every figure `calculate` gives is what the pricing formulas give on values, with no hidden
rounding in between: the checks on quantities, unit prices and money bound every intermediate
result, so each sum and product fits in a decimal exactly and the division by a hundred has
places to spare. The one product that could be too wide, quantity times unit price, would be
rounded by at most one unit and would then fail the amount check (`priceItem_ok`).

What is proved here:
* `priceItem_ok`: a priced line is the rounded quantity and unit price and the rounded product.
* `priceItems_ok`: the running subtotal is the sum of the amounts.
* `calculate_ok`: the lines and the header satisfy `Totals.Exact`, and no line has a negative
  quantity or unit price.
-/

namespace Invoicing

open Decimal

@[simp] theorem val_maxMoney : maxMoney.val = 9999999999999999 / 100 := by
  simp [val_eq, maxMoney]; norm_num

theorem maxMoney_pos : 0 < maxMoney.val := by norm_num

@[simp] theorem val_hundred : hundred.val = 100 := by
  simp [val_eq, hundred, ofNat]

theorem orOverflow_ok {r : Option Decimal} {d : Decimal} (h : orOverflow r = .ok d) : r = some d := by
  unfold orOverflow at h
  split at h <;> cases h
  rfl

theorem checkMoney_ok {f : MoneyField} {d e : Decimal} (h : checkMoney f d = .ok e) :
    e = d ∧ |d.val| ≤ maxMoney.val := by
  unfold checkMoney at h
  split at h
  · cases h
  · rename_i hlt
    cases h
    exact ⟨rfl, by rw [← val_abs]; exact not_lt.mp fun h' => hlt (lt_iff_val.mpr h')⟩

/-- A figure within the money bound passes the money check. -/
theorem checkMoney_of_le (f : MoneyField) {d : Decimal} (h : |d.val| ≤ maxMoney.val) :
    checkMoney f d = .ok d := by
  unfold checkMoney
  rw [if_neg fun hlt => by rw [lt_iff_val, val_abs] at hlt; linarith]

/-- A priced line whose figures have at most their columns' places and whose amount is its
quantity times its unit price, rounded to money. -/
structure PricedLine.Exact (l : PricedLine) : Prop where
  quantity_scale : l.quantity.scale ≤ 4
  unitPrice_scale : l.unitPrice.scale ≤ 4
  amount_scale : l.amount.scale ≤ 2
  amount : l.amount.val = roundHalfAway 2 (l.quantity.val * l.unitPrice.val)

/-- A figure kept to at most four places is not moved by rounding it to four. -/
theorem val_roundRate_of_scale_le {d : Decimal} (h : d.scale ≤ 4) : (roundRate d).val = d.val := by
  rw [roundRate, val_roundDp_away]
  exact roundHalfAway_eq_self _ (val_mul_pow d h)

/-- The product of a priced item is exact: a product too wide to be exact would be too large for
the amount check, since bringing it into range loses less than one unit. -/
theorem priceItem_ok {n : ℕ} {quantity unitPrice : Decimal} {l : PricedLine}
    (h : priceItem n quantity unitPrice = .ok l) :
    l.quantity = roundRate quantity ∧ l.unitPrice = roundRate unitPrice ∧ l.Exact ∧
      |l.amount.val| ≤ maxMoney.val ∧ 0 ≤ l.quantity.val ∧ 0 ≤ l.unitPrice.val := by
  simp only [priceItem, bind, Except.bind, pure, Except.pure, throw, throwThe,
    MonadExceptOf.throw] at h
  split at h
  · cases h
  rename_i hq0
  split at h
  · cases h
  rename_i hp0
  split at h
  · cases h
  split at h
  · cases h
  split at h
  · cases h
  rename_i product hproduct
  split at h
  · cases h
  rename_i amount hamount
  cases h
  obtain ⟨rfl, hbound⟩ := checkMoney_ok hamount
  have hmul := orOverflow_ok hproduct
  have hqs : (roundRate quantity).scale ≤ 4 := roundDp_scale_le _ _ _
  have hps : (roundRate unitPrice).scale ≤ 4 := roundDp_scale_le _ _ _
  generalize roundRate quantity = q at *
  generalize roundRate unitPrice = p at *
  have hround : (roundMoney product).val = roundHalfAway 2 product.val := val_roundDp_away _ _
  -- the exact product fits: it is within two units of an amount that passed the check
  have hfits : q.mant * p.mant < mantLimit := by
    have hlow := mul_lower hmul
    have hmoved := roundHalfAway_abs_ge 2 product.val
    rw [← hround] at hmoved
    have h8 : (10 : ℚ) ^ (q.scale + p.scale) ≤ 10 ^ 8 := pow_le_pow_right₀ (by norm_num) (by omega)
    have hlt : ((q.mant * p.mant : ℕ) : ℚ) < (maxMoney.val + 2) * 10 ^ (q.scale + p.scale) := by
      rw [← div_lt_iff₀ (by positivity)]
      linarith
    have hlim : ((q.mant * p.mant : ℕ) : ℚ) < mantLimit := by
      calc ((q.mant * p.mant : ℕ) : ℚ) < (maxMoney.val + 2) * 10 ^ (q.scale + p.scale) := hlt
        _ ≤ (maxMoney.val + 2) * 10 ^ 8 := by gcongr; norm_num
        _ < mantLimit := by norm_num [mantLimit]
    exact_mod_cast hlim
  obtain ⟨hval, -, -⟩ := mul_exact hmul (by simp only [maxScale]; omega) hfits
  refine ⟨rfl, rfl, ⟨hqs, hps, roundDp_scale_le _ _ _, ?_⟩, hbound, ?_, ?_⟩
  · rw [hround, hval]
  · exact not_lt.mp fun h' => hq0 (lt_iff_val.mpr (by simpa using h'))
  · exact not_lt.mp fun h' => hp0 (lt_iff_val.mpr (by simpa using h'))


/-- Two figures of at most two places whose sum is within three money bounds add exactly. -/
theorem add_money_some {a b : Decimal} (has : a.scale ≤ 2) (hbs : b.scale ≤ 2)
    (hab : |a.val + b.val| ≤ 3 * maxMoney.val) :
    ∃ c, add a b = some c ∧ c.val = a.val + b.val ∧ c.scale ≤ 2 := by
  have hmax : max a.scale b.scale ≤ 2 := max_le has hbs
  have h100 : (10 : ℚ) ^ max a.scale b.scale ≤ 10 ^ 2 := pow_le_pow_right₀ (by norm_num) hmax
  obtain ⟨c, hc, hv, hs⟩ := add_some (a := a) (b := b) (by simp only [maxScale]; omega) (by
    calc |a.val + b.val| * 10 ^ max a.scale b.scale ≤ 3 * maxMoney.val * 10 ^ 2 := by
          gcongr
          norm_num
      _ < mantLimit := by norm_num [mantLimit])
  exact ⟨c, hc, hv, hs.trans hmax⟩

theorem add_money_exact {a b c : Decimal} (h : add a b = some c) (has : a.scale ≤ 2)
    (hbs : b.scale ≤ 2) (hab : |a.val| + |b.val| ≤ 3 * maxMoney.val) :
    c.val = a.val + b.val ∧ c.scale ≤ 2 := by
  obtain ⟨c', hc', hexact⟩ := add_money_some has hbs ((abs_add_le _ _).trans hab)
  rw [h, Option.some.injEq] at hc'
  exact hc' ▸ hexact

theorem priceItems_ok {n : ℕ} {sub final : Decimal} {items : List (Decimal × Decimal)}
    {lines : List PricedLine} (h : priceItems n sub items = .ok (lines, final))
    (hs : sub.scale ≤ 2) (hv : |sub.val| ≤ maxMoney.val) :
    lines.map (fun l => (l.quantity, l.unitPrice)) =
        items.map (fun x => (roundRate x.1, roundRate x.2)) ∧
      (∀ l ∈ lines, l.Exact) ∧
      final.val = sub.val + (lines.map fun l => l.amount.val).sum ∧ final.scale ≤ 2 ∧
      |final.val| ≤ maxMoney.val ∧ ∀ l ∈ lines, 0 ≤ l.quantity.val ∧ 0 ≤ l.unitPrice.val := by
  induction items generalizing n sub lines with
  | nil =>
    simp only [priceItems, Except.ok.injEq, Prod.mk.injEq] at h
    obtain ⟨rfl, rfl⟩ := h
    exact ⟨rfl, by simp, by simp, hs, hv, by simp⟩
  | cons x rest ih =>
    obtain ⟨q, p⟩ := x
    simp only [priceItems, bind, Except.bind, pure, Except.pure] at h
    split at h
    · cases h
    rename_i line hline
    split at h
    · cases h
    rename_i sum hsum
    split at h
    · cases h
    rename_i sub' hsub'
    split at h
    · cases h
    rename_i res hres
    obtain ⟨rest_lines, final'⟩ := res
    simp only [Except.ok.injEq, Prod.mk.injEq] at h
    obtain ⟨rfl, rfl⟩ := h
    obtain ⟨hq, hp, hexact, hbound, hq0, hp0⟩ := priceItem_ok hline
    obtain ⟨rfl, hsubv⟩ := checkMoney_ok hsub'
    -- the running subtotal stays exact and within the money bound
    obtain ⟨hsumv, hsums⟩ :=
      add_money_exact (orOverflow_ok hsum) hs hexact.amount_scale (by linarith [maxMoney_pos])
    obtain ⟨hmap, hall, hfinal, hfs, hfv, hnonneg⟩ := ih hres hsums hsubv
    refine ⟨?_, ?_, ?_, hfs, hfv, ?_⟩
    · simp [hq, hp, hmap]
    · intro l hl
      rcases List.mem_cons.mp hl with rfl | hl
      · exact hexact
      · exact hall l hl
    · rw [hfinal, hsumv]
      simp [add_assoc]
    · intro l hl
      rcases List.mem_cons.mp hl with rfl | hl
      · exact ⟨hq0, hp0⟩
      · exact hnonneg l hl

/-- A subtotal within the money bound times a rate of at most a hundred fits: at most sixteen
digits times at most seven. -/
theorem taxed_fits {sub rate : Decimal} (hs : sub.scale ≤ 2) (hv : |sub.val| ≤ maxMoney.val)
    (hrs : rate.scale ≤ 4) (hr0 : 0 ≤ rate.val) (hr100 : rate.val ≤ 100) :
    sub.mant * rate.mant < mantLimit := by
  have h1 : (sub.mant : ℚ) ≤ maxMoney.val * 10 ^ 2 := by
    rw [mant_eq]
    exact mul_le_mul hv (pow_le_pow_right₀ (by norm_num) hs) (by positivity) maxMoney_pos.le
  have h2 : (rate.mant : ℚ) ≤ 100 * 10 ^ 4 := by
    rw [mant_eq, abs_of_nonneg hr0]
    exact mul_le_mul hr100 (pow_le_pow_right₀ (by norm_num) hrs) (by positivity) (by norm_num)
  have hlim : ((sub.mant * rate.mant : ℕ) : ℚ) < mantLimit := by
    push_cast
    calc (sub.mant : ℚ) * rate.mant ≤ (maxMoney.val * 10 ^ 2) * (100 * 10 ^ 4) :=
          mul_le_mul h1 h2 (by positivity) (by linarith [maxMoney_pos])
      _ < mantLimit := by norm_num [mantLimit]
  exact_mod_cast hlim

/-- The figures of a priced invoice agree with each other and have at most their columns'
places. -/
structure Totals.Exact (T : Totals) : Prop where
  lines : ∀ l ∈ T.lines, l.Exact
  subtotal : T.subtotal.val = (T.lines.map fun l => l.amount.val).sum
  taxAmount : T.taxAmount.val = roundHalfAway 2 (T.subtotal.val * T.taxRate.val / 100)
  totalAmount : T.totalAmount.val = T.subtotal.val + T.taxAmount.val - T.discountAmount.val
  taxRate_nonneg : 0 ≤ T.taxRate.val
  taxRate_le : T.taxRate.val ≤ 100
  discount_nonneg : 0 ≤ T.discountAmount.val
  subtotal_scale : T.subtotal.scale ≤ 2
  taxRate_scale : T.taxRate.scale ≤ 4
  taxAmount_scale : T.taxAmount.scale ≤ 2
  discount_scale : T.discountAmount.scale ≤ 2
  total_scale : T.totalAmount.scale ≤ 2

/-- What pricing did when it priced an invoice: the rate, kept to four places, lies between 0
and 100, and the discount, kept to two, is not negative and within the money bound; the items
were priced to `lines` with subtotal `subtotal`; the tax, the subtotal times the rate over a
hundred kept to two places, came out within the bound; and so did the total, the subtotal plus
the tax less the discount. -/
theorem calculate_ok_steps {items : List (Decimal × Decimal)} {taxRate discountAmount : Decimal}
    {T : Totals} (h : calculate items taxRate discountAmount = .ok T) :
    0 ≤ (roundRate taxRate).val ∧ (roundRate taxRate).val ≤ 100 ∧
      0 ≤ (roundMoney discountAmount).val ∧ |(roundMoney discountAmount).val| ≤ maxMoney.val ∧
      ∃ lines subtotal taxed tax gross total,
        priceItems 1 zero items = .ok (lines, subtotal) ∧
        mul subtotal (roundRate taxRate) = some taxed ∧ div taxed hundred = some tax ∧
        |(roundMoney tax).val| ≤ maxMoney.val ∧ add subtotal (roundMoney tax) = some gross ∧
        sub gross (roundMoney discountAmount) = some total ∧ |total.val| ≤ maxMoney.val ∧
        T = ⟨lines, subtotal, roundRate taxRate, roundMoney tax, roundMoney discountAmount, total⟩ := by
  simp only [calculate, bind, Except.bind, pure, Except.pure, throw, throwThe,
    MonadExceptOf.throw] at h
  split at h
  · cases h
  rename_i hrate
  split at h
  · cases h
  rename_i hdisc
  split at h
  · cases h
  rename_i discount hdiscount
  split at h
  · cases h
  rename_i res hres
  obtain ⟨lines, subtotal⟩ := res
  dsimp only at h
  split at h
  · cases h
  rename_i taxed htaxed
  split at h
  · cases h
  rename_i tax htax
  split at h
  · cases h
  rename_i tax' htax'
  split at h
  · cases h
  rename_i gross hgross
  split at h
  · cases h
  rename_i total htotal
  split at h
  · cases h
  rename_i checked hchecked
  cases h
  -- each check that passed, read on values
  obtain ⟨rfl, hdv⟩ := checkMoney_ok hdiscount
  obtain ⟨rfl, htv⟩ := checkMoney_ok htax'
  obtain ⟨hsame, htotv⟩ := checkMoney_ok hchecked
  subst checked
  refine ⟨not_lt.mp fun h' => hrate (.inl (lt_iff_val.mpr (by simpa using h'))),
    not_lt.mp fun h' => hrate (.inr (lt_iff_val.mpr (by simpa using h'))),
    not_lt.mp fun h' => hdisc (lt_iff_val.mpr (by simpa using h')), hdv,
    lines, subtotal, taxed, tax, gross, total, hres, orOverflow_ok htaxed, orOverflow_ok htax, htv,
    orOverflow_ok hgross, orOverflow_ok htotal, htotv, rfl⟩

/-- Every figure `calculate` gives is exact: the lines are the rounded quantities and unit
prices with their amounts, and the header follows the pricing formulas on values. -/
theorem calculate_ok {items : List (Decimal × Decimal)} {taxRate discountAmount : Decimal}
    {T : Totals} (h : calculate items taxRate discountAmount = .ok T) :
    T.lines.map (fun l => (l.quantity, l.unitPrice)) =
        items.map (fun x => (roundRate x.1, roundRate x.2)) ∧ T.Exact ∧
      ∀ l ∈ T.lines, 0 ≤ l.quantity.val ∧ 0 ≤ l.unitPrice.val := by
  obtain ⟨hr0, hr100, hd0, hdv, lines, subtotal, taxed, tax, gross, total, hres, htaxed, htax,
    htv, hgross, htotal, -, rfl⟩ := calculate_ok_steps h
  have hrs : (roundRate taxRate).scale ≤ 4 := roundDp_scale_le _ _ _
  have hds : (roundMoney discountAmount).scale ≤ 2 := roundDp_scale_le _ _ _
  have hM := maxMoney_pos
  obtain ⟨hmap, hlines, hsub, hsubs, hsubv, hnonneg⟩ :=
    priceItems_ok hres (by simp [zero]) (by simp only [val_zero, abs_zero]; exact hM.le)
  generalize roundRate taxRate = rate at *
  -- the tax comes out exactly
  have hmant := taxed_fits hsubs hsubv hrs hr0 hr100
  obtain ⟨htaxedv, htaxedm, htaxeds⟩ := mul_exact htaxed (by simp only [maxScale]; omega) hmant
  have htaxv := div_hundred_exact htax (by simp only [maxScale]; omega) (htaxedm ▸ hmant)
  have hts : (roundMoney tax).scale ≤ 2 := roundDp_scale_le _ _ _
  obtain ⟨hgv, hgs⟩ := add_money_exact hgross hsubs hts (by linarith)
  have hgabs : |gross.val| ≤ 2 * maxMoney.val := by
    rw [hgv]
    linarith [abs_add_le subtotal.val (roundMoney tax).val]
  -- the total adds the negated discount
  obtain ⟨htotv, htots⟩ := add_money_exact htotal hgs (by simpa [negate] using hds)
    (by rw [val_negate, abs_neg]; linarith)
  refine ⟨hmap, ⟨hlines, ?_, ?_, ?_, hr0, hr100, hd0, hsubs, hrs, hts, hds, htots⟩, hnonneg⟩
  · simpa using hsub
  · dsimp only
    rw [roundMoney, val_roundDp_away, htaxv, htaxedv]
  · dsimp only
    rw [htotv, val_negate, hgv]
    ring

end Invoicing
