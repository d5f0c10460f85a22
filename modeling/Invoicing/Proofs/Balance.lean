import Invoicing.Proofs.Integrity
import Invoicing.Proofs.PricingExact

/-!
# Balanced invoices

Every invoice a reachable store holds agrees with its items (`Balanced`): it has at least one
item, the sort orders of its items are `0, …, n - 1`, each item's amount is its quantity times
its unit price rounded to cents, and the header's subtotal, tax, total, tax rate and discount
follow the pricing formulas. Figures are compared by value: the columns keep them at their own
scale, and the pricing never produces more places than a column keeps, so storing loses nothing.

The writes that touch figures each restore the agreement their own way: a creation writes the
header and the items of one pricing; a change of a draft either prices the given items and
replaces the stored ones, or prices the stored items again, which gives back their stored
amounts; a status change and a render stamp keep every figure; a deletion takes the items with
the invoice.

What is proved here:
* `newItems_rows`: the rows written for priced lines carry the lines' values.
* `Balanced.of_header`: a header written from a pricing, over rows of that pricing, is balanced.
* `Change.priced`: every change a call can make keeps every invoice balanced.
* `invoices_balanced`: in every reachable store, every invoice is balanced.
-/

namespace Invoicing

open Service

/-- The items of an invoice: the item rows that name it, in the order of the table. -/
def Tables.itemsOf (t : Tables) (i : Invoice) : List Item := t.items.filter (·.invoiceId == i.id)

/-- The money figures of an invoice header. -/
def Invoice.figures (i : Invoice) : Decimal × Decimal × Decimal × Decimal × Decimal :=
  (i.subtotal, i.taxRate, i.taxAmount, i.discountAmount, i.totalAmount)

/-- An invoice agrees with its items, figures compared by value: it has an item; the sort
orders are `0, …, n - 1`; each amount is the rounded product of quantity and unit price; the
subtotal is the sum of the amounts; the tax is the rounded share of the subtotal at the tax rate;
the total is the subtotal plus the tax less the discount; the tax rate lies between 0 and 100 and
the discount is not negative. -/
structure Balanced (i : Invoice) (items : List Item) : Prop where
  nonempty : items ≠ []
  sortOrders : (items.map (·.sortOrder)).Perm ((List.range items.length).map Int.ofNat)
  amounts : ∀ it ∈ items, it.amount.val = roundHalfAway 2 (it.quantity.val * it.unitPrice.val)
  subtotal : i.subtotal.val = (items.map fun it => it.amount.val).sum
  taxAmount : i.taxAmount.val = roundHalfAway 2 (i.subtotal.val * i.taxRate.val / 100)
  totalAmount : i.totalAmount.val = i.subtotal.val + i.taxAmount.val - i.discountAmount.val
  taxRate_nonneg : 0 ≤ i.taxRate.val
  taxRate_le : i.taxRate.val ≤ 100
  discount_nonneg : 0 ≤ i.discountAmount.val

/-- Only the figures of the header matter. -/
theorem Balanced.of_figures {i i' : Invoice} {items : List Item} (h : Balanced i items)
    (he : i'.figures = i.figures) : Balanced i' items := by
  simp only [Invoice.figures, Prod.mk.injEq] at he
  obtain ⟨hs, hr, ht, hd, htot⟩ := he
  exact ⟨h.nonempty, h.sortOrders, h.amounts, hs ▸ h.subtotal, hs ▸ hr ▸ ht ▸ h.taxAmount,
    hs ▸ ht ▸ hd ▸ htot ▸ h.totalAmount, hr ▸ h.taxRate_nonneg, hr ▸ h.taxRate_le,
    hd ▸ h.discount_nonneg⟩

/-- The tables keep every item's quantity and unit price to four places, and every invoice is
balanced over its items. -/
structure Tables.Priced (t : Tables) : Prop where
  scales : ∀ it ∈ t.items, it.quantity.scale ≤ 4 ∧ it.unitPrice.scale ≤ 4
  balanced : ∀ i ∈ t.invoices, Balanced i (t.itemsOf i)

/-! ## Writing a pricing -/

theorem price_ok {lines : List (Decimal × Decimal)} {taxRate discount : Decimal} {T : Totals}
    (h : price lines taxRate discount = .ok T) : calculate lines taxRate discount = .ok T := by
  unfold price at h
  cases hc : calculate lines taxRate discount <;> rw [hc] at h <;> cases h
  rfl

theorem InvoiceRequest.items_ne_nil {r : InvoiceRequest} (h : r.violations = []) :
    r.items ≠ [] := by
  intro hnil
  simp [InvoiceRequest.violations, itemsViolations, Violation.checkSome, Violation.check,
    hnil] at h

theorem InvoiceChanges.items_ne_nil {r : InvoiceChanges} (h : r.violations = [])
    {items : List ItemRequest} (hi : r.items = some items) : items ≠ [] := by
  rintro rfl
  simp [InvoiceChanges.violations, itemsViolations, Violation.checkSome, Violation.check,
    hi] at h

/-- The rows written for priced lines carry the lines' values: they are numbered on from `k`,
each amount is the rounded product of the row's own quantity and unit price, kept to four
places, and the amounts add up to those of the lines. -/
theorem newItems_rows {account invoice : Uuid} {k : Nat} {items : List ItemRequest}
    {lines : List PricedLine} {rows : List Item} (hlen : lines.length = items.length)
    (hlines : ∀ l ∈ lines, l.Exact)
    (h : List.Forall₂ (Items.Stores account invoice) (newItems k items lines) rows) :
    rows.map (·.sortOrder) = (List.range' k items.length).map Int.ofNat ∧
      (∀ row ∈ rows, row.amount.val = roundHalfAway 2 (row.quantity.val * row.unitPrice.val) ∧
        row.quantity.scale ≤ 4 ∧ row.unitPrice.scale ≤ 4) ∧
      (rows.map fun row => row.amount.val).sum = (lines.map fun l => l.amount.val).sum := by
  induction items generalizing k lines rows with
  | nil =>
    obtain rfl : lines = [] := List.eq_nil_of_length_eq_zero hlen
    cases h
    simp
  | cons it rest ih =>
    cases lines with
    | nil => simp at hlen
    | cons l ls =>
      simp only [newItems] at h
      cases h with
      | cons hrow hrest =>
        rename_i row rows'
        have hl := hlines l List.mem_cons_self
        obtain ⟨hsort, hall, hsum⟩ :=
          ih (by simpa using hlen) (fun l' hl' => hlines l' (List.mem_cons_of_mem _ hl')) hrest
        -- the columns keep the line's figures exactly
        obtain ⟨hq, hqs⟩ := Column.numeric_val_of_scale_le hrow.quantity hl.quantity_scale
        obtain ⟨hp, hps⟩ := Column.numeric_val_of_scale_le hrow.unitPrice hl.unitPrice_scale
        obtain ⟨ha, -⟩ := Column.numeric_val_of_scale_le hrow.amount hl.amount_scale
        refine ⟨?_, ?_, ?_⟩
        · simp [hrow.sortOrder, hsort, List.range'_succ]
        · intro r hr
          rcases List.mem_cons.mp hr with rfl | hr
          · exact ⟨by rw [ha, hl.amount, hq, hp], hqs, hps⟩
          · exact hall r hr
        · simp [ha, hsum]

/-- The rows written for a pricing of the requested items, numbered from 0. -/
theorem newItems_written {account invoice : Uuid} {items : List ItemRequest} {T : Totals}
    {rows : List Item} (hne : items ≠ []) (hlen : T.lines.length = items.length) (hT : T.Exact)
    (h : List.Forall₂ (Items.Stores account invoice) (newItems 0 items T.lines) rows) :
    rows ≠ [] ∧ (rows.map (·.sortOrder)).Perm ((List.range rows.length).map Int.ofNat) ∧
      (∀ row ∈ rows, row.amount.val = roundHalfAway 2 (row.quantity.val * row.unitPrice.val) ∧
        row.quantity.scale ≤ 4 ∧ row.unitPrice.scale ≤ 4) ∧
      (rows.map fun row => row.amount.val).sum = (T.lines.map fun l => l.amount.val).sum := by
  obtain ⟨hsort, hall, hsum⟩ := newItems_rows hlen hT.lines h
  have hrl : rows.length = items.length := by simpa using congrArg List.length hsort
  refine ⟨?_, ?_, hall, hsum⟩
  · rw [← List.length_pos_iff, hrl]
    exact List.length_pos_iff.mpr hne
  · rw [hsort, hrl, List.range_eq_range']

/-- A header written from a pricing, over items whose amounts add up to the pricing's, is
balanced: the columns keep the pricing's figures exactly. -/
theorem Balanced.of_header {T : Totals} (hT : T.Exact) {account client : Uuid}
    {number currency template : String} {issue due : Date} {notes terms : Option String}
    {i row : Invoice}
    (h : Invoices.HeaderOf (headerOf account client number issue due currency template T notes terms)
      i row)
    {items : List Item} (hne : items ≠ [])
    (hsort : (items.map (·.sortOrder)).Perm ((List.range items.length).map Int.ofNat))
    (hamounts : ∀ it ∈ items, it.amount.val = roundHalfAway 2 (it.quantity.val * it.unitPrice.val))
    (hsum : (items.map fun it => it.amount.val).sum = (T.lines.map fun l => l.amount.val).sum) :
    Balanced row items := by
  have hs : row.subtotal.val = T.subtotal.val :=
    (Column.numeric_val_of_scale_le h.subtotal hT.subtotal_scale).1
  have hr : row.taxRate.val = T.taxRate.val :=
    (Column.numeric_val_of_scale_le h.taxRate hT.taxRate_scale).1
  have ht : row.taxAmount.val = T.taxAmount.val :=
    (Column.numeric_val_of_scale_le h.taxAmount hT.taxAmount_scale).1
  have hd : row.discountAmount.val = T.discountAmount.val :=
    (Column.numeric_val_of_scale_le h.discountAmount hT.discount_scale).1
  have htot : row.totalAmount.val = T.totalAmount.val :=
    (Column.numeric_val_of_scale_le h.totalAmount hT.total_scale).1
  refine ⟨hne, hsort, hamounts, ?_, ?_, ?_, ?_, ?_, ?_⟩
  · rw [hs, hsum]
    exact hT.subtotal
  · rw [ht, hs, hr]
    exact hT.taxAmount
  · rw [htot, hs, ht, hd]
    exact hT.totalAmount
  · exact hr ▸ hT.taxRate_nonneg
  · exact hr ▸ hT.taxRate_le
  · exact hd ▸ hT.discount_nonneg

/-- Pricing stored items again gives back their stored amounts, when they are kept to four
places and their amounts are the rounded products. -/
theorem lines_amounts_of_stored {stored : List Item} {taxRate discount : Decimal} {T : Totals}
    (h : calculate (stored.map fun it => (it.quantity, it.unitPrice)) taxRate discount = .ok T)
    (hstored : ∀ it ∈ stored,
      it.amount.val = roundHalfAway 2 (it.quantity.val * it.unitPrice.val) ∧
        it.quantity.scale ≤ 4 ∧ it.unitPrice.scale ≤ 4) :
    T.lines.map (fun l => l.amount.val) = stored.map (fun it => it.amount.val) := by
  obtain ⟨hmap, hT, -⟩ := calculate_ok h
  have hlines : T.lines.map (fun l => l.amount.val) =
      (T.lines.map fun l => (l.quantity, l.unitPrice)).map
        (fun x => roundHalfAway 2 (x.1.val * x.2.val)) := by
    rw [List.map_map]
    exact List.map_congr_left fun l hl => (hT.lines l hl).amount
  rw [hlines, hmap, List.map_map, List.map_map]
  refine List.map_congr_left fun it hit => ?_
  obtain ⟨ha, hqs, hps⟩ := hstored it hit
  simp [val_roundRate_of_scale_le hqs, val_roundRate_of_scale_le hps, ha]

/-- The service reads an invoice's items by invoice and account: in linked tables those are
its items, in sort order. -/
theorem ofInvoice_perm {t : Tables} {n : Serials} (hl : t.Linked n) {current : Invoice}
    (hcur : current ∈ t.invoices) :
    (Items.ofInvoice current.accountId current.id t).Perm (t.itemsOf current) := by
  refine (List.mergeSort_perm _ _).trans (List.Perm.of_eq (List.filter_congr fun it hit => ?_))
  by_cases hid : it.invoiceId = current.id
  · obtain ⟨x, hx, hxid, hacc⟩ := hl.owned it hit
    obtain rfl := hl.eq_of_id hx hcur (hxid.trans hid)
    simp [hid, hacc]
  · simp [hid]

/-! ## Every change keeps the invoices balanced -/

theorem Tables.itemsOf_congr {t t' : Tables} {i i' : Invoice} (hit : t'.items = t.items)
    (hid : i'.id = i.id) : t'.itemsOf i' = t.itemsOf i := by
  simp [Tables.itemsOf, hit, hid]

/-- Appending the rows of a new invoice leaves the items of every invoice already there: no
stored invoice has the new identity. -/
theorem Tables.itemsOf_append {t t' : Tables} {n : Serials} (hl : t.Linked n) {inv : Invoice}
    {rows : List Item} (hid : inv.id = Table.serial .invoices (n.invoices + 1))
    (hrows : ∀ it ∈ rows, it.invoiceId = inv.id) (hit : t'.items = t.items ++ rows)
    {x : Invoice} (hx : x ∈ t.invoices) : t'.itemsOf x = t.itemsOf x := by
  have hnone : rows.filter (·.invoiceId == x.id) = [] := List.filter_eq_nil_iff.mpr
    fun it hit' => by simpa [hrows it hit', hid] using (hl.fresh hx).symm
  rw [Tables.itemsOf, hit, List.filter_append, hnone, List.append_nil]
  rfl

/-- Replacing the items of the invoice `id` leaves the items of every other invoice. -/
theorem Tables.itemsOf_replace {t t' : Tables} {account id : Uuid} {rows : List Item}
    (hrows : ∀ it ∈ rows, it.invoiceId = id)
    (hit : t'.items = t.items.filter (fun it => !(it.accountId == account && it.invoiceId == id))
      ++ rows)
    {x : Invoice} (hne : x.id ≠ id) : t'.itemsOf x = t.itemsOf x := by
  have hnone : rows.filter (·.invoiceId == x.id) = [] := List.filter_eq_nil_iff.mpr
    fun it hit' => by simp [hrows it hit', Ne.symm hne]
  rw [Tables.itemsOf, hit, List.filter_append, hnone, List.append_nil, List.filter_filter]
  refine List.filter_congr fun it _ => ?_
  by_cases h' : it.invoiceId = x.id
  · simp [h', hne]
  · simp [h']

/-- Deleting invoices with their items leaves the items of every invoice kept: a deleted invoice
with the identity of a kept one would be that one. -/
theorem Tables.itemsOf_remove {t t' : Tables} {n : Serials} (hl : t.Linked n)
    (gone : Invoice → Bool)
    (hit : t'.items = t.items.filter fun it =>
      !((t.invoices.filter gone).any (·.id == it.invoiceId)))
    {x : Invoice} (hx : x ∈ t.invoices) (hkept : gone x = false) : t'.itemsOf x = t.itemsOf x := by
  rw [Tables.itemsOf, hit, List.filter_filter]
  refine List.filter_congr fun it _ => ?_
  by_cases h' : it.invoiceId = x.id
  · have hnot : ((t.invoices.filter gone).any (·.id == it.invoiceId)) = false := by
      rw [List.any_eq_false]
      intro y hy hyid
      obtain ⟨hy, hgone⟩ := List.mem_filter.mp hy
      obtain rfl := hl.eq_of_id hy hx (by simpa [h'] using hyid)
      simp [hgone] at hkept
    rw [hnot]
    simp [h']
  · simp [h']

namespace Tables.Priced

variable {t t' : Tables} {n : Serials}

theorem of_eq (hp : t.Priced) (hi : t'.invoices = t.invoices) (hit : t'.items = t.items) :
    t'.Priced :=
  ⟨hit ▸ hp.scales, fun i hi' => Tables.itemsOf_congr hit rfl ▸ hp.balanced i (hi ▸ hi')⟩

/-- Rewriting invoices in place, each keeping its identity and staying balanced over its
items. -/
theorem map_invoices (hp : t.Priced) {f : Invoice → Invoice}
    (hf : ∀ x ∈ t.invoices, (f x).id = x.id ∧ Balanced (f x) (t.itemsOf x))
    (hi : t'.invoices = t.invoices.map f) (hit : t'.items = t.items) : t'.Priced := by
  refine ⟨hit ▸ hp.scales, fun i hi' => ?_⟩
  rw [hi] at hi'
  obtain ⟨x, hx, rfl⟩ := List.mem_map.mp hi'
  rw [Tables.itemsOf_congr hit (hf x hx).1]
  exact (hf x hx).2

/-- Putting a balanced `row` in place of the invoice with its identity. -/
theorem put_row (hp : t.Priced) (hl : t.Linked n) {current row : Invoice}
    (hcur : current ∈ t.invoices) (hid : row.id = current.id)
    (hb : Balanced row (t.itemsOf current)) :
    ∀ x ∈ t.invoices, (if x.id == current.id then row else x).id = x.id ∧
      Balanced (if x.id == current.id then row else x) (t.itemsOf x) := by
  intro x hx
  by_cases hxid : x.id = current.id
  · obtain rfl := hl.eq_of_id hx hcur hxid
    simpa [hid] using hb
  · simpa [hxid] using hp.balanced x hx

/-- Adding an invoice under the next identity, balanced over its own new rows. -/
theorem insert (hp : t.Priced) (hl : t.Linked n) {inv : Invoice} {rows : List Item}
    (hid : inv.id = Table.serial .invoices (n.invoices + 1))
    (hrows : ∀ it ∈ rows, it.invoiceId = inv.id ∧ it.quantity.scale ≤ 4 ∧ it.unitPrice.scale ≤ 4)
    (hb : Balanced inv rows) (hi : t'.invoices = t.invoices ++ [inv])
    (hit : t'.items = t.items ++ rows) : t'.Priced := by
  -- no stored item names the new identity, and the new rows name no other invoice
  have hold : ∀ x ∈ t.invoices, t'.itemsOf x = t.itemsOf x := fun x hx =>
    Tables.itemsOf_append hl hid (fun it hit' => (hrows it hit').1) hit hx
  have hnew : t'.itemsOf inv = rows := by
    have hnone : t.items.filter (·.invoiceId == inv.id) = [] := List.filter_eq_nil_iff.mpr
      fun it hit' => by
        obtain ⟨x, hx, hxid, -⟩ := hl.owned it hit'
        simpa [← hxid, hid] using hl.fresh hx
    have hall : rows.filter (·.invoiceId == inv.id) = rows :=
      List.filter_eq_self.mpr fun it hit' => by simp [(hrows it hit').1]
    rw [Tables.itemsOf, hit, List.filter_append, hnone, hall, List.nil_append]
  refine ⟨fun it hit' => ?_, fun i hi' => ?_⟩
  · rw [hit, List.mem_append] at hit'
    rcases hit' with hit' | hit'
    · exact hp.scales it hit'
    · exact (hrows it hit').2
  · rw [hi, List.mem_append, List.mem_singleton] at hi'
    rcases hi' with hi' | rfl
    · rw [hold i hi']
      exact hp.balanced i hi'
    · rw [hnew]
      exact hb

/-- Putting a balanced `row` in place of the invoice `current` of `account`, whose items are
replaced by new rows of its own. -/
theorem replace (hp : t.Priced) (hl : t.Linked n) {current row : Invoice} {account : Uuid}
    (hcur : current ∈ t.invoices) (hacc : current.accountId = account) (hid : row.id = current.id)
    {rows : List Item}
    (hrows : ∀ it ∈ rows,
      it.invoiceId = current.id ∧ it.quantity.scale ≤ 4 ∧ it.unitPrice.scale ≤ 4)
    (hb : Balanced row rows)
    (hi : t'.invoices = t.invoices.map fun x => if x.id == current.id then row else x)
    (hit : t'.items = t.items.filter (fun it =>
      !(it.accountId == account && it.invoiceId == current.id)) ++ rows) : t'.Priced := by
  -- the other invoices keep their items
  have hother : ∀ x ∈ t.invoices, x.id ≠ current.id → t'.itemsOf x = t.itemsOf x :=
    fun x _ hne => Tables.itemsOf_replace (fun it hit' => (hrows it hit').1) hit hne
  -- the stored items of `current` all belong to `account`, so all of them go
  have hnew : t'.itemsOf row = rows := by
    have hnone : (t.items.filter fun it =>
        !(it.accountId == account && it.invoiceId == current.id)).filter
          (·.invoiceId == row.id) = [] := by
      rw [List.filter_filter, List.filter_eq_nil_iff]
      intro it hit'
      by_cases h' : it.invoiceId = current.id
      · obtain ⟨x, hx, hxid, hxacc⟩ := hl.owned it hit'
        obtain rfl := hl.eq_of_id hx hcur (hxid.trans h')
        simp [h', hid, ← hxacc, hacc]
      · simp [h', hid]
    have hall : rows.filter (·.invoiceId == row.id) = rows :=
      List.filter_eq_self.mpr fun it hit' => by simp [(hrows it hit').1, hid]
    rw [Tables.itemsOf, hit, List.filter_append, hnone, hall, List.nil_append]
  refine ⟨fun it hit' => ?_, fun i hi' => ?_⟩
  · rw [hit, List.mem_append] at hit'
    rcases hit' with hit' | hit'
    · exact hp.scales it (List.mem_filter.mp hit').1
    · exact (hrows it hit').2
  · rw [hi] at hi'
    obtain ⟨x, hx, rfl⟩ := List.mem_map.mp hi'
    by_cases hxid : x.id = current.id
    · obtain rfl := hl.eq_of_id hx hcur hxid
      simpa [hnew] using hb
    · simpa [hxid, hother x hx hxid] using hp.balanced x hx

/-- Deleting invoices together with their items. -/
theorem remove (hp : t.Priced) (hl : t.Linked n) (gone : Invoice → Bool)
    (hi : t'.invoices = t.invoices.filter fun x => !gone x)
    (hit : t'.items = t.items.filter fun it =>
      !((t.invoices.filter gone).any (·.id == it.invoiceId))) : t'.Priced := by
  refine ⟨fun it hit' => hp.scales it (List.mem_filter.mp (hit ▸ hit')).1, fun i hi' => ?_⟩
  rw [hi, List.mem_filter] at hi'
  obtain ⟨hx, hkept⟩ := hi'
  rw [Tables.itemsOf_remove hl gone hit hx (by simpa using hkept)]
  exact hp.balanced i hx

end Tables.Priced

/-- Every change a call can make keeps the invoices of linked tables balanced. -/
theorem Change.priced {c c' : Tables} {n n' : Serials} (h : Change c n c' n') (hl : c.Linked n)
    (hp : c.Priced) : c'.Priced := by
  cases h with
  | keep => exact hp
  | openAccount input a now t _ opened =>
    obtain ⟨rfl, -⟩ := Accounts.insertRow_row opened
    exact hp.of_eq rfl rfl
  | clients cs => exact hp.of_eq rfl rfl
  | draft account r inv t _ drafted =>
    obtain ⟨totals, acc, issue, due, currency, template, now, now', t, rows, valid, -, priced, -, -,
      written, stored⟩ := drafted
    obtain ⟨rfl, -, hh, -, -⟩ := Invoices.insertRow_ok written
    obtain ⟨hmap, hT, -⟩ := calculate_ok (price_ok priced)
    have hlen : totals.lines.length = r.items.length := by
      simpa [requestedLines] using congrArg List.length hmap
    obtain ⟨hne, hsort, hall, hsum⟩ :=
      newItems_written (InvoiceRequest.items_ne_nil valid) hlen hT stored
    exact hp.insert hl hh.id_eq (fun it hit => ⟨(Items.stores_mem stored hit).1, (hall it hit).2⟩)
      (Balanced.of_header hT hh hne hsort (fun it hit => (hall it hit).1) hsum) rfl rfl
  | revise account invoice r t _ valid revised =>
    cases revised with
    | keep current row totals clientId issue due currency template now found _ _ priced header =>
      obtain ⟨hcur, rfl, rfl⟩ := Invoices.lookup_some found
      have hb := hp.balanced current hcur
      -- the stored items, priced again, give back their stored amounts
      have hperm := ofInvoice_perm hl hcur
      have hlines := lines_amounts_of_stored (price_ok priced) fun it hit =>
        ⟨hb.amounts it (hperm.subset hit),
          hp.scales it (List.mem_filter.mp (hperm.subset hit)).1⟩
      refine hp.map_invoices (hp.put_row hl hcur header.id_eq ?_) rfl rfl
      refine Balanced.of_header (calculate_ok (price_ok priced)).2.1 header hb.nonempty
        hb.sortOrders hb.amounts ?_
      rw [hlines]
      exact (hperm.map _).sum_eq.symm
    | replace current row totals clientId issue due currency template now items rows found _ given
        priced header stored =>
      obtain ⟨hcur, hacc, rfl⟩ := Invoices.lookup_some found
      obtain ⟨hmap, hT, -⟩ := calculate_ok (price_ok priced)
      have hlen : totals.lines.length = items.length := by
        simpa [requestedLines] using congrArg List.length hmap
      obtain ⟨hne, hsort, hall, hsum⟩ :=
        newItems_written (InvoiceChanges.items_ne_nil valid given) hlen hT stored
      exact hp.replace hl hcur hacc header.id_eq
        (fun it hit => ⟨(Items.stores_mem stored hit).1, (hall it hit).2⟩)
        (Balanced.of_header hT header hne hsort (fun it hit => (hall it hit).1) hsum) rfl rfl
  | move account invoice r now t _ moved =>
    obtain ⟨current, st, target, change, stamp, -, found, -, -⟩ := moved
    obtain ⟨hcur, -, rfl⟩ := Invoices.lookup_some found
    -- a status change keeps every figure
    refine hp.map_invoices (hp.put_row hl hcur ?_ ?_) rfl rfl
    · rfl
    · exact (hp.balanced current hcur).of_figures rfl
  | remove account invoice t _ removed =>
    obtain ⟨current, -, -⟩ := removed
    exact hp.remove hl (fun x => x.accountId == account && x.id == invoice) rfl rfl
  | stamp account invoice now =>
    refine hp.map_invoices (fun x hx => ?_) rfl rfl
    split
    · exact ⟨rfl, (hp.balanced x hx).of_figures rfl⟩
    · exact ⟨rfl, hp.balanced x hx⟩

/-- The tables of every reachable store are linked, keep item figures to four places, and
balance every invoice. -/
theorem Reachable.priced {s : Store} (h : Reachable s) :
    s.committed.Linked s.serials ∧ s.committed.Priced :=
  h.tables_induction (P := fun c n => c.Linked n ∧ c.Priced) ⟨⟨by simp, by simp, by simp⟩,
    ⟨by simp, by simp⟩⟩ fun _ _ _ _ hc hn hch => ⟨hch.linked hc.1 hn, hch.priced hc.1 hc.2⟩

/-- In every store a session reaches, every invoice agrees with its items. -/
theorem invoices_balanced {s : Store} (h : Reachable s) :
    ∀ i ∈ s.committed.invoices, Balanced i (s.committed.itemsOf i) :=
  h.priced.2.balanced


/-- The session that invoices one item of work reaches a store holding an invoice, and it is
balanced. -/
theorem invoicingSession_balanced :
    Reachable (Action.runAll invoicingSession {}) ∧
      (Action.runAll invoicingSession {}).committed.invoices ≠ [] ∧
      ∀ i ∈ (Action.runAll invoicingSession {}).committed.invoices,
        Balanced i ((Action.runAll invoicingSession {}).committed.itemsOf i) := by
  have h := Reachable.empty.runAll invoicingSession
  refine ⟨h, ?_, invoices_balanced h⟩
  simp only [invoicingSession, Action.runAll, List.foldl, Action.apply, provision_owner]
  decide +kernel

end Invoicing
