import Invoicing.Proofs.Writes
import Invoicing.Proofs.Repricing
import Invoicing.Proofs.Capitals

/-!
# Stored rows pass their checks again

Every row a reachable store holds is one the service would write again (`Tables.Reissuable`):
its texts hold no U+0000, an invoice's currency is in capital letters and its template is a known
one, every figure fits its column, an item's description has from 1 to 1000 characters and its
quantity and unit price are not negative, and an account's number prefix fits its column.

Each write restores this from what it checked: a new account's prefix passed the text check and
its column; a draft's header passed the text check, its currency is a capital form and its
template the one its request resolved to (`Invoice.CreatedFrom`), and its items passed their
checks and were priced; a rewritten header passed the same checks, keeping the currency and
template it had or taking capital and resolved ones (`Tables.HeaderRewritten`); a status change,
a deletion and a render stamp keep every header field that matters here.

What is proved here:
* `Invoices.HeaderOf.reissuable`, `newItems_reissuable`: what the invoice and item statements
  write from checked input is reissuable.
* `Write.reissuable`: every write keeps the rows reissuable.
* `Reachable.reissuable`: every reachable store holds only reissuable rows.
-/

namespace Invoicing

open Service

theorem Template.length_name_le (t : Template) : t.name.length ≤ 30 := by
  cases t <;> decide

namespace Column

/-- A text holds no U+0000, as every text column requires. -/
def NulFree (s : String) : Prop := Char.ofNat 0 ∉ s.toList

theorem text_of_nulFree {s : String} (h : NulFree s) : text s = .ok s := by
  simp only [text, List.contains_iff_mem]
  rw [if_neg h]

theorem nulFree_of_text {s r : String} (h : text s = .ok r) : NulFree s ∧ r = s := by
  unfold text at h
  split at h
  · cases h
  · rename_i hn
    cases h
    exact ⟨by simpa [NulFree] using hn, rfl⟩

theorem nulFree_of_optionalText {x w : Option String} (h : optionalText x = .ok w) :
    ∀ v ∈ x, NulFree v := by
  intro v hv
  cases x with
  | none => cases hv
  | some x =>
    obtain rfl : v = x := (Option.some.inj hv).symm
    simp only [optionalText] at h
    cases ht : text v with
    | error e => rw [ht] at h; cases h
    | ok r => exact (nulFree_of_text ht).1

theorem optionalText_of_nulFree {x : Option String} (h : ∀ v ∈ x, NulFree v) :
    optionalText x = .ok x := by
  cases x with
  | none => rfl
  | some v =>
    simp only [optionalText, text_of_nulFree (h v rfl)]
    rfl

theorem NulFree.of_isPrefixOf {s r : String} (h : NulFree s) (hp : r.toList <+: s.toList) :
    NulFree r :=
  fun hr => h (hp.subset hr)

/-- What a bounded text column keeps of a text is the text or its beginning, of at most the
column's length. -/
theorem varchar_truncates {n : ℕ} {s r : String} (h : varchar n s = .ok r) :
    r.toList <+: s.toList ∧ r.length ≤ n := by
  unfold varchar at h
  split at h
  · cases h
    exact ⟨List.prefix_refl _, ‹_›⟩
  split at h
  · cases h
    refine ⟨by simpa using List.take_prefix n s.toList, ?_⟩
    simp
  · cases h

theorem varchar_of_length_le {n : ℕ} {s : String} (h : s.length ≤ n) : varchar n s = .ok s := by
  simp [varchar, h]

/-- A bounded text column keeps a text in capital letters in capital letters. -/
theorem varchar_isCapital {n : ℕ} {s r : String} (h : varchar n s = .ok r)
    (hs : Capitals.IsCapital s) : Capitals.IsCapital r :=
  fun c hc => hs c ((varchar_truncates h).1.subset hc)

/-- The template column keeps a known template's name as it is. -/
theorem varchar_template {v r : String} (h : varchar 30 v = .ok r)
    (hv : ∃ t : Template, v = t.name) : ∃ t : Template, r = t.name := by
  obtain ⟨t, rfl⟩ := hv
  rw [varchar_of_length_le (Template.length_name_le t), Except.ok.injEq] at h
  exact ⟨t, h.symm⟩

end Column

theorem Violation.check_eq_nil {ok : Bool} {field message : String} :
    Violation.check ok field message = [] ↔ ok = true := by
  cases ok <;> simp [Violation.check]

namespace Service

/-- A known template's name resolves to itself. -/
theorem resolveTemplate_name (t : Template) : resolveTemplate (some t.name) = .ok t.name := by
  cases t <;> decide

/-- What a template request resolves to is a known template's name. -/
theorem resolveTemplate_ok {given : Option String} {v : String}
    (h : resolveTemplate given = .ok v) : ∃ t : Template, v = t.name := by
  unfold resolveTemplate at h
  split at h
  · cases h
    exact ⟨.standard, rfl⟩
  · split at h
    · cases h
      exact ⟨_, rfl⟩
    · cases h

end Service

/-! ## Reissuable rows -/

/-- An invoice row as the service writes one: its texts hold no U+0000, its currency is in
capital letters, its template is a known one, and its figures fit their columns. -/
structure Invoice.Reissuable (i : Invoice) : Prop where
  currency_nulFree : Column.NulFree i.currency
  currency_capital : Capitals.IsCapital i.currency
  template : ∃ t : Template, i.templateId = t.name
  notes : ∀ v ∈ i.notes, Column.NulFree v
  terms : ∀ v ∈ i.terms, Column.NulFree v
  figures : i.FiguresFit

/-- Only an invoice's currency, template, notes, terms and figures decide whether it is
reissuable. -/
theorem Invoice.Reissuable.of_eq {i j : Invoice} (h : i.Reissuable)
    (hcurrency : j.currency = i.currency) (htemplate : j.templateId = i.templateId)
    (hnotes : j.notes = i.notes) (hterms : j.terms = i.terms) (hfigures : j.figures = i.figures) :
    j.Reissuable := by
  simp only [Invoice.figures, Prod.mk.injEq] at hfigures
  obtain ⟨hs, hr, ht, hd, htot⟩ := hfigures
  obtain ⟨hfree, hcapital, hknown, hn, hterm, ⟨fs, fr, ft, fd, ftot⟩⟩ := h
  exact ⟨hcurrency ▸ hfree, hcurrency ▸ hcapital, htemplate ▸ hknown, hnotes ▸ hn,
    hterms ▸ hterm, ⟨hs ▸ fs, hr ▸ fr, ht ▸ ft, hd ▸ fd, htot ▸ ftot⟩⟩

/-- An item row as the service writes one: its description passes the item rule and holds no
U+0000, and its figures fit their columns. -/
structure Item.Reissuable (it : Item) : Prop where
  description : lengthWithin 1 1000 it.description = true
  description_nulFree : Column.NulFree it.description
  figures : it.FiguresFit

/-- An account's number prefix as the accounts table keeps it: no U+0000, at most twenty
characters. -/
def Account.PrefixKept (a : Account) : Prop :=
  Column.NulFree a.invoiceNumberPrefix ∧ a.invoiceNumberPrefix.length ≤ 20

/-- Every row of the tables is one the service would write again. -/
structure Tables.Reissuable (t : Tables) : Prop where
  accounts : ∀ a ∈ t.accounts, a.PrefixKept
  invoices : ∀ i ∈ t.invoices, i.Reissuable
  items : ∀ it ∈ t.items, it.Reissuable

/-- Every text of a header that passed the text check holds no U+0000. -/
theorem Invoices.checkTexts_nulFree {number : Option String} {n : NewInvoice}
    (h : Invoices.checkTexts number n = .ok ()) :
    ∀ x ∈ [number, some n.currency, some n.templateId, n.notes, n.terms], ∀ v ∈ x,
      Column.NulFree v := by
  intro x hx
  obtain ⟨w, hw⟩ := Invoices.checkTexts_ok h x hx
  exact Column.nulFree_of_optionalText hw

/-- A header written from texts that passed their check, in a currency in capital letters and
under a known template, is reissuable. -/
theorem Invoices.HeaderOf.reissuable {n : NewInvoice} {i row : Invoice} {number : Option String}
    (h : Invoices.HeaderOf n i row) (htexts : Invoices.checkTexts number n = .ok ())
    (hcapital : Capitals.IsCapital row.currency) (htemplate : ∃ t : Template, row.templateId = t.name) :
    row.Reissuable := by
  have hfree := Invoices.checkTexts_nulFree htexts
  have hnotes : row.notes = n.notes := by rw [h.eq]
  have hterms : row.terms = n.terms := by rw [h.eq]
  refine ⟨?_, hcapital, htemplate, hnotes ▸ hfree n.notes (by simp),
    hterms ▸ hfree n.terms (by simp), ?_⟩
  · exact (hfree (some n.currency) (by simp) n.currency rfl).of_isPrefixOf
      (Column.varchar_truncates h.currency).1
  · exact ⟨Column.numeric_fits h.subtotal, Column.numeric_fits h.taxRate,
      Column.numeric_fits h.taxAmount, Column.numeric_fits h.discountAmount,
      Column.numeric_fits h.totalAmount⟩

/-- An item stored from a description that passed the item rule, and from a quantity and a unit
price kept to four places and not negative, is reissuable. -/
theorem Items.Stores.reissuable {account invoice : Uuid} {n : NewItem} {row : Item}
    (h : Items.Stores account invoice n row) (hdesc : lengthWithin 1 1000 n.description = true)
    (hq : n.quantity.scale ≤ 4) (hq0 : 0 ≤ n.quantity.val)
    (hp : n.unitPrice.scale ≤ 4) (hp0 : 0 ≤ n.unitPrice.val) : row.Reissuable := by
  obtain ⟨hfree, hrow⟩ := Column.nulFree_of_text h.description
  have hqv := (Column.numeric_val_of_scale_le h.quantity hq).1
  have hpv := (Column.numeric_val_of_scale_le h.unitPrice hp).1
  refine ⟨hrow ▸ hdesc, hrow ▸ hfree, ?_⟩
  exact ⟨Column.numeric_fits h.quantity, Column.numeric_fits h.unitPrice,
    Column.numeric_fits h.amount, hqv ▸ hq0, hpv ▸ hp0⟩

/-- The rows written for the priced lines of items that passed their checks are reissuable: each
line is kept to four places and not negative. -/
theorem newItems_reissuable {account invoice : Uuid} {k : ℕ} {items : List ItemRequest}
    {lines : List PricedLine} {rows : List Item} (hitems : ∀ it ∈ items, it.violations = [])
    (hlines : ∀ l ∈ lines, l.Exact ∧ 0 ≤ l.quantity.val ∧ 0 ≤ l.unitPrice.val)
    (h : List.Forall₂ (Items.Stores account invoice) (newItems k items lines) rows) :
    ∀ row ∈ rows, row.Reissuable := by
  induction items generalizing k lines rows with
  | nil =>
    cases h
    simp
  | cons it rest ih =>
    cases lines with
    | nil =>
      cases h
      simp
    | cons l ls =>
      simp only [newItems] at h
      cases h with
      | cons hrow hrest =>
        obtain ⟨hl, hq0, hp0⟩ := hlines l List.mem_cons_self
        have hdesc : lengthWithin 1 1000 it.description = true :=
          Violation.check_eq_nil.mp (hitems it List.mem_cons_self)
        intro row hmem
        rcases List.mem_cons.mp hmem with rfl | hmem
        · exact hrow.reissuable hdesc hl.quantity_scale hq0 hl.unitPrice_scale hp0
        · exact ih (fun it' hit' => hitems it' (List.mem_cons_of_mem _ hit'))
            (fun l' hl' => hlines l' (List.mem_cons_of_mem _ hl')) hrest row hmem

/-- The lines of a pricing are kept to four places and not negative. -/
theorem price_lines {lines : List (Decimal × Decimal)} {taxRate discount : Decimal} {T : Totals}
    (h : price lines taxRate discount = .ok T) :
    ∀ l ∈ T.lines, l.Exact ∧ 0 ≤ l.quantity.val ∧ 0 ≤ l.unitPrice.val := by
  obtain ⟨-, hT, hnonneg⟩ := calculate_ok (price_ok h)
  exact fun l hl => ⟨hT.lines l hl, hnonneg l hl⟩

/-! ## Every write keeps the rows reissuable -/

namespace Tables.Reissuable

variable {c t : Tables}

theorem empty : Tables.Reissuable {} := ⟨by simp, by simp, by simp⟩

/-- A write that keeps the accounts, the invoices and the items keeps the rows reissuable. -/
theorem of_rows (hc : c.Reissuable) (ha : t.accounts = c.accounts) (hi : t.invoices = c.invoices)
    (hit : t.items = c.items) : t.Reissuable :=
  ⟨ha ▸ hc.accounts, hi ▸ hc.invoices, hit ▸ hc.items⟩

/-- Rewriting invoices one by one into reissuable rows keeps the rows reissuable. -/
theorem map_invoices (hc : c.Reissuable) {f : Invoice → Invoice}
    (hf : ∀ x ∈ c.invoices, (f x).Reissuable) :
    ({ c with invoices := c.invoices.map f } : Tables).Reissuable := by
  refine ⟨hc.accounts, ?_, hc.items⟩
  intro i hi
  obtain ⟨x, hx, rfl⟩ := List.mem_map.mp hi
  exact hf x hx

/-- A new account keeps its number prefix as its column does, after the text check. -/
theorem openAccount (hc : c.Reissuable) {input : NewAccount} {id : Uuid} {now : Instant}
    {a : Account} (h : Accounts.insertRow input id now c = .ok (a, t)) : t.Reissuable := by
  obtain ⟨rfl, -, hprefix, -, -, -, -, htexts⟩ := Accounts.insertRow_row h
  obtain ⟨v, hv⟩ := htexts input.numberPrefix (by simp)
  obtain ⟨hpre, hlen⟩ := Column.varchar_truncates hprefix
  refine ⟨?_, hc.invoices, hc.items⟩
  intro x hx
  rcases List.mem_append.mp hx with hx | hx
  · exact hc.accounts x hx
  · obtain rfl := List.mem_singleton.mp hx
    exact ⟨(Column.nulFree_of_text hv).1.of_isPrefixOf hpre, hlen⟩

/-- A draft's header and items are written from checked input, and counting it keeps the
account's prefix. -/
theorem draft (hc : c.Reissuable) {account : Uuid} {r : InvoiceRequest} {n : Serials}
    {inv : Invoice} (h : Drafted account r c n inv t) (hcreated : inv.CreatedFrom account r c) :
    t.Reissuable := by
  obtain ⟨totals, acc, issue, due, currency, template, now, now', t, rows, -, itemsValid, priced,
    -, -, written, stored⟩ := h
  obtain ⟨rfl, -, hheader, -, -, htexts⟩ := Invoices.insertRow_ok written
  obtain ⟨owner, tpl, -, hresolved, hcurrency, htemplate, -⟩ := hcreated
  have hinv : inv.Reissuable := hheader.reissuable htexts
    (Column.varchar_isCapital hcurrency (Capitals.isCapital_ofString _))
    (Column.varchar_template htemplate (Service.resolveTemplate_ok hresolved))
  have hrows := newItems_reissuable itemsValid (price_lines priced) stored
  refine ⟨?_, ?_, ?_⟩
  · intro a ha
    obtain ⟨a', ha', rfl⟩ := List.mem_map.mp ha
    simpa [Account.PrefixKept] using hc.accounts a' ha'
  · intro i hi
    rcases List.mem_append.mp hi with hi | hi
    · exact hc.invoices i hi
    · obtain rfl := List.mem_singleton.mp hi
      exact hinv
  · intro it hit
    rcases List.mem_append.mp hit with hit | hit
    · exact hc.items it hit
    · exact hrows it hit

/-- A rewritten header passed the text check, and its currency and template are the ones it had
or capital and resolved ones; given items replacing the stored ones passed their checks. -/
theorem revise (hc : c.Reissuable) {account invoice : Uuid} {r : InvoiceChanges}
    (h : Revised account invoice r c t) (hrewritten : Tables.HeaderRewritten account invoice r c t)
    (hitems : ∀ items, r.items = some items → ∀ it ∈ items, it.violations = []) :
    t.Reissuable := by
  obtain ⟨current, n, row, now, hfound, hheader, htexts, hcurrency, htemplate, hinvoices⟩ :=
    hrewritten
  have hcur := hc.invoices current (Invoices.lookup_some hfound).1
  -- the header keeps the current currency or takes a capital form; likewise the template
  have hcapital : Capitals.IsCapital n.currency := by
    rw [hcurrency]
    cases r.currency with
    | none => exact hcur.currency_capital
    | some v => exact Capitals.isCapital_ofString v
  have hknown : ∃ tpl : Template, n.templateId = tpl.name := by
    rcases htemplate with htpl | htpl
    · exact htpl ▸ hcur.template
    · exact Service.resolveTemplate_ok htpl
  have hrow : row.Reissuable := hheader.reissuable htexts
    (Column.varchar_isCapital hheader.currency hcapital)
    (Column.varchar_template hheader.templateId hknown)
  have hinv : ∀ i ∈ t.invoices, i.Reissuable := by
    rw [hinvoices]
    intro i hi
    obtain ⟨x, hx, rfl⟩ := List.mem_map.mp hi
    split
    · exact hrow
    · exact hc.invoices x hx
  cases h with
  | keep => exact ⟨hc.accounts, hinv, hc.items⟩
  | replace _ _ totals _ _ _ _ _ _ items rows _ _ given priced _ stored =>
    have hrows := newItems_reissuable (hitems items given) (price_lines priced) stored
    refine ⟨hc.accounts, hinv, ?_⟩
    intro it hit
    rcases List.mem_append.mp hit with hit | hit
    · exact hc.items it (List.mem_filter.mp hit).1
    · exact hrows it hit

/-- A status change rewrites an invoice's status, paid instant and update instant only. -/
theorem move (hc : c.Reissuable) {account invoice : Uuid} {r : StatusRequest} {now : Instant}
    (h : Moved account invoice r now c t) : t.Reissuable := by
  obtain ⟨current, st, target, change, stamp, -, found, -, -⟩ := h
  have hcur := hc.invoices current (Invoices.lookup_some found).1
  refine hc.map_invoices fun x hx => ?_
  split
  · exact hcur.of_eq rfl rfl rfl rfl rfl
  · exact hc.invoices x hx

/-- A deletion only takes rows away. -/
theorem remove (hc : c.Reissuable) {account invoice : Uuid} (h : Removed account invoice c t) :
    t.Reissuable := by
  obtain ⟨current, -, -⟩ := h
  exact ⟨hc.accounts, fun i hi => hc.invoices i (List.mem_filter.mp hi).1,
    fun it hit => hc.items it (List.mem_filter.mp hit).1⟩

end Tables.Reissuable

/-- Every write keeps the rows reissuable. -/
theorem Write.reissuable {c c' : Tables} {n n' : Serials} {owner : Option Uuid}
    (h : Write c n owner c' n') (hc : c.Reissuable) : c'.Reissuable := by
  cases h with
  | keep => exact hc
  | openAccount input a now t _ _ opened => exact hc.openAccount opened
  | addClient => exact hc.of_rows rfl rfl rfl
  | replaceClient => exact hc.of_rows rfl rfl rfl
  | deactivateClient => exact hc.of_rows rfl rfl rfl
  | draft account r inv t _ drafted _ _ created => exact hc.draft drafted created
  | revise account invoice r t _ revised _ rewritten itemsValid =>
    exact hc.revise revised rewritten itemsValid
  | move account invoice r now t _ moved => exact hc.move moved
  | remove account invoice t _ removed => exact hc.remove removed
  | stamp account invoice now =>
    refine hc.map_invoices fun x hx => ?_
    split <;> exact (hc.invoices x hx).of_eq rfl rfl rfl rfl rfl

/-- Every row of every reachable store is one the service would write again. -/
theorem Reachable.reissuable {s : Store} (h : Reachable s) : s.committed.Reissuable :=
  h.writes_induction (P := fun c _ => c.Reissuable) Tables.Reissuable.empty
    fun _ _ _ _ _ hc _ hw => hw.reissuable hc

end Invoicing
