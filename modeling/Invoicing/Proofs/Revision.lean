import Invoicing.Proofs.Creation

/-!
# What a change of an invoice does

A change (`updateInvoice`) checks the request and the items it gives, then, in one transaction,
locks the invoice, which must be a draft, and writes its header again. Each field the request gives
replaces the stored one, read as a creation reads it, and each field it omits is kept (`fieldOr`);
the invoice is priced again, with the items given or with the stored ones (`editedLines`), and
given items replace the stored ones.

* `Edited`: what a change that answered stored, field by field, and what it left alone.
* `updateInvoice_not_draft`: a change of an invoice that is not a draft, with a request and items
  that pass their checks, fails with the refusal and writes nothing; only a store that is down or
  failing can make it fail in a statement first.
* `edits_follow_request`: both, from every reachable store.
-/

namespace Invoicing

open StoreOp Service

namespace Service

/-- A field a change may give, read from the text given; the stored value when none is given. -/
def fieldOr {α : Type} (read : String → Except InvoiceError α) (given : Option String)
    (stored : α) : Except InvoiceError α :=
  match given with
  | some v => read v
  | none => .ok stored

/-- The quantities and unit prices a change prices: of the items given, or else of the items
stored for the invoice. -/
def editedLines (account invoice : Uuid) (items : Option (List ItemRequest)) (t : Tables) :
    List (Decimal × Decimal) :=
  match items with
  | some items => requestedLines items
  | none => (Items.ofInvoice account invoice t).map fun it => (it.quantity, it.unitPrice)

variable {account invoice : Uuid} {r : InvoiceChanges} {s s' : Store}

theorem runOn_dateOr (field : String) (given : Option String) (stored : Date) (s : Store) :
    (dateOr field given stored).runOn s = (fieldOr (parseDate field) given stored, s) := by
  cases given with
  | some v => rw [dateOr, runOn_ofExcept, fieldOr]
  | none => rfl

theorem runOn_templateAfter (current : Invoice) (given : Option String) (s : Store) :
    (templateAfter current given).runOn s =
      (fieldOr (fun v => resolveTemplate (some v)) given current.templateId, s) := by
  cases given with
  | some v => rw [templateAfter, runOn_ofExcept, fieldOr]
  | none => rfl

/-- The template a change gives resolves to a known one, and the one it keeps is known when the
stored one is. -/
theorem fieldOr_template_known {given : Option String} {stored template : String}
    (h : fieldOr (fun v => resolveTemplate (some v)) given stored = .ok template)
    (hstored : ∃ t : Template, stored = t.name) : ∃ t : Template, template = t.name := by
  cases given with
  | some v =>
    simp only [fieldOr] at h
    exact resolveTemplate_ok h
  | none =>
    cases h
    exact hstored

end Service

/-- Writing a header in place of an invoice's row, under its identity and account, leaves the
new row where the invoice was found. -/
theorem Invoices.lookup_put {account invoice : Uuid} {c c' : Tables} {current row : Invoice}
    (hfound : Invoices.lookup account invoice c = some current) (hid : row.id = current.id)
    (hacc : row.accountId = current.accountId)
    (ht : c'.invoices = c.invoices.map fun x => if x.id == invoice then row else x) :
    Invoices.lookup account invoice c' = some row := by
  obtain ⟨hmem, howner, hcid⟩ := Invoices.lookup_some hfound
  -- the first row under the invoice's identity becomes `row`, which the lookup takes
  have hsome : (c.invoices.find? fun x =>
      ((if x.id == invoice then row else x).accountId == account &&
        (if x.id == invoice then row else x).id == invoice)).isSome :=
    List.find?_isSome.mpr ⟨current, hmem, by simp [hcid, hid, hacc, howner]⟩
  obtain ⟨x, hx⟩ := Option.isSome_iff_exists.mp hsome
  have hxid : x.id = invoice := by
    by_contra hne
    simpa [hne] using List.find?_some hx
  rw [Invoices.lookup, ht, List.find?_map]
  simp only [Function.comp_def]
  rw [hx]
  simp [hxid]

/-- The fields of a row written as a header over `i` keep `i`'s record, whatever time the row
was stamped with. -/
theorem Invoice.KeepsRecord.of_touched {row i : Invoice} {now : Instant}
    (h : row.KeepsRecord { i with updatedAt := now }) : row.KeepsRecord i :=
  ⟨h.id, h.accountId, h.number, h.status, h.paidAt, h.pdfUrl, h.pdfGeneratedAt, h.emailSent,
    h.emailSentAt, h.emailOpened, h.emailOpenedAt, h.createdAt⟩

/-- What a change of the invoice `invoice` of `account` by `r` stored, from the published tables
`c` to `c'`: the draft `current` became `row`, priced as `T`. The row keeps the invoice's record;
each field the change gives replaces the stored one, and each it omits is kept; the dates are in
order; the currency is the capital form of the one given, or the stored one, when it fits its
column; the prices are those of the given items, or of the stored ones, under the given or the
stored tax rate and discount. Given items replace the stored ones, which are otherwise kept, and
no account or client changes. -/
structure Edited (account invoice : Uuid) (r : InvoiceChanges) (c c' : Tables)
    (current row : Invoice) (T : Totals) : Prop where
  found : Invoices.lookup account invoice c = some current
  draft : current.status? = some .draft
  invoices : c'.invoices = c.invoices.map fun x => if x.id == invoice then row else x
  stored : Invoices.lookup account invoice c' = some row
  record : row.KeepsRecord current
  clientId : row.clientId = r.clientId.getD current.clientId
  active : row.clientId ≠ current.clientId →
    ∃ cl, Clients.lookup account row.clientId false c = some cl
  issueDate : fieldOr (parseDate "issue_date") r.issueDate current.issueDate = .ok row.issueDate
  dueDate : fieldOr (parseDate "due_date") r.dueDate current.dueDate = .ok row.dueDate
  ordered : row.issueDate.toDays ≤ row.dueDate.toDays
  currency : ((r.currency.map Capitals.ofString).getD current.currency).length ≤ 3 →
    row.currency = (r.currency.map Capitals.ofString).getD current.currency
  template : fieldOr (fun v => resolveTemplate (some v)) r.templateId current.templateId =
    .ok row.templateId
  notes : row.notes = r.notes.or current.notes
  terms : row.terms = r.terms.or current.terms
  priced : calculate (editedLines account invoice r.items c) (r.taxRate.getD current.taxRate)
    (r.discountAmount.getD current.discountAmount) = .ok T
  figures : row.subtotal.val = T.subtotal.val ∧ row.taxRate.val = T.taxRate.val ∧
    row.taxAmount.val = T.taxAmount.val ∧ row.discountAmount.val = T.discountAmount.val ∧
    row.totalAmount.val = T.totalAmount.val
  kept : r.items = none → c'.items = c.items
  replaced : ∀ items, r.items = some items → ∃ rows,
    c'.items = c.items.filter (fun it => !(it.accountId == account && it.invoiceId == invoice)) ++
      rows ∧
    Items.ofInvoice account invoice c' = rows ∧ List.Forall₂ StoredLine (items.zip T.lines) rows ∧
    rows.map (·.sortOrder) = (List.range items.length).map Int.ofNat
  accounts : c'.accounts = c.accounts
  clients : c'.clients = c.clients

namespace Service

variable {account invoice : Uuid} {r : InvoiceChanges} {s s' : Store}

/-- A change prices the lines `editedLines` gives, and the given items, priced, are to replace
the stored ones. -/
theorem repriced_ok {items : Option (List ItemRequest)} {taxRate discount : Decimal}
    {totals : Totals} {replacement : Option (List NewItem)}
    (h : (repriced account invoice items taxRate discount).runOn s =
      (.ok (totals, replacement), s')) :
    calculate (editedLines account invoice items s.committed) taxRate discount = .ok totals ∧
      replacement = items.map (fun items => newItems 0 items totals.lines) ∧ s'.SameRows s := by
  cases items with
  | some items =>
    obtain ⟨hpriced, rfl, rfl⟩ := repriced_some_ok h
    exact ⟨price_ok hpriced, rfl, .refl _⟩
  | none =>
    obtain ⟨hpriced, rfl, hs⟩ := repriced_none_ok h
    exact ⟨price_ok hpriced, rfl, hs⟩

/-- Inside the transaction, a change that went through rewrote a draft as `Edited` says, in the
transaction's copy of the published tables, whose invoices carry known templates. -/
theorem reviseDraft_edited {p : Pending} {u : Unit} (hp : s.pending = some p)
    (hc : s.committed = p.tables)
    (htemplates : ∀ i ∈ p.tables.invoices, ∃ t : Template, i.templateId = t.name)
    (h : (reviseDraft account invoice r).runOn s = (.ok u, s')) :
    s'.committed = s.committed ∧
      ∃ p' current row T, s'.pending = some p' ∧
        Edited account invoice r p.tables p'.tables current row T := by
  unfold reviseDraft at h
  -- the lock finds a draft in the transaction's copy
  obtain ⟨current, st, ⟨⟩, s₁, hcurrent, hst, hedit, hs₁, h₄⟩ := lock_check_ok hp h
  have hdraft : current.status? = some .draft := ensureEditable_ok hedit ▸ hst
  -- the fields the change gives, or the stored ones
  obtain ⟨clientId, s₅, hclient, h₅⟩ := bind_eq_ok.mp h₄
  obtain ⟨hcid, hactive, hs₅⟩ := clientAfter_given hclient
  obtain ⟨issue, s₆, hissue, h₆⟩ := bind_eq_ok.mp h₅
  obtain ⟨hissued, rfl⟩ := check_ok (runOn_dateOr _ _ _) hissue
  obtain ⟨due, s₇, hdue, h₇⟩ := bind_eq_ok.mp h₆
  obtain ⟨hdued, rfl⟩ := check_ok (runOn_dateOr _ _ _) hdue
  obtain ⟨⟨⟩, s₈, horder, h₈⟩ := bind_eq_ok.mp h₇
  obtain ⟨hle, rfl⟩ := dueAfterIssue_ok horder
  obtain ⟨template, s₉, htemplate, h₉⟩ := bind_eq_ok.mp h₈
  obtain ⟨htemplated, rfl⟩ := check_ok (runOn_templateAfter _ _) htemplate
  -- the new prices, from the published tables, which the transaction's copy still is
  obtain ⟨⟨totals, replacement⟩, s₁₀, hrep, h₁₀⟩ := bind_eq_ok.mp h₉
  obtain ⟨hpriced, hreplacement, hs₁₀⟩ := repriced_ok hrep
  have hs₉ := hs₅.trans hs₁
  rw [hs₉.committed, hc] at hpriced
  have hs₁₀' := hs₁₀.trans hs₉
  -- the header is rewritten in the transaction's copy
  obtain ⟨row, s₁₁, hheader, h₁₁⟩ := bind_eq_ok.mp h₁₀
  obtain ⟨now, t, hbody, hs₁₁⟩ := query_ok hheader
  rw [Store.view_txn (hs₁₀'.pending.trans hp)] at hbody
  obtain ⟨current', hcurrent', hrow, rfl, -⟩ := setHeader_body_ok hbody
  rw [hcurrent] at hcurrent'
  cases hcurrent'
  rw [Store.put_txn (hs₁₀'.pending.trans hp)] at hs₁₁
  -- what the header says of the row
  have hk := hrow.keepsRecord.of_touched
  have hfields : row.clientId = clientId ∧ row.issueDate = issue ∧ row.dueDate = due ∧
      row.notes = r.notes.or current.notes ∧ row.terms = r.terms.or current.terms := by
    rw [hrow.eq]
    exact ⟨rfl, rfl, rfl, rfl, rfl⟩
  obtain ⟨hrc, hri, hrd, hrn, hrt⟩ := hfields
  -- the stored template is a known one's name, so the row's is too
  obtain ⟨tp, rfl⟩ :=
    fieldOr_template_known htemplated (htemplates current (Invoices.lookup_some hcurrent).1)
  have htpl := Column.varchar_eq_of_length_le hrow.templateId (Template.length_name_le tp)
  obtain ⟨-, hT, -⟩ := calculate_ok hpriced
  have hput : Invoices.lookup account invoice { p.tables with
      invoices := p.tables.invoices.map fun x => if x.id == invoice then row else x } = some row :=
    Invoices.lookup_put hcurrent hk.id hk.accountId rfl
  -- every field but the items, whichever way the items go
  have hedited : ∀ c' : Tables,
      c'.invoices = p.tables.invoices.map (fun x => if x.id == invoice then row else x) →
      c'.accounts = p.tables.accounts → c'.clients = p.tables.clients →
      (r.items = none → c'.items = p.tables.items) →
      (∀ items, r.items = some items → ∃ rows,
        c'.items = p.tables.items.filter
          (fun it => !(it.accountId == account && it.invoiceId == invoice)) ++ rows ∧
        Items.ofInvoice account invoice c' = rows ∧
        List.Forall₂ StoredLine (items.zip totals.lines) rows ∧
        rows.map (·.sortOrder) = (List.range items.length).map Int.ofNat) →
      Edited account invoice r p.tables c' current row totals := by
    intro c' hi ha hcl hkept hreplaced
    refine ⟨hcurrent, hdraft, hi, by rw [Invoices.lookup, hi]; exact hput, hk, hrc.trans hcid,
      fun hne => ?_, hri ▸ hissued, hrd ▸ hdued, hri ▸ hrd ▸ hle,
      Column.varchar_eq_of_length_le hrow.currency, htpl ▸ htemplated, hrn, hrt, hpriced,
      hrow.figures_of_exact hT, hkept, hreplaced, ha, hcl⟩
    rw [← hc, ← hs₁.committed, hrc]
    exact hactive (hrc ▸ hne)
  subst hreplacement
  cases hitems : r.items with
  | none =>
    -- the stored items are kept
    simp only [hitems, Option.map_none, runOn_pure, Prod.mk.injEq] at h₁₁
    obtain ⟨-, rfl⟩ := h₁₁
    refine ⟨hs₁₁.committed.trans hs₁₀'.committed, _, current, row, totals, hs₁₁.pending, ?_⟩
    refine hedited _ rfl rfl rfl (fun _ => rfl) fun _ hsome => ?_
    rw [hitems] at hsome
    cases hsome
  | some items =>
    -- the given items replace the stored ones
    simp only [hitems, Option.map_some] at h₁₁
    obtain ⟨rows, s₁₂, hreplace, h₁₂⟩ := bind_eq_ok.mp h₁₁
    simp only [runOn_pure, Prod.mk.injEq] at h₁₂
    obtain ⟨-, rfl⟩ := h₁₂
    obtain ⟨hstored, hc₁₂, hp₁₂, -⟩ := Items.replace_ok hs₁₁.pending hreplace
    refine ⟨hc₁₂.trans (hs₁₁.committed.trans hs₁₀'.committed), _, current, row, totals, hp₁₂, ?_⟩
    refine hedited _ rfl rfl rfl (fun hnone => ?_) fun items' hsome => ?_
    · rw [hitems] at hnone
      cases hnone
    rw [hitems] at hsome
    cases hsome
    have hlen : totals.lines.length = items.length := by
      rw [hitems] at hpriced
      exact calculate_requestedLines_length hpriced
    -- the rows kept are no longer the invoice's, so the invoice's items are the new rows
    have hold : ∀ it ∈ p.tables.items.filter
        (fun it => !(it.accountId == account && it.invoiceId == invoice)),
        ¬ (it.accountId = account ∧ it.invoiceId = invoice) := by
      rintro it hit ⟨ha, hi⟩
      simp [ha, hi] at hit
    exact ⟨rows, rfl, ofInvoice_newItems hold hlen hT.lines hstored rfl,
      newItems_lines hT.lines hstored, newItems_sortOrders hlen hT.lines hstored⟩

/-- A change whose request and items pass their checks goes straight to its transaction. -/
theorem storeChanges_of_valid (hv : r.violations = [])
    (hitems : ∀ items, r.items = some items → ∀ it ∈ items, it.violations = []) (s : Store) :
    (storeChanges account invoice r).runOn s =
      (transaction "Failed to commit invoice update" (reviseDraft account invoice r)).runOn s := by
  unfold storeChanges
  cases hr : r.items with
  | none => simp only [runOn_bind, hv, validated_nil]
  | some items =>
    simp only [runOn_bind, hv, validated_nil, validateItems_of_valid (hitems items hr)]

/-- A change that answered, from a reachable store, stored what `Edited` says, and answered with
the row it wrote and the invoice's items as they are now stored. -/
theorem updateInvoice_edited {d : InvoiceDetails} (hs : Reachable s)
    (h : (updateInvoice account invoice r).runOn s = (.ok d, s')) :
    ∃ current T, Edited account invoice r s.committed s'.committed current d.invoice T ∧
      d.items = Items.ofInvoice account invoice s'.committed := by
  unfold updateInvoice at h
  obtain ⟨⟨⟩, s₁, hstore, hget⟩ := bind_eq_ok.mp h
  obtain ⟨-, -, ⟨e, he, -⟩ | ⟨a, t₁, t₂, p, hc₁, hp₁, -, hbody, hp₂, -, hc', -⟩⟩ :=
    transaction_cases (Keeps.reviseDraft _ _ _) hs.closed (storeChanges_transaction hstore)
  · cases he
  -- the stored invoices carry known templates
  have htemplates : ∀ i ∈ s.committed.invoices, ∃ t : Template, i.templateId = t.name :=
    fun i hi => (hs.reissuable.invoices i hi).template
  obtain ⟨-, p', current, row, T, hp₃, hedited⟩ := reviseDraft_edited hp₁ hc₁ htemplates hbody
  rw [hp₂] at hp₃
  cases hp₃
  -- the read-back finds the row the change wrote
  obtain ⟨hitems, hs'⟩ := getInvoice_items hget
  rw [← hc'] at hedited
  obtain rfl : d.invoice = row :=
    Option.some.inj ((getInvoice_ok hget).symm.trans hedited.stored)
  obtain ⟨-, hacc, hid⟩ := Invoices.lookup_some hedited.found
  rw [hs'.committed]
  refine ⟨current, T, hedited, ?_⟩
  rw [hitems, hedited.record.accountId, hedited.record.id, hacc, hid]

/-- Inside the transaction, on a store that is up and fails no statement, a change of an invoice
that is not a draft is refused. -/
theorem reviseDraft_not_draft_healthy {i : Invoice} {st : InvoiceStatus} (hs : s.Healthy)
    (hfound : Invoices.lookup account invoice s.committed = some i) (hst : i.status? = some st)
    (hnd : st ≠ .draft) :
    ∃ s₂, (reviseDraft account invoice r).runOn
      { s with clock := s.clock + 1, pending := some ⟨s.committed, s.clock + 1⟩ } =
        (.error (.invalidOperation ("only draft invoices can be edited, invoice is " ++ st.name)),
          s₂) := by
  unfold reviseDraft Invoices.lock
  simp only [runOn_bind, query_read_txn_healthy
      (s := { s with clock := s.clock + 1, pending := some ⟨s.committed, s.clock + 1⟩ }) rfl hs.1 hs.2,
    hfound, orMissing, runOn_pure, storedStatus, hst, runOn_ofExcept, ensureEditable_refuses hnd]
  exact ⟨_, rfl⟩

/-- A change of an invoice that is not a draft, with a request and items that pass their checks,
fails and writes nothing. It fails with the refusal, unless the store is down or failing, when a
statement may fail first. -/
theorem updateInvoice_not_draft {i : Invoice} {st : InvoiceStatus} (hs : Reachable s)
    (hv : r.violations = [])
    (hitems : ∀ items, r.items = some items → ∀ it ∈ items, it.violations = [])
    (hfound : Invoices.lookup account invoice s.committed = some i) (hst : i.status? = some st)
    (hnd : st ≠ .draft) :
    ((updateInvoice account invoice r).runOn s).2.committed = s.committed ∧
      (((updateInvoice account invoice r).runOn s).1 =
          .error (.invalidOperation ("only draft invoices can be edited, invoice is " ++ st.name)) ∨
        ¬ s.Healthy ∧ ∃ m, ((updateInvoice account invoice r).runOn s).1 = .error (.storage m)) := by
  rcases hrun : (storeChanges account invoice r).runOn s with ⟨e | ⟨⟩, s₁⟩
  · have hupdate : (updateInvoice account invoice r).runOn s = (.error e, s₁) := by
      unfold updateInvoice
      rw [runOn_bind, hrun]
    rw [hupdate]
    refine ⟨(Clean.storeChanges _ _ _ s _ _ hs.closed hrun).1, ?_⟩
    rw [storeChanges_of_valid hv hitems] at hrun
    -- on a healthy store the lock and the status read go through, and the refusal comes
    by_cases hh : s.Healthy
    · obtain ⟨s₃, htx⟩ :=
        transaction_healthy_error hh.1 hh.2 (reviseDraft_not_draft_healthy hh hfound hst hnd)
      rw [htx] at hrun
      cases hrun
      exact .inl rfl
    rcases transaction_error hrun with ⟨m, rfl⟩ | ⟨s₂, s₃, hp₂, hbody⟩
    · exact .inr ⟨hh, m, rfl⟩
    unfold reviseDraft at hbody
    rcases lock_check_error hp₂ hfound hst hbody (ensureEditable_refuses hnd) with ⟨m, rfl⟩ | rfl
    · exact .inr ⟨hh, m, rfl⟩
    · exact .inl rfl
  · -- a change that went through found a draft
    obtain ⟨-, -, -, -, hrevised, -⟩ := storeChanges_written hs.closed hrun
    obtain ⟨current, row, found, draft, -⟩ := hrevised.shape
    exact absurd (Invoices.status_of_lookup hfound hst found draft).symm hnd

end Service

/-- How a change of the invoice `invoice` of `account` by `r` from the store `s` answers. When
the request and its items pass their checks and the invoice is not a draft, it fails and writes
nothing, with the refusal, unless the store is down or failing and a statement fails first. When
it answers, it stored what `Edited` says, and answered with the row and the items it stored. -/
structure EditChecked (s : Store) (account invoice : Uuid) (r : InvoiceChanges) : Prop where
  refused : r.violations = [] →
    (∀ items, r.items = some items → ∀ it ∈ items, it.violations = []) →
    ∀ i st, Invoices.lookup account invoice s.committed = some i → i.status? = some st →
      st ≠ .draft →
      ((updateInvoice account invoice r).runOn s).2.committed = s.committed ∧
        (((updateInvoice account invoice r).runOn s).1 =
            .error (.invalidOperation ("only draft invoices can be edited, invoice is " ++ st.name)) ∨
          ¬ s.Healthy ∧ ∃ m, ((updateInvoice account invoice r).runOn s).1 = .error (.storage m))
  edited : ∀ d, ((updateInvoice account invoice r).runOn s).1 = .ok d →
    ∃ current T, Edited account invoice r s.committed
        ((updateInvoice account invoice r).runOn s).2.committed current d.invoice T ∧
      d.items = Items.ofInvoice account invoice ((updateInvoice account invoice r).runOn s).2.committed

/-- From every reachable store, a change of an invoice that is not a draft is refused, and a
change that answers rewrote a draft field by field as its request says. -/
theorem edits_follow_request {s : Store} (hs : Reachable s) (account invoice : Uuid)
    (r : InvoiceChanges) : EditChecked s account invoice r := by
  exact ⟨fun hv hitems _ _ hfound hst hnd => updateInvoice_not_draft hs hv hitems hfound hst hnd,
    fun d hd => updateInvoice_edited hs (Prod.ext hd rfl)⟩

theorem invoicingSession_edits_checked :
    Reachable (Action.runAll invoicingSession {}) ∧
      EditChecked (Action.runAll invoicingSession {}) owner (Table.serial .invoices 1) {} :=
  ⟨Reachable.empty.runAll _,
    edits_follow_request (Reachable.empty.runAll _) owner (Table.serial .invoices 1) {}⟩

/-- The invoice is locked before its status is looked at: a change of a paid invoice, with nothing
to check, fails in the lock when the store fails that statement, not with the refusal. -/
theorem paid_invoice_edit_fails_in_lock :
    let s := Action.runAll (paidSession ++ [.fault (some (.touch .lock .invoices)) 0]) {}
    (Invoices.lookup owner (Table.serial .invoices 1) s.committed).map (·.status) = some "paid" ∧
      ((updateInvoice owner (Table.serial .invoices 1) {}).runOn s).1 =
        .error (.storage ("Failed to lock invoice: error returned from database: " ++
          "canceling statement due to statement timeout")) := by
  simp only [paidSession, invoicingSession, List.cons_append, List.nil_append, Action.runAll,
    List.foldl, Action.apply, provision_owner]
  decide +kernel

end Invoicing
