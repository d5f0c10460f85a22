import Invoicing.Proofs.Statements

/-!
# Creating and changing drafts

What creating an invoice and changing one do to the published tables, read off their code once.

Both check the request before anything is written, and write inside one transaction, so a
failure changes no published row (`Clean.storeInvoice`, `Clean.storeChanges`). A creation that
succeeded published a draft (`Drafted`): the account was found with allowance left, the draft was
written under the account's next number and the next invoice identity, with the priced items, and
the invoice was counted on the account. A change that succeeded published a rewritten draft
(`Revised`): the invoice was a draft, its header was replaced by one priced with the new items or
with the stored ones read from the published tables, and its items were kept or replaced.

A change, a status change and a deletion all begin their transaction by locking the invoice and
checking its stored status; what that prefix gives is stated once (`lock_check_ok`).
-/

namespace Invoicing

/-- Every invoice of `t` is one of `c` with its identity, account and client, or an invoice of
`account` billing an active client of `account` in `c`. -/
def Tables.BillsFrom (t : Tables) (account : Uuid) (c : Tables) : Prop :=
  ∀ x ∈ t.invoices, (∃ y ∈ c.invoices, y.id = x.id ∧ y.accountId = x.accountId ∧
      y.clientId = x.clientId) ∨
    (x.accountId = account ∧ ∃ cl, Clients.lookup account x.clientId false c = some cl)

/-- Rewriting an invoice of the account in place, under its identity, keeps the invoices billing
as before, when the new row bills the same client or an active client of the account. -/
theorem Tables.billsFrom_put {account invoice : Uuid} {c t : Tables} {current row : Invoice}
    (hfound : Invoices.lookup account invoice c = some current)
    (hid : row.id = current.id) (hacc : row.accountId = current.accountId)
    (hclient : row.clientId = current.clientId ∨
      ∃ cl, Clients.lookup account row.clientId false c = some cl)
    (ht : t.invoices = c.invoices.map fun x => if x.id == invoice then row else x) :
    t.BillsFrom account c := by
  obtain ⟨hmem, howner, -⟩ := Invoices.lookup_some hfound
  intro x hx
  rw [ht] at hx
  obtain ⟨y, hy, rfl⟩ := List.mem_map.mp hx
  by_cases hyi : y.id = invoice
  · simp only [hyi, beq_self_eq_true, if_true]
    rcases hclient with hsame | hother
    · exact .inl ⟨current, hmem, hid.symm, hacc.symm, hsame.symm⟩
    · exact .inr ⟨hacc.trans howner, hother⟩
  · simp only [beq_iff_eq, hyi, if_false]
    exact .inl ⟨y, hy, rfl, rfl, rfl⟩

/-- The dates, the currency and the template of `inv` are those a creation of `r` for `account`
writes on the tables `c`: the request's dates as read, the capital form of the currency asked for,
or of the account's default, and the template the request resolves to, each as its column keeps
it. -/
def Invoice.CreatedFrom (inv : Invoice) (account : Uuid) (r : InvoiceRequest) (c : Tables) : Prop :=
  ∃ owner template, Accounts.lookup account c = some owner ∧
    Service.resolveTemplate r.templateId = .ok template ∧
    Column.varchar 3 (Capitals.ofString (r.currency.getD owner.defaultCurrency)) =
      .ok inv.currency ∧
    Column.varchar 30 template = .ok inv.templateId ∧
    parseDate "issue_date" r.issueDate = .ok inv.issueDate ∧
    parseDate "due_date" r.dueDate = .ok inv.dueDate

/-- The header an edit of the invoice `invoice` of `account` wrote, from the tables `c` to `t`:
over the stored invoice `current`, a header `n` whose texts passed their check, in the currency
given (in capitals) or the current one, and under the current template or the one the request
resolved to; only that invoice's row changed. -/
def Tables.HeaderRewritten (account invoice : Uuid) (r : InvoiceChanges) (c t : Tables) : Prop :=
  ∃ current n row now, Invoices.lookup account invoice c = some current ∧
    Invoices.HeaderOf n { current with updatedAt := now } row ∧
    Invoices.checkTexts none n = .ok () ∧
    n.currency = (r.currency.map Capitals.ofString).getD current.currency ∧
    (n.templateId = current.templateId ∨ Service.resolveTemplate r.templateId = .ok n.templateId) ∧
    t.invoices = c.invoices.map fun x => if x.id == invoice then row else x

namespace Service

open StoreOp

/-- Checking the items of a request changes nothing, and passes only when every item passes. -/

theorem validateItems_ok {items : List ItemRequest} {s s' : Store} {u : Unit}
    (h : (validateItems items).runOn s = (.ok u, s')) :
    (∀ it ∈ items, it.violations = []) ∧ s = s' := by
  induction items generalizing s with
  | nil =>
    cases h
    exact ⟨by simp, rfl⟩
  | cons it rest ih =>
    obtain ⟨⟨⟩, s₁, hit, h₁⟩ := bind_eq_ok.mp h
    obtain ⟨hv, rfl⟩ := validated_ok hit
    obtain ⟨hall, rfl⟩ := ih h₁
    exact ⟨List.forall_mem_cons.mpr ⟨hv, hall⟩, rfl⟩

theorem Keeps.validateItems (items : List ItemRequest) : Keeps Store.SameRows (validateItems items) := by
  induction items with
  | nil => exact Keeps.pure _
  | cons it rest ih =>
    exact Keeps.bind (Keeps.validated _) fun _ => ih

theorem Keeps.dueAfterIssue (issue due : Date) : Keeps Store.SameRows (dueAfterIssue issue due) := by
  unfold Service.dueAfterIssue
  split
  · exact Keeps.throw _
  · exact Keeps.pure _

/-- Inside the transaction, a creation that succeeded found the account with allowance left,
wrote the draft under the account's next number with the next invoice identity, wrote the
items, and counted the invoice on the account. -/
theorem insertDraft_ok {account : Uuid} {r : InvoiceRequest} {issue due : Date}
    {currency template : String} {totals : Totals} {s s' : Store} {p : Pending} {inv : Invoice}
    (hp : s.pending = some p)
    (h : (insertDraft account r issue due currency template totals).runOn s = (.ok inv, s')) :
    ∃ acc now t rows now',
      Accounts.lookup account p.tables = some acc ∧ acc.checkQuota = .ok () ∧
      Invoices.insertRow
          (headerOf account r.clientId (invoiceNumber acc.invoiceNumberPrefix acc.nextInvoiceNumber)
            issue due currency template totals r.notes r.terms)
          (Table.serial .invoices (s.serials.get .invoices + 1)) now p.tables = .ok (inv, t) ∧
      List.Forall₂ (Items.Stores account inv.id) (newItems 0 r.items totals.lines) rows ∧
      s'.committed = s.committed ∧
      s'.pending = some { p with tables :=
        { t with items := t.items ++ rows,
                 accounts := t.accounts.map (Accounts.countInvoice account now') } } ∧
      (s.serials.bump .invoices) ≤ s'.serials := by
  unfold insertDraft at h
  obtain ⟨found, s₁, hlock, h₁⟩ := bind_eq_ok.mp h
  obtain ⟨rfl, hs₁⟩ := query_read_ok hlock
  obtain ⟨acc, s₂, hmissing, h₂⟩ := bind_eq_ok.mp h₁
  obtain ⟨hacc, rfl⟩ := orMissing_ok hmissing
  obtain ⟨⟨⟩, s₃, hcheck, h₃⟩ := bind_eq_ok.mp h₂
  obtain ⟨hquota, rfl⟩ := ofExcept_ok hcheck
  obtain ⟨created, s₄, hins, h₄⟩ := bind_eq_ok.mp h₃
  obtain ⟨rows, s₅, hall, h₅⟩ := bind_eq_ok.mp h₄
  obtain ⟨⟨⟩, s₆, hadv, h₆⟩ := bind_eq_ok.mp h₅
  simp only [runOn_pure, Prod.mk.injEq, Except.ok.injEq] at h₆
  obtain ⟨rfl, rfl⟩ := h₆
  -- the lock and the quota check change no row
  have hp₁ : s₁.pending = some p := hs₁.pending.trans hp
  rw [Store.view_txn hp] at hacc
  -- the draft goes into the transaction's copy
  obtain ⟨now, t, hrow, hs₄⟩ := Invoices.insert_ok hins
  rw [Store.view_txn hp₁, hs₁.serials] at hrow
  rw [Store.put_txn hp₁] at hs₄
  -- then its items
  obtain ⟨hstores, hc₅, hp₅, hse₅⟩ := Items.insertAll_ok hs₄.pending hall
  -- and the counter
  obtain ⟨now', t', hbody, hs₆⟩ := query_ok hadv
  rw [Store.view_txn hp₅] at hbody
  cases hbody
  rw [Store.put_txn hp₅] at hs₆
  refine ⟨acc, now, t, rows, now', hacc, hquota, hrow, hstores, ?_, hs₆.pending, ?_⟩
  · rw [hs₆.committed, hc₅, hs₄.committed, Store.count_committed, hs₁.committed]
  · calc s.serials.bump .invoices = s₄.serials := by rw [hs₄.serials, hs₁.serials]; rfl
      _ ≤ s₅.serials := hse₅
      _ = s₆.serials := hs₆.serials.symm

theorem Keeps.insertDraft (account : Uuid) (r : InvoiceRequest) (issue due : Date)
    (currency template : String) (totals : Totals) :
    Keeps Store.InTxn (insertDraft account r issue due currency template totals) := by
  unfold Service.insertDraft
  refine Keeps.bind (Keeps.query_txn _ _ _) fun _ => ?_
  refine Keeps.bind (Keeps.orMissing _ _) fun _ => ?_
  refine Keeps.bind (Keeps.ofExcept _) fun _ => ?_
  refine Keeps.bind (Invoices.Keeps.insert_txn _) fun _ => ?_
  refine Keeps.bind (Items.Keeps.insertAll_txn _ _ _) fun _ => ?_
  exact Keeps.bind (Keeps.query_txn _ _ _) fun _ => Keeps.pure _

/-- A failed creation leaves the published tables as they were: every check runs before the
transaction, and the transaction publishes nothing unless it commits. -/
theorem Clean.storeInvoice (account : Uuid) (r : InvoiceRequest) :
    Clean (storeInvoice account r) := by
  unfold Service.storeInvoice
  refine Clean.bind (Keeps.validated _) fun _ => ?_
  refine Clean.bind (Keeps.validateItems _) fun _ => ?_
  refine Clean.bind (Keeps.query_read _ _ _ _) fun _ => ?_
  refine Clean.bind (Keeps.orMissing _ _) fun _ => ?_
  refine Clean.bind (Keeps.ofExcept _) fun _ => ?_
  refine Clean.bind (Keeps.ofExcept _) fun _ => ?_
  refine Clean.bind (Keeps.ofExcept _) fun _ => ?_
  refine Clean.bind (Keeps.dueAfterIssue _ _) fun _ => ?_
  refine Clean.bind (Keeps.ofExcept _) fun _ => ?_
  refine Clean.bind (Keeps.query_read _ _ _ _) fun _ => ?_
  refine Clean.bind (Keeps.orMissing _ _) fun _ => ?_
  refine Clean.bind (Keeps.ofExcept _) fun _ => ?_
  exact Clean.transaction (Keeps.insertDraft _ _ _ _ _ _ _)

theorem dueAfterIssue_ok {issue due : Date} {s s' : Store} {u : Unit}
    (h : (dueAfterIssue issue due).runOn s = (.ok u, s')) :
    issue.toDays ≤ due.toDays ∧ s = s' := by
  unfold dueAfterIssue at h
  split at h
  · cases h
  · rename_i hle
    cases h
    exact ⟨by omega, rfl⟩

/-- What a committed creation did to the published tables `c`, with the identity counts `n`
before it. The request and its items passed their checks and were priced as `totals`; the
account `acc` was found with allowance left; the draft `inv` was written under the account's
next number with the next invoice identity; its items were written as `rows`; and the invoice was
counted on the account. -/
inductive Drafted (account : Uuid) (r : InvoiceRequest) (c : Tables) (n : Serials) (inv : Invoice) :
    Tables → Prop
  | mk (totals : Totals) (acc : Account) (issue due : Date) (currency template : String)
      (now now' : Instant) (t : Tables) (rows : List Item)
      (valid : r.violations = [])
      (itemsValid : ∀ it ∈ r.items, it.violations = [])
      (priced : price (requestedLines r.items) r.taxRate r.discountAmount = .ok totals)
      (found : Accounts.lookup account c = some acc)
      (quota : acc.checkQuota = .ok ())
      (written : Invoices.insertRow
        (headerOf account r.clientId (invoiceNumber acc.invoiceNumberPrefix acc.nextInvoiceNumber)
          issue due currency template totals r.notes r.terms)
        (Table.serial .invoices (n.get .invoices + 1)) now c = .ok (inv, t))
      (stored : List.Forall₂ (Items.Stores account inv.id) (newItems 0 r.items totals.lines) rows) :
      Drafted account r c n inv
        { t with items := t.items ++ rows,
                 accounts := t.accounts.map (Accounts.countInvoice account now') }

/-- A creation that succeeded published a draft (`Drafted`), closed its transaction, and billed
an active client of the account as the published tables stood before it, in the currency and
under the template a creation writes (`Invoice.CreatedFrom`). -/
theorem storeInvoice_billed {account : Uuid} {r : InvoiceRequest} {s s' : Store} {inv : Invoice}
    (hp : s.pending = none) (h : (storeInvoice account r).runOn s = (.ok inv, s')) :
    s'.pending = none ∧ s.serials.bump .invoices ≤ s'.serials ∧
      Drafted account r s.committed s.serials inv s'.committed ∧
      (∃ cl, Clients.lookup account r.clientId false s.committed = some cl) ∧
      inv.CreatedFrom account r s.committed := by
  unfold storeInvoice at h
  obtain ⟨⟨⟩, s₁, hv, h₁⟩ := bind_eq_ok.mp h
  obtain ⟨hvalid, rfl⟩ := validated_ok hv
  obtain ⟨⟨⟩, s₂, hi, h₂⟩ := bind_eq_ok.mp h₁
  obtain ⟨hitems, rfl⟩ := validateItems_ok hi
  obtain ⟨found, s₃, hfind, h₃⟩ := bind_eq_ok.mp h₂
  obtain ⟨rfl, hs₃⟩ := query_read_ok hfind
  obtain ⟨owner, s₄, hmissing, h₄⟩ := bind_eq_ok.mp h₃
  obtain ⟨howner, rfl⟩ := orMissing_ok hmissing
  obtain ⟨⟨⟩, s₅, hcheck, h₅⟩ := bind_eq_ok.mp h₄
  obtain ⟨-, rfl⟩ := ofExcept_ok hcheck
  obtain ⟨issue, s₆, hissue, h₆⟩ := bind_eq_ok.mp h₅
  obtain ⟨hissued, rfl⟩ := ofExcept_ok hissue
  obtain ⟨due, s₇, hdue, h₇⟩ := bind_eq_ok.mp h₆
  obtain ⟨hdued, rfl⟩ := ofExcept_ok hdue
  obtain ⟨⟨⟩, s₈, horder, h₈⟩ := bind_eq_ok.mp h₇
  obtain ⟨-, rfl⟩ := dueAfterIssue_ok horder
  obtain ⟨template, s₉, htemplate, h₉⟩ := bind_eq_ok.mp h₈
  obtain ⟨hresolved, rfl⟩ := ofExcept_ok htemplate
  obtain ⟨client, s₁₀, hclient, h₁₀⟩ := bind_eq_ok.mp h₉
  obtain ⟨rfl, hs₁₀⟩ := query_read_ok hclient
  obtain ⟨cl, s₁₁, hbilled, h₁₁⟩ := bind_eq_ok.mp h₁₀
  obtain ⟨hcl, rfl⟩ := orMissing_ok hbilled
  obtain ⟨totals, s₁₂, hprice, h₁₂⟩ := bind_eq_ok.mp h₁₁
  obtain ⟨hpriced, rfl⟩ := ofExcept_ok hprice
  -- every check so far only read: the transaction starts from the same rows
  have hs : s₁₀.SameRows s := hs₁₀.trans hs₃
  obtain ⟨hp', -, ⟨e, he, -⟩ | ⟨a, t₁, t₂, p, hc₁, hp₁, hse₁, hbody, hp₂, hr, hc', hse'⟩⟩ :=
    transaction_cases (Keeps.insertDraft _ _ _ _ _ _ _) (hs.pending.trans hp) h₁₂
  · cases he
  cases hr
  obtain ⟨acc, now, t, rows, now', hacc, hquota, hrow, hstores, -, hp₃, hse₃⟩ :=
    insertDraft_ok hp₁ hbody
  rw [hp₂] at hp₃
  cases hp₃
  dsimp only at hacc hrow
  rw [hs.committed] at hacc hrow
  rw [hse₁, hs.serials] at hrow hse₃
  obtain ⟨-, -, hheader, -⟩ := Invoices.insertRow_ok hrow
  have hdates : inv.issueDate = issue ∧ inv.dueDate = due := by
    rw [hheader.eq]
    exact ⟨rfl, rfl⟩
  refine ⟨hp', hse₃.trans (le_of_eq hse'.symm), ?_, ⟨cl, ?_⟩, owner, template, ?_, hresolved,
    hheader.currency, hheader.templateId, hdates.1 ▸ hissued, hdates.2 ▸ hdued⟩
  · rw [hc']
    exact .mk totals acc issue due _ template now now' t rows hvalid hitems hpriced hacc hquota hrow
      hstores
  · rw [← hcl, Store.view_own, hs₃.committed]
  · rw [← howner, Store.view_own]

theorem Keeps.clientAfter (account : Uuid) (current : Invoice) (given : Option Uuid) :
    Keeps Store.SameRows (clientAfter account current given) := by
  unfold Service.clientAfter
  split
  · split
    · exact Keeps.pure _
    · exact Keeps.bind (Keeps.query_read _ _ _ _) fun _ =>
        Keeps.bind (Keeps.orMissing _ _) fun _ => Keeps.pure _
  · exact Keeps.pure _

/-- The client a change bills: the one given, or else the one billed already; another one than
that was found active in the published tables. -/
theorem clientAfter_given {account : Uuid} {current : Invoice} {given : Option Uuid}
    {s s' : Store} {c : Uuid} (h : (clientAfter account current given).runOn s = (.ok c, s')) :
    c = given.getD current.clientId ∧
      (c ≠ current.clientId → ∃ cl, Clients.lookup account c false s.committed = some cl) ∧
      s'.SameRows s := by
  unfold clientAfter at h
  split at h
  · split at h
    · rename_i hsame
      cases h
      exact ⟨hsame.symm, fun hne => absurd rfl hne, .refl _⟩
    · -- another client is billed only once it has been found active
      obtain ⟨found, s₁, hfind, h₁⟩ := bind_eq_ok.mp h
      obtain ⟨rfl, hs₁⟩ := query_read_ok hfind
      obtain ⟨cl, s₂, hmissing, h₂⟩ := bind_eq_ok.mp h₁
      obtain ⟨hcl, rfl⟩ := orMissing_ok hmissing
      cases h₂
      exact ⟨rfl, fun _ => ⟨cl, hcl⟩, hs₁⟩
  · cases h
    exact ⟨rfl, fun hne => absurd rfl hne, .refl _⟩

/-- The client a change bills is the one billed already or an active client of the account. -/
theorem clientAfter_ok {account : Uuid} {current : Invoice} {given : Option Uuid} {s s' : Store}
    {c : Uuid} (h : (clientAfter account current given).runOn s = (.ok c, s')) :
    c = current.clientId ∨ ∃ cl, Clients.lookup account c false s.committed = some cl := by
  obtain ⟨-, hactive, -⟩ := clientAfter_given h
  by_cases hsame : c = current.clientId
  · exact .inl hsame
  · exact .inr (hactive hsame)

theorem Keeps.dateOr (field : String) (given : Option String) (stored : Date) :
    Keeps Store.SameRows (dateOr field given stored) := by
  unfold Service.dateOr
  split
  · exact Keeps.ofExcept _
  · exact Keeps.pure _

theorem Keeps.templateAfter (current : Invoice) (given : Option String) :
    Keeps Store.SameRows (templateAfter current given) := by
  unfold Service.templateAfter
  split
  · exact Keeps.ofExcept _
  · exact Keeps.pure _

/-- The template of a changed invoice is the current one or the one the request resolved to. -/
theorem templateAfter_ok {current : Invoice} {given : Option String} {s s' : Store}
    {template : String} (h : (templateAfter current given).runOn s = (.ok template, s')) :
    template = current.templateId ∨ resolveTemplate given = .ok template := by
  unfold templateAfter at h
  split at h
  · exact .inr (ofExcept_ok h).1
  · cases h
    exact .inl rfl

theorem Keeps.storedStatus (i : Invoice) : Keeps Store.SameRows (storedStatus i) := by
  unfold Service.storedStatus
  split
  · exact Keeps.pure _
  · exact Keeps.throw _

theorem Keeps.repriced (account invoice : Uuid) (items : Option (List ItemRequest))
    (taxRate discount : Decimal) : Keeps Store.SameRows (repriced account invoice items taxRate discount) := by
  unfold Service.repriced
  split
  · exact Keeps.bind (Keeps.ofExcept _) fun _ => Keeps.pure _
  · exact Keeps.bind (Keeps.query_read _ _ _ _) fun _ =>
      Keeps.bind (Keeps.ofExcept _) fun _ => Keeps.pure _

theorem storedStatus_ok {i : Invoice} {s s' : Store} {st : InvoiceStatus}
    (h : (storedStatus i).runOn s = (.ok st, s')) : i.status? = some st ∧ s = s' := by
  unfold storedStatus at h
  split at h
  · rename_i hst
    cases h
    exact ⟨hst, rfl⟩
  · cases h

theorem ensureEditable_ok {st : InvoiceStatus} (h : ensureEditable st = .ok ()) : st = .draft := by
  unfold ensureEditable at h
  split at h
  · assumption
  · cases h

/-! A change, a status change and a deletion each lock the invoice inside their transaction and
check its stored status before they write. -/

theorem Keeps.lock_check {β γ : Type} (account invoice : Uuid)
    (check : InvoiceStatus → Except InvoiceError β) {k : Invoice → β → StoreOp γ}
    (hk : ∀ current b, Keeps Store.InTxn (k current b)) :
    Keeps Store.InTxn (Invoices.lock account invoice >>= fun found =>
      StoreOp.orMissing "invoice" found >>= fun current =>
        Service.storedStatus current >>= fun st => MonadExcept.ofExcept (check st) >>= k current) :=
  Keeps.bind (Keeps.query_txn _ _ _) fun _ =>
    Keeps.bind (Keeps.orMissing _ _) fun current =>
      Keeps.bind (Keeps.storedStatus _).inTxn fun _ =>
        Keeps.bind (Keeps.ofExcept _) fun b => hk current b

/-- Locking an invoice inside a transaction and checking its stored status with `check`, then
`k`: a success found the invoice in the transaction's copy of the tables, with a status `check`
let through, and `k` went through on what the check gave, from a store with the same rows. -/
theorem lock_check_ok {β γ : Type} {account invoice : Uuid}
    {check : InvoiceStatus → Except InvoiceError β} {k : Invoice → β → StoreOp γ}
    {s s' : Store} {p : Pending} {c : γ} (hp : s.pending = some p)
    (h : (Invoices.lock account invoice >>= fun found => orMissing "invoice" found >>= fun current =>
      storedStatus current >>= fun st => MonadExcept.ofExcept (check st) >>= k current).runOn s =
        (.ok c, s')) :
    ∃ current st b s₁, Invoices.lookup account invoice p.tables = some current ∧
      current.status? = some st ∧ check st = .ok b ∧ s₁.SameRows s ∧
      (k current b).runOn s₁ = (.ok c, s') := by
  obtain ⟨found, s₁, hlock, h₁⟩ := bind_eq_ok.mp h
  obtain ⟨rfl, hs₁⟩ := query_read_ok hlock
  obtain ⟨current, s₂, hmissing, h₂⟩ := bind_eq_ok.mp h₁
  obtain ⟨hcurrent, rfl⟩ := orMissing_ok hmissing
  obtain ⟨st, s₃, hstatus, h₃⟩ := bind_eq_ok.mp h₂
  obtain ⟨hst, rfl⟩ := storedStatus_ok hstatus
  obtain ⟨b, s₄, hcheck, h₄⟩ := bind_eq_ok.mp h₃
  obtain ⟨hchecked, rfl⟩ := ofExcept_ok hcheck
  rw [Store.view_txn hp] at hcurrent
  exact ⟨current, st, b, s₁, hcurrent, hst, hchecked, hs₁, h₄⟩

/-- Given items are priced as requested, and are to replace the stored ones. -/
theorem repriced_some_ok {account invoice : Uuid} {items : List ItemRequest}
    {taxRate discount : Decimal} {totals : Totals} {replacement : Option (List NewItem)}
    {s s' : Store}
    (h : (repriced account invoice (some items) taxRate discount).runOn s =
      (.ok (totals, replacement), s')) :
    price (requestedLines items) taxRate discount = .ok totals ∧
      replacement = some (newItems 0 items totals.lines) ∧ s = s' := by
  unfold repriced at h
  obtain ⟨totals', s₁, hprice, h₁⟩ := bind_eq_ok.mp h
  obtain ⟨hpriced, rfl⟩ := ofExcept_ok hprice
  simp only [runOn_pure, Prod.mk.injEq, Except.ok.injEq] at h₁
  obtain ⟨⟨rfl, rfl⟩, rfl⟩ := h₁
  exact ⟨hpriced, rfl, rfl⟩

/-- Without items, the stored items of the invoice, as the published tables hold them, are
priced again. -/
theorem repriced_none_ok {account invoice : Uuid} {taxRate discount : Decimal} {totals : Totals}
    {replacement : Option (List NewItem)} {s s' : Store}
    (h : (repriced account invoice none taxRate discount).runOn s =
      (.ok (totals, replacement), s')) :
    price ((Items.ofInvoice account invoice s.committed).map fun it => (it.quantity, it.unitPrice))
        taxRate discount = .ok totals ∧ replacement = none ∧ s'.SameRows s := by
  unfold repriced at h
  obtain ⟨stored, s₁, hfind, h₁⟩ := bind_eq_ok.mp h
  obtain ⟨rfl, hs₁⟩ := query_read_ok hfind
  obtain ⟨totals', s₂, hprice, h₂⟩ := bind_eq_ok.mp h₁
  obtain ⟨hpriced, rfl⟩ := ofExcept_ok hprice
  simp only [runOn_pure, Prod.mk.injEq, Except.ok.injEq] at h₂
  obtain ⟨⟨rfl, rfl⟩, rfl⟩ := h₂
  exact ⟨hpriced, rfl, hs₁⟩

/-- What a committed change of the invoice `invoice` of `account` did to the published tables
`c`. The invoice `current` was found, a draft; the row was rewritten as `row` with a header that
keeps its number and is priced as `totals` under the given or the current tax rate and discount;
and the items were either kept, priced again as stored, or replaced by the given ones. -/
inductive Revised (account invoice : Uuid) (r : InvoiceChanges) (c : Tables) : Tables → Prop
  | keep (current row : Invoice) (totals : Totals) (clientId : Uuid) (issue due : Date)
      (currency template : String) (now : Instant)
      (found : Invoices.lookup account invoice c = some current)
      (draft : current.status? = some .draft)
      (noItems : r.items = none)
      (priced : price ((Items.ofInvoice account invoice c).map fun it => (it.quantity, it.unitPrice))
        (r.taxRate.getD current.taxRate) (r.discountAmount.getD current.discountAmount) = .ok totals)
      (header : Invoices.HeaderOf
        (headerOf account clientId current.number issue due currency template totals
          (r.notes.or current.notes) (r.terms.or current.terms))
        { current with updatedAt := now } row) :
      Revised account invoice r c
        { c with invoices := c.invoices.map fun x => if x.id == invoice then row else x }
  | replace (current row : Invoice) (totals : Totals) (clientId : Uuid) (issue due : Date)
      (currency template : String) (now : Instant) (items : List ItemRequest) (rows : List Item)
      (found : Invoices.lookup account invoice c = some current)
      (draft : current.status? = some .draft)
      (given : r.items = some items)
      (priced : price (requestedLines items) (r.taxRate.getD current.taxRate)
        (r.discountAmount.getD current.discountAmount) = .ok totals)
      (header : Invoices.HeaderOf
        (headerOf account clientId current.number issue due currency template totals
          (r.notes.or current.notes) (r.terms.or current.terms))
        { current with updatedAt := now } row)
      (stored : List.Forall₂ (Items.Stores account invoice) (newItems 0 items totals.lines) rows) :
      Revised account invoice r c
        { c with
          invoices := c.invoices.map fun x => if x.id == invoice then row else x,
          items := c.items.filter (fun it => !(it.accountId == account && it.invoiceId == invoice))
            ++ rows }

theorem Keeps.reviseDraft (account invoice : Uuid) (r : InvoiceChanges) :
    Keeps Store.InTxn (reviseDraft account invoice r) := by
  unfold Service.reviseDraft
  refine Keeps.lock_check _ _ _ fun current _ => ?_
  refine Keeps.bind (Keeps.clientAfter _ _ _).inTxn fun _ => ?_
  refine Keeps.bind (Keeps.dateOr _ _ _).inTxn fun _ => ?_
  refine Keeps.bind (Keeps.dateOr _ _ _).inTxn fun _ => ?_
  refine Keeps.bind (Keeps.dueAfterIssue _ _).inTxn fun _ => ?_
  refine Keeps.bind (Keeps.templateAfter _ _).inTxn fun _ => ?_
  refine Keeps.bind (Keeps.repriced _ _ _ _ _).inTxn fun priced => ?_
  refine Keeps.bind (Keeps.query_txn _ _ _) fun _ => ?_
  split
  · exact Keeps.bind (Items.Keeps.replace_txn _ _ _) fun _ => Keeps.pure _
  · exact Keeps.pure _

/-- Rewriting a header went through the text checks and then changed the invoice. -/
theorem setHeader_body_ok {account invoice : Uuid} {n : NewInvoice} {now : Instant} {t t' : Tables}
    {row : Invoice}
    (h : (do Invoices.checkTexts none n
             Invoices.change account invoice (fun i => Invoices.fillHeader n { i with updatedAt := now } t) t :
          Except DbError (Invoice × Tables)) = .ok (row, t')) :
    ∃ current, Invoices.lookup account invoice t = some current ∧
      Invoices.HeaderOf n { current with updatedAt := now } row ∧
      t' = { t with invoices := t.invoices.map fun x => if x.id == invoice then row else x } ∧
      Invoices.checkTexts none n = .ok () := by
  simp only [bind, Except.bind] at h
  split at h
  · cases h
  rename_i htexts
  obtain ⟨current, hfound, hfill, rfl⟩ := Invoices.change_ok h
  exact ⟨current, hfound, Invoices.fillHeader_ok hfill, rfl, htexts⟩

/-- Inside the transaction, a change that succeeded rewrote a draft (`Revised`) in the
transaction's copy, billing the client it billed or an active client of the account. -/
theorem reviseDraft_written {account invoice : Uuid} {r : InvoiceChanges} {s s' : Store}
    {p : Pending} {u : Unit} (hp : s.pending = some p) (hc : s.committed = p.tables)
    (h : (reviseDraft account invoice r).runOn s = (.ok u, s')) :
    s'.committed = s.committed ∧ s.serials ≤ s'.serials ∧
      ∃ p', s'.pending = some p' ∧ Revised account invoice r p.tables p'.tables ∧
        p'.tables.BillsFrom account p.tables ∧
        Tables.HeaderRewritten account invoice r p.tables p'.tables := by
  unfold reviseDraft at h
  obtain ⟨current, st, ⟨⟩, s₁, hcurrent, hst, hedit, hs₁, h₄⟩ := lock_check_ok hp h
  have hdraft : current.status? = some .draft := ensureEditable_ok hedit ▸ hst
  obtain ⟨clientId, s₅, hclient, h₅⟩ := bind_eq_ok.mp h₄
  obtain ⟨issue, s₆, hissue, h₆⟩ := bind_eq_ok.mp h₅
  obtain ⟨due, s₇, hdue, h₇⟩ := bind_eq_ok.mp h₆
  obtain ⟨⟨⟩, s₈, horder, h₈⟩ := bind_eq_ok.mp h₇
  obtain ⟨-, rfl⟩ := dueAfterIssue_ok horder
  obtain ⟨template, s₉, htemplate, h₉⟩ := bind_eq_ok.mp h₈
  obtain ⟨⟨totals, replacement⟩, s₁₀, hrep, h₁₀⟩ := bind_eq_ok.mp h₉
  -- up to the new prices nothing was written
  have hs₉ : s₉.SameRows s := (Keeps.run (Keeps.templateAfter _ _) htemplate).symm.trans <|
    (Keeps.run (Keeps.dateOr _ _ _) hdue).symm.trans <|
    (Keeps.run (Keeps.dateOr _ _ _) hissue).symm.trans <|
    (Keeps.run (Keeps.clientAfter _ _ _) hclient).symm.trans hs₁
  have hs₁₀ : s₁₀.SameRows s := (Keeps.run (Keeps.repriced _ _ _ _ _) hrep).symm.trans hs₉
  -- the header is rewritten in the transaction's copy
  obtain ⟨row, s₁₁, hheader, h₁₁⟩ := bind_eq_ok.mp h₁₀
  obtain ⟨now, t, hbody, hs₁₁⟩ := query_ok hheader
  rw [Store.view_txn (hs₁₀.pending.trans hp)] at hbody
  obtain ⟨current', hcurrent', hrow, rfl, htexts⟩ := setHeader_body_ok hbody
  rw [hcurrent] at hcurrent'
  cases hcurrent'
  have hrewritten : ∀ t : Tables,
      t.invoices = p.tables.invoices.map (fun x => if x.id == invoice then row else x) →
        Tables.HeaderRewritten account invoice r p.tables t := fun t ht =>
    ⟨current, _, row, now, hcurrent, hrow, htexts, rfl, templateAfter_ok htemplate, ht⟩
  rw [Store.put_txn (hs₁₀.pending.trans hp)] at hs₁₁
  have hbills : Tables.BillsFrom
      { p.tables with invoices := p.tables.invoices.map fun x => if x.id == invoice then row else x }
      account p.tables :=
    Tables.billsFrom_put hcurrent hrow.id_eq hrow.accountId_eq (by
      rw [hrow.clientId_eq, ← hc, ← hs₁.committed]
      exact clientAfter_ok hclient) rfl
  cases hitems : r.items with
  | none =>
    -- the stored items, read from the published tables, are priced again and kept
    rw [hitems] at hrep
    obtain ⟨hpriced, rfl, -⟩ := repriced_none_ok hrep
    simp only [runOn_pure, Prod.mk.injEq] at h₁₁
    obtain ⟨-, rfl⟩ := h₁₁
    rw [hs₉.committed, hc] at hpriced
    refine ⟨hs₁₁.committed.trans hs₁₀.committed, le_of_eq (hs₁₀.serials.symm.trans
      hs₁₁.serials.symm), _, hs₁₁.pending, ?_⟩
    exact ⟨.keep current row totals clientId issue due _ template now hcurrent hdraft hitems hpriced
      hrow, hbills, hrewritten _ rfl⟩
  | some items =>
    -- the given items replace the stored ones
    rw [hitems] at hrep
    obtain ⟨hpriced, rfl, -⟩ := repriced_some_ok hrep
    obtain ⟨rows, s₁₂, hreplace, h₁₂⟩ := bind_eq_ok.mp h₁₁
    simp only [runOn_pure, Prod.mk.injEq] at h₁₂
    obtain ⟨-, rfl⟩ := h₁₂
    obtain ⟨hstored, hc₁₂, hp₁₂, hse₁₂⟩ := Items.replace_ok hs₁₁.pending hreplace
    refine ⟨hc₁₂.trans (hs₁₁.committed.trans hs₁₀.committed),
      (le_of_eq (hs₁₀.serials.symm.trans hs₁₁.serials.symm)).trans hse₁₂, _, hp₁₂, ?_⟩
    exact ⟨.replace current row totals clientId issue due _ template now items rows hcurrent hdraft
      hitems hpriced hrow hstored, hbills, hrewritten _ rfl⟩

/-- A failed change leaves the published tables as they were. -/
theorem Clean.storeChanges (account invoice : Uuid) (r : InvoiceChanges) :
    Clean (storeChanges account invoice r) := by
  unfold Service.storeChanges
  refine Clean.bind (Keeps.validated _) fun _ => ?_
  dsimp only
  split
  · exact Clean.bind (Keeps.validateItems _) fun _ => Clean.transaction (Keeps.reviseDraft _ _ _)
  · exact Clean.transaction (Keeps.reviseDraft _ _ _)

/-- A change that succeeded passed its checks and published a rewritten draft (`Revised`),
billing the client it billed or an active client of the account. -/
theorem storeChanges_written {account invoice : Uuid} {r : InvoiceChanges} {s s' : Store}
    {u : Unit} (hp : s.pending = none)
    (h : (storeChanges account invoice r).runOn s = (.ok u, s')) :
    s'.pending = none ∧ s.serials ≤ s'.serials ∧ r.violations = [] ∧
      (∀ items, r.items = some items → ∀ it ∈ items, it.violations = []) ∧
      Revised account invoice r s.committed s'.committed ∧
      s'.committed.BillsFrom account s.committed ∧
      Tables.HeaderRewritten account invoice r s.committed s'.committed := by
  unfold storeChanges at h
  obtain ⟨⟨⟩, s₁, hv, h₁⟩ := bind_eq_ok.mp h
  obtain ⟨hvalid, rfl⟩ := validated_ok hv
  -- the given items are checked one by one; nothing is written before the transaction
  have hstep : (∀ items, r.items = some items → ∀ it ∈ items, it.violations = []) ∧
      (transaction "Failed to commit invoice update" (reviseDraft account invoice r)).runOn s =
        (.ok u, s') := by
    dsimp only at h₁
    cases hr : r.items with
    | none =>
      rw [hr] at h₁
      exact ⟨by simp, h₁⟩
    | some items =>
      rw [hr] at h₁
      obtain ⟨⟨⟩, s₂, hi, h₂⟩ := bind_eq_ok.mp h₁
      obtain ⟨hall, rfl⟩ := validateItems_ok hi
      exact ⟨by simpa using hall, h₂⟩
  obtain ⟨hitems, h₂⟩ := hstep
  obtain ⟨hp', hse, ⟨e, he, -⟩ | ⟨a, t₁, t₂, p, hc₁, hp₁, hse₁, hbody, hp₂, -, hc', hse'⟩⟩ :=
    transaction_cases (Keeps.reviseDraft _ _ _) hp h₂
  · cases he
  obtain ⟨-, -, p', hp₃, hrevised, hbills, hrewritten⟩ := reviseDraft_written hp₁ hc₁ hbody
  rw [hp₂] at hp₃
  cases hp₃
  rw [hc']
  exact ⟨hp', hse, hvalid, hitems, hrevised, hbills, hrewritten⟩

end Service

end Invoicing
