import Invoicing.Proofs.Run
import Mathlib.Data.List.Forall2

/-!
# What the statements write

The statements that write clients, invoices and items, each read off once: what a successful
statement leaves in the tables it ran on, and what it checked on the way. A new client is
appended to the clients. A new draft takes its number and header from the request as the
columns store them (`HeaderOf`), and no invoice of its account had that number; an item row
stores its item (`Items.Stores`) and names an existing invoice; a change of one invoice replaces
the rows with its identity.

Inside a transaction, writing an invoice counts one more invoice identity, and writing items
appends their rows to the transaction's copy (`Items.insertAll_ok`, `Items.replace_ok`).
-/

namespace Invoicing

/-- A loop that runs a check on each element and passed ran every check successfully. -/
theorem forIn_checks_ok {α β ε : Type} {xs : List α} {f : α → Except ε β} {u : PUnit}
    (h : (forIn xs PUnit.unit fun s _ => do let _ ← f s; pure (ForInStep.yield PUnit.unit) :
      Except ε PUnit) = .ok u) :
    ∀ s ∈ xs, ∃ v, f s = .ok v := by
  induction xs with
  | nil => simp
  | cons x xs ih =>
    simp only [List.forIn_cons, bind, Except.bind] at h
    cases hx : f x with
    | error e => rw [hx] at h; cases h
    | ok v =>
      rw [hx] at h
      intro s hs
      rcases List.mem_cons.mp hs with rfl | hs
      · exact ⟨v, hx⟩
      · exact ih h s hs

/-- A new account row is appended to the accounts: it has the given identity, its prefix and
tier as the columns store them and the given limit, numbers its first invoice 1 and has used none
of its allowance. -/
theorem Accounts.insertRow_row {a : NewAccount} {id : Uuid} {now : Instant} {t t' : Tables}
    {row : Account} (h : Accounts.insertRow a id now t = .ok (row, t')) :
    t' = { t with accounts := t.accounts ++ [row] } ∧ row.id = id ∧
      Column.varchar 20 a.numberPrefix = .ok row.invoiceNumberPrefix ∧
      row.nextInvoiceNumber = 1 ∧ row.monthlyInvoiceCount = 0 ∧
      Column.varchar 30 a.tier = .ok row.tier ∧ row.monthlyInvoiceLimit = a.monthlyLimit ∧
      ∀ x ∈ [a.email, a.fullName, a.tier, a.currency, a.numberPrefix], ∃ v, Column.text x = .ok v := by
  simp only [Accounts.insertRow, bind, Except.bind, pure, Except.pure, throw, throwThe,
    MonadExceptOf.throw] at h
  split at h
  · cases h
  rename_i htexts
  iterate 4
    split at h
    · cases h
  split at h
  · cases h
  rename_i numberPrefix hprefix
  split at h
  · cases h
  split at h
  · cases h
  cases h
  exact ⟨rfl, rfl, hprefix, rfl, rfl, ‹Column.varchar 30 a.tier = _›, rfl, forIn_checks_ok htexts⟩

/-- The row a request fills keeps the identity and the account of the client it fills. -/
theorem Clients.fill_ok {r : ClientRequest} {c row : Client} (h : Clients.fill r c = .ok row) :
    row.id = c.id ∧ row.accountId = c.accountId := by
  simp only [Clients.fill, bind, Except.bind, pure, Except.pure] at h
  repeat' (split at h; · cases h)
  cases h
  exact ⟨rfl, rfl⟩

/-- A new client row is appended to the clients, under the given identity and account. -/
theorem Clients.insertRow_row {account : Uuid} {r : ClientRequest} {id : Uuid} {now : Instant}
    {t t' : Tables} {row : Client} (h : Clients.insertRow account r id now t = .ok (row, t')) :
    t' = { t with clients := t.clients ++ [row] } ∧ row.id = id ∧ row.accountId = account := by
  simp only [Clients.insertRow, bind, Except.bind, pure, Except.pure, throw, throwThe,
    MonadExceptOf.throw] at h
  split at h
  · cases h
  rename_i row' hfill
  split at h
  · cases h
  cases h
  exact ⟨rfl, Clients.fill_ok hfill⟩

namespace Invoices

/-- The header texts that passed the check hold no U+0000. -/
theorem checkTexts_ok {number : Option String} {n : NewInvoice}
    (h : checkTexts number n = .ok ()) :
    ∀ x ∈ [number, some n.currency, some n.templateId, n.notes, n.terms],
      ∃ v, Column.optionalText x = .ok v := by
  unfold checkTexts at h
  simp only [bind, Except.bind] at h
  split at h
  · cases h
  · exact forIn_checks_ok ‹_›

/-- `row` is the invoice `i` with the header of `n` as the columns store it. -/
structure HeaderOf (n : NewInvoice) (i row : Invoice) : Prop where
  currency : Column.varchar 3 n.currency = .ok row.currency
  subtotal : Column.numeric 16 2 n.subtotal = .ok row.subtotal
  taxRate : Column.numeric 7 4 n.taxRate = .ok row.taxRate
  taxAmount : Column.numeric 16 2 n.taxAmount = .ok row.taxAmount
  discountAmount : Column.numeric 16 2 n.discountAmount = .ok row.discountAmount
  totalAmount : Column.numeric 16 2 n.totalAmount = .ok row.totalAmount
  templateId : Column.varchar 30 n.templateId = .ok row.templateId
  eq : row = { i with
    clientId := n.clientId, issueDate := n.issueDate, dueDate := n.dueDate,
    currency := row.currency, subtotal := row.subtotal, taxRate := row.taxRate,
    taxAmount := row.taxAmount, discountAmount := row.discountAmount,
    totalAmount := row.totalAmount, templateId := row.templateId, notes := n.notes,
    terms := n.terms }

theorem fillHeader_ok {n : NewInvoice} {i row : Invoice} {t : Tables}
    (h : fillHeader n i t = .ok row) : HeaderOf n i row := by
  simp only [fillHeader, bind, Except.bind, pure, Except.pure, throw, throwThe,
    MonadExceptOf.throw] at h
  split at h
  · cases h
  rename_i currency hcurrency
  split at h
  · cases h
  rename_i subtotal hsubtotal
  split at h
  · cases h
  rename_i taxRate htaxRate
  split at h
  · cases h
  rename_i taxAmount htaxAmount
  split at h
  · cases h
  rename_i discount hdiscount
  split at h
  · cases h
  rename_i total htotal
  split at h
  · cases h
  rename_i template htemplate
  split at h
  · cases h
  split at h
  · cases h
  split at h
  · cases h
  cases h
  exact ⟨hcurrency, hsubtotal, htaxRate, htaxAmount, hdiscount, htotal, htemplate, rfl⟩

theorem HeaderOf.id_eq {n : NewInvoice} {i row : Invoice} (h : HeaderOf n i row) : row.id = i.id := by
  rw [h.eq]

theorem HeaderOf.accountId_eq {n : NewInvoice} {i row : Invoice} (h : HeaderOf n i row) :
    row.accountId = i.accountId := by
  rw [h.eq]

theorem HeaderOf.number_eq {n : NewInvoice} {i row : Invoice} (h : HeaderOf n i row) :
    row.number = i.number := by
  rw [h.eq]

theorem HeaderOf.clientId_eq {n : NewInvoice} {i row : Invoice} (h : HeaderOf n i row) :
    row.clientId = n.clientId := by
  rw [h.eq]

/-- A new draft is numbered as given (within the column's bound), belongs to an existing
account, takes its header from the request and is appended to the invoices; no invoice of the
account had its number. -/
theorem insertRow_ok {n : NewInvoice} {id : Uuid} {now : Instant} {t t' : Tables} {row : Invoice}
    (h : insertRow n id now t = .ok (row, t')) :
    t' = { t with invoices := t.invoices ++ [row] } ∧ Column.varchar 50 n.number = .ok row.number ∧
      HeaderOf n
        { id := id, accountId := n.accountId, number := row.number,
          status := InvoiceStatus.draft.name, createdAt := now, updatedAt := now } row ∧
      Accounts.lookup n.accountId t ≠ none ∧
      (t.invoices.any fun i => i.accountId == n.accountId && i.number == row.number) = false ∧
      checkTexts (some n.number) n = .ok () := by
  simp only [insertRow, bind, Except.bind, pure, Except.pure, throw, throwThe,
    MonadExceptOf.throw] at h
  split at h
  · cases h
  rename_i htexts
  split at h
  · cases h
  rename_i number hnumber
  split at h
  · cases h
  rename_i hacc
  split at h
  · cases h
  rename_i row' hrow
  split at h
  · cases h
  rename_i hfree
  cases h
  have hh := fillHeader_ok hrow
  have hnum : row.number = number := by rw [hh.eq]
  exact ⟨rfl, hnum ▸ hnumber, hnum ▸ hh, by simpa using hacc, by simpa [hnum] using hfree, htexts⟩

theorem lookup_some {account id : Uuid} {t : Tables} {i : Invoice}
    (h : lookup account id t = some i) :
    i ∈ t.invoices ∧ i.accountId = account ∧ i.id = id := by
  have hmem := List.mem_of_find?_eq_some h
  have hi := List.find?_some h
  simp only [Bool.and_eq_true, beq_iff_eq] at hi
  exact ⟨hmem, hi.1, hi.2⟩

/-- A change of one invoice found the invoice, changed it by `f`, and put the changed row in place
of every row with its identity. -/
theorem change_ok {account id : Uuid} {f : Invoice → Except DbError Invoice} {t t' : Tables}
    {row : Invoice} (h : change account id f t = .ok (row, t')) :
    ∃ i, lookup account id t = some i ∧ f i = .ok row ∧
      t' = { t with invoices := t.invoices.map fun x => if x.id == id then row else x } := by
  simp only [change, bind, Except.bind, pure, Except.pure, throw, throwThe,
    MonadExceptOf.throw] at h
  split at h
  · cases h
  rename_i i hi
  split at h
  · cases h
  rename_i row' hrow
  cases h
  exact ⟨i, hi, hrow, rfl⟩

/-- Writing a draft inside the transaction runs `insertRow` on the transaction's copy with the
next invoice identity, which then counts as handed out. -/
theorem insert_ok {n : NewInvoice} {s s' : Store} {i : Invoice}
    (h : (insert n).runOn s = (.ok i, s')) :
    ∃ now t, insertRow n (Table.serial .invoices (s.serials.get .invoices + 1)) now (s.view .txn) =
        .ok (i, t) ∧ s'.SameRows ((s.put .txn t).count .invoices) := by
  unfold insert at h
  rw [StoreOp.runOn_bind, StoreOp.runOn_lift] at h
  rcases hx : (Store.insert .txn .invoices (insertRow n)).run s with ⟨r, s₁⟩
  rcases Store.insert_cases hx with ⟨e, rfl, -⟩ | ⟨now, a, t, hb, rfl, hs₁⟩
  · -- a failed insert is never a success, whatever its report
    simp only [hx] at h
    split at h
    · rename_i heq
      cases heq
    all_goals cases h
  · simp only [hx] at h
    cases h
    exact ⟨now, t, hb, hs₁⟩

theorem Keeps.insert_txn (n : NewInvoice) : StoreOp.Keeps Store.InTxn (insert n) := by
  intro s
  unfold insert
  rw [StoreOp.runOn_bind, StoreOp.runOn_lift]
  rcases hx : (Store.insert .txn .invoices (insertRow n)).run s with ⟨r, s₁⟩
  rcases Store.insert_cases hx with ⟨e, rfl, hs₁⟩ | ⟨now, a, t, hb, rfl, hs₁⟩
  · simp only
    split <;> exact hs₁.symm.inTxn
  · refine trans_of Store.InTxn (Store.put_txn_inTxn t s) (trans_of Store.InTxn ?_ hs₁.symm.inTxn)
    exact ⟨fun hp => ⟨rfl, hp⟩, Serials.le_bump _ _⟩

end Invoices

namespace Items

/-- `row` is how the items table stores the item `n` of invoice `invoice` of `account`. -/
structure Stores (account invoice : Uuid) (n : NewItem) (row : Item) : Prop where
  invoiceId : row.invoiceId = invoice
  accountId : row.accountId = account
  description : Column.text n.description = .ok row.description
  quantity : Column.numeric 14 4 n.quantity = .ok row.quantity
  unitPrice : Column.numeric 16 4 n.unitPrice = .ok row.unitPrice
  amount : Column.numeric 16 2 n.amount = .ok row.amount
  sortOrder : row.sortOrder = n.sortOrder

/-- Rows that store items of an invoice belong to it and to its account. -/
theorem stores_mem {account invoice : Uuid} {ns : List NewItem} {rows : List Item}
    (h : List.Forall₂ (Stores account invoice) ns rows) {it : Item} (hit : it ∈ rows) :
    it.invoiceId = invoice ∧ it.accountId = account := by
  induction h with
  | nil => cases hit
  | cons hs _ ih =>
    rcases List.mem_cons.mp hit with rfl | hit
    · exact ⟨hs.invoiceId, hs.accountId⟩
    · exact ih hit

/-- A new item row is stored as given, belongs to an existing invoice, and is appended. -/
theorem insertRow_ok {account invoice : Uuid} {n : NewItem} {id : Uuid} {now : Instant}
    {t t' : Tables} {row : Item} (h : insertRow account invoice n id now t = .ok (row, t')) :
    t' = { t with items := t.items ++ [row] } ∧ Stores account invoice n row ∧ row.id = id ∧
      (t.invoices.any (·.id == invoice)) = true := by
  simp only [insertRow, bind, Except.bind, pure, Except.pure, throw, throwThe,
    MonadExceptOf.throw] at h
  split at h
  · cases h
  rename_i description hdescription
  split at h
  · cases h
  rename_i quantity hquantity
  split at h
  · cases h
  rename_i unitPrice hunitPrice
  split at h
  · cases h
  rename_i amount hamount
  split at h
  · cases h
  split at h
  · cases h
  split at h
  · cases h
  rename_i hinvoice
  split at h
  · cases h
  cases h
  exact ⟨rfl, ⟨rfl, rfl, hdescription, hquantity, hunitPrice, hamount, rfl⟩, rfl,
    by simpa using hinvoice⟩

/-- Writing items inside the transaction appends their rows to the transaction's copy. -/
theorem insertAll_ok {account invoice : Uuid} {ns : List NewItem} {rows : List Item}
    {s s' : Store} {p : Pending} (hp : s.pending = some p)
    (h : (insertAll account invoice ns).runOn s = (.ok rows, s')) :
    List.Forall₂ (Stores account invoice) ns rows ∧ s'.committed = s.committed ∧
      s'.pending = some { p with tables := { p.tables with items := p.tables.items ++ rows } } ∧
      s.serials ≤ s'.serials := by
  induction ns generalizing s p rows with
  | nil =>
    simp only [insertAll, StoreOp.runOn_pure, Prod.mk.injEq, Except.ok.injEq] at h
    obtain ⟨rfl, rfl⟩ := h
    exact ⟨.nil, rfl, by simp [hp], le_refl _⟩
  | cons n rest ih =>
    simp only [insertAll] at h
    obtain ⟨row, s₁, hrow, h⟩ := StoreOp.bind_eq_ok.mp h
    obtain ⟨rows', s₂, hrest, h⟩ := StoreOp.bind_eq_ok.mp h
    simp only [StoreOp.runOn_pure, Prod.mk.injEq, Except.ok.injEq] at h
    obtain ⟨rfl, rfl⟩ := h
    -- the first item goes into the transaction's copy
    obtain ⟨now, x, hbody, hs₁⟩ := StoreOp.insert_ok hrow
    rw [Store.view_txn hp] at hbody
    obtain ⟨hx, hstores, -, -⟩ := insertRow_ok hbody
    rw [Store.put_txn hp] at hs₁
    have hp₁ : s₁.pending = some { p with tables := x } := hs₁.pending
    obtain ⟨hall, hc, hp₂, hse⟩ := ih hp₁ hrest
    refine ⟨.cons hstores hall, hc.trans hs₁.committed, ?_, ?_⟩
    · rw [hp₂, hx]
      simp
    · calc s.serials ≤ s.serials.bump .items := Serials.le_bump _ _
        _ = s₁.serials := hs₁.serials.symm
        _ ≤ _ := hse

theorem Keeps.insertAll_txn (account invoice : Uuid) (ns : List NewItem) :
    StoreOp.Keeps Store.InTxn (insertAll account invoice ns) := by
  induction ns with
  | nil => exact StoreOp.Keeps.pure _
  | cons n rest ih =>
    exact StoreOp.Keeps.bind (StoreOp.Keeps.insert_txn _ _ _) fun _ =>
      StoreOp.Keeps.bind ih fun _ => StoreOp.Keeps.pure _

/-- Replacing the items of an invoice inside the transaction drops the rows of the invoice from
the transaction's copy and appends the new ones. -/
theorem replace_ok {account invoice : Uuid} {ns : List NewItem} {rows : List Item}
    {s s' : Store} {p : Pending} (hp : s.pending = some p)
    (h : (replace account invoice ns).runOn s = (.ok rows, s')) :
    List.Forall₂ (Stores account invoice) ns rows ∧ s'.committed = s.committed ∧
      s'.pending = some { p with tables := { p.tables with
        items := p.tables.items.filter (fun it => !(it.accountId == account && it.invoiceId == invoice))
          ++ rows } } ∧
      s.serials ≤ s'.serials := by
  unfold replace at h
  obtain ⟨⟨⟩, s₁, hdel, h⟩ := StoreOp.bind_eq_ok.mp h
  obtain ⟨now, t, hbody, hs₁⟩ := StoreOp.query_ok hdel
  rw [Store.view_txn hp] at hbody
  cases hbody
  rw [Store.put_txn hp] at hs₁
  obtain ⟨hall, hc, hp', hse⟩ := insertAll_ok hs₁.pending h
  exact ⟨hall, hc.trans hs₁.committed, hp', le_of_eq hs₁.serials.symm |>.trans hse⟩

theorem Keeps.replace_txn (account invoice : Uuid) (ns : List NewItem) :
    StoreOp.Keeps Store.InTxn (replace account invoice ns) :=
  StoreOp.Keeps.bind (StoreOp.Keeps.query_txn _ _ _) fun _ => Keeps.insertAll_txn _ _ _

end Items

end Invoicing
