import Invoicing.Proofs.Ownership

/-!
# What a call answers belongs to its account

Every lookup of the service names the account: an account row is read by the account's
identity, clients and invoices by the account and their identity, listings by the account, and
an invoice is completed with the items and the client of its own account. So every answer of a
call made for an account is the account's: its account row, its clients, an invoice with its
items and client (`InvoiceDetails.OwnedBy`), listings of its rows, the printout of one of its
invoices with its own account row, and statistics of its own invoices.

`Answers P op` says that every answer `op` gives satisfies `P`; it is assembled along the binds
of an operation (`Answers.bind`), from what each read can find.

What is proved here:
* `OwnAnswers`: every answer of every call made for an account belongs to the account.
* `Service.getStats_ownedBy`: an account's statistics are those of its own rows.
-/

namespace Invoicing

open StoreOp Service

/-- Every answer `op` gives satisfies `P`. -/
def Answers {α : Type} (P : α → Prop) (op : StoreOp α) : Prop :=
  ∀ s a s', op.runOn s = (.ok a, s') → P a

/-- The invoice, its items and its client all belong to `account`. -/
structure InvoiceDetails.OwnedBy (d : InvoiceDetails) (account : Uuid) : Prop where
  invoice : d.invoice.accountId = account
  items : ∀ it ∈ d.items, it.accountId = account
  client : ∀ cl ∈ d.client, cl.accountId = account

/-- The invoices matching a listing of an account are the account's. -/
theorem Invoices.accountId_of_mem_matching {account : Uuid} {t : Tables}
    {status : Option InvoiceStatus} {i : Invoice} (h : i ∈ Invoices.matching account status t) :
    i.accountId = account := by
  simp only [Invoices.matching, List.mem_filter, Bool.and_eq_true, beq_iff_eq] at h
  exact h.2.1

namespace Answers

variable {α β : Type} {P : β → Prop}

theorem pure {b : β} (h : P b) : Answers P (Pure.pure b : StoreOp β) := by
  intro s a s' hrun
  rw [runOn_pure] at hrun
  cases hrun
  exact h

theorem any (x : StoreOp α) : Answers (fun _ => True) x := fun _ _ _ _ => trivial

/-- What `x` answers satisfies `Q`, and what `f` answers on such an answer satisfies `P`. -/
theorem bind {Q : α → Prop} {x : StoreOp α} {f : α → StoreOp β} (hx : Answers Q x)
    (hf : ∀ a, Q a → Answers P (f a)) : Answers P (x >>= f) := by
  intro s b s' hrun
  obtain ⟨a, s₁, h₁, h₂⟩ := bind_eq_ok.mp hrun
  exact hf a (hx s a s₁ h₁) s₁ b s' h₂

theorem query_read {conn : Conn} {kind : StatementKind} {ctx : String} {g : Tables → β}
    (h : ∀ t, P (g t)) : Answers P (query conn kind ctx fun _ t => .ok (g t, t)) := by
  intro s a s' hrun
  obtain ⟨rfl, -⟩ := query_read_ok hrun
  exact h _

theorem orMissing {what : String} {row : Option β} (h : ∀ a ∈ row, P a) :
    Answers P (StoreOp.orMissing what row) := by
  intro s a s' hrun
  obtain ⟨rfl, -⟩ := orMissing_ok hrun
  exact h a rfl

variable {account : Uuid}

theorem getAccount : Answers (·.id = account) (Service.getAccount account) := by
  unfold Service.getAccount Accounts.find
  refine .bind (.query_read (P := fun r => ∀ a ∈ r, a.id = account) fun t a ha => ?_)
    fun _ h => .orMissing h
  exact (Accounts.lookup_some ha).2

theorem getClient (client : Uuid) :
    Answers (·.accountId = account) (Service.getClient account client) := by
  unfold Service.getClient Clients.find
  refine .bind (.query_read (P := fun r => ∀ c ∈ r, c.accountId = account) fun t c hc => ?_)
    fun _ h => .orMissing h
  exact (Clients.lookup_some hc).2.1

theorem createClient (r : ClientRequest) :
    Answers (·.accountId = account) (Service.createClient account r) := by
  unfold Service.createClient Clients.insert
  refine .bind (.any _) fun _ _ => ?_
  intro s c s' hrun
  obtain ⟨now, x, hbody, -⟩ := insert_ok hrun
  exact (Clients.insertRow_row hbody).2.2

/-- A replaced client is one of the account's, under its account. -/
theorem updateClient (client : Uuid) (r : ClientRequest) :
    Answers (·.accountId = account) (Service.updateClient account client r) := by
  unfold Service.updateClient
  refine .bind (.any _) fun _ _ => .bind (Q := fun r => ∀ c ∈ r, c.accountId = account) ?_
    fun _ h => .orMissing h
  intro s found s' hrun
  obtain ⟨now, t, hbody, -⟩ := query_ok hrun
  generalize s.view .own = t₀ at hbody
  simp only [Bind.bind, Except.bind, Pure.pure, Except.pure] at hbody
  rintro c rfl
  split at hbody
  · cases hbody
  split at hbody
  · cases hbody
  · -- the row given is the client found, filled in, under its account
    rename_i current hfound
    split at hbody
    · cases hbody
    · rename_i row hfill
      cases hbody
      exact (Clients.fill_ok hfill).2.trans (Clients.lookup_some hfound).2.1

theorem listClients (q : ListQuery) :
    Answers (fun p : Page Client => ∀ c ∈ p.rows, c.accountId = account)
      (Service.listClients account q) := by
  unfold Service.listClients Clients.list
  refine .bind (.any _) fun _ _ =>
    .bind (.query_read (P := fun rows : List Client => ∀ c ∈ rows, c.accountId = account)
      fun t c hc => ?_)
      fun _ h => .pure h
  -- a listed client is an active client of the account
  have hc' := List.mem_mergeSort.mp (List.mem_of_mem_drop (List.mem_of_mem_take hc))
  simp only [Clients.active, List.mem_filter, Bool.and_eq_true, beq_iff_eq] at hc'
  exact hc'.2.1

theorem listInvoices (q : ListQuery) :
    Answers (fun p : Page Invoice => ∀ i ∈ p.rows, i.accountId = account)
      (Service.listInvoices account q) := by
  unfold Service.listInvoices Invoices.list
  -- however the status filter reads, the count and the page of the account's invoices follow
  dsimp only
  split <;> (try split) <;>
    exact .bind (.any _) fun _ _ => .bind (.any _) fun _ _ =>
      .bind (.query_read (P := fun rows : List Invoice => ∀ i ∈ rows, i.accountId = account)
        fun t i hi => Invoices.accountId_of_mem_matching
          (List.mem_mergeSort.mp (List.mem_of_mem_drop (List.mem_of_mem_take hi))))
        fun _ h => .pure h

/-- An invoice is completed with the items and the client of its own account. -/
theorem hydrate {i : Invoice} (hi : i.accountId = account) :
    Answers (·.OwnedBy account) (Service.hydrate i) := by
  unfold Service.hydrate Items.find Clients.findBilled
  refine .bind (.query_read (P := fun items => ∀ it ∈ items, it.accountId = account)
    fun t it hit => ?_) fun items hitems => ?_
  · have hit' := List.mem_mergeSort.mp hit
    simp only [List.mem_filter, Bool.and_eq_true, beq_iff_eq] at hit'
    exact hit'.2.1.trans hi
  · refine .bind (.query_read (P := fun client => ∀ cl ∈ client, cl.accountId = account)
      fun t cl hcl => ?_) fun client hclient => .pure ⟨hi, hitems, hclient⟩
    exact (Clients.lookup_some hcl).2.1.trans hi

theorem getInvoice (invoice : Uuid) :
    Answers (·.OwnedBy account) (Service.getInvoice account invoice) := by
  unfold Service.getInvoice Invoices.find
  refine .bind (.query_read (P := fun r => ∀ i ∈ r, i.accountId = account) fun t i hi => ?_)
    fun _ h => .bind (.orMissing h) fun _ hi => .hydrate hi
  exact (Invoices.lookup_some hi).2.1

theorem createInvoice (r : InvoiceRequest) :
    Answers (·.OwnedBy account) (Service.createInvoice account r) :=
  .bind (.any _) fun _ _ => .getInvoice _

theorem updateInvoice (invoice : Uuid) (r : InvoiceChanges) :
    Answers (·.OwnedBy account) (Service.updateInvoice account invoice r) :=
  .bind (.any _) fun _ _ => .getInvoice _

theorem updateInvoiceStatus (invoice : Uuid) (r : StatusRequest) (now : Instant) :
    Answers (·.OwnedBy account) (Service.updateInvoiceStatus account invoice r now) :=
  .bind (.any _) fun _ _ => .getInvoice _

theorem duplicateInvoice (invoice : Uuid) (now : Instant) :
    Answers (·.OwnedBy account) (Service.duplicateInvoice account invoice now) :=
  .bind (.any _) fun _ _ => .bind (.any _) fun _ _ => .bind (.any _) fun _ _ => .createInvoice _

/-- A printout shows an invoice of the account, with its items and client, issued by the
account's own row. -/
theorem renderInvoice (invoice : Uuid) :
    Answers (fun r => ∃ d a, d.OwnedBy account ∧ a.id = account ∧
      r = (d.invoice.number ++ ".pdf", Printout.ofInvoice d a)) (Service.renderInvoice account invoice) := by
  unfold Service.renderInvoice
  exact .bind (.getInvoice _) fun d hd => .bind (.query_read (P := fun r => ∀ a ∈ r, a.id = account)
    fun t a ha => (Accounts.lookup_some ha).2) fun _ h =>
      .bind (.orMissing h) fun a ha => .bind (.any _) fun _ _ => .pure ⟨d, a, hd, ha, rfl⟩

end Answers

/-- The invoices of an account, of one status or all, are found among its own rows. -/
@[simp] theorem Invoices.matching_ownedBy {account : Uuid} (t : Tables) (status : Option InvoiceStatus) :
    Invoices.matching account status (t.ownedBy account) = Invoices.matching account status t := by
  unfold Invoices.matching Tables.ownedBy
  rw [List.filter_filter]
  refine List.filter_congr fun i _ => ?_
  cases i.accountId == account <;> simp

/-- An account's statistics are those of its own rows: no row of another account counts. -/
theorem Service.getStats_ownedBy {account : Uuid} {s s' : Store} {st : InvoiceStats}
    (h : (getStats account).runOn s = (.ok st, s')) :
    st = Invoices.statsOf account (s.committed.ownedBy account) := by
  unfold getStats Invoices.stats at h
  obtain ⟨rfl, -⟩ := query_read_ok h
  simp [Invoices.statsOf]

/-- Every answer of every call made for `account` belongs to `account`. -/
structure OwnAnswers (account : Uuid) : Prop where
  getAccount : Answers (·.id = account) (Service.getAccount account)
  createClient : ∀ r, Answers (·.accountId = account) (Service.createClient account r)
  getClient : ∀ client, Answers (·.accountId = account) (Service.getClient account client)
  listClients : ∀ q, Answers (fun p : Page Client => ∀ c ∈ p.rows, c.accountId = account)
    (Service.listClients account q)
  updateClient : ∀ client r, Answers (·.accountId = account) (Service.updateClient account client r)
  createInvoice : ∀ r, Answers (·.OwnedBy account) (Service.createInvoice account r)
  getInvoice : ∀ invoice, Answers (·.OwnedBy account) (Service.getInvoice account invoice)
  listInvoices : ∀ q, Answers (fun p : Page Invoice => ∀ i ∈ p.rows, i.accountId = account)
    (Service.listInvoices account q)
  updateInvoice : ∀ invoice r, Answers (·.OwnedBy account) (Service.updateInvoice account invoice r)
  updateInvoiceStatus : ∀ invoice r now,
    Answers (·.OwnedBy account) (Service.updateInvoiceStatus account invoice r now)
  duplicateInvoice : ∀ invoice now,
    Answers (·.OwnedBy account) (Service.duplicateInvoice account invoice now)
  renderInvoice : ∀ invoice, Answers (fun r => ∃ d a, d.OwnedBy account ∧ a.id = account ∧
    r = (d.invoice.number ++ ".pdf", Printout.ofInvoice d a)) (Service.renderInvoice account invoice)

theorem ownAnswers (account : Uuid) : OwnAnswers account :=
  ⟨.getAccount, .createClient, .getClient, .listClients, .updateClient, .createInvoice,
    .getInvoice, .listInvoices, .updateInvoice, .updateInvoiceStatus, .duplicateInvoice,
    .renderInvoice⟩

end Invoicing
