import Invoicing.Proofs.Deactivation

/-!
# What a creation checks, and what it stores

A creation makes its checks in a fixed order: the request's rules, each item's, the account, its
monthly allowance, the issue date, the due date, their order, the template, the client and the
prices. Each reads the request or the published tables, so the whole list can be stated on the
tables before the call (`creationChecks`), and `checkAll` runs it, stopping at the first failure.

* `storeInvoice_cases`: a creation that a check refuses fails with that check's failure and writes
  nothing; any other failure comes from the store, either a read made before the checks were done
  on a store that is down or failing (`Store.Healthy`), or once every check had passed.
* `Created`: what a creation that answered stored: one numbered draft holding the request's
  fields, priced as `calculate` prices its items, with its items in the request's order.
* `creation_checked_in_order`: both, from every reachable store.
-/

namespace Invoicing

open StoreOp Service

/-- A store that is up and fails no statement. -/
def Store.Healthy (s : Store) : Prop := s.fault = none ∧ s.reachable = true

namespace Service

/-! ## The checks, in their order -/

/-- The rules a request or an item breaks, as a check. -/
def violationCheck (vs : List Violation) : Except InvoiceError Unit :=
  if vs.isEmpty then .ok () else .error (.invalidInput (Violation.report vs))

/-- A row that must be there: the row, or "`what` not found". -/
def present {α : Type} (what : String) : Option α → Except InvoiceError α
  | some a => .ok a
  | none => .error (InvoiceError.missing what)

/-- The due date does not come before the issue date, once both have been read. -/
def orderCheck : Except InvoiceError Date → Except InvoiceError Date → Except InvoiceError Unit
  | .ok issue, .ok due =>
    if due.toDays < issue.toDays then .error (.invalidInput "due_date must not be before issue_date")
    else .ok ()
  | _, _ => .ok ()

/-- The checks on the request alone: its own rules, then each item's. -/
def requestChecks (r : InvoiceRequest) : List (Except InvoiceError Unit) :=
  violationCheck r.violations :: r.items.map fun it => violationCheck it.violations

/-- The checks a creation of `r` for `account` makes against the published tables `t`, in their
order: the account, its allowance, the issue date, the due date, their order, the template, an
active client of the account, and the prices. A check on what an earlier one reads passes where
that is missing, since the earlier one fails first. -/
def storeChecks (account : Uuid) (r : InvoiceRequest) (t : Tables) : List (Except InvoiceError Unit) :=
  [(present "account" (Accounts.lookup account t)).map fun _ => (),
    (Accounts.lookup account t).elim (.ok ()) Account.checkQuota,
    (parseDate "issue_date" r.issueDate).map fun _ => (),
    (parseDate "due_date" r.dueDate).map fun _ => (),
    orderCheck (parseDate "issue_date" r.issueDate) (parseDate "due_date" r.dueDate),
    (resolveTemplate r.templateId).map fun _ => (),
    (present "client" (Clients.lookup account r.clientId false t)).map fun _ => (),
    (price (requestedLines r.items) r.taxRate r.discountAmount).map fun _ => ()]

/-- Every check a creation makes before it writes, in its order. -/
def creationChecks (account : Uuid) (r : InvoiceRequest) (t : Tables) :
    List (Except InvoiceError Unit) :=
  requestChecks r ++ storeChecks account r t

/-- Runs checks in their order: the failure of the first that fails, if one does. -/
def checkAll : List (Except InvoiceError Unit) → Except InvoiceError Unit
  | [] => .ok ()
  | c :: rest => c.bind fun _ => checkAll rest

@[simp] theorem checkAll_nil : checkAll [] = .ok () := rfl

@[simp] theorem checkAll_ok_cons (rest : List (Except InvoiceError Unit)) :
    checkAll (.ok () :: rest) = checkAll rest := rfl

@[simp] theorem checkAll_error_cons (e : InvoiceError) (rest : List (Except InvoiceError Unit)) :
    checkAll (.error e :: rest) = .error e := rfl

theorem checkAll_append (l₁ l₂ : List (Except InvoiceError Unit)) :
    checkAll (l₁ ++ l₂) = (checkAll l₁).bind fun _ => checkAll l₂ := by
  induction l₁ with
  | nil => rfl
  | cons c rest ih =>
    rcases c with e | ⟨⟩
    · rfl
    · exact ih

@[simp] theorem present_some {α : Type} (what : String) (a : α) : present what (some a) = .ok a := rfl

@[simp] theorem present_none {α : Type} (what : String) :
    present what (none : Option α) = .error (InvoiceError.missing what) := rfl

theorem present_ok {α : Type} {what : String} {row : Option α} {a : α}
    (h : present what row = .ok a) : row = some a := by
  cases row with
  | none => cases h
  | some b => cases h; rfl

/-! ## The checks as the code makes them -/

variable {α β : Type} {s s' : Store}

theorem runOn_validated (vs : List Violation) (s : Store) :
    (validated vs).runOn s = (violationCheck vs, s) := by
  unfold validated violationCheck
  split <;> rfl

theorem runOn_orMissing (what : String) (row : Option α) (s : Store) :
    (orMissing what row).runOn s = (present what row, s) := by
  cases row <;> rfl

theorem runOn_dueAfterIssue (issue due : Date) (s : Store) :
    (dueAfterIssue issue due).runOn s = (orderCheck (.ok issue) (.ok due), s) := by
  by_cases h : due.toDays < issue.toDays <;> simp [dueAfterIssue, orderCheck, h]

theorem runOn_validateItems (items : List ItemRequest) (s : Store) :
    (validateItems items).runOn s = (checkAll (items.map fun it => violationCheck it.violations), s) := by
  induction items with
  | nil => rfl
  | cons it rest ih =>
    show (validated it.violations >>= fun _ => validateItems rest).runOn s = _
    rw [runOn_bind, runOn_validated, List.map_cons]
    rcases violationCheck it.violations with e | ⟨⟩
    · rfl
    · exact ih

/-- An operation that only checks, then `k`: it fails with the check's failure and changes
nothing, or `k` runs on what the check gave. -/
theorem check_then {op : StoreOp α} {x : Except InvoiceError α} (hop : ∀ s, op.runOn s = (x, s))
    {k : α → StoreOp β} {res : Except InvoiceError β} (h : (op >>= k).runOn s = (res, s')) :
    (∃ e, x = .error e ∧ res = .error e ∧ s' = s) ∨ ∃ a, x = .ok a ∧ (k a).runOn s = (res, s') := by
  rw [runOn_bind, hop] at h
  cases x with
  | error e =>
    cases h
    exact .inl ⟨e, rfl, rfl, rfl⟩
  | ok a => exact .inr ⟨a, rfl, h⟩

/-- An operation that only checks and went through gave what the check gives, and changed
nothing. -/
theorem check_ok {op : StoreOp α} {x : Except InvoiceError α} (hop : ∀ s, op.runOn s = (x, s))
    {a : α} (h : op.runOn s = (.ok a, s')) : x = .ok a ∧ s' = s := by
  rw [hop] at h
  cases h
  exact ⟨rfl, rfl⟩

/-- A read of the published tables, then `k`: the read fails only on a store that is down or
failing, with a storage failure and no row changed; otherwise `k` runs on what the tables hold,
from a store with the same rows that is still healthy if this one was. -/
theorem read_then {kind : StatementKind} {ctx : String} {g : Tables → α} {k : α → StoreOp β}
    {res : Except InvoiceError β}
    (h : ((query .own kind ctx fun _ t => .ok (g t, t)) >>= k).runOn s = (res, s')) :
    (∃ m, res = .error (.storage m) ∧ ¬ s.Healthy ∧ s'.SameRows s) ∨
      ∃ s₁, s₁.SameRows s ∧ (s.Healthy → s₁.Healthy) ∧ (k (g s.committed)).runOn s₁ = (res, s') := by
  rw [runOn_bind] at h
  rcases hq : (query .own kind ctx fun _ t => .ok (g t, t)).runOn s with ⟨_ | a, s₁⟩
  · rw [hq] at h
    cases h
    obtain ⟨m, rfl⟩ := query_error hq
    refine .inl ⟨m, rfl, fun ⟨hf, hu⟩ => ?_, (query_read_cases hq).1⟩
    rw [query_read_healthy hf hu] at hq
    cases hq
  · rw [hq] at h
    obtain ⟨rfl, hs₁⟩ := query_read_ok hq
    refine .inr ⟨s₁, hs₁, fun ⟨hf, hu⟩ => ?_, h⟩
    rw [query_read_healthy hf hu] at hq
    cases hq
    exact ⟨hf, hu⟩

/-! ## Failures inside the transaction -/

variable {e : InvoiceError}

/-- An insertion that fails reports a storage failure. -/
theorem insert_error {conn : Conn} {t : Table} {ctx : String}
    {body : Uuid → Instant → Tables → Except DbError (α × Tables)}
    (h : (StoreOp.insert conn t ctx body).runOn s = (.error e, s')) : ∃ m, e = .storage m := by
  unfold StoreOp.insert at h
  rw [runOn_bind, runOn_lift] at h
  rcases hx : (Store.insert conn t body).run s with ⟨_ | a, s₁⟩ <;> simp only [hx] at h
  · cases h
    exact ⟨_, rfl⟩
  · cases h

/-- Writing an invoice header that fails, a number already taken included, reports a storage
failure. -/
theorem Invoices.insert_error {n : NewInvoice} (h : (Invoices.insert n).runOn s = (.error e, s')) :
    ∃ m, e = .storage m := by
  unfold Invoices.insert at h
  rw [runOn_bind, runOn_lift] at h
  rcases hx : (Store.insert .txn .invoices (Invoices.insertRow n)).run s with ⟨_ | a, s₁⟩ <;>
    simp only [hx] at h
  · split at h
    · cases h
    · -- a number already taken
      cases h
      exact ⟨_, rfl⟩
    · cases h
      exact ⟨_, rfl⟩
  · cases h

theorem Items.insertAll_error {account invoice : Uuid} {items : List NewItem}
    (h : (Items.insertAll account invoice items).runOn s = (.error e, s')) : ∃ m, e = .storage m := by
  induction items generalizing s with
  | nil => cases h
  | cons n rest ih =>
    rcases bind_eq_error.mp h with hrow | ⟨row, s₁, -, h₁⟩
    · exact insert_error hrow
    rcases bind_eq_error.mp h₁ with hrest | ⟨rows', s₂, -, h₂⟩
    · exact ih hrest
    · cases h₂

/-- Inside the transaction, on a copy where the account stands with allowance left, writing the
draft can fail only in the store. -/
theorem insertDraft_error {account : Uuid} {r : InvoiceRequest} {issue due : Date}
    {currency template : String} {totals : Totals} {p : Pending} {owner : Account}
    (hp : s.pending = some p) (hfound : Accounts.lookup account p.tables = some owner)
    (hquota : owner.checkQuota = .ok ())
    (h : (insertDraft account r issue due currency template totals).runOn s = (.error e, s')) :
    ∃ m, e = .storage m := by
  unfold insertDraft at h
  rcases bind_eq_error.mp h with hlock | ⟨found, s₁, hlock, h₁⟩
  · exact query_error hlock
  obtain ⟨rfl, -⟩ := query_read_ok hlock
  rw [Store.view_txn hp, hfound] at h₁
  -- the lock finds the account, with the allowance it had before
  rcases check_then (runOn_orMissing _ _) h₁ with ⟨_, hx, -, -⟩ | ⟨locked, hlocked, h₂⟩
  · cases hx
  cases hlocked
  rcases check_then (runOn_ofExcept _) h₂ with ⟨_, hx, -, -⟩ | ⟨⟨⟩, -, h₃⟩
  · rw [hquota] at hx
    cases hx
  rcases bind_eq_error.mp h₃ with hins | ⟨created, s₄, -, h₄⟩
  · exact Invoices.insert_error hins
  rcases bind_eq_error.mp h₄ with hall | ⟨rows, s₅, -, h₅⟩
  · exact Items.insertAll_error hall
  rcases bind_eq_error.mp h₅ with hadv | ⟨⟨⟩, s₆, -, h₆⟩
  · exact query_error hadv
  · cases h₆

/-- The transaction of a creation, opened where the account stands with allowance left, can fail
only in the store. -/
theorem draftTransaction_error {account : Uuid} {r : InvoiceRequest} {issue due : Date}
    {currency template : String} {totals : Totals} {owner : Account} {ctx : String}
    (hfound : Accounts.lookup account s.committed = some owner) (hquota : owner.checkQuota = .ok ())
    (h : (transaction ctx (insertDraft account r issue due currency template totals)).runOn s =
      (.error e, s')) :
    ∃ m, e = .storage m := by
  rcases transaction_error h with hstorage | ⟨s₁, s₂, hp₁, hbody⟩
  · exact hstorage
  · exact insertDraft_error hp₁ hfound hquota hbody

/-! ## A creation fails with its first failing check -/

variable {account : Uuid} {r : InvoiceRequest}

/-- What a creation can have done, from where it stopped. A check that fails stops it with its
failure and no row written; a read that fails is a storage failure of a store that is down or
failing; once every check has passed, it fails only in the store, or stores the draft. -/
theorem storeInvoice_cases {res : Except InvoiceError Invoice}
    (h : (storeInvoice account r).runOn s = (res, s')) :
    (∃ e, res = .error e ∧ checkAll (creationChecks account r s.committed) = .error e ∧
        s'.SameRows s) ∨
      (∃ m, res = .error (.storage m) ∧ ¬ s.Healthy ∧ s'.SameRows s) ∨
      (checkAll (creationChecks account r s.committed) = .ok () ∧
        ((∃ m, res = .error (.storage m)) ∨ ∃ inv, res = .ok inv)) := by
  unfold storeInvoice Accounts.find Clients.find at h
  -- the request and its items
  rcases check_then (runOn_validated _) h with ⟨e, hx, rfl, rfl⟩ | ⟨⟨⟩, hv, h⟩
  · exact .inl ⟨e, rfl, by simp [creationChecks, requestChecks, hx], .refl _⟩
  rcases check_then (runOn_validateItems _) h with ⟨e, hx, rfl, rfl⟩ | ⟨⟨⟩, hi, h⟩
  · refine .inl ⟨e, rfl, ?_, .refl _⟩
    simp [creationChecks, requestChecks, checkAll_append, hv, hx, Except.bind]
  have hreq : checkAll (creationChecks account r s.committed) =
      checkAll (storeChecks account r s.committed) := by
    simp [creationChecks, requestChecks, checkAll_append, hv, hi, Except.bind]
  -- the account, read from the published tables, and the checks on the request's own data
  rcases read_then h with ⟨m, rfl, hun, hs⟩ | ⟨s₁, hs₁, hh₁, h⟩
  · exact .inr (.inl ⟨m, rfl, hun, hs⟩)
  rcases check_then (runOn_orMissing _ _) h with ⟨e, hx, rfl, rfl⟩ | ⟨owner, howner, h⟩
  · exact .inl ⟨e, rfl, by simp [hreq, storeChecks, hx, Except.map], hs₁⟩
  have hfound := present_ok howner
  rcases check_then (runOn_ofExcept _) h with ⟨e, hx, rfl, rfl⟩ | ⟨⟨⟩, hquota, h⟩
  · exact .inl ⟨e, rfl, by simp [hreq, storeChecks, hfound, hx, Except.map], hs₁⟩
  rcases check_then (runOn_ofExcept _) h with ⟨e, hx, rfl, rfl⟩ | ⟨issue, hissue, h⟩
  · exact .inl ⟨e, rfl, by simp [hreq, storeChecks, hfound, hquota, hx, Except.map], hs₁⟩
  rcases check_then (runOn_ofExcept _) h with ⟨e, hx, rfl, rfl⟩ | ⟨due, hdue, h⟩
  · exact .inl ⟨e, rfl, by simp [hreq, storeChecks, hfound, hquota, hissue, hx, Except.map], hs₁⟩
  rcases check_then (runOn_dueAfterIssue _ _) h with ⟨e, hx, rfl, rfl⟩ | ⟨⟨⟩, horder, h⟩
  · refine .inl ⟨e, rfl, ?_, hs₁⟩
    simp [hreq, storeChecks, hfound, hquota, hissue, hdue, hx, Except.map]
  rcases check_then (runOn_ofExcept _) h with ⟨e, hx, rfl, rfl⟩ | ⟨template, htemplate, h⟩
  · refine .inl ⟨e, rfl, ?_, hs₁⟩
    simp [hreq, storeChecks, hfound, hquota, hissue, hdue, horder, hx, Except.map]
  -- the client, read from the published tables, and the prices
  rcases read_then h with ⟨m, rfl, hun, hs⟩ | ⟨s₂, hs₂, -, h⟩
  · exact .inr (.inl ⟨m, rfl, fun hh => hun (hh₁ hh), hs.trans hs₁⟩)
  rw [hs₁.committed] at h
  rcases check_then (runOn_orMissing _ _) h with ⟨e, hx, rfl, rfl⟩ | ⟨client, hclient, h⟩
  · refine .inl ⟨e, rfl, ?_, hs₂.trans hs₁⟩
    simp [hreq, storeChecks, hfound, hquota, hissue, hdue, horder, htemplate, hx, Except.map]
  have hbilled := present_ok hclient
  rcases check_then (runOn_ofExcept _) h with ⟨e, hx, rfl, rfl⟩ | ⟨totals, hpriced, h⟩
  · refine .inl ⟨e, rfl, ?_, hs₂.trans hs₁⟩
    simp [hreq, storeChecks, hfound, hquota, hissue, hdue, horder, htemplate, hbilled, hx,
      Except.map]
  -- every check has passed: what is left is the transaction
  refine .inr (.inr ⟨?_, ?_⟩)
  · simp [hreq, storeChecks, hfound, hquota, hissue, hdue, horder, htemplate, hbilled, hpriced,
      Except.map]
  rcases res with e | inv
  · rw [← hs₁.committed, ← hs₂.committed] at hfound
    obtain ⟨m, rfl⟩ := draftTransaction_error hfound hquota h
    exact .inl ⟨m, rfl⟩
  · exact .inr ⟨inv, rfl⟩

/-! ## The failure after the checks, and the read-back -/

theorem createInvoice_of_storeInvoice_error (h : (storeInvoice account r).runOn s = (.error e, s')) :
    (createInvoice account r).runOn s = (.error e, s') := by
  unfold createInvoice
  rw [runOn_bind, h]

/-- A read of an invoice that the published tables hold fails only in the store. -/
theorem getInvoice_error {invoice : Uuid} {i : Invoice}
    (hfound : Invoices.lookup account invoice s.committed = some i)
    (h : (getInvoice account invoice).runOn s = (.error e, s')) : ∃ m, e = .storage m := by
  unfold getInvoice hydrate at h
  rcases bind_eq_error.mp h with hfind | ⟨found, s₁, hfind, h₁⟩
  · exact query_error hfind
  obtain ⟨rfl, -⟩ := query_read_ok hfind
  rw [Store.view_own, hfound] at h₁
  rcases check_then (runOn_orMissing _ _) h₁ with ⟨_, hx, -, -⟩ | ⟨current, -, h₂⟩
  · cases hx
  rcases bind_eq_error.mp h₂ with hitems | ⟨items, s₃, -, h₃⟩
  · exact query_error hitems
  rcases bind_eq_error.mp h₃ with hclient | ⟨client, s₄, -, h₄⟩
  · exact query_error hclient
  · cases h₄

/-- A read of an invoice that answered gives its items as the published tables hold them, and
changes no row. -/
theorem getInvoice_items {invoice : Uuid} {d : InvoiceDetails}
    (h : (getInvoice account invoice).runOn s = (.ok d, s')) :
    d.items = Items.ofInvoice d.invoice.accountId d.invoice.id s.committed ∧ s'.SameRows s := by
  unfold getInvoice hydrate Clients.findBilled at h
  obtain ⟨found, s₁, hfind, h₁⟩ := bind_eq_ok.mp h
  obtain ⟨rfl, hs₁⟩ := query_read_ok hfind
  obtain ⟨i, s₂, hmissing, h₂⟩ := bind_eq_ok.mp h₁
  obtain ⟨-, rfl⟩ := orMissing_ok hmissing
  obtain ⟨items, s₃, hitems, h₃⟩ := bind_eq_ok.mp h₂
  obtain ⟨rfl, hs₃⟩ := query_read_ok hitems
  obtain ⟨client, s₄, hbilled, h₄⟩ := bind_eq_ok.mp h₃
  obtain ⟨-, hs₄⟩ := query_read_ok hbilled
  simp only [runOn_pure, Prod.mk.injEq, Except.ok.injEq] at h₄
  obtain ⟨rfl, rfl⟩ := h₄
  exact ⟨by rw [Store.view_own, hs₁.committed], hs₄.trans (hs₃.trans hs₁)⟩

/-- A creation that one of its checks refuses fails, writing nothing, with the failure of the first
check that fails; only on a store that is down or failing can a read before it fail first. -/
theorem createInvoice_refused {e₀ : InvoiceError}
    (hcheck : checkAll (creationChecks account r s.committed) = .error e₀) :
    ((createInvoice account r).runOn s).2.SameRows s ∧
      (((createInvoice account r).runOn s).1 = .error e₀ ∨
        ¬ s.Healthy ∧ ∃ m, ((createInvoice account r).runOn s).1 = .error (.storage m)) := by
  rcases hrun : (storeInvoice account r).runOn s with ⟨res, s₁⟩
  rcases storeInvoice_cases hrun with ⟨e, rfl, he, hs⟩ | ⟨m, rfl, hun, hs⟩ | ⟨hpass, -⟩
  · rw [hcheck] at he
    cases he
    rw [createInvoice_of_storeInvoice_error hrun]
    exact ⟨hs, .inl rfl⟩
  · rw [createInvoice_of_storeInvoice_error hrun]
    exact ⟨hs, .inr ⟨hun, m, rfl⟩⟩
  · rw [hcheck] at hpass
    cases hpass

/-- A creation that answered passed every check. -/
theorem createInvoice_checks_passed {d : InvoiceDetails}
    (h : (createInvoice account r).runOn s = (.ok d, s')) :
    checkAll (creationChecks account r s.committed) = .ok () := by
  unfold createInvoice at h
  obtain ⟨inv, s₁, hstore, -⟩ := bind_eq_ok.mp h
  rcases storeInvoice_cases hstore with ⟨_, he, -⟩ | ⟨_, he, -⟩ | ⟨hpass, -⟩
  · cases he
  · cases he
  · exact hpass

/-- A creation whose checks all pass fails only in the store: in its transaction, or reading back
the draft it published. -/
theorem createInvoice_failed_in_store (hp : s.pending = none) (hl : s.committed.Linked s.serials)
    (hpass : checkAll (creationChecks account r s.committed) = .ok ())
    (h : (createInvoice account r).runOn s = (.error e, s')) : ∃ m, e = .storage m := by
  unfold createInvoice at h
  rcases bind_eq_error.mp h with hstore | ⟨inv, s₁, hstore, hget⟩
  · rcases storeInvoice_cases hstore with ⟨_, he, hfail, -⟩ | ⟨m, he, -, -⟩ |
      ⟨-, ⟨m, he⟩ | ⟨_, he⟩⟩
    · cases he
      rw [hpass] at hfail
      cases hfail
    · cases he
      exact ⟨m, rfl⟩
    · cases he
      exact ⟨m, rfl⟩
    · cases he
  · obtain ⟨-, -, hdrafted, -⟩ := storeInvoice_billed hp hstore
    exact getInvoice_error (hdrafted.lookup_self hl) hget

end Service

/-! ## What a creation stores -/

/-- The fields of an invoice that writing its header leaves alone: its identity, account, number
and status, when it was paid, rendered and mailed, and when it was made. -/
structure Invoice.KeepsRecord (row i : Invoice) : Prop where
  id : row.id = i.id
  accountId : row.accountId = i.accountId
  number : row.number = i.number
  status : row.status = i.status
  paidAt : row.paidAt = i.paidAt
  pdfUrl : row.pdfUrl = i.pdfUrl
  pdfGeneratedAt : row.pdfGeneratedAt = i.pdfGeneratedAt
  emailSent : row.emailSent = i.emailSent
  emailSentAt : row.emailSentAt = i.emailSentAt
  emailOpened : row.emailOpened = i.emailOpened
  emailOpenedAt : row.emailOpenedAt = i.emailOpenedAt
  createdAt : row.createdAt = i.createdAt

theorem Invoices.HeaderOf.keepsRecord {n : NewInvoice} {i row : Invoice} (h : HeaderOf n i row) :
    row.KeepsRecord i := by
  rw [h.eq]
  exact ⟨rfl, rfl, rfl, rfl, rfl, rfl, rfl, rfl, rfl, rfl, rfl, rfl⟩

/-- A header written for exact totals holds the values of their figures. -/
theorem Invoices.HeaderOf.figures_of_exact {account client : Uuid} {number : String}
    {issue due : Date} {currency template : String} {T : Totals} {notes terms : Option String}
    {i row : Invoice}
    (h : HeaderOf (headerOf account client number issue due currency template T notes terms) i row)
    (hT : T.Exact) :
    row.subtotal.val = T.subtotal.val ∧ row.taxRate.val = T.taxRate.val ∧
      row.taxAmount.val = T.taxAmount.val ∧ row.discountAmount.val = T.discountAmount.val ∧
      row.totalAmount.val = T.totalAmount.val :=
  ⟨(Column.numeric_val_of_scale_le h.subtotal hT.subtotal_scale).1,
    (Column.numeric_val_of_scale_le h.taxRate hT.taxRate_scale).1,
    (Column.numeric_val_of_scale_le h.taxAmount hT.taxAmount_scale).1,
    (Column.numeric_val_of_scale_le h.discountAmount hT.discount_scale).1,
    (Column.numeric_val_of_scale_le h.totalAmount hT.total_scale).1⟩

/-- A bounded text column keeps a text that fits it as it is. -/
theorem Column.varchar_eq_of_length_le {n : ℕ} {s r : String} (h : Column.varchar n s = .ok r)
    (hs : s.length ≤ n) : r = s := by
  rw [Column.varchar_of_length_le hs] at h
  exact (Except.ok.inj h).symm

/-- A stored item holds a requested item's description and the values of its priced line. -/
def StoredLine (x : ItemRequest × PricedLine) (row : Item) : Prop :=
  row.description = x.1.description ∧ row.quantity.val = x.2.quantity.val ∧
    row.unitPrice.val = x.2.unitPrice.val ∧ row.amount.val = x.2.amount.val

/-- What a creation of `r` for `account` stored, from the published tables `c` to `c'`, when it
answered with the draft `inv` and the items `rows`, the account standing as `acc` before it and
the request priced as `T`. One invoice was added with its items, and counted on the account. The
draft bills the request's client under the account's next number; its dates are the request's as
read; its currency is the capital form of the currency asked for, or of the account's default,
when that fits the column; its template is the one the request resolves to; its figures are
`calculate`'s and its texts the request's; it is not paid, rendered or mailed. Its items are the
request's, in order, each with its description and its priced line. -/
structure Created (account : Uuid) (r : InvoiceRequest) (acc : Account) (T : Totals)
    (c c' : Tables) (inv : Invoice) (rows : List Item) : Prop where
  found : Accounts.lookup account c = some acc
  priced : calculate (requestedLines r.items) r.taxRate r.discountAmount = .ok T
  invoices : c'.invoices = c.invoices ++ [inv]
  fresh : ∀ i ∈ c.invoices, i.id ≠ inv.id
  items : c'.items = c.items ++ rows
  clients : c'.clients = c.clients
  counted : ∃ now, c'.accounts = c.accounts.map (Accounts.countInvoice account now)
  accountId : inv.accountId = account
  clientId : inv.clientId = r.clientId
  draft : inv.status = InvoiceStatus.draft.name
  number : inv.number = invoiceNumber acc.invoiceNumberPrefix acc.nextInvoiceNumber
  currency : (Capitals.ofString (r.currency.getD acc.defaultCurrency)).length ≤ 3 →
    inv.currency = Capitals.ofString (r.currency.getD acc.defaultCurrency)
  template : Service.resolveTemplate r.templateId = .ok inv.templateId
  issueDate : parseDate "issue_date" r.issueDate = .ok inv.issueDate
  dueDate : parseDate "due_date" r.dueDate = .ok inv.dueDate
  figures : inv.subtotal.val = T.subtotal.val ∧ inv.taxRate.val = T.taxRate.val ∧
    inv.taxAmount.val = T.taxAmount.val ∧ inv.discountAmount.val = T.discountAmount.val ∧
    inv.totalAmount.val = T.totalAmount.val
  notes : inv.notes = r.notes
  terms : inv.terms = r.terms
  unset : inv.paidAt = none ∧ inv.pdfUrl = none ∧ inv.pdfGeneratedAt = none ∧
    inv.emailSent = false ∧ inv.emailSentAt = none ∧ inv.emailOpened = false ∧
    inv.emailOpenedAt = none
  lineCount : T.lines.length = r.items.length
  lines : List.Forall₂ StoredLine (r.items.zip T.lines) rows
  sortOrders : rows.map (·.sortOrder) = (List.range r.items.length).map Int.ofNat
  owned : ∀ it ∈ rows, it.invoiceId = inv.id ∧ it.accountId = account

namespace Service

/-- The rows written for priced lines hold, one by one, the requested descriptions and the values
of the priced lines. -/
theorem newItems_lines {account invoice : Uuid} {k : Nat} {items : List ItemRequest}
    {lines : List PricedLine} {rows : List Item} (hlines : ∀ l ∈ lines, l.Exact)
    (h : List.Forall₂ (Items.Stores account invoice) (newItems k items lines) rows) :
    List.Forall₂ StoredLine (items.zip lines) rows := by
  induction items generalizing k lines rows with
  | nil =>
    cases h
    exact .nil
  | cons it rest ih =>
    cases lines with
    | nil =>
      cases h
      exact .nil
    | cons l ls =>
      simp only [newItems] at h
      cases h with
      | cons hrow hrest =>
        have hl := hlines l List.mem_cons_self
        refine .cons ⟨(Column.nulFree_of_text hrow.description).2, ?_, ?_, ?_⟩
          (ih (fun l' hl' => hlines l' (List.mem_cons_of_mem _ hl')) hrest)
        · exact (Column.numeric_val_of_scale_le hrow.quantity hl.quantity_scale).1
        · exact (Column.numeric_val_of_scale_le hrow.unitPrice hl.unitPrice_scale).1
        · exact (Column.numeric_val_of_scale_le hrow.amount hl.amount_scale).1

/-- Pricing requested items gives one line for each. -/
theorem calculate_requestedLines_length {items : List ItemRequest} {taxRate discount : Decimal}
    {T : Totals} (h : calculate (requestedLines items) taxRate discount = .ok T) :
    T.lines.length = items.length := by
  simpa [requestedLines] using congrArg List.length (calculate_ok h).1

/-- The rows written for requested items are numbered upwards from zero, one for each item. -/
theorem newItems_sortOrders {account invoice : Uuid} {items : List ItemRequest}
    {lines : List PricedLine} {rows : List Item} (hlen : lines.length = items.length)
    (hlines : ∀ l ∈ lines, l.Exact)
    (h : List.Forall₂ (Items.Stores account invoice) (newItems 0 items lines) rows) :
    rows.map (·.sortOrder) = (List.range items.length).map Int.ofNat := by
  rw [(newItems_rows hlen hlines h).1, List.range_eq_range']

/-- The items read back for an invoice whose rows were written for requested items, after items
none of which is the invoice's: the rows written, in their order. -/
theorem ofInvoice_newItems {invoice : Uuid} {t : Tables} {items : List ItemRequest}
    {lines : List PricedLine} {old rows : List Item}
    (hold : ∀ it ∈ old, ¬ (it.accountId = account ∧ it.invoiceId = invoice))
    (hlen : lines.length = items.length) (hlines : ∀ l ∈ lines, l.Exact)
    (h : List.Forall₂ (Items.Stores account invoice) (newItems 0 items lines) rows)
    (hit : t.items = old ++ rows) :
    Items.ofInvoice account invoice t = rows := by
  have hnone : old.filter (fun it => it.accountId == account && it.invoiceId == invoice) = [] :=
    List.filter_eq_nil_iff.mpr fun it hit' => by simpa using hold it hit'
  have hnew : rows.filter (fun it => it.accountId == account && it.invoiceId == invoice) = rows :=
    List.filter_eq_self.mpr fun it hit' => by
      simp [(Items.stores_mem h hit').1, (Items.stores_mem h hit').2]
  -- numbered upwards, the rows are already in sort order
  have hpair : rows.Pairwise fun a b => decide (a.sortOrder ≤ b.sortOrder) = true := by
    have hr : ((List.range items.length).map Int.ofNat).Pairwise (· ≤ ·) :=
      List.pairwise_map.mpr (List.pairwise_lt_range.imp fun h => Int.ofNat_le.mpr h.le)
    rw [← newItems_sortOrders hlen hlines h] at hr
    simpa using List.pairwise_map.mp hr
  rw [Items.ofInvoice, hit, List.filter_append, hnone, hnew, List.nil_append]
  exact List.mergeSort_of_pairwise hpair

/-- A published draft is a creation of its request: see `Created`. -/
theorem Drafted.created {c c' : Tables} {n : Serials} {inv : Invoice}
    (h : Drafted account r c n inv c') (hl : c.Linked n) (hc : c.Counted n)
    (hfrom : inv.CreatedFrom account r c) :
    ∃ acc T, Created account r acc T c c' inv (Items.ofInvoice inv.accountId inv.id c') := by
  obtain ⟨T, acc, issue, due, currency, template, now, now', t, rows, -, -, priced, found, -,
    written, stored⟩ := h
  obtain ⟨rfl, hnumber, hh, -, -, -⟩ := Invoices.insertRow_ok written
  obtain ⟨owner, template', hfound, htemplate, hcurrency, htemplateId, hissue, hdue⟩ := hfrom
  obtain rfl : acc = owner := Option.some.inj (found.symm.trans hfound)
  have hcalc := price_ok priced
  obtain ⟨-, hT, -⟩ := calculate_ok hcalc
  have hlen := calculate_requestedLines_length hcalc
  have hacc : inv.accountId = account := hh.accountId_eq
  have hfresh : ∀ i ∈ c.invoices, i.id ≠ inv.id := fun i hi => hh.id_eq ▸ hl.fresh hi
  -- no item before the draft's names its identity
  have hold : ∀ it ∈ c.items, ¬ (it.accountId = account ∧ it.invoiceId = inv.id) :=
    fun it hit ⟨_, hid⟩ =>
      let ⟨x, hx, hxid, _⟩ := hl.owned it hit
      hfresh x hx (hxid.trans hid)
  have hrows : Items.ofInvoice account inv.id { c with
      invoices := c.invoices ++ [inv], items := c.items ++ rows,
      accounts := c.accounts.map (Accounts.countInvoice account now') } = rows :=
    ofInvoice_newItems hold hlen hT.lines stored rfl
  -- the template resolved to is a known template's name, which fits its column
  obtain ⟨tp, rfl⟩ := resolveTemplate_ok htemplate
  have htpl := Column.varchar_eq_of_length_le htemplateId (Template.length_name_le tp)
  have hk := hh.keepsRecord
  have hnext := (hc.counters acc (Accounts.lookup_some found).1).1
  rw [hacc, hrows]
  exact ⟨acc, T, ⟨found, hcalc, rfl, hfresh, rfl, rfl, ⟨now', rfl⟩, hacc, hh.clientId_eq, hk.status,
    varchar_invoiceNumber (by omega) hnumber, Column.varchar_eq_of_length_le hcurrency,
    htpl ▸ htemplate, hissue, hdue, hh.figures_of_exact hT, by rw [hh.eq]; rfl, by rw [hh.eq]; rfl,
    ⟨hk.paidAt, hk.pdfUrl, hk.pdfGeneratedAt, hk.emailSent, hk.emailSentAt, hk.emailOpened,
      hk.emailOpenedAt⟩, hlen, newItems_lines hT.lines stored,
    newItems_sortOrders hlen hT.lines stored, fun it hit => Items.stores_mem stored hit⟩⟩

/-- A creation that answered, from a reachable store, stored what `Created` says and answered
with the draft and its items as stored. -/
theorem createInvoice_created {d : InvoiceDetails} (hs : Reachable s)
    (h : (createInvoice account r).runOn s = (.ok d, s')) :
    ∃ acc T, Created account r acc T s.committed s'.committed d.invoice d.items := by
  unfold createInvoice at h
  obtain ⟨inv, s₁, hstore, hget⟩ := bind_eq_ok.mp h
  obtain ⟨-, -, hdrafted, -, hfrom⟩ := storeInvoice_billed hs.closed hstore
  obtain ⟨hitems, hs'⟩ := getInvoice_items hget
  -- the read-back finds the new draft, the only invoice with its identity
  obtain rfl : d.invoice = inv :=
    Option.some.inj ((getInvoice_ok hget).symm.trans (hdrafted.lookup_self hs.linked))
  rw [hitems, hs'.committed]
  exact hdrafted.created hs.linked hs.counted hfrom

end Service

/-- How a creation of `r` for `account` from the store `s` answers. When one of its checks fails,
it fails with the first failing check's failure and writes nothing, unless the store is down or
failing and a read before that check fails. When none fails, every failure is a storage failure.
When it answers, none failed, and it stored what `Created` says. -/
structure CreationChecked (s : Store) (account : Uuid) (r : InvoiceRequest) : Prop where
  refused : ∀ e₀, checkAll (creationChecks account r s.committed) = .error e₀ →
    ((createInvoice account r).runOn s).2.SameRows s ∧
      (((createInvoice account r).runOn s).1 = .error e₀ ∨
        ¬ s.Healthy ∧ ∃ m, ((createInvoice account r).runOn s).1 = .error (.storage m))
  failedInStore : checkAll (creationChecks account r s.committed) = .ok () →
    ∀ e, ((createInvoice account r).runOn s).1 = .error e → ∃ m, e = .storage m
  created : ∀ d, ((createInvoice account r).runOn s).1 = .ok d →
    checkAll (creationChecks account r s.committed) = .ok () ∧
      ∃ acc T, Created account r acc T s.committed ((createInvoice account r).runOn s).2.committed
        d.invoice d.items

/-- From every reachable store, a creation fails with its first failing check, or in the store,
and one that answers stored its request as a numbered, priced draft with its items. -/
theorem creation_checked_in_order {s : Store} (hs : Reachable s) (account : Uuid)
    (r : InvoiceRequest) : CreationChecked s account r := by
  refine ⟨fun _ hcheck => createInvoice_refused hcheck, fun hpass e he => ?_, fun d hd => ?_⟩
  · exact createInvoice_failed_in_store hs.closed hs.linked hpass (Prod.ext he rfl)
  · exact ⟨createInvoice_checks_passed (Prod.ext hd rfl), createInvoice_created hs (Prod.ext hd rfl)⟩

theorem invoicingSession_creation_checked :
    Reachable (Action.runAll invoicingSession {}) ∧
      CreationChecked (Action.runAll invoicingSession {}) owner workRequest :=
  ⟨Reachable.empty.runAll _, creation_checked_in_order (Reachable.empty.runAll _) owner workRequest⟩

/-- A template name is read trimmed: blanks around a known name do not make a creation fail, and
the draft takes that template. -/
theorem padded_template_resolved :
    Template.parse? " modern " = none ∧
      ((createInvoice owner { workRequest with templateId := some " modern " }).runOn
          (Action.runAll [.call (.provisionAccount ownerRequest),
            .call (.createClient owner clientRequest)] {})).1.toOption.map
        (·.invoice.templateId) = some "modern" := by
  simp only [Action.runAll, List.foldl, Action.apply, provision_owner]
  decide +kernel

end Invoicing
