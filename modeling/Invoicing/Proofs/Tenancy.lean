import Invoicing.Proofs.Answers

/-!
# Accounts are isolated from each other

Every statement of the service names the account it is made for, or changes rows by an identity
found within that account, so one account can neither change another's rows nor read them. An
identity of another account's invoice or client is, to an account, an identity that does not
exist: every call naming it fails, and fails exactly as it fails for an identity no row has.

Two operations `FailsAlike c` when, run on any store whose connections all see the tables `c`,
both fail with the same error and leave the same store. It is built along the binds of the two
operations: reads that change nothing (`FailsAlike.bind_read`), a lookup that finds nothing in
either run (`FailsAlike.read_none`), a transaction around bodies that fail alike
(`FailsAlike.transaction`).

What is proved here:
1. `InvoiceIdsAlike`, `ClientIdsAlike`: for two identities, neither of which is an invoice (a
   client) of the account, every call naming one fails alike with the call naming the other. A
   changed invoice names another client only once the client is found in the account, and the
   client an invoice already bills is one of its own account (`Tables.Billed`).
2. `accounts_isolated`: in every reachable store, for two accounts, no call made for one
   creates, changes or deletes a row of the other; what it answers is its own; an identity of
   an invoice or client of the other behaves as one that does not exist; every invoice bills a
   client of its own account and every item belongs to an invoice of its own account.
-/

namespace Invoicing

open StoreOp Service

/-! ## Statements that see the same tables -/

/-- A statement whose two bodies agree on the tables it sees runs the same way with either. -/
theorem Store.exec_congr {α : Type} {conn : Conn} {kind : StatementKind}
    {body₁ body₂ : Instant → Tables → Except DbError (α × Tables)} {s : Store}
    (hb : ∀ now, body₁ now (s.view conn) = body₂ now (s.view conn)) :
    (Store.exec conn kind body₁).run s = (Store.exec conn kind body₂).run s := by
  simp only [StateT.run, Store.exec]
  split
  · rfl
  rcases ht : s.tick conn with ⟨now, s₁⟩
  rcases hl : s₁.letThrough kind with ⟨allowed, s₂⟩
  -- the clock and the fault have seen the statement; the tables are the ones it started on
  have h₂ : s₂.SameRows s := by
    have h₁ : s₁.SameRows s := by simpa [ht] using Store.tick_sameRows conn s
    have := Store.letThrough_sameRows kind s₁
    rw [hl] at this
    exact this.trans h₁
  simp only
  split
  · rfl
  · rw [Store.view_eq h₂, hb]

theorem StoreOp.query_congr {α : Type} {conn : Conn} {kind : StatementKind} {ctx : String}
    {body₁ body₂ : Instant → Tables → Except DbError (α × Tables)} {s : Store}
    (hb : ∀ now, body₁ now (s.view conn) = body₂ now (s.view conn)) :
    (query conn kind ctx body₁).runOn s = (query conn kind ctx body₂).runOn s := by
  unfold query
  rw [runOn_bind, runOn_bind, runOn_lift, runOn_lift, Store.exec_congr hb]

/-! ## Operations that fail alike -/

/-- Run on any store whose connections all see the tables `c`, both operations fail with the
same error and leave the same store. -/
def FailsAlike {α : Type} (c : Tables) (op₁ op₂ : StoreOp α) : Prop :=
  ∀ s : Store, (∀ conn, s.view conn = c) →
    ∃ e s', op₁.runOn s = (.error e, s') ∧ op₂.runOn s = (.error e, s')

namespace FailsAlike

variable {α β : Type} {c : Tables}

theorem throw (e : InvoiceError) :
    FailsAlike c (MonadExcept.throw e : StoreOp α) (MonadExcept.throw e) :=
  fun s _ => ⟨e, s, rfl, rfl⟩

/-- Operations that fail alike, whatever follows them. -/
theorem bind_left {x₁ x₂ : StoreOp α} {f₁ f₂ : α → StoreOp β} (h : FailsAlike c x₁ x₂) :
    FailsAlike c (x₁ >>= f₁) (x₂ >>= f₂) := by
  intro s hs
  obtain ⟨e, s', h₁, h₂⟩ := h s hs
  exact ⟨e, s', by rw [runOn_bind, h₁], by rw [runOn_bind, h₂]⟩

/-- A read that changes no row, then operations that fail alike on what it can give. -/
theorem bind_read {x : StoreOp α} {f₁ f₂ : α → StoreOp β} (hx : Keeps Store.SameRows x)
    (hf : ∀ a, (∃ s s', (∀ conn, s.view conn = c) ∧ x.runOn s = (.ok a, s')) →
      FailsAlike c (f₁ a) (f₂ a)) :
    FailsAlike c (x >>= f₁) (x >>= f₂) := by
  intro s hs
  rw [runOn_bind, runOn_bind]
  rcases h : x.runOn s with ⟨_ | a, s₁⟩
  · exact ⟨_, _, rfl, rfl⟩
  · exact hf a ⟨s, s₁, hs, h⟩ s₁ fun conn => (Store.view_eq (hx.run h).symm conn).trans (hs conn)

/-- Two statements whose bodies agree on `c` and, when they succeed, keep `c`; then operations
that fail alike on what they give. -/
theorem query_then {conn : Conn} {kind : StatementKind} {ctx : String} {γ : Type}
    {body₁ body₂ : Instant → Tables → Except DbError (γ × Tables)} {f₁ f₂ : γ → StoreOp β}
    (hb : ∀ now, body₁ now c = body₂ now c)
    (hok : ∀ now v t, body₁ now c = .ok (v, t) → t = c ∧ FailsAlike c (f₁ v) (f₂ v)) :
    FailsAlike c (query conn kind ctx body₁ >>= f₁) (query conn kind ctx body₂ >>= f₂) := by
  intro s hs
  have hq : (query conn kind ctx body₁).runOn s = (query conn kind ctx body₂).runOn s :=
    query_congr fun now => by rw [hs conn, hb]
  rw [runOn_bind, runOn_bind, ← hq]
  rcases h : (query conn kind ctx body₁).runOn s with ⟨_ | v, s₁⟩
  · exact ⟨_, _, rfl, rfl⟩
  · obtain ⟨now, t, hbody, hs₁⟩ := query_ok h
    rw [hs conn] at hbody
    obtain ⟨rfl, hf⟩ := hok now v t hbody
    -- the statement put back the tables it saw
    have hsame : s₁.SameRows s := by
      have := Store.put_view conn s
      rw [hs conn] at this
      exact hs₁.trans this
    exact hf s₁ fun conn' => (Store.view_eq hsame conn').trans (hs conn')

/-- Two lookups that find nothing in `c`, then operations that fail alike on nothing found. -/
theorem read_none {conn : Conn} {kind : StatementKind} {ctx : String} {γ : Type}
    {g₁ g₂ : Tables → Option γ} {f₁ f₂ : Option γ → StoreOp β} (h₁ : g₁ c = none)
    (h₂ : g₂ c = none) (hf : FailsAlike c (f₁ none) (f₂ none)) :
    FailsAlike c (query conn kind ctx (fun _ t => .ok (g₁ t, t)) >>= f₁)
      (query conn kind ctx (fun _ t => .ok (g₂ t, t)) >>= f₂) := by
  refine query_then (fun _ => by rw [h₁, h₂]) fun _ v t h => ?_
  rw [h₁] at h
  cases h
  exact ⟨rfl, hf⟩

/-- Transactions around bodies that fail alike: the transaction's copy is `c`, and both bodies'
failures are rolled back the same way. -/
theorem transaction {ctx : String} {body₁ body₂ : StoreOp α} (hb : FailsAlike c body₁ body₂) :
    FailsAlike c (StoreOp.transaction ctx body₁) (StoreOp.transaction ctx body₂) := by
  intro s hs
  unfold StoreOp.transaction
  rw [runOn_bind, runOn_bind]
  rcases hbegin : begin.runOn s with ⟨r₀, s₁⟩
  rcases begin_cases hbegin with ⟨e, rfl, -⟩ | ⟨rfl, hc₁, hp₁, -⟩
  · exact ⟨e, s₁, rfl, rfl⟩
  have hc : s.committed = c := (Store.view_own s).symm.trans (hs .own)
  have hs₁ : ∀ conn, s₁.view conn = c := by
    intro conn
    cases conn with
    | own => rw [Store.view_own, hc₁, hc]
    | txn => rw [Store.view_txn hp₁, hc]
  obtain ⟨e, s₂, h₁, h₂⟩ := hb s₁ hs₁
  refine ⟨e, { s₂ with pending := none }, ?_, ?_⟩ <;>
    simp only [runOn_bind, runOn_tryCatch, h₁, h₂, runOn_rollback, runOn_throw]

end FailsAlike

/-! ## Identities an account does not have -/

/-- No invoice of `account` has the identity `x`. -/
def Tables.NoInvoice (t : Tables) (account x : Uuid) : Prop :=
  ∀ i ∈ t.invoices, i.id = x → i.accountId ≠ account

/-- No client of `account` has the identity `x`. -/
def Tables.NoClient (t : Tables) (account x : Uuid) : Prop :=
  ∀ cl ∈ t.clients, cl.id = x → cl.accountId ≠ account

section Identities

variable {t : Tables} {n : Serials} {account other x : Uuid}

theorem Tables.NoInvoice.lookup (h : t.NoInvoice account x) : Invoices.lookup account x t = none :=
  List.find?_eq_none.mpr fun i hi => by
    simp only [Bool.and_eq_true, beq_iff_eq, not_and]
    exact fun hacc hid => h i hi hid hacc

theorem Tables.NoClient.lookup (h : t.NoClient account x) (anyState : Bool) :
    Clients.lookup account x anyState t = none :=
  List.find?_eq_none.mpr fun cl hcl => by
    simp only [Bool.and_eq_true, beq_iff_eq, not_and]
    exact fun ⟨hacc, hid⟩ _ => h cl hcl hid hacc

theorem Tables.NoInvoice.of_absent (h : ∀ i ∈ t.invoices, i.id ≠ x) : t.NoInvoice account x :=
  fun i hi hid => absurd hid (h i hi)

theorem Tables.NoClient.of_absent (h : ∀ cl ∈ t.clients, cl.id ≠ x) : t.NoClient account x :=
  fun cl hcl hid => absurd hid (h cl hcl)

/-- An invoice of another account is none of the account's: no two invoices share an
identity. -/
theorem Tables.Linked.noInvoice (hl : t.Linked n) (hne : account ≠ other)
    (hx : ∃ i ∈ t.invoices, i.id = x ∧ i.accountId = other) : t.NoInvoice account x := by
  obtain ⟨i, hi, rfl, hacc⟩ := hx
  intro j hj hid hjacc
  obtain rfl := hl.eq_of_id hj hi hid
  exact hne (hjacc.symm.trans hacc)

/-- A client of another account is none of the account's: no two clients share an identity. -/
theorem Tables.ClientsIssued.noClient (hc : t.ClientsIssued n) (hne : account ≠ other)
    (hx : ∃ cl ∈ t.clients, cl.id = x ∧ cl.accountId = other) : t.NoClient account x := by
  obtain ⟨cl, hcl, rfl, hacc⟩ := hx
  intro d hd hid hdacc
  obtain rfl := hc.eq_of_id hd hcl hid
  exact hne (hdacc.symm.trans hacc)

/-- The client an invoice of the account bills is a client of the account. -/
theorem Tables.Billed.clientId_ne (hb : t.Billed) {i : Invoice} (hi : i ∈ t.invoices)
    (hacc : i.accountId = account) (hx : t.NoClient account x) : x ≠ i.clientId := by
  rintro rfl
  obtain ⟨cl, hcl, hid, hclacc⟩ := hb i hi
  exact hx cl hcl hid (hclacc.trans hacc)

end Identities

theorem InvoiceRequest.violations_withClient (r : InvoiceRequest) (client : Uuid) :
    ({ r with clientId := client } : InvoiceRequest).violations = r.violations := rfl

theorem InvoiceChanges.violations_withClient (r : InvoiceChanges) (client : Option Uuid) :
    ({ r with clientId := client } : InvoiceChanges).violations = r.violations := rfl

/-! ## Calls on identities the account does not have -/

namespace FailsAlike

variable {c : Tables} {account x y : Uuid}

section Invoice

variable (hx : c.NoInvoice account x) (hy : c.NoInvoice account y)
include hx hy

theorem getInvoice : FailsAlike c (Service.getInvoice account x) (Service.getInvoice account y) := by
  unfold Service.getInvoice Invoices.find
  exact read_none hx.lookup hy.lookup (bind_left (throw _))

theorem duplicateInvoice (now : Instant) :
    FailsAlike c (Service.duplicateInvoice account x now) (Service.duplicateInvoice account y now) := by
  unfold Service.duplicateInvoice Invoices.find
  exact read_none hx.lookup hy.lookup (bind_left (throw _))

theorem renderInvoice :
    FailsAlike c (Service.renderInvoice account x) (Service.renderInvoice account y) := by
  unfold Service.renderInvoice
  exact bind_left (getInvoice hx hy)

theorem deleteInvoice :
    FailsAlike c (Service.deleteInvoice account x) (Service.deleteInvoice account y) := by
  unfold Service.deleteInvoice Service.removeDraft Invoices.lock
  exact transaction (read_none hx.lookup hy.lookup (bind_left (throw _)))

theorem updateInvoiceStatus (r : StatusRequest) (now : Instant) :
    FailsAlike c (Service.updateInvoiceStatus account x r now)
      (Service.updateInvoiceStatus account y r now) := by
  unfold Service.updateInvoiceStatus Service.storeStatus Service.moveStatus Invoices.lock
  exact bind_left (bind_read (Keeps.ofExcept _) fun _ _ =>
    transaction (read_none hx.lookup hy.lookup (bind_left (throw _))))

theorem updateInvoice (r : InvoiceChanges) :
    FailsAlike c (Service.updateInvoice account x r) (Service.updateInvoice account y r) := by
  unfold Service.updateInvoice Service.storeChanges Service.reviseDraft Invoices.lock
  refine bind_left (bind_read (Keeps.validated _) fun _ _ => ?_)
  -- the given items are checked first, whichever invoice is named
  dsimp only
  split
  · exact bind_read (Keeps.validateItems _) fun _ _ =>
      transaction (read_none hx.lookup hy.lookup (bind_left (throw _)))
  · exact transaction (read_none hx.lookup hy.lookup (bind_left (throw _)))

end Invoice

section Client

variable (hx : c.NoClient account x) (hy : c.NoClient account y)
include hx hy

theorem getClient : FailsAlike c (Service.getClient account x) (Service.getClient account y) := by
  unfold Service.getClient Clients.find
  exact read_none (hx.lookup false) (hy.lookup false) (throw _)

theorem updateClient (r : ClientRequest) :
    FailsAlike c (Service.updateClient account x r) (Service.updateClient account y r) := by
  unfold Service.updateClient Clients.update
  refine bind_read (Keeps.validated _) fun _ _ => query_then (fun _ => ?_) fun _ v t h => ?_
  · simp only [hx.lookup false, hy.lookup false]
  · -- the texts are checked, and then no client is found
    simp only [hx.lookup false, Bind.bind, Except.bind, Pure.pure, Except.pure] at h
    split at h
    · cases h
    · cases h
      exact ⟨rfl, throw _⟩

theorem deleteClient :
    FailsAlike c (Service.deleteClient account x) (Service.deleteClient account y) := by
  unfold Service.deleteClient Clients.deactivate
  refine query_then (fun _ => by simp only [hx.lookup false, hy.lookup false]) fun _ v t h => ?_
  simp only [hx.lookup false] at h
  cases h
  exact ⟨rfl, throw _⟩

/-- Creating an invoice for a client the account does not have: everything before the client is
looked up reads the request alone. -/
theorem storeInvoice (r : InvoiceRequest) :
    FailsAlike c (Service.storeInvoice account { r with clientId := x })
      (Service.storeInvoice account { r with clientId := y }) := by
  unfold Service.storeInvoice Accounts.find Clients.find
  simp only [InvoiceRequest.violations_withClient]
  refine bind_read (Keeps.validated _) fun _ _ => ?_
  refine bind_read (Keeps.validateItems _) fun _ _ => ?_
  refine bind_read (Keeps.query_read _ _ _ _) fun _ _ => ?_
  refine bind_read (Keeps.orMissing _ _) fun _ _ => ?_
  refine bind_read (Keeps.ofExcept _) fun _ _ => ?_
  refine bind_read (Keeps.ofExcept _) fun _ _ => ?_
  refine bind_read (Keeps.ofExcept _) fun _ _ => ?_
  refine bind_read (Keeps.dueAfterIssue _ _) fun _ _ => ?_
  refine bind_read (Keeps.ofExcept _) fun _ _ => ?_
  exact read_none (hx.lookup false) (hy.lookup false) (bind_left (throw _))

theorem createInvoice (r : InvoiceRequest) :
    FailsAlike c (Service.createInvoice account { r with clientId := x })
      (Service.createInvoice account { r with clientId := y }) := by
  unfold Service.createInvoice
  exact bind_left (storeInvoice hx hy r)

/-- Changing the client of an invoice to one the account does not have: the client is looked up
once the draft is found, since neither identity is the client it bills already. -/
theorem clientAfter {current : Invoice} (hxc : x ≠ current.clientId) (hyc : y ≠ current.clientId) :
    FailsAlike c (Service.clientAfter account current (some x))
      (Service.clientAfter account current (some y)) := by
  unfold Service.clientAfter Clients.find
  simp only [hxc, hyc, if_false]
  exact read_none (hx.lookup false) (hy.lookup false) (bind_left (throw _))

theorem reviseDraft (hb : c.Billed) (invoice : Uuid) (r : InvoiceChanges) :
    FailsAlike c (Service.reviseDraft account invoice { r with clientId := some x })
      (Service.reviseDraft account invoice { r with clientId := some y }) := by
  unfold Service.reviseDraft Invoices.lock
  refine bind_read (Keeps.query_read _ _ _ _) fun found hfound => ?_
  obtain ⟨s, _, hs, hlock⟩ := hfound
  obtain ⟨rfl, -⟩ := query_read_ok hlock
  refine bind_read (Keeps.orMissing _ _) fun current hcurrent => ?_
  obtain ⟨_, _, _, hmissing⟩ := hcurrent
  obtain ⟨hfound, -⟩ := orMissing_ok hmissing
  rw [hs .txn] at hfound
  obtain ⟨hcur, hacc, -⟩ := Invoices.lookup_some hfound
  refine bind_read (Keeps.storedStatus _) fun _ _ => ?_
  refine bind_read (Keeps.ofExcept _) fun _ _ => ?_
  -- the draft bills a client of the account, which neither identity names
  exact bind_left (clientAfter hx hy (hb.clientId_ne hcur hacc hx) (hb.clientId_ne hcur hacc hy))

theorem updateInvoice_client (hb : c.Billed) (invoice : Uuid) (r : InvoiceChanges) :
    FailsAlike c (Service.updateInvoice account invoice { r with clientId := some x })
      (Service.updateInvoice account invoice { r with clientId := some y }) := by
  unfold Service.updateInvoice Service.storeChanges
  simp only [InvoiceChanges.violations_withClient]
  refine bind_left (bind_read (Keeps.validated _) fun _ _ => ?_)
  split
  · exact bind_read (Keeps.validateItems _) fun _ _ => transaction (reviseDraft hx hy hb invoice r)
  · exact transaction (reviseDraft hx hy hb invoice r)

end Client

end FailsAlike

/-! ## Identities of another account -/

/-- Every call naming the invoice `x` fails alike with the same call naming `y`. -/
structure InvoiceIdsAlike (c : Tables) (account x y : Uuid) : Prop where
  get : FailsAlike c (Service.getInvoice account x) (Service.getInvoice account y)
  update : ∀ r, FailsAlike c (Service.updateInvoice account x r) (Service.updateInvoice account y r)
  updateStatus : ∀ r now, FailsAlike c (Service.updateInvoiceStatus account x r now)
    (Service.updateInvoiceStatus account y r now)
  delete : FailsAlike c (Service.deleteInvoice account x) (Service.deleteInvoice account y)
  duplicate : ∀ now, FailsAlike c (Service.duplicateInvoice account x now)
    (Service.duplicateInvoice account y now)
  render : FailsAlike c (Service.renderInvoice account x) (Service.renderInvoice account y)

/-- Every call naming the client `x` fails alike with the same call naming `y`: reading,
replacing and deleting it, billing it on a new invoice and moving an invoice to it. -/
structure ClientIdsAlike (c : Tables) (account x y : Uuid) : Prop where
  get : FailsAlike c (Service.getClient account x) (Service.getClient account y)
  update : ∀ r, FailsAlike c (Service.updateClient account x r) (Service.updateClient account y r)
  delete : FailsAlike c (Service.deleteClient account x) (Service.deleteClient account y)
  bill : ∀ r : InvoiceRequest, FailsAlike c (Service.createInvoice account { r with clientId := x })
    (Service.createInvoice account { r with clientId := y })
  rebill : ∀ invoice (r : InvoiceChanges),
    FailsAlike c (Service.updateInvoice account invoice { r with clientId := some x })
      (Service.updateInvoice account invoice { r with clientId := some y })

section Alike

variable {c : Tables} {account x y : Uuid}

theorem InvoiceIdsAlike.of_noInvoice (hx : c.NoInvoice account x) (hy : c.NoInvoice account y) :
    InvoiceIdsAlike c account x y :=
  ⟨.getInvoice hx hy, .updateInvoice hx hy, .updateInvoiceStatus hx hy, .deleteInvoice hx hy,
    .duplicateInvoice hx hy, .renderInvoice hx hy⟩

theorem ClientIdsAlike.of_noClient (hb : c.Billed) (hx : c.NoClient account x)
    (hy : c.NoClient account y) : ClientIdsAlike c account x y :=
  ⟨.getClient hx hy, .updateClient hx hy, .deleteClient hx hy, .createInvoice hx hy,
    .updateInvoice_client hx hy hb⟩

end Alike

/-- On a store that is up and fails no statement, reading an invoice the account does not have
finds nothing: "invoice not found". -/
theorem getInvoice_notFound {s : Store} (hfault : s.fault = none) (hup : s.reachable = true)
    {account x : Uuid} (hx : s.committed.NoInvoice account x) :
    (Service.getInvoice account x).runOn s =
      (.error (InvoiceError.missing "invoice"), { s with clock := s.clock + 1 }) := by
  unfold Service.getInvoice Invoices.find
  rw [runOn_bind, query_read_healthy hfault hup, hx.lookup]
  rfl

/-- On a store that is up and fails no statement, reading a client the account does not have
finds nothing: "client not found". -/
theorem getClient_notFound {s : Store} (hfault : s.fault = none) (hup : s.reachable = true)
    {account x : Uuid} (hx : s.committed.NoClient account x) :
    (Service.getClient account x).runOn s =
      (.error (InvoiceError.missing "client"), { s with clock := s.clock + 1 }) := by
  unfold Service.getClient Clients.find
  rw [runOn_bind, query_read_healthy hfault hup, hx.lookup]
  rfl

/-! ## Isolation -/

/-- What an account can do to, and see of, another account `other` in the store `s`. -/
structure Isolated (s : Store) (account other : Uuid) : Prop where
  /-- No call made for the account creates, changes or deletes a row of the other. -/
  untouched : ∀ c : Call, c.account = some account →
    ((c.run s).2.committed).ownedBy other = s.committed.ownedBy other
  /-- What a call made for the account answers is the account's own. -/
  answers : OwnAnswers account
  /-- Its statistics are those of its own rows. -/
  stats : ∀ st s', (Service.getStats account).runOn s = (.ok st, s') →
    st = Invoices.statsOf account (s.committed.ownedBy account)
  /-- Every connection of the store sees the published tables. -/
  sees : ∀ conn, s.view conn = s.committed
  /-- An invoice of the other account is, to the account, an invoice that does not exist. -/
  foreignInvoice : ∀ x y, (∃ i ∈ s.committed.invoices, i.id = x ∧ i.accountId = other) →
    (∀ i ∈ s.committed.invoices, i.id ≠ y) → InvoiceIdsAlike s.committed account x y
  /-- A client of the other account is, to the account, a client that does not exist. -/
  foreignClient : ∀ x y, (∃ cl ∈ s.committed.clients, cl.id = x ∧ cl.accountId = other) →
    (∀ cl ∈ s.committed.clients, cl.id ≠ y) → ClientIdsAlike s.committed account x y
  /-- On a store that is up and fails no statement, an invoice or a client of the other account
  is not found. -/
  invoiceNotFound : s.fault = none → s.reachable = true →
    ∀ x, (∃ i ∈ s.committed.invoices, i.id = x ∧ i.accountId = other) →
      (Service.getInvoice account x).runOn s =
        (.error (InvoiceError.missing "invoice"), { s with clock := s.clock + 1 })
  clientNotFound : s.fault = none → s.reachable = true →
    ∀ x, (∃ cl ∈ s.committed.clients, cl.id = x ∧ cl.accountId = other) →
      (Service.getClient account x).runOn s =
        (.error (InvoiceError.missing "client"), { s with clock := s.clock + 1 })
  /-- Every invoice bills a client of its own account. -/
  billed : s.committed.Billed
  /-- Every item belongs to an invoice of its own account. -/
  itemsLinked : ∀ it ∈ s.committed.items, ∃ i ∈ s.committed.invoices,
    i.id = it.invoiceId ∧ i.accountId = it.accountId

/-- In every reachable store any two accounts are isolated from each other. -/
theorem accounts_isolated {s : Store} (hs : Reachable s) {account other : Uuid}
    (hne : account ≠ other) : Isolated s account other where
  untouched c hc := by
    have hw := c.written hs.closed
    rw [hc] at hw
    exact hw.write.ownedBy_other hne hs.linked hs.clientsIssued
  answers := ownAnswers account
  stats _ _ h := getStats_ownedBy h
  sees conn := by
    cases conn with
    | own => rfl
    | txn => simp [Store.view, Store.txnOf, hs.closed]
  foreignInvoice _ _ hx hy :=
    .of_noInvoice (hs.linked.noInvoice hne hx) (Tables.NoInvoice.of_absent hy)
  foreignClient _ _ hx hy :=
    .of_noClient hs.billed (hs.clientsIssued.noClient hne hx) (Tables.NoClient.of_absent hy)
  invoiceNotFound hfault hup _ hx := getInvoice_notFound hfault hup (hs.linked.noInvoice hne hx)
  clientNotFound hfault hup _ hx := getClient_notFound hfault hup (hs.clientsIssued.noClient hne hx)
  billed := hs.billed
  itemsLinked := hs.linked.owned

theorem invoicingSession_isolated :
    Reachable (Action.runAll invoicingSession {}) ∧ owner ≠ Table.serial .accounts 2 ∧
      Isolated (Action.runAll invoicingSession {}) owner (Table.serial .accounts 2) :=
  ⟨Reachable.empty.runAll _, by decide,
    accounts_isolated (Reachable.empty.runAll _) (by decide)⟩

end Invoicing
