import Invoicing.Proofs.Statuses

/-!
# What a call wrote, and for whom

`Change` says what a call can do to the published tables; this module says it once more, finely
enough to follow one account through a session. A call is made for an account (`Call.account`;
opening an account is made for none), and what it wrote (`Write`) is one of:

* nothing;
* a new account on the free plan with five invoices a month, for opening an account;
* a new client of the account, under the next client identity;
* the details of an active client of the account, or that client marked inactive;
* a draft of the account, billing one of its active clients, in the currency and under the
  template a creation writes (`Drafted`, `Invoice.CreatedFrom`);
* a rewritten draft of the account whose client is the one it billed or another active client of
  the account, with a header whose texts passed their check and whose currency and template are
  the given ones or the draft's own, and with items that passed their checks when given
  (`Revised`, `Tables.BillsFrom`, `Tables.HeaderRewritten`);
* a status change or a deletion of an invoice of the account (`Moved`, `Removed`);
* the stamp of when an invoice of the account was rendered.

What is proved here:
* `Call.written`: every call, run with no transaction open, wrote one of these for its account.
-/

namespace Invoicing

open StoreOp Service

/-- The account a call is made for; opening an account is made for none. -/
def Call.account : Call → Option Uuid
  | .provisionAccount _ => none
  | .getAccount account | .createClient account _ | .getClient account _
  | .listClients account _ | .updateClient account _ _ | .deleteClient account _
  | .createInvoice account _ | .getInvoice account _ | .listInvoices account _
  | .updateInvoice account _ _ | .updateInvoiceStatus account _ _ _ | .deleteInvoice account _
  | .duplicateInvoice account _ _ | .renderInvoice account _ | .getStats account => some account

/-- What one call made for `owner` wrote to the published tables `c`, `n` identities of each
table having been handed out before it; `c'` and `n'` are the tables and counts after it. -/
inductive Write (c : Tables) (n : Serials) : Option Uuid → Tables → Serials → Prop
  | keep (owner : Option Uuid) (n' : Serials) : Write c n owner c n'
  | openAccount (input : NewAccount) (a : Account) (now : Instant) (t : Tables) (n' : Serials)
      (plan : input.tier = freeTier ∧ input.monthlyLimit = 5)
      (opened : Accounts.insertRow input (Table.serial .accounts (n.get .accounts + 1)) now c =
        .ok (a, t))
      (counted : n.bump .accounts ≤ n') : Write c n none t n'
  | addClient (account : Uuid) (row : Client) (n' : Serials)
      (fresh : row.id = Table.serial .clients (n.get .clients + 1))
      (own : row.accountId = account) (counted : n.bump .clients ≤ n') :
      Write c n (some account) { c with clients := c.clients ++ [row] } n'
  | replaceClient (account : Uuid) (current row : Client) (n' : Serials)
      (found : Clients.lookup account current.id false c = some current)
      (same : row.id = current.id ∧ row.accountId = current.accountId) :
      Write c n (some account)
        { c with clients := c.clients.map fun x => if x.id == current.id then row else x } n'
  | deactivateClient (account : Uuid) (current : Client) (now : Instant) (n' : Serials)
      (found : Clients.lookup account current.id false c = some current) :
      Write c n (some account)
        { c with clients := c.clients.map fun x =>
            if x.id == current.id then { x with isActive := false, updatedAt := now } else x } n'
  | draft (account : Uuid) (r : InvoiceRequest) (inv : Invoice) (t : Tables) (n' : Serials)
      (drafted : Drafted account r c n inv t)
      (billed : ∃ cl, Clients.lookup account r.clientId false c = some cl)
      (counted : n.bump .invoices ≤ n') (created : inv.CreatedFrom account r c) :
      Write c n (some account) t n'
  | revise (account invoice : Uuid) (r : InvoiceChanges) (t : Tables) (n' : Serials)
      (revised : Revised account invoice r c t) (billed : t.BillsFrom account c)
      (rewritten : Tables.HeaderRewritten account invoice r c t)
      (itemsValid : ∀ items, r.items = some items → ∀ it ∈ items, it.violations = []) :
      Write c n (some account) t n'
  | move (account invoice : Uuid) (r : StatusRequest) (now : Instant) (t : Tables) (n' : Serials)
      (moved : Moved account invoice r now c t) : Write c n (some account) t n'
  | remove (account invoice : Uuid) (t : Tables) (n' : Serials)
      (removed : Removed account invoice c t) : Write c n (some account) t n'
  | stamp (account invoice : Uuid) (now : Instant) (n' : Serials) :
      Write c n (some account)
        { c with invoices := c.invoices.map fun x =>
            if x.accountId == account && x.id == invoice then { x with pdfGeneratedAt := some now }
            else x } n'

/-! ## Clients -/

theorem Clients.lookup_some {account id : Uuid} {anyState : Bool} {t : Tables} {c : Client}
    (h : Clients.lookup account id anyState t = some c) :
    c ∈ t.clients ∧ c.accountId = account ∧ c.id = id ∧ (anyState || c.isActive) = true := by
  have hc := List.find?_some h
  simp only [Bool.and_eq_true, beq_iff_eq] at hc
  exact ⟨List.mem_of_find?_eq_some h, hc.1.1, hc.1.2, hc.2⟩

/-- The store `s'` is what a call made for `owner` left of `s`: no transaction open, identities
handed out only forward, and the published tables written as `Write` allows. -/
structure Wrote (owner : Option Uuid) (s s' : Store) : Prop where
  closed : s'.pending = none
  counted : s.serials ≤ s'.serials
  write : Write s.committed s.serials owner s'.committed s'.serials

namespace Wrote

variable {owner : Option Uuid} {s s₁ s' : Store}

theorem of_sameRows (hp : s.pending = none) (hs : s'.SameRows s) : Wrote owner s s' := by
  refine ⟨hs.pending.trans hp, le_of_eq hs.serials.symm, ?_⟩
  rw [hs.committed]
  exact .keep _ _

/-- Reads after a write leave it the same write. -/
theorem then_sameRows (h : Wrote owner s s₁) (hs : s'.SameRows s₁) : Wrote owner s s' := by
  refine ⟨hs.pending.trans h.closed, h.counted.trans (le_of_eq hs.serials.symm), ?_⟩
  rw [hs.committed, hs.serials]
  exact h.write

/-- Reads before a write leave it the same write. -/
theorem sameRows_then (hs : s₁.SameRows s) (h : Wrote owner s₁ s') : Wrote owner s s' := by
  refine ⟨h.closed, (le_of_eq hs.serials.symm).trans h.counted, ?_⟩
  rw [← hs.committed, ← hs.serials]
  exact h.write

end Wrote

/-- Run with no transaction open, `op` leaves a store it `Wrote` for `owner`. -/
def Writes {α : Type} (owner : Option Uuid) (op : StoreOp α) : Prop :=
  ∀ s r s', s.pending = none → op.runOn s = (r, s') → Wrote owner s s'

namespace Writes

variable {α β : Type} {owner : Option Uuid}

theorem of_keeps {op : StoreOp α} (h : Keeps Store.SameRows op) : Writes owner op :=
  fun _ _ _ hp hrun => .of_sameRows hp (h.run hrun).symm

/-- An operation whose failures are clean writes for `owner` when its successes do. -/
theorem of_clean {op : StoreOp α} (hc : Clean op)
    (hok : ∀ s a s', s.pending = none → op.runOn s = (.ok a, s') → Wrote owner s s') :
    Writes owner op := by
  intro s r s' hp hrun
  cases r with
  | error e =>
    obtain ⟨hc', hp', hse⟩ := hc s e s' hp hrun
    refine ⟨hp', hse, ?_⟩
    rw [hc']
    exact .keep _ _
  | ok a => exact hok s a s' hp hrun

/-- Reads first, then an operation that writes. -/
theorem bind_read {x : StoreOp α} {f : α → StoreOp β} (hx : Keeps Store.SameRows x)
    (hf : ∀ a, Writes owner (f a)) : Writes owner (x >>= f) := by
  intro s r s' hp hrun
  rcases bind_sameRows_cases hx hrun with hs | ⟨a, s₁, hs₁, h₁⟩
  · exact .of_sameRows hp hs
  · exact Wrote.sameRows_then hs₁ (hf a s₁ r s' (hs₁.pending.trans hp) h₁)

/-- An operation that writes, then reads. -/
theorem then_read {x : StoreOp α} {f : α → StoreOp β} (hx : Writes owner x)
    (hf : ∀ a, Keeps Store.SameRows (f a)) : Writes owner (x >>= f) := by
  intro s r s' hp hrun
  rw [runOn_bind] at hrun
  rcases hx' : x.runOn s with ⟨_ | a, s₁⟩
  · rw [hx'] at hrun
    cases hrun
    exact hx s _ s' hp hx'
  · rw [hx'] at hrun
    exact (hx s _ s₁ hp hx').then_sameRows ((hf a).run hrun).symm

/-- The store after a call's outcome is one its operation `Wrote`. -/
theorem outcome {op : StoreOp α} (h : Writes owner op) {s : Store} (hp : s.pending = none) :
    Wrote owner s (op.outcome s).2 :=
  h s _ _ hp rfl

/-- A statement outside a transaction, each of whose successes writes as `Write` allows and hands
out no identity. -/
theorem query_own {kind : StatementKind} {ctx : String}
    {body : Instant → Tables → Except DbError (α × Tables)}
    (hb : ∀ now t a t' n, body now t = .ok (a, t') → Write t n owner t' n) :
    Writes owner (query .own kind ctx body) := by
  intro s r s' hp hrun
  rcases query_cases hrun with ⟨e, -, hs⟩ | ⟨now, a, t, hbody, -, hs⟩
  · exact .of_sameRows hp hs
  rw [Store.put_own, Store.view_own] at *
  refine ⟨hs.pending.trans hp, le_of_eq hs.serials.symm, ?_⟩
  rw [hs.committed, hs.serials]
  exact hb _ _ _ _ _ hbody

theorem provisionAccount (r : AccountRequest) : Writes none (provisionAccount r) := by
  unfold Service.provisionAccount
  refine bind_read (Keeps.validated _) fun _ => ?_
  intro s res s' hp hrun
  rw [runOn_bind, runOn_lift] at hrun
  rcases hx : (Accounts.insert _).run s with ⟨r₁, s₁⟩
  rw [hx] at hrun
  -- only reads are made of the outcome of the insert
  have hs' : s₁.SameRows s' := by
    refine Keeps.run (R := Store.SameRows) ?_ hrun
    split
    · exact Keeps.pure _
    · exact Keeps.throw _
    · exact Keeps.throw _
  rcases Store.insert_cases hx with ⟨e, rfl, hs₁⟩ | ⟨now, a, x, hbody, rfl, hs₁⟩
  · exact .of_sameRows hp (hs'.symm.trans hs₁)
  rw [Store.view_own] at hbody
  have hs₂ := hs'.symm.trans hs₁
  rw [Store.put_own] at hs₂
  refine ⟨hs₂.pending.trans hp, ?_, ?_⟩
  · rw [hs₂.serials]
    exact Serials.le_bump _ _
  · rw [hs₂.committed, hs₂.serials]
    -- a new account takes the plan of a new account: the free tier, five invoices a month
    exact .openAccount _ a now x _ ⟨rfl, rfl⟩ hbody le_rfl

theorem createClient (account : Uuid) (r : ClientRequest) :
    Writes (some account) (createClient account r) := by
  unfold Service.createClient Clients.insert
  refine bind_read (Keeps.validated _) fun _ => ?_
  intro s res s' hp hrun
  rcases insert_cases hrun with ⟨e, -, hs⟩ | ⟨now, a, x, hbody, -, hs⟩
  · exact .of_sameRows hp hs
  rw [Store.view_own] at hbody
  obtain ⟨rfl, hid, hown⟩ := Clients.insertRow_row hbody
  rw [Store.put_own] at hs
  refine ⟨hs.pending.trans hp, ?_, ?_⟩
  · rw [hs.serials]
    exact Serials.le_bump _ _
  · rw [hs.committed, hs.serials]
    exact .addClient account a _ hid hown le_rfl

theorem updateClient (account client : Uuid) (r : ClientRequest) :
    Writes (some account) (updateClient account client r) := by
  unfold Service.updateClient Clients.update
  refine bind_read (Keeps.validated _) fun _ => then_read ?_ fun _ => Keeps.orMissing _ _
  refine query_own fun now t a t' n h => ?_
  simp only [bind, Except.bind, pure, Except.pure] at h
  split at h
  · cases h
  split at h
  · cases h
    exact .keep _ _
  · rename_i current hfound
    split at h
    · cases h
    · rename_i row hfill
      cases h
      -- the row put in place is the one found, under its identity
      obtain ⟨-, -, rfl, -⟩ := Clients.lookup_some hfound
      have hsame := Clients.fill_ok hfill
      exact .replaceClient account current row n hfound hsame

theorem deleteClient (account client : Uuid) :
    Writes (some account) (deleteClient account client) := by
  unfold Service.deleteClient Clients.deactivate
  refine then_read ?_ fun b => ?_
  · refine query_own fun now t a t' n h => ?_
    split at h
    · cases h
      exact .keep _ _
    · rename_i current hfound
      cases h
      obtain ⟨-, -, rfl, -⟩ := Clients.lookup_some hfound
      exact .deactivateClient account current now n hfound
  · split
    · exact Keeps.throw _
    · exact Keeps.pure _

theorem storeInvoice (account : Uuid) (r : InvoiceRequest) :
    Writes (some account) (Service.storeInvoice account r) :=
  of_clean (Clean.storeInvoice _ _) fun _ inv _ hp h => by
    obtain ⟨hp', hse, hdrafted, hbilled, hcreated⟩ := storeInvoice_billed hp h
    exact ⟨hp', (Serials.le_bump _ _).trans hse,
      .draft account r inv _ _ hdrafted hbilled hse hcreated⟩

theorem createInvoice (account : Uuid) (r : InvoiceRequest) :
    Writes (some account) (Service.createInvoice account r) :=
  then_read (storeInvoice _ _) fun _ => Keeps.getInvoice _ _

theorem duplicateInvoice (account invoice : Uuid) (now : Instant) :
    Writes (some account) (Service.duplicateInvoice account invoice now) := by
  unfold Service.duplicateInvoice
  refine bind_read (Keeps.query_read _ _ _ _) fun _ => ?_
  refine bind_read (Keeps.orMissing _ _) fun _ => ?_
  exact bind_read (Keeps.query_read _ _ _ _) fun _ => createInvoice _ _

theorem updateInvoice (account invoice : Uuid) (r : InvoiceChanges) :
    Writes (some account) (Service.updateInvoice account invoice r) := by
  refine then_read (of_clean (Clean.storeChanges _ _ _) fun _ _ _ hp h => ?_) fun _ =>
    Keeps.getInvoice _ _
  obtain ⟨hp', hse, -, hitems, hrevised, hbills, hrewritten⟩ := storeChanges_written hp h
  exact ⟨hp', hse, .revise account invoice r _ _ hrevised hbills hrewritten hitems⟩

theorem updateInvoiceStatus (account invoice : Uuid) (r : StatusRequest) (now : Instant) :
    Writes (some account) (Service.updateInvoiceStatus account invoice r now) := by
  refine then_read (of_clean (Clean.storeStatus _ _ _ _) fun _ _ _ hp h => ?_) fun _ =>
    Keeps.getInvoice _ _
  obtain ⟨hp', hse, hmoved⟩ := storeStatus_ok hp h
  exact ⟨hp', hse, .move account invoice r now _ _ hmoved⟩

theorem deleteInvoice (account invoice : Uuid) :
    Writes (some account) (Service.deleteInvoice account invoice) :=
  of_clean (Clean.deleteInvoice _ _) fun _ _ _ hp h => by
    obtain ⟨hp', hse, hremoved⟩ := deleteInvoice_ok hp h
    exact ⟨hp', hse, .remove account invoice _ _ hremoved⟩

theorem renderInvoice (account invoice : Uuid) :
    Writes (some account) (Service.renderInvoice account invoice) := by
  intro s r s' hp hrun
  obtain ⟨hp', hse, hc | ⟨now, hc⟩⟩ := renderInvoice_cases hrun
  · exact .of_sameRows hp ⟨hc, hp', hse⟩
  · refine ⟨hp'.trans hp, le_of_eq hse.symm, ?_⟩
    rw [hc, hse]
    exact .stamp account invoice now _

end Writes

/-- Every call, run with no transaction open, writes for the account it is made for. -/
theorem Call.written (c : Call) {s : Store} (hp : s.pending = none) :
    Wrote c.account s (c.run s).2 := by
  cases c with
  | provisionAccount r => exact (Writes.provisionAccount r).outcome hp
  | getAccount account => exact (Writes.of_keeps (Keeps.getAccount account)).outcome hp
  | createClient account r => exact (Writes.createClient account r).outcome hp
  | getClient account client => exact (Writes.of_keeps (Keeps.getClient account client)).outcome hp
  | listClients account q => exact (Writes.of_keeps (Keeps.listClients account q)).outcome hp
  | updateClient account client r => exact (Writes.updateClient account client r).outcome hp
  | deleteClient account client => exact (Writes.deleteClient account client).outcome hp
  | createInvoice account r => exact (Writes.createInvoice account r).outcome hp
  | getInvoice account invoice =>
    exact (Writes.of_keeps (Keeps.getInvoice account invoice)).outcome hp
  | listInvoices account q => exact (Writes.of_keeps (Keeps.listInvoices account q)).outcome hp
  | updateInvoice account invoice r => exact (Writes.updateInvoice account invoice r).outcome hp
  | updateInvoiceStatus account invoice r now =>
    exact (Writes.updateInvoiceStatus account invoice r now).outcome hp
  | deleteInvoice account invoice => exact (Writes.deleteInvoice account invoice).outcome hp
  | duplicateInvoice account invoice now =>
    exact (Writes.duplicateInvoice account invoice now).outcome hp
  | renderInvoice account invoice => exact (Writes.renderInvoice account invoice).outcome hp
  | getStats account => exact (Writes.of_keeps (Keeps.getStats account)).outcome hp

/-- The account an action is made for: its call's; setting a fault is made for none. -/
def Action.account : Action → Option Uuid
  | .call c => c.account
  | .fault _ _ => none

/-- Every action writes for the account it is made for; setting a fault writes nothing. -/
theorem Action.written (a : Action) {s : Store} (hp : s.pending = none) :
    Wrote a.account s (a.apply s) := by
  cases a with
  | call c => exact c.written hp
  | fault kind passes => exact .of_sameRows hp ⟨rfl, rfl, rfl⟩

/-- A property of the published tables and the identity counts that holds of the empty store, and
survives every write made from a reachable store, holds of every reachable store. -/
theorem Reachable.writes_induction {P : Tables → Serials → Prop} (empty : P {} {})
    (step : ∀ s owner c' n', Reachable s → P s.committed s.serials → s.serials ≤ n' →
      Write s.committed s.serials owner c' n' → P c' n')
    {s : Store} (h : Reachable s) : P s.committed s.serials := by
  induction h with
  | empty => exact empty
  | step a hs ih =>
    have hw := a.written hs.closed
    exact step _ _ _ _ hs ih hw.counted hw.write

end Invoicing
