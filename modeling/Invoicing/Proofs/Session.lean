import Invoicing.Proofs.Lifecycle

/-!
# Sessions

A session starts from the empty store and makes calls of the service, one after another; between
calls the store may be set to fail statements of one kind (`Store.setFault`), as a database can
time out at any statement. `Reachable` is every store a session can reach.

A call is run for its effect on the store (`Call.run`): whether it failed, and the store after it.
Every call, run with no transaction open, closes the transactions it opens, hands identities out
only forward, and changes the published tables in one of the ways `Change` lists: not at all, by
opening an account, by changing the clients, by publishing a draft (`Drafted`), a rewritten draft
(`Revised`), a status change (`Moved`) or a deletion (`Removed`), or by stamping when an invoice
was rendered (`call_change`). Invariants of the published tables are proved once per way.
-/

namespace Invoicing

open StoreOp Service

/-- A call of one of the service's operations, with its arguments. -/
inductive Call where
  | provisionAccount (r : AccountRequest)
  | getAccount (account : Uuid)
  | createClient (account : Uuid) (r : ClientRequest)
  | getClient (account client : Uuid)
  | listClients (account : Uuid) (q : ListQuery)
  | updateClient (account client : Uuid) (r : ClientRequest)
  | deleteClient (account client : Uuid)
  | createInvoice (account : Uuid) (r : InvoiceRequest)
  | getInvoice (account invoice : Uuid)
  | listInvoices (account : Uuid) (q : ListQuery)
  | updateInvoice (account invoice : Uuid) (r : InvoiceChanges)
  | updateInvoiceStatus (account invoice : Uuid) (r : StatusRequest) (now : Instant)
  | deleteInvoice (account invoice : Uuid)
  | duplicateInvoice (account invoice : Uuid) (now : Instant)
  | renderInvoice (account invoice : Uuid)
  | getStats (account : Uuid)

/-- What running `op` on `s` comes to when its result is not kept: whether it failed, and the
store after it. -/
def StoreOp.outcome {α : Type} (op : StoreOp α) (s : Store) : Except InvoiceError Unit × Store :=
  ((op.runOn s).1.map fun _ => (), (op.runOn s).2)

namespace Call

/-- Runs a call on a store. -/
def run : Call → Store → Except InvoiceError Unit × Store
  | .provisionAccount r => (Service.provisionAccount r).outcome
  | .getAccount account => (Service.getAccount account).outcome
  | .createClient account r => (Service.createClient account r).outcome
  | .getClient account client => (Service.getClient account client).outcome
  | .listClients account q => (Service.listClients account q).outcome
  | .updateClient account client r => (Service.updateClient account client r).outcome
  | .deleteClient account client => (Service.deleteClient account client).outcome
  | .createInvoice account r => (Service.createInvoice account r).outcome
  | .getInvoice account invoice => (Service.getInvoice account invoice).outcome
  | .listInvoices account q => (Service.listInvoices account q).outcome
  | .updateInvoice account invoice r => (Service.updateInvoice account invoice r).outcome
  | .updateInvoiceStatus account invoice r now =>
    (Service.updateInvoiceStatus account invoice r now).outcome
  | .deleteInvoice account invoice => (Service.deleteInvoice account invoice).outcome
  | .duplicateInvoice account invoice now => (Service.duplicateInvoice account invoice now).outcome
  | .renderInvoice account invoice => (Service.renderInvoice account invoice).outcome
  | .getStats account => (Service.getStats account).outcome

end Call

/-- One step of a session: a call, or setting (or clearing) the fault of the store. -/
inductive Action where
  | call (c : Call)
  | fault (kind : Option StatementKind) (passes : Nat)

/-- The store after an action. -/
def Action.apply : Action → Store → Store
  | .call c, s => (c.run s).2
  | .fault kind passes, s => s.setFault kind passes

/-- The store after the actions of a session, in order, from `s`. -/
def Action.runAll (acts : List Action) (s : Store) : Store :=
  acts.foldl (fun s a => a.apply s) s

/-- The stores a session can reach from the empty store. -/
inductive Reachable : Store → Prop
  | empty : Reachable {}
  | step {s : Store} (a : Action) : Reachable s → Reachable (a.apply s)

/-- Replaying a session from a reachable store stays among the reachable stores. -/
theorem Reachable.runAll {s : Store} (h : Reachable s) (acts : List Action) :
    Reachable (Action.runAll acts s) := by
  induction acts generalizing s with
  | nil => exact h
  | cons a rest ih => exact ih (h.step a)

namespace Service

/-! The reads change no row. -/

theorem Keeps.getAccount (account : Uuid) : Keeps Store.SameRows (getAccount account) :=
  Keeps.bind (Keeps.query_read _ _ _ _) fun _ => Keeps.orMissing _ _

theorem Keeps.getClient (account client : Uuid) : Keeps Store.SameRows (getClient account client) :=
  Keeps.bind (Keeps.query_read _ _ _ _) fun _ => Keeps.orMissing _ _

theorem Keeps.listClients (account : Uuid) (q : ListQuery) :
    Keeps Store.SameRows (listClients account q) :=
  Keeps.bind (Keeps.query_read _ _ _ _) fun _ =>
    Keeps.bind (Keeps.query_read _ _ _ _) fun _ => Keeps.pure _

theorem Keeps.listInvoices (account : Uuid) (q : ListQuery) :
    Keeps Store.SameRows (listInvoices account q) := by
  unfold Service.listInvoices
  dsimp only
  -- the status filter is read before any statement; every way on counts and lists
  split
  · split
    · exact Keeps.bind (Keeps.pure _) fun _ => counted
    · exact Keeps.bind (Keeps.throw _) fun _ => counted
  · exact Keeps.bind (Keeps.pure _) fun _ => counted
where
  counted {status : Option InvoiceStatus} {page : PageRequest} :
      Keeps Store.SameRows (do
        let total ← Invoices.count account status
        let rows ← Invoices.list account status page.limit page.offset
        pure (⟨rows, total, page.page, page.size, page.totalPages total⟩ : Page Invoice)) :=
    Keeps.bind (Keeps.query_read _ _ _ _) fun _ =>
      Keeps.bind (Keeps.query_read _ _ _ _) fun _ => Keeps.pure _

theorem Keeps.getStats (account : Uuid) : Keeps Store.SameRows (getStats account) :=
  Keeps.query_read _ _ _ _

end Service

/-- What one call can do to the published tables `c`, `n` identities of each table having been
handed out before it; `c'` and `n'` are the tables and the counts after it. Identities handed out
by a failed transaction stay handed out, so only a new row pins the counts down. -/
inductive Change (c : Tables) (n : Serials) : Tables → Serials → Prop
  | keep (n' : Serials) : Change c n c n'
  | openAccount (input : NewAccount) (a : Account) (now : Instant) (t : Tables) (n' : Serials)
      (opened : Accounts.insertRow input (Table.serial .accounts (n.get .accounts + 1)) now c =
        .ok (a, t))
      (counted : n.bump .accounts ≤ n') : Change c n t n'
  | clients (cs : List Client) (n' : Serials) : Change c n { c with clients := cs } n'
  | draft (account : Uuid) (r : InvoiceRequest) (inv : Invoice) (t : Tables) (n' : Serials)
      (drafted : Drafted account r c n inv t) (counted : n.bump .invoices ≤ n') : Change c n t n'
  | revise (account invoice : Uuid) (r : InvoiceChanges) (t : Tables) (n' : Serials)
      (valid : r.violations = []) (revised : Revised account invoice r c t) : Change c n t n'
  | move (account invoice : Uuid) (r : StatusRequest) (now : Instant) (t : Tables) (n' : Serials)
      (moved : Moved account invoice r now c t) : Change c n t n'
  | remove (account invoice : Uuid) (t : Tables) (n' : Serials)
      (removed : Removed account invoice c t) : Change c n t n'
  | stamp (account invoice : Uuid) (now : Instant) (n' : Serials) :
      Change c n
        { c with invoices := c.invoices.map fun x =>
            if x.accountId == account && x.id == invoice then { x with pdfGeneratedAt := some now }
            else x } n'

/-- The store `s'` is what a call left of `s`: no transaction open, identities handed out only
forward, and the published tables changed in one of the ways of `Change`. -/
structure Changed (s s' : Store) : Prop where
  closed : s'.pending = none
  counted : s.serials ≤ s'.serials
  change : Change s.committed s.serials s'.committed s'.serials

namespace Changed

variable {s s₁ s' : Store}

theorem of_sameRows (hp : s.pending = none) (hs : s'.SameRows s) : Changed s s' := by
  refine ⟨hs.pending.trans hp, le_of_eq hs.serials.symm, ?_⟩
  rw [hs.committed]
  exact .keep _

/-- Reads after a change leave it the same change. -/
theorem then_sameRows (h : Changed s s₁) (hs : s'.SameRows s₁) : Changed s s' := by
  refine ⟨hs.pending.trans h.closed, h.counted.trans (le_of_eq hs.serials.symm), ?_⟩
  rw [hs.committed, hs.serials]
  exact h.change

/-- Reads before a change leave it the same change. -/
theorem sameRows_then (hs : s₁.SameRows s) (h : Changed s₁ s') : Changed s s' := by
  refine ⟨h.closed, (le_of_eq hs.serials.symm).trans h.counted, ?_⟩
  rw [← hs.committed, ← hs.serials]
  exact h.change

end Changed

/-- Run with no transaction open, `op` leaves a store it `Changed`. -/
def Effect {α : Type} (op : StoreOp α) : Prop :=
  ∀ s r s', s.pending = none → op.runOn s = (r, s') → Changed s s'

namespace Effect

variable {α β : Type}

theorem of_keeps {op : StoreOp α} (h : Keeps Store.SameRows op) : Effect op :=
  fun _ _ _ hp hrun => .of_sameRows hp (h.run hrun).symm

/-- An operation whose failures are clean has an effect when its successes have. -/
theorem of_clean {op : StoreOp α} (hc : Clean op)
    (hok : ∀ s a s', s.pending = none → op.runOn s = (.ok a, s') → Changed s s') : Effect op := by
  intro s r s' hp hrun
  cases r with
  | error e =>
    obtain ⟨hc', hp', hse⟩ := hc s e s' hp hrun
    refine ⟨hp', hse, ?_⟩
    rw [hc']
    exact .keep _
  | ok a => exact hok s a s' hp hrun

/-- Reads first, then an operation with an effect. -/
theorem bind_read {x : StoreOp α} {f : α → StoreOp β} (hx : Keeps Store.SameRows x)
    (hf : ∀ a, Effect (f a)) : Effect (x >>= f) := by
  intro s r s' hp hrun
  rcases bind_sameRows_cases hx hrun with hs | ⟨a, s₁, hs₁, h₁⟩
  · exact .of_sameRows hp hs
  · exact Changed.sameRows_then hs₁ (hf a s₁ r s' (hs₁.pending.trans hp) h₁)

/-- An operation with an effect, then reads. -/
theorem then_read {x : StoreOp α} {f : α → StoreOp β} (hx : Effect x)
    (hf : ∀ a, Keeps Store.SameRows (f a)) : Effect (x >>= f) := by
  intro s r s' hp hrun
  rw [runOn_bind] at hrun
  rcases hx' : x.runOn s with ⟨_ | a, s₁⟩
  · rw [hx'] at hrun
    cases hrun
    exact hx s _ s' hp hx'
  · rw [hx'] at hrun
    exact (hx s _ s₁ hp hx').then_sameRows ((hf a).run hrun).symm

/-- The store after a call's outcome is one its operation `Changed`. -/
theorem outcome {op : StoreOp α} (h : Effect op) {s : Store} (hp : s.pending = none) :
    Changed s (op.outcome s).2 :=
  h s _ _ hp rfl

/-- A statement outside a transaction whose body changes only the clients. -/
theorem ownClients {α : Type} {kind : StatementKind} {ctx : String}
    {body : Instant → Tables → Except DbError (α × Tables)}
    (hb : ∀ now t a t', body now t = .ok (a, t') → ∃ cs, t' = { t with clients := cs }) :
    Effect (query .own kind ctx body) := by
  intro s r s' hp hrun
  rcases query_cases hrun with ⟨e, -, hs⟩ | ⟨now, a, t, hbody, -, hs⟩
  · exact .of_sameRows hp hs
  obtain ⟨cs, rfl⟩ := hb _ _ _ _ hbody
  rw [Store.put_own, Store.view_own] at hs
  refine ⟨hs.pending.trans hp, le_of_eq hs.serials.symm, ?_⟩
  rw [hs.committed, hs.serials]
  exact .clients cs s.serials

/-- Opening an account, with only reads made of the outcome of the insert. -/
theorem openAccount {α : Type} (input : NewAccount) {k : Except DbError Account → StoreOp α}
    (hk : ∀ r, Keeps Store.SameRows (k r)) :
    Effect ((liftM (Accounts.insert input) : StoreOp _) >>= k) := by
  intro s res s' hp hrun
  rw [runOn_bind, runOn_lift] at hrun
  rcases hx : (Accounts.insert input).run s with ⟨r₁, s₁⟩
  rw [hx] at hrun
  have hs' : s'.SameRows s₁ := ((hk r₁).run hrun).symm
  rcases Store.insert_cases hx with ⟨e, rfl, hs₁⟩ | ⟨now, a, x, hbody, rfl, hs₁⟩
  · exact .of_sameRows hp (hs'.trans hs₁)
  · rw [Store.view_own] at hbody
    have hs₂ := hs'.trans hs₁
    rw [Store.put_own] at hs₂
    refine ⟨hs₂.pending.trans hp, ?_, ?_⟩
    · rw [hs₂.serials]
      exact Serials.le_bump _ _
    · rw [hs₂.committed, hs₂.serials]
      exact .openAccount input a now x _ hbody le_rfl

theorem provisionAccount (r : AccountRequest) : Effect (provisionAccount r) := by
  unfold Service.provisionAccount
  refine bind_read (Keeps.validated _) fun _ => openAccount _ fun res => ?_
  split
  · exact Keeps.pure _
  · exact Keeps.throw _
  · exact Keeps.throw _

theorem createClient (account : Uuid) (r : ClientRequest) : Effect (createClient account r) := by
  unfold Service.createClient Clients.insert
  refine bind_read (Keeps.validated _) fun _ => ?_
  intro s res s' hp hrun
  rcases insert_cases hrun with ⟨e, -, hs⟩ | ⟨now, a, x, hbody, -, hs⟩
  · exact .of_sameRows hp hs
  rw [Store.view_own] at hbody
  rw [(Clients.insertRow_row hbody).1, Store.put_own] at hs
  refine ⟨hs.pending.trans hp, ?_, ?_⟩
  · rw [hs.serials]
    exact Serials.le_bump _ _
  · rw [hs.committed, hs.serials]
    exact .clients _ _

theorem updateClient (account client : Uuid) (r : ClientRequest) :
    Effect (updateClient account client r) := by
  unfold Service.updateClient Clients.update
  refine bind_read (Keeps.validated _) fun _ => then_read ?_ fun _ => Keeps.orMissing _ _
  refine ownClients fun now t a t' h => ?_
  simp only [bind, Except.bind, pure, Except.pure] at h
  split at h
  · cases h
  split at h
  · cases h
    exact ⟨t.clients, rfl⟩
  · split at h
    · cases h
    · cases h
      exact ⟨_, rfl⟩

theorem deleteClient (account client : Uuid) : Effect (deleteClient account client) := by
  unfold Service.deleteClient Clients.deactivate
  refine then_read ?_ fun b => ?_
  · refine ownClients fun now t a t' h => ?_
    split at h
    · cases h
      exact ⟨t.clients, rfl⟩
    · cases h
      exact ⟨_, rfl⟩
  · split
    · exact Keeps.throw _
    · exact Keeps.pure _

theorem storeInvoice (account : Uuid) (r : InvoiceRequest) :
    Effect (Service.storeInvoice account r) :=
  of_clean (Clean.storeInvoice _ _) fun _ inv _ hp h => by
    obtain ⟨hp', hse, hdrafted, -⟩ := storeInvoice_billed hp h
    exact ⟨hp', (Serials.le_bump _ _).trans hse, .draft account r inv _ _ hdrafted hse⟩

theorem createInvoice (account : Uuid) (r : InvoiceRequest) :
    Effect (Service.createInvoice account r) :=
  then_read (storeInvoice _ _) fun _ => Keeps.getInvoice _ _

theorem duplicateInvoice (account invoice : Uuid) (now : Instant) :
    Effect (Service.duplicateInvoice account invoice now) := by
  unfold Service.duplicateInvoice
  refine bind_read (Keeps.query_read _ _ _ _) fun _ => ?_
  refine bind_read (Keeps.orMissing _ _) fun _ => ?_
  exact bind_read (Keeps.query_read _ _ _ _) fun _ => createInvoice _ _

theorem updateInvoice (account invoice : Uuid) (r : InvoiceChanges) :
    Effect (Service.updateInvoice account invoice r) := by
  refine then_read (of_clean (Clean.storeChanges _ _ _) fun _ _ _ hp h => ?_) fun _ =>
    Keeps.getInvoice _ _
  obtain ⟨hp', hse, hvalid, -, hrevised, -⟩ := storeChanges_written hp h
  exact ⟨hp', hse, .revise account invoice r _ _ hvalid hrevised⟩

theorem updateInvoiceStatus (account invoice : Uuid) (r : StatusRequest) (now : Instant) :
    Effect (Service.updateInvoiceStatus account invoice r now) := by
  refine then_read (of_clean (Clean.storeStatus _ _ _ _) fun _ _ _ hp h => ?_) fun _ =>
    Keeps.getInvoice _ _
  obtain ⟨hp', hse, hmoved⟩ := storeStatus_ok hp h
  exact ⟨hp', hse, .move account invoice r now _ _ hmoved⟩

theorem deleteInvoice (account invoice : Uuid) : Effect (Service.deleteInvoice account invoice) :=
  of_clean (Clean.deleteInvoice _ _) fun _ _ _ hp h => by
    obtain ⟨hp', hse, hremoved⟩ := deleteInvoice_ok hp h
    exact ⟨hp', hse, .remove account invoice _ _ hremoved⟩

theorem renderInvoice (account invoice : Uuid) : Effect (Service.renderInvoice account invoice) := by
  intro s r s' hp hrun
  obtain ⟨hp', hse, hc | ⟨now, hc⟩⟩ := renderInvoice_cases hrun
  · exact .of_sameRows hp ⟨hc, hp', hse⟩
  · refine ⟨hp'.trans hp, le_of_eq hse.symm, ?_⟩
    rw [hc, hse]
    exact .stamp account invoice now _

end Effect

/-- Every call, run with no transaction open, leaves a store it `Changed`. -/
theorem Call.changed (c : Call) {s : Store} (hp : s.pending = none) : Changed s (c.run s).2 := by
  cases c with
  | provisionAccount r => exact (Effect.provisionAccount r).outcome hp
  | getAccount account => exact (Effect.of_keeps (Keeps.getAccount account)).outcome hp
  | createClient account r => exact (Effect.createClient account r).outcome hp
  | getClient account client => exact (Effect.of_keeps (Keeps.getClient account client)).outcome hp
  | listClients account q => exact (Effect.of_keeps (Keeps.listClients account q)).outcome hp
  | updateClient account client r => exact (Effect.updateClient account client r).outcome hp
  | deleteClient account client => exact (Effect.deleteClient account client).outcome hp
  | createInvoice account r => exact (Effect.createInvoice account r).outcome hp
  | getInvoice account invoice =>
    exact (Effect.of_keeps (Keeps.getInvoice account invoice)).outcome hp
  | listInvoices account q => exact (Effect.of_keeps (Keeps.listInvoices account q)).outcome hp
  | updateInvoice account invoice r => exact (Effect.updateInvoice account invoice r).outcome hp
  | updateInvoiceStatus account invoice r now =>
    exact (Effect.updateInvoiceStatus account invoice r now).outcome hp
  | deleteInvoice account invoice => exact (Effect.deleteInvoice account invoice).outcome hp
  | duplicateInvoice account invoice now =>
    exact (Effect.duplicateInvoice account invoice now).outcome hp
  | renderInvoice account invoice => exact (Effect.renderInvoice account invoice).outcome hp
  | getStats account => exact (Effect.of_keeps (Keeps.getStats account)).outcome hp

/-- Setting a fault changes no row; so every action leaves a store it `Changed`. -/
theorem Action.changed (a : Action) {s : Store} (hp : s.pending = none) :
    Changed s (a.apply s) := by
  cases a with
  | call c => exact c.changed hp
  | fault kind passes => exact .of_sameRows hp ⟨rfl, rfl, rfl⟩

namespace Reachable

variable {s : Store}

/-- No transaction stays open between calls. -/
theorem closed (h : Reachable s) : s.pending = none := by
  induction h with
  | empty => rfl
  | step a _ ih => exact (a.changed ih).closed

/-- A property of the published tables and the identity counts that holds of the empty store
and survives every `Change` holds of every reachable store. -/
theorem tables_induction {P : Tables → Serials → Prop} (empty : P {} {})
    (step : ∀ c n c' n', P c n → n ≤ n' → Change c n c' n' → P c' n') (h : Reachable s) :
    P s.committed s.serials := by
  induction h with
  | empty => exact empty
  | step a hs ih =>
    have hc := a.changed hs.closed
    exact step _ _ _ _ ih hc.counted hc.change

end Reachable

/-! ## A session to run

The session that opens an account, adds a client to it and invoices one item of work. Opening the
account checks the e-mail address, whose host name is split at its dots by a function the kernel
does not evaluate; `provision_owner` settles that check once, and the rest of the session then
runs by evaluation. -/

theorem splitOn_example_com : "example.com".splitOn "." = ["example", "com"] := by
  rw [String.splitOn, if_neg (by decide)]
  repeat (rw [String.splitOnAux]; simp +decide only [↓reduceIte])

theorem isValid_example : Email.isValid "o@example.com" = true := by
  have hhost : Email.isDomain "example.com" = true := by
    rw [Email.isDomain, Email.isHostName, splitOn_example_com]
    decide
  unfold Email.isValid
  dsimp only
  have hd : String.ofList ("o@example.com".toList.reverse.takeWhile (· != '@')).reverse =
      "example.com" := by decide
  rw [hd, hhost]
  decide

/-- The request that opens the account of the session. -/
def ownerRequest : AccountRequest := { email := "o@example.com", fullName := "Owner" }

/-- The account the session opens: the first account identity. -/
def owner : Uuid := Table.serial .accounts 1

/-- The request that adds the session's client. -/
def clientRequest : ClientRequest := { name := "Client" }

/-- One item of work, a hundred for one, billed to the session's client. -/
def workRequest : InvoiceRequest :=
  { clientId := Table.serial .clients 1, issueDate := "2024-01-01", dueDate := "2024-01-31",
    items := [{ description := "Work", quantity := ⟨1, 0, false⟩, unitPrice := ⟨100, 0, false⟩ }] }

theorem ownerRequest_violations : ownerRequest.violations = [] := by
  simp only [AccountRequest.violations, ownerRequest, isValid_example]
  decide

/-- Opening the session's account stores what inserting its row stores. -/
theorem provision_owner : (Call.provisionAccount ownerRequest).run {} =
    (.ok (), ((Accounts.insert { email := "o@example.com", fullName := "Owner" }).run {}).2) := by
  simp only [Call.run, StoreOp.outcome]
  unfold Service.provisionAccount
  rw [ownerRequest_violations]
  rfl

/-- The session: open the account, add the client, invoice the work. -/
def invoicingSession : List Action :=
  [.call (.provisionAccount ownerRequest), .call (.createClient owner clientRequest),
    .call (.createInvoice owner workRequest)]

/-- The same session up to the invoice, after which the store fails every read of invoice items. -/
def interruptedSession : List Action :=
  [.call (.provisionAccount ownerRequest), .call (.createClient owner clientRequest),
    .fault (some (.touch .select .items)) 0]

end Invoicing
