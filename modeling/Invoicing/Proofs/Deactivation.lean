import Invoicing.Proofs.Tenancy
import Invoicing.Proofs.Reissuable

/-!
# Deleted clients

Deleting a client does not remove its row: the row is marked inactive and stamped with the time
of the deletion. The statements that read, list, count, replace and delete clients, and the lookup
of the client a new or changed invoice is to bill, see active rows only (`Clients.lookup … false`);
the client an invoice already bills is looked up whatever its state (`Clients.findBilled`).

No write touches an inactive row (`Write.keeps_inactive`): the writes that rewrite a client
rewrite the one they found active under its identity, and no two clients share an identity. So,
by induction on the session, the row a deletion left stays in every later store as it was
(`Action.keeps_inactive`), and every later store answers for the client as for one that is gone,
while the invoices billed to it keep showing it (`Retired`).

What is proved here:
* `Clients.lookup_eq_of_mem`, `Clients.lookup_inactive`: with identities unique, a lookup finds a
  client's own row, unless the row is inactive and only active rows are looked for.
* `deleteClient_ok`: a deletion that went through found the client active and left its row
  inactive, stamped, and otherwise as it was.
* `Write.keeps_inactive`, `Action.keeps_inactive`: an inactive row survives every write, and so
  every later session.
* `Retired.of_mem`: in a reachable store, every inactive row answers as a deleted client.
* `deleted_client_stays_deleted`: after a deletion, in every later store, the client is not found,
  listed, counted, replaced, deleted or billed again, and the invoices billed to it still show its
  row.
-/

namespace Invoicing

open StoreOp Service

/-! ## Looking clients up -/

section Lookup

variable {t : Tables} {n : Serials} {x : Client}

/-- With identities unique, looking a client up under its account and identity finds its own row,
when the lookup takes rows in its state. -/
theorem Clients.lookup_eq_of_mem (hc : t.ClientsIssued n) (hx : x ∈ t.clients) {anyState : Bool}
    (hvis : (anyState || x.isActive) = true) : Clients.lookup x.accountId x.id anyState t = some x := by
  obtain ⟨y, hy⟩ : ∃ y, Clients.lookup x.accountId x.id anyState t = some y :=
    Option.isSome_iff_exists.mp (List.find?_isSome.mpr ⟨x, hx, by simp [hvis]⟩)
  obtain ⟨hym, -, hyid, -⟩ := Clients.lookup_some hy
  rw [hy, hc.eq_of_id hym hx hyid]

/-- With identities unique, an inactive client's identity names no active client, in any
account. -/
theorem Clients.lookup_inactive (hc : t.ClientsIssued n) (hx : x ∈ t.clients)
    (hoff : x.isActive = false) (account : Uuid) : Clients.lookup account x.id false t = none := by
  cases hy : Clients.lookup account x.id false t with
  | none => rfl
  | some y =>
    obtain ⟨hym, -, hyid, hyact⟩ := Clients.lookup_some hy
    -- the active row found would be `x` itself
    obtain rfl := hc.eq_of_id hym hx hyid
    simp [hoff] at hyact

end Lookup

/-! ## What a deletion does -/

namespace Service

variable {account client : Uuid} {s s' : Store}

/-- A deletion that went through found the client active, and marked every row under its
identity inactive at the time of the statement; nothing else changed. -/
theorem deleteClient_ok {u : Unit} (h : (deleteClient account client).runOn s = (.ok u, s')) :
    ∃ current now, Clients.lookup account client false s.committed = some current ∧
      s'.committed = { s.committed with clients := s.committed.clients.map fun x =>
        if x.id == client then { x with isActive := false, updatedAt := now } else x } := by
  unfold deleteClient Clients.deactivate at h
  obtain ⟨b, s₁, hq, h₁⟩ := bind_eq_ok.mp h
  obtain ⟨now, t, hbody, hs₁⟩ := query_ok hq
  rw [Store.view_own] at hbody
  -- the deletion answers only when a row was found
  have hb : b = true := by
    cases b
    · simp at h₁
    · rfl
  subst hb
  simp only [Bool.not_true, Bool.false_eq_true, if_false, runOn_pure, Prod.mk.injEq] at h₁
  obtain ⟨-, rfl⟩ := h₁
  split at hbody
  · cases hbody
  · rename_i current hfound
    cases hbody
    rw [Store.put_own] at hs₁
    exact ⟨current, now, hfound, hs₁.committed⟩

end Service

/-! ## Statements that find no active client -/

namespace StoreOp

variable {β γ : Type} {s s' : Store} {res : Except InvoiceError β}

/-- A statement whose body can only give `a` on the tables it sees, then `k`: the run failed in the
statement, with a storage failure, or it is a run of `k a`. -/
theorem query_then_cases {conn : Conn} {kind : StatementKind} {ctx : String}
    {body : Instant → Tables → Except DbError (γ × Tables)} {k : γ → StoreOp β} {a : γ}
    (hb : ∀ now b t, body now (s.view conn) = .ok (b, t) → b = a)
    (h : (query conn kind ctx body >>= k).runOn s = (res, s')) :
    (∃ m, res = .error (.storage m)) ∨ ∃ s₁, (k a).runOn s₁ = (res, s') := by
  rw [runOn_bind] at h
  rcases hq : (query conn kind ctx body).runOn s with ⟨_ | b, s₁⟩ <;> rw [hq] at h
  · cases h
    obtain ⟨m, rfl⟩ := query_error hq
    exact .inl ⟨m, rfl⟩
  · obtain ⟨now, t, hbody, -⟩ := query_ok hq
    obtain rfl := hb now b t hbody
    exact .inr ⟨s₁, h⟩

/-- On a store that is up and fails no statement, a statement outside a transaction gives what
its body gives on the published tables at the next tick of the clock, and publishes the tables the
body leaves. -/
theorem query_own_healthy {kind : StatementKind} {ctx : String}
    {body : Instant → Tables → Except DbError (γ × Tables)} {a : γ} {t : Instant → Tables}
    (hfault : s.fault = none) (hup : s.reachable = true)
    (hb : ∀ now, body now s.committed = .ok (a, t now)) :
    (query .own kind ctx body).runOn s =
      (.ok a, { s with clock := s.clock + 1, committed := t (Store.instant (s.clock + 1)) }) := by
  unfold query
  rw [runOn_bind, runOn_lift]
  have hx : (Store.exec .own kind body).run s =
      (.ok a, { s with clock := s.clock + 1, committed := t (Store.instant (s.clock + 1)) }) := by
    simp [Store.exec, StateT.run, Store.tick, Store.txnOf, Store.letThrough, Store.view, Store.put,
      hfault, hup, hb]
  rw [hx]
  rfl

/-- A loop of checks each of which passes passes. -/
theorem forIn_checks_of_ok {α δ ε : Type} {xs : List α} {f : α → Except ε δ}
    (h : ∀ x ∈ xs, ∃ v, f x = .ok v) :
    (forIn xs PUnit.unit fun x _ => do let _ ← f x; pure (ForInStep.yield PUnit.unit) :
      Except ε PUnit) = .ok PUnit.unit := by
  induction xs with
  | nil => rfl
  | cons x xs ih =>
    obtain ⟨v, hv⟩ := h x List.mem_cons_self
    simp only [List.forIn_cons, bind, Except.bind, hv]
    exact ih fun y hy => h y (List.mem_cons_of_mem _ hy)

/-- On a store that is up and fails no statement, a transaction opens on a copy of the published
tables, at the next tick of the clock. -/
theorem begin_healthy (hfault : s.fault = none) (hup : s.reachable = true) :
    begin.runOn s =
      (.ok (), { s with clock := s.clock + 1, pending := some ⟨s.committed, s.clock + 1⟩ }) := by
  simp [runOn, begin, StateT.run, Store.letThrough, hfault, hup]

/-- On a store that is up and fails no statement, a read inside the open transaction gives what
it reads from the transaction's copy, and changes nothing. -/
theorem query_read_txn_healthy {kind : StatementKind} {ctx : String} {g : Tables → γ} {p : Pending}
    (hp : s.pending = some p) (hfault : s.fault = none) (hup : s.reachable = true) :
    (query .txn kind ctx fun _ t => .ok (g t, t)).runOn s = (.ok (g p.tables), s) := by
  unfold query
  rw [runOn_bind, runOn_lift]
  have hx : (Store.exec .txn kind fun _ t => .ok (g t, t)).run s = (.ok (g p.tables), s) := by
    obtain ⟨committed, pending, clock, serials, fault, reachable⟩ := s
    simp only at hp hfault hup
    subst hp hfault hup
    rfl
  rw [hx]
  rfl

/-- On a store that is up and fails no statement, a transaction whose body fails on the copy it
opens with fails the same way. -/
theorem transaction_healthy_error {ctx : String} {body : StoreOp γ} {e : InvoiceError}
    (hfault : s.fault = none) (hup : s.reachable = true)
    (hbody : ∃ s₂, body.runOn
      { s with clock := s.clock + 1, pending := some ⟨s.committed, s.clock + 1⟩ } = (.error e, s₂)) :
    ∃ s₃, (transaction ctx body).runOn s = (.error e, s₃) := by
  obtain ⟨s₂, h₂⟩ := hbody
  unfold transaction
  rw [runOn_bind, begin_healthy hfault hup]
  simp only [runOn_bind, runOn_tryCatch, h₂, runOn_rollback, runOn_throw]
  exact ⟨_, rfl⟩

end StoreOp

namespace Service

/-- A listing that answered counts the active clients of the account and shows some of them. -/
theorem listClients_ok {account : Uuid} {s s' : Store} {q : ListQuery} {p : Page Client}
    (h : (listClients account q).runOn s = (.ok p, s')) :
    p.total = (Clients.active account s.committed).length ∧
      ∀ x ∈ p.rows, x ∈ Clients.active account s.committed := by
  unfold listClients Clients.count Clients.list at h
  obtain ⟨total, s₁, hcount, h₁⟩ := bind_eq_ok.mp h
  obtain ⟨rfl, hs₁⟩ := query_read_ok hcount
  obtain ⟨rows, s₂, hlist, h₂⟩ := bind_eq_ok.mp h₁
  obtain ⟨rfl, -⟩ := query_read_ok hlist
  simp only [runOn_pure, Prod.mk.injEq, Except.ok.injEq] at h₂
  obtain ⟨rfl, -⟩ := h₂
  rw [Store.view_own, Store.view_own, hs₁.committed]
  exact ⟨rfl, fun x hx => List.mem_mergeSort.mp (List.mem_of_mem_drop (List.mem_of_mem_take hx))⟩

/-- A client with no active row under its identity is none of the account's active clients. -/
theorem Clients.active_ne_of_lookup {account client : Uuid} {t : Tables}
    (hnone : Clients.lookup account client false t = none) :
    ∀ x ∈ Clients.active account t, x.id ≠ client := by
  intro x hx hid
  simp only [Clients.active, List.mem_filter, Bool.and_eq_true, beq_iff_eq] at hx
  have := List.find?_eq_none.mp hnone x hx.1
  simp [hx.2.1, hx.2.2, hid] at this

/-- Before its transaction, a change that names a client checks its request, the given items, and
opens the transaction on the published tables. -/
theorem storeChanges_transaction {account invoice : Uuid} {r : InvoiceChanges} {s s' : Store}
    {u : Unit} (h : (storeChanges account invoice r).runOn s = (.ok u, s')) :
    (transaction "Failed to commit invoice update" (reviseDraft account invoice r)).runOn s =
      (.ok u, s') := by
  unfold storeChanges at h
  obtain ⟨⟨⟩, s₁, hv, h₁⟩ := bind_eq_ok.mp h
  obtain ⟨-, rfl⟩ := validated_ok hv
  dsimp only at h₁
  cases hr : r.items with
  | none =>
    rw [hr] at h₁
    exact h₁
  | some items =>
    rw [hr] at h₁
    obtain ⟨⟨⟩, s₂, hi, h₂⟩ := bind_eq_ok.mp h₁
    obtain ⟨-, rfl⟩ := validateItems_ok hi
    exact h₂

/-- A change that names a client and went through, inside its transaction, found the draft billing
that client already, or found the client active in the published tables. -/
theorem reviseDraft_client {account invoice c : Uuid} {r : InvoiceChanges} {s s' : Store}
    {p : Pending} {u : Unit} (hp : s.pending = some p) (hgiven : r.clientId = some c)
    (h : (reviseDraft account invoice r).runOn s = (.ok u, s')) :
    ∃ current, Invoices.lookup account invoice p.tables = some current ∧
      (c = current.clientId ∨ ∃ cl, Clients.lookup account c false s.committed = some cl) := by
  unfold reviseDraft at h
  obtain ⟨current, -, -, s₁, hcurrent, -, -, hs₁, h₁⟩ := lock_check_ok hp h
  obtain ⟨clientId, s₂, hclient, -⟩ := bind_eq_ok.mp h₁
  obtain ⟨hcid, hactive, -⟩ := clientAfter_given hclient
  rw [hgiven, Option.getD_some] at hcid
  subst hcid
  refine ⟨current, hcurrent, ?_⟩
  by_cases hsame : clientId = current.clientId
  · exact .inl hsame
  · -- another client is billed only once it is found active
    rw [← hs₁.committed]
    exact .inr (hactive hsame)

/-- A read of an invoice that answered gives its published row, with the client the published
tables hold under the identity it bills, active or not. -/
theorem getInvoice_client {account invoice : Uuid} {s s' : Store} {d : InvoiceDetails}
    (h : (getInvoice account invoice).runOn s = (.ok d, s')) :
    Invoices.lookup account invoice s.committed = some d.invoice ∧
      d.client = Clients.lookup d.invoice.accountId d.invoice.clientId true s.committed := by
  unfold getInvoice hydrate Clients.findBilled at h
  obtain ⟨found, s₁, hfind, h₁⟩ := bind_eq_ok.mp h
  obtain ⟨rfl, hs₁⟩ := query_read_ok hfind
  obtain ⟨i, s₂, hmissing, h₂⟩ := bind_eq_ok.mp h₁
  obtain ⟨hfound, rfl⟩ := orMissing_ok hmissing
  obtain ⟨items, s₃, hitems, h₃⟩ := bind_eq_ok.mp h₂
  obtain ⟨-, hs₃⟩ := query_read_ok hitems
  obtain ⟨client, s₄, hbilled, h₄⟩ := bind_eq_ok.mp h₃
  obtain ⟨rfl, -⟩ := query_read_ok hbilled
  simp only [runOn_pure, Prod.mk.injEq, Except.ok.injEq] at h₄
  obtain ⟨rfl, -⟩ := h₄
  rw [Store.view_own] at hfound ⊢
  exact ⟨hfound, by rw [hs₃.committed, hs₁.committed]⟩

/-- A rendering that answered laid out an invoice read as `getInvoice` reads it. -/
theorem renderInvoice_client {account invoice : Uuid} {s s' : Store} {name : String}
    {doc : Printout} (h : (renderInvoice account invoice).runOn s = (.ok (name, doc), s')) :
    ∃ d a, Invoices.lookup account invoice s.committed = some d.invoice ∧
      d.client = Clients.lookup d.invoice.accountId d.invoice.clientId true s.committed ∧
      doc = Printout.ofInvoice d a := by
  unfold renderInvoice at h
  obtain ⟨d, s₁, hget, h₁⟩ := bind_eq_ok.mp h
  obtain ⟨found, s₂, -, h₂⟩ := bind_eq_ok.mp h₁
  obtain ⟨a, s₃, -, h₃⟩ := bind_eq_ok.mp h₂
  obtain ⟨⟨⟩, s₄, -, h₄⟩ := bind_eq_ok.mp h₃
  simp only [runOn_pure, Prod.mk.injEq, Except.ok.injEq] at h₄
  obtain ⟨⟨-, rfl⟩, -⟩ := h₄
  exact ⟨d, a, (getInvoice_client hget).1, (getInvoice_client hget).2, rfl⟩

/-- On a store that is up and fails no statement, a read of an invoice that is there answers with
its row, its items and the client it bills, active or not. -/
theorem getInvoice_healthy {account invoice : Uuid} {s : Store} {i : Invoice}
    (hfault : s.fault = none) (hup : s.reachable = true)
    (hfound : Invoices.lookup account invoice s.committed = some i) :
    (getInvoice account invoice).runOn s =
      (.ok ⟨i, Items.ofInvoice i.accountId i.id s.committed,
        Clients.lookup i.accountId i.clientId true s.committed⟩, { s with clock := s.clock + 3 }) := by
  unfold getInvoice hydrate Invoices.find Items.find Clients.findBilled
  simp (disch := simp [hfault, hup]) only [runOn_bind, query_read_healthy, hfound, orMissing,
    runOn_pure]

/-- On a store that is up and fails no statement, rendering an invoice that is there, of an
account that is there, lays out the invoice as `getInvoice` reads it. -/
theorem renderInvoice_healthy {account invoice : Uuid} {s : Store} {i : Invoice} {owner : Account}
    (hfault : s.fault = none) (hup : s.reachable = true)
    (hfound : Invoices.lookup account invoice s.committed = some i)
    (howner : Accounts.lookup account s.committed = some owner) :
    ∃ s', (renderInvoice account invoice).runOn s =
      (.ok (i.number ++ ".pdf", Printout.ofInvoice ⟨i, Items.ofInvoice i.accountId i.id s.committed,
        Clients.lookup i.accountId i.clientId true s.committed⟩ owner), s') := by
  unfold renderInvoice Accounts.find Invoices.markRendered
  simp (disch := simp [hfault, hup]) only [runOn_bind, getInvoice_healthy hfault hup hfound,
    query_read_healthy, howner, orMissing, runOn_pure]
  rw [query_own_healthy (s := { s with clock := s.clock + 3 + 1 }) hfault hup fun _ => rfl]
  exact ⟨_, rfl⟩

section Gone

variable {account client : Uuid} {s s' : Store}
  (hnone : Clients.lookup account client false s.committed = none)
include hnone

/-- Reading a client with no active row fails: it is not found, or the store failed. -/
theorem getClient_gone {res : Except InvoiceError Client}
    (h : (getClient account client).runOn s = (res, s')) :
    res = .error (.missing "client") ∨ ∃ m, res = .error (.storage m) := by
  unfold getClient Clients.find at h
  refine (query_then_cases (a := none) (fun _ b t hb => ?_) h).elim .inr fun ⟨s₁, h₁⟩ => ?_
  · simp only [Store.view_own, hnone, Except.ok.injEq, Prod.mk.injEq] at hb
    exact hb.1.symm
  · simp only [orMissing, runOn_throw, Prod.mk.injEq] at h₁
    exact .inl h₁.1.symm

/-- Deleting a client with no active row fails: it is not found, or the store failed. -/
theorem deleteClient_gone {res : Except InvoiceError Unit}
    (h : (deleteClient account client).runOn s = (res, s')) :
    res = .error (.missing "client") ∨ ∃ m, res = .error (.storage m) := by
  unfold deleteClient Clients.deactivate at h
  refine (query_then_cases (a := false) (fun _ b t hb => ?_) h).elim .inr fun ⟨s₁, h₁⟩ => ?_
  · rw [Store.view_own, hnone] at hb
    cases hb
    rfl
  · simp only [Bool.not_false, if_true, runOn_throw, Prod.mk.injEq] at h₁
    exact .inl h₁.1.symm

/-- Replacing a client with no active row fails: the request fails its checks, the client is not
found, or the store failed. -/
theorem updateClient_gone {r : ClientRequest} {res : Except InvoiceError Client}
    (h : (updateClient account client r).runOn s = (res, s')) :
    res = .error (.missing "client") ∨ (∃ m, res = .error (.storage m)) ∨
      (r.violations ≠ [] ∧ res = .error (.invalidInput (Violation.report r.violations))) := by
  unfold updateClient at h
  by_cases hv : r.violations = []
  · rw [runOn_bind, hv, validated_nil] at h
    unfold Clients.update at h
    refine (query_then_cases (a := none) (fun _ b t hb => ?_) h).elim (.inr ∘ .inl)
      fun ⟨s₁, h₁⟩ => ?_
    · -- the texts are checked first; then no client is found
      simp only [Store.view_own, hnone, bind, Except.bind, pure, Except.pure] at hb
      split at hb
      · cases hb
      · cases hb
        rfl
    · simp only [orMissing, runOn_throw, Prod.mk.injEq] at h₁
      exact .inl h₁.1.symm
  · have hnil : r.violations.isEmpty = false := List.isEmpty_eq_false_iff.mpr hv
    simp only [validated, hnil, Bool.false_eq_true, if_false, runOn_bind, runOn_throw,
      Prod.mk.injEq] at h
    exact .inr (.inr ⟨hv, h.1.symm⟩)

/-- No new invoice bills a client with no active row. -/
theorem createInvoice_gone {r : InvoiceRequest} {d : InvoiceDetails} (hp : s.pending = none)
    (hclient : r.clientId = client) : (createInvoice account r).runOn s ≠ (.ok d, s') := by
  intro h
  unfold createInvoice at h
  obtain ⟨inv, s₁, hstore, -⟩ := bind_eq_ok.mp h
  obtain ⟨-, -, -, ⟨cl, hcl⟩, -⟩ := storeInvoice_billed hp hstore
  rw [hclient, hnone] at hcl
  cases hcl

/-- A change of an invoice naming a client with no active row goes through only on a draft that
bills that client already. -/
theorem updateInvoice_gone {invoice : Uuid} {r : InvoiceChanges} {d : InvoiceDetails}
    (hp : s.pending = none) (hclient : r.clientId = some client)
    (h : (updateInvoice account invoice r).runOn s = (.ok d, s')) :
    ∃ i, Invoices.lookup account invoice s.committed = some i ∧ i.clientId = client := by
  unfold updateInvoice at h
  obtain ⟨⟨⟩, s₁, hstore, -⟩ := bind_eq_ok.mp h
  obtain ⟨-, -, ⟨e, he, -⟩ | ⟨a, t₁, t₂, p, hc₁, hp₁, -, hbody, -⟩⟩ :=
    transaction_cases (Keeps.reviseDraft _ _ _) hp (storeChanges_transaction hstore)
  · cases he
  obtain ⟨current, hcur, hc⟩ := reviseDraft_client hp₁ hclient hbody
  rcases hc with rfl | ⟨cl, hcl⟩
  · exact ⟨current, hcur, rfl⟩
  · rw [hc₁, hnone] at hcl
    cases hcl

section Healthy

variable (hfault : s.fault = none) (hup : s.reachable = true)
include hfault hup

theorem getClient_gone_healthy :
    ((getClient account client).runOn s).1 = .error (.missing "client") := by
  unfold getClient Clients.find
  rw [runOn_bind, query_read_healthy hfault hup, hnone]
  rfl

theorem deleteClient_gone_healthy :
    ((deleteClient account client).runOn s).1 = .error (.missing "client") := by
  unfold deleteClient Clients.deactivate
  rw [runOn_bind, query_own_healthy hfault hup (a := false) (t := fun _ => s.committed) fun _ => by
    rw [hnone]]
  rfl

/-- A request that passes its checks and whose texts hold no U+0000 reaches the lookup, which
finds no client. -/
theorem updateClient_gone_healthy {r : ClientRequest} (hv : r.violations = [])
    (htexts : ∀ v ∈ Clients.texts r, ∀ x ∈ v, Column.NulFree x) :
    ((updateClient account client r).runOn s).1 = .error (.missing "client") := by
  have hloop := forIn_checks_of_ok (f := Column.optionalText) fun v hv' =>
    ⟨v, Column.optionalText_of_nulFree (htexts v hv')⟩
  unfold updateClient Clients.update
  simp only [runOn_bind, hv, validated_nil]
  rw [query_own_healthy hfault hup (a := none) (t := fun _ => s.committed) fun _ => by
      simp only [bind, Except.bind] at hloop ⊢
      rw [hloop, hnone]
      rfl]
  rfl

/-- Creating an invoice for a client with no active row, from a request that passes every check
made before the client is looked up, fails with "client not found". -/
theorem createInvoice_gone_healthy {r : InvoiceRequest} {acc : Account} {issue due : Date}
    {template : String} (hclient : r.clientId = client) (hv : r.violations = [])
    (hitems : ∀ it ∈ r.items, it.violations = [])
    (hfound : Accounts.lookup account s.committed = some acc) (hquota : acc.checkQuota = .ok ())
    (hissue : parseDate "issue_date" r.issueDate = .ok issue)
    (hdue : parseDate "due_date" r.dueDate = .ok due) (horder : issue.toDays ≤ due.toDays)
    (htemplate : resolveTemplate r.templateId = .ok template) :
    ((createInvoice account r).runOn s).1 = .error (.missing "client") := by
  have hafter : dueAfterIssue issue due = pure () := if_neg (not_lt.mpr horder)
  unfold createInvoice storeInvoice Accounts.find Clients.find
  simp only [runOn_bind, hv, validated_nil, validateItems_of_valid hitems,
    query_read_healthy hfault hup, hfound, orMissing, runOn_pure, runOn_ofExcept, hquota, hissue,
    hdue, hafter, htemplate, query_read_healthy (s := { s with clock := s.clock + 1 }) hfault hup,
    hclient, hnone, runOn_throw]

/-- Inside a transaction opened on the published tables of a store that is up, moving a draft to a
client with no active row fails with "client not found". -/
theorem reviseDraft_gone_healthy {invoice : Uuid} {r : InvoiceChanges} {current : Invoice}
    (hclient : r.clientId = some client) (hfound : Invoices.lookup account invoice s.committed = some current)
    (hdraft : current.status? = some .draft) (hother : client ≠ current.clientId) :
    ∃ s₂, (reviseDraft account invoice r).runOn
      { s with clock := s.clock + 1, pending := some ⟨s.committed, s.clock + 1⟩ } =
        (.error (.missing "client"), s₂) := by
  unfold reviseDraft Invoices.lock
  simp only [runOn_bind, query_read_txn_healthy
      (s := { s with clock := s.clock + 1, pending := some ⟨s.committed, s.clock + 1⟩ }) rfl hfault hup,
    hfound, orMissing, runOn_pure, storedStatus, hdraft, runOn_ofExcept, ensureEditable,
    ↓reduceIte, clientAfter, hclient, hother, Clients.find,
    query_read_healthy (s := { s with clock := s.clock + 1, pending := some ⟨s.committed, s.clock + 1⟩ })
      hfault hup, hnone, runOn_throw]
  exact ⟨_, rfl⟩

/-- Moving a draft to a client with no active row, with a change that passes its checks, fails with
"client not found". -/
theorem updateInvoice_gone_healthy {invoice : Uuid} {r : InvoiceChanges} {current : Invoice}
    (hclient : r.clientId = some client) (hv : r.violations = [])
    (hitems : ∀ items, r.items = some items → ∀ it ∈ items, it.violations = [])
    (hfound : Invoices.lookup account invoice s.committed = some current)
    (hdraft : current.status? = some .draft) (hother : client ≠ current.clientId) :
    ((updateInvoice account invoice r).runOn s).1 = .error (.missing "client") := by
  obtain ⟨s₂, htx⟩ : ∃ s₂, (transaction "Failed to commit invoice update"
      (reviseDraft account invoice r)).runOn s = (.error (.missing "client"), s₂) :=
    transaction_healthy_error hfault hup
      (reviseDraft_gone_healthy hnone hfault hup hclient hfound hdraft hother)
  unfold updateInvoice storeChanges
  cases hr : r.items with
  | none => simp only [runOn_bind, hv, validated_nil, htx]
  | some items =>
    simp only [runOn_bind, hv, validated_nil, validateItems_of_valid (hitems items hr), htx]

end Healthy

end Gone

end Service

/-! ## An inactive row survives every write -/

/-- No write touches an inactive client: a new client is appended, and a replacement or a
deletion rewrites the client found active under its identity, which is not the inactive one. -/
theorem Write.keeps_inactive {c c' : Tables} {n n' : Serials} {owner : Option Uuid}
    (h : Write c n owner c' n') (hc : c.ClientsIssued n) {x : Client} (hx : x ∈ c.clients)
    (hoff : x.isActive = false) : x ∈ c'.clients := by
  -- the client a write found active is another one than `x`
  have other : ∀ {account : Uuid} {current : Client},
      Clients.lookup account current.id false c = some current → x.id ≠ current.id := by
    intro account current found hid
    rw [← hid, Clients.lookup_inactive hc hx hoff] at found
    cases found
  cases h with
  | keep => exact hx
  | openAccount input a now t _ plan opened =>
    obtain ⟨rfl, -⟩ := Accounts.insertRow_row opened
    exact hx
  | addClient => exact List.mem_append_left _ hx
  | replaceClient account current row _ found =>
    refine List.mem_map.mpr ⟨x, hx, ?_⟩
    simp [other found]
  | deactivateClient account current now _ found =>
    refine List.mem_map.mpr ⟨x, hx, ?_⟩
    simp [other found]
  | draft account r inv t _ drafted => exact drafted.clients_eq ▸ hx
  | revise account invoice r t _ revised => exact revised.clients_eq ▸ hx
  | move account invoice r now t _ moved => exact moved.clients_eq ▸ hx
  | remove account invoice t _ removed => exact removed.clients_eq ▸ hx
  | stamp => exact hx

/-- An inactive client's row stays, as it is, through every session from a reachable store. -/
theorem Action.keeps_inactive {s : Store} (hs : Reachable s) (acts : List Action) {x : Client}
    (hx : x ∈ s.committed.clients) (hoff : x.isActive = false) :
    x ∈ (Action.runAll acts s).committed.clients := by
  -- induction on the session: each action writes as `Write` allows
  induction acts generalizing s with
  | nil => exact hx
  | cons a rest ih =>
    exact ih (hs.step a) ((a.written hs.closed).write.keeps_inactive hs.clientsIssued hx hoff)


/-- A call that went through ran its operation to a result. -/
theorem StoreOp.outcome_ok {α : Type} {op : StoreOp α} {s s' : Store}
    (h : op.outcome s = (.ok (), s')) : ∃ a, op.runOn s = (.ok a, s') := by
  unfold StoreOp.outcome at h
  rcases hrun : op.runOn s with ⟨_ | a, s₁⟩ <;> rw [hrun] at h
  · cases h
  · cases h
    exact ⟨a, rfl⟩

/-- What a store answers about a client of `account` that was deleted and left the row `row`.
The fields follow the operations: the row is kept, inactive; reads, replacements and deletions of
the client fail as for a client that never was; the listing neither shows nor counts it; no
invoice is billed to it anew; and the invoices that bill it still show its row. -/
structure Retired (s : Store) (account client : Uuid) (row : Client) : Prop where
  /-- The row is still there, inactive, and the lookup that takes rows in any state finds it. -/
  kept : row ∈ s.committed.clients ∧ row.isActive = false ∧
    Clients.lookup account client true s.committed = some row
  /-- Reading the client fails: it is not found, or the store failed. -/
  get : ∀ res s', (getClient account client).runOn s = (res, s') →
    res = .error (.missing "client") ∨ ∃ m, res = .error (.storage m)
  /-- Deleting it again fails the same way. -/
  delete : ∀ res s', (deleteClient account client).runOn s = (res, s') →
    res = .error (.missing "client") ∨ ∃ m, res = .error (.storage m)
  /-- Replacing it fails the same way, or on the request's own checks, which come first. -/
  update : ∀ r res s', (updateClient account client r).runOn s = (res, s') →
    res = .error (.missing "client") ∨ (∃ m, res = .error (.storage m)) ∨
      (r.violations ≠ [] ∧ res = .error (.invalidInput (Violation.report r.violations)))
  /-- On a store that is up and fails no statement, each of these fails with "client not found",
  a replacement once its request passes its checks and its texts hold no U+0000. -/
  notFound : s.fault = none → s.reachable = true →
    ((getClient account client).runOn s).1 = .error (.missing "client") ∧
    ((deleteClient account client).runOn s).1 = .error (.missing "client") ∧
    ∀ r : ClientRequest, r.violations = [] → (∀ v ∈ Clients.texts r, ∀ x ∈ v, Column.NulFree x) →
      ((updateClient account client r).runOn s).1 = .error (.missing "client")
  /-- The listing of the account neither shows the client nor counts it. -/
  listed : (∀ x ∈ Clients.active account s.committed, x.id ≠ client) ∧
    ∀ q p s', (listClients account q).runOn s = (.ok p, s') →
      p.total = (Clients.active account s.committed).length ∧ ∀ x ∈ p.rows, x.id ≠ client
  /-- No creation bills the client. -/
  billed : ∀ r d s', r.clientId = client → (createInvoice account r).runOn s ≠ (.ok d, s')
  /-- On a store that is up and fails no statement, a creation for the client whose request
  passes every check made before the client is looked up fails with "client not found". -/
  billedNotFound : s.fault = none → s.reachable = true → ∀ (r : InvoiceRequest) acc issue due template,
    r.clientId = client → r.violations = [] → (∀ it ∈ r.items, it.violations = []) →
    Accounts.lookup account s.committed = some acc → acc.checkQuota = .ok () →
    parseDate "issue_date" r.issueDate = .ok issue → parseDate "due_date" r.dueDate = .ok due →
    issue.toDays ≤ due.toDays → resolveTemplate r.templateId = .ok template →
    ((createInvoice account r).runOn s).1 = .error (.missing "client")
  /-- A change naming the client goes through only on an invoice that bills it already. -/
  rebilled : ∀ invoice r d s', r.clientId = some client →
    (updateInvoice account invoice r).runOn s = (.ok d, s') →
    ∃ i, Invoices.lookup account invoice s.committed = some i ∧ i.clientId = client
  /-- On a store that is up and fails no statement, moving a draft of another client to this one,
  with a change that passes its checks, fails with "client not found". -/
  rebilledNotFound : s.fault = none → s.reachable = true → ∀ invoice (r : InvoiceChanges) current,
    r.clientId = some client → r.violations = [] →
    (∀ items, r.items = some items → ∀ it ∈ items, it.violations = []) →
    Invoices.lookup account invoice s.committed = some current →
    current.status? = some .draft → client ≠ current.clientId →
    ((updateInvoice account invoice r).runOn s).1 = .error (.missing "client")
  /-- Every invoice that bills the client is the account's and still shows the row: a read or a
  rendering of it that answers shows the row, and on a store that is up and fails no statement
  both answer. -/
  shown : ∀ i ∈ s.committed.invoices, i.clientId = client → i.accountId = account ∧
    (∀ d s', (getInvoice account i.id).runOn s = (.ok d, s') → d.invoice = i ∧ d.client = some row) ∧
    (∀ name doc s', (renderInvoice account i.id).runOn s = (.ok (name, doc), s') →
      ∃ d a, d.invoice = i ∧ d.client = some row ∧ doc = Printout.ofInvoice d a) ∧
    (s.fault = none → s.reachable = true →
      (∃ d s', (getInvoice account i.id).runOn s = (.ok d, s') ∧ d.client = some row) ∧
      ∃ name doc s', (renderInvoice account i.id).runOn s = (.ok (name, doc), s'))

namespace Retired

open Service

variable {s : Store} {row : Client}

/-- In a reachable store, an invoice billing an inactive row is read and rendered with that
row. -/
theorem shown_of_mem (hs : Reachable s) (hrow : row ∈ s.committed.clients)
    {i : Invoice} (hi : i ∈ s.committed.invoices) (hbills : i.clientId = row.id) :
    i.accountId = row.accountId ∧
    (∀ d s', (getInvoice row.accountId i.id).runOn s = (.ok d, s') →
      d.invoice = i ∧ d.client = some row) ∧
    (∀ name doc s', (renderInvoice row.accountId i.id).runOn s = (.ok (name, doc), s') →
      ∃ d a, d.invoice = i ∧ d.client = some row ∧ doc = Printout.ofInvoice d a) ∧
    (s.fault = none → s.reachable = true →
      (∃ d s', (getInvoice row.accountId i.id).runOn s = (.ok d, s') ∧ d.client = some row) ∧
      ∃ name doc s', (renderInvoice row.accountId i.id).runOn s = (.ok (name, doc), s')) := by
  have hc := hs.clientsIssued
  -- the invoice's account is the client's: the client it bills is of its account
  have hacc : i.accountId = row.accountId := by
    obtain ⟨cl, hcl, hclid, hclacc⟩ := hs.billed i hi
    rw [← hclacc, hc.eq_of_id hcl hrow (hclid.trans hbills)]
  have hfound : Invoices.lookup row.accountId i.id s.committed = some i :=
    hacc ▸ Invoices.lookup_of_mem hs.linked hi
  have hbilled : Clients.lookup i.accountId i.clientId true s.committed = some row := by
    rw [hacc, hbills]
    exact Clients.lookup_eq_of_mem hc hrow rfl
  -- a read that answers gives the published row of the invoice
  have hread : ∀ {d : InvoiceDetails},
      Invoices.lookup row.accountId i.id s.committed = some d.invoice →
      d.client = Clients.lookup d.invoice.accountId d.invoice.clientId true s.committed →
      d.invoice = i ∧ d.client = some row := by
    intro d hd hcl
    obtain rfl : d.invoice = i := Option.some.inj (hd.symm.trans hfound)
    exact ⟨rfl, hcl.trans hbilled⟩
  refine ⟨hacc, fun d s' h => ?_, fun name doc s' h => ?_, fun hfault hup => ⟨?_, ?_⟩⟩
  · exact hread (getInvoice_client h).1 (getInvoice_client h).2
  · obtain ⟨d, a, hd, hcl, rfl⟩ := renderInvoice_client h
    obtain ⟨hdi, hdc⟩ := hread hd hcl
    exact ⟨d, a, hdi, hdc, rfl⟩
  · exact ⟨_, _, getInvoice_healthy hfault hup hfound, hbilled⟩
  · -- the invoice's account is there: every invoice is numbered by an account of the store
    obtain ⟨owner, howner, hownerid, -⟩ := hs.counted.numbered i hi
    have hlookup : Accounts.lookup row.accountId s.committed = some owner := by
      rw [← hacc, ← hownerid]
      exact Accounts.lookup_of_mem hs.counted.ids howner
    obtain ⟨s', hrender⟩ := renderInvoice_healthy hfault hup hfound hlookup
    exact ⟨_, _, s', hrender⟩

/-- Every inactive row of a reachable store answers as a deleted client. -/
theorem of_mem (hs : Reachable s) (hrow : row ∈ s.committed.clients) (hoff : row.isActive = false) :
    Retired s row.accountId row.id row := by
  have hc := hs.clientsIssued
  have hnone := Clients.lookup_inactive hc hrow hoff row.accountId
  refine ⟨⟨hrow, hoff, Clients.lookup_eq_of_mem hc hrow rfl⟩,
    fun _ _ => getClient_gone hnone, fun _ _ => deleteClient_gone hnone,
    fun _ _ _ => updateClient_gone hnone,
    fun hfault hup => ⟨getClient_gone_healthy hnone hfault hup,
      deleteClient_gone_healthy hnone hfault hup,
      fun _ hv htexts => updateClient_gone_healthy hnone hfault hup hv htexts⟩,
    ⟨Clients.active_ne_of_lookup hnone, fun _ _ _ h => ?_⟩,
    fun _ _ _ hclient => createInvoice_gone hnone hs.closed hclient,
    fun hfault hup _ _ _ _ _ hclient hv hitems hfound hquota hissue hdue horder htemplate =>
      createInvoice_gone_healthy hnone hfault hup hclient hv hitems hfound hquota hissue hdue
        horder htemplate,
    fun _ _ _ _ hclient h => updateInvoice_gone hnone hs.closed hclient h,
    fun hfault hup _ _ _ hclient hv hitems hfound hdraft hother =>
      updateInvoice_gone_healthy hnone hfault hup hclient hv hitems hfound hdraft hother,
    fun i hi hbills => shown_of_mem hs hrow hi hbills⟩
  obtain ⟨htotal, hrows⟩ := listClients_ok h
  exact ⟨htotal, fun x hx => Clients.active_ne_of_lookup hnone x (hrows x hx)⟩

end Retired

/-- Once a deletion of a client has gone through, the client stays deleted: its row, inactive and
stamped with the time of the deletion but otherwise as it was, answers as a deleted client in
every store a later session reaches. -/
theorem deleted_client_stays_deleted {s s₁ : Store} (hs : Reachable s) {account client : Uuid}
    (h : (Call.deleteClient account client).run s = (.ok (), s₁)) :
    ∃ before now, Clients.lookup account client false s.committed = some before ∧
      ∀ acts, Retired (Action.runAll acts s₁) account client
        { before with isActive := false, updatedAt := now } := by
  obtain ⟨u, hrun⟩ := StoreOp.outcome_ok h
  obtain ⟨before, now, hfound, hcommitted⟩ := Service.deleteClient_ok hrun
  obtain ⟨hmem, hacc, hid, -⟩ := Clients.lookup_some hfound
  have hs₁ : Reachable s₁ := by
    have := hs.step (.call (.deleteClient account client))
    rwa [Action.apply, h] at this
  -- the deletion rewrote the row it found, and only that row, to the inactive one
  have hrow : { before with isActive := false, updatedAt := now } ∈ s₁.committed.clients := by
    rw [hcommitted]
    exact List.mem_map.mpr ⟨before, hmem, by simp [hid]⟩
  refine ⟨before, now, hfound, fun acts => ?_⟩
  have hkept := Action.keeps_inactive hs₁ acts hrow rfl
  have := Retired.of_mem (hs₁.runAll acts) hkept rfl
  rwa [← hacc, ← hid]


/-- Deleting the client of the sample session, whose invoice bills it, goes through, and the client
answers as deleted from then on. -/
theorem invoicingSession_client_retired :
    ((Call.deleteClient owner (Table.serial .clients 1)).run
        (Action.runAll invoicingSession {})).1 = .ok () ∧
      ∃ before now, Clients.lookup owner (Table.serial .clients 1) false
          (Action.runAll invoicingSession {}).committed = some before ∧
        ∀ acts, Retired (Action.runAll acts ((Call.deleteClient owner (Table.serial .clients 1)).run
          (Action.runAll invoicingSession {})).2) owner (Table.serial .clients 1)
          { before with isActive := false, updatedAt := now } := by
  have hrun : ((Call.deleteClient owner (Table.serial .clients 1)).run
      (Action.runAll invoicingSession {})).1 = .ok () := by
    simp only [invoicingSession, Action.runAll, List.foldl, Action.apply, provision_owner]
    decide +kernel
  exact ⟨hrun, deleted_client_stays_deleted (Reachable.empty.runAll invoicingSession)
    (Prod.ext hrun rfl)⟩

/-- A replacement of a deleted client checks its request first: with a name too short it fails on
the name, not with "client not found". -/
theorem retired_client_update_checks_request_first :
    ((updateClient owner (Table.serial .clients 1) { name := "X" }).runOn
        ((Call.deleteClient owner (Table.serial .clients 1)).run
          (Action.runAll invoicingSession {})).2).1 =
      .error (.invalidInput "name: name must be at least 2 characters") := by
  simp only [invoicingSession, Action.runAll, List.foldl, Action.apply, provision_owner]
  decide +kernel

end Invoicing
