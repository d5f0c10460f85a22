import Invoicing.Proofs.Numbering

/-!
# Failed calls

A call that fails leaves the published rows as they were and no transaction open: its checks come
before its first write, a single statement that fails writes nothing, and a transaction that fails
is rolled back. Identities handed out are not given back.

The exception is a call that commits a transaction and then reads its result back: creating,
duplicating and editing an invoice and changing its status. When the read fails, the call reports
the failure, but the commit stands (`Call.CommittedBeforeFailing`).
-/

namespace Invoicing

open StoreOp Service

theorem Store.SameRows.clean {s s' : Store} (hs : s'.SameRows s) (hp : s.pending = none) :
    s'.committed = s.committed ∧ s'.pending = none ∧ s.serials ≤ s'.serials :=
  ⟨hs.committed, hs.pending.trans hp, le_of_eq hs.serials.symm⟩

namespace StoreOp.Clean

variable {α β : Type}

/-- A single statement that fails writes nothing. -/
theorem query (conn : Conn) (kind : StatementKind) (ctx : String)
    (body : Instant → Tables → Except DbError (α × Tables)) :
    Clean (StoreOp.query conn kind ctx body) := by
  intro s e s' hp hrun
  rcases query_cases hrun with ⟨e', -, hs⟩ | ⟨now, a, t, -, h, -⟩
  · exact hs.clean hp
  · cases h

/-- An insert that fails writes nothing. -/
theorem insert (conn : Conn) (t : Table) (ctx : String)
    (body : Uuid → Instant → Tables → Except DbError (α × Tables)) :
    Clean (StoreOp.insert conn t ctx body) := by
  intro s e s' hp hrun
  rcases insert_cases hrun with ⟨e', -, hs⟩ | ⟨now, a, x, -, h, -⟩
  · exact hs.clean hp
  · cases h

/-- Returning a value after an operation fails only where the operation did. -/
theorem map {x : StoreOp α} (hx : Clean x) (f : α → β) : Clean (x >>= fun a => pure (f a)) := by
  intro s e s' hp hrun
  rcases bind_eq_error.mp hrun with h | ⟨a, s₁, -, h⟩
  · exact hx s e s' hp h
  · simp at h

/-- Opening an account, then reads of the outcome that fail only when the insert did. -/
theorem openAccount (input : NewAccount) {k : Except DbError Account → StoreOp α}
    (hk : ∀ r, Keeps Store.SameRows (k r))
    (hok : ∀ a s, ((k (.ok a)).runOn s).1.toOption.isSome) :
    Clean ((liftM (Accounts.insert input) : StoreOp _) >>= k) := by
  intro s e s' hp hrun
  rw [runOn_bind, runOn_lift] at hrun
  rcases hx : (Accounts.insert input).run s with ⟨r₁, s₁⟩
  rw [hx] at hrun
  have hs' : s'.SameRows s₁ := ((hk r₁).run hrun).symm
  rcases Store.insert_cases hx with ⟨e', rfl, hs₁⟩ | ⟨now, a, x, -, rfl, -⟩
  · exact (hs'.trans hs₁).clean hp
  · -- the insert succeeded, so the call did not fail
    have hfail : (k (.ok a)).runOn s₁ = (.error e, s') := hrun
    have := hok a s₁
    rw [hfail] at this
    cases this

end StoreOp.Clean

namespace Service

theorem Clean.provisionAccount (r : AccountRequest) : Clean (provisionAccount r) := by
  unfold Service.provisionAccount
  refine Clean.bind (Keeps.validated _) fun _ => Clean.openAccount _ (fun res => ?_) fun _ _ => rfl
  split
  · exact Keeps.pure _
  · exact Keeps.throw _
  · exact Keeps.throw _

theorem Clean.createClient (account : Uuid) (r : ClientRequest) : Clean (createClient account r) :=
  Clean.bind (Keeps.validated _) fun _ => Clean.insert _ _ _ _

/-- An update that matched no client wrote nothing. -/
theorem Clients.update_none {account id : Uuid} {r : ClientRequest} {s s' : Store}
    (h : (Clients.update account id r).runOn s = (.ok none, s')) : s'.SameRows s := by
  unfold Clients.update at h
  rcases query_cases h with ⟨e, he, -⟩ | ⟨now, a, t, hbody, ha, hs⟩
  · cases he
  cases ha
  simp only [bind, Except.bind, pure, Except.pure] at hbody
  split at hbody
  · cases hbody
  split at hbody
  · cases hbody
    simpa using hs
  · split at hbody <;> cases hbody

/-- A deactivation that matched no client wrote nothing. -/
theorem Clients.deactivate_false {account id : Uuid} {s s' : Store}
    (h : (Clients.deactivate account id).runOn s = (.ok false, s')) : s'.SameRows s := by
  unfold Clients.deactivate at h
  rcases query_cases h with ⟨e, he, -⟩ | ⟨now, a, t, hbody, ha, hs⟩
  · cases he
  cases ha
  split at hbody
  · cases hbody
    simpa using hs
  · cases hbody

theorem Clean.updateClient (account client : Uuid) (r : ClientRequest) :
    Clean (updateClient account client r) := by
  unfold Service.updateClient
  refine Clean.bind (Keeps.validated _) fun _ => ?_
  intro s e s' hp hrun
  rcases bind_eq_error.mp hrun with h | ⟨found, s₁, h, hmissing⟩
  · exact Clean.query _ _ _ _ s e s' hp h
  -- only a client not found fails after the statement, which then wrote nothing
  cases found with
  | some c => simp [orMissing] at hmissing
  | none =>
    simp only [orMissing, runOn_throw, Prod.mk.injEq] at hmissing
    obtain ⟨-, rfl⟩ := hmissing
    exact (Clients.update_none h).clean hp

theorem Clean.deleteClient (account client : Uuid) : Clean (deleteClient account client) := by
  unfold Service.deleteClient
  intro s e s' hp hrun
  rcases bind_eq_error.mp hrun with h | ⟨found, s₁, h, hthrow⟩
  · exact Clean.query _ _ _ _ s e s' hp h
  -- only a client not found fails after the statement, which then wrote nothing
  cases found with
  | true => simp at hthrow
  | false =>
    simp only [Bool.not_false, ↓reduceIte, runOn_throw, Prod.mk.injEq] at hthrow
    obtain ⟨-, rfl⟩ := hthrow
    exact (Clients.deactivate_false h).clean hp

theorem Clean.renderInvoice (account invoice : Uuid) : Clean (renderInvoice account invoice) := by
  unfold Service.renderInvoice
  refine Clean.bind (Keeps.getInvoice _ _) fun _ => ?_
  refine Clean.bind (Keeps.query_read _ _ _ _) fun _ => ?_
  exact Clean.bind (Keeps.orMissing _ _) fun _ => Clean.map (Clean.query _ _ _ _) _

end Service

/-- A write whose failures are clean, then reads: a failure either wrote nothing, or came from the
reads after the write succeeded, and then the rows are the write's. -/
theorem StoreOp.Clean.then_read_failed {α β : Type} {x : StoreOp α} {f : α → StoreOp β}
    (hx : Clean x) (hf : ∀ a, Keeps Store.SameRows (f a)) {s s' : Store} {e : InvoiceError}
    (hp : s.pending = none) (h : (x >>= f).runOn s = (.error e, s')) :
    (s'.committed = s.committed ∧ s'.pending = none ∧ s.serials ≤ s'.serials) ∨
      ∃ a s₁, x.runOn s = (.ok a, s₁) ∧ s'.SameRows s₁ := by
  rcases bind_eq_error.mp h with h | ⟨a, s₁, hx', hf'⟩
  · exact .inl (hx s e s' hp h)
  · exact .inr ⟨a, s₁, hx', ((hf a).run hf').symm⟩

namespace Service

variable {account invoice : Uuid} {s s' : Store} {e : InvoiceError}

/-- A creation that failed wrote nothing, or committed its draft and failed to read it back. -/
theorem createInvoice_failed {r : InvoiceRequest} (hp : s.pending = none)
    (h : (createInvoice account r).runOn s = (.error e, s')) :
    s'.pending = none ∧ s.serials ≤ s'.serials ∧
      (s'.committed = s.committed ∨ ∃ inv, Drafted account r s.committed s.serials inv s'.committed) := by
  rcases Clean.then_read_failed (Clean.storeInvoice _ _) (fun _ => Keeps.getInvoice _ _) hp h with
    ⟨hc, hp', hse⟩ | ⟨inv, s₁, hstore, hs⟩
  · exact ⟨hp', hse, .inl hc⟩
  · obtain ⟨hp₁, hse, hdrafted, -⟩ := storeInvoice_billed hp hstore
    refine ⟨hs.pending.trans hp₁, ?_, .inr ⟨inv, hs.committed ▸ hdrafted⟩⟩
    rw [hs.serials]
    exact (Serials.le_bump _ _).trans hse

/-- A duplication that failed wrote nothing, or committed its copy and failed to read it back. -/
theorem duplicateInvoice_failed {now : Instant} (hp : s.pending = none)
    (h : (duplicateInvoice account invoice now).runOn s = (.error e, s')) :
    s'.pending = none ∧ s.serials ≤ s'.serials ∧
      (s'.committed = s.committed ∨
        ∃ r inv, Drafted account r s.committed s.serials inv s'.committed) := by
  unfold duplicateInvoice at h
  rcases bind_sameRows_cases (Keeps.query_read _ _ _ _) h with hs | ⟨_, s₁, hs₁, h₁⟩
  · exact ⟨hs.pending.trans hp, le_of_eq hs.serials.symm, .inl hs.committed⟩
  rcases bind_sameRows_cases (Keeps.orMissing _ _) h₁ with hs | ⟨_, s₂, hs₂, h₂⟩
  · have hs' := hs.trans hs₁
    exact ⟨hs'.pending.trans hp, le_of_eq hs'.serials.symm, .inl hs'.committed⟩
  rcases bind_sameRows_cases (Keeps.query_read _ _ _ _) h₂ with hs | ⟨_, s₃, hs₃, h₃⟩
  · have hs' := hs.trans (hs₂.trans hs₁)
    exact ⟨hs'.pending.trans hp, le_of_eq hs'.serials.symm, .inl hs'.committed⟩
  -- the reads changed no row; what is left is a creation
  have hs' := hs₃.trans (hs₂.trans hs₁)
  obtain ⟨hp', hse, hc | ⟨inv, hdrafted⟩⟩ := createInvoice_failed (hs'.pending.trans hp) h₃
  · exact ⟨hp', hs'.serials ▸ hse, .inl (hc.trans hs'.committed)⟩
  · rw [hs'.committed, hs'.serials] at hdrafted
    exact ⟨hp', hs'.serials ▸ hse, .inr ⟨_, inv, hdrafted⟩⟩

/-- An edit that failed wrote nothing, or committed and failed to read the invoice back. -/
theorem updateInvoice_failed {r : InvoiceChanges} (hp : s.pending = none)
    (h : (updateInvoice account invoice r).runOn s = (.error e, s')) :
    s'.pending = none ∧ s.serials ≤ s'.serials ∧
      (s'.committed = s.committed ∨ Revised account invoice r s.committed s'.committed) := by
  rcases Clean.then_read_failed (Clean.storeChanges _ _ _) (fun _ => Keeps.getInvoice _ _) hp h with
    ⟨hc, hp', hse⟩ | ⟨_, s₁, hstore, hs⟩
  · exact ⟨hp', hse, .inl hc⟩
  · obtain ⟨hp₁, hse, -, -, hrevised, -⟩ := storeChanges_written hp hstore
    exact ⟨hs.pending.trans hp₁, hs.serials ▸ hse, .inr (hs.committed ▸ hrevised)⟩

/-- A status change that failed wrote nothing, or committed and failed to read the invoice
back. -/
theorem updateInvoiceStatus_failed {r : StatusRequest} {now : Instant} (hp : s.pending = none)
    (h : (updateInvoiceStatus account invoice r now).runOn s = (.error e, s')) :
    s'.pending = none ∧ s.serials ≤ s'.serials ∧
      (s'.committed = s.committed ∨ Moved account invoice r now s.committed s'.committed) := by
  rcases Clean.then_read_failed (Clean.storeStatus _ _ _ _) (fun _ => Keeps.getInvoice _ _) hp h with
    ⟨hc, hp', hse⟩ | ⟨_, s₁, hstore, hs⟩
  · exact ⟨hp', hse, .inl hc⟩
  · obtain ⟨hp₁, hse, hmoved⟩ := storeStatus_ok hp hstore
    exact ⟨hs.pending.trans hp₁, hs.serials ▸ hse, .inr (hs.committed ▸ hmoved)⟩

end Service

theorem StoreOp.outcome_error {α : Type} {op : StoreOp α} {s : Store} {e : InvoiceError}
    (h : (op.outcome s).1 = .error e) : op.runOn s = (.error e, (op.outcome s).2) := by
  unfold StoreOp.outcome at h ⊢
  rcases hrun : op.runOn s with ⟨_ | a, s'⟩ <;> rw [hrun] at h
  · cases h
    rfl
  · cases h

/-- The change a call may have committed before it failed: only the calls that read their result
back after committing have one, the change of their transaction. -/
def Call.CommittedBeforeFailing : Call → Tables → Serials → Tables → Prop
  | .createInvoice account r, c, n, c' => ∃ inv, Drafted account r c n inv c'
  | .duplicateInvoice account _ _, c, n, c' => ∃ r inv, Drafted account r c n inv c'
  | .updateInvoice account invoice r, c, _, c' => Revised account invoice r c c'
  | .updateInvoiceStatus account invoice r now, c, _, c' => Moved account invoice r now c c'
  | _, _, _, _ => False

/-- A call whose failures are clean, failing, left the rows as they were. -/
theorem StoreOp.Clean.outcome {α : Type} {op : StoreOp α} (hc : Clean op) {s : Store}
    {e : InvoiceError} (hp : s.pending = none) (he : (op.outcome s).1 = .error e)
    (P : Prop) : (op.outcome s).2.pending = none ∧ s.serials ≤ (op.outcome s).2.serials ∧
      ((op.outcome s).2.committed = s.committed ∨ P) := by
  obtain ⟨hc', hp', hse⟩ := hc s e _ hp (outcome_error he)
  exact ⟨hp', hse, .inl hc'⟩

/-- What a failed call, run with no transaction open, left: no transaction open, identities
handed out only forward, and the published rows as they were or as a commit before the failure
left them. -/
theorem Call.failed (c : Call) {s : Store} {e : InvoiceError} (hp : s.pending = none)
    (he : (c.run s).1 = .error e) :
    (c.run s).2.pending = none ∧ s.serials ≤ (c.run s).2.serials ∧
      ((c.run s).2.committed = s.committed ∨
        c.CommittedBeforeFailing s.committed s.serials (c.run s).2.committed) := by
  cases c with
  | provisionAccount r => exact (Clean.provisionAccount r).outcome hp he _
  | getAccount account => exact (Clean.of_sameRows (Keeps.getAccount account)).outcome hp he _
  | createClient account r => exact (Clean.createClient account r).outcome hp he _
  | getClient account client =>
    exact (Clean.of_sameRows (Keeps.getClient account client)).outcome hp he _
  | listClients account q =>
    exact (Clean.of_sameRows (Keeps.listClients account q)).outcome hp he _
  | updateClient account client r => exact (Clean.updateClient account client r).outcome hp he _
  | deleteClient account client => exact (Clean.deleteClient account client).outcome hp he _
  | createInvoice account r => exact createInvoice_failed hp (outcome_error he)
  | getInvoice account invoice =>
    exact (Clean.of_sameRows (Keeps.getInvoice account invoice)).outcome hp he _
  | listInvoices account q =>
    exact (Clean.of_sameRows (Keeps.listInvoices account q)).outcome hp he _
  | updateInvoice account invoice r => exact updateInvoice_failed hp (outcome_error he)
  | updateInvoiceStatus account invoice r now =>
    exact updateInvoiceStatus_failed hp (outcome_error he)
  | deleteInvoice account invoice => exact (Clean.deleteInvoice account invoice).outcome hp he _
  | duplicateInvoice account invoice now => exact duplicateInvoice_failed hp (outcome_error he)
  | renderInvoice account invoice => exact (Clean.renderInvoice account invoice).outcome hp he _
  | getStats account => exact (Clean.of_sameRows (Keeps.getStats account)).outcome hp he _

/-- A call that fails, from any reachable store, leaves no transaction open, gives back no
identity, and leaves the published rows as they were, unless it committed a transaction before
reading its result back failed: then the rows are those the commit published. -/
theorem failed_call_publishes_only_its_commit {s : Store} (hs : Reachable s) (c : Call)
    {e : InvoiceError} (he : (c.run s).1 = .error e) :
    (c.run s).2.pending = none ∧ s.serials ≤ (c.run s).2.serials ∧
      ((c.run s).2.committed = s.committed ∨
        c.CommittedBeforeFailing s.committed s.serials (c.run s).2.committed) :=
  c.failed hs.closed he

/-- The creation after the interrupted session fails reading its items back, after its commit. -/
theorem interruptedSession_creation_failed :
    let s := Action.runAll interruptedSession {}
    let c := Call.createInvoice owner workRequest
    Reachable s ∧ (c.run s).1 = .error (.storage ("Failed to get invoice items: error returned " ++
        "from database: canceling statement due to statement timeout")) ∧
      (c.run s).2.pending = none ∧ s.serials ≤ (c.run s).2.serials ∧
        ((c.run s).2.committed = s.committed ∨
          c.CommittedBeforeFailing s.committed s.serials (c.run s).2.committed) := by
  intro s c
  have hs : Reachable s := Reachable.empty.runAll interruptedSession
  have he : (c.run s).1 = .error (.storage ("Failed to get invoice items: error returned " ++
      "from database: canceling statement due to statement timeout")) := by
    simp only [s, c, interruptedSession, Action.runAll, List.foldl, Action.apply, provision_owner]
    decide +kernel
  exact ⟨hs, he, failed_call_publishes_only_its_commit hs c he⟩

/-- A creation that commits its draft and then fails to read its items back reports the failure,
yet the published rows have changed. -/
theorem failed_creation_changes_rows :
    let s := Action.runAll interruptedSession {}
    ((Call.createInvoice owner workRequest).run s).1.toOption = none ∧
      ((Call.createInvoice owner workRequest).run s).2.committed ≠ s.committed := by
  simp only [interruptedSession, Action.runAll, List.foldl, Action.apply, provision_owner]
  decide +kernel

end Invoicing
