import Invoicing.Proofs.Failures
import Invoicing.Proofs.Balance

/-!
# Statuses over a session

Every invoice of a reachable store carries one of the lifecycle's statuses, and records a
payment exactly when it is paid: a draft starts unpaid, an edit keeps the status, and only a
change to paid, which nothing leaves, records a payment.

Only drafts are edited or deleted. A paid or canceled invoice refuses every status change, edit
and deletion, and from then on stays as it is with the same items, but for the stamp of when it
was last rendered.
-/

namespace Invoicing

open StoreOp Service

/-- The stored status of `i` names a status of the lifecycle, and `i` records a payment exactly
when that status is paid. -/
def Invoice.StatusValid (i : Invoice) : Prop :=
  ∃ st : InvoiceStatus, i.status = st.name ∧ (i.paidAt.isSome ↔ st = .paid)

theorem Invoice.status?_of_name {i : Invoice} {st : InvoiceStatus} (h : i.status = st.name) :
    i.status? = some st := by
  rw [Invoice.status?, h, InvoiceStatus.parse?_name]

/-- A status change that the lifecycle allows starts from a status that is not terminal and
moves to the requested one. -/
theorem planStatusChange_ok {current target : InvoiceStatus} {paidDate : Option String}
    {now : Instant} {c : StatusChange} (h : planStatusChange current target paidDate now = .ok c) :
    current.isTerminal = false ∧ c.status = target := by
  unfold planStatusChange at h
  split at h
  · cases h
  rename_i hterm
  refine ⟨by simpa using hterm, ?_⟩
  split at h
  · split at h
    · split at h
      · cases h; rfl
      · cases hp : parseDate "paid_date" _ <;> rw [hp] at h <;> cases h
        rfl
    · cases h; rfl
  · cases h; rfl

theorem Invoices.mem_put_row {l : List Invoice} {id : Uuid} {row y : Invoice}
    (h : y ∈ l.map fun x => if x.id == id then row else x) : y = row ∨ y ∈ l := by
  obtain ⟨x, hx, rfl⟩ := List.mem_map.mp h
  split
  · exact .inl rfl
  · exact .inr hx

namespace Service

variable {account invoice : Uuid} {c c' : Tables}

/-- A draft is stored as a draft with no payment, under a new identity, with rows of its own. -/
theorem Drafted.draft {r : InvoiceRequest} {n : Serials} {inv : Invoice}
    (h : Drafted account r c n inv c') :
    inv.status = InvoiceStatus.draft.name ∧ inv.paidAt = none ∧
      inv.id = Table.serial .invoices (n.invoices + 1) ∧ c'.invoices = c.invoices ++ [inv] ∧
      ∃ rows, c'.items = c.items ++ rows ∧ ∀ it ∈ rows, it.invoiceId = inv.id := by
  obtain ⟨totals, acc, issue, due, currency, template, now, now', t, rows, -, -, -, -, -,
    written, stored⟩ := h
  obtain ⟨rfl, -, hh, -, -⟩ := Invoices.insertRow_ok written
  exact ⟨by rw [hh.eq], by rw [hh.eq], hh.id_eq, rfl, rows, rfl,
    fun it hit => (Items.stores_mem stored hit).1⟩

/-- An edit found a draft and put in its place a row with its identity, status and payment; its
items stayed, or were replaced by rows of its own. -/
theorem Revised.shape {r : InvoiceChanges} (h : Revised account invoice r c c') :
    ∃ current row, Invoices.lookup account invoice c = some current ∧
      current.status? = some .draft ∧ row.id = current.id ∧ row.status = current.status ∧
      row.paidAt = current.paidAt ∧
      c'.invoices = c.invoices.map (fun x => if x.id == invoice then row else x) ∧
      (c'.items = c.items ∨ ∃ rows, (∀ it ∈ rows, it.invoiceId = invoice) ∧
        c'.items = c.items.filter (fun it => !(it.accountId == account && it.invoiceId == invoice))
          ++ rows) := by
  cases h with
  | keep current row totals clientId issue due currency template now found draft _ _ header =>
    exact ⟨current, row, found, draft, header.id_eq, by rw [header.eq], by rw [header.eq], rfl,
      .inl rfl⟩
  | replace current row totals clientId issue due currency template now items rows found draft _ _
      header stored =>
    exact ⟨current, row, found, draft, header.id_eq, by rw [header.eq], by rw [header.eq], rfl,
      .inr ⟨rows, fun it hit => (Items.stores_mem stored hit).1, rfl⟩⟩

end Service

open Service

/-- Every change a call can make keeps every status valid. -/
theorem Change.statusValid {c c' : Tables} {n n' : Serials} (h : Change c n c' n')
    (hv : ∀ i ∈ c.invoices, i.StatusValid) : ∀ i ∈ c'.invoices, i.StatusValid := by
  cases h with
  | keep => exact hv
  | openAccount input a now t _ opened =>
    obtain ⟨rfl, -⟩ := Accounts.insertRow_row opened
    exact hv
  | clients cs => exact hv
  | draft account r inv t _ drafted =>
    obtain ⟨hst, hpaid, -, hi, -⟩ := drafted.draft
    intro i hi'
    rw [hi, List.mem_append, List.mem_singleton] at hi'
    rcases hi' with hi' | rfl
    · exact hv i hi'
    · exact ⟨.draft, hst, by simp [hpaid]⟩
  | revise account invoice r t _ _ revised =>
    obtain ⟨current, row, found, -, -, hst, hpaid, hi, -⟩ := revised.shape
    intro i hi'
    rw [hi] at hi'
    rcases Invoices.mem_put_row hi' with rfl | hi'
    · -- the edited row keeps the status and the payment of the draft
      obtain ⟨st, h1, h2⟩ := hv current (Invoices.lookup_some found).1
      exact ⟨st, hst ▸ h1, hpaid ▸ h2⟩
    · exact hv i hi'
  | move account invoice r now t _ moved =>
    obtain ⟨current, st, target, change, stamp, -, found, stored, planned⟩ := moved
    obtain ⟨hcur, -, rfl⟩ := Invoices.lookup_some found
    obtain ⟨hterm, hchange⟩ := planStatusChange_ok planned
    -- the invoice was not paid, so it had no payment; the change records one exactly for paid
    obtain ⟨st', hname, hpaid⟩ := hv current hcur
    obtain rfl : st' = st := Option.some.inj ((Invoice.status?_of_name hname).symm.trans stored)
    have hnone : current.paidAt = none := by
      cases hp : current.paidAt with
      | none => rfl
      | some _ =>
        have := hpaid.mp (by simp [hp])
        subst this
        simp [InvoiceStatus.isTerminal] at hterm
    intro i hi'
    rcases Invoices.mem_put_row hi' with rfl | hi'
    · refine ⟨target, by rw [hchange], ?_⟩
      simpa [hnone] using planStatusChange_paidAt _ _ _ _ _ planned
    · exact hv i hi'
  | remove account invoice t _ removed =>
    obtain ⟨current, -, -⟩ := removed
    exact fun i hi' => hv i (List.mem_filter.mp hi').1
  | stamp account invoice now =>
    intro i hi'
    obtain ⟨x, hx, rfl⟩ := List.mem_map.mp hi'
    split
    · exact hv x hx
    · exact hv x hx

/-- Every invoice of a reachable store has a valid status. -/
theorem Reachable.statusValid {s : Store} (h : Reachable s) :
    ∀ i ∈ s.committed.invoices, i.StatusValid :=
  h.tables_induction (P := fun c _ => ∀ i ∈ c.invoices, i.StatusValid) (by simp)
    fun _ _ _ _ hv _ hch => hch.statusValid hv

/-! ## Paid and canceled invoices stay as they are -/

/-- With identities unique, the lookup finds each invoice under its account and identity. -/
theorem Invoices.lookup_of_mem {t : Tables} {n : Serials} (hl : t.Linked n) {i : Invoice}
    (hi : i ∈ t.invoices) : Invoices.lookup i.accountId i.id t = some i := by
  obtain ⟨j, hj⟩ : ∃ j, Invoices.lookup i.accountId i.id t = some j :=
    Option.isSome_iff_exists.mp (List.find?_isSome.mpr ⟨i, hi, by simp⟩)
  obtain ⟨hjm, -, hjid⟩ := Invoices.lookup_some hj
  rw [hj, hl.eq_of_id hjm hi hjid]

/-- A paid or canceled invoice `i` survives every change as it is, with the same items, but for
when it was last rendered. -/
theorem Change.keeps_settled {c c' : Tables} {n n' : Serials} (h : Change c n c' n')
    (hl : c.Linked n) {i : Invoice} (hi : i ∈ c.invoices) {st : InvoiceStatus}
    (hst : i.status? = some st) (hterm : st.isTerminal) :
    ∃ p, { i with pdfGeneratedAt := p } ∈ c'.invoices ∧ c'.itemsOf i = c.itemsOf i := by
  -- an invoice an edit, a status change or a deletion works on is not `i`: it is a draft, or
  -- its status allows the change
  have hother : ∀ {account invoice : Uuid} {current : Invoice},
      Invoices.lookup account invoice c = some current → current.status? ≠ some st →
        i.id ≠ invoice := by
    intro account invoice current hfound hne hid
    obtain ⟨hcur, -, hcid⟩ := Invoices.lookup_some hfound
    exact hne (hl.eq_of_id hcur hi (hcid.trans hid.symm) ▸ hst)
  have hdraft : some InvoiceStatus.draft ≠ some st := by
    rintro ⟨⟩
    simp [InvoiceStatus.isTerminal] at hterm
  cases h with
  | keep => exact ⟨i.pdfGeneratedAt, hi, rfl⟩
  | openAccount input a now t _ opened =>
    obtain ⟨rfl, -⟩ := Accounts.insertRow_row opened
    exact ⟨i.pdfGeneratedAt, hi, rfl⟩
  | clients cs => exact ⟨i.pdfGeneratedAt, hi, rfl⟩
  | draft account r inv t _ drafted =>
    obtain ⟨-, -, hid, hinv, rows, hit, hrows⟩ := drafted.draft
    exact ⟨i.pdfGeneratedAt, hinv ▸ List.mem_append_left _ hi,
      Tables.itemsOf_append hl hid hrows hit hi⟩
  | revise account invoice r t _ _ revised =>
    obtain ⟨current, row, found, draft, -, -, -, hinv, hitems⟩ := revised.shape
    have hne := hother found (draft ▸ hdraft)
    refine ⟨i.pdfGeneratedAt, hinv ▸ List.mem_map.mpr ⟨i, hi, by simp [hne]⟩, ?_⟩
    rcases hitems with hit | ⟨rows, hrows, hit⟩
    · exact Tables.itemsOf_congr hit rfl
    · exact Tables.itemsOf_replace hrows hit hne
  | move account invoice r now t _ moved =>
    obtain ⟨current, st', target, change, stamp, -, found, stored, planned⟩ := moved
    have hne : i.id ≠ invoice := hother found fun h' => by
      obtain rfl : st' = st := Option.some.inj (stored.symm.trans h')
      simp [(planStatusChange_ok planned).1] at hterm
    exact ⟨i.pdfGeneratedAt, List.mem_map.mpr ⟨i, hi, by simp [hne]⟩, Tables.itemsOf_congr rfl rfl⟩
  | remove account invoice t _ removed =>
    obtain ⟨current, found, draft⟩ := removed
    have hne := hother found (draft ▸ hdraft)
    have hkept : (i.accountId == account && i.id == invoice) = false := by simp [hne]
    exact ⟨i.pdfGeneratedAt, List.mem_filter.mpr ⟨hi, by simp [hkept]⟩,
      Tables.itemsOf_remove hl _ rfl hi hkept⟩
  | stamp account invoice now =>
    refine ⟨if i.accountId == account && i.id == invoice then some now else i.pdfGeneratedAt,
      List.mem_map.mpr ⟨i, hi, ?_⟩, Tables.itemsOf_congr rfl rfl⟩
    by_cases hc : (i.accountId == account && i.id == invoice) = true <;> simp [hc]

/-- A paid or canceled invoice of a reachable store is, in every store a session reaches from
there, as it was with the same items, but for when it was last rendered. -/
theorem Reachable.keeps_settled {s : Store} (hs : Reachable s) {i : Invoice}
    (hi : i ∈ s.committed.invoices) {st : InvoiceStatus} (hst : i.status? = some st)
    (hterm : st.isTerminal) (acts : List Action) :
    ∃ p, { i with pdfGeneratedAt := p } ∈ (Action.runAll acts s).committed.invoices ∧
      (Action.runAll acts s).committed.itemsOf i = s.committed.itemsOf i := by
  -- induction on the session, carrying the row as the last action left it
  induction acts generalizing s i with
  | nil => exact ⟨i.pdfGeneratedAt, hi, rfl⟩
  | cons a acts ih =>
    obtain ⟨p₁, hi₁, hitems₁⟩ :=
      (a.changed hs.closed).change.keeps_settled hs.linked hi hst hterm
    obtain ⟨p, hi', hitems⟩ := ih (hs.step a) hi₁ hst
    exact ⟨p, hi', hitems.trans hitems₁⟩

/-! ## Paid and canceled invoices refuse every change -/

namespace StoreOp

variable {α β : Type} {s s' : Store} {e : InvoiceError}

/-- A statement that fails reports a storage failure. -/
theorem query_error {conn : Conn} {kind : StatementKind} {ctx : String}
    {body : Instant → Tables → Except DbError (α × Tables)}
    (h : (query conn kind ctx body).runOn s = (.error e, s')) : ∃ m, e = .storage m := by
  unfold query at h
  rw [runOn_bind, runOn_lift] at h
  rcases hx : (Store.exec conn kind body).run s with ⟨_ | a, s₁⟩ <;> simp only [hx] at h
  · cases h
    exact ⟨_, rfl⟩
  · cases h

theorem begin_error (h : begin.runOn s = (.error e, s')) : ∃ m, e = .storage m := by
  simp only [runOn, begin, ExceptT.run_mk, StateT.run] at h
  split at h
  · cases h
    exact ⟨_, rfl⟩
  rcases hl : Store.letThrough .begin { s with clock := s.clock + 1 } with ⟨allowed, s₁⟩
  simp only [hl] at h
  split at h
  · cases h
  · cases h
    exact ⟨_, rfl⟩

theorem commit_error {ctx : String} (h : (commit ctx).runOn s = (.error e, s')) :
    ∃ m, e = .storage m := by
  simp only [runOn, commit, ExceptT.run_mk, StateT.run] at h
  rcases hl : s.letThrough .commit with ⟨allowed, s₁⟩
  simp only [hl] at h
  split at h
  · cases h
  · cases h
    exact ⟨_, rfl⟩

/-- A transaction that failed could not be opened or committed, a storage failure, or its body
failed with that failure, run on a fresh copy of the published tables. -/
theorem transaction_error {ctx : String} {body : StoreOp α}
    (h : (transaction ctx body).runOn s = (.error e, s')) :
    (∃ m, e = .storage m) ∨
      ∃ s₁ s₂, s₁.pending = some ⟨s.committed, s.clock + 1⟩ ∧ body.runOn s₁ = (.error e, s₂) := by
  unfold transaction at h
  rcases bind_eq_error.mp h with hbegin | ⟨⟨⟩, s₁, hbegin, h₁⟩
  · exact .inl (begin_error hbegin)
  obtain ⟨-, -, hp₁, -⟩ := (begin_cases hbegin).resolve_left fun ⟨_, he, _⟩ => by cases he
  rcases bind_eq_error.mp h₁ with hbody | ⟨a, s₂, -, h₂⟩
  · -- the body failed: the transaction is dropped and the body's failure reported
    rw [runOn_tryCatch] at hbody
    rcases hrun : body.runOn s₁ with ⟨_ | a, s₂⟩ <;> rw [hrun] at hbody
    · simp only [runOn_bind, runOn_rollback, runOn_throw, Prod.mk.injEq,
        Except.error.injEq] at hbody
      rw [← hbody.1]
      exact .inr ⟨s₁, s₂, hp₁, hrun⟩
    · cases hbody
  · rcases bind_eq_error.mp h₂ with hcommit | ⟨⟨⟩, s₃, -, h₃⟩
    · exact .inl (commit_error hcommit)
    · simp at h₃

end StoreOp

namespace Service

variable {account invoice : Uuid} {s s' : Store} {e : InvoiceError} {i : Invoice}
  {st : InvoiceStatus} {p : Pending}

/-- Locking an invoice the transaction's copy holds, then `k` on it: a failure is the lock's, a
storage failure, or one of `k` on that invoice. -/
theorem lock_then_error {β : Type} {k : Invoice → StoreOp β} (hp : s.pending = some p)
    (hfound : Invoices.lookup account invoice p.tables = some i)
    (h : (Invoices.lock account invoice >>= fun found => orMissing "invoice" found >>= k).runOn s =
      (.error e, s')) :
    (∃ m, e = .storage m) ∨ ∃ s₁, (k i).runOn s₁ = (.error e, s') := by
  rcases bind_eq_error.mp h with hl | ⟨found, s₁, hl, h₁⟩
  · exact .inl (query_error hl)
  obtain ⟨rfl, -⟩ := query_read_ok hl
  rw [Store.view_txn hp, hfound] at h₁
  rcases bind_eq_error.mp h₁ with hm | ⟨current, s₂, hm, h₂⟩
  · simp [orMissing] at hm
  obtain ⟨hcur, rfl⟩ := orMissing_ok hm
  cases hcur
  exact .inr ⟨s₁, h₂⟩

/-- Reading the stored status of an invoice that has one, then `k`: a failure is one of `k`. -/
theorem storedStatus_then_error {β : Type} {k : InvoiceStatus → StoreOp β}
    (hst : i.status? = some st) (h : (storedStatus i >>= k).runOn s = (.error e, s')) :
    (k st).runOn s = (.error e, s') := by
  rcases bind_eq_error.mp h with hs | ⟨st', s₁, hs, h₁⟩
  · simp [storedStatus, hst] at hs
  obtain ⟨hst', rfl⟩ := storedStatus_ok hs
  rw [hst] at hst'
  cases hst'
  exact h₁

/-- A check that fails, then `k`: the failure is the check's. -/
theorem ofExcept_then_error {α β : Type} {x : Except InvoiceError α} {k : α → StoreOp β}
    {e₀ : InvoiceError} (hx : x = .error e₀)
    (h : (MonadExcept.ofExcept x >>= k).runOn s = (.error e, s')) : e = e₀ := by
  subst hx
  rcases bind_eq_error.mp h with h | ⟨a, s₁, h, -⟩
  · rw [runOn_ofExcept] at h
    cases h
    rfl
  · rw [runOn_ofExcept] at h
    cases h

theorem ensureEditable_refuses (h : st ≠ .draft) :
    ensureEditable st =
      .error (.invalidOperation ("only draft invoices can be edited, invoice is " ++ st.name)) := by
  simp [ensureEditable, h]

theorem ensureDeletable_refuses (h : st ≠ .draft) :
    ensureDeletable st =
      .error (.invalidOperation ("only draft invoices can be deleted, invoice is " ++ st.name)) := by
  simp [ensureDeletable, h]

/-- Locking an invoice the transaction's copy holds and checking its stored status with `check`,
which refuses that status with `refusal`: a failure is the lock's, a storage failure, or the
refusal. -/
theorem lock_check_error {β γ : Type} {check : InvoiceStatus → Except InvoiceError β}
    {k : Invoice → β → StoreOp γ} {refusal : InvoiceError} (hp : s.pending = some p)
    (hfound : Invoices.lookup account invoice p.tables = some i) (hst : i.status? = some st)
    (h : (Invoices.lock account invoice >>= fun found => orMissing "invoice" found >>= fun current =>
      storedStatus current >>= fun st => MonadExcept.ofExcept (check st) >>= k current).runOn s =
        (.error e, s'))
    (hcheck : check st = .error refusal) : (∃ m, e = .storage m) ∨ e = refusal := by
  rcases lock_then_error hp hfound h with hstorage | ⟨s₁, h₁⟩
  · exact .inl hstorage
  · exact .inr (ofExcept_then_error hcheck (storedStatus_then_error hst h₁))

/-- Two invoices found under one account and identity have one status. -/
theorem Invoices.status_of_lookup {t : Tables} {current : Invoice} {st' : InvoiceStatus}
    (hfound : Invoices.lookup account invoice t = some i) (hst : i.status? = some st)
    (found : Invoices.lookup account invoice t = some current)
    (stored : current.status? = some st') : st' = st := by
  rw [hfound, Option.some.injEq] at found
  subst found
  exact Option.some.inj (stored.symm.trans hst)

theorem requestedStatus_error {str : String} (h : requestedStatus str = .error e) :
    ∃ m, e = .invalidInput m := by
  unfold requestedStatus at h
  split at h
  · cases h
  · cases h
    exact ⟨_, rfl⟩

theorem validated_error {vs : List Violation} (h : (validated vs).runOn s = (.error e, s')) :
    ∃ m, e = .invalidInput m := by
  unfold validated at h
  split at h
  · cases h
  · cases h
    exact ⟨_, rfl⟩

theorem validateItems_error {items : List ItemRequest}
    (h : (validateItems items).runOn s = (.error e, s')) : ∃ m, e = .invalidInput m := by
  induction items generalizing s with
  | nil => cases h
  | cons it rest ih =>
    rcases bind_eq_error.mp h with hv | ⟨⟨⟩, s₁, -, h₁⟩
    · exact validated_error hv
    · exact ih h₁

/-- A status change starts from an invoice the tables hold in a status that is not final. -/
theorem Moved.live {r : StatusRequest} {now : Instant} {c c' : Tables}
    (h : Moved account invoice r now c c') :
    ∃ current st, Invoices.lookup account invoice c = some current ∧ current.status? = some st ∧
      st.isTerminal = false := by
  cases h with
  | mk current st target change stamp requested found stored planned =>
    exact ⟨current, st, found, stored, (planStatusChange_ok planned).1⟩

/-- A deletion removes an invoice the tables hold as a draft. -/
theorem Removed.draft {c c' : Tables} (h : Removed account invoice c c') :
    ∃ current, Invoices.lookup account invoice c = some current ∧ current.status? = some .draft := by
  cases h with
  | mk current found draft => exact ⟨current, found, draft⟩

section Settled

variable {n : Serials} (hp : s.pending = none) (hl : s.committed.Linked n)
  (hi : i ∈ s.committed.invoices) (hst : i.status? = some st)
include hp hl hi hst

/-- A status change of a paid or canceled invoice fails, with the lifecycle's refusal, a failed
check of the request or a storage failure, and publishes nothing. -/
theorem storeStatus_settled (r : StatusRequest) (now : Instant) (hterm : st.isTerminal) :
    ∃ e s', (storeStatus i.accountId i.id r now).runOn s = (.error e, s') ∧
      s'.committed = s.committed ∧
      (e = .invalidTransition ("cannot update status of " ++ st.name ++ " invoice") ∨
        (∃ m, e = .storage m) ∨ ∃ m, e = .invalidInput m) := by
  have hfound := Invoices.lookup_of_mem hl hi
  match hrun : (storeStatus i.accountId i.id r now).runOn s with
  | (.ok u, s') =>
    -- a change the lifecycle allowed started from a status that is not final
    obtain ⟨current, st', found, stored, live⟩ := (storeStatus_ok hp hrun).2.2.live
    rw [Invoices.status_of_lookup hfound hst found stored] at live
    simp [live] at hterm
  | (.error e, s') =>
    refine ⟨e, s', rfl, (Clean.storeStatus _ _ _ _ s e s' hp hrun).1, ?_⟩
    unfold storeStatus at hrun
    rcases bind_eq_error.mp hrun with hreq | ⟨target, s₁, hreq, h₁⟩
    · rw [runOn_ofExcept, Prod.mk.injEq] at hreq
      exact .inr (.inr (requestedStatus_error hreq.1))
    obtain ⟨-, rfl⟩ := ofExcept_ok hreq
    rcases transaction_error h₁ with hstorage | ⟨s₂, s₃, hp₂, hbody⟩
    · exact .inr (.inl hstorage)
    unfold moveStatus at hbody
    rcases lock_check_error hp₂ hfound hst hbody (planStatusChange_terminal _ _ _ _ hterm) with
      hstorage | hrefused
    · exact .inr (.inl hstorage)
    · exact .inl hrefused

/-- An edit of an invoice that is not a draft fails, with the lifecycle's refusal, a failed check
of the changes or a storage failure, and publishes nothing. -/
theorem storeChanges_refused (r : InvoiceChanges) (hnd : st ≠ .draft) :
    ∃ e s', (storeChanges i.accountId i.id r).runOn s = (.error e, s') ∧
      s'.committed = s.committed ∧
      (e = .invalidOperation ("only draft invoices can be edited, invoice is " ++ st.name) ∨
        (∃ m, e = .storage m) ∨ ∃ m, e = .invalidInput m) := by
  have hfound := Invoices.lookup_of_mem hl hi
  match hrun : (storeChanges i.accountId i.id r).runOn s with
  | (.ok u, s') =>
    -- an edit that went through found a draft
    obtain ⟨-, -, -, -, hrevised, -⟩ := storeChanges_written hp hrun
    obtain ⟨current, row, found, draft, -⟩ := hrevised.shape
    exact absurd (Invoices.status_of_lookup hfound hst found draft).symm hnd
  | (.error e, s') =>
    refine ⟨e, s', rfl, (Clean.storeChanges _ _ _ s e s' hp hrun).1, ?_⟩
    unfold storeChanges at hrun
    rcases bind_eq_error.mp hrun with hv | ⟨⟨⟩, s₁, hv, h₁⟩
    · exact .inr (.inr (validated_error hv))
    obtain ⟨-, rfl⟩ := validated_ok hv
    -- the given items are checked before the transaction, which then starts from `s`
    have hstep : (∃ m, e = .invalidInput m) ∨
        (transaction "Failed to commit invoice update" (reviseDraft i.accountId i.id r)).runOn s =
          (.error e, s') := by
      dsimp only at h₁
      cases hr : r.items with
      | none =>
        rw [hr] at h₁
        exact .inr h₁
      | some items =>
        rw [hr] at h₁
        rcases bind_eq_error.mp h₁ with hv | ⟨⟨⟩, s₂, hv, h₂⟩
        · exact .inl (validateItems_error hv)
        obtain ⟨-, rfl⟩ := validateItems_ok hv
        exact .inr h₂
    rcases hstep with hinput | h₂
    · exact .inr (.inr hinput)
    rcases transaction_error h₂ with hstorage | ⟨s₂, s₃, hp₂, hbody⟩
    · exact .inr (.inl hstorage)
    unfold reviseDraft at hbody
    rcases lock_check_error hp₂ hfound hst hbody (ensureEditable_refuses hnd) with
      hstorage | hrefused
    · exact .inr (.inl hstorage)
    · exact .inl hrefused

/-- A deletion of an invoice that is not a draft fails, with the lifecycle's refusal or a storage
failure, and publishes nothing. -/
theorem deleteInvoice_refused (hnd : st ≠ .draft) :
    ∃ e s', (deleteInvoice i.accountId i.id).runOn s = (.error e, s') ∧
      s'.committed = s.committed ∧
      (e = .invalidOperation ("only draft invoices can be deleted, invoice is " ++ st.name) ∨
        ∃ m, e = .storage m) := by
  have hfound := Invoices.lookup_of_mem hl hi
  match hrun : (deleteInvoice i.accountId i.id).runOn s with
  | (.ok u, s') =>
    obtain ⟨current, found, draft⟩ := (deleteInvoice_ok hp hrun).2.2.draft
    exact absurd (Invoices.status_of_lookup hfound hst found draft).symm hnd
  | (.error e, s') =>
    refine ⟨e, s', rfl, (Clean.deleteInvoice _ _ s e s' hp hrun).1, ?_⟩
    rcases transaction_error hrun with hstorage | ⟨s₂, s₃, hp₂, hbody⟩
    · exact .inr hstorage
    unfold removeDraft at hbody
    rcases lock_check_error hp₂ hfound hst hbody (ensureDeletable_refuses hnd) with
      hstorage | hrefused
    · exact .inr hstorage
    · exact .inl hrefused

end Settled

/-- An edit, whatever it returns, that changed the published rows edited a draft. -/
theorem updateInvoice_edits_draft {r : InvoiceChanges} {res : Except InvoiceError InvoiceDetails}
    (hp : s.pending = none) (h : (updateInvoice account invoice r).runOn s = (res, s'))
    (hne : s'.committed ≠ s.committed) :
    ∃ current, Invoices.lookup account invoice s.committed = some current ∧
      current.status? = some .draft := by
  -- read back or not, a change of the rows is the committed edit
  have hrevised : ∃ c', Revised account invoice r s.committed c' := by
    cases res with
    | error e => exact ⟨_, (updateInvoice_failed hp h).2.2.resolve_left hne⟩
    | ok d =>
      obtain ⟨⟨⟩, s₁, hstore, -⟩ := bind_eq_ok.mp h
      obtain ⟨-, -, -, -, hrevised, -⟩ := storeChanges_written hp hstore
      exact ⟨_, hrevised⟩
  obtain ⟨c', hrevised⟩ := hrevised
  obtain ⟨current, -, found, draft, -⟩ := hrevised.shape
  exact ⟨current, found, draft⟩

/-- A deletion that changed the published rows deleted a draft. -/
theorem deleteInvoice_removes_draft {res : Except InvoiceError Unit} (hp : s.pending = none)
    (h : (deleteInvoice account invoice).runOn s = (res, s')) (hne : s'.committed ≠ s.committed) :
    ∃ current, Invoices.lookup account invoice s.committed = some current ∧
      current.status? = some .draft := by
  cases res with
  | error e => exact absurd (Clean.deleteInvoice _ _ s e s' hp h).1 hne
  | ok u => exact (deleteInvoice_ok hp h).2.2.draft

end Service

/-! ## The lifecycle of every reachable store -/

open Service

/-- How a call on an invoice is refused: it fails with the lifecycle's `refusal`, with a storage
failure or, where the request is `checked` before the store is read, with what those checks turn
down; and the published rows stay as they were. -/
def Refused (checked : Bool) (refusal : InvoiceError) (s : Store)
    (o : Except InvoiceError Unit × Store) : Prop :=
  o.2.committed = s.committed ∧ ∃ e, o.1 = .error e ∧
    (e = refusal ∨ (∃ m, e = .storage m) ∨ (checked ∧ ∃ m, e = .invalidInput m))

theorem Refused.of_error {α : Type} {op : StoreOp α} {checked : Bool} {refusal e : InvoiceError}
    {s s' : Store} (h : op.runOn s = (.error e, s')) (hc : s'.committed = s.committed)
    (he : e = refusal ∨ (∃ m, e = .storage m) ∨ (checked ∧ ∃ m, e = .invalidInput m)) :
    Refused checked refusal s (op.outcome s) := by
  simp only [StoreOp.outcome, h]
  exact ⟨hc, e, rfl, he⟩

/-- The invoice `i` of the store `s` is settled with the status `st`: every change of its status,
edit and deletion is refused, and every later store still holds it with its items, but for when
it was last rendered. -/
structure Settled (s : Store) (i : Invoice) (st : InvoiceStatus) : Prop where
  status : ∀ r now, Refused true
    (.invalidTransition ("cannot update status of " ++ st.name ++ " invoice")) s
    ((Call.updateInvoiceStatus i.accountId i.id r now).run s)
  edit : ∀ r, Refused true
    (.invalidOperation ("only draft invoices can be edited, invoice is " ++ st.name)) s
    ((Call.updateInvoice i.accountId i.id r).run s)
  delete : Refused false
    (.invalidOperation ("only draft invoices can be deleted, invoice is " ++ st.name)) s
    ((Call.deleteInvoice i.accountId i.id).run s)
  kept : ∀ acts, ∃ p, { i with pdfGeneratedAt := p } ∈ (Action.runAll acts s).committed.invoices ∧
    (Action.runAll acts s).committed.itemsOf i = s.committed.itemsOf i

/-- A paid or canceled invoice of a reachable store is settled. -/
theorem Reachable.settled {s : Store} (hs : Reachable s) {i : Invoice}
    (hi : i ∈ s.committed.invoices) {st : InvoiceStatus} (hst : i.status? = some st)
    (hterm : st.isTerminal) : Settled s i st := by
  have hp := hs.closed
  have hl := hs.linked
  have hnd : st ≠ .draft := by
    rintro rfl
    cases hterm
  refine ⟨fun r now => ?_, fun r => ?_, ?_, hs.keeps_settled hi hst hterm⟩
  · obtain ⟨e, s', h, hc, he⟩ := storeStatus_settled hp hl hi hst r now hterm
    exact Refused.of_error (bind_eq_error.mpr (.inl h)) hc
      (he.imp_right (Or.imp_right fun hm => ⟨rfl, hm⟩))
  · obtain ⟨e, s', h, hc, he⟩ := storeChanges_refused hp hl hi hst r hnd
    exact Refused.of_error (bind_eq_error.mpr (.inl h)) hc
      (he.imp_right (Or.imp_right fun hm => ⟨rfl, hm⟩))
  · obtain ⟨e, s', h, hc, he⟩ := deleteInvoice_refused hp hl hi hst hnd
    exact Refused.of_error h hc (he.imp_right .inl)

/-- The lifecycle of invoices over every run: every stored status is one the lifecycle knows, with
a paid instant exactly when it is paid; only drafts are ever edited or deleted; and a paid or
canceled invoice is settled. -/
theorem invoice_lifecycle {s : Store} (hs : Reachable s) :
    (∀ i ∈ s.committed.invoices, ∃ st : InvoiceStatus,
      i.status = st.name ∧ i.status? = some st ∧ (i.paidAt.isSome ↔ st = .paid)) ∧
    (∀ account invoice r,
      ((Call.updateInvoice account invoice r).run s).2.committed ≠ s.committed →
        ∃ i, Invoices.lookup account invoice s.committed = some i ∧ i.status? = some .draft) ∧
    (∀ account invoice,
      ((Call.deleteInvoice account invoice).run s).2.committed ≠ s.committed →
        ∃ i, Invoices.lookup account invoice s.committed = some i ∧ i.status? = some .draft) ∧
    ∀ i ∈ s.committed.invoices, ∀ st, i.status? = some st → st.isTerminal → Settled s i st := by
  refine ⟨fun i hi => ?_, fun account invoice r hne => ?_, fun account invoice hne => ?_,
    fun i hi st hst hterm => hs.settled hi hst hterm⟩
  · obtain ⟨st, hname, hpaid⟩ := hs.statusValid i hi
    exact ⟨st, hname, Invoice.status?_of_name hname, hpaid⟩
  · exact updateInvoice_edits_draft hs.closed rfl hne
  · exact deleteInvoice_removes_draft hs.closed rfl hne

/-- The session's invoice, paid at the instant 2026-03-15T10:30:00Z. -/
def paidSession : List Action :=
  invoicingSession ++
    [.call (.updateInvoiceStatus owner (Table.serial .invoices 1) { status := "paid" }
      ⟨1773570600, 0⟩)]

/-- The session that pays its invoice reaches a store holding a paid invoice, which is settled. -/
theorem paidSession_lifecycle :
    Reachable (Action.runAll paidSession {}) ∧
      (Invoices.lookup owner (Table.serial .invoices 1)
        (Action.runAll paidSession {}).committed).map (·.status) = some "paid" ∧
      let s := Action.runAll paidSession {}
      (∀ i ∈ s.committed.invoices, ∃ st : InvoiceStatus,
        i.status = st.name ∧ i.status? = some st ∧ (i.paidAt.isSome ↔ st = .paid)) ∧
      (∀ account invoice r,
        ((Call.updateInvoice account invoice r).run s).2.committed ≠ s.committed →
          ∃ i, Invoices.lookup account invoice s.committed = some i ∧ i.status? = some .draft) ∧
      (∀ account invoice,
        ((Call.deleteInvoice account invoice).run s).2.committed ≠ s.committed →
          ∃ i, Invoices.lookup account invoice s.committed = some i ∧ i.status? = some .draft) ∧
      ∀ i ∈ s.committed.invoices, ∀ st, i.status? = some st → st.isTerminal → Settled s i st := by
  have h := Reachable.empty.runAll paidSession
  refine ⟨h, ?_, invoice_lifecycle h⟩
  simp only [paidSession, invoicingSession, List.cons_append, List.nil_append, Action.runAll,
    List.foldl, Action.apply, provision_owner]
  decide +kernel

/-- A paid invoice turns down a status change its checks cannot read before the lifecycle is
asked, with what the checks say rather than with the lifecycle's refusal. -/
theorem settled_invoice_checks_request_first :
    let s := Action.runAll paidSession {}
    (Invoices.lookup owner (Table.serial .invoices 1) s.committed).map (·.status) = some "paid" ∧
      ((Call.updateInvoiceStatus owner (Table.serial .invoices 1) { status := "bogus" }
        ⟨1773570600, 0⟩).run s).1 =
        .error (.invalidInput
          "unknown invoice status 'bogus', expected one of draft, sent, paid, overdue, canceled") := by
  simp only [paidSession, invoicingSession, List.cons_append, List.nil_append, Action.runAll,
    List.foldl, Action.apply, provision_owner]
  decide +kernel

end Invoicing
