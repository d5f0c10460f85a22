import Invoicing.Proofs.Revision
import Invoicing.Proofs.Dates

/-!
# What a status change answers

A status change (`updateInvoiceStatus`) reads the requested status, trimmed, by its exact name;
then, in one transaction, it locks the invoice, reads its stored status and asks the lifecycle
(`planStatusChange`) for the change, which it writes; last it reads the invoice back. Its
refusals therefore come in this order: a status that names none, an invoice the account does not
have, a paid or canceled invoice (whatever paid date is given), and, for a change to paid, a paid
date that is given, not blank and not a date. None of them writes anything. The status name is
read before any statement; every later step may instead fail in the store when the store is down
or fails statements (`FailsWith`).

A change that answered wrote the target status, the paid instant the request asks for
(`Stamped`: the paid date's midnight UTC, or the current instant, for a change to paid; the one
the invoice had for any other status) and the time of the change, and nothing else.

What is proved here:
* `planStatusChange_stamped`: the paid instant of every planned change.
* `updateInvoiceStatus_plan_refused`, `updateInvoiceStatus_missing`: a refusal inside the
  transaction is the call's failure, and writes nothing.
* `updateInvoiceStatus_healthy`: on a store that fails no statement, a change the checks let
  through answers.
* `updateInvoiceStatus_moved`: a change that answered wrote only the invoice it found.
* `status_change_checked_in_order`: all of it, from every reachable store (`StatusChecked`).
* `paid_invoice_status_change_fails_in_begin`: on a store that fails to open transactions, a
  settled invoice is not refused but fails in the store.
-/

namespace Invoicing

open StoreOp Service

/-! ## The lifecycle's paid instant -/

/-- The paid instant `after` an invoice holds once a change to `target`, asked with `paidDate` at
`now`, was made to it while it held `before`: for a change to paid, midnight UTC of the trimmed
paid date, or `now` when none or a blank one is given; for any other status, `before`. -/
structure Stamped (target : InvoiceStatus) (paidDate : Option String) (now : Instant)
    (before after : Option Instant) : Prop where
  blank : target = .paid → (∀ p ∈ paidDate, trimBlanks p = "") → after = some now
  dated : target = .paid → ∀ p ∈ paidDate, ∀ d, Date.parse? (trimBlanks p) = some d →
    after = some (Instant.ofDate d)
  kept : target ≠ .paid → after = before

/-- An operation run on `s` failed with `e₀` and wrote nothing, or, on a store that is down or
fails statements, failed in the store instead. -/
def FailsWith {α : Type} (e₀ : InvoiceError) (s : Store) (o : Except InvoiceError α × Store) :
    Prop :=
  o.2.committed = s.committed ∧ (o.1 = .error e₀ ∨ ¬ s.Healthy ∧ ∃ m, o.1 = .error (.storage m))

/-- The paid date of a request for `target` can be read: the target is not paid, or the date is
not given, blank or a date. -/
def PaidDateReadable (target : InvoiceStatus) (paidDate : Option String) : Prop :=
  target = .paid → ∀ p ∈ paidDate, trimBlanks p ≠ "" → (Date.parse? (trimBlanks p)).isSome

theorem parseDate_ok_iff {field v : String} {d : Date} :
    parseDate field v = .ok d ↔ Date.parse? (trimBlanks v) = some d := by
  unfold parseDate
  split <;> simp_all

theorem parseDate_of_none (field : String) {v : String} (h : Date.parse? (trimBlanks v) = none) :
    parseDate field v = .error (.invalidInput ("invalid " ++ field ++ " '" ++ v ++
      "', expected YYYY-MM-DD")) := by
  simp [parseDate, h]

theorem Date.parse?_empty : Date.parse? "" = none := by decide

section Plan

variable {current target : InvoiceStatus} {paidDate : Option String} {now : Instant}

/-- A planned change records the paid instant `Stamped` asks for, once the store keeps the instant
the invoice held when the change gives none. -/
theorem planStatusChange_stamped {c : StatusChange}
    (h : planStatusChange current target paidDate now = .ok c) (before : Option Instant) :
    Stamped target paidDate now before (c.paidAt.or before) := by
  unfold planStatusChange at h
  split at h
  · cases h
  split at h
  · -- a change to paid: the trimmed date, or `now` for none or a blank one
    rename_i hpaid
    subst hpaid
    cases paidDate with
    | none =>
      cases h
      exact ⟨fun _ _ => rfl, fun _ p hp => (by cases hp), fun h => absurd rfl h⟩
    | some p =>
      simp only [Option.map_some] at h
      by_cases hblank : (trimBlanks p).isEmpty
      · rw [if_pos hblank] at h
        cases h
        have hnil : trimBlanks p = "" := String.isEmpty_iff.mp hblank
        refine ⟨fun _ _ => rfl, fun _ q hq d hd => ?_, fun h => absurd rfl h⟩
        cases hq
        rw [hnil, Date.parse?_empty] at hd
        cases hd
      · rw [if_neg hblank] at h
        cases hd : parseDate "paid_date" (trimBlanks p) with
        | error e =>
          rw [hd] at h
          cases h
        | ok d' =>
          rw [hd] at h
          cases h
          -- the date was read from the trimmed text, which trimming again leaves as it is
          rw [parseDate_ok_iff, Date.trimBlanks_trimBlanks] at hd
          refine ⟨fun _ hall => absurd (String.isEmpty_iff.mpr (hall p rfl)) hblank,
            fun _ q hq d hdq => ?_, fun h => absurd rfl h⟩
          cases hq
          rw [hd, Option.some.injEq] at hdq
          rw [hdq]
          rfl
  · rename_i hnot
    cases h
    exact ⟨fun h => absurd h hnot, fun h => absurd h hnot, fun _ => rfl⟩

/-- A change to paid, from a status that is not final, with a paid date that is neither blank nor
a date, is invalid input naming the trimmed date. -/
theorem planStatusChange_undated (hlive : current.isTerminal = false) {p : String}
    (hp : paidDate = some p) (hne : trimBlanks p ≠ "") (hbad : Date.parse? (trimBlanks p) = none) :
    planStatusChange current .paid paidDate now =
      .error (.invalidInput ("invalid paid_date '" ++ trimBlanks p ++ "', expected YYYY-MM-DD")) := by
  subst hp
  have hblank : (trimBlanks p).isEmpty = false := by
    simpa [String.isEmpty_iff] using hne
  have hread := parseDate_of_none "paid_date"
    (show Date.parse? (trimBlanks (trimBlanks p)) = none by rw [Date.trimBlanks_trimBlanks, hbad])
  simp only [planStatusChange, hlive, Bool.false_eq_true, if_false, if_true, Option.map_some,
    hblank, hread]
  rfl

/-- From a status that is not final, a change with a readable paid date is planned. -/
theorem planStatusChange_readable (hlive : current.isTerminal = false)
    (hread : PaidDateReadable target paidDate) :
    ∃ c, planStatusChange current target paidDate now = .ok c := by
  by_cases hpaid : target = .paid
  · subst hpaid
    cases paidDate with
    | none => exact ⟨⟨.paid, some now⟩, by simp [planStatusChange, hlive]⟩
    | some p =>
      by_cases hblank : (trimBlanks p).isEmpty
      · exact ⟨⟨.paid, some now⟩, by simp [planStatusChange, hlive, hblank]⟩
      · -- a date that is not blank reads, and trimming it again changes nothing
        obtain ⟨d, hd⟩ := Option.isSome_iff_exists.mp
          (hread rfl p rfl fun h => hblank (String.isEmpty_iff.mpr h))
        have hparse : parseDate "paid_date" (trimBlanks p) = .ok d := by
          rw [parseDate_ok_iff, Date.trimBlanks_trimBlanks, hd]
        exact ⟨⟨.paid, some (Instant.ofDate d)⟩, by simp [planStatusChange, hlive, hblank, hparse]; rfl⟩
  · exact ⟨⟨target, none⟩, by simp [planStatusChange, hlive, hpaid]⟩

end Plan

/-! ## Statements on a store that fails none -/

namespace StoreOp

variable {γ : Type} {s : Store}

/-- On a store that is up and fails no statement, a statement inside the open transaction gives
what its body gives on the transaction's copy at the transaction's start, and leaves the body's
tables in the copy. -/
theorem query_txn_healthy {kind : StatementKind} {ctx : String}
    {body : Instant → Tables → Except DbError (γ × Tables)} {a : Instant → γ}
    {t : Instant → Tables} {p : Pending} (hp : s.pending = some p) (hfault : s.fault = none)
    (hup : s.reachable = true) (hb : ∀ now, body now p.tables = .ok (a now, t now)) :
    (query .txn kind ctx body).runOn s =
      (.ok (a (Store.instant p.start)),
        { s with pending := some { p with tables := t (Store.instant p.start) } }) := by
  unfold query
  rw [runOn_bind, runOn_lift]
  have hx : (Store.exec .txn kind body).run s =
      (.ok (a (Store.instant p.start)),
        { s with pending := some { p with tables := t (Store.instant p.start) } }) := by
    simp [Store.exec, StateT.run, Store.tick, Store.txnOf, Store.letThrough, Store.view, Store.put,
      hp, hfault, hup, hb]
  rw [hx]
  rfl

/-- With no fault set, a commit publishes the transaction's copy. -/
theorem commit_healthy {ctx : String} {p : Pending} (hp : s.pending = some p)
    (hfault : s.fault = none) :
    (commit ctx).runOn s = (.ok (), { s with committed := p.tables, pending := none }) := by
  simp [runOn, commit, StateT.run, Store.letThrough, hp, hfault]

/-- On a store that is up and fails no statement, a transaction whose body succeeds on the
transaction's copy, leaving `t` there, publishes `t`. -/
theorem transaction_healthy_ok {ctx : String} {body : StoreOp γ} {a : γ} {t : Tables}
    (hfault : s.fault = none) (hup : s.reachable = true)
    (hbody : body.runOn
      { s with clock := s.clock + 1, pending := some ⟨s.committed, s.clock + 1⟩ } =
        (.ok a, { s with clock := s.clock + 1, pending := some ⟨t, s.clock + 1⟩ })) :
    (transaction ctx body).runOn s =
      (.ok a, { s with clock := s.clock + 1, committed := t, pending := none }) := by
  unfold transaction
  rw [runOn_bind, begin_healthy hfault hup]
  simp only [runOn_bind, runOn_tryCatch, hbody]
  rw [commit_healthy (s := { s with clock := s.clock + 1, pending := some ⟨t, s.clock + 1⟩ }) rfl
    hfault]
  rfl

end StoreOp

/-! ## The call, step by step -/

namespace Service

variable {account invoice : Uuid} {r : StatusRequest} {now : Instant} {s s' : Store}
  {target st : InvoiceStatus} {paidDate : Option String} {i : Invoice} {e e₀ : InvoiceError}

/-- A status that names none is refused before any statement, and the store stays as it was. -/
theorem updateInvoiceStatus_unknown (h : InvoiceStatus.parse? (trimBlanks r.status) = none)
    (s : Store) :
    (updateInvoiceStatus account invoice r now).runOn s =
      (.error (.invalidInput (InvoiceStatus.unknownMessage (trimBlanks r.status))), s) := by
  unfold updateInvoiceStatus storeStatus
  simp only [runOn_bind, runOn_ofExcept, requestedStatus, h]

/-- A known status goes straight to the transaction. -/
theorem storeStatus_known (h : InvoiceStatus.parse? (trimBlanks r.status) = some target)
    (s : Store) :
    (storeStatus account invoice r now).runOn s =
      (transaction "Failed to commit status change"
        (moveStatus account invoice target r.paidDate now)).runOn s := by
  unfold storeStatus
  simp only [runOn_bind, runOn_ofExcept, requestedStatus, h]

/-- Inside the transaction, a status change of an invoice its copy does not hold fails with
"invoice not found", unless the lock fails in the store. -/
theorem moveStatus_missing_error {p : Pending} (hp : s.pending = some p)
    (hnone : Invoices.lookup account invoice p.tables = none)
    (h : (moveStatus account invoice target paidDate now).runOn s = (.error e, s')) :
    (∃ m, e = .storage m) ∨ e = InvoiceError.missing "invoice" := by
  unfold moveStatus at h
  rcases bind_eq_error.mp h with hl | ⟨found, s₁, hl, h₁⟩
  · exact .inl (query_error hl)
  obtain ⟨rfl, -⟩ := query_read_ok hl
  rw [Store.view_txn hp, hnone] at h₁
  rcases check_then (runOn_orMissing _ _) h₁ with ⟨e', he', hres, -⟩ | ⟨a, ha, -⟩
  · cases he'
    cases hres
    exact .inr rfl
  · cases ha

/-- On a store that is up and fails no statement, the transaction's body refuses an invoice the
account does not have. -/
theorem moveStatus_missing_healthy (hs : s.Healthy)
    (hnone : Invoices.lookup account invoice s.committed = none) :
    ∃ s₂, (moveStatus account invoice target paidDate now).runOn
      { s with clock := s.clock + 1, pending := some ⟨s.committed, s.clock + 1⟩ } =
        (.error (InvoiceError.missing "invoice"), s₂) := by
  unfold moveStatus Invoices.lock
  simp only [runOn_bind, query_read_txn_healthy
      (s := { s with clock := s.clock + 1, pending := some ⟨s.committed, s.clock + 1⟩ }) rfl hs.1
      hs.2, hnone, orMissing, runOn_throw]
  exact ⟨_, rfl⟩

/-- On a store that is up and fails no statement, the transaction's body fails with the
lifecycle's refusal of the invoice's stored status. -/
theorem moveStatus_refused_healthy (hs : s.Healthy)
    (hfound : Invoices.lookup account invoice s.committed = some i) (hst : i.status? = some st)
    (hplan : planStatusChange st target paidDate now = .error e₀) :
    ∃ s₂, (moveStatus account invoice target paidDate now).runOn
      { s with clock := s.clock + 1, pending := some ⟨s.committed, s.clock + 1⟩ } =
        (.error e₀, s₂) := by
  unfold moveStatus Invoices.lock
  simp only [runOn_bind, query_read_txn_healthy
      (s := { s with clock := s.clock + 1, pending := some ⟨s.committed, s.clock + 1⟩ }) rfl hs.1
      hs.2, hfound, orMissing, runOn_pure, storedStatus, hst, runOn_ofExcept, hplan]
  exact ⟨_, rfl⟩

/-- A status change whose transaction body refuses with `e₀` on the published rows, and which the
lifecycle cannot let through, fails with `e₀` and writes nothing, unless the store is down or
failing and a statement fails first. -/
theorem updateInvoiceStatus_refused (hp : s.pending = none)
    (htarget : InvoiceStatus.parse? (trimBlanks r.status) = some target)
    (hnot : ∀ current st c, Invoices.lookup account invoice s.committed = some current →
      current.status? = some st → planStatusChange st target r.paidDate now = .ok c → False)
    (hbody : ∀ s₁ s₂ e, s₁.pending = some ⟨s.committed, s.clock + 1⟩ →
      (moveStatus account invoice target r.paidDate now).runOn s₁ = (.error e, s₂) →
      (∃ m, e = .storage m) ∨ e = e₀)
    (hhealthy : s.Healthy → ∃ s₂, (moveStatus account invoice target r.paidDate now).runOn
      { s with clock := s.clock + 1, pending := some ⟨s.committed, s.clock + 1⟩ } =
        (.error e₀, s₂)) :
    FailsWith e₀ s ((updateInvoiceStatus account invoice r now).runOn s) := by
  rcases hrun : (storeStatus account invoice r now).runOn s with ⟨e | u, s₁⟩
  · have hcall : (updateInvoiceStatus account invoice r now).runOn s = (.error e, s₁) := by
      unfold updateInvoiceStatus
      rw [runOn_bind, hrun]
    rw [hcall]
    refine ⟨(Clean.storeStatus _ _ _ _ s e s₁ hp hrun).1, ?_⟩
    rw [storeStatus_known htarget] at hrun
    -- on a healthy store the transaction reaches the refusal; otherwise a statement may fail
    by_cases hh : s.Healthy
    · obtain ⟨s₃, htx⟩ := transaction_healthy_error hh.1 hh.2 (hhealthy hh)
      rw [htx] at hrun
      cases hrun
      exact .inl rfl
    rcases transaction_error hrun with ⟨m, rfl⟩ | ⟨s₂, s₃, hp₂, hb⟩
    · exact .inr ⟨hh, m, rfl⟩
    rcases hbody s₂ s₃ e hp₂ hb with ⟨m, rfl⟩ | rfl
    · exact .inr ⟨hh, m, rfl⟩
    · exact .inl rfl
  · -- a change that went through was planned on the invoice the lock found
    obtain ⟨-, -, hmoved⟩ := storeStatus_ok hp hrun
    generalize s₁.committed = c' at hmoved
    cases hmoved with
    | mk current st' target' change stamp requested found stored planned =>
      simp only [requestedStatus, htarget, Except.ok.injEq] at requested
      subst requested
      exact (hnot current st' change found stored planned).elim

/-- A status change of an invoice the account does not have fails with "invoice not found". -/
theorem updateInvoiceStatus_missing (hp : s.pending = none)
    (htarget : InvoiceStatus.parse? (trimBlanks r.status) = some target)
    (hnone : Invoices.lookup account invoice s.committed = none) :
    FailsWith (InvoiceError.missing "invoice") s
      ((updateInvoiceStatus account invoice r now).runOn s) :=
  updateInvoiceStatus_refused hp htarget
    (fun _ _ _ found _ _ => by rw [hnone] at found; cases found)
    (fun _ _ _ hp₁ hb => moveStatus_missing_error hp₁ hnone hb)
    (fun hh => moveStatus_missing_healthy hh hnone)

/-- A status change the lifecycle refuses for the invoice's stored status fails with that
refusal. -/
theorem updateInvoiceStatus_plan_refused (hp : s.pending = none)
    (htarget : InvoiceStatus.parse? (trimBlanks r.status) = some target)
    (hfound : Invoices.lookup account invoice s.committed = some i) (hst : i.status? = some st)
    (hplan : planStatusChange st target r.paidDate now = .error e₀) :
    FailsWith e₀ s ((updateInvoiceStatus account invoice r now).runOn s) :=
  updateInvoiceStatus_refused hp htarget
    (fun _ _ _ found stored planned => by
      rw [Invoices.status_of_lookup hfound hst found stored, hplan] at planned
      cases planned)
    (fun _ _ _ hp₁ hb => by
      unfold moveStatus at hb
      exact lock_check_error hp₁ hfound hst hb hplan)
    (fun hh => moveStatus_refused_healthy hh hfound hst hplan)

/-- The row a status change writes over `current`: the new status, the paid instant the change
gives or else the one held, and the time of the change. -/
theorem Invoices.change_status {t : Tables} {current : Invoice} {c : StatusChange} {stamp : Instant}
    (hfound : Invoices.lookup account invoice t = some current) :
    Invoices.change account invoice (fun i => .ok { i with
      status := c.status.name, paidAt := c.paidAt.or i.paidAt, updatedAt := stamp }) t =
      .ok ({ current with
          status := c.status.name, paidAt := c.paidAt.or current.paidAt, updatedAt := stamp },
        { t with invoices := t.invoices.map fun x => if x.id == invoice then
          { current with
            status := c.status.name, paidAt := c.paidAt.or current.paidAt, updatedAt := stamp }
          else x }) := by
  simp [Invoices.change, hfound]

/-- On a store that is up and fails no statement, a change the lifecycle plans for an invoice the
account has answers. -/
theorem updateInvoiceStatus_healthy (hs : s.Healthy)
    (htarget : InvoiceStatus.parse? (trimBlanks r.status) = some target)
    (hfound : Invoices.lookup account invoice s.committed = some i) (hst : i.status? = some st)
    {c : StatusChange} (hplan : planStatusChange st target r.paidDate now = .ok c) :
    ∃ D, ((updateInvoiceStatus account invoice r now).runOn s).1 = .ok D := by
  set row : Invoice := { i with
    status := c.status.name, paidAt := c.paidAt.or i.paidAt, updatedAt := Store.instant (s.clock + 1) }
  set t : Tables := { s.committed with invoices := s.committed.invoices.map fun x =>
    if x.id == invoice then row else x }
  -- the body on the transaction's copy: the lock finds the invoice, the plan goes through, and
  -- the copy takes the new row
  have hbody : (moveStatus account invoice target r.paidDate now).runOn
      { s with clock := s.clock + 1, pending := some ⟨s.committed, s.clock + 1⟩ } =
      (.ok (), { s with clock := s.clock + 1, pending := some ⟨t, s.clock + 1⟩ }) := by
    unfold moveStatus Invoices.lock Invoices.setStatus
    simp only [runOn_bind, query_read_txn_healthy
        (s := { s with clock := s.clock + 1, pending := some ⟨s.committed, s.clock + 1⟩ }) rfl hs.1
        hs.2, hfound, orMissing, runOn_pure, storedStatus, hst, runOn_ofExcept, hplan]
    rw [query_txn_healthy (s := { s with clock := s.clock + 1, pending := some ⟨s.committed, s.clock + 1⟩ })
      rfl hs.1 hs.2 fun _ => Invoices.change_status hfound]
  -- the read-back finds the row the change wrote
  have hrow : Invoices.lookup account invoice t = some row :=
    Invoices.lookup_put hfound rfl rfl rfl
  unfold updateInvoiceStatus
  rw [runOn_bind, storeStatus_known htarget, transaction_healthy_ok hs.1 hs.2 hbody]
  simp only
  rw [getInvoice_healthy (s := { s with clock := s.clock + 1, committed := t, pending := none }) hs.1
    hs.2 hrow]
  exact ⟨_, rfl⟩

/-- A status change that answered, from a store with no transaction open, answers with the
invoice it found with the requested status, the paid instant `Stamped` asks for and a new time
of change and nothing else changed; that row replaces the invoice and every other row stays. -/
theorem updateInvoiceStatus_moved {D : InvoiceDetails} (hp : s.pending = none)
    (h : (updateInvoiceStatus account invoice r now).runOn s = (.ok D, s')) :
    ∃ target current stamp, InvoiceStatus.parse? (trimBlanks r.status) = some target ∧
      Invoices.lookup account invoice s.committed = some current ∧
      Stamped target r.paidDate now current.paidAt D.invoice.paidAt ∧
      D.invoice = { current with
        status := target.name, paidAt := D.invoice.paidAt, updatedAt := stamp } ∧
      s'.committed = { s.committed with invoices := s.committed.invoices.map fun x =>
        if x.id == invoice then D.invoice else x } := by
  unfold updateInvoiceStatus at h
  obtain ⟨u, s₁, hstore, hget⟩ := bind_eq_ok.mp h
  obtain ⟨-, -, hmoved⟩ := storeStatus_ok hp hstore
  have hread := getInvoice_ok hget
  rw [← (Keeps.run (Keeps.getInvoice account invoice) hget).committed]
  generalize s₁.committed = c' at hmoved hread ⊢
  cases hmoved with
  | mk current st target change stamp requested found stored planned =>
    -- the read-back is the row the change wrote
    have hD := Option.some.inj ((Invoices.lookup_put found (by rfl) (by rfl) rfl).symm.trans hread)
    rw [← hD]
    have htarget : InvoiceStatus.parse? (trimBlanks r.status) = some target := by
      unfold requestedStatus at requested
      split at requested <;> cases requested
      assumption
    obtain ⟨-, hstatus⟩ := planStatusChange_ok planned
    exact ⟨target, current, stamp, htarget, found, planStatusChange_stamped planned current.paidAt,
      by rw [hstatus], rfl⟩

end Service

/-- How a status change of `invoice` of `account`, asked with `r` at `now` from the store `s`,
answers, in the order its checks run: a status that names none, then an invoice the account does
not have, then a paid or canceled invoice whatever the paid date, then an unreadable paid date for
a change to paid. Every refusal but the first may come second to a failure in the store, when the
store is down or failing. A change none refuses answers on a store that fails no statement, and
one that answered wrote the target status, the paid instant `Stamped` asks for and the time of the
change into the invoice it found, and nothing else. -/
structure StatusChecked (s : Store) (account invoice : Uuid) (r : StatusRequest) (now : Instant) :
    Prop where
  unknown : InvoiceStatus.parse? (trimBlanks r.status) = none →
    (updateInvoiceStatus account invoice r now).runOn s =
      (.error (.invalidInput (InvoiceStatus.unknownMessage (trimBlanks r.status))), s)
  missing : ∀ target, InvoiceStatus.parse? (trimBlanks r.status) = some target →
    Invoices.lookup account invoice s.committed = none →
    FailsWith (InvoiceError.missing "invoice") s ((updateInvoiceStatus account invoice r now).runOn s)
  settled : ∀ target i st, InvoiceStatus.parse? (trimBlanks r.status) = some target →
    Invoices.lookup account invoice s.committed = some i → i.status? = some st →
    st.isTerminal = true →
    FailsWith (.invalidTransition ("cannot update status of " ++ st.name ++ " invoice")) s
      ((updateInvoiceStatus account invoice r now).runOn s)
  undated : ∀ i st p, InvoiceStatus.parse? (trimBlanks r.status) = some .paid →
    Invoices.lookup account invoice s.committed = some i → i.status? = some st →
    st.isTerminal = false → r.paidDate = some p → trimBlanks p ≠ "" →
    Date.parse? (trimBlanks p) = none →
    FailsWith (.invalidInput ("invalid paid_date '" ++ trimBlanks p ++ "', expected YYYY-MM-DD")) s
      ((updateInvoiceStatus account invoice r now).runOn s)
  inStore : ∀ target i st, InvoiceStatus.parse? (trimBlanks r.status) = some target →
    Invoices.lookup account invoice s.committed = some i → i.status? = some st →
    st.isTerminal = false → PaidDateReadable target r.paidDate → s.Healthy →
    ∃ D, ((updateInvoiceStatus account invoice r now).runOn s).1 = .ok D
  moved : ∀ D s', (updateInvoiceStatus account invoice r now).runOn s = (.ok D, s') →
    ∃ target current stamp, InvoiceStatus.parse? (trimBlanks r.status) = some target ∧
      Invoices.lookup account invoice s.committed = some current ∧
      Stamped target r.paidDate now current.paidAt D.invoice.paidAt ∧
      D.invoice = { current with
        status := target.name, paidAt := D.invoice.paidAt, updatedAt := stamp } ∧
      s'.committed = { s.committed with invoices := s.committed.invoices.map fun x =>
        if x.id == invoice then D.invoice else x }

/-- From every reachable store, a status change is checked in order, fails with its first
refusal or in the store, and one that answered moved the invoice it found and nothing else. -/
theorem status_change_checked_in_order {s : Store} (hs : Reachable s) (account invoice : Uuid)
    (r : StatusRequest) (now : Instant) : StatusChecked s account invoice r now where
  unknown h := updateInvoiceStatus_unknown h s
  missing _ htarget hnone := updateInvoiceStatus_missing hs.closed htarget hnone
  settled _ _ st htarget hfound hst hterm := updateInvoiceStatus_plan_refused hs.closed htarget
    hfound hst (planStatusChange_terminal st _ _ _ hterm)
  undated _ _ _ htarget hfound hst hlive hp hne hbad := updateInvoiceStatus_plan_refused hs.closed
    htarget hfound hst (planStatusChange_undated hlive hp hne hbad)
  inStore _ _ _ htarget hfound hst hlive hread hh :=
    let ⟨_, hplan⟩ := planStatusChange_readable hlive hread
    updateInvoiceStatus_healthy hh htarget hfound hst hplan
  moved _ _ h := updateInvoiceStatus_moved hs.closed h

theorem paidSession_status_checked :
    Reachable (Action.runAll paidSession {}) ∧
      StatusChecked (Action.runAll paidSession {}) owner (Table.serial .invoices 1)
        { status := "sent" } ⟨1773570600, 0⟩ :=
  ⟨Reachable.empty.runAll _, status_change_checked_in_order (Reachable.empty.runAll _) _ _ _ _⟩

/-- The transaction is opened before the invoice is looked at: a change of a paid invoice, from a
reachable store that fails every opening of a transaction, fails in the store, not with the
refusal. -/
theorem paid_invoice_status_change_fails_in_begin :
    let s := Action.runAll (paidSession ++ [.fault (some .begin) 0]) {}
    Reachable s ∧
      (Invoices.lookup owner (Table.serial .invoices 1) s.committed).map (·.status) = some "paid" ∧
      ((updateInvoiceStatus owner (Table.serial .invoices 1) { status := "sent" }
          ⟨1773570600, 0⟩).runOn s).1 =
        .error (.storage ("Failed to begin transaction: error returned from database: " ++
          "canceling statement due to statement timeout")) := by
  refine ⟨Reachable.empty.runAll _, ?_⟩
  simp only [paidSession, invoicingSession, List.cons_append, List.nil_append, Action.runAll,
    List.foldl, Action.apply, provision_owner]
  decide +kernel

end Invoicing
