import Invoicing.Proofs.Drafts

/-!
# Status changes, deletions and rendering

What the other writes of an invoice do to the published tables. A status change and a deletion
each run in one transaction after their checks, so a failure changes no published row
(`Clean.storeStatus`, `Clean.deleteInvoice`). A status change that succeeded moved the invoice as
the lifecycle allows (`Moved`): only the status, the paid instant (kept unless a new one is
given) and the time of the change are written. A deletion that succeeded deleted a draft and its
items (`Removed`). Rendering reads the invoice and its account and then only stamps when the
invoice was rendered (`renderInvoice_cases`); reading an invoice changes no row.
-/

namespace Invoicing

namespace Service

open StoreOp

theorem Keeps.moveStatus (account invoice : Uuid) (target : InvoiceStatus)
    (paidDate : Option String) (now : Instant) :
    Keeps Store.InTxn (moveStatus account invoice target paidDate now) := by
  unfold Service.moveStatus
  exact Keeps.lock_check _ _ _ fun _ _ => Keeps.bind (Keeps.query_txn _ _ _) fun _ => Keeps.pure _

theorem Clean.storeStatus (account invoice : Uuid) (r : StatusRequest) (now : Instant) :
    Clean (storeStatus account invoice r now) :=
  Clean.bind (Keeps.ofExcept _) fun _ => Clean.transaction (Keeps.moveStatus _ _ _ _ _)

/-- What a committed status change of the invoice `invoice` of `account` at `now` did to the
published tables `c`. The requested status `target` was known; the invoice `current` was found
with the stored status `st`, from which the lifecycle allowed the change; its row took the new
status, kept its paid instant unless the change gave one, and recorded when it changed. -/
inductive Moved (account invoice : Uuid) (r : StatusRequest) (now : Instant) (c : Tables) :
    Tables → Prop
  | mk (current : Invoice) (st target : InvoiceStatus) (change : StatusChange) (stamp : Instant)
      (requested : requestedStatus r.status = .ok target)
      (found : Invoices.lookup account invoice c = some current)
      (stored : current.status? = some st)
      (planned : planStatusChange st target r.paidDate now = .ok change) :
      Moved account invoice r now c
        { c with invoices := c.invoices.map fun x =>
            if x.id == invoice then
              { current with
                status := change.status.name, paidAt := change.paidAt.or current.paidAt,
                updatedAt := stamp }
            else x }

/-- A status change that succeeded moved the invoice as the lifecycle allows (`Moved`). -/
theorem storeStatus_ok {account invoice : Uuid} {r : StatusRequest} {now : Instant} {s s' : Store}
    {u : Unit} (hp : s.pending = none) (h : (storeStatus account invoice r now).runOn s = (.ok u, s')) :
    s'.pending = none ∧ s.serials ≤ s'.serials ∧ Moved account invoice r now s.committed s'.committed := by
  unfold storeStatus at h
  obtain ⟨target, s₁, htarget, h₁⟩ := bind_eq_ok.mp h
  obtain ⟨hrequested, rfl⟩ := ofExcept_ok htarget
  obtain ⟨hp', hse, ⟨e, he, -⟩ | ⟨a, t₁, t₂, p, hc₁, hp₁, hse₁, hbody, hp₂, -, hc', hse'⟩⟩ :=
    transaction_cases (Keeps.moveStatus _ _ _ _ _) hp h₁
  · cases he
  refine ⟨hp', hse, ?_⟩
  -- inside the transaction: lock, read the status, plan, write
  unfold moveStatus at hbody
  obtain ⟨current, st, change, t₃, hcurrent, hst, hplanned, hs₃, h₃⟩ := lock_check_ok hp₁ hbody
  obtain ⟨row, t₇, hset, h₇⟩ := bind_eq_ok.mp h₃
  simp only [runOn_pure, Prod.mk.injEq] at h₇
  obtain ⟨-, rfl⟩ := h₇
  obtain ⟨stamp, t, hbody', hs₇⟩ := query_ok hset
  rw [Store.view_txn (hs₃.pending.trans hp₁)] at hbody'
  obtain ⟨current', hcurrent', hrow, rfl⟩ := Invoices.change_ok hbody'
  rw [hcurrent] at hcurrent'
  cases hcurrent'
  cases hrow
  rw [Store.put_txn (hs₃.pending.trans hp₁)] at hs₇
  have hp₇ := hs₇.pending
  rw [hp₂] at hp₇
  cases hp₇
  rw [hc']
  exact .mk current st target change stamp hrequested hcurrent hst hplanned

theorem ensureDeletable_ok {st : InvoiceStatus} (h : ensureDeletable st = .ok ()) :
    st = .draft := by
  unfold ensureDeletable at h
  split at h
  · assumption
  · cases h

theorem Keeps.removeDraft (account invoice : Uuid) :
    Keeps Store.InTxn (removeDraft account invoice) := by
  unfold Service.removeDraft
  exact Keeps.lock_check _ _ _ fun _ _ => Keeps.bind (Keeps.query_txn _ _ _) fun _ => Keeps.pure _

theorem Clean.deleteInvoice (account invoice : Uuid) : Clean (deleteInvoice account invoice) :=
  Clean.transaction (Keeps.removeDraft _ _)

/-- What a committed deletion of the invoice `invoice` of `account` did to the published tables
`c`: the invoice `current` was found, a draft, and its rows and the items of the rows were
deleted. -/
inductive Removed (account invoice : Uuid) (c : Tables) : Tables → Prop
  | mk (current : Invoice)
      (found : Invoices.lookup account invoice c = some current)
      (draft : current.status? = some .draft) :
      Removed account invoice c
        { c with
          invoices := c.invoices.filter fun x => !(x.accountId == account && x.id == invoice),
          items := c.items.filter fun it =>
            !((c.invoices.filter fun x => x.accountId == account && x.id == invoice).any
              (·.id == it.invoiceId)) }

/-- A deletion that succeeded deleted a draft with its items (`Removed`). -/
theorem deleteInvoice_ok {account invoice : Uuid} {s s' : Store} {u : Unit}
    (hp : s.pending = none) (h : (deleteInvoice account invoice).runOn s = (.ok u, s')) :
    s'.pending = none ∧ s.serials ≤ s'.serials ∧ Removed account invoice s.committed s'.committed := by
  obtain ⟨hp', hse, ⟨e, he, -⟩ | ⟨a, t₁, t₂, p, hc₁, hp₁, hse₁, hbody, hp₂, -, hc', hse'⟩⟩ :=
    transaction_cases (Keeps.removeDraft _ _) hp h
  · cases he
  refine ⟨hp', hse, ?_⟩
  unfold removeDraft at hbody
  obtain ⟨current, st, ⟨⟩, t₃, hcurrent, hst, hdel, hs₃, h₃⟩ := lock_check_ok hp₁ hbody
  obtain ⟨gone, t₇, hdelete, h₇⟩ := bind_eq_ok.mp h₃
  simp only [runOn_pure, Prod.mk.injEq] at h₇
  obtain ⟨-, rfl⟩ := h₇
  obtain ⟨stamp, t, hbody', hs₇⟩ := query_ok hdelete
  rw [Store.view_txn (hs₃.pending.trans hp₁)] at hbody'
  cases hbody'
  rw [Store.put_txn (hs₃.pending.trans hp₁)] at hs₇
  have hp₇ := hs₇.pending
  rw [hp₂] at hp₇
  cases hp₇
  rw [hc']
  exact .mk current hcurrent (ensureDeletable_ok hdel ▸ hst)

theorem Keeps.getInvoice (account invoice : Uuid) :
    Keeps Store.SameRows (getInvoice account invoice) := by
  unfold Service.getInvoice Service.hydrate
  refine Keeps.bind (Keeps.query_read _ _ _ _) fun _ => ?_
  refine Keeps.bind (Keeps.orMissing _ _) fun _ => ?_
  refine Keeps.bind (Keeps.query_read _ _ _ _) fun _ => ?_
  exact Keeps.bind (Keeps.query_read _ _ _ _) fun _ => Keeps.pure _

/-- Rendering changes no row but the stamp of when the invoice was rendered. -/
theorem renderInvoice_cases {account invoice : Uuid} {s s' : Store}
    {res : Except InvoiceError (String × Printout)}
    (h : (renderInvoice account invoice).runOn s = (res, s')) :
    s'.pending = s.pending ∧ s'.serials = s.serials ∧
      (s'.committed = s.committed ∨
        ∃ now, s'.committed = { s.committed with invoices := s.committed.invoices.map fun x =>
          if x.accountId == account && x.id == invoice then { x with pdfGeneratedAt := some now }
          else x }) := by
  unfold renderInvoice at h
  rcases bind_sameRows_cases (Keeps.getInvoice _ _) h with hs | ⟨details, s₁, hs₁, h₁⟩
  · exact ⟨hs.pending, hs.serials, .inl hs.committed⟩
  rcases bind_sameRows_cases (Keeps.query_read _ _ _ _) h₁ with hs | ⟨found, s₂, hs₂, h₂⟩
  · exact ⟨hs.pending.trans hs₁.pending, hs.serials.trans hs₁.serials,
      .inl (hs.committed.trans hs₁.committed)⟩
  rcases bind_sameRows_cases (Keeps.orMissing _ _) h₂ with hs | ⟨owner, s₃, hs₃, h₃⟩
  · have hs' := hs.trans (hs₂.trans hs₁)
    exact ⟨hs'.pending, hs'.serials, .inl hs'.committed⟩
  have hs₃' := hs₃.trans (hs₂.trans hs₁)
  -- the stamp is the only statement that writes
  rw [runOn_bind] at h₃
  rcases hmark : (Invoices.markRendered account invoice).runOn s₃ with ⟨r₄, s₄⟩
  rw [hmark] at h₃
  have hs₄ : s' = s₄ := by
    cases r₄ <;> simp only [runOn_pure, Prod.mk.injEq] at h₃ <;> exact h₃.2.symm
  subst hs₄
  rcases query_cases hmark with ⟨e, -, hs⟩ | ⟨now, a, t, hbody, -, hs⟩
  · have hs' := hs.trans hs₃'
    exact ⟨hs'.pending, hs'.serials, .inl hs'.committed⟩
  · cases hbody
    refine ⟨hs.pending.trans hs₃'.pending, hs.serials.trans hs₃'.serials, .inr ⟨now, ?_⟩⟩
    rw [hs.committed]
    simp only [Store.put_own, Store.view_own, hs₃'.committed]

end Service

end Invoicing
