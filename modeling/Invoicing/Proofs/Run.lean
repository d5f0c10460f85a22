import Invoicing.Service.Invoices
import Invoicing.Service.Parties
import Mathlib.Order.Defs.Unbundled
import Mathlib.Order.Basic

/-!
# Running operations on the store

What the statements of the store can do, stated once so that every service operation is read
off from them. A statement may always fail (the store is unreachable, or a fault refuses it),
and a failed statement changes no row. A statement that goes through gives what its body gives
on the tables its connection sees, and leaves the body's tables in their place: the open
transaction's copy inside it, the published tables outside. An insert that goes through counts
one more identity of its table. A transaction publishes its copy only when its body and the
commit both succeed.

Stores are compared by their rows (`Store.SameRows`): the clock and the fault move with every
statement and are left out. `Keeps R op` says that every run of `op` ends in a store `R`-related
to the one it started from, and is built up through `bind`; `Clean op` says that a failure of
`op` started with no transaction open leaves the published tables as they were.

What is proved here:
* `exec_cases`, `insert_cases`, `query_cases`, `query_read_cases`: one statement.
* `begin_cases`, `commit_cases`, `transaction_cases`: a transaction.
* `Keeps.bind`, `Clean.bind`, `Clean.transaction`: how operations compose.
-/

namespace Invoicing

namespace Serials

/-- Identities handed out only forward: every table's count is at least as large. -/
instance : LE Serials := ⟨fun a b => ∀ t, a.get t ≤ b.get t⟩

theorem le_def {a b : Serials} : a ≤ b ↔ ∀ t, a.get t ≤ b.get t := Iff.rfl

instance : Preorder Serials where
  le_refl _ _ := Nat.le_refl _
  le_trans _ _ _ h₁ h₂ t := Nat.le_trans (h₁ t) (h₂ t)

theorem get_bump (s : Serials) (t u : Table) :
    (s.bump t).get u = if t = u then s.get u + 1 else s.get u := by
  cases t <;> cases u <;> rfl

theorem le_bump (s : Serials) (t : Table) : s ≤ s.bump t := by
  intro u
  rw [get_bump]
  split <;> omega

end Serials

namespace Store

/-- Two stores hold the same rows when they agree on the published tables, the open transaction
and the identities handed out; their clocks and faults may differ. -/
structure SameRows (s t : Store) : Prop where
  committed : s.committed = t.committed
  pending : s.pending = t.pending
  serials : s.serials = t.serials

namespace SameRows

theorem refl (s : Store) : SameRows s s := ⟨rfl, rfl, rfl⟩

theorem symm {s t : Store} (h : SameRows s t) : SameRows t s := ⟨h.1.symm, h.2.symm, h.3.symm⟩

theorem trans {s t u : Store} (h₁ : SameRows s t) (h₂ : SameRows t u) : SameRows s u :=
  ⟨h₁.1.trans h₂.1, h₁.2.trans h₂.2, h₁.3.trans h₂.3⟩

end SameRows

instance : IsPreorder Store SameRows where
  refl := SameRows.refl
  trans _ _ _ := SameRows.trans

/-- What a statement may do while a transaction is open: leave the published tables alone and
the transaction open. Identities are only ever handed out forward. -/
def InTxn (s s' : Store) : Prop :=
  (s.pending.isSome → s'.committed = s.committed ∧ s'.pending.isSome) ∧ s.serials ≤ s'.serials

instance : IsPreorder Store InTxn where
  refl s := ⟨fun _ => ⟨rfl, ‹_›⟩, le_refl _⟩
  trans _ _ _ h₁ h₂ := ⟨fun hp => ⟨(h₂.1 (h₁.1 hp).2).1.trans (h₁.1 hp).1, (h₂.1 (h₁.1 hp).2).2⟩,
    le_trans h₁.2 h₂.2⟩

theorem SameRows.inTxn {s t : Store} (h : s.SameRows t) : InTxn s t :=
  ⟨fun hp => ⟨h.committed.symm, h.pending ▸ hp⟩, le_of_eq h.serials⟩

theorem tick_sameRows (conn : Conn) (s : Store) : (s.tick conn).2.SameRows s := by
  unfold tick
  split <;> exact ⟨rfl, rfl, rfl⟩

theorem letThrough_sameRows (kind : StatementKind) (s : Store) :
    (s.letThrough kind).2.SameRows s := by
  unfold letThrough
  split
  · split
    · split <;> exact ⟨rfl, rfl, rfl⟩
    · exact ⟨rfl, rfl, rfl⟩
  · exact ⟨rfl, rfl, rfl⟩

theorem letThrough_clock (kind : StatementKind) (s : Store) :
    (s.letThrough kind).2.clock = s.clock := by
  unfold letThrough
  split
  · split
    · split <;> rfl
    · rfl
  · rfl

theorem txnOf_eq {s t : Store} (h : s.SameRows t) (conn : Conn) : s.txnOf conn = t.txnOf conn := by
  cases conn <;> simp [txnOf, h.pending]

theorem view_eq {s t : Store} (h : s.SameRows t) (conn : Conn) : s.view conn = t.view conn := by
  simp only [view, txnOf_eq h, h.committed]

theorem put_sameRows {s t : Store} (h : s.SameRows t) (conn : Conn) (x : Tables) :
    (s.put conn x).SameRows (t.put conn x) := by
  unfold put
  rw [txnOf_eq h]
  split <;> exact ⟨by simp [h.committed], by simp [h.pending], h.serials⟩

@[simp] theorem view_own (s : Store) : s.view .own = s.committed := rfl

@[simp] theorem put_own (t : Tables) (s : Store) : s.put .own t = { s with committed := t } := rfl

theorem view_txn {s : Store} {p : Pending} (hp : s.pending = some p) : s.view .txn = p.tables := by
  simp [view, txnOf, hp]

theorem put_txn {s : Store} {p : Pending} (hp : s.pending = some p) (t : Tables) :
    s.put .txn t = { s with pending := some { p with tables := t } } := by
  simp [put, txnOf, hp]

@[simp] theorem put_serials (conn : Conn) (x : Tables) (s : Store) :
    (s.put conn x).serials = s.serials := by
  unfold put; split <;> rfl

/-- A statement either fails and changes no row, or gives what its body gives on the tables it
sees and leaves the body's tables in their place. -/
theorem exec_cases {α : Type} {conn : Conn} {kind : StatementKind}
    {body : Instant → Tables → Except DbError (α × Tables)} {s s' : Store} {r : Except DbError α}
    (h : (Store.exec conn kind body).run s = (r, s')) :
    (∃ e, r = .error e ∧ s'.SameRows s) ∨
    (∃ now a t, body now (s.view conn) = .ok (a, t) ∧ r = .ok a ∧ s'.SameRows (s.put conn t)) := by
  simp only [StateT.run, exec] at h
  split at h
  · cases h
    exact .inl ⟨_, rfl, SameRows.refl s⟩
  -- the store once the clock and the fault have seen the statement
  rcases ht : s.tick conn with ⟨now, s₁⟩
  rcases hl : s₁.letThrough kind with ⟨allowed, s₂⟩
  have h₁ : s₁.SameRows s := by simpa [ht] using tick_sameRows conn s
  have h₂ : s₂.SameRows s := by
    have := letThrough_sameRows kind s₁
    rw [hl] at this
    exact this.trans h₁
  simp only [ht, hl] at h
  split at h
  · cases h
    exact .inl ⟨_, rfl, h₂⟩
  rw [view_eq h₂] at h
  split at h
  · rename_i a t hb
    cases h
    exact .inr ⟨_, a, t, hb, rfl, put_sameRows h₂ conn t⟩
  · cases h
    exact .inl ⟨_, rfl, h₂⟩

theorem put_view (conn : Conn) (s : Store) : (s.put conn (s.view conn)).SameRows s := by
  unfold put view
  cases h : s.txnOf conn with
  | none => exact ⟨rfl, rfl, rfl⟩
  | some p =>
    have hp : s.pending = some p := by cases conn <;> simp_all [txnOf]
    exact ⟨rfl, by simp [hp], rfl⟩

/-- Inside an open transaction a statement on its connection changes only the transaction's
tables. -/
theorem put_txn_inTxn (t : Tables) (s : Store) : InTxn s (s.put .txn t) := by
  refine ⟨fun hp => ?_, by simp⟩
  obtain ⟨p, hp⟩ := Option.isSome_iff_exists.mp hp
  simp [put, txnOf, hp]

/-- The store with one more identity of `t` handed out. -/
def count (t : Table) (s : Store) : Store := { s with serials := s.serials.bump t }

@[simp] theorem count_committed (t : Table) (s : Store) : (s.count t).committed = s.committed := rfl

@[simp] theorem count_pending (t : Table) (s : Store) : (s.count t).pending = s.pending := rfl

@[simp] theorem count_serials (t : Table) (s : Store) :
    (s.count t).serials = s.serials.bump t := rfl

/-- An insert is a statement whose body gets the next identity of its table; when it succeeds,
that identity counts as handed out. -/
theorem insert_cases {α : Type} {conn : Conn} {t : Table}
    {body : Uuid → Instant → Tables → Except DbError (α × Tables)} {s s' : Store}
    {r : Except DbError α} (h : (Store.insert conn t body).run s = (r, s')) :
    (∃ e, r = .error e ∧ s'.SameRows s) ∨
    (∃ now a x, body (t.serial (s.serials.get t + 1)) now (s.view conn) = .ok (a, x) ∧ r = .ok a ∧
      s'.SameRows ((s.put conn x).count t)) := by
  simp only [Store.insert, StateT.run_bind, StateT.run_get, pure_bind] at h
  rcases hx : (exec conn (.touch .insert t) (body (t.serial (s.serials.get t + 1)))).run s
    with ⟨r₁, s₁⟩
  rw [hx] at h
  rcases exec_cases hx with ⟨e, rfl, hs₁⟩ | ⟨now, a, x, hb, rfl, hs₁⟩
  · simp only [bind_pure_comp] at h
    obtain ⟨rfl, rfl⟩ := h
    exact .inl ⟨e, rfl, hs₁⟩
  · simp only [bind_pure_comp] at h
    obtain ⟨rfl, rfl⟩ := h
    refine .inr ⟨now, a, x, hb, rfl, ?_⟩
    exact ⟨hs₁.committed, hs₁.pending, by simp [count, hs₁.serials]⟩

end Store

namespace StoreOp

theorem runOn_bind {α β : Type} (x : StoreOp α) (f : α → StoreOp β) (s : Store) :
    (x >>= f).runOn s = match x.runOn s with
      | (.ok a, s') => (f a).runOn s'
      | (.error e, s') => (.error e, s') := by
  unfold runOn
  rcases h : (ExceptT.run x).run s with ⟨r, s'⟩
  cases r <;> simp only [ExceptT.run_bind, StateT.run_bind, h] <;> rfl

theorem bind_eq_ok {α β : Type} {x : StoreOp α} {f : α → StoreOp β} {s s' : Store} {b : β} :
    (x >>= f).runOn s = (.ok b, s') ↔ ∃ a s₁, x.runOn s = (.ok a, s₁) ∧ (f a).runOn s₁ = (.ok b, s') := by
  rw [runOn_bind]
  rcases hx : x.runOn s with ⟨_ | a, s₁⟩
  · simp
  · constructor
    · intro h
      exact ⟨a, s₁, rfl, h⟩
    · rintro ⟨_, _, hx', h⟩
      cases hx'
      exact h

theorem bind_eq_error {α β : Type} {x : StoreOp α} {f : α → StoreOp β} {s s' : Store}
    {e : InvoiceError} :
    (x >>= f).runOn s = (.error e, s') ↔
      x.runOn s = (.error e, s') ∨ ∃ a s₁, x.runOn s = (.ok a, s₁) ∧ (f a).runOn s₁ = (.error e, s') := by
  rw [runOn_bind]
  rcases hx : x.runOn s with ⟨_ | a, s₁⟩
  · simp
  · constructor
    · intro h
      exact .inr ⟨a, s₁, rfl, h⟩
    · rintro (h | ⟨_, _, hx', h⟩)
      · cases h
      · cases hx'
        exact h

@[simp] theorem runOn_pure {α : Type} (a : α) (s : Store) : (pure a : StoreOp α).runOn s = (.ok a, s) := rfl

@[simp] theorem runOn_throw {α : Type} (e : InvoiceError) (s : Store) :
    (throw e : StoreOp α).runOn s = (.error e, s) := rfl

@[simp] theorem runOn_ofExcept {α : Type} (x : Except InvoiceError α) (s : Store) :
    (MonadExcept.ofExcept x : StoreOp α).runOn s = (x, s) := by
  cases x <;> rfl

theorem runOn_lift {α : Type} (x : StateM Store α) (s : Store) :
    (liftM x : StoreOp α).runOn s = (.ok (x.run s).1, (x.run s).2) := rfl

theorem query_cases {α : Type} {conn : Conn} {kind : StatementKind} {ctx : String}
    {body : Instant → Tables → Except DbError (α × Tables)} {s s' : Store}
    {r : Except InvoiceError α} (h : (query conn kind ctx body).runOn s = (r, s')) :
    (∃ e, r = .error e ∧ s'.SameRows s) ∨
    (∃ now a t, body now (s.view conn) = .ok (a, t) ∧ r = .ok a ∧ s'.SameRows (s.put conn t)) := by
  unfold query at h
  rw [runOn_bind, runOn_lift] at h
  rcases hx : (Store.exec conn kind body).run s with ⟨r₁, s₁⟩
  rcases Store.exec_cases hx with ⟨e, rfl, hs₁⟩ | ⟨now, a, t, hb, rfl, hs₁⟩
  · simp only [hx] at h
    cases h
    exact .inl ⟨_, rfl, hs₁⟩
  · simp only [hx] at h
    cases h
    exact .inr ⟨now, a, t, hb, rfl, hs₁⟩


theorem begin_cases {s s' : Store} {r : Except InvoiceError Unit} (h : begin.runOn s = (r, s')) :
    (∃ e, r = .error e ∧ s'.SameRows s) ∨
    (r = .ok () ∧ s'.committed = s.committed ∧ s'.pending = some ⟨s.committed, s.clock + 1⟩ ∧
      s'.serials = s.serials) := by
  simp only [runOn, begin, ExceptT.run_mk, StateT.run] at h
  split at h
  · cases h
    exact .inl ⟨_, rfl, Store.SameRows.refl s⟩
  rcases hl : Store.letThrough .begin { s with clock := s.clock + 1 } with ⟨allowed, s₁⟩
  have h₁ : s₁.SameRows s := by
    have := Store.letThrough_sameRows .begin { s with clock := s.clock + 1 }
    rw [hl] at this
    exact this.trans ⟨rfl, rfl, rfl⟩
  have hc : s₁.clock = s.clock + 1 := by
    have := Store.letThrough_clock .begin { s with clock := s.clock + 1 }
    rwa [hl] at this
  simp only [hl] at h
  split at h
  · cases h
    exact .inr ⟨rfl, h₁.committed, by simp [h₁.committed, hc], h₁.serials⟩
  · cases h
    exact .inl ⟨_, rfl, h₁⟩

theorem commit_cases {ctx : String} {s s' : Store} {r : Except InvoiceError Unit}
    (h : (commit ctx).runOn s = (r, s')) :
    s'.pending = none ∧ s'.serials = s.serials ∧
      ((r = .ok () ∧ s'.committed = (s.pending.map Pending.tables).getD s.committed) ∨
        (∃ e, r = .error e ∧ s'.committed = s.committed)) := by
  simp only [runOn, commit, ExceptT.run_mk, StateT.run] at h
  rcases hl : s.letThrough .commit with ⟨allowed, s₁⟩
  have h₁ : s₁.SameRows s := by
    have := Store.letThrough_sameRows .commit s
    rwa [hl] at this
  simp only [hl] at h
  split at h
  · cases h
    exact ⟨rfl, h₁.serials, .inl ⟨rfl, by simp [h₁.committed, h₁.pending]⟩⟩
  · cases h
    exact ⟨rfl, h₁.serials, .inr ⟨_, rfl, h₁.committed⟩⟩

@[simp] theorem runOn_rollback (s : Store) : rollback.runOn s = (.ok (), { s with pending := none }) :=
  rfl

theorem runOn_tryCatch {α : Type} (x : StoreOp α) (handler : InvoiceError → StoreOp α) (s : Store) :
    (tryCatch x handler).runOn s = match x.runOn s with
      | (.ok a, s') => (.ok a, s')
      | (.error e, s') => (handler e).runOn s' := by
  unfold runOn
  rcases h : (ExceptT.run x).run s with ⟨r, s'⟩
  cases r <;> simp [ExceptT.run_tryCatch, StateT.run_bind, h] <;> rfl

theorem ofExcept_ok {α : Type} {x : Except InvoiceError α} {s s' : Store} {a : α}
    (h : (MonadExcept.ofExcept x : StoreOp α).runOn s = (.ok a, s')) : x = .ok a ∧ s = s' := by
  rw [runOn_ofExcept] at h
  cases h
  exact ⟨rfl, rfl⟩

theorem orMissing_ok {α : Type} {what : String} {row : Option α} {s s' : Store} {a : α}
    (h : (orMissing what row).runOn s = (.ok a, s')) : row = some a ∧ s = s' := by
  unfold orMissing at h
  split at h
  · cases h
    exact ⟨rfl, rfl⟩
  · cases h

theorem validated_ok {vs : List Violation} {s s' : Store} {u : Unit}
    (h : (validated vs).runOn s = (.ok u, s')) : vs = [] ∧ s = s' := by
  unfold validated at h
  split at h
  · rename_i hv
    cases h
    exact ⟨List.isEmpty_iff.mp hv, rfl⟩
  · cases h

/-- Every run of `op` ends in a store that `R` relates to the one it started from. -/
def Keeps (R : Store → Store → Prop) {α : Type} (op : StoreOp α) : Prop :=
  ∀ s, R s (op.runOn s).2

namespace Keeps

variable {R : Store → Store → Prop} {α β : Type}

theorem pure [IsPreorder Store R] (a : α) : Keeps R (pure a : StoreOp α) := fun s => refl_of R s

theorem throw [IsPreorder Store R] (e : InvoiceError) : Keeps R (throw e : StoreOp α) :=
  fun s => refl_of R s

theorem ofExcept [IsPreorder Store R] (x : Except InvoiceError α) :
    Keeps R (MonadExcept.ofExcept x : StoreOp α) := fun s => by
  simp only [runOn_ofExcept]; exact refl_of R s

theorem bind [IsPreorder Store R] {x : StoreOp α} {f : α → StoreOp β} (hx : Keeps R x)
    (hf : ∀ a, Keeps R (f a)) : Keeps R (x >>= f) := by
  intro s
  rw [runOn_bind]
  rcases h : x.runOn s with ⟨_ | a, s₁⟩
  · simpa [h] using hx s
  · have hs₁ : R s s₁ := by simpa [h] using hx s
    exact trans_of R hs₁ (hf a s₁)

theorem mono {R' : Store → Store → Prop} {x : StoreOp α} (h : ∀ s t, R s t → R' s t)
    (hx : Keeps R x) : Keeps R' x := fun s => h _ _ (hx s)

theorem orMissing [IsPreorder Store R] (what : String) (row : Option α) :
    Keeps R (orMissing what row) := by
  cases row
  · exact Keeps.throw _
  · exact Keeps.pure _

theorem validated [IsPreorder Store R] (vs : List Violation) : Keeps R (validated vs) := by
  unfold StoreOp.validated
  split
  · exact Keeps.pure _
  · exact Keeps.throw _

/-- What one run of an operation that keeps `R` did. -/
theorem run {op : StoreOp α} (hk : Keeps R op) {s s' : Store} {r : Except InvoiceError α}
    (h : op.runOn s = (r, s')) : R s s' := by
  simpa [h] using hk s

/-- An operation that keeps the rows keeps any relation a statement inside a transaction
keeps. -/
theorem inTxn {x : StoreOp α} (hx : Keeps Store.SameRows x) : Keeps Store.InTxn x :=
  hx.mono fun _ _ h => h.inTxn

end Keeps

/-- A statement that only reads changes no row, and when it succeeds it gives what it reads
from the tables its connection sees. -/
theorem query_read_cases {α : Type} {conn : Conn} {kind : StatementKind} {ctx : String}
    {g : Tables → α} {s s' : Store} {r : Except InvoiceError α}
    (h : (query conn kind ctx fun _ t => .ok (g t, t)).runOn s = (r, s')) :
    s'.SameRows s ∧ ((∃ e, r = .error e) ∨ r = .ok (g (s.view conn))) := by
  rcases query_cases h with ⟨e, rfl, hs⟩ | ⟨now, a, t, hb, rfl, hs⟩
  · exact ⟨hs, .inl ⟨e, rfl⟩⟩
  · cases hb
    exact ⟨hs.trans (Store.put_view conn s), .inr rfl⟩

/-- A statement that succeeded gave what its body gave on the tables its connection sees. -/
theorem query_ok {α : Type} {conn : Conn} {kind : StatementKind} {ctx : String}
    {body : Instant → Tables → Except DbError (α × Tables)} {s s' : Store} {a : α}
    (h : (query conn kind ctx body).runOn s = (.ok a, s')) :
    ∃ now t, body now (s.view conn) = .ok (a, t) ∧ s'.SameRows (s.put conn t) := by
  rcases query_cases h with ⟨e, he, -⟩ | ⟨now, a', t, hb, he, hs⟩
  · cases he
  · cases he
    exact ⟨now, t, hb, hs⟩

/-- A read that succeeded gave what it reads from the tables its connection sees. -/
theorem query_read_ok {α : Type} {conn : Conn} {kind : StatementKind} {ctx : String}
    {g : Tables → α} {s s' : Store} {a : α}
    (h : (query conn kind ctx fun _ t => .ok (g t, t)).runOn s = (.ok a, s')) :
    a = g (s.view conn) ∧ s'.SameRows s := by
  obtain ⟨hs, ⟨e, he⟩ | he⟩ := query_read_cases h
  · cases he
  · cases he
    exact ⟨rfl, hs⟩

theorem Keeps.query_read {α : Type} (conn : Conn) (kind : StatementKind) (ctx : String)
    (g : Tables → α) : Keeps Store.SameRows (query conn kind ctx fun _ t => .ok (g t, t)) := by
  intro s
  exact (query_read_cases (Prod.ext rfl rfl)).1.symm

theorem Keeps.query_txn {α : Type} (kind : StatementKind) (ctx : String)
    (body : Instant → Tables → Except DbError (α × Tables)) :
    Keeps Store.InTxn (query .txn kind ctx body) := by
  intro s
  rcases h : (query .txn kind ctx body).runOn s with ⟨r, s'⟩
  rcases query_cases h with ⟨e, -, hs⟩ | ⟨now, a, t, hb, -, hs⟩
  · exact hs.symm.inTxn
  · exact trans_of Store.InTxn (Store.put_txn_inTxn t s) hs.symm.inTxn

theorem insert_cases {α : Type} {conn : Conn} {t : Table} {ctx : String}
    {body : Uuid → Instant → Tables → Except DbError (α × Tables)} {s s' : Store}
    {r : Except InvoiceError α} (h : (StoreOp.insert conn t ctx body).runOn s = (r, s')) :
    (∃ e, r = .error e ∧ s'.SameRows s) ∨
    (∃ now a x, body (t.serial (s.serials.get t + 1)) now (s.view conn) = .ok (a, x) ∧ r = .ok a ∧
      s'.SameRows ((s.put conn x).count t)) := by
  unfold StoreOp.insert at h
  rw [runOn_bind, runOn_lift] at h
  rcases hx : (Store.insert conn t body).run s with ⟨r₁, s₁⟩
  rcases Store.insert_cases hx with ⟨e, rfl, hs₁⟩ | ⟨now, a, x, hb, rfl, hs₁⟩
  · simp only [hx] at h
    cases h
    exact .inl ⟨_, rfl, hs₁⟩
  · simp only [hx] at h
    cases h
    exact .inr ⟨now, a, x, hb, rfl, hs₁⟩

/-- An insert that succeeded gave what its body gave for the table's next identity. -/
theorem insert_ok {α : Type} {conn : Conn} {t : Table} {ctx : String}
    {body : Uuid → Instant → Tables → Except DbError (α × Tables)} {s s' : Store} {a : α}
    (h : (StoreOp.insert conn t ctx body).runOn s = (.ok a, s')) :
    ∃ now x, body (t.serial (s.serials.get t + 1)) now (s.view conn) = .ok (a, x) ∧
      s'.SameRows ((s.put conn x).count t) := by
  rcases insert_cases h with ⟨e, he, -⟩ | ⟨now, a', x, hb, he, hs⟩
  · cases he
  · cases he
    exact ⟨now, x, hb, hs⟩

theorem Keeps.insert_txn {α : Type} (t : Table) (ctx : String)
    (body : Uuid → Instant → Tables → Except DbError (α × Tables)) :
    Keeps Store.InTxn (StoreOp.insert .txn t ctx body) := by
  intro s
  rcases h : (StoreOp.insert .txn t ctx body).runOn s with ⟨r, s'⟩
  rcases insert_cases h with ⟨e, -, hs⟩ | ⟨now, a, x, hb, -, hs⟩
  · exact hs.symm.inTxn
  · refine trans_of Store.InTxn (Store.put_txn_inTxn x s) (trans_of Store.InTxn ?_ hs.symm.inTxn)
    exact ⟨fun hp => ⟨rfl, hp⟩, Serials.le_bump _ t⟩

/-- A transaction opened with none open either fails, leaving the published tables as they
were, or publishes the tables its body left after succeeding from a fresh copy. Either way no
transaction stays open, and identities are only handed out forward. -/
theorem transaction_cases {α : Type} {ctx : String} {body : StoreOp α}
    (hb : Keeps Store.InTxn body) {s s' : Store} {r : Except InvoiceError α}
    (hp : s.pending = none) (h : (transaction ctx body).runOn s = (r, s')) :
    s'.pending = none ∧ s.serials ≤ s'.serials ∧
      ((∃ e, r = .error e ∧ s'.committed = s.committed) ∨
        ∃ a s₁ s₂ p, s₁.committed = s.committed ∧ s₁.pending = some ⟨s.committed, s.clock + 1⟩ ∧
          s₁.serials = s.serials ∧ body.runOn s₁ = (.ok a, s₂) ∧ s₂.pending = some p ∧
          r = .ok a ∧ s'.committed = p.tables ∧ s'.serials = s₂.serials) := by
  unfold transaction at h
  rw [runOn_bind] at h
  rcases hbegin : begin.runOn s with ⟨r₀, s₁⟩
  rcases begin_cases hbegin with ⟨e, rfl, hs₁⟩ | ⟨rfl, hc₁, hp₁, hse₁⟩
  · -- the transaction could not be opened
    simp only [hbegin] at h
    cases h
    exact ⟨hs₁.pending.trans hp, le_of_eq hs₁.serials.symm, .inl ⟨e, rfl, hs₁.committed⟩⟩
  simp only [hbegin] at h
  rw [runOn_bind, runOn_tryCatch] at h
  rcases hrun : body.runOn s₁ with ⟨r₂, s₂⟩
  -- the body keeps the published tables and the transaction open
  have hkeep : Store.InTxn s₁ s₂ := by simpa [hrun] using hb s₁
  obtain ⟨hc₂, hp₂⟩ := hkeep.1 (by simp [hp₁])
  obtain ⟨p, hp₂⟩ := Option.isSome_iff_exists.mp hp₂
  have hse₂ : s.serials ≤ s₂.serials := hse₁ ▸ hkeep.2
  cases r₂ with
  | error e =>
    -- the body failed: the transaction is dropped
    simp only [hrun, runOn_bind, runOn_rollback, runOn_throw] at h
    cases h
    exact ⟨rfl, hse₂, .inl ⟨e, rfl, hc₂.trans hc₁⟩⟩
  | ok a =>
    simp only [hrun] at h
    rw [runOn_bind] at h
    rcases hcommit : (commit ctx).runOn s₂ with ⟨r₃, s₃⟩
    obtain ⟨hp₃, hse₃, ⟨rfl, hc₃⟩ | ⟨e, rfl, hc₃⟩⟩ := commit_cases hcommit
    · -- the commit publishes the transaction's tables
      simp only [hcommit, runOn_pure] at h
      cases h
      refine ⟨hp₃, hse₃ ▸ hse₂, .inr ⟨a, s₁, s₂, p, hc₁, ?_, hse₁, hrun, hp₂, rfl, ?_, hse₃⟩⟩
      · rw [hp₁]
      · simp [hc₃, hp₂]
    · -- the commit failed: the transaction is discarded
      simp only [hcommit] at h
      cases h
      exact ⟨hp₃, hse₃ ▸ hse₂, .inl ⟨e, rfl, hc₃.trans (hc₂.trans hc₁)⟩⟩

/-- An operation that keeps the rows, then `f`: a run either changed no row or is, from a store
with the same rows, a run of `f`. -/
theorem bind_sameRows_cases {α β : Type} {x : StoreOp α} {f : α → StoreOp β}
    (hx : Keeps Store.SameRows x) {s s' : Store} {r : Except InvoiceError β}
    (h : (x >>= f).runOn s = (r, s')) :
    s'.SameRows s ∨ ∃ a s₁, s₁.SameRows s ∧ (f a).runOn s₁ = (r, s') := by
  rw [runOn_bind] at h
  rcases hx' : x.runOn s with ⟨_ | a, s₁⟩
  · rw [hx'] at h
    cases h
    exact .inl (Keeps.run hx hx').symm
  · rw [hx'] at h
    exact .inr ⟨a, s₁, (Keeps.run hx hx').symm, h⟩

/-- A failure of `op`, run with no transaction open, leaves the published tables as they were and
no transaction open, and hands identities out only forward. -/
def Clean {α : Type} (op : StoreOp α) : Prop :=
  ∀ s e s', s.pending = none → op.runOn s = (.error e, s') →
    s'.committed = s.committed ∧ s'.pending = none ∧ s.serials ≤ s'.serials

namespace Clean

variable {α β : Type}

theorem of_sameRows {op : StoreOp α} (h : Keeps Store.SameRows op) : Clean op := by
  intro s e s' hp hrun
  have hs := h s
  rw [hrun] at hs
  exact ⟨hs.committed.symm, hs.pending.symm.trans hp, le_of_eq hs.serials⟩

/-- Reads first, then an operation whose failures are clean. -/
theorem bind {x : StoreOp α} {f : α → StoreOp β} (hx : Keeps Store.SameRows x)
    (hf : ∀ a, Clean (f a)) : Clean (x >>= f) := by
  intro s e s' hp hrun
  rcases bind_eq_error.mp hrun with hx' | ⟨a, s₁, hx', hf'⟩
  · exact of_sameRows hx s e s' hp hx'
  · have hs₁ := hx s
    rw [hx'] at hs₁
    obtain ⟨hc, hp', hse⟩ := hf a s₁ e s' (hs₁.pending.symm.trans hp) hf'
    exact ⟨hc.trans hs₁.committed.symm, hp', hse.trans' (le_of_eq hs₁.serials)⟩

theorem transaction {ctx : String} {body : StoreOp α} (hb : Keeps Store.InTxn body) :
    Clean (transaction ctx body) := by
  intro s e s' hp hrun
  obtain ⟨hp', hse, ⟨e', -, hc⟩ | ⟨_, _, _, _, _, _, _, _, _, hr, _⟩⟩ := transaction_cases hb hp hrun
  · exact ⟨hc, hp', hse⟩
  · cases hr

end Clean

end StoreOp
end Invoicing
