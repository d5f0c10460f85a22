import Invoicing.Proofs.Creation

/-!
# The statistics of an account

The statistics of an account (`getStats`) are one read of the invoices table: the number of the
account's invoices, the number of each status, and the sums of the totals of its paid, sent and
overdue invoices, zero when there are none (`Invoices.statsOf`). A listing of invoices counts the
same rows: its total is the number of the account's invoices of the status its filter names, or
of all of them.

The counts agree with the listings' totals, and they add up, since every stored status names one
of the five. The sums are exact in every reachable store, although each addition of decimals may
fail and is then skipped: every total is stored in its column, with at most sixteen digits and
two places (`Invoice.TotalFits`), and an account holds no more invoices than it has counted
(`Tables.Tallied`), which is at most its allowance of five, so no partial sum comes near the 96
bits of a decimal.

What is proved here:
* `Change.keeps_rows`: every change keeps a property of invoice rows that depends only on their
  figures and holds of every header a write checks against the columns.
* `Reachable.tallied`, `Reachable.totalsFit`: the two invariants, over every reachable store.
* `Invoices.sumOf_val`: the sum of at most five stored totals is exact.
* `stats_agree_with_listing`: the statistics against the listings and the exact sums.
-/

namespace Invoicing

open StoreOp Service

/-! ## Every account has counted its invoices -/

/-- Every account holds no more invoices than it has counted this month. -/
def Tables.Tallied (t : Tables) : Prop :=
  ∀ a ∈ t.accounts, ((Invoices.matching a.id none t).length : Int) ≤ a.monthlyInvoiceCount

theorem Invoices.matching_none (account : Uuid) (t : Tables) :
    Invoices.matching account none t = t.invoices.filter (·.accountId == account) := by
  simp [Invoices.matching]

/-- Rows rewritten in place, with their identities kept apart, are no more per account than
before: each comes from a row of the same identity and account. -/
theorem Invoices.matching_length_le {t t' : Tables} (hids : (t'.invoices.map (·.id)).Nodup)
    (hi : t.InvoicesFrom t') (account : Uuid) :
    (Invoices.matching account none t').length ≤ (Invoices.matching account none t).length := by
  have hnd : ((Invoices.matching account none t').map (·.id)).Nodup :=
    List.Nodup.sublist (List.filter_sublist.map _) hids
  have hsub : (Invoices.matching account none t').map (·.id) ⊆
      (Invoices.matching account none t).map (·.id) := by
    intro u hu
    obtain ⟨y, hy, rfl⟩ := List.mem_map.mp hu
    rw [Invoices.matching_none, List.mem_filter] at hy
    obtain ⟨x, hx, hid, hacc, -⟩ := hi y hy.1
    refine List.mem_map.mpr ⟨x, ?_, hid⟩
    rw [Invoices.matching_none, List.mem_filter, hacc]
    exact ⟨hx, hy.2⟩
  simpa using (List.subperm_of_subset hnd hsub).length_le

namespace Tables.Tallied

variable {t t' : Tables}

theorem of_invoicesFrom (h : t.Tallied) (hids : (t'.invoices.map (·.id)).Nodup)
    (ha : t'.accounts = t.accounts) (hi : t.InvoicesFrom t') : t'.Tallied := by
  intro a ha'
  have hle := Invoices.matching_length_le hids hi a.id
  have := h a (ha ▸ ha')
  omega

/-- Opening an account under an identity no account has yet, with nothing counted. -/
theorem openAccount {n : Serials} (h : t.Tallied) (hc : t.Counted n) {row : Account}
    (hid : row.id = Table.serial .accounts (n.accounts + 1)) (hcount : row.monthlyInvoiceCount = 0)
    (ha : t'.accounts = t.accounts ++ [row]) (hi : t'.invoices = t.invoices) : t'.Tallied := by
  intro a ha'
  have hm : Invoices.matching a.id none t' = Invoices.matching a.id none t := by
    simp [Invoices.matching, hi]
  rw [ha, List.mem_append, List.mem_singleton] at ha'
  rcases ha' with ha' | rfl
  · rw [hm]
    exact h a ha'
  · -- every invoice belongs to an account already there, whose identity was handed out before
    have hnone : Invoices.matching a.id none t = [] := by
      rw [Invoices.matching_none, List.filter_eq_nil_iff]
      intro i hi' hacc
      obtain ⟨x, hx, hxid, -⟩ := hc.numbered i hi'
      obtain ⟨k, hk, hxk⟩ := hc.issued x hx
      have := Table.serial_injective _
        (hxk.symm.trans (hxid.trans ((beq_iff_eq.mp hacc).trans hid)))
      omega
    rw [hm, hnone, hcount]
    rfl

/-- A draft of `account` is counted on every account row of that identity. -/
theorem draft (h : t.Tallied) {account : Uuid} {now : Instant} {inv : Invoice}
    (hacc : inv.accountId = account) (hi : t'.invoices = t.invoices ++ [inv])
    (ha : t'.accounts = t.accounts.map (Accounts.countInvoice account now)) : t'.Tallied := by
  intro a ha'
  rw [ha] at ha'
  obtain ⟨x, hx, rfl⟩ := List.mem_map.mp ha'
  have hle := h x hx
  have hm : Invoices.matching x.id none t' =
      Invoices.matching x.id none t ++ [inv].filter (·.accountId == x.id) := by
    rw [Invoices.matching_none, Invoices.matching_none, hi, List.filter_append]
  rw [Accounts.countInvoice_id, hm, List.length_append]
  by_cases hxid : x.id = account
  · subst hxid
    rw [(Accounts.countInvoice_of_eq now rfl).2]
    simp [hacc]
    omega
  · rw [Accounts.countInvoice_of_ne hxid]
    simp [hacc, Ne.symm hxid, hle]

end Tables.Tallied

/-- Every change a call can make keeps the accounts' counts at least their invoices. -/
theorem Change.tallied {c c' : Tables} {n n' : Serials} (h : Change c n c' n') (hl : c.Linked n)
    (hc : c.Counted n) (hn : n ≤ n') (ht : c.Tallied) : c'.Tallied := by
  have hids := (h.linked hl hn).ids
  cases h with
  | keep => exact ht
  | openAccount input a now t _ opened =>
    obtain ⟨rfl, hid, -, -, hcount, -⟩ := Accounts.insertRow_row opened
    exact ht.openAccount hc hid hcount rfl rfl
  | clients cs => exact ht
  | draft account r inv t _ drafted =>
    obtain ⟨acc, now, -, hacc, -, -, hi, ha⟩ := drafted.appended
    exact ht.draft hacc hi ha
  | revise account invoice r t _ _ revised =>
    obtain ⟨ha, hi⟩ := revised.invoicesFrom
    exact ht.of_invoicesFrom hids ha hi
  | move account invoice r now t _ moved =>
    obtain ⟨ha, hi⟩ := moved.invoicesFrom
    exact ht.of_invoicesFrom hids ha hi
  | remove account invoice t _ removed =>
    obtain ⟨ha, hi⟩ := removed.invoicesFrom
    exact ht.of_invoicesFrom hids ha hi
  | stamp account invoice now => exact ht.of_invoicesFrom hids rfl (c.invoicesFrom_stamp _ _ _)

/-- In every reachable store, every account holds no more invoices than it has counted. -/
theorem Reachable.tallied {s : Store} (h : Reachable s) : s.committed.Tallied := by
  induction h with
  | empty => simp [Tables.Tallied]
  | step a hs ih =>
    have hc := a.changed hs.closed
    exact hc.change.tallied hs.linked hs.counted hc.counted ih

/-- In every reachable store, an account holds at most five invoices: those it has counted, at
most its allowance, or none when there is no such account. -/
theorem Reachable.matching_length_le {s : Store} (h : Reachable s) (account : Uuid) :
    (Invoices.matching account none s.committed).length ≤ 5 := by
  by_cases hex : ∃ a ∈ s.committed.accounts, a.id = account
  · obtain ⟨a, ha, rfl⟩ := hex
    have hcount := h.tallied a ha
    have hwithin := h.withinPlan.within a ha
    have hplan := (h.withinPlan.plan a ha).2
    omega
  · -- every invoice belongs to an account of the store
    have hnone : Invoices.matching account none s.committed = [] := by
      rw [Invoices.matching_none, List.filter_eq_nil_iff]
      intro i hi hacc
      obtain ⟨x, hx, hxid, -⟩ := h.counted.numbered i hi
      exact hex ⟨x, hx, hxid.trans (beq_iff_eq.mp hacc)⟩
    simp [hnone]

/-! ## Every total fits its column -/

/-- A number column keeps fewer digits than its precision. -/
theorem Column.numeric_mant_lt {p sc : ℕ} {d e : Decimal} (h : Column.numeric p sc d = .ok e) :
    e.mant < 10 ^ p := by
  unfold Column.numeric at h
  dsimp only at h
  split at h
  · cases h
  split at h
  · cases h
    simp [Decimal.zero]
  · cases h
    rw [Decimal.make_mant, ← Nat.pow_eq]
    omega

/-- The total of an invoice as its column keeps it: at most two places and sixteen digits. -/
def Invoice.TotalFits (i : Invoice) : Prop :=
  i.totalAmount.scale ≤ 2 ∧ i.totalAmount.mant < 10 ^ 16

/-- Every change keeps a property of the invoice rows that only their figures decide and that
every header written over the columns has: rewrites copy the figures or write a header, and a
deletion keeps some of the rows. -/
theorem Change.keeps_rows {Q : Invoice → Prop} (hfig : ∀ i j, j.figures = i.figures → Q i → Q j)
    (hhead : ∀ n i row, Invoices.HeaderOf n i row → Q row) {c c' : Tables} {n n' : Serials}
    (h : Change c n c' n') (hq : ∀ i ∈ c.invoices, Q i) : ∀ i ∈ c'.invoices, Q i := by
  cases h with
  | keep => exact hq
  | openAccount input a now t _ opened =>
    obtain ⟨rfl, -⟩ := Accounts.insertRow_row opened
    exact hq
  | clients cs => exact hq
  | draft account r inv t _ drafted =>
    obtain ⟨totals, acc, issue, due, currency, template, now, now', t, rows, -, -, -, -, -,
      written, -⟩ := drafted
    obtain ⟨rfl, -, hh, -, -⟩ := Invoices.insertRow_ok written
    intro i hi
    rcases List.mem_append.mp hi with hi | hi
    · exact hq i hi
    · rw [List.mem_singleton.mp hi]
      exact hhead _ _ _ hh
  | revise account invoice r t _ _ revised =>
    -- both kinds of revision write a header over the invoice's row
    have hrow : ∀ row, Q row → ∀ i ∈ c.invoices.map (fun x => if x.id == invoice then row else x),
        Q i := by
      intro row hrow i hi
      obtain ⟨x, hx, rfl⟩ := List.mem_map.mp hi
      split
      · exact hrow
      · exact hq x hx
    cases revised with
    | keep current row totals clientId issue due currency template now found _ _ _ header =>
      exact hrow row (hhead _ _ _ header)
    | replace current row totals clientId issue due currency template now items rows found _ _ _
        header _ =>
      exact hrow row (hhead _ _ _ header)
  | move account invoice r now t _ moved =>
    obtain ⟨current, st, target, change, stamp, -, found, -, -⟩ := moved
    have hcur := (Invoices.lookup_some found).1
    intro i hi
    obtain ⟨x, hx, rfl⟩ := List.mem_map.mp hi
    split
    · exact hfig current _ rfl (hq current hcur)
    · exact hq x hx
  | remove account invoice t _ removed =>
    obtain ⟨current, -, -⟩ := removed
    intro i hi
    exact hq i (List.mem_filter.mp hi).1
  | stamp account invoice now =>
    intro i hi
    obtain ⟨x, hx, rfl⟩ := List.mem_map.mp hi
    split
    · exact hfig x _ rfl (hq x hx)
    · exact hq x hx

/-- In every reachable store, every total fits its column. -/
theorem Reachable.totalsFit {s : Store} (h : Reachable s) :
    ∀ i ∈ s.committed.invoices, i.TotalFits := by
  have hfig : ∀ i j : Invoice, j.figures = i.figures → i.TotalFits → j.TotalFits := by
    intro i j he hi
    simp only [Invoice.figures, Prod.mk.injEq] at he
    rw [Invoice.TotalFits, he.2.2.2.2]
    exact hi
  have hhead : ∀ n i row, Invoices.HeaderOf n i row → row.TotalFits := fun _ _ _ hh =>
    ⟨(Column.numeric_val hh.totalAmount).2, Column.numeric_mant_lt hh.totalAmount⟩
  exact h.tables_induction (P := fun c _ => ∀ i ∈ c.invoices, i.TotalFits) (by simp)
    fun _ _ _ _ hq _ hch => hch.keeps_rows hfig hhead hq

/-! ## Exact sums -/

theorem Column.readBack_val (d : Decimal) : (Column.readBack d).val = d.val := by
  unfold Column.readBack
  split
  · rename_i hz
    rw [Decimal.val_zero, Decimal.val_eq_zero hz]
  · rfl

/-- A total that fits its column is less than `10 ^ 16` in size. -/
theorem Invoice.TotalFits.abs_lt {i : Invoice} (h : i.TotalFits) :
    |i.totalAmount.val| < 10 ^ 16 := by
  have hp : (1 : ℚ) ≤ 10 ^ i.totalAmount.scale := one_le_pow₀ (by norm_num)
  have hm : (i.totalAmount.mant : ℚ) < 10 ^ 16 := by exact_mod_cast h.2
  calc |i.totalAmount.val| = (i.totalAmount.mant : ℚ) / 10 ^ i.totalAmount.scale :=
        Decimal.abs_val _
    _ ≤ i.totalAmount.mant := div_le_self (by positivity) hp
    _ < 10 ^ 16 := hm

/-- Adding totals that fit their column to a running sum at no more than two places, five
numbers in all, never fails: each sum is exact and keeps at most two places. -/
theorem Invoices.foldl_total (rows : List Invoice) (hfit : ∀ i ∈ rows, i.TotalFits)
    (acc : Decimal) (k : ℕ) (hscale : acc.scale ≤ 2) (hacc : |acc.val| ≤ k * 10 ^ 16)
    (hk : k + rows.length ≤ 5) :
    (rows.foldl (fun acc i => (Decimal.add acc i.totalAmount).getD acc) acc).val =
        acc.val + (rows.map (·.totalAmount.val)).sum ∧
      (rows.foldl (fun acc i => (Decimal.add acc i.totalAmount).getD acc) acc).scale ≤ 2 := by
  induction rows generalizing acc k with
  | nil => simpa using hscale
  | cons i rows ih =>
    have hi := hfit i (List.mem_cons_self ..)
    have hlt := hi.abs_lt
    have hk' : k + 1 + rows.length ≤ 5 := by
      simp only [List.length_cons] at hk
      omega
    have hsum : |acc.val + i.totalAmount.val| ≤ ((k + 1 : ℕ) : ℚ) * 10 ^ 16 := by
      calc |acc.val + i.totalAmount.val| ≤ |acc.val| + |i.totalAmount.val| := abs_add_le _ _
        _ ≤ k * 10 ^ 16 + 10 ^ 16 := by linarith
        _ = ((k + 1 : ℕ) : ℚ) * 10 ^ 16 := by push_cast; ring
    -- five totals at two places stay far below 96 bits
    have hmax : max acc.scale i.totalAmount.scale ≤ 2 := max_le hscale hi.1
    have hfits : |acc.val + i.totalAmount.val| * 10 ^ max acc.scale i.totalAmount.scale <
        Decimal.mantLimit := by
      have hk5 : ((k + 1 : ℕ) : ℚ) ≤ 5 := by exact_mod_cast (by omega : k + 1 ≤ 5)
      have hpow : (10 : ℚ) ^ max acc.scale i.totalAmount.scale ≤ 10 ^ 2 :=
        pow_le_pow_right₀ (by norm_num) hmax
      calc |acc.val + i.totalAmount.val| * 10 ^ max acc.scale i.totalAmount.scale
          ≤ (5 * 10 ^ 16) * 10 ^ 2 := by
            refine mul_le_mul (hsum.trans ?_) hpow (by positivity) (by positivity)
            nlinarith
        _ < Decimal.mantLimit := by norm_num [Decimal.mantLimit, Nat.pow_eq]
    obtain ⟨c, hc, hcv, hcs⟩ :=
      Decimal.add_some (hmax.trans (by simp [Decimal.maxScale])) hfits
    obtain ⟨hv, hs⟩ := ih (fun j hj => hfit j (List.mem_cons_of_mem _ hj)) c (k + 1)
      (hcs.trans hmax) (hcv ▸ hsum) hk'
    rw [List.foldl_cons, hc, Option.getD_some]
    refine ⟨?_, hs⟩
    rw [hv, hcv, List.map_cons, List.sum_cons]
    ring

/-- The sum of at most five totals that fit their column is their exact sum. -/
theorem Invoices.sumOf_val {rows : List Invoice} (hfit : ∀ i ∈ rows, i.TotalFits)
    (hlen : rows.length ≤ 5) :
    (Invoices.sumOf rows).val = (rows.map (·.totalAmount.val)).sum := by
  have hfold := Invoices.foldl_total rows hfit Decimal.zero 0 (by simp [Decimal.zero]) (by simp)
    (by omega)
  unfold Invoices.sumOf
  rw [Column.readBack_val, hfold.1, Decimal.val_zero, zero_add]

/-! ## The statistics against the listings -/

/-- The count of one status among the statistics. -/
def InvoiceStats.ofStatus (st : InvoiceStats) : InvoiceStatus → Int
  | .draft => st.draft
  | .sent => st.sent
  | .paid => st.paid
  | .overdue => st.overdue
  | .canceled => st.canceled

theorem Invoices.matching_of_status (account : Uuid) (status : InvoiceStatus) (t : Tables) :
    (Invoices.matching account none t).filter (·.status == status.name) =
      Invoices.matching account (some status) t := by
  simp [Invoices.matching, List.filter_filter, Bool.and_comm]

theorem Invoices.statsOf_ofStatus (account : Uuid) (t : Tables) (status : InvoiceStatus) :
    (Invoices.statsOf account t).ofStatus status =
      (Invoices.matching account (some status) t).length := by
  cases status <;> simp [Invoices.statsOf, InvoiceStats.ofStatus, Invoices.matching_of_status]

/-- Rows whose statuses each name one of the five are each counted under exactly one. -/
theorem Invoices.length_eq_statuses {rows : List Invoice}
    (hv : ∀ i ∈ rows, ∃ st : InvoiceStatus, i.status = st.name) :
    rows.length = (rows.filter (·.status == InvoiceStatus.draft.name)).length +
      (rows.filter (·.status == InvoiceStatus.sent.name)).length +
      (rows.filter (·.status == InvoiceStatus.paid.name)).length +
      (rows.filter (·.status == InvoiceStatus.overdue.name)).length +
      (rows.filter (·.status == InvoiceStatus.canceled.name)).length := by
  induction rows with
  | nil => rfl
  | cons i rows ih =>
    obtain ⟨st, hst⟩ := hv i (List.mem_cons_self ..)
    have hrest := ih fun j hj => hv j (List.mem_cons_of_mem _ hj)
    simp only [InvoiceStatus.name] at hrest ⊢
    cases st <;> simp [hst, InvoiceStatus.name] <;> omega

namespace Service

variable {account : Uuid} {s s' : Store}

/-- Statistics that were read are those of the published rows. -/
theorem getStats_ok {st : InvoiceStats} (h : (getStats account).runOn s = (.ok st, s')) :
    st = Invoices.statsOf account s.committed := by
  unfold getStats Invoices.stats at h
  exact (query_read_ok h).1

theorem getStats_healthy (hs : s.Healthy) :
    (getStats account).runOn s =
      (.ok (Invoices.statsOf account s.committed), { s with clock := s.clock + 1 }) := by
  unfold getStats Invoices.stats
  exact query_read_healthy hs.1 hs.2

/-- A listing that answered counts the account's invoices of the status its filter names, or
all of them. -/
theorem listInvoices_total (status : Option InvoiceStatus) {q : ListQuery} {p : Page Invoice}
    (hstatus : (q.status.map trimBlanks).filter (!·.isEmpty) = status.map InvoiceStatus.name)
    (h : (listInvoices account q).runOn s = (.ok p, s')) :
    p.total = (Invoices.matching account status s.committed).length := by
  unfold listInvoices at h
  simp only [hstatus] at h
  -- the filter is read as `status` before any statement, and the count is the total
  cases status
  all_goals
    simp only [Option.map_none, Option.map_some, InvoiceStatus.parse?_name] at h
    obtain ⟨st', s₁, hst, h₁⟩ := bind_eq_ok.mp h
    simp only [runOn_pure, Prod.mk.injEq, Except.ok.injEq] at hst
    obtain ⟨rfl, rfl⟩ := hst
    obtain ⟨total, s₂, htotal, h₂⟩ := bind_eq_ok.mp h₁
    obtain ⟨rows, s₃, -, h₃⟩ := bind_eq_ok.mp h₂
    simp only [runOn_pure, Prod.mk.injEq, Except.ok.injEq] at h₃
    rw [← h₃.1]
    unfold Invoices.count at htotal
    exact (query_read_ok htotal).1

end Service

/-- What the statistics `st` of `account`, read from the store `s`, say against the listings of
the same store: the total is the sum of the five counts; a listing with no filter, or a blank
one, totals the total, and one filtered by a status totals that status's count; the three
revenues are the exact sums of the totals of the paid, sent and overdue invoices, so zero when
there are none. -/
structure StatsListed (s : Store) (account : Uuid) (st : InvoiceStats) : Prop where
  total : st.total = st.draft + st.sent + st.paid + st.overdue + st.canceled
  listedAll : ∀ q p s', (q.status.map trimBlanks).filter (!·.isEmpty) = none →
    (listInvoices account q).runOn s = (.ok p, s') → p.total = st.total
  listedStatus : ∀ status q p s',
    (q.status.map trimBlanks).filter (!·.isEmpty) = some status.name →
    (listInvoices account q).runOn s = (.ok p, s') → p.total = st.ofStatus status
  revenue : st.revenue.val =
    ((Invoices.matching account (some .paid) s.committed).map (·.totalAmount.val)).sum
  pending : st.pending.val =
    ((Invoices.matching account (some .sent) s.committed).map (·.totalAmount.val)).sum
  overdueRevenue : st.overdueRevenue.val =
    ((Invoices.matching account (some .overdue) s.committed).map (·.totalAmount.val)).sum

/-- The statistics of the published rows of a reachable store agree with its listings and sum
exactly. -/
theorem Invoices.statsOf_listed {s : Store} (hs : Reachable s) (account : Uuid) :
    StatsListed s account (Invoices.statsOf account s.committed) := by
  -- the rows of one status are at most the account's five, each total fitting its column
  have hsum : ∀ status, (Invoices.sumOf ((Invoices.matching account none s.committed).filter
      (·.status == InvoiceStatus.name status))).val =
      ((Invoices.matching account (some status) s.committed).map (·.totalAmount.val)).sum := by
    intro status
    rw [Invoices.matching_of_status]
    refine Invoices.sumOf_val (fun i hi => hs.totalsFit i (List.mem_filter.mp hi).1) ?_
    rw [← Invoices.matching_of_status]
    exact (List.length_filter_le _ _).trans (hs.matching_length_le account)
  have hvalid : ∀ i ∈ Invoices.matching account none s.committed,
      ∃ st : InvoiceStatus, i.status = st.name := fun i hi =>
    let ⟨st, hst, _⟩ := hs.statusValid i (List.mem_filter.mp hi).1
    ⟨st, hst⟩
  refine ⟨?_, fun q p s' hq h => ?_, fun status q p s' hq h => ?_, hsum .paid, hsum .sent,
    hsum .overdue⟩
  · simp only [Invoices.statsOf]
    rw [Invoices.length_eq_statuses hvalid]
    push_cast
    rfl
  · rw [listInvoices_total none hq h]
    rfl
  · rw [listInvoices_total (some status) hq h, Invoices.statsOf_ofStatus]

/-- From every reachable store, the statistics of every account are read when the store fails
no statement, and whenever they are read they agree with the listings and sum exactly. -/
theorem stats_agree_with_listing {s : Store} (hs : Reachable s) (account : Uuid) :
    (s.Healthy → ∃ st s', (getStats account).runOn s = (.ok st, s')) ∧
      ∀ st s', (getStats account).runOn s = (.ok st, s') → StatsListed s account st := by
  refine ⟨fun hh => ⟨_, _, getStats_healthy hh⟩, fun st s' h => ?_⟩
  rw [getStats_ok h]
  exact Invoices.statsOf_listed hs account

theorem paidSession_stats_listed :
    Reachable (Action.runAll paidSession {}) ∧
      (((Action.runAll paidSession {}).Healthy →
        ∃ st s', (getStats owner).runOn (Action.runAll paidSession {}) = (.ok st, s')) ∧
      ∀ st s', (getStats owner).runOn (Action.runAll paidSession {}) = (.ok st, s') →
        StatsListed (Action.runAll paidSession {}) owner st) :=
  ⟨Reachable.empty.runAll _, stats_agree_with_listing (Reachable.empty.runAll _) owner⟩

end Invoicing
