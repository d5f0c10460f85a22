import Invoicing.Proofs.Writes

/-!
# The monthly allowance

An account is opened on the free tier with an allowance of five invoices a month, and no call
changes the plan of an account. A creation checks the allowance twice, on the account as read
before its transaction and on the account row it locks inside it, and counts the invoice on the
account when it commits. So:

* every account of a reachable store is on the free plan and has counted no more invoices than
  its allowance (`Reachable.withinPlan`);
* a creation or a duplication that returns found its account below the allowance;
* at the allowance both fail and publish nothing, and a creation whose request passes its own
  checks fails with `quotaExceeded` of the limit (`createInvoice_quotaExceeded`);
* a session gives an account no more new numbers than its allowance has left
  (`Action.numbersIn_le_allowance`).

What is proved here:
* `monthly_quota_enforced`: all of the above, over every reachable store.
-/

namespace Invoicing

open StoreOp Service

namespace Accounts

variable {id : Uuid} {now : Instant} {a : Account}

@[simp] theorem countInvoice_tier : (countInvoice id now a).tier = a.tier := by
  unfold countInvoice; split <;> rfl

@[simp] theorem countInvoice_limit :
    (countInvoice id now a).monthlyInvoiceLimit = a.monthlyInvoiceLimit := by
  unfold countInvoice; split <;> rfl

end Accounts

namespace Account

variable {a : Account}

/-- A free account passes the quota exactly while it has allowance left. -/
theorem checkQuota_ok_of_free (hfree : a.tier = freeTier) :
    a.checkQuota = .ok () ↔ a.monthlyInvoiceCount < a.monthlyInvoiceLimit := by
  rw [checkQuota_eq_ok_iff]
  simp [hfree]

theorem checkQuota_of_used (hfree : a.tier = freeTier)
    (hused : a.monthlyInvoiceLimit ≤ a.monthlyInvoiceCount) :
    a.checkQuota = .error (.quotaExceeded a.monthlyInvoiceLimit) := by
  simp [checkQuota, isFreeTier, hfree, hused]

end Account

/-- Every account is on the plan an account is opened with, the free tier with five invoices a
month, and has counted no more invoices than the plan allows. -/
structure Tables.WithinPlan (t : Tables) : Prop where
  plan : ∀ a ∈ t.accounts, a.tier = freeTier ∧ a.monthlyInvoiceLimit = 5
  within : ∀ a ∈ t.accounts, a.monthlyInvoiceCount ≤ a.monthlyInvoiceLimit

namespace Tables.WithinPlan

variable {t t' : Tables}

theorem empty : Tables.WithinPlan {} := ⟨by simp, by simp⟩

theorem of_accounts (h : t.WithinPlan) (ha : t'.accounts = t.accounts) : t'.WithinPlan :=
  ⟨ha ▸ h.plan, ha ▸ h.within⟩

/-- Opening an account on the free plan, with nothing counted yet. -/
theorem openAccount (h : t.WithinPlan) {row : Account}
    (hplan : row.tier = freeTier ∧ row.monthlyInvoiceLimit = 5) (hcount : row.monthlyInvoiceCount = 0)
    (ha : t'.accounts = t.accounts ++ [row]) : t'.WithinPlan := by
  refine ⟨fun a ha' => ?_, fun a ha' => ?_⟩
  · rw [ha, List.mem_append, List.mem_singleton] at ha'
    rcases ha' with ha' | rfl
    · exact h.plan a ha'
    · exact hplan
  · rw [ha, List.mem_append, List.mem_singleton] at ha'
    rcases ha' with ha' | rfl
    · exact h.within a ha'
    · omega

/-- Counting an invoice on an account that the quota let through. -/
theorem draft (h : t.WithinPlan) (hids : (t.accounts.map (·.id)).Nodup) {account : Uuid}
    {now : Instant} {acc : Account} (found : Accounts.lookup account t = some acc)
    (quota : acc.checkQuota = .ok ())
    (ha : t'.accounts = t.accounts.map (Accounts.countInvoice account now)) : t'.WithinPlan := by
  refine ⟨fun a ha' => ?_, fun a ha' => ?_⟩
  · rw [ha] at ha'
    obtain ⟨x, hx, rfl⟩ := List.mem_map.mp ha'
    simpa using h.plan x hx
  · rw [ha] at ha'
    obtain ⟨x, hx, rfl⟩ := List.mem_map.mp ha'
    by_cases hxid : x.id = account
    · -- identities are unique, so the counted row is the one the quota let through
      obtain ⟨hmem, hid⟩ := Accounts.lookup_some found
      obtain rfl : x = acc := List.inj_on_of_nodup_map hids hx hmem (hxid.trans hid.symm)
      have hleft := (Account.checkQuota_ok_of_free (h.plan x hx).1).mp quota
      have hcount := (Accounts.countInvoice_of_eq now hxid).2
      rw [Accounts.countInvoice_limit]
      omega
    · rw [Accounts.countInvoice_of_ne hxid]
      exact h.within x hx

end Tables.WithinPlan

namespace Service

/-- A draft was let through by the quota on the account as published before it. -/
theorem Drafted.quota {account : Uuid} {c c' : Tables} {n : Serials} {r : InvoiceRequest} {inv : Invoice}
    (h : Drafted account r c n inv c') :
    ∃ acc, Accounts.lookup account c = some acc ∧ acc.checkQuota = .ok () := by
  obtain ⟨totals, acc, issue, due, currency, template, now, now', t, rows, -, -, -, found, quota,
    -, -⟩ := h
  exact ⟨acc, found, quota⟩

end Service

theorem varchar_freeTier : Column.varchar 30 freeTier = .ok freeTier := rfl

/-- Every write keeps the accounts within their plan: a new account takes the plan of a new
account, the other writes keep the accounts or count a draft the quota let through. -/
theorem Write.withinPlan {c c' : Tables} {n n' : Serials} {owner : Option Uuid}
    (h : Write c n owner c' n') (hc : c.WithinPlan) (hcounted : c.Counted n) : c'.WithinPlan := by
  cases h with
  | keep => exact hc
  | openAccount input a now t _ plan opened =>
    obtain ⟨rfl, -, -, -, hcount, htier, hlimit, -⟩ := Accounts.insertRow_row opened
    rw [plan.1, varchar_freeTier, Except.ok.injEq] at htier
    exact hc.openAccount ⟨htier.symm, hlimit.trans plan.2⟩ hcount rfl
  | addClient => exact hc.of_accounts rfl
  | replaceClient => exact hc.of_accounts rfl
  | deactivateClient => exact hc.of_accounts rfl
  | draft account r inv t _ drafted =>
    obtain ⟨acc, now, found, -, -, -, -, ha⟩ := drafted.appended
    obtain ⟨acc', found', quota⟩ := drafted.quota
    rw [found, Option.some.injEq] at found'
    subst found'
    exact hc.draft hcounted.ids found quota ha
  | revise account invoice r t _ revised => exact hc.of_accounts revised.invoicesFrom.1
  | move account invoice r now t _ moved => exact hc.of_accounts moved.invoicesFrom.1
  | remove account invoice t _ removed => exact hc.of_accounts removed.invoicesFrom.1
  | stamp => exact hc.of_accounts rfl

/-- The accounts of every reachable store are within their plan. -/
theorem Reachable.withinPlan {s : Store} (h : Reachable s) : s.committed.WithinPlan :=
  h.writes_induction .empty fun _ _ _ _ hs hc _ hw => hw.withinPlan hc hs.counted

namespace Service

variable {account invoice : Uuid} {s s' : Store}

/-- A creation that returns found its account, as published before it, let through by the
quota. -/
theorem createInvoice_quota {r : InvoiceRequest} {d : InvoiceDetails} (hp : s.pending = none)
    (h : (createInvoice account r).runOn s = (.ok d, s')) :
    ∃ acc, Accounts.lookup account s.committed = some acc ∧ acc.checkQuota = .ok () := by
  unfold createInvoice at h
  obtain ⟨inv, s₁, hstore, -⟩ := bind_eq_ok.mp h
  obtain ⟨-, -, hdrafted, -⟩ := storeInvoice_billed hp hstore
  exact hdrafted.quota

/-- A duplication that returns created its copy on a store with the same rows. -/
theorem duplicateInvoice_ok_creates {now : Instant} {d : InvoiceDetails}
    (h : (duplicateInvoice account invoice now).runOn s = (.ok d, s')) :
    ∃ r s₁, s₁.SameRows s ∧ (createInvoice account r).runOn s₁ = (.ok d, s') := by
  obtain ⟨r, s₁, -, -, hs, h₁⟩ := duplicateInvoice_ok_copies h
  exact ⟨r, s₁, hs, h₁⟩

/-- A duplication reads the source and its items, then creates the copy: it failed in a read,
or it is a creation run on a store with the same rows. -/
theorem duplicateInvoice_cases {now : Instant} {res : Except InvoiceError InvoiceDetails}
    (h : (duplicateInvoice account invoice now).runOn s = (res, s')) :
    s'.SameRows s ∨ ∃ r s₁, s₁.SameRows s ∧ (createInvoice account r).runOn s₁ = (res, s') := by
  unfold duplicateInvoice at h
  rcases bind_sameRows_cases (Keeps.query_read _ _ _ _) h with hs | ⟨found, s₁, hs₁, h₁⟩
  · exact .inl hs
  rcases bind_sameRows_cases (Keeps.orMissing _ _) h₁ with hs | ⟨source, s₂, hs₂, h₂⟩
  · exact .inl (hs.trans hs₁)
  rcases bind_sameRows_cases (Keeps.query_read _ _ _ _) h₂ with hs | ⟨items, s₃, hs₃, h₃⟩
  · exact .inl ((hs.trans hs₂).trans hs₁)
  exact .inr ⟨_, s₃, (hs₃.trans hs₂).trans hs₁, h₃⟩

section AtLimit

variable {acc : Account} (hp : s.pending = none)
  (hfound : Accounts.lookup account s.committed = some acc) (hfree : acc.tier = freeTier)
  (hused : acc.monthlyInvoiceLimit ≤ acc.monthlyInvoiceCount)
include hp hfound hfree hused

/-- At its allowance a free account gets no new invoice: a creation fails and publishes
nothing. -/
theorem createInvoice_at_limit {r : InvoiceRequest} {res : Except InvoiceError InvoiceDetails}
    (h : (createInvoice account r).runOn s = (res, s')) :
    (∃ e, res = .error e) ∧ s'.committed = s.committed := by
  unfold createInvoice at h
  rw [runOn_bind] at h
  rcases hx : (storeInvoice account r).runOn s with ⟨_ | inv, s₁⟩
  · -- the storing failed, and a failed storing publishes nothing
    rw [hx] at h
    cases h
    exact ⟨⟨_, rfl⟩, (Clean.storeInvoice _ _ _ _ _ hp hx).1⟩
  · -- a draft would have been let through by the quota on this very account
    obtain ⟨-, -, hdrafted, -⟩ := storeInvoice_billed hp hx
    obtain ⟨acc', found, quota⟩ := hdrafted.quota
    rw [hfound, Option.some.injEq] at found
    subst found
    have := (Account.checkQuota_ok_of_free hfree).mp quota
    omega

theorem duplicateInvoice_at_limit {now : Instant} {res : Except InvoiceError InvoiceDetails}
    (h : (duplicateInvoice account invoice now).runOn s = (res, s')) :
    (∃ e, res = .error e) ∧ s'.committed = s.committed := by
  rcases duplicateInvoice_cases h with hs | ⟨r, s₁, hs₁, h₁⟩
  · refine ⟨?_, hs.committed⟩
    cases res with
    | error e => exact ⟨e, rfl⟩
    | ok d =>
      obtain ⟨r, s₁, hs₁, h₁⟩ := duplicateInvoice_ok_creates h
      obtain ⟨⟨e, he⟩, -⟩ := createInvoice_at_limit (hs₁.pending.trans hp)
        (hs₁.committed ▸ hfound) hfree hused h₁
      cases he
  · obtain ⟨herr, hc⟩ := createInvoice_at_limit (hs₁.pending.trans hp) (hs₁.committed ▸ hfound)
      hfree hused h₁
    exact ⟨herr, hc.trans hs₁.committed⟩

end AtLimit

/-! The checks a creation makes before the quota, run forward on a store that is up and fails no
statement. -/

theorem validated_nil (s : Store) : (validated []).runOn s = (.ok (), s) := rfl

theorem validateItems_of_valid {items : List ItemRequest} (h : ∀ it ∈ items, it.violations = [])
    (s : Store) : (validateItems items).runOn s = (.ok (), s) := by
  induction items with
  | nil => rfl
  | cons it rest ih =>
    show (validated it.violations >>= fun _ => validateItems rest).runOn s = _
    rw [runOn_bind, h it (by simp), validated_nil]
    exact ih fun it' hit' => h it' (List.mem_cons_of_mem _ hit')

theorem query_read_healthy {α : Type} {kind : StatementKind} {ctx : String} {g : Tables → α}
    (hfault : s.fault = none) (hup : s.reachable = true) :
    (query .own kind ctx fun _ t => .ok (g t, t)).runOn s =
      (.ok (g s.committed), { s with clock := s.clock + 1 }) := by
  unfold query
  rw [runOn_bind, runOn_lift]
  have hx : (Store.exec .own kind fun _ t => .ok (g t, t)).run s =
      (.ok (g s.committed), { s with clock := s.clock + 1 }) := by
    simp [Store.exec, StateT.run, Store.tick, Store.txnOf, Store.letThrough, Store.view, Store.put,
      hfault, hup]
  rw [hx]
  rfl

/-- A creation whose request passes its checks, on a store that is up and fails no statement,
for a free account at its allowance, fails with `quotaExceeded` of the account's limit. -/
theorem createInvoice_quotaExceeded {r : InvoiceRequest} {acc : Account}
    (hfault : s.fault = none) (hup : s.reachable = true)
    (hvalid : r.violations = []) (hitems : ∀ it ∈ r.items, it.violations = [])
    (hfound : Accounts.lookup account s.committed = some acc) (hfree : acc.tier = freeTier)
    (hused : acc.monthlyInvoiceLimit ≤ acc.monthlyInvoiceCount) :
    ((createInvoice account r).runOn s).1 = .error (.quotaExceeded acc.monthlyInvoiceLimit) := by
  unfold createInvoice storeInvoice Accounts.find
  simp only [runOn_bind, hvalid, validated_nil, validateItems_of_valid hitems,
    query_read_healthy hfault hup, hfound, orMissing, runOn_pure, runOn_ofExcept,
    Account.checkQuota_of_used hfree hused]

end Service

/-- From a reachable store, a session moves an account's counter and count on by exactly as many
numbers as it gives the account's invoices. -/
theorem Action.counter_runAll {s : Store} (hs : Reachable s) (acts : List Action)
    {account : Uuid} {p : String} {k m : Int} (hc : s.committed.counter account = some (p, k, m)) :
    (Action.runAll acts s).committed.counter account =
      some (p, k + (Action.numbersIn account acts s).length,
        m + (Action.numbersIn account acts s).length) := by
  -- induction on the session from its start: each action is one step of the counter
  induction acts generalizing s k m with
  | nil => simpa [Action.runAll, Action.numbersIn] using hc
  | cons a rest ih =>
    have hrun : Action.runAll (a :: rest) s = Action.runAll rest (a.apply s) := rfl
    rcases a.numbering_step hs hc with ⟨hc', hnums⟩ | ⟨hc', hnums⟩
    · rw [hrun, ih (hs.step a) hc', Action.numbersIn, hnums, List.nil_append]
    · rw [hrun, ih (hs.step a) hc', Action.numbersIn, hnums, List.singleton_append,
        List.length_cons]
      push_cast
      ring_nf

/-- From a reachable store, a session gives an account no more new numbers, so commits no more
creations for it, than its allowance has left. -/
theorem Action.numbersIn_le_allowance {s : Store} (hs : Reachable s) (acts : List Action)
    {account : Uuid} {a : Account} (hfound : Accounts.lookup account s.committed = some a) :
    ((Action.numbersIn account acts s).length : Int) ≤
      a.monthlyInvoiceLimit - a.monthlyInvoiceCount := by
  have hc : s.committed.counter account =
      some (a.invoiceNumberPrefix, a.nextInvoiceNumber, a.monthlyInvoiceCount) := by
    simp [Tables.counter, hfound]
  have hafter := Action.counter_runAll hs acts hc
  simp only [Tables.counter, Option.map_eq_some_iff, Prod.mk.injEq] at hafter
  obtain ⟨a', hfound', -, -, hcount'⟩ := hafter
  -- the plan fixes the limit before and after the session, and the count stays within it
  have hplan := (hs.withinPlan.plan a (Accounts.lookup_some hfound).1).2
  have hmem' := (Accounts.lookup_some hfound').1
  have hwithin := (hs.runAll acts).withinPlan.within a' hmem'
  have hplan' := ((hs.runAll acts).withinPlan.plan a' hmem').2
  omega

/-- A session from the empty store gives an account at most five numbers. -/
theorem Action.numbersIn_le_five (account : Uuid) (acts : List Action) :
    (Action.numbersIn account acts {}).length ≤ 5 := by
  have hs := Reachable.empty.runAll acts
  obtain ⟨hnone, hsome⟩ := Action.numbersIn_run account acts
  cases hc : (Action.runAll acts {}).committed.counter account with
  | none => simp [hnone hc]
  | some c =>
    obtain ⟨p, k, m⟩ := c
    have hk := hs.counted.counter_spec hc
    simp only [Tables.counter, Option.map_eq_some_iff, Prod.mk.injEq] at hc
    obtain ⟨a, hfound, rfl, rfl, rfl⟩ := hc
    have hmem := (Accounts.lookup_some hfound).1
    have hwithin := hs.withinPlan.within a hmem
    have hplan := (hs.withinPlan.plan a hmem).2
    rw [hsome a.invoiceNumberPrefix a.nextInvoiceNumber a.monthlyInvoiceCount
        (by simp [Tables.counter, hfound]),
      List.length_map, List.length_range]
    omega

/-- The monthly allowance as it stands in a store `s`, for `account`. -/
structure QuotaEnforced (s : Store) (account : Uuid) : Prop where
  /-- Every account is on the free plan of five invoices a month and has counted at most five. -/
  plan : ∀ a ∈ s.committed.accounts, a.tier = freeTier ∧ a.monthlyInvoiceLimit = 5 ∧
    0 ≤ a.monthlyInvoiceCount ∧ a.monthlyInvoiceCount ≤ 5
  /-- A creation that returns found the account below its allowance. -/
  createBelow : ∀ r d s', (createInvoice account r).runOn s = (.ok d, s') →
    ∃ a, Accounts.lookup account s.committed = some a ∧
      a.monthlyInvoiceCount < a.monthlyInvoiceLimit
  /-- A duplication that returns found the account below its allowance. -/
  duplicateBelow : ∀ invoice now d s', (duplicateInvoice account invoice now).runOn s = (.ok d, s') →
    ∃ a, Accounts.lookup account s.committed = some a ∧
      a.monthlyInvoiceCount < a.monthlyInvoiceLimit
  /-- At its allowance the account gets no new invoice: creations and duplications fail and
  publish nothing; a creation whose request passes its checks, on a store that is up and fails no
  statement, fails with `quotaExceeded` of the limit. -/
  atLimit : ∀ a, Accounts.lookup account s.committed = some a →
    a.monthlyInvoiceLimit ≤ a.monthlyInvoiceCount →
    (∀ r, (∃ e, ((createInvoice account r).runOn s).1 = .error e) ∧
        ((createInvoice account r).runOn s).2.committed = s.committed ∧
        (s.fault = none → s.reachable = true → r.violations = [] →
          (∀ it ∈ r.items, it.violations = []) →
          ((createInvoice account r).runOn s).1 = .error (.quotaExceeded a.monthlyInvoiceLimit))) ∧
      ∀ invoice now, (∃ e, ((duplicateInvoice account invoice now).runOn s).1 = .error e) ∧
        ((duplicateInvoice account invoice now).runOn s).2.committed = s.committed
  /-- A session from `s` commits no more creations for the account than its allowance has left. -/
  sessionBound : ∀ a acts, Accounts.lookup account s.committed = some a →
    ((Action.numbersIn account acts s).length : Int) ≤
      a.monthlyInvoiceLimit - a.monthlyInvoiceCount
  /-- A session from the empty store commits at most five creations for the account. -/
  fromEmpty : ∀ acts, (Action.numbersIn account acts {}).length ≤ 5

/-- The monthly allowance holds in every reachable store, for every account. -/
theorem monthly_quota_enforced {s : Store} (hs : Reachable s) (account : Uuid) :
    QuotaEnforced s account := by
  have hplan := hs.withinPlan
  -- a creation that returns passed the quota on the published row, and that row is free
  have below : ∀ {r d s'}, (createInvoice account r).runOn s = (.ok d, s') →
      ∃ a, Accounts.lookup account s.committed = some a ∧
        a.monthlyInvoiceCount < a.monthlyInvoiceLimit := by
    intro r d s' h
    obtain ⟨a, hfound, hquota⟩ := createInvoice_quota hs.closed h
    have hfree := (hplan.plan a (Accounts.lookup_some hfound).1).1
    exact ⟨a, hfound, (Account.checkQuota_ok_of_free hfree).mp hquota⟩
  refine ⟨fun a ha => ?_, fun r d s' h => below h, fun invoice now d s' h => ?_,
    fun a hfound hused => ?_, fun a acts hfound => Action.numbersIn_le_allowance hs acts hfound,
    Action.numbersIn_le_five account⟩
  · have hcounters := hs.counted.counters a ha
    have := hplan.within a ha
    have := hplan.plan a ha
    exact ⟨this.1, this.2, by omega, by omega⟩
  · obtain ⟨r, s₁, hs₁, h₁⟩ := duplicateInvoice_ok_creates h
    obtain ⟨a, hfound, hlt⟩ := createInvoice_quota (hs₁.pending.trans hs.closed) h₁
    have hfree := (hplan.plan a (Accounts.lookup_some (hs₁.committed ▸ hfound)).1).1
    exact ⟨a, hs₁.committed ▸ hfound, (Account.checkQuota_ok_of_free hfree).mp hlt⟩
  · have hfree := (hplan.plan a (Accounts.lookup_some hfound).1).1
    refine ⟨fun r => ?_, fun invoice now => ?_⟩
    · obtain ⟨herr, hc⟩ := createInvoice_at_limit hs.closed hfound hfree hused (Prod.ext rfl rfl)
      exact ⟨herr, hc, fun hfault hup hvalid hitems =>
        createInvoice_quotaExceeded hfault hup hvalid hitems hfound hfree hused⟩
    · exact duplicateInvoice_at_limit hs.closed hfound hfree hused (Prod.ext rfl rfl)

/-- After the session that opens an account, a client and one invoice, the allowance stands as
above. -/
theorem invoicingSession_quota :
    Reachable (Action.runAll invoicingSession {}) ∧
      QuotaEnforced (Action.runAll invoicingSession {}) owner :=
  ⟨Reachable.empty.runAll _, monthly_quota_enforced (Reachable.empty.runAll _) owner⟩

/-- The session of `invoicingSession` followed by four more invoices of the same work: the account
ends at its allowance. -/
def allowanceSession : List Action :=
  invoicingSession ++ List.replicate 4 (.call (.createInvoice owner workRequest))

/-- At its allowance the account is not told so first: a request with no items is turned away for
its items, before the allowance is looked at. -/
theorem request_checked_before_allowance :
    let s := Action.runAll allowanceSession {}
    s.committed.counter owner = some ("INV", 6, 5) ∧
      ((createInvoice owner { workRequest with items := [] }).runOn s).1 =
        .error (.invalidInput "items: at least one item is required") := by
  simp only [allowanceSession, invoicingSession, List.replicate, List.cons_append, List.nil_append,
    Action.runAll, List.foldl, Action.apply, provision_owner]
  decide +kernel

end Invoicing
