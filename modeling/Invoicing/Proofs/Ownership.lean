import Invoicing.Proofs.Listing

/-!
# What belongs to an account

The rows of an account (`Tables.ownedBy`) are its account row, its clients, its invoices and its
invoices' items. In every reachable store no two clients share an identity
(`Tables.ClientsIssued`), and every invoice bills a client of its own account (`Tables.Billed`).

Several statements change rows by identity alone: a client is replaced or deactivated by its
identity, an invoice is rewritten by its identity, and a deletion takes the items naming the
identity of the deleted invoice. Each is made after the row was found in the account, so with
identities unique (and items linked to invoices of their own account, `Tables.Linked`) it
reaches no row of another account.

What is proved here:
* `Write.clients_cases`: a write keeps the clients, appends one of its account, or rewrites in
  place the one it found in its account.
* `Write.ownedBy_other`: a write made for one account keeps the rows of every other account.
* `Reachable.clientsIssued`, `Reachable.billed`: the two invariants hold of every reachable
  store.
-/

namespace Invoicing

open StoreOp Service

/-- The rows that belong to `owner`: its account row, its clients, its invoices and its items. -/
def Tables.ownedBy (t : Tables) (owner : Uuid) : Tables :=
  { accounts := t.accounts.filter (·.id == owner)
    clients := t.clients.filter (·.accountId == owner)
    invoices := t.invoices.filter (·.accountId == owner)
    items := t.items.filter (·.accountId == owner) }

theorem Tables.ownedBy_eq {t t' : Tables} {owner : Uuid}
    (ha : t'.accounts.filter (·.id == owner) = t.accounts.filter (·.id == owner))
    (hc : t'.clients.filter (·.accountId == owner) = t.clients.filter (·.accountId == owner))
    (hi : t'.invoices.filter (·.accountId == owner) = t.invoices.filter (·.accountId == owner))
    (hit : t'.items.filter (·.accountId == owner) = t.items.filter (·.accountId == owner)) :
    t'.ownedBy owner = t.ownedBy owner := by
  unfold Tables.ownedBy
  rw [ha, hc, hi, hit]

/-! ## Rows of interest under a change of a list -/

section Filter

variable {α : Type} {p : α → Bool}

/-- Changing only rows of no interest, into rows of no interest, keeps the rows of interest. -/
theorem filter_map_of_fixed {f : α → α} {l : List α} (hp : ∀ x ∈ l, p (f x) = p x)
    (hf : ∀ x ∈ l, p x = true → f x = x) : (l.map f).filter p = l.filter p := by
  induction l with
  | nil => rfl
  | cons x xs ih =>
    have hx := hp x (by simp)
    rw [List.map_cons, List.filter_cons, List.filter_cons, hx,
      ih (fun y hy => hp y (by simp [hy])) (fun y hy => hf y (by simp [hy]))]
    split
    · rw [hf x (by simp) ‹_›]
    · rfl

/-- Appending rows of no interest keeps the rows of interest. -/
theorem filter_append_of_false {l rows : List α} (h : ∀ x ∈ rows, p x = false) :
    (l ++ rows).filter p = l.filter p := by
  have hnone : rows.filter p = [] := List.filter_eq_nil_iff.mpr fun x hx => by simp [h x hx]
  rw [List.filter_append, hnone, List.append_nil]

/-- Dropping rows of no interest keeps the rows of interest. -/
theorem filter_filter_of_false {keep : α → Bool} {l : List α}
    (h : ∀ x ∈ l, keep x = false → p x = false) : (l.filter keep).filter p = l.filter p := by
  rw [List.filter_filter]
  refine List.filter_congr fun x hx => ?_
  cases hk : keep x
  · simp [h x hx hk]
  · simp

/-- In a list where no two rows share an identity, rewriting the row `current`, which is of no
interest, into a row of no interest keeps the rows of interest; `f` leaves the rows with other
identities alone. -/
theorem filter_map_put {ι : Type} {id : α → ι} {l : List α} (hl : (l.map id).Nodup)
    {current : α} (hcur : current ∈ l) (hout : p current = false) {f : α → α}
    (hf : ∀ x, id x ≠ id current → f x = x) (hfout : p (f current) = false) :
    (l.map f).filter p = l.filter p := by
  -- the only row `f` moves is `current` itself
  have hsame : ∀ x ∈ l, id x = id current → x = current :=
    fun x hx hid => List.inj_on_of_nodup_map hl hx hcur hid
  refine filter_map_of_fixed (fun x hx => ?_) (fun x hx hpx => ?_)
  · by_cases hid : id x = id current
    · rw [hsame x hx hid, hfout, hout]
    · rw [hf x hid]
  · by_cases hid : id x = id current
    · rw [hsame x hx hid, hout] at hpx
      cases hpx
    · exact hf x hid

end Filter

/-! ## Client identities -/

/-- Every client has an identity the store handed out, and no two clients share one. -/
structure Tables.ClientsIssued (t : Tables) (n : Serials) : Prop where
  issued : ∀ c ∈ t.clients, ∃ k ≤ n.clients, c.id = Table.serial .clients k
  ids : (t.clients.map (·.id)).Nodup

namespace Tables.ClientsIssued

variable {t t' : Tables} {n n' : Serials}

theorem eq_of_id (h : t.ClientsIssued n) {x y : Client} (hx : x ∈ t.clients) (hy : y ∈ t.clients)
    (hid : x.id = y.id) : x = y :=
  List.inj_on_of_nodup_map h.ids hx hy hid

theorem of_eq (h : t.ClientsIssued n) (hn : n.clients ≤ n'.clients)
    (hc : t'.clients = t.clients) : t'.ClientsIssued n' := by
  refine ⟨fun c hc' => ?_, hc ▸ h.ids⟩
  obtain ⟨k, hk, hid⟩ := h.issued c (hc ▸ hc')
  exact ⟨k, Nat.le_trans hk hn, hid⟩

/-- Adding a client under the next identity. -/
theorem add (h : t.ClientsIssued n) {row : Client}
    (hid : row.id = Table.serial .clients (n.clients + 1)) (hn : n.clients + 1 ≤ n'.clients)
    (hc : t'.clients = t.clients ++ [row]) : t'.ClientsIssued n' := by
  refine ⟨fun c hc' => ?_, ?_⟩
  · rw [hc, List.mem_append, List.mem_singleton] at hc'
    rcases hc' with hc' | rfl
    · obtain ⟨k, hk, hid'⟩ := h.issued c hc'
      exact ⟨k, by omega, hid'⟩
    · exact ⟨_, hn, hid⟩
  · rw [hc, List.map_append, List.nodup_append]
    refine ⟨h.ids, List.nodup_singleton _, fun a ha b hb hab => ?_⟩
    rw [List.map_cons, List.map_nil, List.mem_singleton] at hb
    obtain ⟨x, hx, rfl⟩ := List.mem_map.mp ha
    obtain ⟨k, hk, hxid⟩ := h.issued x hx
    -- the new identity is beyond every one handed out before
    have := Table.serial_injective _ (hxid.symm.trans (hab.trans (hb.trans hid)))
    omega

/-- Rewriting clients in place, each keeping its identity. -/
theorem map (h : t.ClientsIssued n) {f : Client → Client} (hf : ∀ x, (f x).id = x.id)
    (hc : t'.clients = t.clients.map f) : t'.ClientsIssued n := by
  have hids : t'.clients.map (·.id) = t.clients.map (·.id) := by
    rw [hc, List.map_map]
    exact List.map_congr_left fun x _ => hf x
  refine ⟨fun c hc' => ?_, hids ▸ h.ids⟩
  rw [hc] at hc'
  obtain ⟨x, hx, rfl⟩ := List.mem_map.mp hc'
  rw [hf x]
  exact h.issued x hx

end Tables.ClientsIssued

/-! ## What each write does to the rows -/

namespace Service

variable {account invoice : Uuid} {c c' : Tables} {n : Serials}

/-- A draft appends an invoice and items of the account, billing the client of the request,
counts the invoice against the account, and keeps the clients. -/
theorem Drafted.owned {r : InvoiceRequest} {inv : Invoice} (h : Drafted account r c n inv c') :
    inv.accountId = account ∧ inv.clientId = r.clientId ∧ c'.invoices = c.invoices ++ [inv] ∧
      (∃ rows, c'.items = c.items ++ rows ∧ ∀ it ∈ rows, it.accountId = account) ∧
      ∃ now, c'.accounts = c.accounts.map (Accounts.countInvoice account now) := by
  obtain ⟨totals, acc, issue, due, currency, template, now, now', t, rows, -, -, -, -, -, written,
    stored⟩ := h
  obtain ⟨rfl, -, hh, -, -⟩ := Invoices.insertRow_ok written
  exact ⟨hh.accountId_eq, hh.clientId_eq, rfl,
    ⟨rows, rfl, fun it hit => (Items.stores_mem stored hit).2⟩, ⟨now', rfl⟩⟩

theorem Drafted.clients_eq {r : InvoiceRequest} {inv : Invoice} (h : Drafted account r c n inv c') :
    c'.clients = c.clients := by
  obtain ⟨totals, acc, issue, due, currency, template, now, now', t, rows, -, -, -, -, -, written,
    -⟩ := h
  obtain ⟨rfl, -⟩ := Invoices.insertRow_ok written
  rfl

/-- An edit puts in place of an invoice of the account a row with its identity and account; its
items stay, or are replaced by rows of the account; the accounts stay. -/
theorem Revised.owned {r : InvoiceChanges} (h : Revised account invoice r c c') :
    ∃ current row, current ∈ c.invoices ∧ current.accountId = account ∧ current.id = invoice ∧
      row.id = current.id ∧ row.accountId = current.accountId ∧
      c'.invoices = c.invoices.map (fun x => if x.id == invoice then row else x) ∧
      (c'.items = c.items ∨ ∃ rows, (∀ it ∈ rows, it.accountId = account) ∧
        c'.items = c.items.filter (fun it => !(it.accountId == account && it.invoiceId == invoice))
          ++ rows) ∧
      c'.accounts = c.accounts := by
  cases h with
  | keep current row totals clientId issue due currency template now found _ _ _ header =>
    obtain ⟨hcur, hacc, hid⟩ := Invoices.lookup_some found
    exact ⟨current, row, hcur, hacc, hid, header.id_eq, header.accountId_eq, rfl, .inl rfl, rfl⟩
  | replace current row totals clientId issue due currency template now items rows found _ _ _
      header stored =>
    obtain ⟨hcur, hacc, hid⟩ := Invoices.lookup_some found
    exact ⟨current, row, hcur, hacc, hid, header.id_eq, header.accountId_eq, rfl,
      .inr ⟨rows, fun it hit => (Items.stores_mem stored hit).2, rfl⟩, rfl⟩

theorem Revised.clients_eq {r : InvoiceChanges} (h : Revised account invoice r c c') :
    c'.clients = c.clients := by
  cases h <;> rfl

theorem Moved.clients_eq {r : StatusRequest} {now : Instant} (h : Moved account invoice r now c c') :
    c'.clients = c.clients := by
  cases h; rfl

theorem Removed.clients_eq (h : Removed account invoice c c') : c'.clients = c.clients := by
  cases h; rfl

/-- A status change rewrites one invoice of the account in place, keeping whom it bills. -/
theorem Moved.bills {r : StatusRequest} {now : Instant} (h : Moved account invoice r now c c') :
    ∀ x ∈ c'.invoices, ∃ y ∈ c.invoices, y.accountId = x.accountId ∧ y.clientId = x.clientId := by
  obtain ⟨current, st, target, change, stamp, -, found, -, -⟩ := h
  obtain ⟨hcur, -, -⟩ := Invoices.lookup_some found
  intro x hx
  obtain ⟨y, hy, rfl⟩ := List.mem_map.mp hx
  split
  · exact ⟨current, hcur, rfl, rfl⟩
  · exact ⟨y, hy, rfl, rfl⟩

end Service

/-- What a write does to the clients: it keeps them, appends a client of the account under the
next identity, or rewrites in place the client of the account it found, keeping the client's
identity and account and leaving every client of another identity alone. -/
theorem Write.clients_cases {c c' : Tables} {n n' : Serials} {owner : Option Uuid}
    (h : Write c n owner c' n') :
    c'.clients = c.clients ∨
    (∃ row, owner = some row.accountId ∧ row.id = Table.serial .clients (n.clients + 1) ∧
      n.clients + 1 ≤ n'.clients ∧ c'.clients = c.clients ++ [row]) ∨
    (∃ current f, owner = some current.accountId ∧ current ∈ c.clients ∧
      (∀ x, (f x).id = x.id) ∧ (∀ x, x.id ≠ current.id → f x = x) ∧
      (f current).accountId = current.accountId ∧ c'.clients = c.clients.map f) := by
  cases h with
  | keep => exact .inl rfl
  | openAccount input a now t _ plan opened =>
    obtain ⟨rfl, -⟩ := Accounts.insertRow_row opened
    exact .inl rfl
  | addClient account row _ fresh own counted =>
    exact .inr (.inl ⟨row, by rw [own], fresh, counted .clients, rfl⟩)
  | replaceClient account current row _ found same =>
    obtain ⟨hcur, hacc, -, -⟩ := Clients.lookup_some found
    refine .inr (.inr ⟨current, _, by rw [hacc], hcur, fun x => ?_, fun x hx => by simp [hx],
      by simp [same.2], rfl⟩)
    split
    · rename_i hx
      rw [same.1, beq_iff_eq.mp hx]
    · rfl
  | deactivateClient account current now _ found =>
    obtain ⟨hcur, hacc, -, -⟩ := Clients.lookup_some found
    exact .inr (.inr ⟨current, _, by rw [hacc], hcur, fun x => by split <;> rfl,
      fun x hx => by simp [hx], by simp, rfl⟩)
  | draft account r inv t _ drafted => exact .inl drafted.clients_eq
  | revise account invoice r t _ revised => exact .inl revised.clients_eq
  | move account invoice r now t _ moved => exact .inl moved.clients_eq
  | remove account invoice t _ removed => exact .inl removed.clients_eq
  | stamp => exact .inl rfl

/-- Every write keeps the clients' identities their own. -/
theorem Write.clientsIssued {c c' : Tables} {n n' : Serials} {owner : Option Uuid}
    (h : Write c n owner c' n') (hn : n ≤ n') (hc : c.ClientsIssued n) : c'.ClientsIssued n' := by
  rcases h.clients_cases with hc' | ⟨row, -, hid, hnext, hc'⟩ | ⟨current, f, -, -, hf, -, -, hc'⟩
  · exact hc.of_eq (hn .clients) hc'
  · exact hc.add hid hnext hc'
  · exact (hc.map hf hc').of_eq (hn .clients) rfl

/-- The clients of every reachable store have identities of their own. -/
theorem Reachable.clientsIssued {s : Store} (h : Reachable s) : s.committed.ClientsIssued s.serials :=
  h.writes_induction ⟨by simp, by simp⟩ fun _ _ _ _ _ hc hn hw => hw.clientsIssued hn hc

/-! ## Every invoice bills a client of its own account -/

/-- Every invoice bills a client of its own account. -/
def Tables.Billed (t : Tables) : Prop :=
  ∀ i ∈ t.invoices, ∃ cl ∈ t.clients, cl.id = i.clientId ∧ cl.accountId = i.accountId

namespace Tables.Billed

variable {c t : Tables}

/-- Tables whose invoices are billed by clients of `c`, and which keep each client of `c` under its
identity and account, are billed. -/
theorem of_kept
    (hinv : ∀ x ∈ t.invoices, ∃ cl ∈ c.clients, cl.id = x.clientId ∧ cl.accountId = x.accountId)
    (hkept : ∀ x ∈ c.clients, ∃ y ∈ t.clients, y.id = x.id ∧ y.accountId = x.accountId) :
    t.Billed := by
  intro x hx
  obtain ⟨cl, hcl, hid, hacc⟩ := hinv x hx
  obtain ⟨y, hy, hyid, hyacc⟩ := hkept cl hcl
  exact ⟨y, hy, hyid.trans hid, hyacc.trans hacc⟩

/-- Invoices that bill whom invoices of billed tables bill, for the same account, are billed by
clients of those tables. -/
theorem of_old (hb : c.Billed)
    (h : ∀ x ∈ t.invoices, ∃ y ∈ c.invoices, y.accountId = x.accountId ∧ y.clientId = x.clientId) :
    ∀ x ∈ t.invoices, ∃ cl ∈ c.clients, cl.id = x.clientId ∧ cl.accountId = x.accountId := by
  intro x hx
  obtain ⟨y, hy, hacc, hclient⟩ := h x hx
  obtain ⟨cl, hcl, hid, hcacc⟩ := hb y hy
  exact ⟨cl, hcl, hid.trans hclient, hcacc.trans hacc⟩

end Tables.Billed

/-- Every write keeps each client, under its identity and in its account. -/
theorem Write.clientsKept {c c' : Tables} {n n' : Serials} {owner : Option Uuid}
    (h : Write c n owner c' n') (hc : c.ClientsIssued n) :
    ∀ x ∈ c.clients, ∃ y ∈ c'.clients, y.id = x.id ∧ y.accountId = x.accountId := by
  intro x hx
  rcases h.clients_cases with hc' | ⟨row, -, -, -, hc'⟩ |
    ⟨current, f, -, hcur, hf, hfix, hfacc, hc'⟩
  · exact ⟨x, hc' ▸ hx, rfl, rfl⟩
  · exact ⟨x, hc' ▸ List.mem_append_left _ hx, rfl, rfl⟩
  · refine ⟨f x, hc' ▸ List.mem_map_of_mem hx, hf x, ?_⟩
    by_cases hid : x.id = current.id
    · -- the client rewritten is the one found, as no two clients share an identity
      obtain rfl := hc.eq_of_id hx hcur hid
      exact hfacc
    · rw [hfix x hid]

/-- Every write keeps every invoice billing a client of its own account: a draft bills an active
client of its account, an edit bills the client it billed or another active client of its
account, and the other writes keep whom each invoice bills. -/
theorem Write.billed {c c' : Tables} {n n' : Serials} {owner : Option Uuid}
    (h : Write c n owner c' n') (hc : c.ClientsIssued n) (hb : c.Billed) : c'.Billed := by
  refine Tables.Billed.of_kept ?_ (h.clientsKept hc)
  have same : c'.invoices = c.invoices →
      ∀ x ∈ c'.invoices, ∃ cl ∈ c.clients, cl.id = x.clientId ∧ cl.accountId = x.accountId :=
    fun hi => hi ▸ hb
  cases h with
  | keep => exact same rfl
  | openAccount input a now t _ plan opened =>
    obtain ⟨rfl, -⟩ := Accounts.insertRow_row opened
    exact same rfl
  | addClient => exact same rfl
  | replaceClient => exact same rfl
  | deactivateClient => exact same rfl
  | draft account r inv t _ drafted billed =>
    obtain ⟨hacc, hclient, hinv, -⟩ := drafted.owned
    obtain ⟨cl, hcl⟩ := billed
    obtain ⟨hmem, hclacc, hclid, -⟩ := Clients.lookup_some hcl
    intro x hx
    rw [hinv, List.mem_append, List.mem_singleton] at hx
    rcases hx with hx | rfl
    · exact hb x hx
    · exact ⟨cl, hmem, hclid.trans hclient.symm, hclacc.trans hacc.symm⟩
  | revise account invoice r t _ revised bills =>
    intro x hx
    rcases bills x hx with ⟨y, hy, -, hacc, hclient⟩ | ⟨hacc, cl, hcl⟩
    · obtain ⟨cl, hmem, hid, hcacc⟩ := hb y hy
      exact ⟨cl, hmem, hid.trans hclient, hcacc.trans hacc⟩
    · obtain ⟨hmem, hclacc, hclid, -⟩ := Clients.lookup_some hcl
      exact ⟨cl, hmem, hclid, hclacc.trans hacc.symm⟩
  | move account invoice r now t _ moved => exact hb.of_old moved.bills
  | remove account invoice t _ removed =>
    obtain ⟨current, -, -⟩ := removed
    exact hb.of_old fun x hx => ⟨x, (List.mem_filter.mp hx).1, rfl, rfl⟩
  | stamp account invoice now =>
    refine hb.of_old fun x hx => ?_
    obtain ⟨y, hy, rfl⟩ := List.mem_map.mp hx
    refine ⟨y, hy, ?_⟩
    split <;> exact ⟨rfl, rfl⟩

/-- In every reachable store every invoice bills a client of its own account. -/
theorem Reachable.billed {s : Store} (h : Reachable s) : s.committed.Billed :=
  h.writes_induction (P := fun c _ => c.Billed) (fun _ hx => nomatch hx)
    fun _ _ _ _ hs hb _ hw => hw.billed hs.clientsIssued hb

/-! ## A write for one account keeps the rows of every other -/

/-- A write made for `account` keeps every row of every other account. The rows it appends are
the account's; the rows it rewrites or deletes by identity were found in the account, and no
row of another account shares their identity; the items a deletion takes name the deleted
invoice, so they are the account's too. -/
theorem Write.ownedBy_other {c c' : Tables} {n n' : Serials} {account other : Uuid}
    (h : Write c n (some account) c' n') (hne : account ≠ other) (hl : c.Linked n)
    (hc : c.ClientsIssued n) : c'.ownedBy other = c.ownedBy other := by
  have hout : (account == other) = false := beq_eq_false_iff_ne.mpr hne
  -- the clients: a new client is the account's, and a rewritten one was found in the account
  have hclients : c'.clients.filter (·.accountId == other) =
      c.clients.filter (·.accountId == other) := by
    rcases h.clients_cases with hc' | ⟨row, hown, -, -, hc'⟩ |
      ⟨current, f, hown, hcur, -, hfix, hfacc, hc'⟩ <;> rw [hc']
    · refine filter_append_of_false fun x hx => ?_
      rw [List.mem_singleton.mp hx, ← Option.some_inj.mp hown]
      exact hout
    · rw [← Option.some_inj.mp hown] at hfacc
      exact filter_map_put hc.ids hcur (by simp [← Option.some_inj.mp hown, hout]) hfix
        (by simp [hfacc, hout])
  cases h with
  | keep => rfl
  | addClient => exact Tables.ownedBy_eq rfl hclients rfl rfl
  | replaceClient => exact Tables.ownedBy_eq rfl hclients rfl rfl
  | deactivateClient => exact Tables.ownedBy_eq rfl hclients rfl rfl
  | draft _ r inv t _ drafted =>
    obtain ⟨hacc, -, hinv, ⟨rows, hitems, hrows⟩, now, haccounts⟩ := drafted.owned
    refine Tables.ownedBy_eq ?_ hclients ?_ ?_
    · -- counting the invoice changes the account's own row only
      rw [haccounts]
      refine filter_map_of_fixed (fun x _ => by simp) fun x _ hx => Accounts.countInvoice_of_ne ?_
      rw [beq_iff_eq.mp hx]
      exact hne.symm
    · rw [hinv]
      exact filter_append_of_false (by simp [hacc, hne])
    · rw [hitems]
      exact filter_append_of_false fun it hit => by rw [hrows it hit]; exact hout
  | revise _ invoice r t _ revised =>
    obtain ⟨current, row, hcur, hacc, rfl, hid, hracc, hinv, hitems, haccounts⟩ := revised.owned
    refine Tables.ownedBy_eq (by rw [haccounts]) hclients ?_ ?_
    · rw [hinv]
      exact filter_map_put hl.ids hcur (by simp [hacc, hout]) (fun x hx => by simp [hx])
        (by simp [hracc, hacc, hout])
    · rcases hitems with hitems | ⟨rows, hrows, hitems⟩
      · rw [hitems]
      · rw [hitems, filter_append_of_false fun it hit => by simp [hrows it hit, hout]]
        refine filter_filter_of_false fun it _ hk => ?_
        simp only [Bool.not_eq_false', Bool.and_eq_true, beq_iff_eq] at hk
        simp [hk.1, hout]
  | move _ invoice r now t _ moved =>
    obtain ⟨current, st, target, change, stamp, -, found, -, -⟩ := moved
    obtain ⟨hcur, hacc, rfl⟩ := Invoices.lookup_some found
    refine Tables.ownedBy_eq rfl rfl ?_ rfl
    exact filter_map_put hl.ids hcur (by simp [hacc, hout]) (fun x hx => by simp [hx])
      (by simp [hacc, hout])
  | remove _ invoice t _ removed =>
    obtain ⟨current, found, -⟩ := removed
    obtain ⟨hcur, hacc, rfl⟩ := Invoices.lookup_some found
    refine Tables.ownedBy_eq rfl rfl ?_ ?_
    · refine filter_filter_of_false fun x _ hk => ?_
      simp only [Bool.not_eq_false', Bool.and_eq_true, beq_iff_eq] at hk
      simp [hk.1, hout]
    · -- an item taken names a deleted invoice, whose account is the item's own
      refine filter_filter_of_false fun it hit hk => ?_
      simp only [Bool.not_eq_false', List.any_eq_true, List.mem_filter, Bool.and_eq_true,
        beq_iff_eq] at hk
      obtain ⟨x, ⟨hx, hxacc, -⟩, hxid⟩ := hk
      obtain ⟨i, hi, hid, hiacc⟩ := hl.owned it hit
      obtain rfl := hl.eq_of_id hi hx (hid.trans hxid.symm)
      rw [← hiacc, hxacc]
      exact hout
  | stamp _ invoice now =>
    refine Tables.ownedBy_eq rfl rfl ?_ rfl
    refine filter_map_of_fixed (fun x _ => by split <;> rfl) fun x _ hx => ?_
    have hx' : x.accountId ≠ account := fun h => hne (h ▸ beq_iff_eq.mp hx)
    simp [hx']

end Invoicing
