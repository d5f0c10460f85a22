import Invoicing.Proofs.Integrity
import Mathlib.Data.List.Induction

/-!
# Invoice numbers

Every account numbers its invoices 1, 2, 3, … under its prefix. A creation reads the next number
from the locked account row, stores the draft under it and moves the counter on in the same
transaction, so the counter moves exactly when an invoice appears, and the numbers a session gives
an account follow one another and never repeat, deleted invoices included. What counts is the
commit: a creation that committed and then failed to read the new invoice back has taken its
number all the same.

The numbers are told apart by reading their digits back (`invoiceNumber_inj`), and a negative
counter by its minus sign (`zeroPadded_injective`); the column keeps them as they are because they
end in a digit (`varchar_invoiceNumber`).
-/

namespace Invoicing

open Service

section Format

/-- A counter that is not negative is written as zeros and then its decimal digits. -/
theorem zeroPadded_toList {n : Int} (h : 0 ≤ n) (w : Nat) :
    (zeroPadded w n).toList =
      List.replicate (w - (Nat.toDigits 10 n.natAbs).length) '0' ++ Nat.toDigits 10 n.natAbs := by
  have hs : ¬ n < 0 := by omega
  simp [zeroPadded, hs]
  rw [← String.length_toList, Nat.toList_repr]

/-- Reading the padded digits back gives the counter. -/
theorem ofDigitChars_zeroPadded {n : Int} (h : 0 ≤ n) (w : Nat) :
    Nat.ofDigitChars 10 (zeroPadded w n).toList 0 = n.natAbs := by
  rw [zeroPadded_toList h, Nat.ofDigitChars_append, Nat.ofDigitChars_replicate_zero,
    Nat.mul_zero, Nat.ofDigitChars_ten_toDigits]

/-- Two counters that are not negative and are written alike, at any widths, are equal. -/
theorem eq_of_zeroPadded_toList {m n : Int} (hm : 0 ≤ m) (hn : 0 ≤ n) {w v : Nat}
    (h : (zeroPadded w m).toList = (zeroPadded v n).toList) : m = n := by
  have hv := congrArg (Nat.ofDigitChars 10 · 0) h
  simp only [ofDigitChars_zeroPadded hm, ofDigitChars_zeroPadded hn] at hv
  omega

/-- Counters that are not negative give distinct numbers under one prefix. -/
theorem invoiceNumber_inj {p : String} {k j : Int} (hk : 0 ≤ k) (hj : 0 ≤ j)
    (h : invoiceNumber p k = invoiceNumber p j) : k = j := by
  have hl : (zeroPadded 4 k).toList = (zeroPadded 4 j).toList := by
    simpa [invoiceNumber, ← String.toList_inj] using h
  exact eq_of_zeroPadded_toList hk hj hl

/-- The numbers of the counters one to `n` are distinct. -/
theorem invoiceNumbers_nodup (p : String) (n : Nat) :
    ((List.range n).map fun j : Nat => invoiceNumber p (j + 1)).Nodup := by
  refine List.Nodup.map_on (fun i _ j _ hij => ?_) List.nodup_range
  have := invoiceNumber_inj (by omega) (by omega) hij
  omega

/-- A negative counter is written as a minus sign and then its magnitude, one character narrower:
the sign takes its place inside the width. -/
theorem zeroPadded_of_neg {n : Int} (h : n < 0) (w : Nat) :
    (zeroPadded w n).toList = '-' :: (zeroPadded (w - 1) (-n)).toList := by
  have hs : ¬ 0 < n := by omega
  simp [zeroPadded, h, hs, show "-".length = 1 from rfl]

/-- A counter that is not negative is written in digits only. -/
theorem isDigit_of_mem_zeroPadded {n : Int} (h : 0 ≤ n) {w : Nat} {c : Char}
    (hc : c ∈ (zeroPadded w n).toList) : c.isDigit := by
  rw [zeroPadded_toList h] at hc
  rcases List.mem_append.mp hc with hz | hd
  · rw [List.eq_of_mem_replicate hz]; rfl
  · exact Nat.isDigit_of_mem_toDigits (by decide) (by decide) hd

/-- The written counter holds a minus sign exactly when the counter is negative. -/
theorem minus_mem_zeroPadded_iff (w : Nat) (n : Int) :
    '-' ∈ (zeroPadded w n).toList ↔ n < 0 := by
  by_cases h : n < 0
  · simp [zeroPadded_of_neg h, h]
  · simp only [h, iff_false]
    intro hm
    exact absurd (isDigit_of_mem_zeroPadded (by omega) hm) (by decide)

/-- Padding keeps every two counters apart, whatever the width: the minus sign tells the negative
ones from the rest, and within one sign the digits read back to the counter. -/
theorem zeroPadded_injective (w : Nat) : Function.Injective (zeroPadded w) := by
  intro m n h
  have hl : (zeroPadded w m).toList = (zeroPadded w n).toList := congrArg String.toList h
  have hsign : m < 0 ↔ n < 0 := by
    rw [← minus_mem_zeroPadded_iff w m, ← minus_mem_zeroPadded_iff w n, hl]
  by_cases hm : m < 0
  · rw [zeroPadded_of_neg hm, zeroPadded_of_neg (hsign.mp hm), List.cons.injEq] at hl
    have := eq_of_zeroPadded_toList (by omega) (by omega) hl.2
    omega
  · exact eq_of_zeroPadded_toList (by omega) (by omega) hl

/-- Under one prefix, different counters get different numbers, negative ones included. A counter
that is not negative is written as its decimal digits after enough zeros to fill four characters; a
negative one as a minus sign and its digits, the zeros filling four characters with the sign. -/
theorem invoiceNumber_injective_padded (p : String) :
    Function.Injective (invoiceNumber p) ∧
    (∀ n : Nat, invoiceNumber p n =
      p ++ "-" ++ String.ofList (List.leftpad 4 '0' (Nat.toDigits 10 n))) ∧
    (∀ n : Nat, invoiceNumber p (-(n + 1 : Int)) =
      p ++ "-" ++ String.ofList ('-' :: List.leftpad (4 - 1) '0' (Nat.toDigits 10 (n + 1)))) := by
  refine ⟨fun m n h => zeroPadded_injective 4 ((String.append_right_inj _).mp h), ?_, ?_⟩
  · intro n
    simp [invoiceNumber, ← String.toList_inj, zeroPadded_toList (Int.natCast_nonneg n),
      List.leftpad]
  · intro n
    have hneg : -(n + 1 : Int) < 0 := by omega
    have hpos : (0 : Int) ≤ n + 1 := by omega
    have habs : (n + 1 : Int).natAbs = n + 1 := by omega
    -- rewrite before any normalisation can reshape `-(n + 1)` into `-1 + -n`
    rw [← String.toList_inj]
    simp only [invoiceNumber, String.toList_append, zeroPadded_of_neg hneg, Int.neg_neg,
      zeroPadded_toList hpos, habs, String.toList_ofList, List.leftpad]

example : invoiceNumber "INV" (-42) = "INV--042" := rfl

/-- A number ends in a digit. -/
theorem invoiceNumber_getLast? {p : String} {k : Int} (hk : 0 ≤ k) :
    ∀ c ∈ (invoiceNumber p k).toList.getLast?, c.isDigit := by
  intro c hc
  have hd : Nat.toDigits 10 k.natAbs ≠ [] := Nat.toDigits_ne_nil
  simp only [invoiceNumber, String.toList_append, zeroPadded_toList hk, List.getLast?_append,
    List.getLast?_eq_some_getLast hd, Option.some_or, Option.mem_def, Option.some.injEq] at hc
  exact Nat.isDigit_of_mem_toDigits (by decide) (by decide) (hc ▸ List.getLast_mem hd)

/-- A text whose last character is not a space is stored as it is, when it is stored at all:
only trailing spaces are ever cut. -/
theorem Column.varchar_ok_eq {n : Nat} {s r : String} (h : Column.varchar n s = .ok r)
    (hs : ∀ c ∈ s.toList.getLast?, c ≠ ' ') : r = s := by
  unfold Column.varchar at h
  split at h
  · cases h; rfl
  rename_i hlen
  split at h
  · rename_i hall
    have hne : s.toList.drop n ≠ [] := by
      simp only [ne_eq, List.drop_eq_nil_iff, String.length_toList]; omega
    have hlast := List.all_eq_true.mp hall _ (List.getLast_mem hne)
    rw [List.getLast_drop] at hlast
    exact absurd (by simpa using hlast) (hs _ (List.getLast?_eq_some_getLast _))
  · cases h

/-- The numbers column stores a number as it is. -/
theorem varchar_invoiceNumber {n : Nat} {p r : String} {k : Int} (hk : 0 ≤ k)
    (h : Column.varchar n (invoiceNumber p k) = .ok r) : r = invoiceNumber p k :=
  Column.varchar_ok_eq h fun c hc hsp => by
    simpa [hsp] using invoiceNumber_getLast? hk c hc

end Format

namespace Accounts

variable {id account : Uuid} {now : Instant} {a acc row : Account} {t t' : Tables}

@[simp] theorem countInvoice_id : (countInvoice id now a).id = a.id := by
  unfold countInvoice; split <;> rfl

@[simp] theorem countInvoice_prefix :
    (countInvoice id now a).invoiceNumberPrefix = a.invoiceNumberPrefix := by
  unfold countInvoice; split <;> rfl

theorem countInvoice_of_eq (now : Instant) (h : a.id = id) :
    (countInvoice id now a).nextInvoiceNumber = a.nextInvoiceNumber + 1 ∧
      (countInvoice id now a).monthlyInvoiceCount = a.monthlyInvoiceCount + 1 := by
  simp [countInvoice, h]

theorem countInvoice_of_ne (h : a.id ≠ id) : countInvoice id now a = a := by
  simp [countInvoice, h]

theorem lookup_some (h : lookup id t = some a) : a ∈ t.accounts ∧ a.id = id := by
  have hi := List.find?_some h
  exact ⟨List.mem_of_find?_eq_some h, by simpa using hi⟩

/-- With identities unique, the lookup finds each account under its own identity. -/
theorem lookup_of_mem (hids : (t.accounts.map (·.id)).Nodup) (ha : a ∈ t.accounts) :
    lookup a.id t = some a := by
  obtain ⟨b, hb⟩ : ∃ b, lookup a.id t = some b :=
    Option.isSome_iff_exists.mp (List.find?_isSome.mpr ⟨a, ha, by simp⟩)
  obtain ⟨hbm, hbid⟩ := lookup_some hb
  rw [hb, List.inj_on_of_nodup_map hids hbm ha hbid]

theorem lookup_of_accounts (h : t'.accounts = t.accounts) : lookup id t' = lookup id t := by
  simp only [lookup, h]

theorem lookup_append (h : t'.accounts = t.accounts ++ [row]) :
    lookup id t' = (lookup id t).or (if row.id = id then some row else none) := by
  simp only [lookup, h, List.find?_append, List.find?_singleton, beq_iff_eq]

/-- Counting an invoice of `account` changes no identity, so the lookup sees the counted row. -/
theorem lookup_countInvoice (h : t'.accounts = t.accounts.map (countInvoice account now)) :
    lookup id t' = (lookup id t).map (countInvoice account now) := by
  simp only [lookup, h, List.find?_map]
  congr 2
  funext a
  simp

end Accounts

/-- The counter of an account: its prefix, the number its next invoice takes and how many
invoices it has counted this month. -/
def Tables.counter (t : Tables) (account : Uuid) : Option (String × Int × Int) :=
  (Accounts.lookup account t).map fun a =>
    (a.invoiceNumberPrefix, a.nextInvoiceNumber, a.monthlyInvoiceCount)

/-- The numbers of the invoices of `account` in `t'` that were not in `t`, in table order. -/
def Tables.newNumbers (account : Uuid) (t t' : Tables) : List String :=
  (t'.invoices.filter fun i => i.accountId == account && !t.invoices.any (·.id == i.id)).map
    (·.number)

/-- Every invoice of `t'` is one of `t`, perhaps rewritten in place: it keeps the identity, the
account and the number of one. -/
def Tables.InvoicesFrom (t t' : Tables) : Prop :=
  ∀ i ∈ t'.invoices, ∃ x ∈ t.invoices, x.id = i.id ∧ x.accountId = i.accountId ∧ x.number = i.number

namespace Tables.InvoicesFrom

variable {t t' : Tables}

theorem of_subset (h : ∀ i ∈ t'.invoices, i ∈ t.invoices) : t.InvoicesFrom t' :=
  fun i hi => ⟨i, h i hi, rfl, rfl, rfl⟩

theorem map {f : Invoice → Invoice}
    (hf : ∀ x ∈ t.invoices, (f x).id = x.id ∧ (f x).accountId = x.accountId ∧
      (f x).number = x.number)
    (hi : t'.invoices = t.invoices.map f) : t.InvoicesFrom t' := by
  intro i hi'
  rw [hi] at hi'
  obtain ⟨x, hx, rfl⟩ := List.mem_map.mp hi'
  obtain ⟨h1, h2, h3⟩ := hf x hx
  exact ⟨x, hx, h1.symm, h2.symm, h3.symm⟩

/-- Putting `row` in place of the invoice with identity `id`, where `row` carries the identity,
account and number of an invoice `current` of `t`. -/
theorem put_row {current row : Invoice} {id : Uuid} (hcur : current ∈ t.invoices)
    (hrow : row.id = current.id ∧ row.accountId = current.accountId ∧ row.number = current.number)
    (hi : t'.invoices = t.invoices.map fun x => if x.id == id then row else x) :
    t.InvoicesFrom t' := by
  intro i hi'
  rw [hi] at hi'
  obtain ⟨x, hx, rfl⟩ := List.mem_map.mp hi'
  split
  · obtain ⟨h1, h2, h3⟩ := hrow
    exact ⟨current, hcur, h1.symm, h2.symm, h3.symm⟩
  · exact ⟨x, hx, rfl, rfl, rfl⟩

/-- Rewriting invoices in place creates none. -/
theorem newNumbers (h : t.InvoicesFrom t') (account : Uuid) : t.newNumbers account t' = [] := by
  simp only [Tables.newNumbers, List.map_eq_nil_iff, List.filter_eq_nil_iff, Bool.and_eq_true,
    beq_iff_eq, Bool.not_eq_true', List.any_eq_false, not_and]
  intro i hi _ hnone
  obtain ⟨x, hx, hid, -⟩ := h i hi
  exact hnone x hx hid

end Tables.InvoicesFrom

/-- Appending an invoice with a new identity creates exactly it. -/
theorem Tables.newNumbers_append {t t' : Tables} {inv : Invoice} (account : Uuid)
    (hfresh : ∀ x ∈ t.invoices, x.id ≠ inv.id) (hi : t'.invoices = t.invoices ++ [inv]) :
    t.newNumbers account t' = if inv.accountId = account then [inv.number] else [] := by
  have hold : t.invoices.filter (fun i => i.accountId == account &&
      !t.invoices.any (·.id == i.id)) = [] := by
    refine List.filter_eq_nil_iff.mpr fun x hx => ?_
    simp only [Bool.and_eq_true, beq_iff_eq, Bool.not_eq_true', List.any_eq_false, not_and]
    intro _ h
    simpa using h x hx
  have hnew : (t.invoices.any (·.id == inv.id)) = false := by
    simpa using hfresh
  simp only [Tables.newNumbers, hi, List.filter_append, hold, List.nil_append, List.filter_cons,
    hnew, List.filter_nil, Bool.not_false, Bool.and_true, beq_iff_eq]
  split <;> rfl

/-- The accounts keep count of their invoices: each has an identity the store handed out and no
other account has, its counter is at least one with the month's count one behind it, and every
invoice belongs to an account and carries one of the numbers the account has given out. -/
structure Tables.Counted (t : Tables) (n : Serials) : Prop where
  issued : ∀ a ∈ t.accounts, ∃ k ≤ n.accounts, a.id = Table.serial .accounts k
  ids : (t.accounts.map (·.id)).Nodup
  counters : ∀ a ∈ t.accounts, 1 ≤ a.nextInvoiceNumber ∧
    a.monthlyInvoiceCount = a.nextInvoiceNumber - 1
  numbered : ∀ i ∈ t.invoices, ∃ a ∈ t.accounts, a.id = i.accountId ∧
    ∃ j, 1 ≤ j ∧ j < a.nextInvoiceNumber ∧ i.number = invoiceNumber a.invoiceNumberPrefix j

namespace Tables.Counted

variable {t t' : Tables} {n n' : Serials}

/-- Rewriting or deleting invoices in place, or changing the other tables, keeps the count. -/
theorem of_invoicesFrom (h : t.Counted n) (hn : n.accounts ≤ n'.accounts)
    (ha : t'.accounts = t.accounts) (hi : t.InvoicesFrom t') : t'.Counted n' := by
  refine ⟨fun a ha' => ?_, ha ▸ h.ids, ha ▸ h.counters, fun i hi' => ?_⟩
  · obtain ⟨k, hk, hid⟩ := h.issued a (ha ▸ ha')
    exact ⟨k, Nat.le_trans hk hn, hid⟩
  · obtain ⟨x, hx, -, hacc, hnum⟩ := hi i hi'
    rw [ha, ← hacc, ← hnum]
    exact h.numbered x hx

/-- Opening an account under the next identity, counting from one. -/
theorem openAccount (h : t.Counted n) {row : Account}
    (hid : row.id = Table.serial .accounts (n.accounts + 1)) (hn : n.accounts + 1 ≤ n'.accounts)
    (hrow : row.nextInvoiceNumber = 1 ∧ row.monthlyInvoiceCount = 0)
    (ha : t'.accounts = t.accounts ++ [row]) (hi : t'.invoices = t.invoices) : t'.Counted n' := by
  refine ⟨fun a ha' => ?_, ?_, fun a ha' => ?_, fun i hi' => ?_⟩
  · rw [ha, List.mem_append, List.mem_singleton] at ha'
    rcases ha' with ha' | rfl
    · obtain ⟨k, hk, hid'⟩ := h.issued a ha'
      exact ⟨k, by omega, hid'⟩
    · exact ⟨_, hn, hid⟩
  · rw [ha, List.map_append, List.nodup_append]
    refine ⟨h.ids, List.nodup_singleton _, fun a ha' b hb hab => ?_⟩
    rw [List.map_cons, List.map_nil, List.mem_singleton] at hb
    obtain ⟨x, hx, rfl⟩ := List.mem_map.mp ha'
    obtain ⟨k, hk, hxid⟩ := h.issued x hx
    have := Table.serial_injective _ (hxid.symm.trans (hab.trans (hb.trans hid)))
    omega
  · rw [ha, List.mem_append, List.mem_singleton] at ha'
    rcases ha' with ha' | rfl
    · exact h.counters a ha'
    · omega
  · obtain ⟨a, ha', hrest⟩ := h.numbered i (hi ▸ hi')
    exact ⟨a, ha ▸ List.mem_append_left _ ha', hrest⟩

/-- Drafting an invoice of `account` under the number its counter gave and moving the counter on. -/
theorem draft (h : t.Counted n) {account : Uuid} {now : Instant} {acc : Account} {inv : Invoice}
    (hn : n.accounts ≤ n'.accounts) (hacc : Accounts.lookup account t = some acc)
    (hinv : inv.accountId = account)
    (hnum : inv.number = invoiceNumber acc.invoiceNumberPrefix acc.nextInvoiceNumber)
    (ha : t'.accounts = t.accounts.map (Accounts.countInvoice account now))
    (hi : t'.invoices = t.invoices ++ [inv]) : t'.Counted n' := by
  obtain ⟨hmem, hid⟩ := Accounts.lookup_some hacc
  refine ⟨fun a ha' => ?_, ?_, fun a ha' => ?_, fun i hi' => ?_⟩
  · rw [ha] at ha'
    obtain ⟨x, hx, rfl⟩ := List.mem_map.mp ha'
    obtain ⟨k, hk, hxid⟩ := h.issued x hx
    exact ⟨k, Nat.le_trans hk hn, by rw [Accounts.countInvoice_id, hxid]⟩
  · rw [ha, List.map_map]
    convert h.ids using 1
    exact List.map_congr_left fun x _ => Accounts.countInvoice_id
  · rw [ha] at ha'
    obtain ⟨x, hx, rfl⟩ := List.mem_map.mp ha'
    have hc := h.counters x hx
    by_cases hx' : x.id = account
    · have := Accounts.countInvoice_of_eq now hx'
      omega
    · rw [Accounts.countInvoice_of_ne hx']
      exact hc
  · rw [hi, List.mem_append, List.mem_singleton] at hi'
    rcases hi' with hi' | rfl
    · -- an invoice already there keeps its account, whose counter only grew
      obtain ⟨a, ha', hacc', j, hj, hjk, hnum'⟩ := h.numbered i hi'
      refine ⟨Accounts.countInvoice account now a, ha ▸ List.mem_map_of_mem ha', by simp [hacc'],
        j, hj, ?_, by simp [hnum']⟩
      by_cases ha'' : a.id = account
      · have := Accounts.countInvoice_of_eq now ha''
        omega
      · rw [Accounts.countInvoice_of_ne ha'']
        exact hjk
    · -- the new invoice took the number the counter stood at
      have hc := h.counters acc hmem
      have := Accounts.countInvoice_of_eq now hid
      exact ⟨Accounts.countInvoice account now acc, ha ▸ List.mem_map_of_mem hmem,
        by simp [hid, hinv], acc.nextInvoiceNumber, hc.1, by omega, by simp [hnum]⟩

/-- With identities unique, the counter of an account is the one its invoices count against. -/
theorem counter_of_mem (h : t.Counted n) {a : Account} (ha : a ∈ t.accounts) :
    t.counter a.id = some (a.invoiceNumberPrefix, a.nextInvoiceNumber, a.monthlyInvoiceCount) := by
  simp [Tables.counter, Accounts.lookup_of_mem h.ids ha]

/-- No invoice of an account has the number its counter stands at. -/
theorem fresh (h : t.Counted n) {account : Uuid} {p : String} {k m : Int}
    (hc : t.counter account = some (p, k, m)) :
    ∀ i ∈ t.invoices, i.accountId = account → i.number ≠ invoiceNumber p k := by
  intro i hi hacc hnum
  obtain ⟨a, ha, hid, j, hj, hjk, hnum'⟩ := h.numbered i hi
  rw [← hacc, ← hid, h.counter_of_mem ha] at hc
  obtain ⟨rfl, rfl, rfl⟩ : a.invoiceNumberPrefix = p ∧ a.nextInvoiceNumber = k ∧
      a.monthlyInvoiceCount = m := by simpa using hc
  have := invoiceNumber_inj (by omega) (by omega) (hnum'.symm.trans hnum)
  omega

end Tables.Counted

/-- What one change does to the counter of `account` and which numbers it gives out. -/
inductive CounterStep (account : Uuid) (c c' : Tables) : Prop
  /-- The counter stays and no invoice of the account appears. -/
  | same (counter : c'.counter account = c.counter account)
      (numbers : c.newNumbers account c' = [])
  /-- One invoice of the account appears, under the number the counter stood at, and the counter
  and the month's count go up by one. -/
  | next (p : String) (k m : Int) (before : c.counter account = some (p, k, m))
      (after : c'.counter account = some (p, k + 1, m + 1))
      (numbers : c.newNumbers account c' = [invoiceNumber p k])
  /-- The account is opened, counting from one. -/
  | opened (p : String) (before : c.counter account = none)
      (after : c'.counter account = some (p, 1, 0)) (numbers : c.newNumbers account c' = [])

namespace Service

variable {account invoice : Uuid} {c c' : Tables} {n : Serials}

/-- A draft appended one invoice of `account`, under a new identity and the number the account's
counter stood at, and counted it against the account. -/
theorem Drafted.appended {r : InvoiceRequest} {inv : Invoice} (h : Drafted account r c n inv c') :
    ∃ acc now, Accounts.lookup account c = some acc ∧ inv.accountId = account ∧
      inv.id = Table.serial .invoices (n.invoices + 1) ∧
      Column.varchar 50 (invoiceNumber acc.invoiceNumberPrefix acc.nextInvoiceNumber) =
        .ok inv.number ∧
      c'.invoices = c.invoices ++ [inv] ∧
      c'.accounts = c.accounts.map (Accounts.countInvoice account now) := by
  obtain ⟨totals, acc, issue, due, currency, template, now, now', t, rows, -, -, -, found, -,
    written, -⟩ := h
  obtain ⟨rfl, hnumber, hh, -, -⟩ := Invoices.insertRow_ok written
  exact ⟨acc, now', found, hh.accountId_eq, hh.id_eq, hnumber, rfl, rfl⟩

/-- A draft is found under its account and its new identity in the tables it was published to:
no invoice before it had that identity. -/
theorem Drafted.lookup_self {r : InvoiceRequest} {inv : Invoice} (h : Drafted account r c n inv c')
    (hl : c.Linked n) : Invoices.lookup account inv.id c' = some inv := by
  obtain ⟨acc, now, -, hacc, hid, -, hi, -⟩ := h.appended
  have hnone : c.invoices.find? (fun i => i.accountId == account && i.id == inv.id) = none := by
    refine List.find?_eq_none.mpr fun x hx => ?_
    have hx' : x.id ≠ inv.id := hid ▸ hl.fresh hx
    simp [hx']
  simp [Invoices.lookup, hi, List.find?_append, hnone, hacc]

/-- An edit keeps the accounts and rewrites one invoice in place. -/
theorem Revised.invoicesFrom {r : InvoiceChanges} (h : Revised account invoice r c c') :
    c'.accounts = c.accounts ∧ c.InvoicesFrom c' := by
  cases h with
  | keep current row totals clientId issue due currency template now found _ _ _ header =>
    obtain ⟨hcur, -, rfl⟩ := Invoices.lookup_some found
    exact ⟨rfl, .put_row hcur ⟨header.id_eq, header.accountId_eq, header.number_eq⟩ rfl⟩
  | replace current row totals clientId issue due currency template now items rows found _ _ _
      header _ =>
    obtain ⟨hcur, -, rfl⟩ := Invoices.lookup_some found
    exact ⟨rfl, .put_row hcur ⟨header.id_eq, header.accountId_eq, header.number_eq⟩ rfl⟩

/-- A status change keeps the accounts and rewrites one invoice in place. -/
theorem Moved.invoicesFrom {r : StatusRequest} {now : Instant}
    (h : Moved account invoice r now c c') : c'.accounts = c.accounts ∧ c.InvoicesFrom c' := by
  obtain ⟨current, st, target, change, stamp, -, found, -, -⟩ := h
  obtain ⟨hcur, -, rfl⟩ := Invoices.lookup_some found
  -- the moved row keeps the identity, account and number of the invoice
  refine ⟨rfl, .put_row hcur ?_ rfl⟩
  exact ⟨rfl, rfl, rfl⟩

/-- A deletion keeps the accounts and only takes invoices away. -/
theorem Removed.invoicesFrom (h : Removed account invoice c c') :
    c'.accounts = c.accounts ∧ c.InvoicesFrom c' := by
  obtain ⟨current, -, -⟩ := h
  exact ⟨rfl, .of_subset fun i hi => (List.mem_filter.mp hi).1⟩

end Service

open Service

/-- Stamping a rendering keeps every invoice's identity, account and number. -/
theorem Tables.invoicesFrom_stamp (c : Tables) (account invoice : Uuid) (now : Instant) :
    c.InvoicesFrom { c with invoices := c.invoices.map fun x =>
      if x.accountId == account && x.id == invoice then { x with pdfGeneratedAt := some now }
      else x } :=
  .map (fun x _ => by split <;> exact ⟨rfl, rfl, rfl⟩) rfl

/-- Every change a call can make keeps the accounts counting their invoices. -/
theorem Change.counted {c c' : Tables} {n n' : Serials} (h : Change c n c' n') (hc : c.Counted n)
    (hn : n ≤ n') : c'.Counted n' := by
  have hn' : n.accounts ≤ n'.accounts := hn .accounts
  cases h with
  | keep => exact hc.of_invoicesFrom hn' rfl (.of_subset fun _ h => h)
  | openAccount input a now t _ opened counted =>
    obtain ⟨rfl, hid, -, hnext, hcount, -⟩ := Accounts.insertRow_row opened
    exact hc.openAccount hid (counted .accounts) ⟨hnext, hcount⟩ rfl rfl
  | clients cs => exact hc.of_invoicesFrom hn' rfl (.of_subset fun _ h => h)
  | draft account r inv t _ drafted =>
    obtain ⟨acc, now, found, hacc, -, hnumber, hi, ha⟩ := drafted.appended
    have hk := (hc.counters acc (Accounts.lookup_some found).1).1
    exact hc.draft hn' found hacc (varchar_invoiceNumber (by omega) hnumber) ha hi
  | revise account invoice r t _ _ revised =>
    obtain ⟨ha, hi⟩ := revised.invoicesFrom
    exact hc.of_invoicesFrom hn' ha hi
  | move account invoice r now t _ moved =>
    obtain ⟨ha, hi⟩ := moved.invoicesFrom
    exact hc.of_invoicesFrom hn' ha hi
  | remove account invoice t _ removed =>
    obtain ⟨ha, hi⟩ := removed.invoicesFrom
    exact hc.of_invoicesFrom hn' ha hi
  | stamp account invoice now => exact hc.of_invoicesFrom hn' rfl (c.invoicesFrom_stamp _ _ _)

/-- A change that keeps the accounts and rewrites invoices in place leaves every counter. -/
theorem CounterStep.of_invoicesFrom {account : Uuid} {c c' : Tables}
    (ha : c'.accounts = c.accounts) (hi : c.InvoicesFrom c') : CounterStep account c c' :=
  .same (by simp only [Tables.counter, Accounts.lookup_of_accounts ha]) (hi.newNumbers account)

/-- What each change does to the counter of an account. -/
theorem Change.counterStep {c c' : Tables} {n n' : Serials} (h : Change c n c' n')
    (hl : c.Linked n) (hc : c.Counted n) (account : Uuid) : CounterStep account c c' := by
  cases h with
  | keep => exact .of_invoicesFrom rfl (.of_subset fun _ h => h)
  | openAccount input a now t _ opened =>
    obtain ⟨rfl, -, -, hnext, hcount, -⟩ := Accounts.insertRow_row opened
    have hnew : c.newNumbers account { c with accounts := c.accounts ++ [a] } = [] :=
      (Tables.InvoicesFrom.of_subset fun _ h => h).newNumbers account
    have hlook : Accounts.lookup account { c with accounts := c.accounts ++ [a] } =
        (Accounts.lookup account c).or (if a.id = account then some a else none) :=
      Accounts.lookup_append rfl
    -- only an account not there before can be the one opened
    cases hbefore : Accounts.lookup account c with
    | some x => exact .same (by simp [Tables.counter, hlook, hbefore]) hnew
    | none =>
      by_cases ha : a.id = account
      · exact .opened a.invoiceNumberPrefix (by simp [Tables.counter, hbefore])
          (by simp [Tables.counter, hlook, hbefore, ha, hnext, hcount]) hnew
      · exact .same (by simp [Tables.counter, hlook, hbefore, ha]) hnew
  | clients cs => exact .of_invoicesFrom rfl (.of_subset fun _ h => h)
  | draft owner r inv t _ drafted =>
    obtain ⟨acc, now, found, hacc, hid, hnumber, hi, ha⟩ := drafted.appended
    have hlook : Accounts.lookup account c' =
        (Accounts.lookup account c).map (Accounts.countInvoice owner now) :=
      Accounts.lookup_countInvoice ha
    have hnew := Tables.newNumbers_append account (fun x hx => hid ▸ hl.fresh hx) hi
    by_cases howner : owner = account
    · -- the draft is the account's: it takes the number and moves the counter on
      subst howner
      obtain ⟨hmem, hid'⟩ := Accounts.lookup_some found
      have hk := (hc.counters acc hmem).1
      have hcount := Accounts.countInvoice_of_eq now hid'
      refine .next acc.invoiceNumberPrefix acc.nextInvoiceNumber acc.monthlyInvoiceCount
        (by simp [Tables.counter, found]) (by simp [Tables.counter, hlook, found, hcount]) ?_
      rw [hnew, if_pos hacc, varchar_invoiceNumber (by omega) hnumber]
    · -- another account's draft leaves this counter alone
      refine .same ?_ (by rw [hnew, if_neg (by rw [hacc]; exact howner)])
      simp only [Tables.counter, hlook]
      cases hx : Accounts.lookup account c with
      | none => rfl
      | some x =>
        have hxid := (Accounts.lookup_some hx).2
        rw [Option.map_some, Accounts.countInvoice_of_ne (by rw [hxid]; exact Ne.symm howner)]
  | revise owner invoice r t _ _ revised =>
    obtain ⟨ha, hi⟩ := revised.invoicesFrom
    exact .of_invoicesFrom ha hi
  | move owner invoice r now t _ moved =>
    obtain ⟨ha, hi⟩ := moved.invoicesFrom
    exact .of_invoicesFrom ha hi
  | remove owner invoice t _ removed =>
    obtain ⟨ha, hi⟩ := removed.invoicesFrom
    exact .of_invoicesFrom ha hi
  | stamp owner invoice now => exact .of_invoicesFrom rfl (c.invoicesFrom_stamp _ _ _)

/-- The accounts of every reachable store count their invoices. -/
theorem Reachable.counted {s : Store} (h : Reachable s) : s.committed.Counted s.serials :=
  h.tables_induction ⟨by simp, by simp, by simp, by simp⟩ fun _ _ _ _ hc hn hch =>
    hch.counted hc hn

/-- What one action of a session does to the counter of an account. -/
theorem Action.counterStep {s : Store} (hs : Reachable s) (a : Action) (account : Uuid) :
    CounterStep account s.committed (a.apply s).committed :=
  (a.changed hs.closed).change.counterStep hs.linked hs.counted account

theorem Tables.Counted.counter_spec {t : Tables} {n : Serials} (h : t.Counted n) {account : Uuid}
    {p : String} {k m : Int} (hc : t.counter account = some (p, k, m)) : 1 ≤ k ∧ m = k - 1 := by
  simp only [Tables.counter, Option.map_eq_some_iff, Prod.mk.injEq] at hc
  obtain ⟨a, ha, -, rfl, rfl⟩ := hc
  exact h.counters a (Accounts.lookup_some ha).1

/-- From a reachable store whose account counter stands at `k`, an action leaves the counter and
the account's numbers alone, or issues the number of `k` and moves the counter on by one. -/
theorem Action.numbering_step {s : Store} (hs : Reachable s) (a : Action) {account : Uuid}
    {p : String} {k m : Int} (hcounter : s.committed.counter account = some (p, k, m)) :
    ((a.apply s).committed.counter account = some (p, k, m) ∧
        s.committed.newNumbers account (a.apply s).committed = []) ∨
      ((a.apply s).committed.counter account = some (p, k + 1, m + 1) ∧
        s.committed.newNumbers account (a.apply s).committed = [invoiceNumber p k]) := by
  cases a.counterStep hs account with
  | same hc hn => exact .inl ⟨hc.trans hcounter, hn⟩
  | next p' k' m' before after hn =>
    obtain ⟨rfl, rfl, rfl⟩ : p = p' ∧ k = k' ∧ m = m' := by simpa [hcounter] using before
    exact .inr ⟨after, hn⟩
  | opened p' before => simp [hcounter] at before

namespace Service

open StoreOp

variable {account invoice : Uuid} {s s' : Store} {d : InvoiceDetails} {p : String} {k m : Int}

/-- A read of an invoice that succeeded gives its published row. -/
theorem getInvoice_ok (h : (getInvoice account invoice).runOn s = (.ok d, s')) :
    Invoices.lookup account invoice s.committed = some d.invoice := by
  unfold getInvoice hydrate at h
  obtain ⟨found, s₁, hfind, h₁⟩ := bind_eq_ok.mp h
  obtain ⟨rfl, -⟩ := query_read_ok hfind
  obtain ⟨i, s₂, hmissing, h₂⟩ := bind_eq_ok.mp h₁
  obtain ⟨hfound, rfl⟩ := orMissing_ok hmissing
  obtain ⟨items, s₃, -, h₃⟩ := bind_eq_ok.mp h₂
  obtain ⟨client, s₄, -, h₄⟩ := bind_eq_ok.mp h₃
  simp only [runOn_pure, Prod.mk.injEq, Except.ok.injEq] at h₄
  rw [← h₄.1]
  simpa using hfound

/-- A creation that returns gives back the invoice it stored, numbered where the account's
counter stood. -/
theorem createInvoice_number {r : InvoiceRequest} (hp : s.pending = none)
    (hl : s.committed.Linked s.serials) (hc : s.committed.Counted s.serials)
    (hcounter : s.committed.counter account = some (p, k, m))
    (h : (createInvoice account r).runOn s = (.ok d, s')) : d.invoice.number = invoiceNumber p k := by
  unfold createInvoice at h
  obtain ⟨inv, s₁, hstore, hget⟩ := bind_eq_ok.mp h
  obtain ⟨-, -, hdrafted, -⟩ := storeInvoice_billed hp hstore
  obtain ⟨acc, now, found, -, -, hnumber, -, -⟩ := hdrafted.appended
  have hk := (hc.counters acc (Accounts.lookup_some found).1).1
  -- the read-back finds the new invoice, the only one with its identity
  obtain rfl : d.invoice = inv :=
    Option.some.inj ((getInvoice_ok hget).symm.trans (hdrafted.lookup_self hl))
  simp only [Tables.counter, found, Option.map_some, Option.some.injEq, Prod.mk.injEq] at hcounter
  obtain ⟨rfl, rfl, -⟩ := hcounter
  exact varchar_invoiceNumber (by omega) hnumber

/-- A duplication that returns read the source and its items, changing no row, and then created
a copy issued on the day of `now` and due thirty days later. -/
theorem duplicateInvoice_ok_copies {now : Instant}
    (h : (duplicateInvoice account invoice now).runOn s = (.ok d, s')) :
    ∃ r s₁, r.issueDate = now.date.text ∧ r.dueDate = (now.date.addDays 30).text ∧
      s₁.SameRows s ∧ (createInvoice account r).runOn s₁ = (.ok d, s') := by
  unfold duplicateInvoice at h
  obtain ⟨found, s₁, hfind, h₁⟩ := bind_eq_ok.mp h
  obtain ⟨-, hs₁⟩ := query_read_ok hfind
  obtain ⟨source, s₂, hmissing, h₂⟩ := bind_eq_ok.mp h₁
  obtain ⟨-, rfl⟩ := orMissing_ok hmissing
  obtain ⟨items, s₃, hitems, h₃⟩ := bind_eq_ok.mp h₂
  obtain ⟨-, hs₃⟩ := query_read_ok hitems
  exact ⟨_, s₃, rfl, rfl, hs₃.trans hs₁, h₃⟩

/-- A duplication that returns gives back the copy, numbered where the account's counter stood. -/
theorem duplicateInvoice_number {now : Instant} (hp : s.pending = none)
    (hl : s.committed.Linked s.serials) (hc : s.committed.Counted s.serials)
    (hcounter : s.committed.counter account = some (p, k, m))
    (h : (duplicateInvoice account invoice now).runOn s = (.ok d, s')) :
    d.invoice.number = invoiceNumber p k := by
  obtain ⟨r, s₁, -, -, hs, h₁⟩ := duplicateInvoice_ok_copies h
  rw [← hs.committed] at hl hc hcounter
  rw [← hs.serials] at hl hc
  exact createInvoice_number (hs.pending.trans hp) hl hc hcounter h₁

end Service

/-- The numbers a session gave the invoices it created for `account`, in order. -/
def Action.numbersIn (account : Uuid) : List Action → Store → List String
  | [], _ => []
  | a :: acts, s =>
    s.committed.newNumbers account (a.apply s).committed ++ numbersIn account acts (a.apply s)

theorem Action.runAll_concat (acts : List Action) (a : Action) (s : Store) :
    runAll (acts ++ [a]) s = a.apply (runAll acts s) := by
  simp [runAll]

theorem Action.numbersIn_concat (account : Uuid) (acts : List Action) (a : Action) (s : Store) :
    numbersIn account (acts ++ [a]) s = numbersIn account acts s ++
      (runAll acts s).committed.newNumbers account (a.apply (runAll acts s)).committed := by
  induction acts generalizing s with
  | nil => simp [numbersIn, runAll]
  | cons b acts ih =>
    rw [List.cons_append, numbersIn, ih, numbersIn, List.append_assoc]
    rfl

/-- A session from the empty store gave the invoices of an account the numbers one, two, … up to
below its counter, in order; none before the account was opened. -/
theorem Action.numbersIn_run (account : Uuid) (acts : List Action) :
    ((runAll acts {}).committed.counter account = none → numbersIn account acts {} = []) ∧
    ∀ p k m, (runAll acts {}).committed.counter account = some (p, k, m) →
      numbersIn account acts {} =
        (List.range (k - 1).toNat).map fun j : Nat => invoiceNumber p (j + 1) := by
  -- induction on the session from its end: each action is one counter step
  induction acts using List.reverseRecOn with
  | nil => exact ⟨fun _ => rfl, fun p k m h => by simp [Tables.counter, Accounts.lookup, runAll] at h⟩
  | append_singleton acts a ih =>
    have hs := Reachable.empty.runAll acts
    obtain ⟨ihnone, ihsome⟩ := ih
    rw [runAll_concat, numbersIn_concat]
    cases a.counterStep hs account with
    | same hcounter hnums =>
      rw [hcounter, hnums, List.append_nil]
      exact ⟨ihnone, ihsome⟩
    | next p k m before after hnums =>
      have hk := (hs.counted.counter_spec before).1
      refine ⟨fun h => by simp [after] at h, fun p' k' m' h => ?_⟩
      obtain ⟨rfl, rfl, rfl⟩ : p = p' ∧ k + 1 = k' ∧ m + 1 = m' := by simpa [after] using h
      have hlen : (k + 1 - 1).toNat = (k - 1).toNat + 1 := by omega
      have hlast : ((k - 1).toNat : Int) + 1 = k := by omega
      rw [ihsome p k m before, hnums, hlen, List.range_succ, List.map_append]
      simp only [List.map_cons, List.map_nil, hlast]
    | opened p before after hnums =>
      refine ⟨fun h => by simp [after] at h, fun p' k' m' h => ?_⟩
      obtain ⟨rfl, rfl, rfl⟩ : p = p' ∧ (1 : Int) = k' ∧ (0 : Int) = m' := by simpa [after] using h
      rw [ihnone before, hnums]
      rfl

/-- Numbering over a whole session from the empty store. When an account's counter stands at `k`,
the session gave the account's invoices exactly the numbers one to `k - 1`, in order and never
one twice, deleted invoices included; the month's count is `k - 1`; and no invoice of the account
has number `k`, so the uniqueness of numbers never turns a creation away. The next action either
leaves the counter and creates no invoice of the account, or creates exactly one, numbered `k`,
and moves the counter and the count on by one, whatever it returns; and a creation or a
duplication that returns gives back number `k`. -/
theorem invoice_numbers_consecutive (acts : List Action) (account : Uuid) {p : String}
    {k m : Int} (hcounter : (Action.runAll acts {}).committed.counter account = some (p, k, m)) :
    let s := Action.runAll acts {}
    Action.numbersIn account acts {} =
        (List.range (k - 1).toNat).map (fun j : Nat => invoiceNumber p (j + 1)) ∧
      (Action.numbersIn account acts {}).Nodup ∧ m = k - 1 ∧
      (∀ i ∈ s.committed.invoices, i.accountId = account → i.number ≠ invoiceNumber p k) ∧
      (∀ a : Action,
        ((a.apply s).committed.counter account = some (p, k, m) ∧
            s.committed.newNumbers account (a.apply s).committed = []) ∨
          ((a.apply s).committed.counter account = some (p, k + 1, m + 1) ∧
            s.committed.newNumbers account (a.apply s).committed = [invoiceNumber p k])) ∧
      (∀ r d s', (createInvoice account r).runOn s = (.ok d, s') →
        d.invoice.number = invoiceNumber p k) ∧
      (∀ invoice now d s', (duplicateInvoice account invoice now).runOn s = (.ok d, s') →
        d.invoice.number = invoiceNumber p k) := by
  intro s
  have hs : Reachable s := Reachable.empty.runAll acts
  have hcounter' : s.committed.counter account = some (p, k, m) := hcounter
  have hnums := (Action.numbersIn_run account acts).2 p k m hcounter
  obtain ⟨-, hm⟩ := hs.counted.counter_spec hcounter
  refine ⟨hnums, ?_, hm, hs.counted.fresh hcounter, fun a => ?_, fun r d s' h => ?_,
    fun invoice now d s' h => ?_⟩
  · rw [hnums]
    exact invoiceNumbers_nodup p _
  · exact a.numbering_step hs hcounter'
  · exact createInvoice_number hs.closed hs.linked hs.counted hcounter h
  · exact duplicateInvoice_number hs.closed hs.linked hs.counted hcounter h

/-- After the session that opens an account, a client and one invoice, the account's counter
stands at two, and everything above holds there. -/
theorem invoicingSession_numbered :
    (Action.runAll invoicingSession {}).committed.counter owner = some ("INV", 2, 1) ∧
      let s := Action.runAll invoicingSession {}
      Action.numbersIn owner invoicingSession {} =
          (List.range (2 - 1 : Int).toNat).map (fun j : Nat => invoiceNumber "INV" (j + 1)) ∧
        (Action.numbersIn owner invoicingSession {}).Nodup ∧ (1 : Int) = 2 - 1 ∧
        (∀ i ∈ s.committed.invoices, i.accountId = owner → i.number ≠ invoiceNumber "INV" 2) ∧
        (∀ a : Action,
          ((a.apply s).committed.counter owner = some ("INV", 2, 1) ∧
              s.committed.newNumbers owner (a.apply s).committed = []) ∨
            ((a.apply s).committed.counter owner = some ("INV", 2 + 1, 1 + 1) ∧
              s.committed.newNumbers owner (a.apply s).committed = [invoiceNumber "INV" 2])) ∧
        (∀ r d s', (createInvoice owner r).runOn s = (.ok d, s') →
          d.invoice.number = invoiceNumber "INV" 2) ∧
        (∀ invoice now d s', (duplicateInvoice owner invoice now).runOn s = (.ok d, s') →
          d.invoice.number = invoiceNumber "INV" 2) := by
  have hc : (Action.runAll invoicingSession {}).committed.counter owner = some ("INV", 2, 1) := by
    simp only [invoicingSession, Action.runAll, List.foldl, Action.apply, provision_owner]
    decide +kernel
  exact ⟨hc, invoice_numbers_consecutive invoicingSession owner hc⟩

/-- A creation whose transaction committed but whose read-back of the items failed reports an
error, yet has taken its number: the next creation, the first of the account to return, is
numbered two. -/
theorem creation_after_failed_read_back_numbered_two :
    let failed := (createInvoice owner workRequest).runOn (Action.runAll interruptedSession {})
    failed.1.toOption = none ∧
      ((createInvoice owner workRequest).runOn (failed.2.setFault none 0)).1.toOption.map
        (·.invoice.number) = some "INV-0002" := by
  simp only [interruptedSession, Action.runAll, List.foldl, Action.apply, provision_owner]
  decide +kernel

end Invoicing
