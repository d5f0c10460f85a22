import Invoicing.Proofs.Session
import Mathlib.Data.List.Nodup

/-!
# Integrity of the published tables

The tables of every reachable store hold together (`Tables.Linked`): each invoice has an identity
the store handed out, no two invoices share one, and every item names an invoice of its own
account. A new draft takes the next identity, which no invoice has yet, because identities are
the decimal digits of a count read as hexadecimal digits (`Table.serial_injective`); a deletion
takes the items of the invoices it deletes along; every other write keeps the identities and
accounts of the rows it rewrites.

What is proved here:
* `Table.serial_injective`: distinct counts give distinct identities.
* `Change.linked`: every change a call can make keeps the tables linked.
* `Reachable.linked`: the tables of every reachable store are linked.
-/

namespace Invoicing

namespace Table

/-- The decimal digits of `n` read as hexadecimal digits: the last part of `serial`. -/
def hexOfDecimal (n : Nat) : Nat :=
  (Nat.toDigits 10 n).foldl (fun acc c => acc * 16 + (c.toNat - 48)) 0

theorem hexOfDecimal_eq (n : Nat) :
    hexOfDecimal n = if n < 10 then n else 16 * hexOfDecimal (n / 10) + n % 10 := by
  unfold hexOfDecimal
  rw [Nat.toDigits_eq_if (by decide)]
  split
  · rename_i h
    simp [Nat.toNat_digitChar_sub_48_of_lt_ten h]
  · simp [List.foldl_append, Nat.toNat_digitChar_sub_48_of_lt_ten (Nat.mod_lt n (by decide))]
    omega

theorem le_hexOfDecimal (n : Nat) : n ≤ hexOfDecimal n := by
  induction n using Nat.strongRecOn with
  | ind n ih =>
    rw [hexOfDecimal_eq]
    split
    · exact Nat.le_refl n
    · have := ih (n / 10) (by omega)
      omega

/-- The last hexadecimal digit is the last decimal digit, and the ones before it are the
number without it; a number of two or more digits reads as at least sixteen. -/
theorem hexOfDecimal_injective : Function.Injective hexOfDecimal := by
  intro n
  induction n using Nat.strongRecOn with
  | ind n ih =>
    intro m h
    rw [hexOfDecimal_eq n, hexOfDecimal_eq m] at h
    have hn := le_hexOfDecimal (n / 10)
    have hm := le_hexOfDecimal (m / 10)
    split at h <;> split at h
    · exact h
    · omega
    · omega
    · have hd : hexOfDecimal (n / 10) = hexOfDecimal (m / 10) := by omega
      have := ih (n / 10) (by omega) hd
      omega

theorem serial_injective (t : Table) : Function.Injective t.serial := by
  intro n m h
  simp only [serial, Uuid.mk.injEq] at h
  exact hexOfDecimal_injective (by unfold hexOfDecimal; omega)

end Table

/-- The published tables hold together: every invoice has an identity the store handed out, no
two invoices share one, and every item names an invoice of its own account. -/
structure Tables.Linked (t : Tables) (n : Serials) : Prop where
  issued : ∀ i ∈ t.invoices, ∃ k ≤ n.invoices, i.id = Table.serial .invoices k
  ids : (t.invoices.map (·.id)).Nodup
  owned : ∀ it ∈ t.items, ∃ i ∈ t.invoices, i.id = it.invoiceId ∧ i.accountId = it.accountId

namespace Tables.Linked

variable {t t' : Tables} {n n' : Serials}

theorem eq_of_id (h : t.Linked n) {x y : Invoice} (hx : x ∈ t.invoices) (hy : y ∈ t.invoices)
    (hid : x.id = y.id) : x = y :=
  List.inj_on_of_nodup_map h.ids hx hy hid

/-- The next identity is no invoice's yet. -/
theorem fresh (h : t.Linked n) {x : Invoice} (hx : x ∈ t.invoices) :
    x.id ≠ Table.serial .invoices (n.invoices + 1) := by
  obtain ⟨k, hk, hid⟩ := h.issued x hx
  rw [hid]
  intro h'
  have := Table.serial_injective _ h'
  omega

/-- Handing out more identities, or changing the other tables, keeps the tables linked. -/
theorem of_eq (h : t.Linked n) (hn : n.invoices ≤ n'.invoices) (hi : t'.invoices = t.invoices)
    (hit : t'.items = t.items) : t'.Linked n' := by
  refine ⟨fun i hi' => ?_, hi ▸ h.ids, fun it hit' => hi ▸ h.owned it (hit ▸ hit')⟩
  obtain ⟨k, hk, hid⟩ := h.issued i (hi ▸ hi')
  exact ⟨k, Nat.le_trans hk hn, hid⟩

theorem mono (h : t.Linked n) (hn : n.invoices ≤ n'.invoices) : t.Linked n' :=
  h.of_eq hn rfl rfl

/-- Rewriting invoices in place, each keeping its identity and its account. -/
theorem map_invoices (h : t.Linked n) {f : Invoice → Invoice}
    (hf : ∀ x ∈ t.invoices, (f x).id = x.id ∧ (f x).accountId = x.accountId)
    (hi : t'.invoices = t.invoices.map f) (hit : t'.items = t.items) : t'.Linked n := by
  have hids : t'.invoices.map (·.id) = t.invoices.map (·.id) := by
    rw [hi, List.map_map]
    exact List.map_congr_left fun x hx => (hf x hx).1
  refine ⟨fun i hi' => ?_, hids ▸ h.ids, fun it hit' => ?_⟩
  · rw [hi] at hi'
    obtain ⟨x, hx, rfl⟩ := List.mem_map.mp hi'
    rw [(hf x hx).1]
    exact h.issued x hx
  · obtain ⟨x, hx, hid, hacc⟩ := h.owned it (hit ▸ hit')
    refine ⟨f x, hi ▸ List.mem_map_of_mem hx, ?_, ?_⟩
    · rw [(hf x hx).1, hid]
    · rw [(hf x hx).2, hacc]

/-- Replacing the items of an invoice by rows of an invoice of their account. -/
theorem replace_items (h : t.Linked n) {keep : Item → Bool} {rows : List Item}
    (hrows : ∀ it ∈ rows, ∃ i ∈ t.invoices, i.id = it.invoiceId ∧ i.accountId = it.accountId)
    (hi : t'.invoices = t.invoices) (hit : t'.items = t.items.filter keep ++ rows) :
    t'.Linked n := by
  refine ⟨hi ▸ h.issued, hi ▸ h.ids, fun it hit' => ?_⟩
  rw [hi]
  rw [hit, List.mem_append] at hit'
  rcases hit' with hit' | hit'
  · exact h.owned it (List.mem_filter.mp hit').1
  · exact hrows it hit'

/-- Deleting invoices together with their items. -/
theorem remove (h : t.Linked n) (gone : Invoice → Bool)
    (hi : t'.invoices = t.invoices.filter fun x => !gone x)
    (hit : t'.items = t.items.filter fun it =>
      !((t.invoices.filter gone).any (·.id == it.invoiceId))) : t'.Linked n := by
  refine ⟨fun i hi' => h.issued i (List.mem_filter.mp (hi ▸ hi')).1, ?_, fun it hit' => ?_⟩
  · rw [hi]
    exact h.ids.sublist ((List.filter_sublist).map _)
  · rw [hit, List.mem_filter] at hit'
    obtain ⟨hit', hkept⟩ := hit'
    obtain ⟨x, hx, hid, hacc⟩ := h.owned it hit'
    -- the invoice of a kept item was not deleted, or the item would have gone with it
    have hx' : gone x = false := by
      by_contra hgone
      have : ((t.invoices.filter gone).any (·.id == it.invoiceId)) = true :=
        List.any_eq_true.mpr ⟨x, List.mem_filter.mpr ⟨hx, by simpa using hgone⟩, by simp [hid]⟩
      simp [this] at hkept
    exact ⟨x, hi ▸ List.mem_filter.mpr ⟨hx, by simp [hx']⟩, hid, hacc⟩

/-- Adding an invoice under the next identity, with items of its own. -/
theorem insert (h : t.Linked n) {inv : Invoice} {rows : List Item}
    (hid : inv.id = Table.serial .invoices (n.invoices + 1)) (hn : n.invoices + 1 ≤ n'.invoices)
    (hrows : ∀ it ∈ rows, it.invoiceId = inv.id ∧ it.accountId = inv.accountId)
    (hi : t'.invoices = t.invoices ++ [inv]) (hit : t'.items = t.items ++ rows) :
    t'.Linked n' := by
  refine ⟨fun i hi' => ?_, ?_, fun it hit' => ?_⟩
  · rw [hi, List.mem_append, List.mem_singleton] at hi'
    rcases hi' with hi' | rfl
    · obtain ⟨k, hk, hid'⟩ := h.issued i hi'
      exact ⟨k, by omega, hid'⟩
    · exact ⟨_, hn, hid⟩
  · rw [hi, List.map_append, List.nodup_append]
    refine ⟨h.ids, List.nodup_singleton _, ?_⟩
    intro a ha b hb hab
    rw [List.map_cons, List.map_nil, List.mem_singleton] at hb
    obtain ⟨x, hx, rfl⟩ := List.mem_map.mp ha
    exact h.fresh hx (hab.trans (hb.trans hid))
  · rw [hi]
    rw [hit, List.mem_append] at hit'
    rcases hit' with hit' | hit'
    · obtain ⟨x, hx, hx'⟩ := h.owned it hit'
      exact ⟨x, List.mem_append_left _ hx, hx'⟩
    · obtain ⟨hinv, hacc⟩ := hrows it hit'
      exact ⟨inv, List.mem_append_right _ (List.mem_singleton_self _), hinv.symm, hacc.symm⟩

/-- Putting `row` in place of the invoice with its identity, when the row keeps the invoice's
identity and account. -/
theorem put_row (h : t.Linked n) {current row : Invoice} (hcur : current ∈ t.invoices)
    (hid : row.id = current.id) (hacc : row.accountId = current.accountId) :
    ∀ x ∈ t.invoices, (if x.id == current.id then row else x).id = x.id ∧
      (if x.id == current.id then row else x).accountId = x.accountId := by
  intro x hx
  by_cases hxid : x.id = current.id
  · obtain rfl := h.eq_of_id hx hcur hxid
    simp [hid, hacc]
  · simp [hxid]

end Tables.Linked

open Tables.Linked

/-- Every change a call can make keeps the tables linked. -/
theorem Change.linked {c c' : Tables} {n n' : Serials} (h : Change c n c' n') (hc : c.Linked n)
    (hn : n ≤ n') : c'.Linked n' := by
  have hn' : n.invoices ≤ n'.invoices := hn .invoices
  cases h with
  | keep => exact hc.of_eq hn' rfl rfl
  | openAccount input a now t _ opened =>
    obtain ⟨rfl, -⟩ := Accounts.insertRow_row opened
    exact hc.of_eq hn' rfl rfl
  | clients cs => exact hc.of_eq hn' rfl rfl
  | draft account r inv t _ drafted counted =>
    obtain ⟨totals, acc, issue, due, currency, template, now, now', t, rows, -, -, -, -, -,
      written, stored⟩ := drafted
    obtain ⟨rfl, -, hh, -, -⟩ := Invoices.insertRow_ok written
    refine hc.insert hh.id_eq (counted .invoices) (fun it hit => ?_) rfl rfl
    rw [Items.stores_mem stored hit |>.1, Items.stores_mem stored hit |>.2, hh.accountId_eq]
    exact ⟨rfl, rfl⟩
  | revise account invoice r t _ _ revised =>
    cases revised with
    | keep current row totals clientId issue due currency template now found _ _ _ header =>
      obtain ⟨hcur, -, rfl⟩ := Invoices.lookup_some found
      exact (hc.mono hn').map_invoices (hc.put_row hcur header.id_eq header.accountId_eq) rfl rfl
    | replace current row totals clientId issue due currency template now items rows found _ _ _
        header stored =>
      obtain ⟨hcur, hacc, rfl⟩ := Invoices.lookup_some found
      -- the new rows belong to the invoice they replace the items of
      have hrows : ∀ it ∈ rows, ∃ i ∈ c.invoices, i.id = it.invoiceId ∧
          i.accountId = it.accountId := fun it hit =>
        ⟨current, hcur, (Items.stores_mem stored hit).1.symm, hacc.trans (Items.stores_mem stored hit).2.symm⟩
      have hitems : ({ c with items := c.items.filter (fun it =>
          !(it.accountId == account && it.invoiceId == current.id)) ++ rows } : Tables).Linked n' :=
        (hc.mono hn').replace_items hrows rfl rfl
      exact hitems.map_invoices (hc.put_row hcur header.id_eq header.accountId_eq) rfl rfl
  | move account invoice r now t _ moved =>
    obtain ⟨current, st, target, change, stamp, -, found, -, -⟩ := moved
    obtain ⟨hcur, -, rfl⟩ := Invoices.lookup_some found
    -- the moved row keeps the identity and the account of the invoice
    refine (hc.mono hn').map_invoices (hc.put_row hcur ?_ ?_) rfl rfl <;> rfl
  | remove account invoice t _ removed =>
    obtain ⟨current, -, -⟩ := removed
    exact (hc.mono hn').remove (fun x => x.accountId == account && x.id == invoice) rfl rfl
  | stamp account invoice now =>
    refine (hc.mono hn').map_invoices (fun x _ => ?_) rfl rfl
    constructor <;> split <;> rfl

/-- The tables of every reachable store are linked. -/
theorem Reachable.linked {s : Store} (h : Reachable s) : s.committed.Linked s.serials :=
  h.tables_induction ⟨by simp, by simp, by simp⟩ fun _ _ _ _ hc hn hch => hch.linked hc hn

end Invoicing
