import Invoicing.Proofs.Numbering
import Invoicing.Proofs.Calendar

/-!
# Dates written and read back

The service writes dates as `YYYY-MM-DD`, with a sign and at least four digits for a year outside
0 to 9999, and reads a date given as text after trimming the blanks around it. Every existing day
reads back from its text as that day, whatever blanks surround it (`parseDate_padded_text`).

Two operations read a date that was written as text:
* a status change to paid is given the paid date as text, and records midnight UTC of exactly
  the day written (`planStatusChange_paid_text`);
* a duplication writes the issue date, the day of the current instant, and the due date thirty
  days later into a creation request, which reads them back: the copy is issued and due on those
  very days (`duplicateInvoice_dated`).

What is proved here:
* `written_dates_read_back`: the three together.
-/

namespace Invoicing

open StoreOp Service

/-- Every character of the text is a blank. -/
def AllBlank (w : String) : Prop := ∀ c ∈ w.toList, isBlank c = true

instance : DecidablePred AllBlank := fun w =>
  decidable_of_iff (w.toList.all isBlank = true) List.all_eq_true

theorem Date.text_isEmpty (d : Date) : d.text.isEmpty = false := by
  simp [Date.text]

/-- A change to paid from a status that is not final, given the text of an existing day with
blanks around it, records midnight UTC of that day. -/
theorem planStatusChange_paid_text {current : InvoiceStatus} (hlive : current.isTerminal = false)
    {d : Date} (hv : d.isValid = true) {w₁ w₂ : String} (h₁ : AllBlank w₁) (h₂ : AllBlank w₂)
    (now : Instant) :
    planStatusChange current .paid (some (w₁ ++ d.text ++ w₂)) now =
      .ok ⟨.paid, some (Instant.ofDate d)⟩ := by
  have htrim : trimBlanks (w₁ ++ d.text ++ w₂) = d.text := by
    rw [Date.trimBlanks_pad h₁ h₂, Date.trimBlanks_text]
  simp only [planStatusChange, hlive, Bool.false_eq_true, if_false, if_true, Option.map_some,
    htrim, Date.text_isEmpty, Date.parseDate_text _ hv]
  rfl

namespace Service

variable {account invoice : Uuid} {s s' : Store} {d : InvoiceDetails} {now : Instant}

/-- A duplication that returns, from a store with no transaction open and its invoices linked,
answers with a copy issued on the day of `now` and due thirty days later, when both days exist. -/
theorem duplicateInvoice_dated (hp : s.pending = none) (hl : s.committed.Linked s.serials)
    (hissue : now.date.isValid = true) (hdue : (now.date.addDays 30).isValid = true)
    (h : (duplicateInvoice account invoice now).runOn s = (.ok d, s')) :
    d.invoice.issueDate = now.date ∧ d.invoice.dueDate = now.date.addDays 30 := by
  obtain ⟨r, s₁, hissueText, hdueText, hs, h₁⟩ := duplicateInvoice_ok_copies h
  unfold createInvoice at h₁
  obtain ⟨inv, s₂, hstore, hget⟩ := bind_eq_ok.mp h₁
  obtain ⟨-, -, hdrafted, -, -, -, -, -, -, -, hissued, hdued⟩ :=
    storeInvoice_billed (hs.pending.trans hp) hstore
  -- the read-back finds the copy, the only invoice with its identity
  rw [← hs.committed, ← hs.serials] at hl
  obtain rfl : d.invoice = inv :=
    Option.some.inj ((getInvoice_ok hget).symm.trans (hdrafted.lookup_self hl))
  rw [hissueText, Date.parseDate_text _ hissue, Except.ok.injEq] at hissued
  rw [hdueText, Date.parseDate_text _ hdue, Except.ok.injEq] at hdued
  exact ⟨hissued.symm, hdued.symm⟩

end Service

/-- The text of an existing day, within blanks, reads back as that day under every field name,
and a change to paid given it records midnight UTC of that day. A duplication that answers, from
every reachable store, is issued on the day of its instant and due thirty days later, the days
its request wrote, whenever both days exist. -/
theorem written_dates_read_back {d : Date} (hv : d.isValid = true) {w₁ w₂ : String}
    (h₁ : AllBlank w₁) (h₂ : AllBlank w₂) :
    (∀ field, parseDate field (w₁ ++ d.text ++ w₂) = .ok d) ∧
    (∀ current now, current.isTerminal = false →
      planStatusChange current .paid (some (w₁ ++ d.text ++ w₂)) now =
        .ok ⟨.paid, some (Instant.ofDate d)⟩) ∧
    ∀ s account invoice now res s', Reachable s → now.date.isValid = true →
      (now.date.addDays 30).isValid = true →
      (duplicateInvoice account invoice now).runOn s = (.ok res, s') →
        res.invoice.issueDate = now.date ∧ res.invoice.dueDate = now.date.addDays 30 :=
  ⟨fun field => Date.parseDate_padded_text field hv h₁ h₂,
    fun _ now hlive => planStatusChange_paid_text hlive hv h₁ h₂ now,
    fun _ _ _ _ _ _ hs hissue hdue h => duplicateInvoice_dated hs.closed hs.linked hissue hdue h⟩

/-- A year before the common era, between a space and a line feed. -/
theorem year_minus_one_read_back :
    (⟨-1, 1, 1⟩ : Date).isValid = true ∧ AllBlank " " ∧ AllBlank "\n" ∧
      ((∀ field, parseDate field (" " ++ (⟨-1, 1, 1⟩ : Date).text ++ "\n") = .ok ⟨-1, 1, 1⟩) ∧
      (∀ current now, current.isTerminal = false →
        planStatusChange current .paid (some (" " ++ (⟨-1, 1, 1⟩ : Date).text ++ "\n")) now =
          .ok ⟨.paid, some (Instant.ofDate ⟨-1, 1, 1⟩)⟩) ∧
      ∀ s account invoice now res s', Reachable s → now.date.isValid = true →
        (now.date.addDays 30).isValid = true →
        (duplicateInvoice account invoice now).runOn s = (.ok res, s') →
          res.invoice.issueDate = now.date ∧ res.invoice.dueDate = now.date.addDays 30) :=
  have hv : (⟨-1, 1, 1⟩ : Date).isValid = true := by decide
  have h₁ : AllBlank " " := by decide
  have h₂ : AllBlank "\n" := by decide
  ⟨hv, h₁, h₂, written_dates_read_back hv h₁ h₂⟩

end Invoicing
