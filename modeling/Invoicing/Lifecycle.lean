import Invoicing.Calendar.Instant
import Invoicing.Status
import Invoicing.Error

/-!
# Invoice lifecycle

Dates given by users are trimmed and read as `YYYY-MM-DD` (`Date.parse?`); a failure names the
field and repeats the text as given.

A status change is refused when the invoice is paid or canceled; otherwise any status may
follow any other. Moving to paid records when: midnight UTC of the given paid date, or the
current instant when no date (or a blank one) is given. Only drafts may be edited or deleted.

What is proved here:
* `planStatusChange_terminal`: a terminal invoice refuses every change.
* `planStatusChange_paidAt`: only a change to paid records a payment instant.
-/

namespace Invoicing

/-- Reads a user-given date for `field` (see the module comment). -/
def parseDate (field value : String) : Except InvoiceError Date :=
  match Date.parse? (trimBlanks value) with
  | some d => .ok d
  | none => .error (.invalidInput ("invalid " ++ field ++ " '" ++ value ++ "', expected YYYY-MM-DD"))

/-- The outcome of a status change: the new status and, for a payment, when it was paid. -/
structure StatusChange where
  status : InvoiceStatus
  paidAt : Option Instant
  deriving DecidableEq, Repr

/-- Plans moving an invoice from `current` to `target` (see the module comment). -/
def planStatusChange (current target : InvoiceStatus) (paidDate : Option String) (now : Instant) :
    Except InvoiceError StatusChange :=
  if current.isTerminal then
    .error (.invalidTransition ("cannot update status of " ++ current.name ++ " invoice"))
  else if target = .paid then
    match paidDate.map trimBlanks with
    | some date =>
      if date.isEmpty then .ok ⟨target, some now⟩
      else (parseDate "paid_date" date).map fun d => ⟨target, some (Instant.ofDate d)⟩
    | none => .ok ⟨target, some now⟩
  else .ok ⟨target, none⟩

theorem planStatusChange_terminal (current target : InvoiceStatus) (paidDate : Option String)
    (now : Instant) (h : current.isTerminal = true) :
    planStatusChange current target paidDate now =
      .error (.invalidTransition ("cannot update status of " ++ current.name ++ " invoice")) := by
  simp [planStatusChange, h]

theorem planStatusChange_paidAt (current target : InvoiceStatus) (paidDate : Option String)
    (now : Instant) (c : StatusChange) (h : planStatusChange current target paidDate now = .ok c) :
    c.paidAt.isSome = true ↔ target = .paid := by
  unfold planStatusChange at h
  split at h
  · cases h
  · split at h
    · rename_i ht
      subst ht
      split at h
      · split at h
        · cases h; simp
        · cases hp : parseDate "paid_date" _ <;> rw [hp] at h <;> cases h
          simp
      · cases h; simp
    · rename_i ht
      cases h
      simp [ht]

/-- Reads a requested status: trimmed, then by its exact name; an unknown name is invalid
input. -/
def requestedStatus (s : String) : Except InvoiceError InvoiceStatus :=
  match InvoiceStatus.parse? (trimBlanks s) with
  | some st => .ok st
  | none => .error (.invalidInput (InvoiceStatus.unknownMessage (trimBlanks s)))

/-- Only a draft may be deleted. -/
def ensureDeletable (status : InvoiceStatus) : Except InvoiceError Unit :=
  if status = .draft then .ok ()
  else .error (.invalidOperation ("only draft invoices can be deleted, invoice is " ++ status.name))

/-- Only a draft may be edited. -/
def ensureEditable (status : InvoiceStatus) : Except InvoiceError Unit :=
  if status = .draft then .ok ()
  else .error (.invalidOperation ("only draft invoices can be edited, invoice is " ++ status.name))

end Invoicing
