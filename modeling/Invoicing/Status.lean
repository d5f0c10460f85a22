/-!
# Invoice status and template

An invoice is a draft, sent, paid, overdue or canceled. Paid and canceled are terminal: no
status change leaves them. Status names are read exactly, with no trimming or case folding.

A template is one of four names, also read exactly.

What is proved here:
* `parse?_name`: every status reads back from its name.
* `isTerminal_iff`: the terminal statuses are exactly paid and canceled.
-/

namespace Invoicing

/-- The status of an invoice. -/
inductive InvoiceStatus where
  | draft
  | sent
  | paid
  | overdue
  | canceled
  deriving DecidableEq, Repr, Inhabited

namespace InvoiceStatus

/-- All statuses, in the order they are listed in messages. -/
def all : List InvoiceStatus := [.draft, .sent, .paid, .overdue, .canceled]

/-- The name of a status. -/
def name : InvoiceStatus → String
  | .draft => "draft"
  | .sent => "sent"
  | .paid => "paid"
  | .overdue => "overdue"
  | .canceled => "canceled"

/-- Whether no status change may leave the status. -/
def isTerminal : InvoiceStatus → Bool
  | .paid | .canceled => true
  | _ => false

/-- The status with exactly this name. -/
def parse? (s : String) : Option InvoiceStatus :=
  all.find? (fun st => st.name == s)

/-- The message for a text that names no status. -/
def unknownMessage (s : String) : String :=
  "unknown invoice status '" ++ s ++ "', expected one of draft, sent, paid, overdue, canceled"

theorem parse?_name (st : InvoiceStatus) : parse? st.name = some st := by
  cases st <;> rfl

theorem isTerminal_iff (st : InvoiceStatus) : st.isTerminal = true ↔ st = .paid ∨ st = .canceled := by
  cases st <;> simp [isTerminal]

end InvoiceStatus

/-- The look of a rendered invoice. -/
inductive Template where
  | standard
  | modern
  | minimal
  | professional
  deriving DecidableEq, Repr, Inhabited

namespace Template

/-- The name of a template. -/
def name : Template → String
  | .standard => "default"
  | .modern => "modern"
  | .minimal => "minimal"
  | .professional => "professional"

/-- The template with exactly this name. -/
def parse? (s : String) : Option Template :=
  [Template.standard, .modern, .minimal, .professional].find? (fun t => t.name == s)

end Template

end Invoicing
