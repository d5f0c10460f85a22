import Invoicing.Store.Basic
import Invoicing.Validation

/-!
# Operations on the store

The operations of the invoicing service run on the store as `StoreOp`s. They check their
request first, then read and write the store; the first failure ends the operation.

This module holds the steps they share: failing with the report of failed validation rules,
and with "not found" for a missing row.
-/

namespace Invoicing

namespace StoreOp

/-- Fails with the report of the violated rules, if any. -/
def validated (vs : List Violation) : StoreOp Unit :=
  if vs.isEmpty then pure () else throw (.invalidInput (Violation.report vs))

/-- The row that was found, or "`what` not found". -/
def orMissing {α : Type} (what : String) (row : Option α) : StoreOp α :=
  match row with
  | some a => pure a
  | none => throw (InvoiceError.missing what)

end StoreOp

end Invoicing
