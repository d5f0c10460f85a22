/-!
# Validation rules

A request is checked field by field; each failed rule is a `Violation` naming the field and the
rule's message. The report of a check has one line `field: message` per failed field, the
lines in byte order, separated by line breaks.

Lengths of text are counted in characters (Unicode scalar values).
-/

namespace Invoicing

/-- A failed rule: the field and the rule's message. -/
structure Violation where
  field : String
  message : String
  deriving DecidableEq, Repr

namespace Violation

/-- The report of failed rules (see the module comment). -/
def report (vs : List Violation) : String :=
  "\n".intercalate ((vs.map fun v => v.field ++ ": " ++ v.message).mergeSort (· ≤ ·))

/-- A violation of `field` when `ok` fails. -/
def check (ok : Bool) (field message : String) : List Violation :=
  if ok then [] else [⟨field, message⟩]

/-- A violation of `field` when a present value fails `ok`; an absent value passes. -/
def checkSome {α : Type} (v : Option α) (ok : α → Bool) (field message : String) :
    List Violation :=
  match v with
  | some a => check (ok a) field message
  | none => []

end Violation

/-- Whether a text has from `lo` to `hi` characters. -/
def lengthWithin (lo hi : Nat) (s : String) : Bool := lo ≤ s.length && s.length ≤ hi

end Invoicing
