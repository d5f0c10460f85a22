/-!
# Invoice numbers

An invoice number is the account's prefix, a hyphen, and the counter written with at least
four characters, zeros filling in after the sign: `INV-0001`, `INV-12345`, `INV--042`.
-/

namespace Invoicing

/-- `n` written with at least `width` characters, zeros between the sign and the digits. -/
def zeroPadded (width : Nat) (n : Int) : String :=
  let digits := toString n.natAbs
  let sign := if n < 0 then "-" else ""
  let fill := width - sign.length - digits.length
  sign ++ String.ofList (List.replicate fill '0') ++ digits

/-- The invoice number for a prefix and a counter value. -/
def invoiceNumber (tag : String) (n : Int) : String :=
  tag ++ "-" ++ zeroPadded 4 n

end Invoicing
