import Invoicing.Printout.Basic
import Invoicing.Model.Invoice
import Invoicing.Model.Account
import Invoicing.Text.Blank

/-!
# The printed invoice

An invoice prints on as many pages as it needs, top to bottom:
* the issuer's name and the word INVOICE, then the issuer's e-mail and the invoice number,
  and a rule;
* side by side, the lines that address the client and the facts of the invoice (status, dates,
  currency, and the day it was paid if it was);
* a table of the items, numbered from 1, with quantity, unit price and amount;
* the subtotal, tax and discount, and the total in the invoice's currency;
* the notes and the terms, each under its heading, unless blank;
* a closing line of thanks.

Amounts show two places, a half going to the even neighbour; quantities and the tax rate show no
trailing zeros. Long descriptions and lines of notes are cut short, ending in three dots.
-/

namespace Invoicing

namespace Printout

/-- The column of quantities. -/
def quantityColumn : Nat := 115

/-- The column of unit prices and of the labels of the totals. -/
def priceColumn : Nat := 140

/-- The column of amounts. -/
def amountColumn : Nat := 170

/-- The longest item description, in characters. -/
def descriptionChars : Nat := 55

/-- The longest line of notes or terms, in characters. -/
def noteChars : Nat := 95

/-- A text of at most `max` characters: a longer one keeps its first `max - 3` and ends in
three dots. -/
def truncate (s : String) (max : Nat) : String :=
  if s.length ≤ max then s else String.ofList (s.toList.take (max - 3)) ++ "..."

/-- The lines of a text, `cur` holding the current line reversed: a line feed ends a line and a
carriage return just before it is dropped; a text ending in a line feed has no empty last line. -/
def splitLines : List Char → List Char → List String
  | [], [] => []
  | [], cur => [String.ofList cur.reverse]
  | c :: rest, cur =>
    if c = '\n' then
      let line := match cur with
        | '\r' :: before => before
        | _ => cur
      String.ofList line.reverse :: splitLines rest []
    else splitLines rest (c :: cur)

/-- The lines of a text (see `splitLines`). -/
def lines (s : String) : List String := splitLines s.toList []

/-- Whether a text holds only blanks. -/
def isBlankText (s : String) : Bool := s.toList.all isBlank

/-- An amount with two places, a half going to the even neighbour. -/
def money (d : Decimal) : String := (d.roundDp 2 .toEven).toText

/-- The lines that address a client: name, company, street lines, the non-blank parts of city,
state and postal code, country, e-mail and tax number. -/
def billingLines (c : Client) : List String :=
  let locality := ", ".intercalate
    ([c.city, c.state, c.postalCode].filterMap id |>.filter fun p => !isBlankText p)
  [c.name] ++ c.companyName.toList ++ c.addressLine1.toList ++ c.addressLine2.toList ++
    (if locality.isEmpty then [] else [locality]) ++ c.country.toList ++
    (c.email.map ("Email: " ++ ·)).toList ++ (c.taxId.map ("Tax ID: " ++ ·)).toList

/-- The facts of an invoice, as `label: value` lines. -/
def facts (i : Invoice) : List String :=
  ["Status: " ++ i.status, "Issue date: " ++ i.issueDate.text, "Due date: " ++ i.dueDate.text,
    "Currency: " ++ i.currency] ++ (i.paidAt.map fun t => "Paid on: " ++ t.date.text).toList

/-- Writes a text in the regular face. -/
def plain (body : String) (size x : Nat) : StateM Sheet Unit := modify (Sheet.write .regular size x body)

/-- Writes a text in the bold face. -/
def strong (body : String) (size x : Nat) : StateM Sheet Unit := modify (Sheet.write .bold size x body)

/-- Moves down. -/
def down (dy : Nat) : StateM Sheet Unit := modify (Sheet.advance dy)

/-- Draws a rule. -/
def line : StateM Sheet Unit := modify Sheet.rule

/-- Two columns of lines, row by row, each row five millimetres below the last. -/
def columns : List String → List String → StateM Sheet Unit
  | [], [] => pure ()
  | a :: l, [] => do plain a 10 Sheet.margin; down 5; columns l []
  | [], b :: r => do plain b 10 120; down 5; columns [] r
  | a :: l, b :: r => do plain a 10 Sheet.margin; plain b 10 120; down 5; columns l r

/-- The rows of the item table, numbered from `n`. -/
def itemRows (n : Nat) : List Item → StateM Sheet Unit
  | [] => pure ()
  | it :: rest => do
    plain (truncate (toString n ++ ". " ++ it.description) descriptionChars) 10 Sheet.margin
    plain it.quantity.normalize.toText 10 quantityColumn
    plain (money it.unitPrice) 10 priceColumn
    plain (money it.amount) 10 amountColumn
    down 6
    itemRows (n + 1) rest

/-- A headed passage of text, left out when blank. -/
def passage (heading : String) (body : Option String) : StateM Sheet Unit :=
  match body with
  | some b =>
    if isBlankText b then pure ()
    else do
      strong (heading ++ ":") 11 Sheet.margin
      down 6
      (lines b).forM fun l => do plain (truncate l noteChars) 10 Sheet.margin; down 5
      down 5
  | none => pure ()

/-- The whole layout of an invoice issued by an account. -/
def layout (d : InvoiceDetails) (a : Account) : StateM Sheet Unit := do
  let i := d.invoice
  strong a.fullName 16 Sheet.margin
  strong "INVOICE" 22 140
  down 7
  plain a.email 10 Sheet.margin
  strong i.number 12 140
  down 10
  line
  down 10
  strong "Bill To:" 11 Sheet.margin
  strong "Details:" 11 120
  down 6
  columns ((d.client.map billingLines).getD []) (facts i)
  down 7
  strong "Description" 10 Sheet.margin
  strong "Qty" 10 quantityColumn
  strong "Unit price" 10 priceColumn
  strong "Amount" 10 amountColumn
  down 3
  line
  down 6
  itemRows 1 d.items
  line
  down 8
  let totals := [("Subtotal:", i.subtotal),
    ("Tax (" ++ i.taxRate.normalize.toText ++ "%):", i.taxAmount),
    ("Discount:", i.discountAmount)]
  totals.forM fun (label, value) => do
    plain label 10 priceColumn
    plain (money value) 10 amountColumn
    down 6
  strong "Total:" 12 priceColumn
  strong (money i.totalAmount ++ " " ++ i.currency) 12 (amountColumn - 10)
  down 12
  passage "Notes" i.notes
  passage "Terms and Conditions" i.terms
  plain "Thank you for your business." 9 Sheet.margin

/-- The printout of an invoice issued by an account. -/
def ofInvoice (d : InvoiceDetails) (a : Account) : Printout :=
  { title := "Invoice " ++ d.invoice.number, pages := ((layout d a).run Sheet.start).2.pages }

theorem truncate_length_le (s : String) (max : Nat) (h : 3 ≤ max) :
    (truncate s max).length ≤ max := by
  unfold truncate
  split
  · assumption
  · simp only [String.length_append, String.length_ofList, List.length_take]
    have : "...".length = 3 := rfl
    omega

end Printout

end Invoicing
