import Invoicing.Decimal.Text

/-!
# Pricing an invoice

`calculate` prices a list of `(quantity, unit price)` pairs under a percentage tax rate and a
flat discount. Inputs are first rounded to the places their columns store: four for the tax
rate, quantities and unit prices, two for the discount. Then

```
amount_i     = round2(quantity_i * unit_price_i)
subtotal     = amount_1 + … + amount_n
tax_amount   = round2(subtotal * tax_rate / 100)
total_amount = subtotal + tax_amount - discount_amount
```

with every rounding to nearest, ties away from zero. Each figure is checked against its
column's bound as soon as it exists, and the first failing check is the answer
(`PricingError`). A total below zero is allowed; only its magnitude is bounded.
-/

namespace Invoicing

open Decimal

/-- The money figures whose magnitude is bounded by the money columns. -/
inductive MoneyField where
  | discount
  | itemAmount (item : Nat)
  | subtotal
  | taxAmount
  | total
  deriving DecidableEq, Repr

/-- The name a money figure goes by in messages. -/
def MoneyField.label : MoneyField → String
  | .discount => "discount_amount"
  | .itemAmount n => "item " ++ toString n ++ " amount"
  | .subtotal => "subtotal"
  | .taxAmount => "tax_amount"
  | .total => "total_amount"

/-- Why a list of items cannot be priced. Items are numbered from 1. -/
inductive PricingError where
  | taxRateOutOfRange
  | negativeDiscount
  | negativeQuantity (item : Nat)
  | negativeUnitPrice (item : Nat)
  | quantityTooLarge (item : Nat)
  | unitPriceTooLarge (item : Nat)
  | moneyTooLarge (field : MoneyField)
  | overflow
  deriving DecidableEq, Repr

/-- The largest quantity a quantity column holds: `9999999999.9999`. -/
def maxQuantity : Decimal := ⟨99999999999999, 4, false⟩

/-- The largest unit price a price column holds: `999999999999.9999`. -/
def maxUnitPrice : Decimal := ⟨9999999999999999, 4, false⟩

/-- The largest magnitude a money column holds: `99999999999999.99`. -/
def maxMoney : Decimal := ⟨9999999999999999, 2, false⟩

/-- The message of a pricing failure. -/
def PricingError.message : PricingError → String
  | .taxRateOutOfRange => "tax_rate must be between 0 and 100"
  | .negativeDiscount => "discount_amount must not be negative"
  | .negativeQuantity n => "item " ++ toString n ++ " quantity must not be negative"
  | .negativeUnitPrice n => "item " ++ toString n ++ " unit_price must not be negative"
  | .quantityTooLarge n =>
    "item " ++ toString n ++ " quantity exceeds the maximum of " ++ maxQuantity.toText
  | .unitPriceTooLarge n =>
    "item " ++ toString n ++ " unit_price exceeds the maximum of " ++ maxUnitPrice.toText
  | .moneyTooLarge f => f.label ++ " exceeds the maximum of " ++ maxMoney.toText
  | .overflow => "invoice amounts are too large"

/-- Money is kept to two places, ties away from zero. -/
def roundMoney (d : Decimal) : Decimal := d.roundDp 2 .awayFromZero

/-- Rates, quantities and unit prices are kept to four places, ties away from zero. -/
def roundRate (d : Decimal) : Decimal := d.roundDp 4 .awayFromZero

/-- One priced line. -/
structure PricedLine where
  quantity : Decimal
  unitPrice : Decimal
  amount : Decimal
  deriving DecidableEq, Repr

/-- A priced invoice: the lines in input order and the header totals. -/
structure Totals where
  lines : List PricedLine
  subtotal : Decimal
  taxRate : Decimal
  taxAmount : Decimal
  discountAmount : Decimal
  totalAmount : Decimal
  deriving DecidableEq, Repr

/-- The result of an arithmetic step, or the overflow failure. -/
def orOverflow (r : Option Decimal) : Except PricingError Decimal :=
  match r with
  | some d => .ok d
  | none => .error .overflow

/-- A money figure whose magnitude is within the money columns' bound. -/
def checkMoney (f : MoneyField) (d : Decimal) : Except PricingError Decimal :=
  if maxMoney < d.abs then .error (.moneyTooLarge f) else .ok d

/-- Prices item `n`: rounds its quantity and unit price, checks them, and rounds their product
to money. -/
def priceItem (n : Nat) (quantity unitPrice : Decimal) : Except PricingError PricedLine := do
  let q := roundRate quantity
  let p := roundRate unitPrice
  if q < zero then throw (.negativeQuantity n)
  if p < zero then throw (.negativeUnitPrice n)
  if maxQuantity < q then throw (.quantityTooLarge n)
  if maxUnitPrice < p then throw (.unitPriceTooLarge n)
  let product ← orOverflow (mul q p)
  let amount ← checkMoney (.itemAmount n) (roundMoney product)
  pure { quantity := q, unitPrice := p, amount := amount }

/-- Prices the items from number `n` on, adding their amounts to the running `subtotal`, which
is checked after every item. -/
def priceItems : Nat → Decimal → List (Decimal × Decimal) →
    Except PricingError (List PricedLine × Decimal)
  | _, subtotal, [] => .ok ([], subtotal)
  | n, subtotal, (q, p) :: rest => do
    let line ← priceItem n q p
    let sum ← orOverflow (add subtotal line.amount)
    let subtotal' ← checkMoney .subtotal sum
    let (lines, final) ← priceItems (n + 1) subtotal' rest
    pure (line :: lines, final)

/-- Prices `(quantity, unit price)` pairs under a percentage tax rate and a flat discount (see
the module comment). -/
def calculate (items : List (Decimal × Decimal)) (taxRate discountAmount : Decimal) :
    Except PricingError Totals := do
  let rate := roundRate taxRate
  if rate < zero ∨ hundred < rate then throw .taxRateOutOfRange
  let discount := roundMoney discountAmount
  if discount < zero then throw .negativeDiscount
  let discount ← checkMoney .discount discount
  let (lines, subtotal) ← priceItems 1 zero items
  let taxed ← orOverflow (mul subtotal rate)
  let tax ← orOverflow (div taxed hundred)
  let tax ← checkMoney .taxAmount (roundMoney tax)
  let gross ← orOverflow (add subtotal tax)
  let total ← orOverflow (sub gross discount)
  let total ← checkMoney .total total
  pure
    { lines := lines, subtotal := subtotal, taxRate := rate, taxAmount := tax,
      discountAmount := discount, totalAmount := total }

end Invoicing
