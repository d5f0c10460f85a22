import Invoicing.Store.Clients
import Invoicing.Lifecycle

/-!
# The invoices and items tables

An invoice row belongs to an existing account and bills an existing client. Its number holds
at most 50 characters and is unique within the account, its currency at most 3 and its
template at most 30; its amounts are kept to two places within sixteen digits, its tax rate to
four places within seven digits and between 0 and 100, and its discount is never negative. A
new invoice is a draft that has been neither paid, rendered nor sent.

An item row belongs to an existing invoice and account; its quantity is kept to four places
within fourteen digits, its unit price to four within sixteen, its amount to two within
sixteen, and neither quantity nor unit price is negative. Deleting an invoice deletes its
items. Items are read in their sort order.

Listings show the newest invoices first, ties by identity. The statistics count an account's
invoices by status and sum the totals of the paid, the sent and the overdue ones.
-/

namespace Invoicing

/-- The header of an invoice to be written. -/
structure NewInvoice where
  accountId : Uuid
  clientId : Uuid
  number : String
  issueDate : Date
  dueDate : Date
  currency : String
  subtotal : Decimal
  taxRate : Decimal
  taxAmount : Decimal
  discountAmount : Decimal
  totalAmount : Decimal
  templateId : String
  notes : Option String
  terms : Option String
  deriving DecidableEq, Repr

/-- An item to be written. -/
structure NewItem where
  description : String
  quantity : Decimal
  unitPrice : Decimal
  amount : Decimal
  sortOrder : Int
  deriving DecidableEq, Repr

namespace Invoices

/-- The invoice of an account with an identity. -/
def lookup (account id : Uuid) (t : Tables) : Option Invoice :=
  t.invoices.find? fun i => i.accountId == account && i.id == id

/-- Checks the header texts for U+0000, the invoice number first when it is written. -/
def checkTexts (number : Option String) (n : NewInvoice) : Except DbError Unit := do
  for s in [number, some n.currency, some n.templateId, n.notes, n.terms] do
    let _ ← Column.optionalText s

/-- Checks the header against the columns after the number and gives the row with it. -/
def fillHeader (n : NewInvoice) (i : Invoice) (t : Tables) : Except DbError Invoice := do
  let currency ← Column.varchar 3 n.currency
  let subtotal ← Column.numeric 16 2 n.subtotal
  let taxRate ← Column.numeric 7 4 n.taxRate
  let taxAmount ← Column.numeric 16 2 n.taxAmount
  let discountAmount ← Column.numeric 16 2 n.discountAmount
  let totalAmount ← Column.numeric 16 2 n.totalAmount
  let templateId ← Column.varchar 30 n.templateId
  if taxRate < Decimal.zero || Decimal.hundred < taxRate then
    throw (.check "invoices" "invoices_tax_rate_check")
  if discountAmount < Decimal.zero then throw (.check "invoices" "invoices_discount_amount_check")
  if !(t.clients.any (·.id == n.clientId)) then
    throw (.foreignKey "invoices" "invoices_client_id_fkey")
  pure { i with
    clientId := n.clientId, issueDate := n.issueDate, dueDate := n.dueDate, currency := currency,
    subtotal := subtotal, taxRate := taxRate, taxAmount := taxAmount,
    discountAmount := discountAmount, totalAmount := totalAmount, templateId := templateId,
    notes := n.notes, terms := n.terms }

/-- The statement that inserts a draft as row `id`. -/
def insertRow (n : NewInvoice) (id : Uuid) (now : Instant) (t : Tables) :
    Except DbError (Invoice × Tables) := do
  checkTexts (some n.number) n
  let number ← Column.varchar 50 n.number
  let fresh : Invoice :=
    { id := id, accountId := n.accountId, number := number, status := InvoiceStatus.draft.name,
      createdAt := now, updatedAt := now }
  if (Accounts.lookup n.accountId t).isNone then
    throw (.foreignKey "invoices" "invoices_account_id_fkey")
  let row ← fillHeader n fresh t
  if t.invoices.any fun i => i.accountId == n.accountId && i.number == number then
    throw (.unique "uq_invoices_account_number")
  pure (row, { t with invoices := t.invoices ++ [row] })

/-- Writes a new draft inside the transaction. -/
def insert (n : NewInvoice) : StoreOp Invoice := do
  match ← (Store.insert .txn .invoices (insertRow n) : StateM Store _) with
  | .ok i => pure i
  | .error (.unique _) => throw (.storage ("Invoice number '" ++ n.number ++ "' already exists"))
  | .error e => throw (StoreOp.failure "Failed to insert invoice" e)

/-- Reads an invoice. -/
def find (account id : Uuid) : StoreOp (Option Invoice) :=
  StoreOp.query .own (.touch .select .invoices) "Failed to get invoice" fun _ t =>
    .ok (lookup account id t, t)

/-- Reads an invoice for update inside the transaction. -/
def lock (account id : Uuid) : StoreOp (Option Invoice) :=
  StoreOp.query .txn (.touch .lock .invoices) "Failed to lock invoice" fun _ t =>
    .ok (lookup account id t, t)

/-- The invoices of an account, of one status if given. -/
def matching (account : Uuid) (status : Option InvoiceStatus) (t : Tables) : List Invoice :=
  t.invoices.filter fun i =>
    i.accountId == account && (status.map fun s => i.status == s.name).getD true

/-- Counts the invoices of an account, of one status if given. -/
def count (account : Uuid) (status : Option InvoiceStatus) : StoreOp Int :=
  StoreOp.query .own (.touch .select .invoices) "Failed to count invoices" fun _ t =>
    .ok ((matching account status t).length, t)

/-- Whether invoice `a` is listed before invoice `b`: newer first, ties by identity. -/
def listedBefore (a b : Invoice) : Bool :=
  b.createdAt.before a.createdAt || (a.createdAt == b.createdAt && a.id.value ≤ b.id.value)

/-- One page of the invoices of an account, of one status if given. -/
def list (account : Uuid) (status : Option InvoiceStatus) (limit offset : Int) :
    StoreOp (List Invoice) :=
  StoreOp.query .own (.touch .select .invoices) "Failed to list invoices" fun _ t =>
    .ok ((((matching account status t).mergeSort listedBefore).drop offset.toNat).take limit.toNat,
      t)

/-- Changes one invoice row of a table by `f`, which may refuse; gives the changed row. -/
def change (account id : Uuid) (f : Invoice → Except DbError Invoice) (t : Tables) :
    Except DbError (Invoice × Tables) := do
  match lookup account id t with
  | none => throw .noRows
  | some i =>
    let row ← f i
    let put (x : Invoice) : Invoice := if x.id == id then row else x
    pure (row, { t with invoices := t.invoices.map put })

/-- Writes a status change inside the transaction; a paid instant is kept unless a new one is
given. -/
def setStatus (account id : Uuid) (c : StatusChange) : StoreOp Invoice :=
  StoreOp.query .txn (.touch .update .invoices) "Failed to update invoice status" fun now t =>
    change account id (fun i => .ok { i with
      status := c.status.name, paidAt := c.paidAt.or i.paidAt, updatedAt := now }) t

/-- Overwrites the header of an invoice inside the transaction; its number stays. -/
def setHeader (account id : Uuid) (n : NewInvoice) : StoreOp Invoice :=
  StoreOp.query .txn (.touch .update .invoices) "Failed to update invoice" fun now t => do
    checkTexts none n
    change account id (fun i => fillHeader n { i with updatedAt := now } t) t

/-- Records that the document of an invoice was rendered now. -/
def markRendered (account id : Uuid) : StoreOp Unit :=
  StoreOp.query .own (.touch .update .invoices) "Failed to stamp PDF generation" fun now t =>
    let stamp (x : Invoice) : Invoice :=
      if x.accountId == account && x.id == id then { x with pdfGeneratedAt := some now } else x
    .ok ((), { t with invoices := t.invoices.map stamp })

/-- Deletes an invoice and its items inside the transaction; tells whether there was one. -/
def delete (account id : Uuid) : StoreOp Bool :=
  StoreOp.query .txn (.touch .delete .invoices) "Failed to delete invoice" fun _ t =>
    let gone (x : Invoice) : Bool := x.accountId == account && x.id == id
    let removed := t.invoices.filter gone
    .ok (!removed.isEmpty,
      { t with
        invoices := t.invoices.filter (!gone ·),
        items := t.items.filter fun it => !removed.any (·.id == it.invoiceId) })

/-- The sum of some totals, in its read-back form. -/
def sumOf (rows : List Invoice) : Decimal :=
  Column.readBack (rows.foldl (fun acc i => (Decimal.add acc i.totalAmount).getD acc) Decimal.zero)

/-- Counts and sums over the invoices of an account. -/
def statsOf (account : Uuid) (t : Tables) : InvoiceStats :=
  let mine := matching account none t
  let having (s : InvoiceStatus) := mine.filter (·.status == s.name)
  { total := mine.length, draft := (having .draft).length, sent := (having .sent).length,
    paid := (having .paid).length, overdue := (having .overdue).length,
    canceled := (having .canceled).length, revenue := sumOf (having .paid),
    pending := sumOf (having .sent), overdueRevenue := sumOf (having .overdue) }

/-- Reads the statistics of an account. -/
def stats (account : Uuid) : StoreOp InvoiceStats :=
  StoreOp.query .own (.touch .select .invoices) "Failed to get invoice stats" fun _ t =>
    .ok (statsOf account t, t)

end Invoices

namespace Items

/-- The statement that inserts an item of an invoice as row `id`. -/
def insertRow (account invoice : Uuid) (n : NewItem) (id : Uuid) (now : Instant) (t : Tables) :
    Except DbError (Item × Tables) := do
  let description ← Column.text n.description
  let quantity ← Column.numeric 14 4 n.quantity
  let unitPrice ← Column.numeric 16 4 n.unitPrice
  let amount ← Column.numeric 16 2 n.amount
  if quantity < Decimal.zero then throw (.check "invoice_items" "invoice_items_quantity_check")
  if unitPrice < Decimal.zero then throw (.check "invoice_items" "invoice_items_unit_price_check")
  if !(t.invoices.any (·.id == invoice)) then
    throw (.foreignKey "invoice_items" "invoice_items_invoice_id_fkey")
  if (Accounts.lookup account t).isNone then
    throw (.foreignKey "invoice_items" "invoice_items_account_id_fkey")
  let row : Item :=
    { id := id, invoiceId := invoice, accountId := account, description := description,
      quantity := quantity, unitPrice := unitPrice, amount := amount, sortOrder := n.sortOrder,
      createdAt := now, updatedAt := now }
  pure (row, { t with items := t.items ++ [row] })

/-- Writes items of an invoice inside the transaction, one statement each. -/
def insertAll (account invoice : Uuid) : List NewItem → StoreOp (List Item)
  | [] => pure []
  | n :: rest => do
    let row ← StoreOp.insert .txn .items "Failed to insert invoice item" (insertRow account invoice n)
    let rows ← insertAll account invoice rest
    pure (row :: rows)

/-- The items of an invoice in their sort order. -/
def ofInvoice (account invoice : Uuid) (t : Tables) : List Item :=
  (t.items.filter fun it => it.accountId == account && it.invoiceId == invoice).mergeSort
    fun a b => decide (a.sortOrder ≤ b.sortOrder)

/-- Reads the items of an invoice. -/
def find (account invoice : Uuid) : StoreOp (List Item) :=
  StoreOp.query .own (.touch .select .items) "Failed to get invoice items" fun _ t =>
    .ok (ofInvoice account invoice t, t)

/-- Replaces the items of an invoice inside the transaction. -/
def replace (account invoice : Uuid) (items : List NewItem) : StoreOp (List Item) := do
  StoreOp.query .txn (.touch .delete .items) "Failed to delete invoice items" fun _ t =>
    .ok ((), { t with items := t.items.filter fun it =>
      !(it.accountId == account && it.invoiceId == invoice) })
  insertAll account invoice items

end Items

end Invoicing
