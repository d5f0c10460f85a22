import Invoicing.Service.Parties
import Invoicing.Store.Invoices
import Invoicing.Printout.Invoice
import Invoicing.Pricing
import Invoicing.Numbering

/-!
# Invoices

The operations on an account's invoices:
* **Creating** checks the request and each of its items, then needs the account, within its
  monthly allowance, dates that read and do not put the due date before the issue date, a known
  template, and an active client of the account; the items are priced, and in one transaction
  the account is locked and checked again, the invoice is numbered from the account's counter
  and written as a draft with its items, and the counter moves on.
* **Reading** gives an invoice with its items and the client it bills; **listing** gives a page
  of invoices, newest first, optionally of one status.
* **Changing** a draft replaces the fields given and prices the invoice again, with the new
  items or the stored ones; **changing the status** follows the lifecycle; **deleting** is for
  drafts only.
* **Rendering** lays out the printout and records when it was made; **duplicating** creates a
  new draft with the same client, money, template, texts and items, issued today and due in
  thirty days.

Creating, changing and changing the status each store first (`storeInvoice`, `storeChanges`,
`storeStatus`, each ending in one transaction) and then read the invoice back.
-/

namespace Invoicing

namespace Service

open StoreOp

/-- Checks the items of a request one by one. -/
def validateItems (items : List ItemRequest) : StoreOp Unit :=
  items.forM fun it => validated it.violations

/-- Refuses a due date before the issue date. -/
def dueAfterIssue (issue due : Date) : StoreOp Unit :=
  if due.toDays < issue.toDays then throw (.invalidInput "due_date must not be before issue_date")
  else pure ()

/-- The template a request names: none or a blank name is the standard one; otherwise the name,
trimmed, must be known. -/
def resolveTemplate (name : Option String) : Except InvoiceError String :=
  match (name.map trimBlanks).filter (!·.isEmpty) with
  | none => .ok Template.standard.name
  | some v =>
    match Template.parse? v with
    | some t => .ok t.name
    | none => .error (.invalidInput ("unknown template_id '" ++ v ++
        "', expected one of default, modern, minimal, professional"))

/-- Prices quantities and unit prices; a refusal is invalid input. -/
def price (lines : List (Decimal × Decimal)) (taxRate discount : Decimal) :
    Except InvoiceError Totals :=
  (calculate lines taxRate discount).mapError fun e => .invalidInput e.message

/-- The quantities and unit prices of requested items. -/
def requestedLines (items : List ItemRequest) : List (Decimal × Decimal) :=
  items.map fun it => (it.quantity, it.unitPrice)

/-- The items to write: each requested description with its priced line, numbered from `n`. -/
def newItems (n : Nat) : List ItemRequest → List PricedLine → List NewItem
  | it :: rest, line :: lines =>
    { description := it.description, quantity := line.quantity, unitPrice := line.unitPrice,
      amount := line.amount, sortOrder := n } :: newItems (n + 1) rest lines
  | _, _ => []

/-- The header written for an invoice of `account` billing `client`, priced as `totals`. -/
def headerOf (account client : Uuid) (number : String) (issue due : Date)
    (currency template : String) (totals : Totals) (notes terms : Option String) : NewInvoice :=
  { accountId := account, clientId := client, number := number, issueDate := issue, dueDate := due,
    currency := currency, subtotal := totals.subtotal, taxRate := totals.taxRate,
    taxAmount := totals.taxAmount, discountAmount := totals.discountAmount,
    totalAmount := totals.totalAmount, templateId := template, notes := notes, terms := terms }

/-- The status an invoice is stored with; an unknown one is a storage failure. -/
def storedStatus (i : Invoice) : StoreOp InvoiceStatus :=
  match i.status? with
  | some s => pure s
  | none => throw (.storage (InvoiceStatus.unknownMessage i.status))

/-- An invoice with its items and the client it bills. -/
def hydrate (i : Invoice) : StoreOp InvoiceDetails := do
  let items ← Items.find i.accountId i.id
  let client ← Clients.findBilled i.accountId i.clientId
  pure ⟨i, items, client⟩

/-- Reads an invoice with its items and client. -/
def getInvoice (account invoice : Uuid) : StoreOp InvoiceDetails := do
  hydrate (← orMissing "invoice" (← Invoices.find account invoice))

/-- Inside the transaction of a creation: locks the account and checks its allowance again,
writes the draft under the account's next number with its items, and moves the counter on. -/
def insertDraft (account : Uuid) (r : InvoiceRequest) (issue due : Date)
    (currency template : String) (totals : Totals) : StoreOp Invoice := do
  let locked ← orMissing "account" (← Accounts.lock account)
  ofExcept locked.checkQuota
  let created ← Invoices.insert
    (headerOf account r.clientId (invoiceNumber locked.invoiceNumberPrefix locked.nextInvoiceNumber)
      issue due currency template totals r.notes r.terms)
  let _ ← Items.insertAll account created.id (newItems 0 r.items totals.lines)
  Accounts.advanceCounter account
  pure created

/-- Checks a request for a new invoice and stores it as a priced, numbered draft; gives the
stored invoice. -/
def storeInvoice (account : Uuid) (r : InvoiceRequest) : StoreOp Invoice := do
  validated r.violations
  validateItems r.items
  let owner ← orMissing "account" (← Accounts.find account)
  ofExcept owner.checkQuota
  let issue ← ofExcept (parseDate "issue_date" r.issueDate)
  let due ← ofExcept (parseDate "due_date" r.dueDate)
  dueAfterIssue issue due
  let template ← ofExcept (resolveTemplate r.templateId)
  let currency := Capitals.ofString (r.currency.getD owner.defaultCurrency)
  let _ ← orMissing "client" (← Clients.find account r.clientId)
  let totals ← ofExcept (price (requestedLines r.items) r.taxRate r.discountAmount)
  transaction "Failed to commit invoice" (insertDraft account r issue due currency template totals)

/-- Creates a priced, numbered draft, and reads it back. -/
def createInvoice (account : Uuid) (r : InvoiceRequest) : StoreOp InvoiceDetails := do
  let created ← storeInvoice account r
  getInvoice account created.id

/-- One page of an account's invoices, of one status if the trimmed filter names one. The pages
are counted as the program counts them in 64-bit arithmetic wherever `total + size` does not
overflow. -/
def listInvoices (account : Uuid) (q : ListQuery) : StoreOp (Page Invoice) := do
  let page := PageRequest.make q.page q.pageSize
  let status ← match (q.status.map trimBlanks).filter (!·.isEmpty) with
    | some s =>
      match InvoiceStatus.parse? s with
      | some st => pure (some st)
      | none => throw (.invalidInput (InvoiceStatus.unknownMessage s))
    | none => pure none
  let total ← Invoices.count account status
  let rows ← Invoices.list account status page.limit page.offset
  pure ⟨rows, total, page.page, page.size, page.totalPages total⟩

/-- A given date, or the stored one. -/
def dateOr (field : String) (given : Option String) (stored : Date) : StoreOp Date :=
  match given with
  | some v => ofExcept (parseDate field v)
  | none => pure stored

/-- The client a changed invoice bills: the one given, which must be an active client of the
account unless it is the one billed already; otherwise the one billed already. -/
def clientAfter (account : Uuid) (current : Invoice) (given : Option Uuid) : StoreOp Uuid :=
  match given with
  | some c =>
    if c = current.clientId then pure current.clientId
    else do
      let _ ← orMissing "client" (← Clients.find account c)
      pure c
  | none => pure current.clientId

/-- The template of a changed invoice: the one given, which must be known, or the current one. -/
def templateAfter (current : Invoice) (given : Option String) : StoreOp String :=
  match given with
  | some v => ofExcept (resolveTemplate (some v))
  | none => pure current.templateId

/-- The prices of a changed invoice under `taxRate` and `discount`: of the items given, which are
then to replace the stored ones, or else of the stored items. -/
def repriced (account invoice : Uuid) (items : Option (List ItemRequest))
    (taxRate discount : Decimal) : StoreOp (Totals × Option (List NewItem)) :=
  match items with
  | some items => do
    let totals ← ofExcept (price (requestedLines items) taxRate discount)
    pure (totals, some (newItems 0 items totals.lines))
  | none => do
    let stored ← Items.find account invoice
    let totals ← ofExcept (price (stored.map fun it => (it.quantity, it.unitPrice)) taxRate discount)
    pure (totals, none)

/-- Inside the transaction of a change: locks the invoice, which must be a draft, and writes the
given fields over it, priced again with the new items or the stored ones. -/
def reviseDraft (account invoice : Uuid) (r : InvoiceChanges) : StoreOp Unit := do
  let current ← orMissing "invoice" (← Invoices.lock account invoice)
  ofExcept (ensureEditable (← storedStatus current))
  let clientId ← clientAfter account current r.clientId
  let issue ← dateOr "issue_date" r.issueDate current.issueDate
  let due ← dateOr "due_date" r.dueDate current.dueDate
  dueAfterIssue issue due
  let template ← templateAfter current r.templateId
  let currency := (r.currency.map Capitals.ofString).getD current.currency
  let taxRate := r.taxRate.getD current.taxRate
  let discount := r.discountAmount.getD current.discountAmount
  let (totals, replacement) ← repriced account invoice r.items taxRate discount
  let _ ← Invoices.setHeader account invoice
    (headerOf account clientId current.number issue due currency template totals
      (r.notes.or current.notes) (r.terms.or current.terms))
  if let some items := replacement then
    let _ ← Items.replace account invoice items

/-- Checks a change of an invoice and makes it. -/
def storeChanges (account invoice : Uuid) (r : InvoiceChanges) : StoreOp Unit := do
  validated r.violations
  if let some items := r.items then validateItems items
  transaction "Failed to commit invoice update" (reviseDraft account invoice r)

/-- Changes a draft and prices it again, and reads it back. -/
def updateInvoice (account invoice : Uuid) (r : InvoiceChanges) : StoreOp InvoiceDetails := do
  storeChanges account invoice r
  getInvoice account invoice

/-- Inside the transaction of a status change: locks the invoice and moves it as the lifecycle
allows. -/
def moveStatus (account invoice : Uuid) (target : InvoiceStatus) (paidDate : Option String)
    (now : Instant) : StoreOp Unit := do
  let current ← orMissing "invoice" (← Invoices.lock account invoice)
  let change ← ofExcept (planStatusChange (← storedStatus current) target paidDate now)
  let _ ← Invoices.setStatus account invoice change

/-- Checks a status change and makes it at `now`. -/
def storeStatus (account invoice : Uuid) (r : StatusRequest) (now : Instant) : StoreOp Unit := do
  let target ← ofExcept (requestedStatus r.status)
  transaction "Failed to commit status change" (moveStatus account invoice target r.paidDate now)

/-- Moves an invoice to a new status at `now`, and reads it back. -/
def updateInvoiceStatus (account invoice : Uuid) (r : StatusRequest) (now : Instant) :
    StoreOp InvoiceDetails := do
  storeStatus account invoice r now
  getInvoice account invoice

/-- Inside the transaction of a deletion: locks the invoice, which must be a draft, and deletes
it with its items. -/
def removeDraft (account invoice : Uuid) : StoreOp Unit := do
  let current ← orMissing "invoice" (← Invoices.lock account invoice)
  ofExcept (ensureDeletable (← storedStatus current))
  let _ ← Invoices.delete account invoice

/-- Deletes a draft. -/
def deleteInvoice (account invoice : Uuid) : StoreOp Unit :=
  transaction "Failed to commit invoice delete" (removeDraft account invoice)

/-- Renders an invoice as issued by its account: the file name and the printout. -/
def renderInvoice (account invoice : Uuid) : StoreOp (String × Printout) := do
  let details ← getInvoice account invoice
  let owner ← orMissing "account" (← Accounts.find account)
  let doc := Printout.ofInvoice details owner
  Invoices.markRendered account invoice
  pure (details.invoice.number ++ ".pdf", doc)

/-- Counts and sums over an account's invoices. -/
def getStats (account : Uuid) : StoreOp InvoiceStats := Invoices.stats account

/-- Copies an invoice into a new draft issued on the day of `now` and due thirty days later. -/
def duplicateInvoice (account invoice : Uuid) (now : Instant) : StoreOp InvoiceDetails := do
  let source ← orMissing "invoice" (← Invoices.find account invoice)
  let items ← Items.find account invoice
  let issue := now.date
  createInvoice account
    { clientId := source.clientId, issueDate := issue.text, dueDate := (issue.addDays 30).text,
      currency := some source.currency, taxRate := source.taxRate,
      discountAmount := source.discountAmount, templateId := some source.templateId,
      notes := source.notes, terms := source.terms,
      items := items.map fun it =>
        { description := it.description, quantity := it.quantity, unitPrice := it.unitPrice } }

end Service

end Invoicing
