import Invoicing.Model.Client
import Invoicing.Decimal.Decode
import Invoicing.Status

/-!
# Invoices

An invoice belongs to an account and bills one of its clients. It has a number, a status kept as
text, issue and due dates, the instant it was paid, a currency, the priced totals, a template,
optional notes and terms, and bookkeeping of its PDF and e-mail. Its items are the priced lines
in their order.

The details of an invoice are the invoice with its items and its client (when the client still
exists); a page of invoices or clients carries the rows and the counts of the listing.
-/

namespace Invoicing

/-- An invoice. -/
structure Invoice where
  id : Uuid := default
  accountId : Uuid := default
  clientId : Uuid := default
  number : String := ""
  status : String := ""
  issueDate : Date := default
  dueDate : Date := default
  paidAt : Option Instant := none
  currency : String := ""
  subtotal : Decimal := Decimal.zero
  taxRate : Decimal := Decimal.zero
  taxAmount : Decimal := Decimal.zero
  discountAmount : Decimal := Decimal.zero
  totalAmount : Decimal := Decimal.zero
  templateId : String := ""
  notes : Option String := none
  terms : Option String := none
  pdfUrl : Option String := none
  pdfGeneratedAt : Option Instant := none
  emailSent : Bool := false
  emailSentAt : Option Instant := none
  emailOpened : Bool := false
  emailOpenedAt : Option Instant := none
  createdAt : Instant := default
  updatedAt : Instant := default
  deriving DecidableEq, Repr, Inhabited

namespace Invoice

/-- The stored status, read by its exact name. -/
def status? (i : Invoice) : Option InvoiceStatus := InvoiceStatus.parse? i.status

/-- Reads an invoice record. -/
def decoder : Decoder Invoice :=
  let optText := Decoder.nullable Decoder.text
  let optInstant := Decoder.nullable Instant.decoder
  Decoder.record "Invoice"
    [ .required "invoice_id" fun r => return { r with id := ← Uuid.decoder },
      .required "account_id" fun r => return { r with accountId := ← Uuid.decoder },
      .required "client_id" fun r => return { r with clientId := ← Uuid.decoder },
      .required "invoice_number" fun r => return { r with number := ← Decoder.text },
      .required "status" fun r => return { r with status := ← Decoder.text },
      .required "issue_date" fun r => return { r with issueDate := ← Date.decoder },
      .required "due_date" fun r => return { r with dueDate := ← Date.decoder },
      .optional "paid_utc" fun r => return { r with paidAt := ← optInstant },
      .required "currency" fun r => return { r with currency := ← Decoder.text },
      .required "subtotal" fun r => return { r with subtotal := ← Decimal.decoder },
      .required "tax_rate" fun r => return { r with taxRate := ← Decimal.decoder },
      .required "tax_amount" fun r => return { r with taxAmount := ← Decimal.decoder },
      .required "discount_amount" fun r => return { r with discountAmount := ← Decimal.decoder },
      .required "total_amount" fun r => return { r with totalAmount := ← Decimal.decoder },
      .required "template_id" fun r => return { r with templateId := ← Decoder.text },
      .optional "notes" fun r => return { r with notes := ← optText },
      .optional "terms_and_conditions" fun r => return { r with terms := ← optText },
      .optional "pdf_url" fun r => return { r with pdfUrl := ← optText },
      .optional "pdf_generated_utc" fun r => return { r with pdfGeneratedAt := ← optInstant },
      .required "email_sent" fun r => return { r with emailSent := ← Decoder.bool },
      .optional "email_sent_utc" fun r => return { r with emailSentAt := ← optInstant },
      .required "email_opened" fun r => return { r with emailOpened := ← Decoder.bool },
      .optional "email_opened_utc" fun r => return { r with emailOpenedAt := ← optInstant },
      .required "created_utc" fun r => return { r with createdAt := ← Instant.decoder },
      .required "updated_utc" fun r => return { r with updatedAt := ← Instant.decoder } ]
    {}

/-- The fields of the invoice as JSON. -/
def fields (i : Invoice) : List (String × Json) :=
  let opt := Json.ofOption Json.str
  let optInstant := Json.ofOption Instant.toJson
  [("invoice_id", .str i.id.text), ("account_id", .str i.accountId.text),
    ("client_id", .str i.clientId.text), ("invoice_number", .str i.number),
    ("status", .str i.status), ("issue_date", i.issueDate.toJson),
    ("due_date", i.dueDate.toJson), ("paid_utc", optInstant i.paidAt),
    ("currency", .str i.currency), ("subtotal", i.subtotal.toJson),
    ("tax_rate", i.taxRate.toJson), ("tax_amount", i.taxAmount.toJson),
    ("discount_amount", i.discountAmount.toJson), ("total_amount", i.totalAmount.toJson),
    ("template_id", .str i.templateId), ("notes", opt i.notes),
    ("terms_and_conditions", opt i.terms), ("pdf_url", opt i.pdfUrl),
    ("pdf_generated_utc", optInstant i.pdfGeneratedAt), ("email_sent", .bool i.emailSent),
    ("email_sent_utc", optInstant i.emailSentAt), ("email_opened", .bool i.emailOpened),
    ("email_opened_utc", optInstant i.emailOpenedAt), ("created_utc", i.createdAt.toJson),
    ("updated_utc", i.updatedAt.toJson)]

/-- The invoice as JSON. -/
def toJson (i : Invoice) : Json := .obj i.fields

end Invoice

/-- A priced line of an invoice. -/
structure Item where
  id : Uuid := default
  invoiceId : Uuid := default
  accountId : Uuid := default
  description : String := ""
  quantity : Decimal := Decimal.zero
  unitPrice : Decimal := Decimal.zero
  amount : Decimal := Decimal.zero
  sortOrder : Int := 0
  createdAt : Instant := default
  updatedAt : Instant := default
  deriving DecidableEq, Repr, Inhabited

namespace Item

/-- Reads an item record. -/
def decoder : Decoder Item :=
  Decoder.record "InvoiceItem"
    [ .required "item_id" fun r => return { r with id := ← Uuid.decoder },
      .required "invoice_id" fun r => return { r with invoiceId := ← Uuid.decoder },
      .required "account_id" fun r => return { r with accountId := ← Uuid.decoder },
      .required "description" fun r => return { r with description := ← Decoder.text },
      .required "quantity" fun r => return { r with quantity := ← Decimal.decoder },
      .required "unit_price" fun r => return { r with unitPrice := ← Decimal.decoder },
      .required "amount" fun r => return { r with amount := ← Decimal.decoder },
      .required "sort_order" fun r => return { r with sortOrder := ← Decoder.int32 },
      .required "created_utc" fun r => return { r with createdAt := ← Instant.decoder },
      .required "updated_utc" fun r => return { r with updatedAt := ← Instant.decoder } ]
    {}

/-- The item as JSON. -/
def toJson (i : Item) : Json :=
  .obj [("item_id", .str i.id.text), ("invoice_id", .str i.invoiceId.text),
    ("account_id", .str i.accountId.text), ("description", .str i.description),
    ("quantity", i.quantity.toJson), ("unit_price", i.unitPrice.toJson),
    ("amount", i.amount.toJson), ("sort_order", Json.ofInt i.sortOrder),
    ("created_utc", i.createdAt.toJson), ("updated_utc", i.updatedAt.toJson)]

end Item

/-- An invoice with its items and its client. -/
structure InvoiceDetails where
  invoice : Invoice
  items : List Item
  client : Option Client
  deriving DecidableEq, Repr, Inhabited

/-- The details as JSON: the invoice's fields, then `items` and `client`. -/
def InvoiceDetails.toJson (d : InvoiceDetails) : Json :=
  .obj (d.invoice.fields ++ [("items", .arr (d.items.map Item.toJson)),
    ("client", Json.ofOption Client.toJson d.client)])

/-- A page of a listing with its counts. -/
structure Page (α : Type) where
  rows : List α
  total : Int
  page : Int
  pageSize : Int
  totalPages : Int
  deriving Repr

/-- A page as JSON, its rows under `key`. -/
def Page.toJson {α : Type} (key : String) (f : α → Json) (p : Page α) : Json :=
  .obj [(key, .arr (p.rows.map f)), ("total", Json.ofInt p.total), ("page", Json.ofInt p.page),
    ("page_size", Json.ofInt p.pageSize), ("total_pages", Json.ofInt p.totalPages)]

/-- Counts and sums over an account's invoices. -/
structure InvoiceStats where
  total : Int := 0
  draft : Int := 0
  sent : Int := 0
  paid : Int := 0
  overdue : Int := 0
  canceled : Int := 0
  revenue : Decimal := Decimal.zero
  pending : Decimal := Decimal.zero
  overdueRevenue : Decimal := Decimal.zero
  deriving DecidableEq, Repr, Inhabited

/-- The statistics as JSON. -/
def InvoiceStats.toJson (s : InvoiceStats) : Json :=
  .obj [("total_invoices", Json.ofInt s.total), ("draft_invoices", Json.ofInt s.draft),
    ("sent_invoices", Json.ofInt s.sent), ("paid_invoices", Json.ofInt s.paid),
    ("overdue_invoices", Json.ofInt s.overdue), ("canceled_invoices", Json.ofInt s.canceled),
    ("total_revenue", s.revenue.toJson), ("pending_revenue", s.pending.toJson),
    ("overdue_revenue", s.overdueRevenue.toJson)]

end Invoicing
