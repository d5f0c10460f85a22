import Invoicing.Decimal.Decode
import Invoicing.Uuid
import Invoicing.Validation

/-!
# Invoice requests

The payloads that create an invoice, change it, change its status and list invoices or
clients, with their JSON form and their validation rules.

An item needs a description, a quantity and a unit price. A new invoice needs a client, issue
and due dates as text, and items; its currency, template, notes and terms are optional, and its
tax rate and discount default to zero. A change of an invoice gives any of those fields. A
status change gives the status as text and optionally a paid date. Listing queries give an
optional page, page size and (for invoices) status. All decode from an object or from an array
of their fields in order.

Rules:
* an item's description has 1 to 1000 characters;
* the issue and due dates of a new invoice are not empty;
* a currency, when given, has exactly 3 characters;
* the item list, when given, is not empty.

Items inside an invoice request are not checked with the invoice; the invoicing operations
check them one by one.
-/

namespace Invoicing

/-- One line of an invoice request. -/
structure ItemRequest where
  description : String := ""
  quantity : Decimal := Decimal.zero
  unitPrice : Decimal := Decimal.zero
  deriving DecidableEq, Repr, Inhabited

namespace ItemRequest

/-- Reads an item. -/
def decoder : Decoder ItemRequest :=
  Decoder.record "InvoiceItemRequest"
    [ .required "description" fun r => return { r with description := ← Decoder.text },
      .required "quantity" fun r => return { r with quantity := ← Decimal.decoder },
      .required "unit_price" fun r => return { r with unitPrice := ← Decimal.decoder } ]
    {}

/-- The item as JSON. -/
def toJson (r : ItemRequest) : Json :=
  .obj [("description", .str r.description), ("quantity", r.quantity.toJson),
    ("unit_price", r.unitPrice.toJson)]

/-- The failed rules (see the module comment). -/
def violations (r : ItemRequest) : List Violation :=
  Violation.check (lengthWithin 1 1000 r.description) "description"
    "item description is required"

end ItemRequest

/-- The rule on a currency code. -/
def currencyViolations (currency : Option String) : List Violation :=
  Violation.checkSome currency (fun s => s.length == 3) "currency"
    "currency must be a 3-letter ISO 4217 code"

/-- The rule on an item list. -/
def itemsViolations (items : Option (List ItemRequest)) : List Violation :=
  Violation.checkSome items (fun xs => !xs.isEmpty) "items" "at least one item is required"

/-- The payload that creates an invoice. -/
structure InvoiceRequest where
  clientId : Uuid := default
  issueDate : String := ""
  dueDate : String := ""
  currency : Option String := none
  taxRate : Decimal := Decimal.zero
  discountAmount : Decimal := Decimal.zero
  templateId : Option String := none
  notes : Option String := none
  terms : Option String := none
  items : List ItemRequest := []
  deriving DecidableEq, Repr, Inhabited

namespace InvoiceRequest

/-- Reads a new-invoice request. -/
def decoder : Decoder InvoiceRequest :=
  let optText := Decoder.nullable Decoder.text
  Decoder.record "CreateInvoiceRequest"
    [ .required "client_id" fun r => return { r with clientId := ← Uuid.decoder },
      .required "issue_date" fun r => return { r with issueDate := ← Decoder.text },
      .required "due_date" fun r => return { r with dueDate := ← Decoder.text },
      .withDefault "currency" fun r => return { r with currency := ← optText },
      .withDefault "tax_rate" fun r => return { r with taxRate := ← Decimal.decoder },
      .withDefault "discount_amount" fun r => return { r with discountAmount := ← Decimal.decoder },
      .withDefault "template_id" fun r => return { r with templateId := ← optText },
      .withDefault "notes" fun r => return { r with notes := ← optText },
      .withDefault "terms_and_conditions" fun r => return { r with terms := ← optText },
      .required "items" fun r => return { r with items := ← Decoder.list ItemRequest.decoder } ]
    {}

/-- The request as JSON. -/
def toJson (r : InvoiceRequest) : Json :=
  let opt := Json.ofOption Json.str
  .obj [("client_id", .str r.clientId.text), ("issue_date", .str r.issueDate),
    ("due_date", .str r.dueDate), ("currency", opt r.currency), ("tax_rate", r.taxRate.toJson),
    ("discount_amount", r.discountAmount.toJson), ("template_id", opt r.templateId),
    ("notes", opt r.notes), ("terms_and_conditions", opt r.terms),
    ("items", .arr (r.items.map ItemRequest.toJson))]

/-- The failed rules (see the module comment). -/
def violations (r : InvoiceRequest) : List Violation :=
  Violation.check (1 ≤ r.issueDate.length) "issue_date" "issue_date is required" ++
  Violation.check (1 ≤ r.dueDate.length) "due_date" "due_date is required" ++
  currencyViolations r.currency ++ itemsViolations (some r.items)

end InvoiceRequest

/-- The payload that changes an invoice: every field is optional. -/
structure InvoiceChanges where
  clientId : Option Uuid := none
  issueDate : Option String := none
  dueDate : Option String := none
  currency : Option String := none
  taxRate : Option Decimal := none
  discountAmount : Option Decimal := none
  templateId : Option String := none
  notes : Option String := none
  terms : Option String := none
  items : Option (List ItemRequest) := none
  deriving DecidableEq, Repr, Inhabited

namespace InvoiceChanges

/-- Reads a change request. -/
def decoder : Decoder InvoiceChanges :=
  let optText := Decoder.nullable Decoder.text
  let optDecimal := Decoder.nullable Decimal.decoder
  Decoder.record "UpdateInvoiceRequest"
    [ .withDefault "client_id" fun r => return { r with clientId := ← Decoder.nullable Uuid.decoder },
      .withDefault "issue_date" fun r => return { r with issueDate := ← optText },
      .withDefault "due_date" fun r => return { r with dueDate := ← optText },
      .withDefault "currency" fun r => return { r with currency := ← optText },
      .withDefault "tax_rate" fun r => return { r with taxRate := ← optDecimal },
      .withDefault "discount_amount" fun r => return { r with discountAmount := ← optDecimal },
      .withDefault "template_id" fun r => return { r with templateId := ← optText },
      .withDefault "notes" fun r => return { r with notes := ← optText },
      .withDefault "terms_and_conditions" fun r => return { r with terms := ← optText },
      .withDefault "items" fun r =>
        return { r with items := ← Decoder.nullable (Decoder.list ItemRequest.decoder) } ]
    {}

/-- The request as JSON. -/
def toJson (r : InvoiceChanges) : Json :=
  let opt := Json.ofOption Json.str
  .obj [("client_id", Json.ofOption (fun u => .str u.text) r.clientId),
    ("issue_date", opt r.issueDate), ("due_date", opt r.dueDate), ("currency", opt r.currency),
    ("tax_rate", Json.ofOption Decimal.toJson r.taxRate),
    ("discount_amount", Json.ofOption Decimal.toJson r.discountAmount),
    ("template_id", opt r.templateId), ("notes", opt r.notes),
    ("terms_and_conditions", opt r.terms),
    ("items", Json.ofOption (fun xs => .arr (xs.map ItemRequest.toJson)) r.items)]

/-- The failed rules (see the module comment). -/
def violations (r : InvoiceChanges) : List Violation :=
  currencyViolations r.currency ++ itemsViolations r.items

end InvoiceChanges

/-- The payload that changes the status of an invoice. -/
structure StatusRequest where
  status : String := ""
  paidDate : Option String := none
  deriving DecidableEq, Repr, Inhabited

namespace StatusRequest

/-- Reads a status change. -/
def decoder : Decoder StatusRequest :=
  Decoder.record "UpdateInvoiceStatusRequest"
    [ .required "status" fun r => return { r with status := ← Decoder.text },
      .withDefault "paid_date" fun r =>
        return { r with paidDate := ← Decoder.nullable Decoder.text } ]
    {}

/-- The request as JSON. -/
def toJson (r : StatusRequest) : Json :=
  .obj [("status", .str r.status), ("paid_date", Json.ofOption .str r.paidDate)]

end StatusRequest

/-- The query of a listing: page, page size and a status filter. -/
structure ListQuery where
  page : Option Int := none
  pageSize : Option Int := none
  status : Option String := none
  deriving DecidableEq, Repr, Inhabited

namespace ListQuery

/-- The fields of a listing query; invoices also filter by status. -/
def fields (withStatus : Bool) : List (Field ListQuery) :=
  [ .optional "page" fun r => return { r with page := ← Decoder.nullable Decoder.int64 },
    .optional "page_size" fun r => return { r with pageSize := ← Decoder.nullable Decoder.int64 } ] ++
  (if withStatus then
    [ .optional "status" fun r => return { r with status := ← Decoder.nullable Decoder.text } ]
  else [])

/-- Reads the query of the invoice listing. -/
def invoiceDecoder : Decoder ListQuery := Decoder.record "ListInvoicesParams" (fields true) {}

/-- Reads the query of the client listing. -/
def clientDecoder : Decoder ListQuery := Decoder.record "ListClientsParams" (fields false) {}

/-- The query as JSON; `withStatus` adds the status filter. -/
def toJson (withStatus : Bool) (r : ListQuery) : Json :=
  .obj ([("page", Json.ofOption Json.ofInt r.page),
    ("page_size", Json.ofOption Json.ofInt r.pageSize)] ++
    (if withStatus then [("status", Json.ofOption .str r.status)] else []))

end ListQuery

end Invoicing
