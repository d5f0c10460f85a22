import Invoicing.Decode.Basic
import Invoicing.Validation
import Invoicing.Email

/-!
# Account and client requests

The payloads that open an account and that create or change a client, with their JSON form and
their validation rules.

An account request needs an e-mail address and a full name; the default currency, payment
terms and invoice-number prefix are optional. A client request needs a name; everything else is
optional text. Both decode from an object or from an array of their fields in order, where the
optional fields may be left off the end.

Rules:
* an account's e-mail address, and a client's when given, must be valid (`Email.isValid`);
* a full name or client name has 2 to 255 characters;
* a default currency has exactly 3 characters;
* default payment terms lie between 0 and 365 days;
* an invoice-number prefix has 1 to 20 characters.
-/

namespace Invoicing

/-- The payload that opens an account. -/
structure AccountRequest where
  email : String := ""
  fullName : String := ""
  defaultCurrency : Option String := none
  defaultPaymentTerms : Option Int := none
  invoiceNumberPrefix : Option String := none
  deriving DecidableEq, Repr, Inhabited

namespace AccountRequest

/-- Reads an account request. -/
def decoder : Decoder AccountRequest :=
  Decoder.record "CreateAccountRequest"
    [ .required "email" fun r => return { r with email := ← Decoder.text },
      .required "full_name" fun r => return { r with fullName := ← Decoder.text },
      .withDefault "default_currency" fun r =>
        return { r with defaultCurrency := ← Decoder.nullable Decoder.text },
      .withDefault "default_payment_terms" fun r =>
        return { r with defaultPaymentTerms := ← Decoder.nullable Decoder.int32 },
      .withDefault "invoice_number_prefix" fun r =>
        return { r with invoiceNumberPrefix := ← Decoder.nullable Decoder.text } ]
    {}

/-- The request as JSON. -/
def toJson (r : AccountRequest) : Json :=
  .obj [("email", .str r.email), ("full_name", .str r.fullName),
    ("default_currency", Json.ofOption .str r.defaultCurrency),
    ("default_payment_terms", Json.ofOption Json.ofInt r.defaultPaymentTerms),
    ("invoice_number_prefix", Json.ofOption .str r.invoiceNumberPrefix)]

/-- The failed rules (see the module comment). -/
def violations (r : AccountRequest) : List Violation :=
  Violation.check (Email.isValid r.email) "email" "Invalid email format" ++
  Violation.check (lengthWithin 2 255 r.fullName) "full_name"
    "full_name must be at least 2 characters" ++
  Violation.checkSome r.defaultCurrency (fun s => s.length == 3) "default_currency"
    "default_currency must be a 3-letter code" ++
  Violation.checkSome r.defaultPaymentTerms (fun n => decide (0 ≤ n ∧ n ≤ 365))
    "default_payment_terms" "default_payment_terms must be between 0 and 365 days" ++
  Violation.checkSome r.invoiceNumberPrefix (lengthWithin 1 20) "invoice_number_prefix"
    "invoice_number_prefix must be 1 to 20 characters"

end AccountRequest

/-- The payload that creates or replaces a client. -/
structure ClientRequest where
  name : String := ""
  email : Option String := none
  phone : Option String := none
  companyName : Option String := none
  addressLine1 : Option String := none
  addressLine2 : Option String := none
  city : Option String := none
  state : Option String := none
  postalCode : Option String := none
  country : Option String := none
  taxId : Option String := none
  notes : Option String := none
  deriving DecidableEq, Repr, Inhabited

namespace ClientRequest

/-- An optional text field with a default. -/
def optionalText (name : String) (set : ClientRequest → Option String → ClientRequest) :
    Field ClientRequest :=
  .withDefault name fun r => return set r (← Decoder.nullable Decoder.text)

/-- Reads a client request. -/
def decoder : Decoder ClientRequest :=
  Decoder.record "ClientRequest"
    [ .required "name" fun r => return { r with name := ← Decoder.text },
      optionalText "email" fun r v => { r with email := v },
      optionalText "phone" fun r v => { r with phone := v },
      optionalText "company_name" fun r v => { r with companyName := v },
      optionalText "address_line1" fun r v => { r with addressLine1 := v },
      optionalText "address_line2" fun r v => { r with addressLine2 := v },
      optionalText "city" fun r v => { r with city := v },
      optionalText "state" fun r v => { r with state := v },
      optionalText "postal_code" fun r v => { r with postalCode := v },
      optionalText "country" fun r v => { r with country := v },
      optionalText "tax_id" fun r v => { r with taxId := v },
      optionalText "notes" fun r v => { r with notes := v } ]
    {}

/-- The request as JSON. -/
def toJson (r : ClientRequest) : Json :=
  let opt := Json.ofOption Json.str
  .obj [("name", .str r.name), ("email", opt r.email), ("phone", opt r.phone),
    ("company_name", opt r.companyName), ("address_line1", opt r.addressLine1),
    ("address_line2", opt r.addressLine2), ("city", opt r.city), ("state", opt r.state),
    ("postal_code", opt r.postalCode), ("country", opt r.country), ("tax_id", opt r.taxId),
    ("notes", opt r.notes)]

/-- The failed rules (see the module comment). -/
def violations (r : ClientRequest) : List Violation :=
  Violation.check (lengthWithin 2 255 r.name) "name" "name must be at least 2 characters" ++
  Violation.checkSome r.email Email.isValid "email" "Invalid email format"

end ClientRequest

end Invoicing
