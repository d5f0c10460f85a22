import Invoicing.Calendar.Decode
import Invoicing.Uuid

/-!
# Clients

A client is someone an account bills: a name, optional contact and address details, and whether
it is still active. Deleting a client only marks it inactive.
-/

namespace Invoicing

/-- A client of an account. -/
structure Client where
  id : Uuid := default
  accountId : Uuid := default
  name : String := ""
  email : Option String := none
  phone : Option String := none
  companyName : Option String := none
  addressLine1 : Option String := none
  addressLine2 : Option String := none
  city : Option String := none
  state : Option String := none
  postalCode : Option String := none
  country : Option String := none
  taxId : Option String := none
  notes : Option String := none
  isActive : Bool := true
  createdAt : Instant := default
  updatedAt : Instant := default
  deriving DecidableEq, Repr, Inhabited

namespace Client

/-- An optional text field that must be present. -/
def optionalText (name : String) (set : Client → Option String → Client) : Field Client :=
  .optional name fun r => return set r (← Decoder.nullable Decoder.text)

/-- Reads a client record. -/
def decoder : Decoder Client :=
  Decoder.record "Client"
    [ .required "client_id" fun r => return { r with id := ← Uuid.decoder },
      .required "account_id" fun r => return { r with accountId := ← Uuid.decoder },
      .required "name" fun r => return { r with name := ← Decoder.text },
      optionalText "email" fun r v => { r with email := v },
      optionalText "phone" fun r v => { r with phone := v },
      optionalText "company_name" fun r v => { r with companyName := v },
      optionalText "address_line1" fun r v => { r with addressLine1 := v },
      optionalText "address_line2" fun r v => { r with addressLine2 := v },
      optionalText "city" fun r v => { r with city := v },
      optionalText "state" fun r v => { r with state := v },
      optionalText "postal_code" fun r v => { r with postalCode := v },
      optionalText "country" fun r v => { r with country := v },
      optionalText "tax_id" fun r v => { r with taxId := v },
      optionalText "notes" fun r v => { r with notes := v },
      .required "is_active" fun r => return { r with isActive := ← Decoder.bool },
      .required "created_utc" fun r => return { r with createdAt := ← Instant.decoder },
      .required "updated_utc" fun r => return { r with updatedAt := ← Instant.decoder } ]
    {}

/-- The client as JSON. -/
def toJson (c : Client) : Json :=
  let opt := Json.ofOption Json.str
  .obj [("client_id", .str c.id.text), ("account_id", .str c.accountId.text),
    ("name", .str c.name), ("email", opt c.email), ("phone", opt c.phone),
    ("company_name", opt c.companyName), ("address_line1", opt c.addressLine1),
    ("address_line2", opt c.addressLine2), ("city", opt c.city), ("state", opt c.state),
    ("postal_code", opt c.postalCode), ("country", opt c.country), ("tax_id", opt c.taxId),
    ("notes", opt c.notes), ("is_active", .bool c.isActive),
    ("created_utc", c.createdAt.toJson), ("updated_utc", c.updatedAt.toJson)]

end Client

end Invoicing
