import Invoicing.Store.Accounts
import Invoicing.Request.Party

/-!
# The clients table

A client row belongs to an existing account. Its name, e-mail address, company and street
lines hold at most 255 characters, its city, state and country at most 100, its phone and tax
number at most 50 and its postal code at most 20; its notes are unbounded. Deleting a client
only marks it inactive, and only active clients are found, listed, changed or deleted; a client
billed on an invoice is still found for that invoice.

Listings show the newest clients first, ties by identity.
-/

namespace Invoicing

namespace Clients

/-- The texts of a client request, in the order the columns take them. -/
def texts (r : ClientRequest) : List (Option String) :=
  [some r.name, r.email, r.phone, r.companyName, r.addressLine1, r.addressLine2, r.city,
    r.state, r.postalCode, r.country, r.taxId, r.notes]

/-- Checks the texts of a request against the columns and gives the client row with them. -/
def fill (r : ClientRequest) (c : Client) : Except DbError Client := do
  for s in texts r do
    let _ ← Column.optionalText s
  let name ← Column.varchar 255 r.name
  let email ← Column.optionalVarchar 255 r.email
  let phone ← Column.optionalVarchar 50 r.phone
  let companyName ← Column.optionalVarchar 255 r.companyName
  let addressLine1 ← Column.optionalVarchar 255 r.addressLine1
  let addressLine2 ← Column.optionalVarchar 255 r.addressLine2
  let city ← Column.optionalVarchar 100 r.city
  let state ← Column.optionalVarchar 100 r.state
  let postalCode ← Column.optionalVarchar 20 r.postalCode
  let country ← Column.optionalVarchar 100 r.country
  let taxId ← Column.optionalVarchar 50 r.taxId
  pure { c with
    name := name, email := email, phone := phone, companyName := companyName,
    addressLine1 := addressLine1, addressLine2 := addressLine2, city := city, state := state,
    postalCode := postalCode, country := country, taxId := taxId, notes := r.notes }

/-- The statement that inserts a client of an account as row `id`. -/
def insertRow (account : Uuid) (r : ClientRequest) (id : Uuid) (now : Instant) (t : Tables) :
    Except DbError (Client × Tables) := do
  let row ← fill r
    { id := id, accountId := account, isActive := true, createdAt := now, updatedAt := now }
  if (Accounts.lookup account t).isNone then
    throw (.foreignKey "clients" "clients_account_id_fkey")
  pure (row, { t with clients := t.clients ++ [row] })

/-- Adds a client to an account. -/
def insert (account : Uuid) (r : ClientRequest) : StoreOp Client :=
  StoreOp.insert .own .clients "Failed to create client" (insertRow account r)

/-- The client of an account with an identity, if it is active or `anyState` is set. -/
def lookup (account id : Uuid) (anyState : Bool) (t : Tables) : Option Client :=
  t.clients.find? fun c => c.accountId == account && c.id == id && (anyState || c.isActive)

/-- Reads an active client. -/
def find (account id : Uuid) : StoreOp (Option Client) :=
  StoreOp.query .own (.touch .select .clients) "Failed to get client" fun _ t =>
    .ok (lookup account id false t, t)

/-- Reads the client billed on an invoice, active or not. -/
def findBilled (account id : Uuid) : StoreOp (Option Client) :=
  StoreOp.query .own (.touch .select .clients) "Failed to get client" fun _ t =>
    .ok (lookup account id true t, t)

/-- The active clients of an account. -/
def active (account : Uuid) (t : Tables) : List Client :=
  t.clients.filter fun c => c.accountId == account && c.isActive

/-- Counts the active clients of an account. -/
def count (account : Uuid) : StoreOp Int :=
  StoreOp.query .own (.touch .select .clients) "Failed to count clients" fun _ t =>
    .ok ((active account t).length, t)

/-- Whether client `a` is listed before client `b`: newer first, ties by identity. -/
def listedBefore (a b : Client) : Bool :=
  b.createdAt.before a.createdAt || (a.createdAt == b.createdAt && a.id.value ≤ b.id.value)

/-- One page of the active clients of an account. -/
def list (account : Uuid) (limit offset : Int) : StoreOp (List Client) :=
  StoreOp.query .own (.touch .select .clients) "Failed to list clients" fun _ t =>
    .ok ((((active account t).mergeSort listedBefore).drop offset.toNat).take limit.toNat, t)

/-- Replaces the details of an active client. -/
def update (account id : Uuid) (r : ClientRequest) : StoreOp (Option Client) :=
  StoreOp.query .own (.touch .update .clients) "Failed to update client" fun now t => do
    for s in texts r do
      let _ ← Column.optionalText s
    match lookup account id false t with
    | none => pure (none, t)
    | some c =>
      let row ← fill r { c with updatedAt := now }
      let put (x : Client) : Client := if x.id == id then row else x
      pure (some row, { t with clients := t.clients.map put })

/-- Marks an active client inactive; tells whether there was one. -/
def deactivate (account id : Uuid) : StoreOp Bool :=
  StoreOp.query .own (.touch .update .clients) "Failed to deactivate client" fun now t =>
    match lookup account id false t with
    | none => .ok (false, t)
    | some _ =>
      let off (x : Client) : Client :=
        if x.id == id then { x with isActive := false, updatedAt := now } else x
      .ok (true, { t with clients := t.clients.map off })

end Clients

end Invoicing
