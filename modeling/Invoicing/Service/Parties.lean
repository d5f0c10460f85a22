import Invoicing.Service.Basic
import Invoicing.Store.Clients
import Invoicing.Text.Capitals
import Invoicing.Page
import Invoicing.Request.Invoice

/-!
# Accounts and clients

Opening an account checks the request, trims the e-mail address, the name and the prefix,
trims and capitalises the currency, and fills in the defaults of a new account: the free tier
with five invoices a month, Indian rupees, thirty days of payment terms and the prefix `INV`. An
address already in use is a conflict.

Clients are added, read, listed a page at a time, replaced and deleted within their account;
a client request is checked before the store is touched.
-/

namespace Invoicing

namespace Service

open StoreOp

/-- Opens an account. -/
def provisionAccount (r : AccountRequest) : StoreOp Account := do
  validated r.violations
  let email := trimBlanks r.email
  let base : NewAccount := { email := email, fullName := trimBlanks r.fullName }
  let input : NewAccount :=
    { base with
      currency := (r.defaultCurrency.map fun c => Capitals.ofString (trimBlanks c)).getD base.currency,
      paymentTerms := r.defaultPaymentTerms.getD base.paymentTerms,
      numberPrefix := (r.invoiceNumberPrefix.map trimBlanks).getD base.numberPrefix }
  match ← (Accounts.insert input : StateM Store _) with
  | .ok a => pure a
  | .error (.unique _) => throw (.conflict ("account with email '" ++ email ++ "' already exists"))
  | .error e => throw (failure "Failed to create account" e)

/-- Reads an account. -/
def getAccount (account : Uuid) : StoreOp Account := do
  orMissing "account" (← Accounts.find account)

/-- Adds a client to an account. -/
def createClient (account : Uuid) (r : ClientRequest) : StoreOp Client := do
  validated r.violations
  Clients.insert account r

/-- Reads an active client. -/
def getClient (account client : Uuid) : StoreOp Client := do
  orMissing "client" (← Clients.find account client)

/-- One page of the active clients of an account. The pages are counted as the program counts them
in 64-bit arithmetic wherever `total + size` does not overflow. -/
def listClients (account : Uuid) (q : ListQuery) : StoreOp (Page Client) := do
  let page := PageRequest.make q.page q.pageSize
  let total ← Clients.count account
  let rows ← Clients.list account page.limit page.offset
  pure ⟨rows, total, page.page, page.size, page.totalPages total⟩

/-- Replaces the details of an active client. -/
def updateClient (account client : Uuid) (r : ClientRequest) : StoreOp Client := do
  validated r.violations
  orMissing "client" (← Clients.update account client r)

/-- Deletes an active client. -/
def deleteClient (account client : Uuid) : StoreOp Unit := do
  if !(← Clients.deactivate account client) then throw (InvoiceError.missing "client")

end Service

end Invoicing
