import Invoicing.Store.Basic

/-!
# The accounts table

An account row holds an e-mail address of at most 255 characters, unique among accounts, a
full name of at most 255, a tier and a subscription status of at most 30, a currency of at most
3 and an invoice-number prefix of at most 20 characters; its monthly count and limit are never
negative and its next invoice number is at least 1. A new account is active, has used none of
its allowance and numbers its first invoice 1.
-/

namespace Invoicing

/-- What a new account is opened with. -/
structure NewAccount where
  email : String
  fullName : String
  tier : String := freeTier
  monthlyLimit : Int := 5
  currency : String := "INR"
  paymentTerms : Int := 30
  numberPrefix : String := "INV"
  deriving DecidableEq, Repr

namespace Accounts

/-- The statement that inserts a new account as row `id`. -/
def insertRow (a : NewAccount) (id : Uuid) (now : Instant) (t : Tables) :
    Except DbError (Account × Tables) := do
  for s in [a.email, a.fullName, a.tier, a.currency, a.numberPrefix] do
    let _ ← Column.text s
  let email ← Column.varchar 255 a.email
  let fullName ← Column.varchar 255 a.fullName
  let tier ← Column.varchar 30 a.tier
  let currency ← Column.varchar 3 a.currency
  let numberPrefix ← Column.varchar 20 a.numberPrefix
  if a.monthlyLimit < 0 then throw (.check "accounts" "accounts_monthly_invoice_limit_check")
  if t.accounts.any (·.email == email) then throw (.unique "accounts_email_key")
  let row : Account :=
    { id := id, email := email, fullName := fullName, tier := tier,
      subscriptionStatus := "active", monthlyInvoiceCount := 0,
      monthlyInvoiceLimit := a.monthlyLimit, defaultCurrency := currency,
      defaultPaymentTerms := a.paymentTerms, invoiceNumberPrefix := numberPrefix,
      nextInvoiceNumber := 1, createdAt := now, updatedAt := now }
  pure (row, { t with accounts := t.accounts ++ [row] })

/-- Opens an account; the failure is the database's. -/
def insert (a : NewAccount) : StateM Store (Except DbError Account) :=
  Store.insert .own .accounts (insertRow a)

/-- The account with an identity. -/
def lookup (id : Uuid) (t : Tables) : Option Account := t.accounts.find? (·.id == id)

/-- Reads an account. -/
def find (id : Uuid) : StoreOp (Option Account) :=
  StoreOp.query .own (.touch .select .accounts) "Failed to get account" fun _ t => .ok (lookup id t, t)

/-- Reads an account for update inside the transaction. -/
def lock (id : Uuid) : StoreOp (Option Account) :=
  StoreOp.query .txn (.touch .lock .accounts) "Failed to lock account" fun _ t => .ok (lookup id t, t)

/-- The row `a` once the account `id` has counted one more invoice at `now`: its next number and
its monthly count go up. Other accounts stay as they are. -/
def countInvoice (id : Uuid) (now : Instant) (a : Account) : Account :=
  if a.id == id then
    { a with
      nextInvoiceNumber := a.nextInvoiceNumber + 1,
      monthlyInvoiceCount := a.monthlyInvoiceCount + 1, updatedAt := now }
  else a

/-- Counts one more invoice of an account. -/
def advanceCounter (id : Uuid) : StoreOp Unit :=
  StoreOp.query .txn (.touch .update .accounts) "Failed to advance invoice counter" fun now t =>
    .ok ((), { t with accounts := t.accounts.map (countInvoice id now) })

end Accounts

end Invoicing
