import Invoicing.Calendar.Decode
import Invoicing.Uuid
import Invoicing.Error

/-!
# Accounts

An account owns clients and invoices. It carries its subscription tier, a monthly invoice
count and limit, the defaults for new invoices (currency, payment terms, number prefix) and the
counter that numbers its next invoice.

Only the exact tier `free` is limited: a free account whose monthly count has reached its limit
may not create another invoice.

What is proved here:
* `checkQuota_eq_ok_iff`: the quota refuses exactly a free account at or over its limit.
-/

namespace Invoicing

/-- The tier whose accounts are limited. -/
def freeTier : String := "free"

/-- An account. -/
structure Account where
  id : Uuid := default
  email : String := ""
  fullName : String := ""
  tier : String := ""
  subscriptionStatus : String := ""
  monthlyInvoiceCount : Int := 0
  monthlyInvoiceLimit : Int := 0
  defaultCurrency : String := ""
  defaultPaymentTerms : Int := 0
  invoiceNumberPrefix : String := ""
  nextInvoiceNumber : Int := 0
  createdAt : Instant := default
  updatedAt : Instant := default
  deriving DecidableEq, Repr, Inhabited

namespace Account

/-- Whether the account is on the limited tier. -/
def isFreeTier (a : Account) : Bool := a.tier == freeTier

/-- Refuses a new invoice when a free account has used its monthly allowance. -/
def checkQuota (a : Account) : Except InvoiceError Unit :=
  if a.isFreeTier && decide (a.monthlyInvoiceLimit ≤ a.monthlyInvoiceCount) then
    .error (.quotaExceeded a.monthlyInvoiceLimit)
  else .ok ()

theorem checkQuota_eq_ok_iff (a : Account) :
    a.checkQuota = .ok () ↔ ¬ (a.tier = freeTier ∧ a.monthlyInvoiceLimit ≤ a.monthlyInvoiceCount) := by
  unfold checkQuota isFreeTier
  by_cases h : a.tier = freeTier <;> by_cases h' : a.monthlyInvoiceLimit ≤ a.monthlyInvoiceCount <;>
    simp [h, h']

/-- Reads an account record. -/
def decoder : Decoder Account :=
  Decoder.record "Account"
    [ .required "account_id" fun r => return { r with id := ← Uuid.decoder },
      .required "email" fun r => return { r with email := ← Decoder.text },
      .required "full_name" fun r => return { r with fullName := ← Decoder.text },
      .required "subscription_tier" fun r => return { r with tier := ← Decoder.text },
      .required "subscription_status" fun r =>
        return { r with subscriptionStatus := ← Decoder.text },
      .required "monthly_invoice_count" fun r =>
        return { r with monthlyInvoiceCount := ← Decoder.int32 },
      .required "monthly_invoice_limit" fun r =>
        return { r with monthlyInvoiceLimit := ← Decoder.int32 },
      .required "default_currency" fun r => return { r with defaultCurrency := ← Decoder.text },
      .required "default_payment_terms" fun r =>
        return { r with defaultPaymentTerms := ← Decoder.int32 },
      .required "invoice_number_prefix" fun r =>
        return { r with invoiceNumberPrefix := ← Decoder.text },
      .required "next_invoice_number" fun r =>
        return { r with nextInvoiceNumber := ← Decoder.int32 },
      .required "created_utc" fun r => return { r with createdAt := ← Instant.decoder },
      .required "updated_utc" fun r => return { r with updatedAt := ← Instant.decoder } ]
    {}

/-- The account as JSON. -/
def toJson (a : Account) : Json :=
  .obj [("account_id", .str a.id.text), ("email", .str a.email), ("full_name", .str a.fullName),
    ("subscription_tier", .str a.tier), ("subscription_status", .str a.subscriptionStatus),
    ("monthly_invoice_count", Json.ofInt a.monthlyInvoiceCount),
    ("monthly_invoice_limit", Json.ofInt a.monthlyInvoiceLimit),
    ("default_currency", .str a.defaultCurrency),
    ("default_payment_terms", Json.ofInt a.defaultPaymentTerms),
    ("invoice_number_prefix", .str a.invoiceNumberPrefix),
    ("next_invoice_number", Json.ofInt a.nextInvoiceNumber),
    ("created_utc", a.createdAt.toJson), ("updated_utc", a.updatedAt.toJson)]

end Account

end Invoicing
