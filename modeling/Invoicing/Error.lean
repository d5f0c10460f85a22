import Invoicing.Json.Value

/-!
# Errors and their HTTP responses

`InvoiceError` is what the invoicing operations fail with; `AppError` is what the HTTP layer
answers with. Each invoice error becomes one application error:
* not found stays not found, a conflict stays a conflict;
* an exceeded quota is forbidden;
* invalid input, a refused status change and a refused operation are bad requests;
* a rendering failure is an internal error, a storage failure a database error.

An application error has a status code and a JSON body `{"error": …}`. Client errors show
their message; server errors hide it behind a fixed text. A validation failure answers 422
with `"Validation error"` and the failed rules as `details`.
-/

namespace Invoicing

/-- Why an invoicing operation failed. -/
inductive InvoiceError where
  | notFound (message : String)
  | quotaExceeded (limit : Int)
  | invalidInput (message : String)
  | invalidTransition (message : String)
  | invalidOperation (message : String)
  | conflict (message : String)
  | render (message : String)
  | storage (message : String)
  deriving DecidableEq, Repr

namespace InvoiceError

/-- "`what` not found". -/
def missing (what : String) : InvoiceError := .notFound (what ++ " not found")

/-- The text of the error. -/
def message : InvoiceError → String
  | .notFound m | .invalidInput m | .invalidTransition m | .invalidOperation m | .conflict m => m
  | .quotaExceeded limit =>
    "monthly invoice limit of " ++ toString limit ++ " reached for the free plan"
  | .render m => "failed to render invoice document: " ++ m
  | .storage m => "storage failure: " ++ m

/-- The name of the kind of error. -/
def kind : InvoiceError → String
  | .notFound _ => "NotFound"
  | .quotaExceeded _ => "QuotaExceeded"
  | .invalidInput _ => "InvalidInput"
  | .invalidTransition _ => "InvalidTransition"
  | .invalidOperation _ => "InvalidOperation"
  | .conflict _ => "Conflict"
  | .render _ => "Render"
  | .storage _ => "Storage"

/-- The label under which the error is counted. -/
def label : InvoiceError → String
  | .notFound _ => "not_found"
  | .quotaExceeded _ => "quota_exceeded"
  | .invalidInput _ => "invalid_input"
  | .invalidTransition _ => "invalid_transition"
  | .invalidOperation _ => "invalid_operation"
  | .conflict _ => "conflict"
  | .render _ => "render"
  | .storage _ => "storage"

end InvoiceError

/-- Why a request failed, as the HTTP layer sees it. -/
inductive AppError where
  /-- Failed validation rules, as their report. -/
  | validation (report : String)
  | badRequest (message : String)
  | notFound (message : String)
  | unauthorized (message : String)
  | forbidden (message : String)
  | conflict (message : String)
  | internal (message : String)
  | serviceUnavailable
  | database (message : String)
  | config (message : String)
  deriving DecidableEq, Repr

namespace AppError

/-- The application error an invoice error becomes; a rendering or storage failure keeps only
its cause. -/
def ofInvoiceError : InvoiceError → AppError
  | .notFound m => .notFound m
  | e@(.quotaExceeded _) => .forbidden e.message
  | .invalidInput m | .invalidTransition m | .invalidOperation m => .badRequest m
  | .conflict m => .conflict m
  | .render m => .internal m
  | .storage m => .database m

/-- The name of the kind of error. -/
def kind : AppError → String
  | .validation _ => "ValidationError"
  | .badRequest _ => "BadRequest"
  | .notFound _ => "NotFound"
  | .unauthorized _ => "Unauthorized"
  | .forbidden _ => "Forbidden"
  | .conflict _ => "Conflict"
  | .internal _ => "InternalError"
  | .serviceUnavailable => "ServiceUnavailable"
  | .database _ => "DatabaseError"
  | .config _ => "ConfigError"

/-- The text of the error. -/
def message : AppError → String
  | .validation r => "Validation error: " ++ r
  | .badRequest m => "Bad request: " ++ m
  | .notFound m => "Not found: " ++ m
  | .unauthorized m => "Unauthorized: " ++ m
  | .forbidden m => "Forbidden: " ++ m
  | .conflict m => "Conflict: " ++ m
  | .internal m => "Internal server error: " ++ m
  | .serviceUnavailable => "Service Unavailable"
  | .database m => "Database error: " ++ m
  | .config m => "Configuration error: " ++ m

/-- The HTTP status code. -/
def status : AppError → Nat
  | .validation _ => 422
  | .badRequest _ => 400
  | .notFound _ => 404
  | .unauthorized _ => 401
  | .forbidden _ => 403
  | .conflict _ => 409
  | .serviceUnavailable => 503
  | .internal _ | .database _ | .config _ => 500

/-- The JSON body of the response. -/
def body : AppError → Json
  | .validation r => .obj [("error", .str "Validation error"), ("details", .str r)]
  | .badRequest m | .notFound m | .unauthorized m | .forbidden m | .conflict m =>
    .obj [("error", .str m)]
  | .serviceUnavailable => .obj [("error", .str "Service unavailable")]
  | .internal _ => .obj [("error", .str "Internal server error")]
  | .database _ => .obj [("error", .str "Database error")]
  | .config _ => .obj [("error", .str "Configuration error")]

end AppError

end Invoicing
