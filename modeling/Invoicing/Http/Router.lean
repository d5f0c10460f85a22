import Invoicing.Http.Message
import Invoicing.Http.Query
import Invoicing.Service.Invoices
import Invoicing.Decode.Json

/-!
# The HTTP interface

The service answers the probes `/health`, `/ready` and `/metrics`, and under `/api/v1` the
operations on accounts, clients and invoices. A path is matched segment by segment, a fixed
segment before a parameter; a path that matches no route is not found and a route without the
request's method answers "method not allowed", both without a body. `HEAD` is served as `GET`
without the body.

A route takes its inputs in a fixed order, and the first that fails answers:
1. the account, from the `X-Account-ID` header: a missing header, or one that is not visible
   ASCII, is unauthorized, and so is a value that, trimmed, is no UUID;
2. the identity in the path, percent-decoded: one that is not UTF-8, or no UUID, is a bad URL;
3. the query of a listing, or the JSON body: the body needs a JSON content type
   (`application/json` or a `+json` type), must parse, and must decode into the request.

Operations answer with their result as JSON (201 for what they create, 204 with no body for
deletions), the document of an invoice as a PDF attachment, or their error.
-/

namespace Invoicing

namespace Http

/-- What a route does. -/
inductive Endpoint where
  | health
  | ready
  | metrics
  | createAccount
  | currentAccount
  | listClients
  | createClient
  | getClient
  | updateClient
  | deleteClient
  | listInvoices
  | createInvoice
  | invoiceStats
  | getInvoice
  | updateInvoice
  | deleteInvoice
  | updateStatus
  | duplicate
  | document
  deriving DecidableEq, Repr

/-- A segment of a route's path: fixed text, or a named parameter. -/
inductive Segment where
  | fixed (s : String)
  | param (name : String)
  deriving DecidableEq, Repr

/-- A route: its path and the endpoint of each method it serves. -/
structure Route where
  path : List Segment
  methods : List (String × Endpoint)

/-- The routes, in the order they are tried: fixed segments before parameters. -/
def routes : List Route :=
  let api (rest : List Segment) : List Segment := [.fixed "api", .fixed "v1"] ++ rest
  [ ⟨[.fixed "health"], [("GET", .health)]⟩,
    ⟨[.fixed "ready"], [("GET", .ready)]⟩,
    ⟨[.fixed "metrics"], [("GET", .metrics)]⟩,
    ⟨api [.fixed "accounts"], [("POST", .createAccount)]⟩,
    ⟨api [.fixed "accounts", .fixed "me"], [("GET", .currentAccount)]⟩,
    ⟨api [.fixed "clients"], [("GET", .listClients), ("POST", .createClient)]⟩,
    ⟨api [.fixed "clients", .param "client_id"],
      [("GET", .getClient), ("PUT", .updateClient), ("DELETE", .deleteClient)]⟩,
    ⟨api [.fixed "invoices"], [("GET", .listInvoices), ("POST", .createInvoice)]⟩,
    ⟨api [.fixed "invoices", .fixed "stats"], [("GET", .invoiceStats)]⟩,
    ⟨api [.fixed "invoices", .param "invoice_id"],
      [("GET", .getInvoice), ("PUT", .updateInvoice), ("DELETE", .deleteInvoice)]⟩,
    ⟨api [.fixed "invoices", .param "invoice_id", .fixed "status"], [("PATCH", .updateStatus)]⟩,
    ⟨api [.fixed "invoices", .param "invoice_id", .fixed "duplicate"], [("POST", .duplicate)]⟩,
    ⟨api [.fixed "invoices", .param "invoice_id", .fixed "pdf"], [("GET", .document)]⟩ ]

/-- The named parameters of a path that matches a route's segments. -/
def matchPath : List Segment → List String → Option (List (String × String))
  | [], [] => some []
  | .fixed s :: ps, x :: xs => if s = x then matchPath ps xs else none
  | .param n :: ps, x :: xs => if x.isEmpty then none else (matchPath ps xs).map ((n, x) :: ·)
  | _, _ => none

/-- How a request meets the routes. -/
inductive Resolution where
  | found (e : Endpoint) (params : List (String × String))
  | wrongMethod
  | unknown
  deriving DecidableEq, Repr

/-- The segments of a path after its leading slash. -/
def segments (path : String) : List String :=
  match path.splitOn "/" with
  | "" :: rest => rest
  | all => all

/-- Finds the route of a method and path. -/
def resolve (method path : String) : Resolution :=
  let segs := segments path
  match routes.findSome? fun r => (matchPath r.path segs).map fun ps => (r, ps) with
  | none => .unknown
  | some (r, ps) =>
    match r.methods.lookup method with
    | some e => .found e ps
    | none => .wrongMethod

/-- Whether a header value is visible ASCII (tabs allowed). -/
def visibleAscii (s : String) : Bool :=
  s.toList.all fun c => c = '\t' ∨ (' ' ≤ c ∧ c.toNat < 127)

/-- Whether a character may stand in a token. -/
def tokenChar (c : Char) : Bool :=
  c.isAlphanum || "!#$%&'*+-.^_`|~".toList.contains c

/-- Whether a content type names JSON: `application/json`, or an `application` type with the
suffix `+json`, parameters allowed. -/
def isJsonType (value : Option String) : Bool :=
  match value with
  | none => false
  | some v =>
    visibleAscii v &&
      match (lowerAscii ((v.splitOn ";").headD "")).splitOn "/" with
      | [kind, sub] =>
        kind.toList.all tokenChar && !sub.isEmpty && sub.toList.all tokenChar &&
          kind == "application" && (sub == "json" || (sub.splitOn "+").drop 1 == ["json"])
      | _ => false

/-- An answer that stops a request before its operation runs. -/
abbrev Extract (α : Type) := Except Response α

/-- The account of a request. -/
def account (r : Request) : Extract Uuid :=
  let missing := Response.ofError (.unauthorized "Missing X-Account-ID header (required from gateway)")
  match r.header? "x-account-id" with
  | none => .error missing
  | some v =>
    if !visibleAscii v then .error missing
    else
      match Uuid.parse? (trimBlanks v) with
      | .ok u => .ok u
      | .error _ => .error (Response.ofError (.unauthorized "Invalid X-Account-ID header"))

/-- The identity in a named path parameter: percent-decoded, it must be UTF-8 and a UUID. -/
def identity (param : String × String) : Extract Uuid :=
  match Utf8.decode? (Query.bytes param.2.toList) with
  | none => .error (Response.text 400 ("Invalid URL: Invalid UTF-8 in `" ++ param.1 ++ "`"))
  | some text =>
    match Uuid.parse? text with
    | .ok u => .ok u
    | .error e => .error (Response.text 400 ("Invalid URL: UUID parsing failed: " ++ e.message))

/-- The listing query of a request. -/
def listing (withStatus : Bool) (r : Request) : Extract ListQuery :=
  match Query.listing withStatus (Query.pairs r.query) {} with
  | .ok q => .ok q
  | .error m => .error (Response.text 400 ("Failed to deserialize query string: " ++ m))

/-- The JSON body of a request, decoded. -/
def body {α : Type} (d : Decoder α) (r : Request) : Extract α :=
  if !isJsonType (r.header? "content-type") then
    .error (Response.text 415 "Expected request with `Content-Type: application/json`")
  else
    match Decoder.runText d r.body with
    | .ok a => .ok a
    | .error e =>
      if e.malformed then
        .error (Response.text 400 ("Failed to parse the request body as JSON: " ++ e.textMessage))
      else
        .error (Response.text 422
          ("Failed to deserialize the JSON body into the target type: " ++ e.textMessage))

/-- Runs an operation: its result answers as `ok` says, its error as an application error. -/
def serve {α : Type} (op : StoreOp α) (ok : α → Response) : StateM Store Response := do
  match ← ExceptT.run op with
  | .ok a => pure (ok a)
  | .error e => pure (Response.ofError (AppError.ofInvoiceError e))

/-- Runs the operation of an endpoint once its inputs are extracted. -/
def guarded (inputs : Extract (StateM Store Response)) : StateM Store Response :=
  match inputs with
  | .ok run => run
  | .error r => pure r

/-- The first path parameter. -/
def firstParam (params : List (String × String)) : String × String := params.headD ("", "")

/-- The body of the health probe. -/
def healthBody (ok : Bool) : Json :=
  if ok then
    .obj [("status", .str "ok"), ("service", .str "invoicing-service"), ("version", .str "0.1.0")]
  else
    .obj [("status", .str "unhealthy"), ("service", .str "invoicing-service"),
      ("error", .str (AppError.database ("Health check failed: " ++ DbError.unavailable.message)).message)]

/-- Serves an endpoint. -/
def dispatch (now : Instant) (r : Request) (e : Endpoint) (params : List (String × String)) :
    StateM Store Response :=
  let created {α : Type} (f : α → Json) (a : α) : Response := Response.json 201 (f a)
  let okJson {α : Type} (f : α → Json) (a : α) : Response := Response.json 200 (f a)
  let gone (_ : Unit) : Response := { status := 204 }
  match e with
  | .health => do
    let ok ← Store.ping
    pure (Response.json (if ok then 200 else 503) (healthBody ok))
  | .ready => do
    let ok ← Store.ping
    pure { status := if ok then 200 else 503 }
  | .metrics => pure { status := 200, contentType := some Response.plainText, body := .metrics }
  | .createAccount => guarded do
    let q ← body AccountRequest.decoder r
    pure (serve (Service.provisionAccount q) (created Account.toJson))
  | .currentAccount => guarded do
    let a ← account r
    pure (serve (Service.getAccount a) (okJson Account.toJson))
  | .listClients => guarded do
    let a ← account r
    let q ← listing false r
    pure (serve (Service.listClients a q) (okJson (Page.toJson "clients" Client.toJson)))
  | .createClient => guarded do
    let a ← account r
    let q ← body ClientRequest.decoder r
    pure (serve (Service.createClient a q) (created Client.toJson))
  | .getClient => guarded do
    let a ← account r
    let c ← identity (firstParam params)
    pure (serve (Service.getClient a c) (okJson Client.toJson))
  | .updateClient => guarded do
    let a ← account r
    let c ← identity (firstParam params)
    let q ← body ClientRequest.decoder r
    pure (serve (Service.updateClient a c q) (okJson Client.toJson))
  | .deleteClient => guarded do
    let a ← account r
    let c ← identity (firstParam params)
    pure (serve (Service.deleteClient a c) gone)
  | .listInvoices => guarded do
    let a ← account r
    let q ← listing true r
    pure (serve (Service.listInvoices a q) (okJson (Page.toJson "invoices" Invoice.toJson)))
  | .createInvoice => guarded do
    let a ← account r
    let q ← body InvoiceRequest.decoder r
    pure (serve (Service.createInvoice a q) (created InvoiceDetails.toJson))
  | .invoiceStats => guarded do
    let a ← account r
    pure (serve (Service.getStats a) (okJson InvoiceStats.toJson))
  | .getInvoice => guarded do
    let a ← account r
    let i ← identity (firstParam params)
    pure (serve (Service.getInvoice a i) (okJson InvoiceDetails.toJson))
  | .updateInvoice => guarded do
    let a ← account r
    let i ← identity (firstParam params)
    let q ← body InvoiceChanges.decoder r
    pure (serve (Service.updateInvoice a i q) (okJson InvoiceDetails.toJson))
  | .deleteInvoice => guarded do
    let a ← account r
    let i ← identity (firstParam params)
    pure (serve (Service.deleteInvoice a i) gone)
  | .updateStatus => guarded do
    let a ← account r
    let i ← identity (firstParam params)
    let q ← body StatusRequest.decoder r
    pure (serve (Service.updateInvoiceStatus a i q now) (okJson InvoiceDetails.toJson))
  | .duplicate => guarded do
    let a ← account r
    let i ← identity (firstParam params)
    pure (serve (Service.duplicateInvoice a i now) (created InvoiceDetails.toJson))
  | .document => guarded do
    let a ← account r
    let i ← identity (firstParam params)
    pure (serve (Service.renderInvoice a i) fun (name, doc) =>
      { status := 200, contentType := some "application/pdf", body := .document doc,
        disposition := some ("attachment; filename=\"" ++ name ++ "\"") })

/-- Answers a request at `now`. -/
def handle (now : Instant) (r : Request) : StateM Store Response := do
  let head := r.method == "HEAD"
  match resolve (if head then "GET" else r.method) r.path with
  | .unknown => pure { status := 404 }
  | .wrongMethod => pure { status := 405 }
  | .found e params =>
    let resp ← dispatch now r e params
    pure (if head then { resp with body := .empty } else resp)

end Http

end Invoicing
