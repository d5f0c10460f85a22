import Invoicing.Http.Router
import Invoicing.Proofs.Writes

/-!
# The account comes first

Every route of the API but the opening of an account takes the account from the `X-Account-ID`
header before it looks at anything else of the request: its path parameters, its query, its body.
So a request without a usable account header is answered 401 and changes nothing, whatever else
it carries (`account_checked_first`).

A request with an account `a` is then refused for a malformed path, query or body (400, 415 or
422, changing nothing), or it runs one of the service's operations as the session call made for
`a` (`ServedFor`). A failed operation is answered with the status of its kind of failure, and with
its message, except that a rendering or storage failure shows a fixed text instead of its cause
(`InvoiceError.status`, `InvoiceError.shown`).
-/

namespace Invoicing

namespace InvoiceError

/-- The status of the answer to a failure of an operation. -/
def status : InvoiceError → Nat
  | .notFound _ => 404
  | .quotaExceeded _ => 403
  | .invalidInput _ | .invalidTransition _ | .invalidOperation _ => 400
  | .conflict _ => 409
  | .render _ | .storage _ => 500

/-- What the answer to a failure of an operation shows: the failure's message when the client can
act on it, a fixed text that says nothing of the cause when rendering or the store failed. -/
def shown : InvoiceError → String
  | .render _ => "Internal server error"
  | .storage _ => "Database error"
  | e => e.message

end InvoiceError

namespace Http

/-! ## Answers to failed operations -/

/-- A failed operation is answered with the status of its kind and a JSON body whose `error` is
what the failure shows. -/
theorem ofError_ofInvoiceError (e : InvoiceError) :
    Response.ofError (AppError.ofInvoiceError e) =
      Response.json e.status (.obj [("error", .str e.shown)]) := by
  cases e <;> rfl

/-- Serving an operation leaves the store the operation leaves, and answers a failure as the
application error it becomes. -/
theorem serve_run {α : Type} (op : StoreOp α) (ok : α → Response) (s : Store) :
    (serve op ok).run s = match op.runOn s with
      | (.ok a, s') => (ok a, s')
      | (.error e, s') => (Response.ofError (AppError.ofInvoiceError e), s') := by
  unfold serve StoreOp.runOn
  simp only [bind, StateT.bind, StateT.run, pure]
  rcases (ExceptT.run op) s with ⟨_ | a, s'⟩ <;> rfl

/-! ## Taking a request apart -/

/-- The account of a request is what its `X-Account-ID` header holds, trimmed, when the header is
visible ASCII and that is a UUID. -/
theorem account_ok {r : Request} {a : Uuid} :
    account r = .ok a ↔ ∃ v, r.header? "x-account-id" = some v ∧ visibleAscii v = true ∧
      Uuid.parse? (trimBlanks v) = .ok a := by
  unfold account
  cases hv : r.header? "x-account-id" with
  | none => simp
  | some v =>
    cases hvis : visibleAscii v <;> cases hp : Uuid.parse? (trimBlanks v) <;> simp [hvis, hp]

/-- A request without a usable account is answered 401, with why. -/
theorem account_error {r : Request} {resp : Response} (h : account r = .error resp) :
    ∃ m, resp = Response.ofError (.unauthorized m) := by
  unfold account at h
  split at h
  · exact ⟨_, (Except.error.inj h).symm⟩
  · split at h
    · exact ⟨_, (Except.error.inj h).symm⟩
    · split at h
      · cases h
      · exact ⟨_, (Except.error.inj h).symm⟩

/-- The statuses of the answers that refuse a request whose path, query or body cannot be taken
apart. -/
def Refused (resp : Response) : Prop :=
  resp.status = 400 ∨ resp.status = 415 ∨ resp.status = 422

theorem identity_refused {p : String × String} {resp : Response} (h : identity p = .error resp) :
    Refused resp := by
  unfold identity at h
  split at h
  · cases h
    exact .inl rfl
  · split at h
    · cases h
    · cases h
      exact .inl rfl

theorem listing_refused {withStatus : Bool} {r : Request} {resp : Response}
    (h : listing withStatus r = .error resp) : Refused resp := by
  unfold listing at h
  split at h
  · cases h
  · cases h
    exact .inl rfl

theorem body_refused {α : Type} {d : Decoder α} {r : Request} {resp : Response}
    (h : body d r = .error resp) : Refused resp := by
  unfold body at h
  split at h
  · cases h
    exact .inr (.inl rfl)
  · split at h
    · cases h
    · split at h
      · cases h
        exact .inl rfl
      · cases h
        exact .inr (.inr rfl)

/-- How a request with an account can still be refused, and only how: the identity in its path,
its listing query or its JSON body cannot be taken apart. -/
def Refusal (r : Request) (params : List (String × String)) (resp : Response) : Prop :=
  (identity (firstParam params) = .error resp ∨ (∃ withStatus, listing withStatus r = .error resp) ∨
    ∃ (α : Type) (d : Decoder α), body d r = .error resp) ∧ Refused resp

/-! ## Serving a call -/

/-- `out` is what answering with the call `c` on `s` gives: the store the call leaves and, when the
call fails, the answer to its failure. -/
def Serves (c : Call) (s : Store) (out : Response × Store) : Prop :=
  out.2 = (c.run s).2 ∧ ∀ e, (c.run s).1 = .error e →
    out.1 = Response.json e.status (.obj [("error", .str e.shown)])

/-- What an endpoint that took the account `a` from a request does on `s`: it refuses the request
and changes nothing, or it serves a call made for `a`. -/
def ServedFor (a : Uuid) (r : Request) (params : List (String × String)) (s : Store)
    (out : Response × Store) : Prop :=
  (Refusal r params out.1 ∧ out.2 = s) ∨ ∃ c, c.account = some a ∧ Serves c s out

namespace ServedFor

variable {a : Uuid} {r : Request} {params : List (String × String)} {s : Store}

/-- Serving the operation of a call made for `a`. -/
theorem serve {α : Type} {op : StoreOp α} {ok : α → Response} (c : Call) (hc : c.run = op.outcome)
    (ha : c.account = some a) :
    ServedFor a r params s ((guarded (pure (Http.serve op ok))).run s) := by
  refine .inr ⟨c, ha, ?_, fun e he => ?_⟩
  · show ((Http.serve op ok).run s).2 = (c.run s).2
    rw [serve_run, hc]
    unfold StoreOp.outcome
    rcases op.runOn s with ⟨_ | b, s'⟩ <;> rfl
  · show ((Http.serve op ok).run s).1 = _
    rw [hc] at he
    have hrun := StoreOp.outcome_error he
    rw [serve_run, hrun, ← ofError_ofInvoiceError]

/-- Taking one more input apart: a failure refuses the request, and a success goes on. -/
theorem bind {α : Type} {x : Extract α} {f : α → Extract (StateM Store Response)}
    (hx : ∀ resp, x = .error resp → Refusal r params resp)
    (hf : ∀ v, ServedFor a r params s ((guarded (f v)).run s)) :
    ServedFor a r params s ((guarded (x >>= f)).run s) := by
  cases hxv : x with
  | error resp => exact .inl ⟨hx resp hxv, rfl⟩
  | ok v => exact hf v

end ServedFor

/-! ## Routes -/

/-- A request that meets a route meets one of the routes, on a path that route matches and with
a method the route serves. -/
theorem resolve_found {method path : String} {e : Endpoint} {params : List (String × String)}
    (h : resolve method path = .found e params) :
    ∃ rt ∈ routes, matchPath rt.path (segments path) = some params ∧
      rt.methods.lookup method = some e := by
  unfold resolve at h
  dsimp only at h
  split at h
  · cases h
  · rename_i rt ps hfind
    split at h
    · rename_i e' hlook
      cases h
      obtain ⟨x, hx, hmatch⟩ := List.exists_of_findSome?_eq_some hfind
      obtain ⟨ps', hps', hpair⟩ := Option.map_eq_some_iff.mp hmatch
      cases hpair
      exact ⟨_, hx, hps', hlook⟩
    · cases h

theorem lookup_mem_snd {method : String} {e : Endpoint} {l : List (String × Endpoint)}
    (h : l.lookup method = some e) : e ∈ l.map Prod.snd := by
  obtain ⟨l₁, l₂, rfl, -⟩ := List.lookup_eq_some_iff.mp h
  simp

/-- No route under `/api/v1` is a probe. -/
theorem resolve_api {method path : String} {e : Endpoint} {params : List (String × String)}
    (h : resolve method path = .found e params) (hapi : (segments path).take 2 = ["api", "v1"]) :
    e ≠ .health ∧ e ≠ .ready ∧ e ≠ .metrics := by
  obtain ⟨rest, hsegs⟩ : ∃ rest, segments path = "api" :: "v1" :: rest := by
    rcases hs : segments path with _ | ⟨x, _ | ⟨y, rest⟩⟩ <;> rw [hs] at hapi <;> simp at hapi
    exact ⟨rest, by rw [hapi.1, hapi.2]⟩
  obtain ⟨rt, hrt, hmatch, hlook⟩ := resolve_found h
  have he := lookup_mem_snd hlook
  rw [hsegs] at hmatch
  simp only [routes, List.mem_cons, List.not_mem_nil, or_false] at hrt
  -- the probes' paths do not start with `api`; every other route serves no probe
  rcases hrt with rfl | rfl | rfl | hrt
  · simp [matchPath] at hmatch
  · simp [matchPath] at hmatch
  · simp [matchPath] at hmatch
  · rcases hrt with rfl | rfl | rfl | rfl | rfl | rfl | rfl | rfl | rfl | rfl <;> simp at he <;>
      grind

/-- A request that meets a route is answered by its endpoint, a `HEAD` request without the
body. -/
theorem handle_found {now : Instant} {r : Request} {e : Endpoint} {params : List (String × String)}
    (h : resolve (if r.method == "HEAD" then "GET" else r.method) r.path = .found e params)
    (s : Store) :
    (handle now r).run s =
      (if r.method == "HEAD" then { ((dispatch now r e params).run s).1 with body := .empty }
        else ((dispatch now r e params).run s).1, ((dispatch now r e params).run s).2) := by
  unfold handle
  dsimp only
  rw [h]
  rfl

/-! ## The account comes first -/

/-- The endpoints of the API that take an account: all but the probes and the opening of an
account. -/
def Endpoint.takesAccount (e : Endpoint) : Prop :=
  e ≠ .health ∧ e ≠ .ready ∧ e ≠ .metrics ∧ e ≠ .createAccount

/-- An endpoint that takes an account answers a request without a usable one with the refusal,
and changes nothing. -/
theorem dispatch_account_error {now : Instant} {r : Request} {e : Endpoint}
    {params : List (String × String)} {resp : Response} (he : e.takesAccount)
    (h : account r = .error resp) (s : Store) : (dispatch now r e params).run s = (resp, s) := by
  obtain ⟨h₁, h₂, h₃, h₄⟩ := he
  cases e
  case health => exact absurd rfl h₁
  case ready => exact absurd rfl h₂
  case metrics => exact absurd rfl h₃
  case createAccount => exact absurd rfl h₄
  -- every other endpoint takes the account before anything else
  all_goals (simp only [dispatch]; rw [h]; rfl)

theorem guarded_ok_bind {α : Type} {v : α} {f : α → Extract (StateM Store Response)} :
    guarded (.ok v >>= f) = guarded (f v) := rfl

/-- An endpoint that takes an account, given one, refuses the request for a later input or serves
a call made for that account. -/
theorem dispatch_account_ok {now : Instant} {r : Request} {e : Endpoint}
    {params : List (String × String)} {a : Uuid} (he : e.takesAccount) (h : account r = .ok a)
    (s : Store) : ServedFor a r params s ((dispatch now r e params).run s) := by
  obtain ⟨h₁, h₂, h₃, h₄⟩ := he
  have hid : ∀ resp, identity (firstParam params) = .error resp → Refusal r params resp :=
    fun _ h => ⟨.inl h, identity_refused h⟩
  have hlist : ∀ w resp, listing w r = .error resp → Refusal r params resp :=
    fun w _ h => ⟨.inr (.inl ⟨w, h⟩), listing_refused h⟩
  have hbody : ∀ {α : Type} (d : Decoder α) resp, body d r = .error resp → Refusal r params resp :=
    fun d _ h => ⟨.inr (.inr ⟨_, d, h⟩), body_refused h⟩
  cases e
  case health => exact absurd rfl h₁
  case ready => exact absurd rfl h₂
  case metrics => exact absurd rfl h₃
  case createAccount => exact absurd rfl h₄
  all_goals (simp only [dispatch]; rw [h, guarded_ok_bind])
  case currentAccount => exact .serve (.getAccount a) rfl rfl
  case listClients => exact .bind (hlist _) fun q => .serve (.listClients a q) rfl rfl
  case createClient => exact .bind (hbody _) fun q => .serve (.createClient a q) rfl rfl
  case getClient => exact .bind hid fun c => .serve (.getClient a c) rfl rfl
  case updateClient =>
    exact .bind hid fun c => .bind (hbody _) fun q => .serve (.updateClient a c q) rfl rfl
  case deleteClient => exact .bind hid fun c => .serve (.deleteClient a c) rfl rfl
  case listInvoices => exact .bind (hlist _) fun q => .serve (.listInvoices a q) rfl rfl
  case createInvoice => exact .bind (hbody _) fun q => .serve (.createInvoice a q) rfl rfl
  case invoiceStats => exact .serve (.getStats a) rfl rfl
  case getInvoice => exact .bind hid fun i => .serve (.getInvoice a i) rfl rfl
  case updateInvoice =>
    exact .bind hid fun i => .bind (hbody _) fun q => .serve (.updateInvoice a i q) rfl rfl
  case deleteInvoice => exact .bind hid fun i => .serve (.deleteInvoice a i) rfl rfl
  case updateStatus =>
    exact .bind hid fun i => .bind (hbody _) fun q =>
      .serve (.updateInvoiceStatus a i q now) rfl rfl
  case duplicate => exact .bind hid fun i => .serve (.duplicateInvoice a i now) rfl rfl
  case document => exact .bind hid fun i => .serve (.renderInvoice a i) rfl rfl

/-- On every route under `/api/v1` but the opening of an account, the account comes first. A
request without a usable `X-Account-ID` header is answered 401 and changes nothing, whatever its
path, query and body. With the account `a`, the request is refused for its path, query or body and
changes nothing, or it runs the session call made for `a`, a failure of which is answered with the
status of its kind and what it shows. A `HEAD` request is answered as its `GET`, without the
body. -/
theorem account_checked_first {now : Instant} {r : Request} {e : Endpoint}
    {params : List (String × String)} (s : Store)
    (hroute : resolve (if r.method == "HEAD" then "GET" else r.method) r.path = .found e params)
    (hapi : (segments r.path).take 2 = ["api", "v1"]) (hopen : e ≠ .createAccount) :
    (∀ resp, account r = .error resp → resp.status = 401 ∧
      (handle now r).run s = (if r.method == "HEAD" then { resp with body := .empty } else resp, s)) ∧
    ∀ a, account r = .ok a → ∃ out, ServedFor a r params s out ∧
      (handle now r).run s =
        (if r.method == "HEAD" then { out.1 with body := .empty } else out.1, out.2) := by
  obtain ⟨h₁, h₂, h₃⟩ := resolve_api hroute hapi
  have he : e.takesAccount := ⟨h₁, h₂, h₃, hopen⟩
  refine ⟨fun resp h => ?_, fun a h => ⟨_, dispatch_account_ok he h s, handle_found hroute s⟩⟩
  obtain ⟨m, rfl⟩ := account_error h
  exact ⟨rfl, by rw [handle_found hroute, dispatch_account_error he h]⟩

/-! ### A read without an account

The path of the sample request below is split by a function the kernel does not evaluate; the
splits are settled once here, as for the e-mail address of the sample session. -/

theorem clientPath_splitOn_hash : "/api/v1/clients/x".splitOn "#" = ["/api/v1/clients/x"] := by
  rw [String.splitOn, if_neg (by decide)]
  repeat (rw [String.splitOnAux]; simp +decide only [↓reduceIte])

theorem clientPath_splitOn_query : "/api/v1/clients/x".splitOn "?" = ["/api/v1/clients/x"] := by
  rw [String.splitOn, if_neg (by decide)]
  repeat (rw [String.splitOnAux]; simp +decide only [↓reduceIte])

theorem clientPath_segments : segments "/api/v1/clients/x" = ["api", "v1", "clients", "x"] := by
  have hsplit : "/api/v1/clients/x".splitOn "/" = ["", "api", "v1", "clients", "x"] := by
    rw [String.splitOn, if_neg (by decide)]
    repeat (rw [String.splitOnAux]; simp +decide only [↓reduceIte])
  rw [segments, hsplit]
  rfl

/-- A read of a client without an account header, at an identity that is no UUID, is refused as
unauthorized before its identity is looked at, and changes nothing. -/
theorem headerless_client_read_refused :
    resolve "GET" "/api/v1/clients/x" = .found .getClient [("client_id", "x")] ∧
      ((handle (Store.instant 0) ⟨"GET", "/api/v1/clients/x", [], ""⟩).run {}).1.status = 401 ∧
      ((handle (Store.instant 0) ⟨"GET", "/api/v1/clients/x", [], ""⟩).run {}).2 = {} := by
  have hpath : (⟨"GET", "/api/v1/clients/x", [], ""⟩ : Request).path = "/api/v1/clients/x" := by
    simp only [Request.path, Request.resource, clientPath_splitOn_hash, List.headD,
      clientPath_splitOn_query]
  have hroute : resolve "GET" "/api/v1/clients/x" = .found .getClient [("client_id", "x")] := by
    unfold resolve
    rw [clientPath_segments]
    decide +kernel
  obtain ⟨h401, hsame⟩ := (@account_checked_first (Store.instant 0)
    ⟨"GET", "/api/v1/clients/x", [], ""⟩ .getClient [("client_id", "x")] {}
    (by rw [hpath]; exact hroute) (by rw [hpath, clientPath_segments]; rfl) (by decide)).1 _ rfl
  rw [hsame]
  exact ⟨hroute, h401, rfl⟩

end Http

end Invoicing
