import Invoicing.Printout.Basic
import Invoicing.Error

/-!
# HTTP requests and responses

A request has a method, a target (a path with an optional query after `?` and an optional
fragment after `#`, which is not part of the resource), headers in order and a body. Header
names are compared without regard to case, and the first header of a name is the one that
counts.

A response has a status, a content type when it has a body, and the body: nothing, plain text,
a JSON value, an invoice document, or the metrics text. Application errors answer with their
status and JSON body; a request the service cannot take apart answers with a plain-text
explanation.
-/

namespace Invoicing

namespace Http

/-- An HTTP request. -/
structure Request where
  method : String
  target : String
  headers : List (String × String) := []
  body : String := ""
  deriving DecidableEq, Repr

/-- ASCII letters in lower case. -/
def lowerAscii (s : String) : String :=
  String.ofList (s.toList.map fun c => if 'A' ≤ c ∧ c ≤ 'Z' then Char.ofNat (c.toNat + 32) else c)

namespace Request

/-- The first header of a name. -/
def header? (r : Request) (name : String) : Option String :=
  (r.headers.find? fun h => lowerAscii h.1 == lowerAscii name).map Prod.snd

/-- The target without its fragment: nothing from the first `#` on reaches the service. -/
def resource (r : Request) : String := (r.target.splitOn "#").headD ""

/-- The path of the target. -/
def path (r : Request) : String := (r.resource.splitOn "?").headD ""

/-- The query of the target, empty when there is none. -/
def query (r : Request) : String := "?".intercalate ((r.resource.splitOn "?").drop 1)

end Request

/-- The body of a response. -/
inductive Body where
  | empty
  | text (s : String)
  | json (j : Json)
  | document (p : Printout)
  | metrics
  deriving Repr

/-- An HTTP response. -/
structure Response where
  status : Nat
  contentType : Option String := none
  body : Body := .empty
  disposition : Option String := none
  deriving Repr

namespace Response

/-- The content type of plain-text answers. -/
def plainText : String := "text/plain; charset=utf-8"

/-- A JSON answer. -/
def json (status : Nat) (j : Json) : Response :=
  { status := status, contentType := some "application/json", body := .json j }

/-- A plain-text answer. -/
def text (status : Nat) (s : String) : Response :=
  { status := status, contentType := some plainText, body := .text s }

/-- The answer to an application error. -/
def ofError (e : AppError) : Response := json e.status e.body

end Response

end Http

end Invoicing
