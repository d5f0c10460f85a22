import Invoicing.Startup
import Invoicing.Net.Uri
import Invoicing.Net.SocketAddress

/-!
# Running the service

A run of the service binary, from its environment to its exit:
1. The configuration is loaded; a failure is written to standard error, once as itself and once
   as the error the entry point returns, and the run exits with 1.
2. Logging starts with the filter of `RUST_LOG` or the configured level. An OTLP endpoint that
   is no URI is reported on standard error, and the run goes on with local logs only.
3. The application is built (see `Startup.build`); a failure is logged, returned, and ends the
   run with 1.
4. The service serves until it is asked to stop, then shuts down gracefully and exits with 0.

The database answers only at the store's own URL. Elsewhere the connection fails as a client's
does where no network is up: a URL without a scheme, or with a port that does not read, is a
configuration error, a socket directory that does not exist is not found, an IP address is
unreachable, and a host name does not resolve.
-/

namespace Invoicing

namespace Launch

open Logging Startup

/-- What a run left behind: its exit code, the events it logged (filtered), the lines of its
standard error, and whether it came to serve. -/
structure Run where
  exitCode : Nat
  log : List Event
  stderr : List String
  serving : Bool
  deriving Repr

/-- The text of an error returned from the entry point. -/
def returned (message : String) : String :=
  "Error: Custom \x7b kind: Other, error: " ++ showString message ++ " \x7d"

/-- Whether a URL starts with a scheme: a letter, then letters, digits, `+`, `-` or `.`, and a
colon. -/
def hasScheme (url : String) : Bool :=
  let cs := (url.toList.dropWhile fun c => c.toNat ≤ 32)
  match cs with
  | c :: rest =>
    c.isAlpha &&
      (match rest.dropWhile fun d => d.isAlphanum || d == '+' || d == '-' || d == '.' with
      | ':' :: _ => true
      | _ => false)
  | [] => false

/-- The value of the last query parameter of a name in a URL. -/
def queryParam (url : String) (name : String) : Option String :=
  match url.splitOn "?" with
  | _ :: query :: _ =>
    let q := (query.splitOn "#").headD ""
    ((q.splitOn "&").filterMap fun piece =>
      match piece.splitOn "=" with
      | k :: v => if k = name then some ("=".intercalate v) else none
      | [] => none).getLast?
  | _ => none

/-- The authority of a URL: between `//` and the path, query or fragment, without user
information. -/
def authority (url : String) : String :=
  match url.splitOn "//" with
  | _ :: rest :: _ =>
    let part := rest.toList.takeWhile fun c => c ≠ '/' ∧ c ≠ '?' ∧ c ≠ '#'
    ((String.ofList part).splitOn "@").getLastD ""
  | _ => ""

/-- An authority split into its host and the text after the host's `:`, if any; a bracketed
IPv6 host keeps its brackets. -/
def hostAndPort (auth : String) : String × Option String :=
  match auth.toList with
  | '[' :: rest =>
    let inner := rest.takeWhile (· ≠ ']')
    let after := (rest.dropWhile (· ≠ ']')).drop 1
    ("[" ++ String.ofList inner ++ "]",
      match after with
      | ':' :: p => some (String.ofList p)
      | _ => none)
  | cs =>
    (String.ofList (cs.takeWhile (· ≠ ':')),
      match cs.dropWhile (· ≠ ':') with
      | ':' :: p => some (String.ofList p)
      | _ => none)

/-- Whether the port text of a URL reads: digits for a number below 65536, or nothing. -/
def portReads (p : String) : Bool :=
  p.toList.all Char.isDigit &&
    decide (p.toList.foldl (fun n c => n * 10 + (c.toNat - 48)) 0 < 65536)

/-- Whether a host is an IP address, which is reached without looking a name up. -/
def isAddress (host : String) : Bool :=
  let inner := host.toList.filter fun c => c ≠ '[' ∧ c ≠ ']'
  match SocketAddress.ipv4 inner with
  | some (_, []) => true
  | _ => host.startsWith "["

/-- Why the database does not answer at a URL that is not the store's: a URL without a scheme
or with a port that does not read is a configuration error; a socket directory that does not
exist is not found; an IP address is unreachable; and a host name does not resolve. -/
def connectFailure (url : String) : String :=
  let (host, port) := hostAndPort (authority url)
  if !hasScheme url then "error with configuration: relative URL without a base"
  else if !(port.all portReads) then "error with configuration: invalid port number"
  else
    let target : String := (queryParam url "host").getD host
    let socket : Bool :=
      target.startsWith "/" || target.startsWith "%2F" || target.startsWith "%2f"
    if socket then "error communicating with database: No such file or directory (os error 2)"
    else if isAddress target then
      "error communicating with database: Network is unreachable (os error 101)"
    else
      "error communicating with database: failed to lookup address information: " ++
        "Temporary failure in name resolution"

/-- The report of an OTLP endpoint that is no URI, if it is none. -/
def tracerFailure (service endpoint : String) : Option String :=
  match Uri.check endpoint with
  | .ok () => none
  | .error f =>
    some ("Failed to initialize OTLP tracer for service '" ++ service ++ "' at endpoint '" ++
      endpoint ++ "': Exporter otlp encountered the following error(s): invalid URI " ++ f.text)

/-- The events of serving until asked to stop, then shutting down. -/
def servingEvents : List Event :=
  [info mainTarget "HTTP listener ready" ["http_port"],
    info startupTarget "Service ready to accept connections" ["service", "version", "http_port"],
    info mainTarget "Shutdown signal received, starting graceful shutdown" [],
    info mainTarget "Graceful shutdown initiated" [],
    info mainTarget "Service shutdown complete" []]

/-- Runs the service in an environment, with the store's URL. -/
def run (env : Config.Environment) (storeUrl : String) : Run :=
  match Config.load env [] with
  | .error e =>
    { exitCode := 1, log := [],
      stderr := ["Failed to load configuration: " ++ e.message,
        returned ("Configuration error: " ++ e.message)],
      serving := false }
  | .ok c =>
    let filter := Filter.ofSettings (env.lookup "RUST_LOG") c.logLevel
    let tracer := match c.otlpEndpoint with
      | some ep => (tracerFailure c.serviceName ep).toList
      | none => []
    let starting := [info mainTarget "Starting invoicing-service" ["version", "otlp_endpoint"],
      info mainTarget "Configuration loaded"
        ["service_name", "http_port", "db_max_connections", "db_min_connections"]]
    let connect : Except String Unit :=
      if c.database.url = storeUrl then .ok () else .error (connectFailure c.database.url)
    let world : World :=
      { connect := connect
        history := []
        portTaken := false }
    let ((built, result), _) :=
      build world c.listener (c.database.maxConnections, c.database.minConnections)
    match result with
    | .error e =>
      { exitCode := 1,
        log := (starting ++ built ++
          [error mainTarget "Failed to build application" ["error"]]).filter filter.allows,
        stderr := tracer ++ [returned ("Application build error: " ++ e.message)],
        serving := false }
    | .ok () =>
      { exitCode := 0, log := (starting ++ built ++ servingEvents).filter filter.allows,
        stderr := tracer, serving := true }

end Launch

end Invoicing
