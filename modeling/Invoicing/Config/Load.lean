import Invoicing.Config.Dotenv
import Invoicing.Toml.Document
import Invoicing.Yaml.Node
import Invoicing.Config.Ini
import Invoicing.Config.Json5
import Invoicing.Config.Ron
import Invoicing.Decode.Json
import Invoicing.Error

/-!
# Loading the service configuration

The configuration comes from the environment and from two optional files of the working
directory:
1. an environment file `.env` adds its variables to the environment, never replacing one that
   is set (see `Dotenv`);
2. the listener settings `host` and `port` start as `0.0.0.0` and `8080`; a file
   `configuration.<ext>` sets them, read by its extension as TOML, JSON (or JSON5), YAML
   (`yaml`, `yml`), INI or RON, and then variables `APP__<KEY>` set them, the prefix and the
   key in any case, `__` or `.` separating the parts of a nested key and `[n]` indexing a
   sequence; the settings are then read as the host text and the 16-bit port;
3. `SERVICE_NAME`, `SERVICE_VERSION`, `LOG_LEVEL` and `OTLP_ENDPOINT` (empty counts as absent)
   are read with their defaults, `DATABASE_URL` is required, and the pool sizes
   `DATABASE_MAX_CONNECTIONS` and `DATABASE_MIN_CONNECTIONS` fall back to 10 and 2 unless they
   read as unsigned 32-bit numbers.

A file that does not read fails with its reader's text and the file's name; a setting of the
wrong kind fails with what it is, what was wanted, its key and its origin.
-/

namespace Invoicing

namespace Config

/-- Where the service listens. -/
structure Listener where
  host : String
  port : Nat
  deriving DecidableEq, Repr

/-- The listener of a configuration that names none. -/
def Listener.standard : Listener := ⟨"0.0.0.0", 8080⟩

/-- The address text `host:port`. -/
def Listener.address (l : Listener) : String := l.host ++ ":" ++ toString l.port

/-- The database connection settings. -/
structure DatabaseSettings where
  url : String
  maxConnections : Nat
  minConnections : Nat
  deriving DecidableEq, Repr

/-- The configuration of the service. -/
structure ServiceConfig where
  listener : Listener
  serviceName : String
  serviceVersion : String
  logLevel : String
  otlpEndpoint : Option String
  database : DatabaseSettings
  deriving DecidableEq, Repr

/-- Environment variables, in the order they were set. -/
abbrev Environment := List (String × String)

/-- The formats a configuration file is read in. -/
inductive Format where
  | toml
  | json
  | yaml
  | ini
  | json5
  | ron
  deriving DecidableEq, Repr

/-- The format of a configuration file by its name. -/
def Format.ofName? (name : String) : Option Format :=
  if name = "configuration.toml" then some .toml
  else if name = "configuration.json" then some .json
  else if name = "configuration.yaml" ∨ name = "configuration.yml" then some .yaml
  else if name = "configuration.ini" then some .ini
  else if name = "configuration.json5" then some .json5
  else if name = "configuration.ron" then some .ron
  else none

/-- A JSON value as a setting. -/
def ofJson : Json → Setting
  | .null => .nil
  | .bool b => .bool b
  | .num (.nat n) => if n < Nat.pow 2 63 then .int n else .real (.finite (Binary64.ofNat n))
  | .num (.negInt i) => .int i
  | .num (.float x) => .real (.finite x)
  | .str s => .text s
  | .arr _ => .seq
  | .obj _ => .map

/-- The root entries of a file, or the failure for a root that is no map. -/
def rootEntries (uri : String) (root : Sum Setting (List (String × Setting))) :
    Except String (List (String × Sourced)) :=
  match root with
  | .inr es => .ok (es.map fun (k, v) => (k, ⟨some uri, v⟩))
  | .inl v =>
    .error ({ found := v.unexpected, wanted := "a map", origin := some uri : Mismatch }).text

/-- The root entries of a JSON text. -/
def jsonRoot (text : String) : Except String (Sum Setting (List (String × Setting))) :=
  match Json.parse? text with
  | .error e => .error e.placedMessage
  | .ok (.obj fields) => .ok (.inr (fields.map fun (k, v) => (k, ofJson v)))
  | .ok v => .ok (.inl (ofJson v))

/-- The settings of a configuration file, or the failure with the file's name. -/
def fileSettings (uri : String) (format : Format) (text : String) :
    Except String (List (String × Sourced)) :=
  let root : Except String (Sum Setting (List (String × Setting))) :=
    match format with
    | .toml => (Toml.read text).map .inr
    | .json => jsonRoot text
    | .json5 => Json5.read text
    | .ron => Ron.read text
    | .yaml => Yaml.read text
    | .ini => (Ini.read text).map .inr
  match root.bind (rootEntries uri) with
  | .ok es => .ok es
  | .error cause => .error (cause ++ " in " ++ uri)

/-- Whether a character may stand in a name of a key path: ASCII letters and digits, blanks,
`_` and `-`. -/
def isPathChar (c : Char) : Bool := c.isAlphanum || c = ' ' || c = '_' || c = '-'

/-- Whether a text is a run of path steps: `.name`, or `[n]` with an optional minus and spaces
or tabs around the number, which must fit in 64 signed bits; `fuel` bounds the steps. -/
def isPathSteps : List Char → Nat → Bool
  | [], _ => true
  | _ :: _, 0 => false
  | '.' :: rest, fuel + 1 =>
    let name := rest.takeWhile isPathChar
    !name.isEmpty && isPathSteps (rest.drop name.length) fuel
  | '[' :: rest, fuel + 1 =>
    let r := rest.dropWhile (fun c => c = ' ' || c = '\t')
    let (neg, r) := match r with
      | '-' :: r' => (true, r')
      | _ => (false, r)
    let digits := r.takeWhile Char.isDigit
    let n := digits.foldl (fun acc c => acc * 10 + (c.toNat - 48)) 0
    let fits := if neg then n ≤ Nat.pow 2 63 else n < Nat.pow 2 63
    match (r.drop digits.length).dropWhile (fun c => c = ' ' || c = '\t') with
    | ']' :: r' => !digits.isEmpty && fits && isPathSteps r' fuel
    | _ => false
  | _ :: _, _ + 1 => false

/-- The listener settings that variables `APP__…` give. The rest of the name, in lower case
and with `__` read as `.`, is a key path: a first name and steps. A name alone is set to the
text; a first step `.name` makes the name a map, `[n]` a sequence. A key that is no path is
set whole as a name. -/
def environmentSettings (env : Environment) : List (String × Sourced) :=
  env.filterMap fun (name, value) =>
    let key := lowerAscii name
    if key.startsWith "app__" then
      let path := ((key.drop 5).toString.replace "__" ".").toList
      let first := path.takeWhile isPathChar
      let steps := path.drop first.length
      if first.isEmpty || !isPathSteps steps steps.length then
        some (String.ofList path, ⟨some "the environment", .text value⟩)
      else
        match steps with
        | [] => some (String.ofList first, ⟨some "the environment", .text value⟩)
        | '.' :: _ => some (String.ofList first, ⟨none, .map⟩)
        | _ => some (String.ofList first, ⟨none, .seq⟩)
    else none

/-- Sets entries over others of the same key. -/
def overlay (base top : List (String × Sourced)) : List (String × Sourced) :=
  top.foldl (fun acc (k, v) => (acc.filter (·.1 ≠ k)) ++ [(k, v)]) base

/-- A setting's reading with its key named in the failure. -/
def keyed {α : Type} (key : String) (r : Except Mismatch α) : Except String α :=
  r.mapError fun m => ({ m with key := some key }).text

/-- The listener from the settings. -/
def listenerOf (settings : List (String × Sourced)) : Except String Listener := do
  let host ← match settings.lookup "host" with
    | some s => keyed "host" s.text
    | none => pure Listener.standard.host
  let port ← match settings.lookup "port" with
    | some s => keyed "port" s.port
    | none => pure Listener.standard.port
  pure ⟨host, port⟩

/-- The configuration file among the files of the working directory. -/
def configurationFile (files : List (String × String)) : Option (String × Format × String) :=
  files.findSome? fun (name, text) => (Format.ofName? name).map fun f => (name, f, text)

/-- The listener from the environment and the files. -/
def loadListener (env : Environment) (files : List (String × String)) :
    Except String Listener := do
  let fromFile ← match configurationFile files with
    | some (uri, format, text) => fileSettings uri format text
    | none => pure []
  listenerOf (overlay fromFile (environmentSettings env))

/-- The environment after the environment file of the working directory, if there is one. -/
def withDotenv (env : Environment) (files : List (String × String)) : Environment :=
  match files.lookup ".env" with
  | some text => Dotenv.load env text
  | none => env

/-- Loads the configuration of the service. -/
def load (env : Environment) (files : List (String × String)) : Except AppError ServiceConfig := do
  let env := withDotenv env files
  let listener ← (loadListener env files).mapError AppError.config
  let url ← match env.lookup "DATABASE_URL" with
    | some u => pure u
    | none => throw (AppError.config "DATABASE_URL is required")
  let size (name : String) (fallback : Nat) : Nat :=
    ((env.lookup name).bind (readUnsigned (Nat.pow 2 32 - 1))).getD fallback
  pure
    { listener := listener
      serviceName := (env.lookup "SERVICE_NAME").getD "invoicing-service"
      serviceVersion := (env.lookup "SERVICE_VERSION").getD "0.1.0"
      logLevel := (env.lookup "LOG_LEVEL").getD "info"
      otlpEndpoint := (env.lookup "OTLP_ENDPOINT").filter (!·.isEmpty)
      database :=
        { url := url
          maxConnections := size "DATABASE_MAX_CONNECTIONS" 10
          minConnections := size "DATABASE_MIN_CONNECTIONS" 2 } }

/-- The configuration as JSON. -/
def ServiceConfig.toJson (c : ServiceConfig) : Json :=
  .obj [("host", .str c.listener.host), ("port", .ofNat c.listener.port),
    ("listen_addr", .str c.listener.address), ("service_name", .str c.serviceName),
    ("service_version", .str c.serviceVersion), ("log_level", .str c.logLevel),
    ("otlp_endpoint", Json.ofOption Json.str c.otlpEndpoint),
    ("database", .obj [("url", .str c.database.url),
      ("max_connections", .ofNat c.database.maxConnections),
      ("min_connections", .ofNat c.database.minConnections)])]

/-- The listener as JSON. -/
def Listener.toJson (l : Listener) : Json :=
  .obj [("host", .str l.host), ("port", .ofNat l.port), ("listen_addr", .str l.address)]

end Config

end Invoicing
