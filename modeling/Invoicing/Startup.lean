import Invoicing.Config.Load
import Invoicing.Net.SocketAddress
import Invoicing.Logging

/-!
# Building the application

Building the service takes four steps, each logged, and stops at the first that fails:
1. connecting to the database (`Database error: Failed to connect: …`);
2. running the migrations the service carries against the history the database holds
   (`Database error: Migration failed: …`);
3. reading the listen address `host:port` as a socket address (`Configuration error: Invalid
   listen address '…': …`);
4. binding the listener (an internal error with the system's reason).

The migrations are checked as a migrator does: a history row that did not finish makes the
database dirty; a row whose version the service does not carry is missing; a carried migration
whose recorded checksum differs was modified; a carried migration not in the history is applied
and recorded. A later build finds the earlier one's migrations applied.

What is proved here:
* `migrate_clean`: migrating an empty history succeeds and records every carried migration.
-/

namespace Invoicing

namespace Startup

open Logging

/-- The target of the service's entry point. -/
def mainTarget : String := "invoicing_service"

/-- The target of the application's startup. -/
def startupTarget : String := "invoicing_service::startup"

/-- The target of the database layer. -/
def databaseTarget : String := "invoicing_service::services::database"

/-- An informational event outside any span, with the names of its fields besides the
message. -/
def info (target message : String) (fields : List String) : Event :=
  .plain .info target message fields

/-- An error event outside any span, with the names of its fields besides the message. -/
def error (target message : String) (fields : List String) : Event :=
  .plain .error target message fields

/-- The span of opening the connection pool, with its largest and smallest sizes. -/
def connectSpan (pool : Nat × Nat) : Span :=
  ⟨"new", databaseTarget, .info,
    [("max_connections", .nat pool.1), ("min_connections", .nat pool.2),
      ("service", .text "invoicing-service")]⟩

/-- The span of running the migrations. -/
def migrateSpan : Span := ⟨"run_migrations", databaseTarget, .info, []⟩

/-- A row of the migration history. -/
structure MigrationRecord where
  version : Nat
  success : Bool
  checksumMatches : Bool
  deriving DecidableEq, Repr

/-- The migrations the service carries, by version. -/
def migrations : List Nat := [20260201000001]

/-- The history after running the carried migrations, or why the migrator refuses. -/
def migrate (history : List MigrationRecord) : Except String (List MigrationRecord) := do
  let sorted := history.mergeSort fun a b => decide (a.version ≤ b.version)
  if let some r := sorted.find? (!·.success) then
    throw ("migration " ++ toString r.version ++
      " is partially applied; fix and remove row from `_sqlx_migrations` table")
  if let some r := sorted.find? (fun r => !migrations.contains r.version) then
    throw ("migration " ++ toString r.version ++
      " was previously applied but is missing in the resolved migrations")
  migrations.foldlM (fun (h : List MigrationRecord) v =>
    match h.find? (·.version = v) with
    | some r =>
      if r.checksumMatches then pure h
      else throw ("migration " ++ toString v ++ " was previously applied but has been modified")
    | none => pure (h ++ [⟨v, true, true⟩])) sorted

theorem migrate_clean : migrate [] = .ok (migrations.map fun v => ⟨v, true, true⟩) := by
  simp [migrate, migrations, List.foldlM, pure, Except.pure, bind, Except.bind]

/-- What a build meets outside the service: whether the database answers (or why not), the
migration history it holds, and whether the listen port is already taken. -/
structure World where
  connect : Except String Unit
  history : List MigrationRecord
  portTaken : Bool

/-- The reason a taken port gives. -/
def addressInUse : String := "Address already in use (os error 98)"

/-- Builds the application with the pool sizes given: the events logged, and the failure if
there is one; with the migration history after. -/
def build (w : World) (listener : Config.Listener) (pool : Nat × Nat) :
    (List Event × Except AppError Unit) × List MigrationRecord :=
  let connecting := [(info databaseTarget "Connecting to PostgreSQL"
    ["max_connections", "min_connections"]).within (connectSpan pool)]
  match w.connect with
  | .error reason =>
    ((connecting ++ [error startupTarget "Failed to connect to PostgreSQL" ["error"]],
      .error (.database ("Failed to connect: " ++ reason))), w.history)
  | .ok () =>
    let migrating := connecting ++
      [(info databaseTarget "PostgreSQL connection pool established" []).within (connectSpan pool),
        (info databaseTarget "Running database migrations" []).within migrateSpan]
    match migrate w.history with
    | .error reason =>
      ((migrating ++ [error startupTarget "Failed to run migrations" ["error"]],
        .error (.database ("Migration failed: " ++ reason))), w.history)
    | .ok history =>
      let migrated := migrating ++
        [(info databaseTarget "Database migrations completed" []).within migrateSpan]
      match SocketAddress.parse listener.address with
      | .error reason =>
        ((migrated, .error (.config ("Invalid listen address '" ++ listener.address ++ "': " ++
          reason))), history)
      | .ok _ =>
        if w.portTaken then
          ((migrated ++ [error startupTarget "Failed to bind HTTP listener" ["error", "addr"]],
            .error (.internal addressInUse)), history)
        else
          ((migrated ++ [info startupTarget "Invoicing service listener bound" ["http_port"]],
            .ok ()), history)

end Startup

end Invoicing
