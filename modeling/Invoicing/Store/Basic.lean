import Invoicing.Store.Column
import Invoicing.Model.Invoice
import Invoicing.Model.Account
import Invoicing.Error

/-!
# The store

The store holds four tables (accounts, clients, invoices and their items) and runs statements
on them one at a time.

* **Time.** The store's clock advances by one second for every transaction and for every
  statement outside one; a statement sees as the current time the start of its transaction,
  or its own tick.
* **Transactions.** Opening a transaction takes a private copy of the tables; statements of the
  transaction work on the copy and committing publishes it. Dropping the transaction, or a
  commit that fails, discards the copy. Statements outside the transaction see the published
  tables.
* **Identities.** The `n`-th row ever inserted into a table gets the `n`-th identity of that
  table (`Table.serial`), whatever becomes of the transaction that inserted it.
* **Faults.** A fault names a kind of statement and a number of such statements to let
  through; after those, every statement of that kind fails as timed out. A store that cannot be
  reached fails every statement.

Operations on the store are `StoreOp`s: they change the store and may fail with an
`InvoiceError`, and what they changed before failing stays changed.

What is proved here:
* `letThrough_none`: without a fault every statement is let through.
-/

namespace Invoicing

/-- A table of the store. -/
inductive Table where
  | accounts
  | clients
  | invoices
  | items
  deriving DecidableEq, Repr

namespace Table

/-- The name of the table. -/
def name : Table → String
  | .accounts => "accounts"
  | .clients => "clients"
  | .invoices => "invoices"
  | .items => "invoice_items"

/-- All tables. -/
def all : List Table := [.accounts, .clients, .invoices, .items]

/-- The leading hexadecimal digit of the table's identities. -/
def lead : Table → Nat
  | .accounts => 0xa
  | .clients => 0xc
  | .invoices => 0xe
  | .items => 0xd

/-- The `n`-th identity of a table: its lead digit, then `0000000-0000-4000-8000-`, then the
decimal digits of `n` as the last twelve hexadecimal digits. -/
def serial (t : Table) (n : Nat) : Uuid :=
  ⟨t.lead * Nat.pow 16 31 + 4 * Nat.pow 16 19 + 8 * Nat.pow 16 15 +
    (Nat.toDigits 10 n).foldl (fun acc c => acc * 16 + (c.toNat - 48)) 0⟩

end Table

/-- How a statement touches a table. -/
inductive Access where
  | select
  | lock
  | insert
  | update
  | delete
  deriving DecidableEq, Repr

/-- The name of an access. -/
def Access.name : Access → String
  | .select => "select"
  | .lock => "lock"
  | .insert => "insert"
  | .update => "update"
  | .delete => "delete"

/-- The kind of a statement, as a fault names it. -/
inductive StatementKind where
  | touch (access : Access) (table : Table)
  | begin
  | commit
  deriving DecidableEq, Repr

namespace StatementKind

/-- The name of the kind: `select accounts`, `begin`, … -/
def name : StatementKind → String
  | .touch a t => a.name ++ " " ++ t.name
  | .begin => "begin"
  | .commit => "commit"

/-- All kinds of statements. -/
def all : List StatementKind :=
  ([Access.select, .lock, .insert, .update, .delete].flatMap fun a => Table.all.map (.touch a)) ++
    [.begin, .commit]

/-- The kind of the given name. -/
def ofName? (s : String) : Option StatementKind := all.find? (·.name == s)

end StatementKind

/-- The rows of the four tables, each in the order of insertion. -/
structure Tables where
  accounts : List Account := []
  clients : List Client := []
  invoices : List Invoice := []
  items : List Item := []
  deriving DecidableEq, Repr

/-- An open transaction: its private copy of the tables and its start. -/
structure Pending where
  tables : Tables
  start : Nat
  deriving DecidableEq, Repr

/-- A fault: statements of `kind` fail once `passes` more of them have been let through. -/
structure Fault where
  kind : StatementKind
  passes : Nat
  deriving DecidableEq, Repr

/-- How many rows each table has ever received. -/
structure Serials where
  accounts : Nat := 0
  clients : Nat := 0
  invoices : Nat := 0
  items : Nat := 0
  deriving DecidableEq, Repr

namespace Serials

/-- The count of a table. -/
def get (s : Serials) : Table → Nat
  | .accounts => s.accounts
  | .clients => s.clients
  | .invoices => s.invoices
  | .items => s.items

/-- One more row in a table. -/
def bump (s : Serials) : Table → Serials
  | .accounts => { s with accounts := s.accounts + 1 }
  | .clients => { s with clients := s.clients + 1 }
  | .invoices => { s with invoices := s.invoices + 1 }
  | .items => { s with items := s.items + 1 }

end Serials

/-- The store. -/
structure Store where
  committed : Tables := {}
  pending : Option Pending := none
  clock : Nat := 0
  serials : Serials := {}
  fault : Option Fault := none
  reachable : Bool := true
  deriving DecidableEq, Repr

/-- Where a statement runs: inside the open transaction, or on its own. -/
inductive Conn where
  | own
  | txn
  deriving DecidableEq, Repr

/-- An operation on the store. -/
abbrev StoreOp (α : Type) := ExceptT InvoiceError (StateM Store) α

namespace Store

/-- The instant of a reading of the clock. -/
def instant (tick : Nat) : Instant := ⟨(Instant.ofDate ⟨2026, 1, 1⟩).seconds + tick, 0⟩

/-- The store with a fault on statements of `kind` after `passes` more of them, or with no
fault. -/
def setFault (kind : Option StatementKind) (passes : Nat) (s : Store) : Store :=
  { s with fault := kind.map fun k => ⟨k, passes⟩ }

/-- Lets a statement of a kind through the fault, or refuses it. -/
def letThrough (kind : StatementKind) (s : Store) : Bool × Store :=
  match s.fault with
  | some f =>
    if f.kind = kind then
      if f.passes = 0 then (false, s) else (true, { s with fault := some { f with passes := f.passes - 1 } })
    else (true, s)
  | none => (true, s)

theorem letThrough_none (kind : StatementKind) (s : Store) (h : s.fault = none) :
    s.letThrough kind = (true, s) := by
  simp [letThrough, h]

/-- The transaction a statement on `conn` belongs to, if one is open. -/
def txnOf (conn : Conn) (s : Store) : Option Pending :=
  match conn with
  | .txn => s.pending
  | .own => none

/-- The time a statement on `conn` runs at, and the store after its clock has seen it: inside
the transaction the transaction's start, otherwise the next tick of the clock. -/
def tick (conn : Conn) (s : Store) : Nat × Store :=
  match s.txnOf conn with
  | some p => (p.start, s)
  | none => (s.clock + 1, { s with clock := s.clock + 1 })

/-- The tables a statement on `conn` sees: the transaction's own copy inside it, the published
tables otherwise. -/
def view (conn : Conn) (s : Store) : Tables :=
  match s.txnOf conn with
  | some p => p.tables
  | none => s.committed

/-- The store after a statement on `conn` left the tables `t`: they replace the ones it saw. -/
def put (conn : Conn) (t : Tables) (s : Store) : Store :=
  match s.txnOf conn with
  | some p => { s with pending := some { p with tables := t } }
  | none => { s with committed := t }

/-- Runs a statement of `kind` on `conn`. The body gets the current time and the tables the
statement sees, and gives its result with the tables after it. -/
def exec {α : Type} (conn : Conn) (kind : StatementKind)
    (body : Instant → Tables → Except DbError (α × Tables)) : StateM Store (Except DbError α) :=
  fun s =>
    if !s.reachable then (.error .unavailable, s)
    else
      let (now, s) := s.tick conn
      let (allowed, s) := s.letThrough kind
      if !allowed then (.error .timeout, s)
      else
        match body (instant now) (s.view conn) with
        | .ok (a, t) => (.ok a, s.put conn t)
        | .error e => (.error e, s)

/-- Runs a statement that touches no table: it meets no fault and fails only when the store
cannot be reached. Tells whether it succeeded. -/
def ping : StateM Store Bool := do
  let s ← get
  if s.reachable then set { s with clock := s.clock + 1 }
  return s.reachable

/-- Inserts into a table: the body gets the table's next identity, which counts as taken once
the statement succeeds. -/
def insert {α : Type} (conn : Conn) (t : Table)
    (body : Uuid → Instant → Tables → Except DbError (α × Tables)) :
    StateM Store (Except DbError α) := do
  let id := t.serial ((← get).serials.get t + 1)
  let r ← exec conn (.touch .insert t) (body id)
  if r matches .ok _ then modify fun s => { s with serials := s.serials.bump t }
  return r

end Store

namespace StoreOp

/-- A storage failure in `context`. -/
def failure (context : String) (e : DbError) : InvoiceError := .storage (context ++ ": " ++ e.message)

/-- Runs a statement, reporting a failure as a storage failure in `context`. -/
def query {α : Type} (conn : Conn) (kind : StatementKind) (context : String)
    (body : Instant → Tables → Except DbError (α × Tables)) : StoreOp α := do
  match ← (Store.exec conn kind body : StateM Store _) with
  | .ok a => pure a
  | .error e => throw (failure context e)

/-- Inserts into a table (see `Store.insert`), reporting a failure as a storage failure in
`context`. -/
def insert {α : Type} (conn : Conn) (t : Table) (context : String)
    (body : Uuid → Instant → Tables → Except DbError (α × Tables)) : StoreOp α := do
  match ← (Store.insert conn t body : StateM Store _) with
  | .ok a => pure a
  | .error e => throw (failure context e)

/-- Runs an operation on a store: its outcome and the store after it. -/
def runOn {α : Type} (op : StoreOp α) (s : Store) : Except InvoiceError α × Store :=
  (ExceptT.run op).run s

/-- Opens a transaction: it takes its own copy of the published tables, and starts at the next
tick of the clock. -/
def begin : StoreOp Unit :=
  ExceptT.mk fun s =>
    if !s.reachable then (.error (failure "Failed to begin transaction" .unavailable), s)
    else
      let (allowed, s) := { s with clock := s.clock + 1 }.letThrough .begin
      if allowed then (.ok (), { s with pending := some ⟨s.committed, s.clock⟩ })
      else (.error (failure "Failed to begin transaction" .timeout), s)

/-- Drops the open transaction and its changes. -/
def rollback : StoreOp Unit := modify fun s => { s with pending := none }

/-- Commits the open transaction; if the commit fails, the transaction is discarded and the
failure is reported in `context`. -/
def commit (context : String) : StoreOp Unit :=
  ExceptT.mk fun s =>
    let (allowed, s) := s.letThrough .commit
    if allowed then
      (.ok (), { s with committed := (s.pending.map Pending.tables).getD s.committed, pending := none })
    else (.error (failure context .timeout), { s with pending := none })

/-- Runs `body` in a transaction committed with failures reported in `context`; a failure of
the body drops the transaction. -/
def transaction {α : Type} (context : String) (body : StoreOp α) : StoreOp α := do
  begin
  let r ← tryCatch body fun e => do rollback; throw e
  commit context
  pure r

end StoreOp

end Invoicing
