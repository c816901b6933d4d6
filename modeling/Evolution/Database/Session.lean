import Evolution.Database.Statements
import Evolution.Lifecycle.Backend

/-! A database behind a pool of one connection. What has been sent is written down; where something
fails, and what a statement of a changeset does, is up to the server, so that what holds here holds
whatever the server is. -/
namespace Evolution
namespace Database

/-- What reaches the server. -/
inductive Command where
  | startup (user database : String)
  | begin
  | commit
  | rollback
  | query (q : Query)
  | batch (text : String)
  deriving DecidableEq, Repr

/-- How a command can fail. -/
inductive Breakdown where
  | refusal (message code : String)
  | disconnect
  deriving DecidableEq, Repr

/-- A NUL ends a text in a message, so that no text can hold one. -/
def isSendable (s : String) : Bool :=
  !s.toList.contains '\x00'

/-- What is read of a text that was written into a message all the same. -/
def readable (s : String) : String :=
  String.ofList (s.toList.takeWhile (· != '\x00'))

/-- What befalls a command, and what is left of the source afterwards. -/
abbrev FailureSource (φ : Type) := φ → Command → Option Breakdown × φ

/-- What is stored: the rows of the table of changesets, and all else there is. -/
structure Stored (δ : Type) where
  rows : List Row := []
  others : δ

/-- What is stored as a session sees it. -/
structure Tables (δ : Type) extends Stored δ where
  /-- What was stored when the open transaction began. -/
  saved : Option (Stored δ) := none

/-- The transaction is undone, if one is open. -/
def Tables.restored {δ : Type} (tables : Tables δ) : Tables δ where
  toStored := tables.saved.getD tables.toStored

/-- What is up to the server. A statement may do anything to the tables, and end the transaction or
begin another, also where something befalls it. -/
structure Server (φ δ : Type) where
  fails : FailureSource φ
  effect : String → Option Breakdown → Tables δ → Tables δ

/-- The statements of changesets alone are up to the server. -/
def Server.does {φ δ : Type} (server : Server φ δ) :
    Command → Option Breakdown → Tables δ → Tables δ
  | .batch text => server.effect text
  | _ => fun _ tables => tables

end Database

structure Database (φ δ : Type) extends Database.Tables δ where
  failures : φ
  connected : Bool := false
  /-- No new connection can be made. -/
  refusing : Bool := false
  poolClosed : Bool := false
  log : List Database.Command := []

namespace Database

/-- A use of the open connection. -/
abbrev Exchange (φ δ α : Type) := ExceptT DatabaseError (StateM (Database φ δ)) α

variable {φ δ : Type}

def ask {α : Type} (a : Exchange φ δ α) : Action (Database φ δ) α :=
  ExceptT.mk fun db =>
    let (result, db) := a.run.run db
    (result.mapError .database, db)

/-- The same with a failure that is looked at. -/
def attempt {α : Type} (a : Exchange φ δ α) : Action (Database φ δ) (Except DatabaseError α) :=
  ExceptT.mk fun db =>
    let (result, db) := a.run.run db
    (.ok result, db)

/-- Back to what was stored at the beginning of the transaction. -/
def restored (db : Database φ δ) : Database φ δ :=
  { db with toTables := db.toTables.restored }

/-- Takes the connection out of the pool; a lost one is replaced by a new one. -/
def connect : Action (Database φ δ) Unit := do
  let db ← getThe (Database φ δ)
  if db.poolClosed then throw (.pool .closed)
  else if db.connected then pure ()
  else if db.refusing then throw (.pool (.connecting .timeout))
  else set { db with connected := true }

variable (server : Server φ δ)

/-- Sends a command. A lost connection undoes what the open transaction has done. -/
def send (c : Command) : Exchange φ δ Unit := do
  let db ← getThe (Database φ δ)
  if db.connected then
    let (befallen, failures) := server.fails db.failures c
    let toTables := server.does c befallen db.toTables
    let db := { db with toTables, failures, log := db.log ++ [c] }
    match befallen with
    | none => set db
    | some (.refusal message code) =>
      set db
      throw (.refused message code)
    | some .disconnect =>
      set { db.restored with connected := false }
      throw .closed
  else throw .closed

/-- Sends a query, which does to the rows what `effect` says. -/
def query {α : Type} (q : Query) (effect : List Row → Except DatabaseError (α × List Row)) :
    Exchange φ δ α := do
  send server (.query q)
  let db ← getThe (Database φ δ)
  match effect db.rows with
  | .ok (a, rows) =>
    set { db with rows }
    pure a
  | .error e => throw e

/-- Sends a query that changes no row. -/
def look {α : Type} (q : Query) (see : List Row → Except DatabaseError α) : Exchange φ δ α :=
  query server q fun rows => (see rows).map (·, rows)

/-- Sends a statement as it is. -/
def batch (text : String) : Exchange φ δ Unit :=
  if isSendable text then send server (.batch text) else throw .notSendable

/-- Ends the transaction without looking at the answer. -/
def giveUp (db : Database φ δ) : Database φ δ :=
  ((send server .rollback).run.run db).2.restored

/-- Begins a transaction; where that fails it is given up at once. -/
def begin : Exchange φ δ Unit :=
  ExceptT.mk fun db =>
    match (send server .begin).run.run db with
    | (.ok (), db) => (.ok (), { db with saved := some db.toStored })
    | (.error e, db) => (.error e, giveUp server db)

/-- Keeps what the transaction has done, or loses it if that fails. -/
def commit : Exchange φ δ Unit :=
  ExceptT.mk fun db =>
    match (send server .commit).run.run db with
    | (.ok (), db) => (.ok (), { db with saved := none })
    | (.error e, db) => (.error e, db.restored)

/-- Undoes what the transaction has done. -/
def rollback : Exchange φ δ Unit :=
  ExceptT.mk fun db =>
    let (result, db) := (send server .rollback).run.run db
    (result, db.restored)

/-- Runs `body` in a new transaction, which is given up if it fails; otherwise `finish` ends it. -/
def inTransaction {α β : Type} (body : Action (Database φ δ) α)
    (finish : α → Action (Database φ δ) β) : Action (Database φ δ) β := do
  connect
  ask (begin server)
  match ← observing body with
  | .ok a => finish a
  | .error e =>
    modify (giveUp server)
    throw e

/-! ### A server that fails as it was written down -/

/-- Befalls the next commands that it is meant for, so many of them. -/
structure ScriptedFailure where
  isFor : Command → Bool
  breakdown : Breakdown
  times : Nat := 1

/-- The first failure in the list that is meant for a command befalls it. -/
def scriptedFailures : FailureSource (List ScriptedFailure)
  | [], _ => (none, [])
  | f :: rest, c =>
    if f.isFor c then
      (some f.breakdown, if f.times ≤ 1 then rest else { f with times := f.times - 1 } :: rest)
    else
      let (breakdown, rest) := scriptedFailures rest c
      (breakdown, f :: rest)

/-- Remembers the statements that nothing befell: they are what it has stored. -/
def scripted : Server (List ScriptedFailure) (List String) where
  fails := scriptedFailures
  effect := fun text befallen tables =>
    if befallen.isNone then { tables with others := tables.others ++ [text] } else tables

end Database
end Evolution
