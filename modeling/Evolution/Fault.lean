import Evolution.Lifecycle.Status
import Evolution.Uuid

/-! Everything that can go wrong with an operation, by its cause. -/
namespace Evolution

/-- Why the database did not answer a query with a result. -/
inductive DatabaseError where
  /-- The server refused the statement, for its own reason. -/
  | refused (message code : String)
  | closed
  | timeout
  | unreadableColumn (index : Nat)
  /-- There was more than the one row that was asked for. -/
  | unexpectedRows
  | notSendable
  | noServer
  | noEncryption
  deriving DecidableEq, Repr

def DatabaseError.message : DatabaseError → String
  | refused _ _ => "db error"
  | closed => "connection closed"
  | timeout => "timeout waiting for server"
  | unreadableColumn index => s!"error deserializing column {index}"
  | unexpectedRows => "query returned an unexpected number of rows"
  | notSendable => "error encoding message to server"
  | noServer => "error connecting to server"
  | noEncryption => "error performing TLS handshake"

/-- The server's own words where there are any. -/
def DatabaseError.reason : DatabaseError → String
  | refused message _ => message
  | e => e.message

/-- Why no connection could be had. -/
inductive PoolError where
  | closed
  | connecting (cause : DatabaseError)
  deriving DecidableEq, Repr

def PoolError.message : PoolError → String
  | closed => "Pool has been closed"
  | connecting cause => s!"Error occurred while creating a new object: {cause.message}"

inductive Fault where
  | database (cause : DatabaseError)
  | pool (cause : PoolError)
  | invalidModel (errors : List String)
  | invalidTransition (id : Uuid) (source target : Status)
  /-- The statements have run, but the new status could not be stored. -/
  | statusNotRecorded (id : Uuid) (status : Status)
  | execution (message : String)
  | validation (message : String)
  | notFound (message : String)
  | conflict (message : String)
  | badRequest (message : String)
  | internal (message : String)
  | config (message : String)
  deriving DecidableEq, Repr

namespace Fault

def message : Fault → String
  | database cause => s!"Database error: {cause.message}"
  | pool cause => s!"Pool error: {cause.message}"
  | invalidModel errors =>
    let list := "; ".intercalate errors
    s!"Invalid desired state: {list}"
  | invalidTransition id source target => s!"Changeset {id} cannot move from {source} to {target}"
  | statusNotRecorded id status =>
    s!"Changeset {id} was executed but its status could not be recorded as {status}"
  | execution message => s!"Execution failed: {message}"
  | validation message => s!"Validation error: {message}"
  | notFound message => s!"Not found: {message}"
  | conflict message => s!"Conflict: {message}"
  | badRequest message => s!"Bad request: {message}"
  | internal message => s!"Internal error: {message}"
  | config message => s!"Configuration error: {message}"

def unknownChangeset (id : Uuid) : Fault :=
  notFound s!"Changeset {id} not found"

def duplicateChangeset (id : Uuid) : Fault :=
  conflict s!"Changeset {id} already exists"

end Fault

/-- Reads a status that a caller has sent. -/
def Status.parse (s : String) : Except Fault Status :=
  match Status.ofText? s with
  | some status => .ok status
  | none =>
    let shown := Text.lower (Text.trim s)
    .error (.badRequest s!"Unknown changeset status '{shown}'")

end Evolution
