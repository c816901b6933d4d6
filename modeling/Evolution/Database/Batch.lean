import Evolution.Database.Store
import Evolution.Text.Search

/-! Running the statements of a changeset in a transaction: to see whether they would work, or for
good. -/
namespace Evolution.Database

open Time (Instant)

variable {φ δ : Type} (server : Server φ δ)

/-- Fails on every table that has rows. -/
def addsRequiredColumn (statement : String) : Bool :=
  Text.contains statement " add column " && Text.contains statement " not null" &&
    !Text.contains statement " default "

/-- Tries statements up to the first that fails, and says which one it was and why; else what there
is to warn of. Blank statements and comments are not sent, but have a number as well. -/
def tryStatements (n : Nat) (warnings : List String) :
    List String → Action (Database φ δ) (Except String (List String))
  | [] => pure (.ok warnings)
  | statement :: rest => do
    let s := Text.trim statement
    if s.isEmpty || Text.startsWith s "--" then tryStatements (n + 1) warnings rest
    else
      match ← attempt (batch server s) with
      | .error e => pure (.error s!"Statement {n} failed: {e.reason}")
      | .ok () =>
        if addsRequiredColumn s then
          let warning := s!"Statement {n} adds a NOT NULL column without a default; " ++
            "it will fail on non-empty tables"
          tryStatements (n + 1) (warnings ++ [warning]) rest
        else tryStatements (n + 1) warnings rest

/-- Runs statements and takes everything back. -/
def dryRun (statements : List String) : Action (Database φ δ) Report :=
  inTransaction server (tryStatements server 1 [] statements) fun
    | .error message => do
      modify (giveUp server)
      pure (.rejected [message])
    | .ok warnings => do
      ask (rollback server)
      pure (.passed warnings)

/-- Runs statements up to the first that fails, and says which one it was and why. What a dry run
passes over is passed over here too. -/
def runStatements (n : Nat) : List String → Action (Database φ δ) (Except String Unit)
  | [] => pure (.ok ())
  | statement :: rest => do
    let s := Text.trim statement
    if s.isEmpty || Text.startsWith s "--" then runStatements (n + 1) rest
    else
      match ← attempt (batch server s) with
      | .error e => pure (.error s!"Statement {n} failed: {e.reason}")
      | .ok () => runStatements (n + 1) rest

/-- Locks the row of a changeset, which must stand at `source`. -/
def lockRow (id : Uuid) (source target : Status) : Action (Database φ δ) Unit := do
  match ← ask (look server .lockStatus (rowWithId id)) with
  | none => throw (.unknownChangeset id)
  | some row =>
    let some text := (row.cell .status).text? | throw (.database (.unreadableColumn 0))
    let status ← ExceptT.mk (pure (Status.parse text))
    if status = source then pure () else throw (.invalidTransition id status target)

/-- Moves the row on, if it still stands at `source`; says whether it did. -/
def claimRow (id : Uuid) (source target : Status) (now : Instant) :
    Action (Database φ δ) Bool :=
  let stands (row : Row) : Bool :=
    row.hasId id && (row.cell .status).text? == some source.text
  ask (query server .claimStatus fun rows =>
    .ok (rows.countP stands == 1,
      rows.map fun row => if stands row then row.moved { status := target } now else row))

/-- Runs statements within the open transaction. With `recordsStatus` the row of the changeset is
locked before and moved after them. -/
def runRecorded (recordsStatus : Bool) (id : Uuid) (statements : List String)
    (source target : Status) (now : Instant) : Action (Database φ δ) (Except String Unit) := do
  if recordsStatus then lockRow server id source target
  match ← runStatements server 1 statements with
  | .error message => pure (.error message)
  | .ok () =>
    if !recordsStatus then pure (.ok ())
    else if ← claimRow server id source target now then pure (.ok ())
    else pure (.error s!"Changeset {id} left status {source} during execution")

/-- Runs statements for good. With `recordsStatus` the row of the changeset is in the same database,
and moves from `source` to `target` together with their effects. -/
def execute (recordsStatus : Bool) (id : Uuid) (statements : List String) (source target : Status)
    (now : Instant) : Action (Database φ δ) Outcome :=
  inTransaction server (runRecorded server recordsStatus id statements source target now) fun
    | .error message => do
      modify (giveUp server)
      pure (.failure message)
    | .ok () => do
      match ← attempt (commit server) with
      | .ok () => pure (if recordsStatus then .recorded else .success)
      | .error cause => pure (.failure s!"Commit failed: {cause.message}")

end Evolution.Database
