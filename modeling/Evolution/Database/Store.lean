import Evolution.Database.Session

/-! Changesets stored in a table of the database. -/
namespace Evolution.Database

open Time (Instant)

variable {φ δ : Type} (server : Server φ δ)

/-- The state that a server gives for a second row with one key. -/
def uniqueViolation : String := "23505"

def insertRow (row : Row) (rows : List Row) : Except DatabaseError (Unit × List Row) :=
  if rows.any fun r => (r.cell .id).uuid? == (row.cell .id).uuid? then
    .error (.refused "duplicate key value violates unique constraint" uniqueViolation)
  else .ok ((), rows ++ [row])

/-- The newest rows first. A limit is a signed number of 64 bits to the server. -/
def selectRows (f : Filter) (rows : List Row) : Except DatabaseError (List Row) :=
  let found := (rows.filter (·.meets f)).mergeSort fun a b => !b.newer a
  match f.limit with
  | none => .ok found
  | some limit =>
    if limit < 0x8000000000000000 then .ok (found.take limit)
    else .error (.refused "LIMIT must not be negative" "2201W")

def insert (r : Record) : Action (Database φ δ) Record := do
  connect
  match ← observing (ask (query server .insert (insertRow (.ofRecord r)))) with
  | .ok () => pure r
  | .error (.database (.refused message code)) =>
    if code = uniqueViolation then throw (.duplicateChangeset r.id)
    else throw (.database (.refused message code))
  | .error e => throw e

/-- The row of an identifier, if there is one. Overwritten cells can give two rows the same. -/
def rowWithId (id : Uuid) (rows : List Row) : Except DatabaseError (Option Row) :=
  match rows.filter (·.hasId id) with
  | [] => .ok none
  | [row] => .ok (some row)
  | _ => .error .unexpectedRows

def readRow (id : Uuid) (row : Option Row) : Action (Database φ δ) Record :=
  match row with
  | none => throw (.unknownChangeset id)
  | some row => ExceptT.mk (pure row.record)

def get (id : Uuid) : Action (Database φ δ) Record := do
  connect
  readRow id (← ask (look server .select (rowWithId id)))

def list (f : Filter) : Action (Database φ δ) (List Record) := do
  connect
  let rows ← ask (look server .list (selectRows f))
  ExceptT.mk (pure (rows.mapM Row.record))

/-- Moves a row along one of the steps there are, in a transaction of its own. -/
def updateStatus (id : Uuid) (u : StatusUpdate) (now : Instant) : Action (Database φ δ) Record :=
  inTransaction server
    (do
      let r ← readRow id (← ask (look server .selectForUpdate (rowWithId id)))
      if r.status.canMoveTo u.status then
        ask (query server .updateStatus fun rows =>
          .ok ((), rows.map fun x => if x.hasId id then x.moved u now else x))
        pure (r.moved u now)
      else throw (.invalidTransition id r.status u.status))
    fun r => do
      ask (commit server)
      pure r

end Evolution.Database
