import Evolution.Database.Session
import Evolution.Settings

/-! Setting up: a pool that has proved to work, and the tables. -/
namespace Evolution.Database

variable {φ δ : Type} (server : Server φ δ)

/-- Makes the tables where there are none. An index that cannot be made is done without. -/
def makeTables (withTargets : Bool) : Action (Database φ δ) Unit := do
  connect
  ask (batch server changesetsTable)
  for index in changesetIndexes do
    let _ ← observing (ask (batch server index))
  if withTargets then
    for table in targetTables do
      ask (batch server table)

/-- Opens a pool and tries it out by one query. A server that listens here does not encrypt. -/
def openPool (settings : DatabaseSettings) (listens : Bool) : Action (Database φ δ) Unit := do
  if settings.database.isEmpty then
    let kind := if settings.requireTls then "TLS pool" else "pool"
    throw (.config (s!"Failed to create {kind}: Config: configuration property \"dbname\" " ++
      "not found"))
  else if !listens then throw (.pool (.connecting .noServer))
  else if settings.requireTls then throw (.pool (.connecting .noEncryption))
  else if !isSendable settings.user || !isSendable settings.database then
    throw (.pool (.connecting .notSendable))
  else
    modify fun db =>
      { db with
        connected := true
        log := db.log ++ [.startup settings.user settings.database] }
    ask (look server .ping fun _ => .ok ())

end Evolution.Database
