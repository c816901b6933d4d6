import Evolution.Database.Batch

/-! The backends that have a database: the records are kept in it too, or in memory beside it. -/
namespace Evolution

namespace Database

variable {φ δ : Type} (server : Server φ δ)

/-- Records and statements in one database. -/
def hosted : Backend (Database φ δ) where
  insert := insert server
  get := get server
  list := list server
  updateStatus := updateStatus server
  validate := dryRun server
  apply := fun id now => do
    let r ← get server id
    execute server true id r.sql .validated .applied now
  revert := fun id now => do
    let r ← get server id
    execute server true id r.rollbackSql .applied .reverted now

/-- Records in memory, and a database for the statements. -/
structure Split (φ δ : Type) where
  store : MemoryStore := {}
  database : Database φ δ

def inStore {α : Type} (a : Action MemoryStore α) : Action (Split φ δ) α :=
  liftPart Split.store (fun store w => { w with store }) a

def inDatabase {α : Type} (a : Action (Database φ δ) α) : Action (Split φ δ) α :=
  liftPart Split.database (fun database w => { w with database }) a

def split : Backend (Split φ δ) where
  insert := fun r => inStore (MemoryStore.insertAction r)
  get := fun id => inStore (MemoryStore.getAction id)
  list := fun f => inStore (MemoryStore.listAction f)
  updateStatus := fun id u now => inStore (MemoryStore.updateStatusAction id u now)
  validate := fun statements => inDatabase (dryRun server statements)
  apply := fun id now => do
    let r ← inStore (MemoryStore.getAction id)
    inDatabase (execute server false id r.sql .validated .applied now)
  revert := fun id now => do
    let r ← inStore (MemoryStore.getAction id)
    inDatabase (execute server false id r.rollbackSql .applied .reverted now)

end Database
end Evolution
