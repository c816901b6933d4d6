import Evolution.Lifecycle.Record

/-! Records kept in memory, in the order of their insertion. -/
namespace Evolution

open Time (Instant)

structure MemoryStore where
  records : List Record := []

/-- Later creation, and of two at one instant the greater id. -/
def Record.newer (a b : Record) : Bool :=
  b.createdAt.before a.createdAt ||
    (a.createdAt == b.createdAt && b.id.bits.toNat < a.id.bits.toNat)

namespace MemoryStore

def find? (s : MemoryStore) (id : Uuid) : Option Record :=
  s.records.find? (·.id == id)

def get (s : MemoryStore) (id : Uuid) : Except Fault Record :=
  match s.find? id with
  | some r => .ok r
  | none => .error (.unknownChangeset id)

def insert (s : MemoryStore) (r : Record) : Except Fault MemoryStore :=
  match s.find? r.id with
  | some _ => .error (.duplicateChangeset r.id)
  | none => .ok { s with records := s.records ++ [r] }

/-- The newest first, and no more than the limit. -/
def list (s : MemoryStore) (f : Filter) : List Record :=
  let found := (s.records.filter f.admits).mergeSort fun a b => !b.newer a
  match f.limit with
  | some limit => found.take limit
  | none => found

/-- Moves a record along one of the steps there are. -/
def updateStatus (s : MemoryStore) (id : Uuid) (u : StatusUpdate) (now : Instant) :
    Except Fault (Record × MemoryStore) := do
  let r ← s.get id
  if r.status.canMoveTo u.status then
    let moved := r.moved u now
    pure (moved, { s with records := s.records.map fun x => if x.id == id then moved else x })
  else throw (.invalidTransition id r.status u.status)

end MemoryStore
end Evolution
