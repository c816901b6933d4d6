import Evolution.Lifecycle.Outcome
import Evolution.Store.Memory

/-! What the lifecycle stands on: a store for records, a check of statements, and an executor. Each
acts on a world of its own kind. -/
namespace Evolution

open Time (Instant)

/-- An operation that changes a world and may fail; what it did before it failed stays done. -/
abbrev Action (σ α : Type) := ExceptT Fault (StateM σ) α

/-- A step of a part of the world, and what to put in its place. -/
def liftPart {σ τ α : Type} (get : σ → τ) (set : τ → σ → σ) (a : Action τ α) : Action σ α :=
  ExceptT.mk fun s =>
    let (result, part) := a.run.run (get s)
    (result, set part s)

structure Backend (σ : Type) where
  insert : Record → Action σ Record
  get : Uuid → Action σ Record
  list : Filter → Action σ (List Record)
  updateStatus : Uuid → StatusUpdate → Instant → Action σ Record
  /-- Fails only if the check could not be made; statements that do not pass are a report. -/
  validate : List String → Action σ Report
  apply : Uuid → Instant → Action σ Outcome
  revert : Uuid → Instant → Action σ Outcome

namespace MemoryStore

def insertAction (r : Record) : Action MemoryStore Record := do
  let s ← getThe MemoryStore
  match s.insert r with
  | .ok s =>
    set s
    pure r
  | .error e => throw e

def getAction (id : Uuid) : Action MemoryStore Record := do
  let s ← getThe MemoryStore
  match s.get id with
  | .ok r => pure r
  | .error e => throw e

def listAction (f : Filter) : Action MemoryStore (List Record) := do
  let s ← getThe MemoryStore
  pure (s.list f)

def updateStatusAction (id : Uuid) (u : StatusUpdate) (now : Instant) :
    Action MemoryStore Record := do
  let s ← getThe MemoryStore
  match s.updateStatus id u now with
  | .ok (r, s) =>
    set s
    pure r
  | .error e => throw e

end MemoryStore

/-- Every check passes, with a warning, because there is no database to ask. -/
def skippedCheck : Report :=
  .passed ["Remote validation skipped: no target database configured"]

/-- Nothing can be run without a database. -/
def noDatabase : Outcome :=
  .failure "No target database configured"

/-- The same store without a database. -/
def Backend.withoutDatabase {σ : Type} (b : Backend σ) : Backend σ :=
  { b with
    validate := fun _ => pure skippedCheck
    apply := fun _ _ => pure noDatabase
    revert := fun _ _ => pure noDatabase }

/-- Records in memory and no database. -/
def Backend.detached : Backend MemoryStore where
  insert := MemoryStore.insertAction
  get := MemoryStore.getAction
  list := MemoryStore.listAction
  updateStatus := MemoryStore.updateStatusAction
  validate := fun _ => pure skippedCheck
  apply := fun _ _ => pure noDatabase
  revert := fun _ _ => pure noDatabase

end Evolution
