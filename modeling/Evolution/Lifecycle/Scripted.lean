import Evolution.Lifecycle.Manager

/-! A backend whose answers are written down beforehand: a store in memory whose writes can be made
to fail, and queues of reports and outcomes. It counts the calls. -/
namespace Evolution

open Time (Instant)

/-- An outcome to answer with, and whether the executor stores the new status itself first. -/
structure ScriptedOutcome where
  outcome : Outcome
  writesStatus : Bool := false

structure Script where
  store : MemoryStore := {}
  failingInserts : Nat := 0
  failingWrites : Nat := 0
  reports : List (Except Fault Report) := []
  applies : List (Except Fault ScriptedOutcome) := []
  reverts : List (Except Fault ScriptedOutcome) := []
  validateCalls : Nat := 0
  applyCalls : Nat := 0
  revertCalls : Nat := 0
  /-- The records as they were when the last call began: what a reader finds while it is under
  way. -/
  underWay : MemoryStore := {}

namespace Script

/-- All calls of the check and of the executor. -/
def calls (script : Script) : Nat :=
  script.validateCalls + script.applyCalls + script.revertCalls

def inStore {α : Type} (a : Action MemoryStore α) : Action Script α :=
  liftPart Script.store (fun s script => { script with store := s }) a

def insert (r : Record) : Action Script Record := do
  let script ← getThe Script
  match script.failingInserts with
  | 0 => inStore (MemoryStore.insertAction r)
  | n + 1 =>
    set { script with failingInserts := n }
    throw (.internal "insert failed")

def updateStatus (id : Uuid) (u : StatusUpdate) (now : Instant) : Action Script Record := do
  let script ← getThe Script
  match script.failingWrites with
  | 0 => inStore (MemoryStore.updateStatusAction id u now)
  | n + 1 =>
    set { script with failingWrites := n }
    throw (.internal "status write failed")

/-- The next answer of the queue; with none left every check passes. -/
def validate (_ : List String) : Action Script Report := do
  modify fun script =>
    { script with validateCalls := script.validateCalls + 1, underWay := script.store }
  let script ← getThe Script
  match script.reports with
  | [] => pure (.passed [])
  | answer :: rest =>
    set { script with reports := rest }
    ExceptT.mk (pure answer)

/-- Answers as scripted; the status is stored past the failing writes. -/
def answer (id : Uuid) (target : Status) (now : Instant) (scripted : Except Fault ScriptedOutcome) :
    Action Script Outcome := do
  let s ← ExceptT.mk (pure scripted)
  if s.writesStatus then
    let _ ← inStore (MemoryStore.updateStatusAction id { status := target } now)
  pure s.outcome

/-- The next answer of the queue; with none left every run succeeds. -/
def apply (id : Uuid) (now : Instant) : Action Script Outcome := do
  modify fun script =>
    { script with applyCalls := script.applyCalls + 1, underWay := script.store }
  let script ← getThe Script
  match script.applies with
  | [] => pure .success
  | scripted :: rest =>
    set { script with applies := rest }
    answer id .applied now scripted

/-- The next answer of the queue; with none left every run succeeds. -/
def revert (id : Uuid) (now : Instant) : Action Script Outcome := do
  modify fun script =>
    { script with revertCalls := script.revertCalls + 1, underWay := script.store }
  let script ← getThe Script
  match script.reverts with
  | [] => pure .success
  | scripted :: rest =>
    set { script with reverts := rest }
    answer id .reverted now scripted

end Script

def Backend.scripted : Backend Script where
  insert := Script.insert
  get := fun id => Script.inStore (MemoryStore.getAction id)
  list := fun f => Script.inStore (MemoryStore.listAction f)
  updateStatus := Script.updateStatus
  validate := Script.validate
  apply := Script.apply
  revert := Script.revert

end Evolution
