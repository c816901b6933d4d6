import Evolution.Lifecycle.Backend
import Evolution.Model.Check

/-! The operations on changesets. Statements that have been run are never run again for the same
step: where the new status could not be stored it stays pending, and is stored before anything else
happens to the changeset. -/
namespace Evolution

open Time (Instant)

/-- A compiled request with what is wrong with it; nothing is stored. -/
structure Preview where
  changeset : Changeset
  errors : List ModelError

def ChangeRequest.preview (r : ChangeRequest) : Preview :=
  ⟨r.compile, r.desiredState.errors⟩

/-- Compiles a request that is fit to be stored. -/
def ChangeRequest.compileChecked (r : ChangeRequest) : Except Fault Changeset :=
  if r.desiredState.isEmpty then .error (.validation "Desired state is empty")
  else
    let errors := r.desiredState.errors
    if !errors.isEmpty then .error (.invalidModel (errors.map ModelError.message))
    else
      let c := r.compile
      if c.sql.isEmpty then .error (.validation "Desired state compiles to no statements")
      else .ok c

/-- The world of a backend, and the changesets whose new status is not yet stored there. -/
structure Manager (σ : Type) where
  world : σ
  pending : List (Uuid × Status) := []

namespace Manager

variable {σ : Type} (b : Backend σ)

def pendingStatus? (m : Manager σ) (id : Uuid) : Option Status :=
  m.pending.lookup id

def withPending (m : Manager σ) (id : Uuid) (status : Status) : Manager σ :=
  { m with pending := (id, status) :: m.pending.filter fun p => p.1 != id }

def withoutPending (m : Manager σ) (id : Uuid) : Manager σ :=
  { m with pending := m.pending.filter fun p => p.1 != id }

def inWorld {α : Type} (a : Action σ α) : Action (Manager σ) α :=
  liftPart Manager.world (fun w m => { m with world := w }) a

/-- The result of a step of the world, even if it failed. -/
def tryWorld {α : Type} (a : Action σ α) : Action (Manager σ) (Except Fault α) :=
  ExceptT.mk fun m =>
    let (result, world) := a.run.run m.world
    (.ok result, { m with world })

/-- Stores a pending status. That it is stored already is just as well. -/
def settle (id : Uuid) (now : Instant) : Action (Manager σ) Unit := do
  match (← getThe (Manager σ)).pendingStatus? id with
  | none => pure ()
  | some status =>
    match ← tryWorld (b.updateStatus id { status } now) with
    | .ok _ => modify (·.withoutPending id)
    | .error (.invalidTransition _ source _) =>
      if source = status then modify (·.withoutPending id)
      else throw (.statusNotRecorded id status)
    | .error _ => throw (.statusNotRecorded id status)

/-- Compiles a request, has it checked by the database and stores it as validated or failed. -/
def createDraft (r : ChangeRequest) (createdBy : Option String) (stamp : Stamp) :
    Action (Manager σ) Record := do
  let c ← ExceptT.mk (pure r.compileChecked)
  let report ← inWorld (b.validate c.sql)
  let status := if report.ok then Status.validated else Status.failed
  inWorld (b.insert (.ofChangeset c status (some report) createdBy stamp))

/-- Compiles a request and stores it as a draft. -/
def saveDraft (r : ChangeRequest) (createdBy : Option String) (stamp : Stamp) :
    Action (Manager σ) Record := do
  let c ← ExceptT.mk (pure r.compileChecked)
  inWorld (b.insert (.ofChangeset c .draft none createdBy stamp))

def get (id : Uuid) : Action (Manager σ) Record :=
  inWorld (b.get id)

def list (f : Filter) : Action (Manager σ) (List Record) :=
  inWorld (b.list f)

/-- The record of a changeset, which must be ready to move to `target`. -/
def ready (id : Uuid) (isReady : Status → Bool) (target : Status) : Action (Manager σ) Record := do
  let r ← inWorld (b.get id)
  if isReady r.status then pure r else throw (.invalidTransition id r.status target)

/-- What a report makes of a draft. -/
def updateOfReport (report : Report) : StatusUpdate :=
  if report.ok then { status := .validated, report := some report }
  else { status := .failed, errorText := report.errorText, report := some report }

/-- Has a draft checked by the database. -/
def validate (id : Uuid) (now : Instant) : Action (Manager σ) Record := do
  settle b id now
  let r ← ready b id (· == .draft) .validated
  let report ← inWorld (b.validate r.sql)
  inWorld (b.updateStatus id (updateOfReport report) now)

/-- Runs a changeset by `run` and stores the status it leads to. If the status cannot be stored it
stays pending. -/
def execute (id : Uuid) (target : Status) (run : Action σ Outcome) (now : Instant) :
    Action (Manager σ) Record := do
  settle b id now
  let _ ← ready b id (·.canMoveTo target) target
  let outcome ← inWorld run
  if !outcome.ok then
    throw (.execution (outcome.error.getD "Executor reported failure without details"))
  if outcome.statusRecorded then inWorld (b.get id)
  else
    match ← tryWorld (b.updateStatus id { status := target } now) with
    | .ok r => pure r
    | .error _ =>
      modify (·.withPending id target)
      throw (.statusNotRecorded id target)

/-- Runs the forward statements of a validated changeset. -/
def apply (id : Uuid) (now : Instant) : Action (Manager σ) Record :=
  execute b id .applied (b.apply id now) now

/-- Runs the rollback of an applied changeset. -/
def revert (id : Uuid) (now : Instant) : Action (Manager σ) Record :=
  execute b id .reverted (b.revert id now) now

/-- Gives up a validated changeset. -/
def abandon (id : Uuid) (reason : String) (now : Instant) : Action (Manager σ) Record := do
  settle b id now
  let _ ← ready b id (· == .validated) .failed
  inWorld (b.updateStatus id { status := .failed, errorText := some reason } now)

end Manager
end Evolution
