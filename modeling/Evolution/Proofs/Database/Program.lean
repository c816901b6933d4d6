import Evolution.Database.Hosting
import Evolution.Proofs.Lifecycle.Operation

/-! The operations of a manager over a database, taken apart into the visits that they make there
and to the pending statuses. What an operation does is what its visits do one after the other;
between two of them anything else may happen. -/
namespace Evolution

namespace Database

open Evolution.Action
open Time (Instant)

/-- What is done without interruption: one read or transaction on the database, or one access to the
pending statuses. -/
inductive Visit where
  | insert (r : Record)
  | get (id : Uuid)
  | list (f : Filter)
  | updateStatus (id : Uuid) (u : StatusUpdate) (now : Instant)
  | dryRun (statements : List String)
  | execute (id : Uuid) (statements : List String) (source target : Status) (now : Instant)
  | pendingStatus (id : Uuid)
  | setPending (id : Uuid) (status : Status)
  | clearPending (id : Uuid)

abbrev Visit.Found : Visit → Type
  | insert _ | get _ | updateStatus .. => Record
  | list _ => List Record
  | dryRun _ => Report
  | execute .. => Outcome
  | pendingStatus _ => Option Status
  | setPending .. | clearPending _ => PUnit

def Visit.act {φ δ : Type} (server : Server φ δ) :
    (v : Visit) → Action (Manager (Database φ δ)) v.Found
  | insert r => Manager.inWorld (Database.insert server r)
  | get id => Manager.inWorld (Database.get server id)
  | list f => Manager.inWorld (Database.list server f)
  | updateStatus id u now => Manager.inWorld (Database.updateStatus server id u now)
  | dryRun statements => Manager.inWorld (Database.dryRun server statements)
  | execute id statements source target now =>
    Manager.inWorld (Database.execute server true id statements source target now)
  | pendingStatus id => do return (← getThe (Manager (Database φ δ))).pendingStatus? id
  | setPending id status => modify (·.withPending id status)
  | clearPending id => modify (·.withoutPending id)

/-- The visits that are still to be made; each depends on what was found before. -/
inductive Program (α : Type) where
  | done (answer : Except Fault α)
  | visit (v : Visit) (rest : Except Fault v.Found → Program α)

namespace Program

variable {φ δ α β : Type}

def bind (p : Program α) (f : α → Program β) : Program β :=
  match p with
  | done (.ok a) => f a
  | done (.error e) => done (.error e)
  | visit v rest => visit v fun r => (rest r).bind f

instance : Monad Program where
  pure := fun a => done (.ok a)
  bind := bind

def fail (e : Fault) : Program α :=
  done (.error e)

def call (v : Visit) : Program v.Found :=
  visit v done

/-- A visit whose failure is looked at. -/
def attempt (v : Visit) : Program (Except Fault v.Found) :=
  visit v fun r => done (.ok r)

/-- Makes all visits without interruption. -/
def perform (server : Server φ δ) : Program α → Action (Manager (Database φ δ)) α
  | done answer => ExceptT.mk (pure answer)
  | visit v rest => ExceptT.mk fun m =>
    let (found, m) := (v.act server).run.run m
    ((rest found).perform server).run.run m

def settle (id : Uuid) (now : Instant) : Program Unit := do
  match ← call (.pendingStatus id) with
  | none => pure ()
  | some status =>
    match ← attempt (.updateStatus id { status } now) with
    | .ok _ => call (.clearPending id)
    | .error (.invalidTransition _ source _) =>
      if source = status then call (.clearPending id) else fail (.statusNotRecorded id status)
    | .error _ => fail (.statusNotRecorded id status)

def ready (id : Uuid) (isReady : Status → Bool) (target : Status) : Program Record := do
  let r ← call (.get id)
  if isReady r.status then pure r else fail (.invalidTransition id r.status target)

def createDraft (request : ChangeRequest) (createdBy : Option String) (stamp : Stamp) :
    Program Record := do
  let c ← done request.compileChecked
  let report ← call (.dryRun c.sql)
  let status := if report.ok then Status.validated else Status.failed
  call (.insert (.ofChangeset c status (some report) createdBy stamp))

def saveDraft (request : ChangeRequest) (createdBy : Option String) (stamp : Stamp) :
    Program Record := do
  let c ← done request.compileChecked
  call (.insert (.ofChangeset c .draft none createdBy stamp))

def validate (id : Uuid) (now : Instant) : Program Record := do
  settle id now
  let r ← ready id (· == .draft) .validated
  let report ← call (.dryRun r.sql)
  call (.updateStatus id (Manager.updateOfReport report) now)

/-- The executor fetches the record again before its transaction. -/
def execute (id : Uuid) (statements : Record → List String) (source target : Status)
    (now : Instant) : Program Record := do
  settle id now
  let _ ← ready id (·.canMoveTo target) target
  let r ← call (.get id)
  let outcome ← call (.execute id (statements r) source target now)
  if !outcome.ok then
    fail (.execution (outcome.error.getD "Executor reported failure without details"))
  else if outcome.statusRecorded then call (.get id)
  else
    match ← attempt (.updateStatus id { status := target } now) with
    | .ok r => pure r
    | .error _ => do
      call (.setPending id target)
      fail (.statusNotRecorded id target)

def abandon (id : Uuid) (reason : String) (now : Instant) : Program Record := do
  settle id now
  let _ ← ready id (· == .validated) .failed
  call (.updateStatus id { status := .failed, errorText := some reason } now)

variable {server : Server φ δ}

theorem perform_bind (p : Program α) (f : α → Program β) :
    (p >>= f).perform server = p.perform server >>= fun a => (f a).perform server := by
  induction p with
  | done answer => cases answer <;> rfl
  | visit v rest ih =>
    funext m
    exact congrFun (ih _) _

theorem perform_attempt_bind (id : Uuid) (u : StatusUpdate) (now : Instant)
    (f : Except Fault Record → Program α) :
    (attempt (.updateStatus id u now) >>= f).perform server =
      Manager.tryWorld (Database.updateStatus server id u now) >>= fun x => (f x).perform server :=
  perform_bind _ f

theorem perform_pendingStatus_bind (id : Uuid) (f : Option Status → Program α) :
    (call (.pendingStatus id) >>= f).perform server =
      getThe (Manager (Database φ δ)) >>= fun m => (f (m.pendingStatus? id)).perform server :=
  perform_bind _ f

theorem perform_settle (id : Uuid) (now : Instant) :
    (settle id now).perform server = Manager.settle (hosted server) id now := by
  rw [settle, perform_pendingStatus_bind]
  refine bind_congr fun m => ?_
  cases m.pendingStatus? id with
  | none => rfl
  | some status =>
    dsimp only
    rw [perform_attempt_bind]
    refine bind_congr fun x => ?_
    cases x with
    | ok => rfl
    | error e =>
      cases e with
      | invalidTransition =>
        dsimp only
        split <;> rfl
      | _ => rfl

theorem perform_ready (id : Uuid) (isReady : Status → Bool) (target : Status) :
    (ready id isReady target).perform server = Manager.ready (hosted server) id isReady target := by
  rw [ready, perform_bind]
  refine bind_congr fun r => ?_
  split <;> rfl

theorem perform_createDraft (request : ChangeRequest) (createdBy : Option String)
    (stamp : Stamp) :
    (createDraft request createdBy stamp).perform server =
      Manager.createDraft (hosted server) request createdBy stamp := by
  rw [createDraft, perform_bind]
  refine bind_congr fun c => ?_
  rw [perform_bind]
  rfl

theorem perform_saveDraft (request : ChangeRequest) (createdBy : Option String) (stamp : Stamp) :
    (saveDraft request createdBy stamp).perform server =
      Manager.saveDraft (hosted server) request createdBy stamp := by
  rw [saveDraft, perform_bind]
  rfl

theorem perform_validate (id : Uuid) (now : Instant) :
    (validate id now).perform server = Manager.validate (hosted server) id now := by
  rw [validate, perform_bind, perform_settle]
  refine bind_congr fun _ => ?_
  rw [perform_bind, perform_ready]
  refine bind_congr fun r => ?_
  rw [perform_bind]
  rfl

theorem perform_execute (id : Uuid) (statements : Record → List String) (source target : Status)
    (now : Instant) :
    (execute id statements source target now).perform server =
      Manager.execute (hosted server) id target (do
        let r ← Database.get server id
        Database.execute server true id (statements r) source target now) now := by
  rw [execute, perform_bind, perform_settle]
  refine bind_congr fun _ => ?_
  rw [perform_bind, perform_ready]
  refine bind_congr fun _ => ?_
  rw [Manager.inWorld_bind, bind_assoc, perform_bind]
  refine bind_congr fun r => ?_
  rw [perform_bind]
  refine bind_congr fun outcome => ?_
  cases outcome.ok with
  | false => rfl
  | true =>
    cases outcome.statusRecorded with
    | true => rfl
    | false =>
      refine (perform_attempt_bind _ _ _ _).trans (bind_congr fun x => ?_)
      cases x <;> rfl

theorem perform_abandon (id : Uuid) (reason : String) (now : Instant) :
    (abandon id reason now).perform server = Manager.abandon (hosted server) id reason now := by
  rw [abandon, perform_bind, perform_settle]
  refine bind_congr fun _ => ?_
  rw [perform_bind, perform_ready]
  rfl

end Program
end Database

open Database

/-- The visits of an operation. -/
def Operation.program : Operation → Program Answer
  | createDraft request createdBy stamp => do
    return .record (← Program.createDraft request createdBy stamp)
  | saveDraft request createdBy stamp => do
    return .record (← Program.saveDraft request createdBy stamp)
  | preview request => pure (.preview request.preview)
  | get id => do return .record (← Program.call (.get id))
  | list f => do return .records (← Program.call (.list f))
  | validate id now => do return .record (← Program.validate id now)
  | apply id now => do return .record (← Program.execute id Record.sql .validated .applied now)
  | revert id now => do
    return .record (← Program.execute id Record.rollbackSql .applied .reverted now)
  | abandon id reason now => do return .record (← Program.abandon id reason now)

/-- Made without interruption, the visits of an operation are the operation. -/
theorem Operation.perform_program {φ δ : Type} (server : Server φ δ) (op : Operation) :
    op.program.perform server = op.act (hosted server) := by
  cases op with
  | createDraft request createdBy stamp =>
    rw [program, Program.perform_bind, Program.perform_createDraft]
    rfl
  | saveDraft request createdBy stamp =>
    rw [program, Program.perform_bind, Program.perform_saveDraft]
    rfl
  | preview => rfl
  | get =>
    rw [program, Program.perform_bind]
    rfl
  | list =>
    rw [program, Program.perform_bind]
    rfl
  | validate id now =>
    rw [program, Program.perform_bind, Program.perform_validate]
    rfl
  | apply id now =>
    rw [program, Program.perform_bind, Program.perform_execute]
    rfl
  | revert id now =>
    rw [program, Program.perform_bind, Program.perform_execute]
    rfl
  | abandon id reason now =>
    rw [program, Program.perform_bind, Program.perform_abandon]
    rfl

end Evolution
