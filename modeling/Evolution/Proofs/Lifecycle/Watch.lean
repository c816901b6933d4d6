import Evolution.Proofs.Action

/-! A backend that is watched: every call made of it is written down, with its answer and the worlds
before and after it. -/
namespace Evolution

open Evolution.Action
open Time (Instant)

/-- What can be asked of a backend. -/
inductive Call where
  | insert (r : Record)
  | get (id : Uuid)
  | list (f : Filter)
  | updateStatus (id : Uuid) (u : StatusUpdate) (now : Instant)
  | validate (statements : List String)
  | apply (id : Uuid) (now : Instant)
  | revert (id : Uuid) (now : Instant)

/-- The status that a run of the statements of changeset `id` is meant to lead to. -/
def Call.target? (id : Uuid) : Call → Option Status
  | apply i _ => if i = id then some .applied else none
  | revert i _ => if i = id then some .reverted else none
  | _ => none

inductive Reply where
  | record (answer : Except Fault Record)
  | records (answer : Except Fault (List Record))
  | report (answer : Except Fault Report)
  | outcome (answer : Except Fault Outcome)

/-- An executor has answered that the statements were run. -/
def Reply.isSuccess : Reply → Bool
  | outcome (.ok o) => o.ok
  | _ => false

structure Event (σ : Type) where
  call : Call
  reply : Reply
  before : σ
  after : σ

/-- The target of a run of changeset `id` that was answered as a success. -/
def Event.success? {σ : Type} (id : Uuid) (e : Event σ) : Option Status :=
  if e.reply.isSuccess then e.call.target? id else none

section success

variable {σ : Type} {id : Uuid} {c : Call} {s t : σ}

theorem Event.success?_refused {o : Outcome} (h : o.ok = false) :
    Event.success? id ⟨c, .outcome (.ok o), s, t⟩ = none := by
  simp [success?, Reply.isSuccess, h]

theorem Event.success?_succeeded {o : Outcome} (h : o.ok = true) :
    Event.success? id ⟨c, .outcome (.ok o), s, t⟩ = c.target? id := by
  simp [success?, Reply.isSuccess, h]

end success

/-- A world and all calls so far, the last one at the end. -/
structure Watched (σ : Type) where
  world : σ
  past : List (Event σ) := []

namespace Watched

variable {σ : Type} {w : Watched σ} {e : Event σ} {id : Uuid}

/-- The world after a further call. -/
def note (w : Watched σ) (e : Event σ) : Watched σ :=
  ⟨e.after, w.past ++ [e]⟩

/-- The targets of all runs of changeset `id` that were answered as successes. -/
def runs (w : Watched σ) (id : Uuid) : List Status :=
  w.past.filterMap (Event.success? id)

@[simp] theorem note_world : (w.note e).world = e.after := rfl

@[simp] theorem note_past : (w.note e).past = w.past ++ [e] := rfl

theorem note_runs : (w.note e).runs id = w.runs id ++ (e.success? id).toList := by
  cases h : e.success? id <;> simp [runs, List.filterMap_append, h]

theorem note_runs_of_none (h : e.success? id = none) : (w.note e).runs id = w.runs id := by
  simp [note_runs, h]

end Watched

/-- Writes a call down when it has been answered. -/
def watch {σ α : Type} (call : Call) (reply : Except Fault α → Reply) (a : Action σ α) :
    Action (Watched σ) α :=
  ExceptT.mk fun w =>
    let (result, world) := a.run.run w.world
    (result, w.note ⟨call, reply result, w.world, world⟩)

theorem ends_watch {σ α : Type} {call : Call} {reply : Except Fault α → Reply} {a : Action σ α}
    {w w' : Watched σ} {r : Except Fault α} :
    Ends (watch call reply a) w r w' ↔
      ∃ v, Ends a w.world r v ∧ w' = w.note ⟨call, reply r, w.world, v⟩ := by
  constructor
  · intro h
    cases h
    exact ⟨_, rfl, rfl⟩
  · rintro ⟨v, h, rfl⟩
    exact congrArg (fun x => (x.1, w.note ⟨call, reply x.1, w.world, x.2⟩)) h

namespace Backend

/-- The same backend, watched. -/
def watched {σ : Type} (b : Backend σ) : Backend (Watched σ) where
  insert := fun r => watch (.insert r) .record (b.insert r)
  get := fun id => watch (.get id) .record (b.get id)
  list := fun f => watch (.list f) .records (b.list f)
  updateStatus := fun id u now => watch (.updateStatus id u now) .record (b.updateStatus id u now)
  validate := fun statements => watch (.validate statements) .report (b.validate statements)
  apply := fun id now => watch (.apply id now) .outcome (b.apply id now)
  revert := fun id now => watch (.revert id now) .outcome (b.revert id now)

/-- What can happen when a backend is called. -/
inductive Occurs {σ : Type} (b : Backend σ) : Event σ → Prop where
  | insert {r x w w'} (he : Ends (b.insert r) w x w') : Occurs b ⟨.insert r, .record x, w, w'⟩
  | get {id x w w'} (he : Ends (b.get id) w x w') : Occurs b ⟨.get id, .record x, w, w'⟩
  | list {f x w w'} (he : Ends (b.list f) w x w') : Occurs b ⟨.list f, .records x, w, w'⟩
  | updateStatus {id u now x w w'} (he : Ends (b.updateStatus id u now) w x w') :
      Occurs b ⟨.updateStatus id u now, .record x, w, w'⟩
  | validate {statements x w w'} (he : Ends (b.validate statements) w x w') :
      Occurs b ⟨.validate statements, .report x, w, w'⟩
  | apply {id now x w w'} (he : Ends (b.apply id now) w x w') :
      Occurs b ⟨.apply id now, .outcome x, w, w'⟩
  | revert {id now x w w'} (he : Ends (b.revert id now) w x w') :
      Occurs b ⟨.revert id now, .outcome x, w, w'⟩

end Backend
end Evolution
