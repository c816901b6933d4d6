import Evolution.Proofs.Lifecycle.Operation
import Mathlib.Logic.Function.Basic

/-! What a manager may count on: how stored changesets are seen in a world, and which changes of
them the calls of an honest backend can make. -/
namespace Evolution

open Evolution.Action
open Time (Instant)

theorem Status.not_canMoveTo_self (s : Status) : s.canMoveTo s = false := by
  cases s <;> rfl

/-- How the changesets kept in a world are seen, one entry each. -/
structure Archive (σ ρ : Type) where
  /-- What holds of a world between two calls. -/
  Sound : σ → Prop
  entry : σ → Uuid → Option ρ
  status : ρ → Option Status
  ofRecord : Record → ρ
  moved : StatusUpdate → Instant → ρ → ρ
  status_ofRecord : ∀ r, status (ofRecord r) = some r.status
  status_moved : ∀ u now x, status (moved u now x) = some u.status

namespace Archive

variable {σ ρ : Type} (A : Archive σ ρ)

def statusOf (w : σ) (id : Uuid) : Option Status :=
  (A.entry w id).bind A.status

/-- One entry has been moved along a step of its life, and no other was touched. -/
def Moved (w : σ) (id : Uuid) (u : StatusUpdate) (now : Instant) (w' : σ) : Prop :=
  ∃ x s, A.entry w id = some x ∧ A.status x = some s ∧ s.canMoveTo u.status = true ∧
    A.entry w' = Function.update (A.entry w) id (some (A.moved u now x))

/-- What an executor may have done, by its answer: a run that did not succeed has changed nothing,
and one that tells that the status was recorded has moved it. -/
inductive Ran (w : σ) (id : Uuid) (target : Status) (w' : σ) : Except Fault Outcome → Prop where
  | raised {e} (h : A.entry w' = A.entry w) : Ran w id target w' (.error e)
  | refused {o} (ho : o.ok = false) (h : A.entry w' = A.entry w) : Ran w id target w' (.ok o)
  | unmoved {o} (ho : o.ok = true) (hr : o.statusRecorded = false)
      (h : A.entry w' = A.entry w) : Ran w id target w' (.ok o)
  | moved {o now} (ho : o.ok = true) (h : A.Moved w id { status := target } now w') :
      Ran w id target w' (.ok o)

/-- No changeset that is stored has been run yet. -/
def Unexecuted (w : σ) : Prop :=
  ∀ id x, A.entry w id = some x →
    ∃ s, A.status x = some s ∧ (s = .draft ∨ s = .validated ∨ s = .failed)

variable {A} {w w' : σ} {id : Uuid} {u : StatusUpdate} {now : Instant}

theorem Moved.other {other : Uuid} (h : A.Moved w id u now w') (ho : other ≠ id) :
    A.entry w' other = A.entry w other := by
  obtain ⟨x, s, _, _, _, he⟩ := h
  rw [he, Function.update_of_ne ho]

theorem Moved.self (h : A.Moved w id u now w') :
    ∃ x s, A.entry w id = some x ∧ A.status x = some s ∧ s.canMoveTo u.status = true ∧
      A.entry w' id = some (A.moved u now x) := by
  obtain ⟨x, s, hx, hs, hc, he⟩ := h
  exact ⟨x, s, hx, hs, hc, by rw [he, Function.update_self]⟩

theorem Moved.entry {x : ρ} (h : A.Moved w id u now w') (hx : A.entry w id = some x) :
    A.entry w' id = some (A.moved u now x) := by
  obtain ⟨y, _, hy, _, _, he⟩ := h.self
  obtain rfl := Option.some.inj (hx.symm.trans hy)
  exact he

/-- Only the entries count. -/
theorem Moved.congr {v v' : σ} (h : A.Moved w id u now w') (hb : A.entry v = A.entry w)
    (ha : A.entry v' = A.entry w') : A.Moved v id u now v' := by
  unfold Moved at h ⊢
  rw [hb, ha]
  exact h

theorem Moved.statusOf (h : A.Moved w id u now w') : A.statusOf w' id = some u.status := by
  obtain ⟨x, _, _, _, _, he⟩ := h.self
  rw [Archive.statusOf, he, Option.bind_some, A.status_moved]

/-- What has been moved to a status cannot be moved there again. -/
theorem Moved.not_again {w'' : σ} {u' : StatusUpdate} {now' : Instant}
    (h : A.Moved w id u now w') (hu : u'.status = u.status) : ¬ A.Moved w' id u' now' w'' := by
  rintro ⟨x, s, hx, hs, hc, -⟩
  have hs' : A.statusOf w' id = some s := by rw [Archive.statusOf, hx, Option.bind_some, hs]
  obtain rfl : s = u.status := Option.some.inj (hs'.symm.trans h.statusOf)
  rw [hu, Status.not_canMoveTo_self] at hc
  cases hc

theorem Ran.moves {target : Status} {x : Except Fault Outcome} (h : A.Ran w id target w' x) :
    A.entry w' = A.entry w ∨ ∃ u now, A.Moved w id u now w' := by
  cases h with
  | raised h => exact Or.inl h
  | refused _ h => exact Or.inl h
  | unmoved _ _ h => exact Or.inl h
  | moved _ h => exact Or.inr ⟨_, _, h⟩

end Archive

/-- All calls but those of the executor do what they answer. A store may fail at any time, without
effect; a refusal names the status that stands. -/
structure Storing {σ ρ : Type} (b : Backend σ) (A : Archive σ ρ) : Prop where
  sound : b.Keeps A.Sound
  insert_ok {r y w w'} : A.Sound w → Ends (b.insert r) w (.ok y) w' →
    A.entry w r.id = none ∧
      A.entry w' = Function.update (A.entry w) r.id (some (A.ofRecord r))
  insert_error {r e w w'} : A.Sound w → Ends (b.insert r) w (.error e) w' →
    A.entry w' = A.entry w
  get {id x w w'} : A.Sound w → Ends (b.get id) w x w' → A.entry w' = A.entry w
  get_ok {id r w w'} : A.Sound w → Ends (b.get id) w (.ok r) w' →
    A.statusOf w id = some r.status
  list {f x w w'} : A.Sound w → Ends (b.list f) w x w' → A.entry w' = A.entry w
  updateStatus_ok {id u now r w w'} : A.Sound w → Ends (b.updateStatus id u now) w (.ok r) w' →
    A.Moved w id u now w'
  updateStatus_error {id u now e w w'} : A.Sound w →
    Ends (b.updateStatus id u now) w (.error e) w' → A.entry w' = A.entry w
  updateStatus_refused {id u now i s t w w'} : A.Sound w →
    Ends (b.updateStatus id u now) w (.error (.invalidTransition i s t)) w' →
    A.statusOf w id = some s
  validate {statements x w w'} : A.Sound w → Ends (b.validate statements) w x w' →
    A.entry w' = A.entry w

/-- All calls do what they answer. The statements of a changeset are run by nobody but the executor,
and an executor is counted on only where the changeset is ready for it. -/
structure Honest {σ ρ : Type} (b : Backend σ) (A : Archive σ ρ) : Prop extends Storing b A where
  apply {id now x w w'} : A.Sound w → A.statusOf w id = some .validated →
    Ends (b.apply id now) w x w' → A.Ran w id .applied w' x
  revert {id now x w w'} : A.Sound w → A.statusOf w id = some .applied →
    Ends (b.revert id now) w x w' → A.Ran w id .reverted w' x

/-- A manager that has just been set up over a world. -/
def Manager.started {σ : Type} (w : σ) : Manager (Watched σ) where
  world := ⟨w, []⟩

/-- What requests lead to, whatever happens in between that leaves the changesets alone. -/
inductive Leads {σ ρ R : Type} (A : Archive σ ρ) (act : R → Action (Manager (Watched σ)) Answer)
    (l : Manager (Watched σ)) : Manager (Watched σ) → Prop where
  | refl : Leads A act l l
  | step {m} (request : R) (hl : Leads A act l m) : Leads A act l (after (act request) m)
  | meanwhile {m w} (hw : A.Sound w) (he : A.entry w = A.entry m.world.world)
      (hl : Leads A act l m) : Leads A act l { m with world.world := w }

/-- What every request keeps, and what depends on the changesets alone, holds wherever it leads. -/
theorem Leads.keeps {σ ρ R : Type} {A : Archive σ ρ} {act : R → Action (Manager (Watched σ)) Answer}
    {l m : Manager (Watched σ)} {P : Watched σ → Prop}
    (ha : ∀ {request m}, P m.world → P (after (act request) m).world)
    (hr : ∀ {w v}, P w → A.Sound v → A.entry v = A.entry w.world → P { w with world := v })
    (hp : P l.world) (hl : Leads A act l m) : P m.world := by
  induction hl with
  | refl => exact hp
  | step request _ ih => exact ha ih
  | meanwhile hw he _ ih => exact hr ih hw he

end Evolution
