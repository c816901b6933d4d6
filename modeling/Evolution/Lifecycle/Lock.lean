import Evolution.Uuid

/-! The locks that keep two operations on one changeset apart. A call takes the lock of its
changeset out of a table, works while it holds it, and removes it from the table if nobody else
refers to it. The calls take their steps in any order. -/
namespace Evolution.Lock

/-- Where a call stands. From waiting to letting go it refers to a lock. -/
inductive Stage where
  | idle
  | waiting (lock : Nat)
  /-- Holds the lock and runs its operation. -/
  | working (lock : Nat)
  /-- Has given the lock back, and is about to look who else refers to it. -/
  | leaving (lock : Nat)
  /-- Has looked, and still refers to the lock. -/
  | lettingGo (lock : Nat)
  | finished
  deriving DecidableEq, Repr

def Stage.lock? : Stage → Option Nat
  | idle => none
  | waiting lock => some lock
  | working lock => some lock
  | leaving lock => some lock
  | lettingGo lock => some lock
  | finished => none

/-- The table of locks, and where each of `n` calls stands. -/
structure State (n : Nat) where
  table : Uuid → Option Nat
  /-- The name of the next lock to be made. -/
  fresh : Nat
  stage : Fin n → Stage

namespace State

variable {n : Nat}

/-- No locks yet, and no call has begun. -/
def initial : State n where
  table := fun _ => none
  fresh := 0
  stage := fun _ => .idle

def moveTo (s : State n) (i : Fin n) (stage : Stage) : State n :=
  { s with stage := fun j => if j = i then stage else s.stage j }

def setEntry (s : State n) (id : Uuid) (entry : Option Nat) : State n :=
  { s with table := fun other => if other = id then entry else s.table other }

/-- The calls that refer to a lock. -/
def holders (s : State n) (lock : Nat) : List (Fin n) :=
  (List.finRange n).filter fun i => (s.stage i).lock? == some lock

/-- How many refer to a lock: the calls, and the table at one place. -/
def references (s : State n) (id : Uuid) (lock : Nat) : Nat :=
  (s.holders lock).length + if s.table id = some lock then 1 else 0

def isFree (s : State n) (lock : Nat) : Bool :=
  (List.finRange n).all fun i => s.stage i != .working lock

/-- The next step of a call on changeset `id`, if it can take one. -/
def step? (s : State n) (id : Uuid) (i : Fin n) : Option (State n) :=
  match s.stage i with
  | .idle =>
    match s.table id with
    | some lock => some (s.moveTo i (.waiting lock))
    | none =>
      some ({ s.setEntry id (some s.fresh) with fresh := s.fresh + 1 }.moveTo i (.waiting s.fresh))
  | .waiting lock => if s.isFree lock then some (s.moveTo i (.working lock)) else none
  | .working lock => some (s.moveTo i (.leaving lock))
  | .leaving lock =>
    let s := if s.references id lock = 2 then s.setEntry id none else s
    some (s.moveTo i (.lettingGo lock))
  | .lettingGo _ => some (s.moveTo i .finished)
  | .finished => none

end State

/-- What calls on these changesets can lead to. -/
inductive Reachable {n : Nat} (target : Fin n → Uuid) : State n → Prop where
  | initial : Reachable target .initial
  | step {s t : State n} {i : Fin n} :
      Reachable target s → s.step? (target i) i = some t → Reachable target t

end Evolution.Lock
