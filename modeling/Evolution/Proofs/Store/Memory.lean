import Evolution.Proofs.Lifecycle.Archive

/-! What the calls of a store in memory do to the record of each identifier, and what follows for a
backend that keeps its records there. -/
namespace Evolution

open Evolution.Action
open Time (Instant)

namespace MemoryStore

variable {s s' : MemoryStore} {r x : Record} {id : Uuid} {u : StatusUpdate} {now : Instant}

theorem find?_id (h : s.find? id = some r) : r.id = id := by
  unfold find? at h
  simpa using List.find?_some h

/-- To put one record in the place of all with its identifier changes no identifier. -/
theorem find?_replaced (rs : List Record) (hm : x.id = id) (j : Uuid) :
    (rs.map fun y => if y.id == id then x else y).find? (·.id == j) =
      (rs.find? (·.id == j)).map fun y => if j = id then x else y := by
  have hid (y : Record) : (if y.id == id then x else y).id = y.id := by
    split
    · rename_i h
      rw [hm, eq_of_beq h]
    · rfl
  have hc : ((·.id == j) ∘ fun y : Record => if y.id == id then x else y) = (·.id == j) := by
    funext y
    simp only [Function.comp, hid]
  rw [List.find?_map, hc]
  cases h : rs.find? (·.id == j) with
  | none => rfl
  | some y =>
    obtain rfl : y.id = j := by simpa using List.find?_some h
    simp

theorem find?_insert (h : s.insert r = .ok s') :
    s.find? r.id = none ∧ s'.find? = Function.update s.find? r.id (some r) := by
  unfold insert at h
  split at h
  · cases h
  · rename_i hn
    cases h
    refine ⟨hn, ?_⟩
    funext j
    simp only [find?, List.find?_append]
    by_cases hj : j = r.id
    · subst hj
      simp only [find?] at hn
      simp [hn]
    · simp [Function.update_of_ne hj, find?, Ne.symm hj]

theorem updateStatus_ok (h : s.updateStatus id u now = .ok (x, s')) :
    ∃ r, s.find? id = some r ∧ r.status.canMoveTo u.status = true ∧ x = r.moved u now ∧
      s'.find? = Function.update s.find? id (some (r.moved u now)) := by
  unfold updateStatus get at h
  cases hr : s.find? id with
  | none =>
    rw [hr] at h
    cases h
  | some r =>
    simp only [hr, bind, Except.bind] at h
    split at h
    · rename_i hc
      cases h
      refine ⟨r, rfl, hc, rfl, ?_⟩
      funext j
      have hi := find?_id hr
      have hf := find?_replaced s.records (show (r.moved u now).id = id from hi) j
      by_cases hj : j = id
      · subst hj
        simp only [find?] at hr
        simp only [find?, hf, hr, Option.map_some, if_pos, Function.update_self]
      · simp only [find?, hf, if_neg hj, Option.map_id', Function.update_of_ne hj]
    · cases h

theorem updateStatus_error {e : Fault} (h : s.updateStatus id u now = .error e) :
    (s.find? id = none ∧ e = .unknownChangeset id) ∨
      ∃ r, s.find? id = some r ∧ e = .invalidTransition id r.status u.status := by
  unfold updateStatus get at h
  cases hr : s.find? id with
  | none =>
    rw [hr] at h
    cases h
    exact Or.inl ⟨rfl, rfl⟩
  | some r =>
    simp only [hr, bind, Except.bind] at h
    split at h
    · cases h
    · cases h
      exact Or.inr ⟨r, rfl, rfl⟩

theorem updateStatus_of_canMoveTo (now : Instant) (h : s.find? id = some r)
    (hc : r.status.canMoveTo u.status = true) :
    ∃ s', s.updateStatus id u now = .ok (r.moved u now, s') := by
  simp [updateStatus, get, h, hc, bind, Except.bind, pure, Except.pure]

/-- The ways in which a record is inserted, or not. -/
inductive Inserts (r : Record) (s : MemoryStore) : Except Fault Record → MemoryStore → Prop where
  | inserted {s' : MemoryStore} (h : s.insert r = .ok s') : Inserts r s (.ok r) s'
  | refused {e : Fault} (h : s.insert r = .error e) : Inserts r s (.error e) s

theorem Inserts.ok (h : Inserts r s (.ok x) s') : s.insert r = .ok s' := by
  cases h with
  | inserted h => exact h

theorem Inserts.error {e : Fault} (h : Inserts r s (.error e) s') : s' = s := by
  cases h with
  | refused => rfl

theorem insert_cases {y : Except Fault Record} (he : Ends (insertAction r) s y s') :
    Inserts r s y s' := by
  replace he := ends_getThe_bind.mp he
  split at he
  · rename_i h
    cases he
    exact .inserted h
  · rename_i h
    obtain ⟨rfl, rfl⟩ := ends_throw.mp he
    exact .refused h

/-- The ways in which a record is moved, or not. -/
inductive Updates (id : Uuid) (u : StatusUpdate) (now : Instant) (s : MemoryStore) :
    Except Fault Record → MemoryStore → Prop where
  | moved {x : Record} {s' : MemoryStore} (h : s.updateStatus id u now = .ok (x, s')) :
      Updates id u now s (.ok x) s'
  | refused {e : Fault} (h : s.updateStatus id u now = .error e) : Updates id u now s (.error e) s

theorem Updates.ok (h : Updates id u now s (.ok x) s') :
    s.updateStatus id u now = .ok (x, s') := by
  cases h with
  | moved h => exact h

theorem Updates.error {e : Fault} (h : Updates id u now s (.error e) s') :
    s.updateStatus id u now = .error e ∧ s' = s := by
  cases h with
  | refused h => exact ⟨h, rfl⟩

theorem updateStatus_cases {y : Except Fault Record}
    (he : Ends (updateStatusAction id u now) s y s') : Updates id u now s y s' := by
  replace he := ends_getThe_bind.mp he
  split at he
  · rename_i h
    cases he
    exact .moved h
  · rename_i h
    obtain ⟨rfl, rfl⟩ := ends_throw.mp he
    exact .refused h

theorem get_cases {y : Except Fault Record} (he : Ends (getAction id) s y s') :
    y = s.get id ∧ s' = s := by
  replace he := ends_getThe_bind.mp he
  split at he
  · rename_i h
    obtain ⟨rfl, rfl⟩ := ends_pure.mp he
    exact ⟨h.symm, rfl⟩
  · rename_i h
    obtain ⟨rfl, rfl⟩ := ends_throw.mp he
    exact ⟨h.symm, rfl⟩

theorem list_cases {f : Filter} {y : Except Fault (List Record)}
    (he : Ends (listAction f) s y s') : s' = s := by
  replace he := ends_getThe_bind.mp he
  exact (ends_pure.mp he).2

theorem ends_insertAction (h : s.insert r = .ok s') : Ends (insertAction r) s (.ok r) s' := by
  refine ends_getThe_bind.mpr ?_
  rw [h]
  exact ends_set_bind.mpr (ends_pure.mpr ⟨rfl, rfl⟩)

theorem ends_insertAction_error {e : Fault} (h : s.insert r = .error e) :
    Ends (insertAction r) s (.error e) s := by
  refine ends_getThe_bind.mpr ?_
  rw [h]
  exact ends_throw.mpr ⟨rfl, rfl⟩

theorem ends_getAction (s : MemoryStore) (id : Uuid) : Ends (getAction id) s (s.get id) s := by
  refine ends_getThe_bind.mpr ?_
  cases s.get id with
  | ok r => exact ends_pure.mpr ⟨rfl, rfl⟩
  | error e => exact ends_throw.mpr ⟨rfl, rfl⟩

theorem ends_listAction (s : MemoryStore) (f : Filter) :
    Ends (listAction f) s (.ok (s.list f)) s :=
  ends_getThe_bind.mpr (ends_pure.mpr ⟨rfl, rfl⟩)

theorem ends_updateStatusAction (h : s.updateStatus id u now = .ok (x, s')) :
    Ends (updateStatusAction id u now) s (.ok x) s' := by
  refine ends_getThe_bind.mpr ?_
  rw [h]
  exact ends_set_bind.mpr (ends_pure.mpr ⟨rfl, rfl⟩)

theorem ends_updateStatusAction_error {e : Fault} (h : s.updateStatus id u now = .error e) :
    Ends (updateStatusAction id u now) s (.error e) s := by
  refine ends_getThe_bind.mpr ?_
  rw [h]
  exact ends_throw.mpr ⟨rfl, rfl⟩

theorem get_ok (h : s.get id = .ok r) : s.find? id = some r := by
  unfold get at h
  split at h
  · rename_i hr
    cases h
    exact hr
  · cases h

section FailsIn

variable {P : Fault → Prop}

theorem failsIn_insertAction (h : P (.duplicateChangeset r.id)) : FailsIn P (insertAction r) := by
  refine .getThe_bind fun s => ?_
  split
  · exact .set_bind .pure
  · rename_i hi
    unfold insert at hi
    split at hi
    · cases hi
      exact .throw h
    · cases hi

theorem failsIn_getAction (h : P (.unknownChangeset id)) : FailsIn P (getAction id) := by
  refine .getThe_bind fun s => ?_
  split
  · exact .pure
  · rename_i hg
    unfold get at hg
    split at hg
    · cases hg
    · cases hg
      exact .throw h

theorem failsIn_listAction (f : Filter) : FailsIn P (listAction f) :=
  .getThe_bind fun _ => .pure

theorem failsIn_updateStatusAction (h : P (.unknownChangeset id))
    (hr : ∀ s, P (.invalidTransition id s u.status)) :
    FailsIn P (updateStatusAction id u now) := by
  refine .getThe_bind fun s => ?_
  split
  · exact .set_bind .pure
  · rename_i hu
    obtain ⟨_, rfl⟩ | ⟨x, _, rfl⟩ := updateStatus_error hu
    · exact .throw h
    · exact .throw (hr _)

end FailsIn

/-- A call that is never made, and does not answer as a refused update would. -/
inductive Lost {α : Type} (s : MemoryStore) : Except Fault α → MemoryStore → Prop where
  | lost {e : Fault} (h : ∀ i source target, e ≠ .invalidTransition i source target) :
      Lost s (.error e) s

theorem Lost.not_refusal {α : Type} {x : Except Fault α} {i : Uuid} {source target : Status}
    (h : Lost s x s') : x ≠ .error (.invalidTransition i source target) := by
  cases h with
  | lost h => exact fun he => h _ _ _ (Except.error.inj he)

theorem Lost.eq {α : Type} {x : Except Fault α} (h : Lost s x s') : s' = s := by
  cases h with
  | lost => rfl

end MemoryStore

/-- The records of a store in memory that is a part of a world. -/
def Archive.inMemory {σ : Type} (view : σ → MemoryStore) (Sound : σ → Prop) :
    Archive σ Record where
  Sound := Sound
  entry := fun w => (view w).find?
  status := fun r => some r.status
  ofRecord := fun r => r
  moved := fun u now r => r.moved u now
  status_ofRecord := fun _ => rfl
  status_moved := fun _ _ _ => rfl

/-- The records are kept in memory. A write of the store can be lost, and the executor writes at
most a status. -/
structure Backend.InMemory {σ : Type} (b : Backend σ) (view : σ → MemoryStore) : Prop where
  insert {r x w w'} : Ends (b.insert r) w x w' →
    MemoryStore.Inserts r (view w) x (view w') ∨ MemoryStore.Lost (view w) x (view w')
  get {id x w w'} : Ends (b.get id) w x w' → x = (view w).get id ∧ view w' = view w
  list {f x w w'} : Ends (b.list f) w x w' → view w' = view w
  updateStatus {id u now x w w'} : Ends (b.updateStatus id u now) w x w' →
    MemoryStore.Updates id u now (view w) x (view w') ∨ MemoryStore.Lost (view w) x (view w')
  validate {statements x w w'} : Ends (b.validate statements) w x w' → view w' = view w
  apply {id now x w w'} : Ends (b.apply id now) w x w' →
    view w' = view w ∨ ∃ u r, (view w).updateStatus id u now = .ok (r, view w')
  revert {id now x w w'} : Ends (b.revert id now) w x w' →
    view w' = view w ∨ ∃ u r, (view w).updateStatus id u now = .ok (r, view w')

theorem Backend.detached_inMemory : Backend.detached.InMemory fun s => s where
  insert he := Or.inl (MemoryStore.insert_cases he)
  get he := MemoryStore.get_cases he
  list he := MemoryStore.list_cases he
  updateStatus he := Or.inl (MemoryStore.updateStatus_cases he)
  validate he := (ends_pure.mp he).2
  apply he := Or.inl (ends_pure.mp he).2
  revert he := Or.inl (ends_pure.mp he).2

/-- A store that did not take a record was not changed. -/
theorem Backend.InMemory.insert_error {σ : Type} {b : Backend σ} {view : σ → MemoryStore}
    {r : Record} {e : Fault} {w w' : σ} (h : b.InMemory view)
    (he : Ends (b.insert r) w (.error e) w') : view w' = view w := by
  obtain hi | hi := h.insert he
  · exact hi.error
  · exact hi.eq

/-- A store that did not move a record was not changed. -/
theorem Backend.InMemory.updateStatus_error {σ : Type} {b : Backend σ} {view : σ → MemoryStore}
    {id : Uuid} {u : StatusUpdate} {now : Instant} {e : Fault} {w w' : σ} (h : b.InMemory view)
    (he : Ends (b.updateStatus id u now) w (.error e) w') : view w' = view w := by
  obtain hu | hu := h.updateStatus he
  · exact hu.error.2
  · exact hu.eq

theorem Archive.inMemory_moved {σ : Type} {view : σ → MemoryStore} {Sound : σ → Prop} {w w' : σ}
    {id : Uuid} {u : StatusUpdate} {now : Instant} {r : Record}
    (h : (view w).updateStatus id u now = .ok (r, view w')) :
    (Archive.inMemory view Sound).Moved w id u now w' := by
  obtain ⟨x, hx, hc, -, he⟩ := MemoryStore.updateStatus_ok h
  exact ⟨x, x.status, hx, rfl, hc, he⟩

/-- Where records are kept in memory, all but the executor does what it answers. -/
theorem Backend.InMemory.storing {σ : Type} {b : Backend σ} {view : σ → MemoryStore}
    {Sound : σ → Prop} (h : b.InMemory view) (hs : b.Keeps Sound) :
    Storing b (.inMemory view Sound) := by
  constructor
  case sound => exact hs
  case insert_ok =>
    intro r y w w' _ he
    obtain hi | hi := h.insert he
    · exact MemoryStore.find?_insert hi.ok
    · cases hi
  case insert_error =>
    intro r e w w' _ he
    exact congrArg MemoryStore.find? (h.insert_error he)
  case get =>
    intro id x w w' _ he
    exact congrArg MemoryStore.find? (h.get he).2
  case get_ok =>
    intro id r w w' _ he
    exact congrArg (Option.bind · _) (MemoryStore.get_ok (h.get he).1.symm)
  case list =>
    intro f x w w' _ he
    exact congrArg MemoryStore.find? (h.list he)
  case updateStatus_ok =>
    intro id u now r w w' _ he
    obtain hu | hu := h.updateStatus he
    · exact Archive.inMemory_moved hu.ok
    · cases hu
  case updateStatus_error =>
    intro id u now e w w' _ he
    exact congrArg MemoryStore.find? (h.updateStatus_error he)
  case updateStatus_refused =>
    intro id u now i s t w w' _ he
    obtain hu | hu := h.updateStatus he
    · obtain ⟨_, hx⟩ | ⟨r, hf, hx⟩ := MemoryStore.updateStatus_error hu.error.1
      · cases hx
      · cases hx
        exact congrArg (Option.bind · _) hf
    · exact (hu.not_refusal rfl).elim
  case validate =>
    intro statements x w w' _ he
    exact congrArg MemoryStore.find? (h.validate he)

/-- A validated changeset with one statement each way. -/
def Record.oneTable : Record where
  sql := ["create table notes()"]
  rollbackSql := ["drop table notes"]
  status := .validated

/-- A store with one validated changeset. -/
def MemoryStore.oneValidated : MemoryStore :=
  ⟨[.oneTable]⟩

theorem Archive.unexecuted_oneValidated {σ : Type} {view : σ → MemoryStore} {Sound : σ → Prop}
    {w : σ} (h : view w = .oneValidated) : (Archive.inMemory view Sound).Unexecuted w := by
  intro id x hx
  replace hx : (view w).records.find? (·.id == id) = some x := hx
  rw [h] at hx
  obtain rfl := List.mem_singleton.mp (List.mem_of_find?_eq_some hx)
  exact ⟨_, rfl, Or.inr (Or.inl rfl)⟩

end Evolution
