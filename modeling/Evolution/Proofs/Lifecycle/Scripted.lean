import Evolution.Lifecycle.Scripted
import Evolution.Proofs.Store.Memory

/-! A scripted backend keeps its records in memory, and it is honest as long as its script is. -/
namespace Evolution

open Evolution.Action
open Time (Instant)

namespace Script

variable {v w w' : Script} {id : Uuid} {u : StatusUpdate} {now : Instant} {target : Status}

theorem ends_inStore {α : Type} {a : Action MemoryStore α} {x : Except Fault α} :
    Ends (inStore a) w x w' ↔ ∃ s, Ends a w.store x s ∧ w' = { w with store := s } :=
  ends_liftPart

/-- A failure has not stored the status, and a success that says so has. -/
def IsTruthful : Except Fault ScriptedOutcome → Prop
  | .ok s => if s.outcome.ok then s.outcome.statusRecorded → s.writesStatus else !s.writesStatus
  | .error _ => True

/-- All answers that the executor is still to give are honest. -/
structure Truthful (w : Script) : Prop where
  applies : ∀ a ∈ w.applies, IsTruthful a
  reverts : ∀ a ∈ w.reverts, IsTruthful a

/-- No answers are left but some of those that there were. -/
structure Draws (w w' : Script) : Prop where
  applies : w'.applies ⊆ w.applies
  reverts : w'.reverts ⊆ w.reverts

theorem Draws.truthful (h : Draws w w') (hw : w.Truthful) : w'.Truthful :=
  ⟨fun a ha => hw.applies a (h.applies ha), fun a ha => hw.reverts a (h.reverts ha)⟩

theorem draws_of_eq (ha : w'.applies = w.applies) (hr : w'.reverts = w.reverts) : Draws w w' :=
  ⟨fun _ h => ha ▸ h, fun _ h => hr ▸ h⟩

theorem insert_cases {r : Record} {x : Except Fault Record} (he : Ends (insert r) w x w') :
    (MemoryStore.Inserts r w.store x w'.store ∨ MemoryStore.Lost w.store x w'.store) ∧
      Draws w w' := by
  replace he := ends_getThe_bind.mp he
  split at he
  · obtain ⟨s, hs, rfl⟩ := ends_inStore.mp he
    exact ⟨Or.inl (MemoryStore.insert_cases hs), draws_of_eq rfl rfl⟩
  · cases he
    exact ⟨Or.inr (.lost (by rintro _ _ _ ⟨⟩)), draws_of_eq rfl rfl⟩

theorem updateStatus_cases {x : Except Fault Record} (he : Ends (updateStatus id u now) w x w') :
    (MemoryStore.Updates id u now w.store x w'.store ∨ MemoryStore.Lost w.store x w'.store) ∧
      Draws w w' := by
  replace he := ends_getThe_bind.mp he
  split at he
  · obtain ⟨s, hs, rfl⟩ := ends_inStore.mp he
    exact ⟨Or.inl (MemoryStore.updateStatus_cases hs), draws_of_eq rfl rfl⟩
  · cases he
    exact ⟨Or.inr (.lost (by rintro _ _ _ ⟨⟩)), draws_of_eq rfl rfl⟩

theorem validate_cases (statements : List String) {x : Except Fault Report}
    (he : Ends (validate statements) w x w') : w'.store = w.store ∧ Draws w w' := by
  replace he := ends_getThe_bind.mp (ends_modify_bind.mp he)
  split at he
  · cases he
    exact ⟨rfl, draws_of_eq rfl rfl⟩
  · cases he
    exact ⟨rfl, draws_of_eq rfl rfl⟩

/-- The ways in which a scripted answer is given. -/
inductive Answers (id : Uuid) (target : Status) (now : Instant) (w : Script) :
    Except Fault ScriptedOutcome → Except Fault Outcome → Script → Prop where
  | raised {e : Fault} : Answers id target now w (.error e) (.error e) w
  | plain {s : ScriptedOutcome} (hs : s.writesStatus = false) :
      Answers id target now w (.ok s) (.ok s.outcome) w
  | writing {s : ScriptedOutcome} {r : Record} {store : MemoryStore} (hs : s.writesStatus = true)
      (hu : w.store.updateStatus id { status := target } now = .ok (r, store)) :
      Answers id target now w (.ok s) (.ok s.outcome) { w with store }
  | unable {s : ScriptedOutcome} {e : Fault} :
      Answers id target now w (.ok s) (.error e) w

theorem answer_cases {a : Except Fault ScriptedOutcome} {x : Except Fault Outcome}
    (he : Ends (answer id target now a) w x w') : Answers id target now w a x w' := by
  obtain ⟨s, _, hm, hn⟩ | ⟨e, hm, rfl⟩ := ends_bind.mp he
  · obtain ⟨rfl, rfl⟩ := ends_mk.mp hm
    split at hn
    · rename_i hs
      obtain ⟨_, _, hi, hp⟩ | ⟨e, hi, rfl⟩ := ends_bind.mp hn
      · obtain ⟨store, hu, rfl⟩ := ends_inStore.mp hi
        obtain ⟨rfl, rfl⟩ := ends_pure.mp hp
        exact .writing hs (MemoryStore.updateStatus_cases hu).ok
      · obtain ⟨store, hu, rfl⟩ := ends_inStore.mp hi
        obtain rfl := (MemoryStore.updateStatus_cases hu).error.2
        exact .unable
    · rename_i hs
      obtain ⟨rfl, rfl⟩ := ends_pure.mp hn
      exact .plain (by simpa using hs)
  · obtain ⟨rfl, rfl⟩ := ends_mk.mp hm
    exact .raised

/-- The ways in which the executor answers: with a success when the script says nothing, and else as
scripted. -/
inductive Plays (id : Uuid) (target : Status) (now : Instant)
    (queue : List (Except Fault ScriptedOutcome)) (w : Script) :
    Except Fault Outcome → Script → Prop where
  | unscripted {v : Script} (hv : v.store = w.store) (hd : Draws w v) :
      Plays id target now queue w (.ok .success) v
  | scripted {a x} {v w' : Script} (ha : a ∈ queue) (hp : Answers id target now v a x w')
      (hv : v.store = w.store) (hd : Draws w v) : Plays id target now queue w x w'

theorem apply_cases {x : Except Fault Outcome} (he : Ends (apply id now) w x w') :
    Plays id .applied now w.applies w x w' := by
  replace he := ends_getThe_bind.mp (ends_modify_bind.mp he)
  split at he
  · obtain ⟨rfl, rfl⟩ := ends_pure.mp he
    exact .unscripted rfl (draws_of_eq rfl rfl)
  · rename_i a rest hq
    replace hq : w.applies = a :: rest := hq
    have hp := answer_cases (ends_set_bind.mp he)
    refine .scripted ?_ hp rfl ⟨?_, List.Subset.refl _⟩
    · exact hq ▸ List.mem_cons_self
    · rw [hq]
      exact List.subset_cons_self a rest

theorem revert_cases {x : Except Fault Outcome} (he : Ends (revert id now) w x w') :
    Plays id .reverted now w.reverts w x w' := by
  replace he := ends_getThe_bind.mp (ends_modify_bind.mp he)
  split at he
  · obtain ⟨rfl, rfl⟩ := ends_pure.mp he
    exact .unscripted rfl (draws_of_eq rfl rfl)
  · rename_i a rest hq
    replace hq : w.reverts = a :: rest := hq
    have hp := answer_cases (ends_set_bind.mp he)
    refine .scripted ?_ hp rfl ⟨List.Subset.refl _, ?_⟩
    · exact hq ▸ List.mem_cons_self
    · rw [hq]
      exact List.subset_cons_self a rest

section Plays

variable {queue : List (Except Fault ScriptedOutcome)} {x : Except Fault Outcome}

theorem Answers.draws {a : Except Fault ScriptedOutcome} (h : Answers id target now w a x w') :
    Draws w w' := by
  cases h <;> exact draws_of_eq rfl rfl

theorem Plays.draws (h : Plays id target now queue w x w') : Draws w w' := by
  cases h with
  | unscripted _ hd => exact hd
  | scripted _ hp _ hd =>
    exact ⟨List.Subset.trans hp.draws.applies hd.applies,
      List.Subset.trans hp.draws.reverts hd.reverts⟩

/-- At most a status is written. -/
theorem Plays.store (h : Plays id target now queue w x w') :
    w'.store = w.store ∨ ∃ u r, w.store.updateStatus id u now = .ok (r, w'.store) := by
  cases h with
  | unscripted hv => exact Or.inl hv
  | scripted _ hp hv =>
    cases hp with
    | raised => exact Or.inl hv
    | plain => exact Or.inl hv
    | writing _ hu => exact Or.inr ⟨_, _, hv ▸ hu⟩
    | unable => exact Or.inl hv

theorem Plays.ran {Sound : Script → Prop} (h : Plays id target now queue w x w')
    (hq : ∀ a ∈ queue, IsTruthful a) :
    (Archive.inMemory Script.store Sound).Ran w id target w' x := by
  cases h with
  | unscripted hv => exact .unmoved rfl rfl (congrArg MemoryStore.find? hv)
  | scripted ha hp hv =>
    have ht := hq _ ha
    cases hp with
    | raised => exact .raised (congrArg MemoryStore.find? hv)
    | unable => exact .raised (congrArg MemoryStore.find? hv)
    | @plain s hs =>
      cases ho : s.outcome.ok with
      | false => exact .refused ho (congrArg MemoryStore.find? hv)
      | true =>
        have hr : s.outcome.statusRecorded = false := by simpa [IsTruthful, ho, hs] using ht
        exact .unmoved ho hr (congrArg MemoryStore.find? hv)
    | @writing s _ _ hs hu =>
      have ho : s.outcome.ok = true := by
        by_contra ho
        simp [IsTruthful, ho, hs] at ht
      exact .moved ho (Archive.inMemory_moved (hv ▸ hu))

end Plays
end Script

theorem Backend.scripted_inMemory : Backend.scripted.InMemory Script.store where
  insert he := (Script.insert_cases he).1
  get he := by
    obtain ⟨s, hs, rfl⟩ := Script.ends_inStore.mp he
    exact MemoryStore.get_cases hs
  list {f _ _ _} he := by
    replace he : Ends (Script.inStore (MemoryStore.listAction f)) _ _ _ := he
    obtain ⟨s, hs, rfl⟩ := Script.ends_inStore.mp he
    exact MemoryStore.list_cases hs
  updateStatus he := (Script.updateStatus_cases he).1
  validate {statements _ _ _} he := (Script.validate_cases statements he).1
  apply he := (Script.apply_cases he).store
  revert he := (Script.revert_cases he).store

theorem Backend.scripted_keeps_truthful : Backend.scripted.Keeps Script.Truthful where
  insert hw he := (Script.insert_cases he).2.truthful hw
  get hw he := by
    obtain ⟨s, -, rfl⟩ := Script.ends_inStore.mp he
    exact ⟨hw.applies, hw.reverts⟩
  list {f _ _ _} hw he := by
    replace he : Ends (Script.inStore (MemoryStore.listAction f)) _ _ _ := he
    obtain ⟨s, -, rfl⟩ := Script.ends_inStore.mp he
    exact ⟨hw.applies, hw.reverts⟩
  updateStatus hw he := (Script.updateStatus_cases he).2.truthful hw
  validate {statements _ _ _} hw he := (Script.validate_cases statements he).2.truthful hw
  apply hw he := (Script.apply_cases he).draws.truthful hw
  revert hw he := (Script.revert_cases he).draws.truthful hw

theorem Backend.scripted_honest :
    Honest Backend.scripted (.inMemory Script.store Script.Truthful) where
  toStoring := scripted_inMemory.storing scripted_keeps_truthful
  apply hw _ he := (Script.apply_cases he).ran hw.applies
  revert hw _ he := (Script.revert_cases he).ran hw.reverts

end Evolution
