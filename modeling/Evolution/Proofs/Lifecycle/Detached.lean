import Evolution.Proofs.Lifecycle.Page
import Evolution.Proofs.Store.Memory
import Mathlib.Data.List.Nodup

/-! A manager with its records in memory and no database. Every check passes and nothing can be run,
so each operation fails without a trace or does its one part to the records. -/
namespace Evolution

open Evolution.Action
open Time (Instant)

theorem Status.not_isRun {s : Status} (h : s = .draft ∨ s = .validated ∨ s = .failed) :
    ¬ s.IsRun := by
  rcases h with rfl | rfl | rfl <;> rintro (h | h) <;> cases h

namespace MemoryStore

/-- One more record, with an identifier that none had before. -/
def Gains (id : Uuid) (s s' : MemoryStore) : Prop :=
  ∃ r, r.id = id ∧ ¬ r.status.IsRun ∧ (∀ x ∈ s.records, x.id ≠ id) ∧ s'.records = s.records ++ [r]

/-- The one record with this identifier stands at another status, with another error text, report
and time, and is otherwise as it was. -/
def MovesOn (id : Uuid) (now : Instant) (s s' : MemoryStore) : Prop :=
  ∃ front r back status errorText report, s.records = front ++ r :: back ∧ r.id = id ∧
    (∀ x ∈ front ++ back, x.id ≠ id) ∧ r.status.canMoveTo status = true ∧ ¬ status.IsRun ∧
    s'.records = front ++ { r with status, errorText, report, updatedAt := now } :: back

variable {s s' : MemoryStore} {r x : Record} {id : Uuid} {u : StatusUpdate} {now : Instant}

theorem records_insert (h : s.insert r = .ok s') :
    (∀ x ∈ s.records, x.id ≠ r.id) ∧ s'.records = s.records ++ [r] := by
  have hn := (find?_insert h).1
  unfold insert at h
  rw [hn] at h
  cases h
  refine ⟨fun x hx he => ?_, rfl⟩
  exact absurd (beq_iff_eq.mpr he) (List.find?_eq_none.mp hn x hx)

theorem gains_of_insert (h : s.insert r = .ok s') (hr : ¬ r.status.IsRun) : s.Gains r.id s' := by
  obtain ⟨hn, hs⟩ := records_insert h
  exact ⟨r, rfl, hr, hn, hs⟩

/-- Identifiers stay distinct where a record gets one that is not there. -/
theorem nodup_ids_append (rs : List Record) (r : Record) :
    ((rs ++ [r]).map Record.id).Nodup ↔
      (∀ x ∈ rs, x.id ≠ r.id) ∧ (rs.map Record.id).Nodup := by
  rw [List.map_append, List.map_singleton, ← List.concat_eq_append, List.nodup_concat]
  simp only [List.mem_map, not_exists, not_and, ne_eq]

theorem records_updateStatus (hr : s.find? id = some r)
    (h : s.updateStatus id u now = .ok (x, s')) :
    s'.records = s.records.map fun y => if y.id == id then r.moved u now else y := by
  unfold updateStatus get at h
  simp only [hr, bind, Except.bind] at h
  split at h
  · cases h
    rfl
  · cases h

theorem movesOn_of_updateStatus (hd : (s.records.map Record.id).Nodup)
    (h : s.updateStatus id u now = .ok (x, s')) (hu : ¬ u.status.IsRun) : s.MovesOn id now s' := by
  obtain ⟨r, hr, hc, -⟩ := updateStatus_ok h
  have hrecords := records_updateStatus hr h
  obtain ⟨hid, front, back, hs, hfront⟩ := List.find?_eq_some_iff_append.mp hr
  obtain rfl : r.id = id := eq_of_beq hid
  -- the records behind it have other identifiers, since identifiers are distinct
  have hothers : ∀ y ∈ front ++ back, y.id ≠ r.id := by
    rw [hs, List.map_append, List.map_cons, List.nodup_middle, List.nodup_cons] at hd
    intro y hy he
    refine hd.1 (he ▸ ?_)
    rw [← List.map_append]
    exact List.mem_map_of_mem hy
  have hsame {ys : List Record} (hys : ∀ y ∈ ys, y.id ≠ r.id) :
      (ys.map fun y => if y.id == r.id then r.moved u now else y) = ys := by
    refine (List.map_congr_left fun y hy => ?_).trans (List.map_id _)
    exact if_neg (by simpa using hys y hy)
  refine ⟨front, r, back, u.status, u.errorText, u.report <|> r.report, hs, rfl, hothers, hc, hu,
    ?_⟩
  rw [hrecords, hs, List.map_append, List.map_cons,
    hsame fun y hy => hothers y (List.mem_append_left _ hy),
    hsame fun y hy => hothers y (List.mem_append_right _ hy), if_pos hid]
  rfl

end MemoryStore

/-- No status is pending, identifiers are distinct, and no statements have been run. -/
structure Manager.Calm (m : Manager MemoryStore) : Prop where
  settled : m.pending = []
  distinct : (m.world.records.map Record.id).Nodup
  unexecuted : ∀ r ∈ m.world.records, ¬ r.status.IsRun

/-- What an operation does to the records when it succeeds. -/
def Operation.Changes : Operation → MemoryStore → MemoryStore → Prop
  | createDraft _ _ stamp, s, s' | saveDraft _ _ stamp, s, s' => s.Gains stamp.id s'
  | validate id now, s, s' | abandon id _ now, s, s' => s.MovesOn id now s'
  | _, s, s' => s' = s

/-- An operation has failed without a trace, or has done its part. -/
inductive Operation.Ended (op : Operation) (m : Manager MemoryStore) :
    Except Fault Answer → Manager MemoryStore → Prop where
  | failed {e : Fault} : Ended op m (.error e) m
  | done {y : Answer} {s : MemoryStore} (h : op.Changes m.world s) :
      Ended op m (.ok y) { m with world := s }

section Calm

variable {m m' : Manager MemoryStore} {s : MemoryStore} {id : Uuid} {now : Instant} {op : Operation}

theorem Manager.Calm.gains (hm : m.Calm) (h : m.world.Gains id s) : { m with world := s }.Calm := by
  obtain ⟨r, rfl, hr, hn, hs⟩ := h
  refine ⟨hm.settled, ?_, ?_⟩
  · rw [hs]
    exact (MemoryStore.nodup_ids_append _ _).mpr ⟨hn, hm.distinct⟩
  · rw [hs]
    exact List.forall_mem_append.mpr ⟨hm.unexecuted, List.forall_mem_singleton.mpr hr⟩

theorem Manager.Calm.movesOn (hm : m.Calm) (h : m.world.MovesOn id now s) :
    { m with world := s }.Calm := by
  obtain ⟨front, r, back, status, errorText, report, hw, -, -, -, hrun, hs⟩ := h
  refine ⟨hm.settled, ?_, ?_⟩
  · have hd := hm.distinct
    rw [hw] at hd
    rw [hs]
    simpa using hd
  · have hu := hm.unexecuted
    rw [hw] at hu
    rw [hs]
    obtain ⟨hfront, hrest⟩ := List.forall_mem_append.mp hu
    exact List.forall_mem_append.mpr
      ⟨hfront, List.forall_mem_cons.mpr ⟨hrun, (List.forall_mem_cons.mp hrest).2⟩⟩

theorem Operation.Ended.calm {x : Except Fault Answer} (hm : m.Calm) (h : op.Ended m x m') :
    m'.Calm := by
  cases h with
  | failed => exact hm
  | done h =>
    cases op with
    | createDraft | saveDraft => exact hm.gains h
    | validate | abandon => exact hm.movesOn h
    | _ =>
      cases h
      exact hm

end Calm

namespace Manager

variable {m m' : Manager MemoryStore} {id : Uuid} {now : Instant} {request : ChangeRequest}
  {createdBy : Option String} {stamp : Stamp}

/-- With nothing pending there is nothing to settle, and to look for a record changes nothing. -/
theorem Calm.prepares {α : Type} {isReady : Status → Bool} {target : Status}
    {rest : Record → Action (Manager MemoryStore) α} {x : Except Fault α} (hm : m.Calm)
    (hc : Prepares .detached id isReady target now rest m x m') :
    (∃ e, x = .error e ∧ m' = m) ∨ ∃ r, Ends (rest r) m x m' := by
  have settled {y : Except Fault Unit} {m₁ : Manager MemoryStore}
      (hs : Ends (settle .detached id now) m y m₁) : y = .ok () ∧ m₁ = m := by
    have hp : m.pendingStatus? id = none := by
      rw [pendingStatus?, hm.settled]
      rfl
    cases settle_cases hs with
    | idle => exact ⟨rfl, rfl⟩
    | stored h => cases hp.symm.trans h
    | known h => cases hp.symm.trans h
    | lost h => cases hp.symm.trans h
  have found {y : Except Fault Record} {m₁ : Manager MemoryStore}
      (hr : Ends (ready .detached id isReady target) m y m₁) : m₁ = m := by
    cases ready_cases hr with
    | missing hg | unready hg | ready hg =>
      obtain ⟨-, rfl⟩ := MemoryStore.get_cases hg
      rfl
  cases hc with
  | unsettled hs => cases (settled hs).1
  | unready hs hr =>
    obtain ⟨-, rfl⟩ := settled hs
    exact .inl ⟨_, rfl, found hr⟩
  | prepared hs hr he =>
    obtain ⟨-, rfl⟩ := settled hs
    obtain rfl := found hr
    exact .inr ⟨_, he⟩

/-- A record is moved, or nothing happens. -/
theorem Calm.updateStatus {u : StatusUpdate} {x : Except Fault Record} {s : MemoryStore}
    (hm : m.Calm) (hu : ¬ u.status.IsRun)
    (he : Ends (Backend.detached.updateStatus id u now) m.world x s) :
    (∃ e, x = .error e ∧ s = m.world) ∨ (∃ r, x = .ok r) ∧ m.world.MovesOn id now s := by
  cases MemoryStore.updateStatus_cases he with
  | moved h => exact .inr ⟨⟨_, rfl⟩, MemoryStore.movesOn_of_updateStatus hm.distinct h hu⟩
  | refused => exact .inl ⟨_, rfl, rfl⟩

/-- A new record is stored, or nothing happens. -/
theorem insert_detached {r : Record} {x : Except Fault Record} {s : MemoryStore} (hr : r.IsNew)
    (he : Ends (Backend.detached.insert r) m.world x s) :
    (∃ e, x = .error e ∧ s = m.world) ∨ (∃ y, x = .ok y) ∧ m.world.Gains r.id s := by
  cases MemoryStore.insert_cases he with
  | inserted h =>
    exact .inr ⟨⟨_, rfl⟩, MemoryStore.gains_of_insert h (Status.not_isRun hr.status)⟩
  | refused => exact .inl ⟨_, rfl, rfl⟩

/-- Statements are never run. -/
theorem runAndStore_detached {target : Status} {run : Action MemoryStore Outcome}
    {x : Except Fault Record} (hrun : run = pure noDatabase)
    (he : Ends (runAndStore .detached id target run now) m x m') : ∃ e, x = .error e ∧ m' = m := by
  subst hrun
  cases runAndStore_cases he with
  | raised ha => cases (ends_pure.mp ha).1
  | refused ha =>
    obtain ⟨-, rfl⟩ := ends_pure.mp ha
    exact ⟨_, rfl, rfl⟩
  | recorded ha ho | stored ha ho | lost ha ho =>
    cases (ends_pure.mp ha).1
    cases ho

end Manager

open Manager

/-- With records in memory and no database, an operation fails without a trace or does its part. -/
theorem Operation.act_detached {m m' : Manager MemoryStore} {op : Operation}
    {x : Except Fault Answer} (hm : m.Calm) (he : Ends (op.act .detached) m x m') :
    op.Ended m x m' := by
  cases op with
  | createDraft request createdBy stamp =>
    obtain ⟨y, hc, rfl⟩ := ends_bind_pure.mp he
    cases createDraft_cases hc with
    | rejected => exact .failed
    | unchecked _ hv => cases (ends_pure.mp hv).1
    | inserted _ hv hi =>
      obtain ⟨hr, rfl⟩ := ends_pure.mp hv
      cases hr
      obtain ⟨_, rfl, rfl⟩ | ⟨⟨_, rfl⟩, hg⟩ := insert_detached (.checked ..) hi
      · exact .failed
      · exact .done hg
  | saveDraft request createdBy stamp =>
    obtain ⟨y, hc, rfl⟩ := ends_bind_pure.mp he
    cases saveDraft_cases hc with
    | rejected => exact .failed
    | inserted _ hi =>
      obtain ⟨_, rfl, rfl⟩ | ⟨⟨_, rfl⟩, hg⟩ := insert_detached (.draft ..) hi
      · exact .failed
      · exact .done hg
  | preview =>
    obtain ⟨rfl, rfl⟩ := ends_pure.mp he
    exact .done rfl
  | get id =>
    obtain ⟨y, hc, rfl⟩ := ends_bind_pure.mp he
    obtain ⟨w, hg, rfl⟩ := ends_inWorld.mp hc
    obtain ⟨-, rfl⟩ := MemoryStore.get_cases hg
    cases y with
    | error => exact .failed
    | ok => exact .done rfl
  | list f =>
    obtain ⟨y, hc, rfl⟩ := ends_bind_pure.mp he
    obtain ⟨w, hl, rfl⟩ := ends_inWorld.mp hc
    obtain rfl := MemoryStore.list_cases hl
    cases y with
    | error => exact .failed
    | ok => exact .done rfl
  | validate id now =>
    obtain ⟨y, hc, rfl⟩ := ends_bind_pure.mp he
    obtain ⟨_, rfl, rfl⟩ | ⟨r, hr⟩ := hm.prepares (validate_cases hc)
    · exact .failed
    cases check_cases hr with
    | failed hv => cases (ends_pure.mp hv).1
    | reported hv hu =>
      obtain ⟨hreport, rfl⟩ := ends_pure.mp hv
      cases hreport
      have hrun : ¬ (updateOfReport skippedCheck).status.IsRun := Status.not_isRun (.inr (.inl rfl))
      obtain ⟨_, rfl, rfl⟩ | ⟨⟨_, rfl⟩, hmoved⟩ := hm.updateStatus hrun hu
      · exact .failed
      · exact .done hmoved
  | apply id now | revert id now =>
    obtain ⟨y, hc, rfl⟩ := ends_bind_pure.mp he
    obtain ⟨_, rfl, rfl⟩ | ⟨r, hr⟩ := hm.prepares (execute_cases hc)
    · exact .failed
    · obtain ⟨_, rfl, rfl⟩ := runAndStore_detached rfl hr
      exact .failed
  | abandon id reason now =>
    obtain ⟨y, hc, rfl⟩ := ends_bind_pure.mp he
    obtain ⟨_, rfl, rfl⟩ | ⟨r, hr⟩ := hm.prepares (abandon_cases hc)
    · exact .failed
    obtain ⟨w, hu, rfl⟩ := ends_inWorld.mp hr
    have hrun : ¬ Status.failed.IsRun := Status.not_isRun (.inr (.inr rfl))
    obtain ⟨_, rfl, rfl⟩ | ⟨⟨_, rfl⟩, hmoved⟩ := hm.updateStatus hrun hu
    · exact .failed
    · exact .done hmoved

end Evolution
