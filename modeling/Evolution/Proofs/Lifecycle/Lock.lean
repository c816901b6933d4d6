import Evolution.Lifecycle.Lock
import Mathlib.Data.List.Perm.Subperm

/-! At most one call works on a changeset at a time. A lock leaves the table only when nobody but
the call that removes it can have come for it, so that all who wait for a changeset wait for one
lock. -/
namespace Evolution.Lock

variable {n lock : Nat} {target : Fin n → Uuid} {s t : State n} {i j : Fin n} {id : Uuid}

/-- The lock that a call has come for, until it has looked who else refers to it. -/
def Stage.needs? : Stage → Option Nat
  | waiting lock => some lock
  | working lock => some lock
  | leaving lock => some lock
  | idle | lettingGo _ | finished => none

theorem Stage.lock?_of_needs? {stage : Stage} (h : stage.needs? = some lock) :
    stage.lock? = some lock := by
  cases stage <;> simp_all [needs?, lock?]

namespace State

section fields

@[simp]
theorem table_moveTo {stage : Stage} : (s.moveTo i stage).table = s.table := rfl

@[simp]
theorem stage_moveTo_self {stage : Stage} : (s.moveTo i stage).stage i = stage := if_pos rfl

theorem stage_moveTo_of_ne {stage : Stage} (h : j ≠ i) : (s.moveTo i stage).stage j = s.stage j :=
  if_neg h

@[simp]
theorem stage_setEntry {entry : Option Nat} : (s.setEntry id entry).stage = s.stage := rfl

@[simp]
theorem table_setEntry_self {entry : Option Nat} : (s.setEntry id entry).table id = entry :=
  if_pos rfl

theorem table_setEntry_of_ne {entry : Option Nat} {other : Uuid} (h : other ≠ id) :
    (s.setEntry id entry).table other = s.table other :=
  if_neg h

end fields

/-- What a step of a call can be. -/
inductive Step (s : State n) (id : Uuid) (i : Fin n) : State n → Prop where
  | found {lock : Nat} (hs : s.stage i = .idle) (ht : s.table id = some lock) :
      Step s id i (s.moveTo i (.waiting lock))
  | made (hs : s.stage i = .idle) (ht : s.table id = none) :
      Step s id i
        ({ s.setEntry id (some s.fresh) with fresh := s.fresh + 1 }.moveTo i (.waiting s.fresh))
  | taken {lock : Nat} (hs : s.stage i = .waiting lock) (hf : s.isFree lock = true) :
      Step s id i (s.moveTo i (.working lock))
  | givenBack {lock : Nat} (hs : s.stage i = .working lock) :
      Step s id i (s.moveTo i (.leaving lock))
  | removed {lock : Nat} (hs : s.stage i = .leaving lock) (hr : s.references id lock = 2) :
      Step s id i ((s.setEntry id none).moveTo i (.lettingGo lock))
  | kept {lock : Nat} (hs : s.stage i = .leaving lock) (hr : s.references id lock ≠ 2) :
      Step s id i (s.moveTo i (.lettingGo lock))
  | letGo {lock : Nat} (hs : s.stage i = .lettingGo lock) : Step s id i (s.moveTo i .finished)

theorem step_cases (h : s.step? id i = some t) : Step s id i t := by
  unfold step? at h
  split at h
  · rename_i hs
    split at h
    · rename_i lock ht
      cases h
      exact .found hs ht
    · rename_i ht
      cases h
      exact .made hs ht
  · rename_i lock hs
    split at h
    · rename_i hf
      cases h
      exact .taken hs hf
    · cases h
  · rename_i lock hs
    cases h
    exact .givenBack hs
  · rename_i lock hs
    cases h
    by_cases hr : s.references id lock = 2
    · rw [if_pos hr]
      exact .removed hs hr
    · rw [if_neg hr]
      exact .kept hs hr
  · rename_i lock hs
    cases h
    exact .letGo hs
  · cases h

theorem mem_holders : i ∈ s.holders lock ↔ (s.stage i).lock? = some lock := by
  simp [holders]

/-- Two calls and the table are more than two. -/
theorem references_ne_two (hij : i ≠ j) (hi : (s.stage i).lock? = some lock)
    (hj : (s.stage j).lock? = some lock) (ht : s.table id = some lock) :
    s.references id lock ≠ 2 := by
  have hnodup : [i, j].Nodup := by simpa using hij
  have hsub : [i, j] ⊆ s.holders lock := by
    intro k hk
    rcases List.mem_pair.mp hk with rfl | rfl
    · exact mem_holders.mpr hi
    · exact mem_holders.mpr hj
  have hlen : 2 ≤ (s.holders lock).length := (hnodup.subperm hsub).length_le
  rw [references, if_pos ht]
  omega

/-- What a call has come for is in the table, and nobody holds a lock together with another. -/
structure Sound (target : Fin n → Uuid) (s : State n) : Prop where
  entry : ∀ i lock, (s.stage i).needs? = some lock → s.table (target i) = some lock
  alone : ∀ i j lock, s.stage i = .working lock → s.stage j = .working lock → i = j

theorem sound_initial : Sound target initial :=
  ⟨nofun, nofun⟩

/-- A call that moves on needs nothing but what the table has for it, and takes only what is
free. -/
theorem Sound.moveTo {stage : Stage} (h : s.Sound target)
    (hn : ∀ lock, stage.needs? = some lock → s.table (target i) = some lock)
    (hw : ∀ lock, stage = .working lock → s.isFree lock = true) :
    (s.moveTo i stage).Sound target := by
  constructor
  · intro j lock hj
    by_cases hji : j = i
    · subst hji
      rw [stage_moveTo_self] at hj
      exact hn lock hj
    · rw [stage_moveTo_of_ne hji] at hj
      exact h.entry j lock hj
  · have hfree {k : Fin n} {lock : Nat} (hs : stage = .working lock) :
        s.stage k ≠ .working lock := by
      have hall := List.all_eq_true.mp (hw lock hs) k (List.mem_finRange k)
      simpa using hall
    intro j k lock hj hk
    by_cases hji : j = i
    · by_cases hki : k = i
      · rw [hji, hki]
      · subst hji
        rw [stage_moveTo_self] at hj
        rw [stage_moveTo_of_ne hki] at hk
        exact (hfree hj hk).elim
    · rw [stage_moveTo_of_ne hji] at hj
      by_cases hki : k = i
      · subst hki
        rw [stage_moveTo_self] at hk
        exact (hfree hk hj).elim
      · rw [stage_moveTo_of_ne hki] at hk
        exact h.alone j k lock hj hk

/-- An entry may change where no call has come for it. -/
theorem Sound.setEntry {entry : Option Nat} (h : s.Sound target)
    (hn : ∀ j, target j = id → (s.stage j).needs? = none) : (s.setEntry id entry).Sound target := by
  constructor
  · intro j lock hj
    by_cases hid : target j = id
    · cases (hn j hid).symm.trans hj
    · rw [table_setEntry_of_ne hid]
      exact h.entry j lock hj
  · exact h.alone

theorem Sound.step (h : s.Sound target) (hs : Step s (target i) i t) : t.Sound target := by
  cases hs with
  | @found lock hs ht =>
    refine h.moveTo ?_ nofun
    rintro _ ⟨⟩
    exact ht
  | made hs ht =>
    have hnobody (j : Fin n) (hj : target j = target i) : (s.stage j).needs? = none := by
      rw [Option.eq_none_iff_forall_ne_some]
      intro lock hn
      have hentry := h.entry j lock hn
      rw [hj, ht] at hentry
      cases hentry
    have hset : (s.setEntry (target i) (some s.fresh)).Sound target := h.setEntry hnobody
    have hmade : State.Sound target
        { s.setEntry (target i) (some s.fresh) with fresh := s.fresh + 1 } :=
      ⟨hset.entry, hset.alone⟩
    refine hmade.moveTo ?_ nofun
    rintro _ ⟨⟩
    exact table_setEntry_self
  | @taken lock hs hf =>
    refine h.moveTo ?_ ?_
    · rintro _ ⟨⟩
      exact h.entry i lock (by rw [hs]; rfl)
    · rintro _ ⟨⟩
      exact hf
  | @givenBack lock hs =>
    refine h.moveTo ?_ nofun
    rintro _ ⟨⟩
    exact h.entry i lock (by rw [hs]; rfl)
  | @removed lock hs hr =>
    -- The call has let go of its claim before the entry goes.
    have hmoved : (s.moveTo i (.lettingGo lock)).Sound target := h.moveTo nofun nofun
    refine hmoved.setEntry ?_
    intro j hj
    by_cases hji : j = i
    · rw [hji, stage_moveTo_self]
      rfl
    · rw [stage_moveTo_of_ne hji, Option.eq_none_iff_forall_ne_some]
      intro lock' hn
      have hi : s.table (target i) = some lock := h.entry i lock (by rw [hs]; rfl)
      have hother : s.table (target i) = some lock' := hj ▸ h.entry j lock' hn
      obtain rfl : lock = lock' := Option.some.inj (hi.symm.trans hother)
      exact references_ne_two (Ne.symm hji) (by rw [hs]; rfl) (Stage.lock?_of_needs? hn) hi hr
  | kept => exact h.moveTo nofun nofun
  | letGo => exact h.moveTo nofun nofun

theorem Sound.reachable (h : Reachable target s) : s.Sound target := by
  induction h with
  | initial => exact sound_initial
  | step _ hs ih => exact ih.step (step_cases hs)

/-- A call takes a step if it can. -/
def turn (target : Fin n → Uuid) (s : State n) (i : Fin n) : State n :=
  (s.step? (target i) i).getD s

/-- The calls have had their turns in this order. -/
def run (target : Fin n → Uuid) (order : List (Fin n)) (s : State n) : State n :=
  order.foldl (turn target) s

end State

theorem Reachable.turn (h : Reachable target s) (i : Fin n) :
    Reachable target (s.turn target i) := by
  unfold State.turn
  cases ht : s.step? (target i) i with
  | none => exact h
  | some t => exact h.step ht

theorem Reachable.run (h : Reachable target s) (order : List (Fin n)) :
    Reachable target (s.run target order) := by
  induction order generalizing s with
  | nil => exact h
  | cons i order ih => exact ih (h.turn i)

/-- However their steps fall, no two calls on one changeset work at once. Whoever waits or works has
its lock in the table, and this lock is what a call that comes later gets, whatever has been removed
meanwhile. -/
theorem calls_take_turns (h : Reachable target s) :
    (∀ i j lock lock', target i = target j → s.stage i = .working lock →
      s.stage j = .working lock' → i = j) ∧
    (∀ i lock, s.stage i = .waiting lock ∨ s.stage i = .working lock →
      s.table (target i) = some lock) ∧
    ∀ i j lock t, target i = target j →
      s.stage i = .waiting lock ∨ s.stage i = .working lock → s.stage j = .idle →
      s.step? (target j) j = some t → t.stage j = .waiting lock := by
  have hsound := State.Sound.reachable h
  have hentry (i : Fin n) (lock : Nat)
      (hi : s.stage i = .waiting lock ∨ s.stage i = .working lock) :
      s.table (target i) = some lock := by
    refine hsound.entry i lock ?_
    obtain hi | hi := hi <;> rw [hi] <;> rfl
  refine ⟨?_, hentry, ?_⟩
  · intro i j lock lock' hij hi hj
    have hlock : s.table (target i) = some lock := hentry i lock (.inr hi)
    have hlock' : s.table (target i) = some lock' := hij ▸ hentry j lock' (.inr hj)
    obtain rfl : lock = lock' := Option.some.inj (hlock.symm.trans hlock')
    exact hsound.alone i j lock hi hj
  · intro i j lock t hij hi hj ht
    have hlock : s.table (target j) = some lock := hij ▸ hentry i lock hi
    rw [State.step?, hj] at ht
    simp only [hlock] at ht
    cases ht
    exact State.stage_moveTo_self

/-- The first of three calls on one changeset has removed its lock, and has not yet let go of it
when the second one comes, which works with another lock; for this the third one waits. -/
def handedOn : State 3 :=
  State.initial.run (fun _ => ⟨1⟩) [0, 0, 0, 0, 1, 1, 2]

theorem calls_take_turns_handedOn :
    handedOn.stage 0 = .lettingGo 0 ∧ handedOn.stage 1 = .working 1 ∧
      handedOn.stage 2 = .waiting 1 ∧ handedOn.table ⟨1⟩ = some 1 ∧
      ∀ j lock, handedOn.stage j = .working lock → j = 1 := by
  have hleft : handedOn.stage 0 = .lettingGo 0 := by decide +kernel
  have hwork : handedOn.stage 1 = .working 1 := by decide +kernel
  have hwait : handedOn.stage 2 = .waiting 1 := by decide +kernel
  have hreachable : Reachable (fun _ : Fin 3 => ⟨1⟩) handedOn :=
    Reachable.run .initial [0, 0, 0, 0, 1, 1, 2]
  have h := calls_take_turns hreachable
  refine ⟨hleft, hwork, hwait, h.2.1 2 1 (.inl hwait), ?_⟩
  intro j lock hj
  exact h.1 j 1 lock 1 rfl hj hwork

end Evolution.Lock
