import Evolution.Proofs.Lifecycle.Lock

/-! What calls leave behind in the table of locks. Who looks also counts those who have looked
before and not yet let go. So the last call on a changeset may find that it is not alone, and then
nobody removes the entry until a call has the changeset to itself again. -/
namespace Evolution.Lock

variable {n lock : Nat} {target : Fin n → Uuid} {s t : State n} {i j : Fin n} {id : Uuid}

/-- The call has looked who else refers to its lock. -/
def Stage.hasLooked : Stage → Bool
  | lettingGo _ | finished => true
  | idle | waiting _ | working _ | leaving _ => false

theorem Stage.eq_of_hasLooked {stage : Stage} (h : stage.hasLooked = true) :
    (∃ lock, stage = .lettingGo lock) ∨ stage = .finished := by
  cases stage with
  | lettingGo lock => exact .inl ⟨lock, rfl⟩
  | finished => exact .inr rfl
  | _ => cases h

namespace State

section steps

/-- The others stay where they are. -/
theorem Step.stage_of_ne (h : Step s id i t) (hj : j ≠ i) : t.stage j = s.stage j := by
  cases h <;> exact stage_moveTo_of_ne hj

theorem Step.table_of_ne {other : Uuid} (h : Step s id i t) (ho : other ≠ id) :
    t.table other = s.table other := by
  cases h with
  | made | removed => exact table_setEntry_of_ne ho
  | _ => rfl

theorem turn_cases (target : Fin n → Uuid) (s : State n) (i : Fin n) :
    s.turn target i = s ∨ Step s (target i) i (s.turn target i) := by
  unfold State.turn
  cases ht : s.step? (target i) i with
  | none => exact .inl rfl
  | some t => exact .inr (step_cases ht)

/-- Only the table and the call itself refer to the lock where the references are two. -/
theorem references_eq_two_iff (hi : (s.stage i).lock? = some lock) (ht : s.table id = some lock) :
    s.references id lock = 2 ↔ ∀ j, (s.stage j).lock? = some lock → j = i := by
  constructor
  · intro h j hj
    by_contra hji
    exact references_ne_two hji hj hi ht h
  · intro h
    have hsub : s.holders lock ⊆ [i] := by
      intro j hj
      exact List.mem_singleton.mpr (h j (mem_holders.mp hj))
    have hnodup : (s.holders lock).Nodup := (List.nodup_finRange n).filter _
    have hle : (s.holders lock).length ≤ 1 := (hnodup.subperm hsub).length_le
    have hpos : 0 < (s.holders lock).length := List.length_pos_of_mem (mem_holders.mpr hi)
    rw [references, if_pos ht]
    omega

end steps

section owners

/-- The changeset has the lock: in the table, or through a call on it. -/
def Has (target : Fin n → Uuid) (s : State n) (id : Uuid) (lock : Nat) : Prop :=
  s.table id = some lock ∨ ∃ i, target i = id ∧ (s.stage i).lock? = some lock

/-- No two changesets have one lock, and all that there are have been made. -/
structure Apart (target : Fin n → Uuid) (s : State n) : Prop where
  made : ∀ id lock, s.Has target id lock → lock < s.fresh
  own : ∀ id other lock, s.Has target id lock → s.Has target other lock → id = other

theorem apart_initial : Apart target initial := by
  have hnothing (id : Uuid) (lock : Nat) : ¬ initial.Has target id lock := by
    rintro (h | ⟨i, -, h⟩) <;> cases h
  exact ⟨fun id lock h => (hnothing id lock h).elim, fun id _ lock h => (hnothing id lock h).elim⟩

theorem Apart.of_has (h : s.Apart target) (hf : t.fresh = s.fresh)
    (ht : ∀ id lock, t.Has target id lock → s.Has target id lock) : t.Apart target where
  made id lock hl := hf ▸ h.made id lock (ht id lock hl)
  own id other lock hl ho := h.own id other lock (ht id lock hl) (ht other lock ho)

/-- A call that moves on refers to nothing but what its changeset has. -/
theorem Apart.moveTo {stage : Stage} (h : s.Apart target)
    (hs : ∀ lock, stage.lock? = some lock → s.Has target (target i) lock) :
    (s.moveTo i stage).Apart target := by
  refine h.of_has rfl ?_
  rintro id lock (ht | ⟨j, rfl, hj⟩)
  · exact .inl ht
  · by_cases hji : j = i
    · rw [hji, stage_moveTo_self] at hj
      exact hji ▸ hs lock hj
    · rw [stage_moveTo_of_ne hji] at hj
      exact .inr ⟨j, rfl, hj⟩

theorem Apart.removed (h : s.Apart target) : (s.setEntry id none).Apart target := by
  refine h.of_has rfl ?_
  rintro other lock (ht | hc)
  · by_cases ho : other = id
    · rw [ho, table_setEntry_self] at ht
      cases ht
    · rw [table_setEntry_of_ne ho] at ht
      exact .inl ht
  · exact .inr hc

theorem Apart.made_new (h : s.Apart target) :
    State.Apart target { s.setEntry id (some s.fresh) with fresh := s.fresh + 1 } := by
  have hold (other : Uuid) (lock : Nat)
      (hl : State.Has target { s.setEntry id (some s.fresh) with fresh := s.fresh + 1 }
        other lock) : s.Has target other lock ∨ other = id ∧ lock = s.fresh := by
    rcases hl with ht | hc
    · replace ht : (s.setEntry id (some s.fresh)).table other = some lock := ht
      by_cases ho : other = id
      · rw [ho, table_setEntry_self] at ht
        exact .inr ⟨ho, (Option.some.inj ht).symm⟩
      · rw [table_setEntry_of_ne ho] at ht
        exact .inl (.inl ht)
    · exact .inl (.inr hc)
  constructor
  · intro other lock hl
    rcases hold other lock hl with hl | ⟨-, rfl⟩
    · exact Nat.lt_succ_of_lt (h.made other lock hl)
    · exact Nat.lt_succ_self _
  · intro other another lock ho ha
    rcases hold other lock ho with hl | ⟨rfl, hl⟩ <;>
      rcases hold another lock ha with hk | ⟨rfl, hk⟩
    · exact h.own other another lock hl hk
    · exact absurd (h.made other lock hl) (by omega)
    · exact absurd (h.made another lock hk) (by omega)
    · rfl

theorem Apart.step (h : s.Apart target) (hs : Step s (target i) i t) : t.Apart target := by
  have hown {lock : Nat} (hl : (s.stage i).lock? = some lock) : s.Has target (target i) lock :=
    .inr ⟨i, rfl, hl⟩
  cases hs with
  | @found lock hs ht =>
    refine h.moveTo ?_
    rintro _ ⟨⟩
    exact .inl ht
  | made hs ht =>
    refine h.made_new.moveTo ?_
    rintro _ ⟨⟩
    exact .inl table_setEntry_self
  | taken hs | givenBack hs | kept hs =>
    refine h.moveTo ?_
    rintro _ ⟨⟩
    exact hown (by rw [hs]; rfl)
  | removed hs hr =>
    refine h.removed.moveTo ?_
    rintro _ ⟨⟩
    exact .inr ⟨i, rfl, by rw [stage_setEntry, hs]; rfl⟩
  | letGo => exact h.moveTo nofun

theorem Apart.reachable (h : Reachable target s) : s.Apart target := by
  induction h with
  | initial => exact apart_initial
  | step _ hs ih => exact ih.step (step_cases hs)

/-- Who refers to the lock of a changeset is a call on it. -/
theorem Apart.target_eq (h : s.Apart target) (ht : s.table id = some lock)
    (hj : (s.stage j).lock? = some lock) : target j = id :=
  h.own _ _ lock (.inr ⟨j, rfl, hj⟩) (.inl ht)

end owners

section left

/-- The changeset has an entry, and all its calls have looked: none of them will remove it. -/
structure Left (target : Fin n → Uuid) (s : State n) (id : Uuid) : Prop where
  entry : s.table id ≠ none
  looked : ∀ j, target j = id → (s.stage j).hasLooked = true

/-- The last call on the changeset is about to look, while another one that has looked has not let
go of the lock. -/
structure LooksLast (target : Fin n → Uuid) (s : State n) (id : Uuid) (i : Fin n) : Prop where
  asks : target i = id
  last : ∀ j, j ≠ i → target j = id → (s.stage j).hasLooked = true
  crowded : ∃ lock j, s.stage i = .leaving lock ∧ s.stage j = .lettingGo lock

/-- What is left now was left before, or this call has looked last. -/
theorem Left.of_step (hsound : s.Sound target) (hapart : s.Apart target)
    (hs : Step s (target i) i t) (h : t.Left target id) :
    s.Left target id ∨ s.LooksLast target id i := by
  have hlast (j : Fin n) (hji : j ≠ i) (hj : target j = id) : (s.stage j).hasLooked = true :=
    hs.stage_of_ne hji ▸ h.looked j hj
  by_cases hi : target i = id
  · have hmoved := h.looked i hi
    cases hs with
    | found | made | taken | givenBack =>
      rw [stage_moveTo_self] at hmoved
      cases hmoved
    | removed =>
      refine absurd ?_ h.entry
      rw [table_moveTo, ← hi, table_setEntry_self]
    | @kept lock hs hr =>
      have hheld : (s.stage i).lock? = some lock := by rw [hs]; rfl
      have hentry : s.table (target i) = some lock := hsound.entry i lock (by rw [hs]; rfl)
      obtain ⟨j, hj, hji⟩ : ∃ j, (s.stage j).lock? = some lock ∧ j ≠ i := by
        by_contra hn
        refine hr ((references_eq_two_iff hheld hentry).mpr fun j hj => ?_)
        by_contra hji
        exact hn ⟨j, hj, hji⟩
      have hjid : target j = id := (hapart.target_eq hentry hj).trans hi
      refine .inr ⟨hi, hlast, lock, j, hs, ?_⟩
      rcases Stage.eq_of_hasLooked (hlast j hji hjid) with ⟨other, ho⟩ | hf
      · rw [ho] at hj ⊢
        cases hj
        rfl
      · rw [hf] at hj
        cases hj
    | letGo hs =>
      refine .inl ⟨h.entry, fun j hj => ?_⟩
      by_cases hji : j = i
      · rw [hji, hs]
        rfl
      · exact hlast j hji hj
  · have hentry := hs.table_of_ne (Ne.symm hi) ▸ h.entry
    exact .inl ⟨hentry, fun j hj => hlast j (fun hji => hi (hji ▸ hj)) hj⟩

/-- What is left stays: those who have looked only let go. -/
theorem Left.step (h : s.Left target id) (hs : Step s (target i) i t) : t.Left target id := by
  by_cases hi : target i = id
  · have hlooked := h.looked i hi
    cases hs with
    | letGo =>
      refine ⟨h.entry, fun j hj => ?_⟩
      by_cases hji : j = i
      · rw [hji, stage_moveTo_self]
        rfl
      · rw [stage_moveTo_of_ne hji]
        exact h.looked j hj
    | found hs | made hs | taken hs | givenBack hs | removed hs | kept hs =>
      rw [hs] at hlooked
      cases hlooked
  · constructor
    · rw [hs.table_of_ne (Ne.symm hi)]
      exact h.entry
    · intro j hj
      rw [hs.stage_of_ne fun hji => hi (hji ▸ hj)]
      exact h.looked j hj

/-- Who looks last and is not alone leaves the entry where it is. -/
theorem LooksLast.turn (hsound : s.Sound target) (hl : s.LooksLast target id i) :
    (s.turn target i).Left target id := by
  obtain ⟨lock, j, hi, hj⟩ := hl.crowded
  have hentry : s.table (target i) = some lock := hsound.entry i lock (by rw [hi]; rfl)
  have hij : i ≠ j := by
    rintro rfl
    cases hi.symm.trans hj
  have hkept : s.references (target i) lock ≠ 2 :=
    references_ne_two hij (by rw [hi]; rfl) (by rw [hj]; rfl) hentry
  have hturn : s.turn target i = s.moveTo i (.lettingGo lock) := by
    simp only [State.turn, step?, hi, if_neg hkept, Option.getD_some]
  rw [hturn]
  constructor
  · rw [table_moveTo, ← hl.asks, hentry]
    exact Option.some_ne_none lock
  · intro k hk
    by_cases hki : k = i
    · rw [hki, stage_moveTo_self]
      rfl
    · rw [stage_moveTo_of_ne hki]
      exact hl.last k hki hk

theorem left_turn_iff (h : Reachable target s) :
    (s.turn target i).Left target id ↔ s.Left target id ∨ s.LooksLast target id i := by
  have hsound := Sound.reachable h
  constructor
  · intro hl
    rcases turn_cases target s i with hsame | hs
    · exact .inl (hsame ▸ hl)
    · exact hl.of_step hsound (.reachable h) hs
  · rintro (hl | hl)
    · rcases turn_cases target s i with hsame | hs
      · exact hsame.symm ▸ hl
      · exact hl.step hs
    · exact hl.turn hsound

/-- An entry is left after a run where it was left before, or where in the run somebody looked last
and was not alone. -/
theorem left_run_iff (h : Reachable target s) (order : List (Fin n)) :
    (s.run target order).Left target id ↔ s.Left target id ∨
      ∃ before i after, order = before ++ i :: after ∧
        (s.run target before).LooksLast target id i := by
  induction order generalizing s with
  | nil => simp [run]
  | cons k order ih =>
    have hrun (before : List (Fin n)) :
        s.run target (k :: before) = (s.turn target k).run target before := rfl
    rw [hrun, ih (h.turn k), left_turn_iff h, or_assoc]
    refine or_congr_right ⟨?_, ?_⟩
    · rintro (hl | ⟨before, i, after, rfl, hl⟩)
      · exact ⟨[], k, order, rfl, hl⟩
      · exact ⟨k :: before, i, after, rfl, hl⟩
    · rintro ⟨before, i, after, ho, hl⟩
      cases before with
      | nil =>
        cases ho
        exact .inl hl
      | cons k before =>
        cases ho
        exact .inr ⟨before, i, after, rfl, hl⟩

end left

section alone

/-- All other calls on the changeset of this one have finished. -/
def IsAlone (target : Fin n → Uuid) (s : State n) (i : Fin n) : Prop :=
  ∀ j, j ≠ i → target j = target i → s.stage j = .finished

theorem IsAlone.turn (h : s.IsAlone target i) : (s.turn target i).IsAlone target i := by
  intro j hji hj
  rcases turn_cases target s i with hsame | hs
  · rw [hsame, h j hji hj]
  · rw [hs.stage_of_ne hji, h j hji hj]

/-- Nobody else refers to the lock of a call that is alone. -/
theorem IsAlone.eq_of_lock? (h : s.IsAlone target i) (hs : Reachable target s)
    (hi : (s.stage i).needs? = some lock) (hj : (s.stage j).lock? = some lock) : j = i := by
  by_contra hji
  have hentry : s.table (target i) = some lock := (Sound.reachable hs).entry i lock hi
  have hjid : target j = target i := (Apart.reachable hs).target_eq hentry hj
  rw [h j hji hjid] at hj
  cases hj

theorem exists_stage_turn_of_idle (target : Fin n → Uuid) (hi : s.stage i = .idle) :
    ∃ lock, (s.turn target i).stage i = .waiting lock := by
  unfold State.turn
  simp only [step?, hi]
  split <;> exact ⟨_, stage_moveTo_self⟩

theorem IsAlone.stage_turn_of_waiting (h : s.IsAlone target i) (hs : Reachable target s)
    (hi : s.stage i = .waiting lock) : (s.turn target i).stage i = .working lock := by
  have hfree : s.isFree lock = true := by
    refine List.all_eq_true.mpr fun j _ => ?_
    rw [bne_iff_ne]
    intro hj
    have hji : j = i := h.eq_of_lock? hs (by rw [hi]; rfl) (by rw [hj]; rfl)
    rw [hji, hi] at hj
    cases hj
  simp only [State.turn, step?, hi, hfree, if_true, Option.getD_some, stage_moveTo_self]

theorem stage_turn_of_working (target : Fin n → Uuid) (hi : s.stage i = .working lock) :
    (s.turn target i).stage i = .leaving lock := by
  simp only [State.turn, step?, hi, Option.getD_some, stage_moveTo_self]

/-- A call that is alone finds that it is, and removes the entry. -/
theorem IsAlone.turn_of_leaving (h : s.IsAlone target i) (hs : Reachable target s)
    (hi : s.stage i = .leaving lock) :
    (s.turn target i).stage i = .lettingGo lock ∧ (s.turn target i).table (target i) = none := by
  have hneeds : (s.stage i).needs? = some lock := by rw [hi]; rfl
  have htwo : s.references (target i) lock = 2 :=
    (references_eq_two_iff (Stage.lock?_of_needs? hneeds)
      ((Sound.reachable hs).entry i lock hneeds)).mpr fun j hj => h.eq_of_lock? hs hneeds hj
  simp only [State.turn, step?, hi, if_pos htwo, Option.getD_some, stage_moveTo_self,
    table_moveTo, table_setEntry_self, and_self]

theorem table_turn_of_lettingGo (hi : s.stage i = .lettingGo lock) :
    (s.turn target i).table = s.table := by
  simp only [State.turn, step?, hi, Option.getD_some, table_moveTo]

/-- The steps of a call that is alone, from the first to the last. -/
theorem IsAlone.clears (h : s.IsAlone target i) (hs : Reachable target s) (hi : s.stage i = .idle) :
    (s.run target [i, i, i, i, i]).table (target i) = none := by
  obtain ⟨lock, hwaiting⟩ := exists_stage_turn_of_idle target hi
  have hworking := h.turn.stage_turn_of_waiting (hs.turn i) hwaiting
  have hleaving := stage_turn_of_working target hworking
  obtain ⟨hlooked, hnone⟩ :=
    h.turn.turn.turn.turn_of_leaving (((hs.turn i).turn i).turn i) hleaving
  exact (congrFun (table_turn_of_lettingGo hlooked) (target i)).trans hnone

end alone
end State

/-- When all calls on a changeset have finished, the table still has an entry for it exactly where
the last of them to look did so while another one had looked and not yet let go. What is left so is
removed by the next call that has the changeset to itself. -/
theorem entry_left_iff_crowded (target : Fin n → Uuid) (order : List (Fin n)) (id : Uuid) :
    let s := State.initial.run target order
    ((∀ j, target j = id → s.stage j = .finished) →
      (s.table id ≠ none ↔ ∃ before i after, order = before ++ i :: after ∧
        (State.initial.run target before).LooksLast target id i)) ∧
    ∀ i, target i = id → s.stage i = .idle → s.IsAlone target i →
      (s.run target [i, i, i, i, i]).table id = none := by
  intro s
  constructor
  · intro hfinished
    have hleft : s.table id ≠ none ↔ s.Left target id :=
      ⟨fun h => ⟨h, fun j hj => by rw [hfinished j hj]; rfl⟩, State.Left.entry⟩
    rw [hleft, State.left_run_iff .initial]
    exact or_iff_right fun h => h.entry rfl
  · rintro i rfl hi halone
    exact halone.clears (Reachable.initial.run order) hi

/-- Two calls overlap as they finish: the second one looks before the first has let go. -/
def overlap {n : Nat} (first second : Fin n) : List (Fin n) :=
  [first, second, first, first, first, second, second, second, first, second]

theorem entry_left_iff_crowded_overlap :
    let s := State.initial.run (fun _ : Fin 2 => ⟨1⟩) (overlap 0 1)
    let t := State.initial.run (fun _ : Fin 3 => ⟨1⟩) (overlap 0 1)
    (∀ j, s.stage j = .finished) ∧ s.table ⟨1⟩ = some 0 ∧
      (∃ before i after, overlap 0 1 = before ++ i :: after ∧
        (State.initial.run (fun _ : Fin 2 => ⟨1⟩) before).LooksLast (fun _ => ⟨1⟩) ⟨1⟩ i) ∧
      t.stage 2 = .idle ∧ t.table ⟨1⟩ = some 0 ∧
      (t.run (fun _ => ⟨1⟩) [2, 2, 2, 2, 2]).table ⟨1⟩ = none := by
  intro s t
  have hfinished : ∀ j, s.stage j = .finished := by decide +kernel
  have hleft : s.table ⟨1⟩ = some 0 := by decide +kernel
  have hidle : t.stage 2 = .idle := by decide +kernel
  have hothers : ∀ j, j ≠ 2 → t.stage j = .finished := by decide +kernel
  refine ⟨hfinished, hleft, ?_, hidle, by decide +kernel, ?_⟩
  · refine ((entry_left_iff_crowded _ (overlap 0 1) ⟨1⟩).1 fun j _ => hfinished j).mp ?_
    rw [hleft]
    exact Option.some_ne_none 0
  · exact (entry_left_iff_crowded _ (overlap 0 1) ⟨1⟩).2 2 rfl hidle fun j hj _ => hothers j hj

/-- All calls can have finished, and the table can still have an entry. -/
theorem entry_outlasts_calls :
    ¬ ∀ (n : Nat) (target : Fin n → Uuid) (s : State n), Reachable target s →
      (∀ i, s.stage i = .finished) → ∀ id, s.table id = none := by
  intro h
  have hfinished :
      ∀ i, (State.initial.run (fun _ : Fin 2 => ⟨1⟩) (overlap 0 1)).stage i = .finished := by
    decide +kernel
  have hnone := h 2 _ _ (Reachable.initial.run (overlap 0 1)) hfinished ⟨1⟩
  revert hnone
  decide +kernel

end Evolution.Lock
