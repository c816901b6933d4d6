import Evolution.Proofs.Action

/-! How the operations of a manager can end, call by call, whatever the backend does. -/
namespace Evolution.Manager

open Evolution.Action
open Time (Instant)

variable {σ α : Type} {b : Backend σ} {m m' : Manager σ} {id : Uuid} {now : Instant}

theorem lookup_filter_ne (ps : List (Uuid × Status)) (i j : Uuid) :
    (ps.filter fun p => p.1 != i).lookup j = if j = i then none else ps.lookup j := by
  induction ps with
  | nil => simp
  | cons p ps ih =>
    rcases p with ⟨k, s⟩
    by_cases hk : k = i
    · subst k
      by_cases hj : j = i
      · simpa [hj] using ih
      · simpa [hj, List.lookup_cons, beq_false_of_ne hj] using ih
    · by_cases hj : j = k
      · subst j
        simp [hk]
      · simpa [hk, List.lookup_cons, beq_false_of_ne hj] using ih

theorem pendingStatus?_withPending (m : Manager σ) (i j : Uuid) (s : Status) :
    (m.withPending i s).pendingStatus? j = if j = i then some s else m.pendingStatus? j := by
  by_cases hj : j = i
  · simp [withPending, pendingStatus?, hj]
  · simp [withPending, pendingStatus?, List.lookup_cons, beq_false_of_ne hj, lookup_filter_ne, hj]

theorem pendingStatus?_withoutPending (m : Manager σ) (i j : Uuid) :
    (m.withoutPending i).pendingStatus? j = if j = i then none else m.pendingStatus? j :=
  lookup_filter_ne m.pending i j

/-- The ways in which a pending status is settled. -/
inductive Settles (b : Backend σ) (id : Uuid) (now : Instant) (m : Manager σ) :
    Except Fault Unit → Manager σ → Prop where
  | idle (h : m.pendingStatus? id = none) : Settles b id now m (.ok ()) m
  | stored {s r w} (h : m.pendingStatus? id = some s)
      (he : Ends (b.updateStatus id { status := s } now) m.world (.ok r) w) :
      Settles b id now m (.ok ()) ({ m with world := w }.withoutPending id)
  | known {s i t w} (h : m.pendingStatus? id = some s)
      (he : Ends (b.updateStatus id { status := s } now) m.world
        (.error (.invalidTransition i s t)) w) :
      Settles b id now m (.ok ()) ({ m with world := w }.withoutPending id)
  | lost {s e w} (h : m.pendingStatus? id = some s)
      (he : Ends (b.updateStatus id { status := s } now) m.world (.error e) w)
      (hn : ∀ i t, e ≠ .invalidTransition i s t) :
      Settles b id now m (.error (.statusNotRecorded id s)) { m with world := w }

theorem settle_cases {x : Except Fault Unit} (he : Ends (settle b id now) m x m') :
    Settles b id now m x m' := by
  replace he := ends_getThe_bind.mp he
  split at he
  · rename_i h
    obtain ⟨rfl, rfl⟩ := ends_pure.mp he
    exact .idle h
  · rename_i h
    obtain ⟨_, w, hw, hn⟩ := ends_tryWorld_bind.mp he
    split at hn
    · obtain ⟨rfl, rfl⟩ := ends_modify.mp hn
      exact .stored h hw
    · split at hn
      · rename_i hs
        subst hs
        obtain ⟨rfl, rfl⟩ := ends_modify.mp hn
        exact .known h hw
      · rename_i hs
        obtain ⟨rfl, rfl⟩ := ends_throw.mp hn
        refine .lost h hw ?_
        rintro i t ⟨⟩
        exact hs rfl
    · rename_i hs
      obtain ⟨rfl, rfl⟩ := ends_throw.mp hn
      refine .lost h hw ?_
      rintro i t rfl
      exact hs i _ t rfl

/-- The ways in which a record is looked up and found ready, or not. -/
inductive Readies (b : Backend σ) (id : Uuid) (isReady : Status → Bool) (target : Status)
    (m : Manager σ) : Except Fault Record → Manager σ → Prop where
  | missing {e w} (he : Ends (b.get id) m.world (.error e) w) :
      Readies b id isReady target m (.error e) { m with world := w }
  | unready {r w} (he : Ends (b.get id) m.world (.ok r) w) (h : isReady r.status = false) :
      Readies b id isReady target m (.error (.invalidTransition id r.status target))
        { m with world := w }
  | ready {r w} (he : Ends (b.get id) m.world (.ok r) w) (h : isReady r.status = true) :
      Readies b id isReady target m (.ok r) { m with world := w }

theorem ready_cases {isReady : Status → Bool} {target : Status} {x : Except Fault Record}
    (he : Ends (ready b id isReady target) m x m') : Readies b id isReady target m x m' := by
  obtain ⟨r, u, hg, he⟩ | ⟨e, hg, rfl⟩ := ends_bind.mp he
  · obtain ⟨w, hw, rfl⟩ := ends_inWorld.mp hg
    split at he
    · rename_i h
      obtain ⟨rfl, rfl⟩ := ends_pure.mp he
      exact .ready hw h
    · rename_i h
      obtain ⟨rfl, rfl⟩ := ends_throw.mp he
      exact .unready hw (by simpa using h)
  · obtain ⟨w, hw, rfl⟩ := ends_inWorld.mp hg
    exact .missing hw

/-- A status was settled and a record found ready before the rest ran, or one of these failed. -/
inductive Prepares (b : Backend σ) (id : Uuid) (isReady : Status → Bool) (target : Status)
    (now : Instant) (rest : Record → Action (Manager σ) α) (m : Manager σ) :
    Except Fault α → Manager σ → Prop where
  | unsettled {e m₁} (hs : Ends (settle b id now) m (.error e) m₁) :
      Prepares b id isReady target now rest m (.error e) m₁
  | unready {e m₁ m₂} (hs : Ends (settle b id now) m (.ok ()) m₁)
      (hr : Ends (ready b id isReady target) m₁ (.error e) m₂) :
      Prepares b id isReady target now rest m (.error e) m₂
  | prepared {r x m₁ m₂ m₃} (hs : Ends (settle b id now) m (.ok ()) m₁)
      (hr : Ends (ready b id isReady target) m₁ (.ok r) m₂) (he : Ends (rest r) m₂ x m₃) :
      Prepares b id isReady target now rest m x m₃

theorem prepare_cases {isReady : Status → Bool} {target : Status}
    {rest : Record → Action (Manager σ) α} {x : Except Fault α}
    (he : Ends (do
      settle b id now
      let r ← ready b id isReady target
      rest r) m x m') : Prepares b id isReady target now rest m x m' := by
  obtain ⟨_, _, hs, he⟩ | ⟨e, hs, rfl⟩ := ends_bind.mp he
  · obtain ⟨r, _, hr, he⟩ | ⟨e, hr, rfl⟩ := ends_bind.mp he
    · exact .prepared hs hr he
    · exact .unready hs hr
  · exact .unsettled hs

/-- What is left of `validate` once a draft was found. -/
def check (b : Backend σ) (id : Uuid) (now : Instant) (r : Record) : Action (Manager σ) Record := do
  let report ← inWorld (b.validate r.sql)
  inWorld (b.updateStatus id (updateOfReport report) now)

theorem validate_cases {x : Except Fault Record} (he : Ends (validate b id now) m x m') :
    Prepares b id (· == .draft) .validated now (check b id now) m x m' :=
  prepare_cases he

/-- The ways in which a check of statements and what follows from it end. -/
inductive Checks (b : Backend σ) (id : Uuid) (now : Instant) (r : Record) (m : Manager σ) :
    Except Fault Record → Manager σ → Prop where
  | failed {e w} (he : Ends (b.validate r.sql) m.world (.error e) w) :
      Checks b id now r m (.error e) { m with world := w }
  | reported {report x w v} (he : Ends (b.validate r.sql) m.world (.ok report) w)
      (hu : Ends (b.updateStatus id (updateOfReport report) now) w x v) :
      Checks b id now r m x { m with world := v }

theorem check_cases {r : Record} {x : Except Fault Record} (he : Ends (check b id now r) m x m') :
    Checks b id now r m x m' := by
  obtain ⟨report, u, hv, he⟩ | ⟨e, hv, rfl⟩ := ends_bind.mp he
  · obtain ⟨w, hw, rfl⟩ := ends_inWorld.mp hv
    obtain ⟨v, hu, rfl⟩ := ends_inWorld.mp he
    exact .reported hw hu
  · obtain ⟨w, hw, rfl⟩ := ends_inWorld.mp hv
    exact .failed hw

/-- What is left of `execute` once a record was found ready. -/
def runAndStore (b : Backend σ) (id : Uuid) (target : Status) (run : Action σ Outcome)
    (now : Instant) : Action (Manager σ) Record := do
  let outcome ← inWorld run
  if !outcome.ok then
    throw (.execution (outcome.error.getD "Executor reported failure without details"))
  if outcome.statusRecorded then inWorld (b.get id)
  else
    match ← tryWorld (b.updateStatus id { status := target } now) with
    | .ok r => pure r
    | .error _ =>
      modify (·.withPending id target)
      throw (.statusNotRecorded id target)

theorem execute_cases {target : Status} {run : Action σ Outcome} {x : Except Fault Record}
    (he : Ends (execute b id target run now) m x m') :
    Prepares b id (·.canMoveTo target) target now (fun _ => runAndStore b id target run now) m x
      m' :=
  prepare_cases he

/-- The ways in which a run of statements and the storing of the new status end. -/
inductive Runs (b : Backend σ) (id : Uuid) (target : Status) (run : Action σ Outcome)
    (now : Instant) (m : Manager σ) : Except Fault Record → Manager σ → Prop where
  | raised {e w} (he : Ends run m.world (.error e) w) :
      Runs b id target run now m (.error e) { m with world := w }
  | refused {o w} (he : Ends run m.world (.ok o) w) (ho : o.ok = false) :
      Runs b id target run now m
        (.error (.execution (o.error.getD "Executor reported failure without details")))
        { m with world := w }
  | recorded {o w x v} (he : Ends run m.world (.ok o) w) (ho : o.ok = true)
      (hr : o.statusRecorded = true) (hg : Ends (b.get id) w x v) :
      Runs b id target run now m x { m with world := v }
  | stored {o w r v} (he : Ends run m.world (.ok o) w) (ho : o.ok = true)
      (hr : o.statusRecorded = false)
      (hu : Ends (b.updateStatus id { status := target } now) w (.ok r) v) :
      Runs b id target run now m (.ok r) { m with world := v }
  | lost {o w e v} (he : Ends run m.world (.ok o) w) (ho : o.ok = true)
      (hr : o.statusRecorded = false)
      (hu : Ends (b.updateStatus id { status := target } now) w (.error e) v) :
      Runs b id target run now m (.error (.statusNotRecorded id target))
        ({ m with world := v }.withPending id target)

theorem runAndStore_cases {target : Status} {run : Action σ Outcome} {x : Except Fault Record}
    (he : Ends (runAndStore b id target run now) m x m') : Runs b id target run now m x m' := by
  obtain ⟨o, u, hr, he⟩ | ⟨e, hr, rfl⟩ := ends_bind.mp he
  · obtain ⟨w, hw, rfl⟩ := ends_inWorld.mp hr
    cases ho : o.ok with
    | false =>
      simp only [ho, Bool.not_false, if_true] at he
      obtain ⟨_, _, ht, _⟩ | ⟨_, ht, rfl⟩ := ends_bind.mp he
      · cases ht
      · obtain ⟨ht, rfl⟩ := ends_throw.mp ht
        cases ht
        exact .refused hw ho
    | true =>
      simp only [ho, Bool.not_true, Bool.false_eq_true, if_false] at he
      cases hs : o.statusRecorded with
      | true =>
        simp only [hs, if_true] at he
        obtain ⟨v, hg, rfl⟩ := ends_inWorld.mp he
        exact .recorded hw ho hs hg
      | false =>
        simp only [hs, Bool.false_eq_true, if_false] at he
        obtain ⟨_, v, hu, he⟩ := ends_tryWorld_bind.mp he
        split at he
        · obtain ⟨rfl, rfl⟩ := ends_pure.mp he
          exact .stored hw ho hs hu
        · replace he := ends_modify_bind.mp he
          obtain ⟨rfl, rfl⟩ := ends_throw.mp he
          exact .lost hw ho hs hu
  · obtain ⟨w, hw, rfl⟩ := ends_inWorld.mp hr
    exact .raised hw

theorem abandon_cases {reason : String} {x : Except Fault Record}
    (he : Ends (abandon b id reason now) m x m') :
    Prepares b id (· == .validated) .failed now
      (fun _ => inWorld (b.updateStatus id { status := .failed, errorText := some reason } now)) m
      x m' :=
  prepare_cases he

/-- The status of a changeset that is stored with this report. -/
def statusOf (report : Report) : Status :=
  if report.ok then .validated else .failed

/-- The ways in which a request is compiled, checked and stored. -/
inductive Creates (b : Backend σ) (request : ChangeRequest) (createdBy : Option String)
    (stamp : Stamp) (m : Manager σ) : Except Fault Record → Manager σ → Prop where
  | rejected {e} (hc : request.compileChecked = .error e) :
      Creates b request createdBy stamp m (.error e) m
  | unchecked {c e w} (hc : request.compileChecked = .ok c)
      (he : Ends (b.validate c.sql) m.world (.error e) w) :
      Creates b request createdBy stamp m (.error e) { m with world := w }
  | inserted {c report w x v} (hc : request.compileChecked = .ok c)
      (he : Ends (b.validate c.sql) m.world (.ok report) w)
      (hi : Ends (b.insert (.ofChangeset c (statusOf report) (some report) createdBy stamp)) w x
        v) :
      Creates b request createdBy stamp m x { m with world := v }

theorem createDraft_cases {request : ChangeRequest} {createdBy : Option String} {stamp : Stamp}
    {x : Except Fault Record} (he : Ends (createDraft b request createdBy stamp) m x m') :
    Creates b request createdBy stamp m x m' := by
  obtain ⟨c, _, hm, hn⟩ | ⟨e, hm, rfl⟩ := ends_bind.mp he
  · obtain ⟨hc, rfl⟩ := ends_mk.mp hm
    obtain ⟨report, _, hv, hs⟩ | ⟨e, hv, rfl⟩ := ends_bind.mp hn
    · obtain ⟨w, hw, rfl⟩ := ends_inWorld.mp hv
      obtain ⟨v, hi, rfl⟩ := ends_inWorld.mp hs
      exact .inserted hc.symm hw hi
    · obtain ⟨w, hw, rfl⟩ := ends_inWorld.mp hv
      exact .unchecked hc.symm hw
  · obtain ⟨hc, rfl⟩ := ends_mk.mp hm
    exact .rejected hc.symm

/-- The ways in which a request is compiled and stored unchecked. -/
inductive Saves (b : Backend σ) (request : ChangeRequest) (createdBy : Option String)
    (stamp : Stamp) (m : Manager σ) : Except Fault Record → Manager σ → Prop where
  | rejected {e} (hc : request.compileChecked = .error e) :
      Saves b request createdBy stamp m (.error e) m
  | inserted {c x v} (hc : request.compileChecked = .ok c)
      (hi : Ends (b.insert (.ofChangeset c .draft none createdBy stamp)) m.world x v) :
      Saves b request createdBy stamp m x { m with world := v }

theorem saveDraft_cases {request : ChangeRequest} {createdBy : Option String} {stamp : Stamp}
    {x : Except Fault Record} (he : Ends (saveDraft b request createdBy stamp) m x m') :
    Saves b request createdBy stamp m x m' := by
  obtain ⟨c, _, hm, hn⟩ | ⟨e, hm, rfl⟩ := ends_bind.mp he
  · obtain ⟨hc, rfl⟩ := ends_mk.mp hm
    obtain ⟨v, hi, rfl⟩ := ends_inWorld.mp hn
    exact .inserted hc.symm hi
  · obtain ⟨hc, rfl⟩ := ends_mk.mp hm
    exact .rejected hc.symm

end Evolution.Manager
