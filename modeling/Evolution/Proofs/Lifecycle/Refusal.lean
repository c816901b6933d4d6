import Evolution.Proofs.Lifecycle.Scripted

/-! What an operation does before it looks at anything else, and what it leaves behind where it
fails. The records are kept in memory. -/
namespace Evolution

open Evolution.Action
open Time (Instant)

/-- What an operation asks of a changeset, and where it is to lead it. -/
structure Demand where
  id : Uuid
  source : Status
  target : Status
  now : Instant

def Operation.demand? : Operation → Option Demand
  | .validate id now => some ⟨id, .draft, .validated, now⟩
  | .apply id now => some ⟨id, .validated, .applied, now⟩
  | .revert id now => some ⟨id, .applied, .reverted, now⟩
  | .abandon id _ now => some ⟨id, .validated, .failed, now⟩
  | _ => none

/-- A call that leaves the store: a check of statements or a run. -/
def Call.isOutward : Call → Bool
  | .validate _ | .apply _ _ | .revert _ _ => true
  | _ => false

/-- Nothing but the store was called on the way. -/
def Watched.Inward {σ : Type} (w w' : Watched σ) : Prop :=
  ∃ calls, w'.past = w.past ++ calls ∧ ∀ e ∈ calls, e.call.isOutward = false

namespace Watched

variable {σ : Type} {w w' w'' : Watched σ} {e : Event σ}

theorem Inward.refl (w : Watched σ) : w.Inward w :=
  ⟨[], by simp⟩

theorem Inward.note (h : w.Inward w') (he : e.call.isOutward = false) : w.Inward (w'.note e) := by
  obtain ⟨calls, hp, hc⟩ := h
  refine ⟨calls ++ [e], by simp [hp], ?_⟩
  intro f hf
  rcases List.mem_append.mp hf with hf | hf
  · exact hc f hf
  · obtain rfl := List.mem_singleton.mp hf
    exact he

theorem Inward.watch {α : Type} {call : Call} {reply : Except Fault α → Reply} {a : Action σ α}
    {x : Except Fault α} (h : w.Inward w') (hc : call.isOutward = false)
    (he : Ends (watch call reply a) w' x w'') : w.Inward w'' := by
  obtain ⟨v, -, rfl⟩ := ends_watch.mp he
  exact h.note hc

end Watched

/-- The executor leaves the records alone. -/
structure Backend.Spares {σ : Type} (b : Backend σ) (view : σ → MemoryStore) : Prop where
  apply {id now x w w'} : Ends (b.apply id now) w x w' → view w' = view w
  revert {id now x w w'} : Ends (b.revert id now) w x w' → view w' = view w

theorem Backend.InMemory.watched {σ : Type} {b : Backend σ} {view : σ → MemoryStore}
    (h : b.InMemory view) : b.watched.InMemory fun w => view w.world where
  insert he := by
    obtain ⟨_, hv, rfl⟩ := ends_watch.mp he
    exact h.insert hv
  get he := by
    obtain ⟨_, hv, rfl⟩ := ends_watch.mp he
    exact h.get hv
  list he := by
    obtain ⟨_, hv, rfl⟩ := ends_watch.mp he
    exact h.list hv
  updateStatus he := by
    obtain ⟨_, hv, rfl⟩ := ends_watch.mp he
    exact h.updateStatus hv
  validate he := by
    obtain ⟨_, hv, rfl⟩ := ends_watch.mp he
    exact h.validate hv
  apply he := by
    obtain ⟨_, hv, rfl⟩ := ends_watch.mp he
    exact h.apply hv
  revert he := by
    obtain ⟨_, hv, rfl⟩ := ends_watch.mp he
    exact h.revert hv

theorem Backend.Spares.watched {σ : Type} {b : Backend σ} {view : σ → MemoryStore}
    (h : b.Spares view) : b.watched.Spares fun w => view w.world where
  apply he := by
    obtain ⟨_, hv, rfl⟩ := ends_watch.mp he
    exact h.apply hv
  revert he := by
    obtain ⟨_, hv, rfl⟩ := ends_watch.mp he
    exact h.revert hv

/-- What is answered where a changeset has to be ready. -/
def MemoryStore.getReady (store : MemoryStore) (id : Uuid) (isReady : Status → Bool)
    (target : Status) : Except Fault Record :=
  match store.get id with
  | .error e => .error e
  | .ok r => if isReady r.status then .ok r else .error (.invalidTransition id r.status target)

section getReady

variable {store : MemoryStore} {id : Uuid} {isReady : Status → Bool} {target : Status} {r : Record}

theorem MemoryStore.getReady_unknown (h : store.find? id = none) :
    store.getReady id isReady target = .error (.unknownChangeset id) := by
  simp [getReady, get, h]

theorem MemoryStore.getReady_unready (h : store.find? id = some r)
    (hr : isReady r.status = false) :
    store.getReady id isReady target = .error (.invalidTransition id r.status target) := by
  simp [getReady, get, h, hr]

end getReady

/-- The status is written, or it is answered that it stands already. -/
def Recordable {σ : Type} (b : Backend σ) (id : Uuid) (s : Status) (now : Instant) (w : σ) : Prop :=
  match answer (b.updateStatus id { status := s } now) w with
  | .ok _ => True
  | .error (.invalidTransition _ t _) => t = s
  | .error _ => False

namespace Manager

/-- The manager once a pending status has been settled, or not. -/
def settled {σ : Type} (b : Backend σ) (id : Uuid) (now : Instant) (m : Manager σ) : Manager σ :=
  after (settle b id now) m

/-- How a pending status was recorded, where there was one. -/
inductive Recorded {σ : Type} (view : σ → MemoryStore) (id : Uuid) (now : Instant) (m : Manager σ) :
    Manager σ → Prop where
  | idle (h : m.pendingStatus? id = none) : Recorded view id now m m
  | written {m' s r} (h : m.pendingStatus? id = some s)
      (hu : (view m.world).updateStatus id { status := s } now = .ok (r, view m'.world))
      (hp : m'.pending = (m.withoutPending id).pending) : Recorded view id now m m'
  | standing {m' s r} (h : m.pendingStatus? id = some s) (hr : (view m.world).find? id = some r)
      (hs : r.status = s) (hv : view m'.world = view m.world)
      (hp : m'.pending = (m.withoutPending id).pending) : Recorded view id now m m'

/-- An operation ended without a trace since `m₁`: no record was touched and no status is pending
but what was, and from the beginning in `m` only the store was called. -/
structure Traceless {σ : Type} (view : σ → MemoryStore) (m m₁ m' : Manager (Watched σ)) : Prop where
  store : view m'.world.world = view m₁.world.world
  pending : m'.pending = m₁.pending
  inward : m.world.Inward m'.world

section settle

variable {σ : Type} {b : Backend σ} {view : σ → MemoryStore} {m m' : Manager σ} {id : Uuid}
  {s : Status} {now : Instant}

theorem settle_recorded (h : b.InMemory view) (he : Ends (settle b id now) m (.ok ()) m') :
    Recorded view id now m m' := by
  cases settle_cases he with
  | idle hp => exact .idle hp
  | stored hp hu =>
    obtain hu | hu := h.updateStatus hu
    · exact .written hp hu.ok rfl
    · cases hu
  | known hp hu =>
    obtain hu | hu := h.updateStatus hu
    · obtain ⟨hx, hv⟩ := hu.error
      obtain ⟨_, hx⟩ | ⟨r, hr, hx⟩ := MemoryStore.updateStatus_error hx
      · cases hx
      · cases hx
        exact .standing hp hr rfl hv rfl
    · exact (hu.not_refusal rfl).elim

/-- Where nothing is in the way of a pending status, it is settled. -/
theorem settle_ok {x : Except Fault Unit}
    (hr : ∀ s, m.pendingStatus? id = some s → Recordable b id s now m.world)
    (he : Ends (settle b id now) m x m') : x = .ok () := by
  cases settle_cases he with
  | idle => rfl
  | stored => rfl
  | known => rfl
  | lost hp hu hn =>
    have hr := hr _ hp
    simp only [Recordable, hu.answer_eq] at hr
    split at hr
    · rename_i hx
      cases hx
    · rename_i hx
      cases hx
      exact (hn _ _ (by rw [hr])).elim
    · exact hr.elim

theorem settle_lost {x : Except Fault Unit} (h : b.InMemory view)
    (hp : m.pendingStatus? id = some s) (hn : ¬ Recordable b id s now m.world)
    (he : Ends (settle b id now) m x m') :
    x = .error (.statusNotRecorded id s) ∧ view m'.world = view m.world ∧
      m'.pending = m.pending := by
  cases settle_cases he with
  | idle hp' => cases hp.symm.trans hp'
  | stored hp' hu =>
    cases hp.symm.trans hp'
    simp [Recordable, hu.answer_eq] at hn
  | known hp' hu =>
    cases hp.symm.trans hp'
    simp [Recordable, hu.answer_eq] at hn
  | lost hp' hu =>
    cases hp.symm.trans hp'
    exact ⟨rfl, h.updateStatus_error hu, rfl⟩

/-- What is found decides, and looking changes nothing. -/
theorem ready_answer {isReady : Status → Bool} {target : Status} {x : Except Fault Record}
    (h : b.InMemory view) (he : Ends (ready b id isReady target) m x m') :
    view m'.world = view m.world ∧ m'.pending = m.pending ∧
      x = (view m.world).getReady id isReady target := by
  cases ready_cases he with
  | missing hg =>
    obtain ⟨hx, hv⟩ := h.get hg
    exact ⟨hv, rfl, by simp [MemoryStore.getReady, ← hx]⟩
  | unready hg hi =>
    obtain ⟨hx, hv⟩ := h.get hg
    exact ⟨hv, rfl, by simp [MemoryStore.getReady, ← hx, hi]⟩
  | ready hg hi =>
    obtain ⟨hx, hv⟩ := h.get hg
    exact ⟨hv, rfl, by simp [MemoryStore.getReady, ← hx, hi]⟩

end settle

section inward

variable {σ : Type} {b : Backend σ} {m m' : Manager (Watched σ)} {w : Watched σ} {id : Uuid}
  {now : Instant}

theorem settle_inward {x : Except Fault Unit} (hw : w.Inward m.world)
    (he : Ends (settle b.watched id now) m x m') : w.Inward m'.world := by
  cases settle_cases he with
  | idle => exact hw
  | stored _ hu => exact hw.watch rfl hu
  | known _ hu => exact hw.watch rfl hu
  | lost _ hu => exact hw.watch rfl hu

theorem ready_inward {isReady : Status → Bool} {target : Status} {x : Except Fault Record}
    (hw : w.Inward m.world) (he : Ends (ready b.watched id isReady target) m x m') :
    w.Inward m'.world := by
  cases ready_cases he with
  | missing hg => exact hw.watch rfl hg
  | unready hg => exact hw.watch rfl hg
  | ready hg => exact hw.watch rfl hg

end inward

section rest

variable {σ : Type} {b : Backend σ} {view : σ → MemoryStore} {m m' : Manager σ} {id : Uuid}
  {now : Instant} {e : Fault}

theorem check_error {r : Record} (h : b.InMemory view)
    (he : Ends (check b id now r) m (.error e) m') : view m'.world = view m.world := by
  cases check_cases he with
  | failed hv => exact h.validate hv
  | reported hv hu => exact (h.updateStatus_error hu).trans (h.validate hv)

theorem runAndStore_error {target : Status} {run : Action σ Outcome} (h : b.InMemory view)
    (hr : ∀ {w x w'}, Ends run w x w' → view w' = view w)
    (he : Ends (runAndStore b id target run now) m (.error e) m') :
    view m'.world = view m.world := by
  cases runAndStore_cases he with
  | raised ha => exact hr ha
  | refused ha => exact hr ha
  | recorded ha _ _ hg => exact (h.get hg).2.trans (hr ha)
  | lost ha _ _ hu => exact (h.updateStatus_error hu).trans (hr ha)

theorem createDraft_error {request : ChangeRequest} {createdBy : Option String} {stamp : Stamp}
    (h : b.InMemory view) (he : Ends (createDraft b request createdBy stamp) m (.error e) m') :
    view m'.world = view m.world := by
  cases createDraft_cases he with
  | rejected => rfl
  | unchecked _ hv => exact h.validate hv
  | inserted _ hv hi => exact (h.insert_error hi).trans (h.validate hv)

theorem saveDraft_error {request : ChangeRequest} {createdBy : Option String} {stamp : Stamp}
    (h : b.InMemory view) (he : Ends (saveDraft b request createdBy stamp) m (.error e) m') :
    view m'.world = view m.world := by
  cases saveDraft_cases he with
  | rejected => rfl
  | inserted _ hi => exact h.insert_error hi

end rest
end Manager

section Operation

variable {σ : Type} {b : Backend σ} {view : σ → MemoryStore} {op : Operation} {d : Demand}

theorem Status.canMoveTo_applied (s : Status) : s.canMoveTo .applied = true ↔ s = .validated := by
  cases s <;> decide

theorem Status.canMoveTo_reverted (s : Status) : s.canMoveTo .reverted = true ↔ s = .applied := by
  cases s <;> decide

/-- An operation that demands a status looks for it first, and then fails without a write. -/
theorem Operation.act_prepares {m m' : Manager σ} {x : Except Fault Answer} (h : b.InMemory view)
    (hd : op.demand? = some d) (he : Ends (op.act b) m x m') :
    ∃ (isReady : Status → Bool) (rest : Record → Action (Manager σ) Record)
      (y : Except Fault Record), (∀ s, isReady s = true ↔ s = d.source) ∧ x = y.map .record ∧
        Manager.Prepares b d.id isReady d.target d.now rest m y m' ∧
        (b.Spares view → ∀ {r m₁ e m₂}, Ends (rest r) m₁ (.error e) m₂ →
          view m₂.world = view m₁.world) := by
  cases op with
  | createDraft => cases hd
  | saveDraft => cases hd
  | preview => cases hd
  | get => cases hd
  | list => cases hd
  | validate id now =>
    cases hd
    obtain ⟨y, hc, rfl⟩ := ends_bind_pure.mp he
    exact ⟨_, _, y, by simp, rfl, Manager.validate_cases hc,
      fun _ _ _ _ _ he => Manager.check_error h he⟩
  | apply id now =>
    cases hd
    obtain ⟨y, hc, rfl⟩ := ends_bind_pure.mp he
    exact ⟨_, _, y, Status.canMoveTo_applied, rfl, Manager.execute_cases hc,
      fun hs _ _ _ _ he => Manager.runAndStore_error h hs.apply he⟩
  | revert id now =>
    cases hd
    obtain ⟨y, hc, rfl⟩ := ends_bind_pure.mp he
    exact ⟨_, _, y, Status.canMoveTo_reverted, rfl, Manager.execute_cases hc,
      fun hs _ _ _ _ he => Manager.runAndStore_error h hs.revert he⟩
  | abandon id reason now =>
    cases hd
    obtain ⟨y, hc, rfl⟩ := ends_bind_pure.mp he
    refine ⟨_, _, y, by simp, rfl, Manager.abandon_cases hc, ?_⟩
    intro _ r m₁ e m₂ he
    obtain ⟨w, hu, rfl⟩ := Manager.ends_inWorld.mp he
    exact h.updateStatus_error hu

theorem Operation.act_error {m m' : Manager σ} {e : Fault} (h : b.InMemory view)
    (hd : op.demand? = none) (he : Ends (op.act b) m (.error e) m') :
    view m'.world = view m.world := by
  have failed {y : Except Fault Record} (hy : Except.error e = y.map Answer.record) :
      y = .error e := by
    cases y <;> cases hy
    rfl
  cases op with
  | createDraft =>
    obtain ⟨y, hc, hy⟩ := ends_bind_pure.mp he
    exact Manager.createDraft_error h (failed hy ▸ hc)
  | saveDraft =>
    obtain ⟨y, hc, hy⟩ := ends_bind_pure.mp he
    exact Manager.saveDraft_error h (failed hy ▸ hc)
  | preview => cases he
  | get =>
    obtain ⟨y, hc, hy⟩ := ends_bind_pure.mp he
    obtain ⟨w, hg, rfl⟩ := Manager.ends_inWorld.mp hc
    exact (h.get hg).2
  | list =>
    obtain ⟨y, hc, hy⟩ := ends_bind_pure.mp he
    obtain ⟨w, hl, rfl⟩ := Manager.ends_inWorld.mp hc
    exact h.list hl
  | validate => cases hd
  | apply => cases hd
  | revert => cases hd
  | abandon => cases hd

/-! Now with every call written down. -/

variable {m m' : Manager (Watched σ)} {x : Except Fault Answer}

theorem Operation.act_unsettled {s : Status} (h : b.InMemory view) (hd : op.demand? = some d)
    (hp : m.pendingStatus? d.id = some s) (hn : ¬ Recordable b d.id s d.now m.world.world)
    (he : Ends (op.act b.watched) m x m') :
    x = .error (.statusNotRecorded d.id s) ∧ Manager.Traceless view m m m' := by
  obtain ⟨isReady, rest, y, -, rfl, hc, -⟩ := op.act_prepares h.watched hd he
  cases hc with
  | unsettled hs =>
    obtain ⟨hx, hv, hpending⟩ := Manager.settle_lost h.watched hp hn hs
    cases hx
    exact ⟨rfl, hv, hpending, Manager.settle_inward (.refl _) hs⟩
  | unready hs => cases (Manager.settle_lost h.watched hp hn hs).1
  | prepared hs => cases (Manager.settle_lost h.watched hp hn hs).1

/-- Once settled, a changeset that is not there or not ready is all that is looked at. -/
theorem Operation.act_unready {e : Fault} (h : b.InMemory view) (hd : op.demand? = some d)
    (hr : ∀ s, m.pendingStatus? d.id = some s → Recordable b d.id s d.now m.world.world)
    (hf : ∀ isReady : Status → Bool, (∀ s, isReady s = true ↔ s = d.source) →
      (view (m.settled b.watched d.id d.now).world.world).getReady d.id isReady d.target =
        .error e)
    (he : Ends (op.act b.watched) m x m') :
    x = .error e ∧ Manager.Traceless view m (m.settled b.watched d.id d.now) m' := by
  obtain ⟨isReady, rest, y, hi, rfl, hc, -⟩ := op.act_prepares h.watched hd he
  cases hc with
  | unsettled hs => cases Manager.settle_ok hr hs
  | unready hs hg =>
    rw [Manager.settled, hs.after_eq] at hf ⊢
    obtain ⟨hv, hpending, hx⟩ := Manager.ready_answer h.watched hg
    cases hx.trans (hf isReady hi)
    exact ⟨rfl, hv, hpending, Manager.ready_inward (Manager.settle_inward (.refl _) hs) hg⟩
  | prepared hs hg =>
    rw [Manager.settled, hs.after_eq] at hf
    cases (Manager.ready_answer h.watched hg).2.2.trans (hf isReady hi)

theorem Operation.act_spared {e : Fault} (h : b.InMemory view) (hs : b.Spares view)
    (hd : op.demand? = some d) (he : Ends (op.act b.watched) m (.error e) m') :
    view m'.world.world = view (m.settled b.watched d.id d.now).world.world := by
  obtain ⟨isReady, rest, y, -, hx, hc, hrest⟩ := op.act_prepares h.watched hd he
  cases hc with
  | unsettled hs => rw [Manager.settled, hs.after_eq]
  | unready hs hg =>
    rw [Manager.settled, hs.after_eq]
    exact (Manager.ready_answer h.watched hg).1
  | prepared hm hg hr =>
    rw [Manager.settled, hm.after_eq]
    obtain rfl : y = .error e := by
      cases y <;> cases hx
      rfl
    exact (hrest hs.watched hr).trans (Manager.ready_answer h.watched hg).1

/-- A pending status comes first. Where it cannot be recorded, or the changeset is unknown or not
ready, the answer says so, nothing else is called and nothing is touched; and an operation that
fails later has not written either. An operation that demands no status, as one that makes a draft,
writes nothing where it fails. -/
theorem Operation.fails_without_trace (h : b.InMemory view) (op : Operation)
    (m : Manager (Watched σ)) :
    (∀ d, op.demand? = some d →
      (∀ s, m.pendingStatus? d.id = some s → ¬ Recordable b d.id s d.now m.world.world →
        answer (op.act b.watched) m = .error (.statusNotRecorded d.id s) ∧
          Manager.Traceless view m m (after (op.act b.watched) m)) ∧
      ((∀ s, m.pendingStatus? d.id = some s → Recordable b d.id s d.now m.world.world) →
        Manager.Recorded (fun w => view w.world) d.id d.now m (m.settled b.watched d.id d.now) ∧
        ((view (m.settled b.watched d.id d.now).world.world).find? d.id = none →
          answer (op.act b.watched) m = .error (.unknownChangeset d.id) ∧
            Manager.Traceless view m (m.settled b.watched d.id d.now)
              (after (op.act b.watched) m)) ∧
        ∀ r, (view (m.settled b.watched d.id d.now).world.world).find? d.id = some r →
          r.status ≠ d.source →
          answer (op.act b.watched) m = .error (.invalidTransition d.id r.status d.target) ∧
            Manager.Traceless view m (m.settled b.watched d.id d.now)
              (after (op.act b.watched) m)) ∧
      (b.Spares view → ∀ e, answer (op.act b.watched) m = .error e →
        view (after (op.act b.watched) m).world.world =
          view (m.settled b.watched d.id d.now).world.world)) ∧
    (op.demand? = none → ∀ e, answer (op.act b.watched) m = .error e →
      view (after (op.act b.watched) m).world.world = view m.world.world) := by
  have he := ends_answer_after (op.act b.watched) m
  constructor
  · intro d hd
    refine ⟨?_, ?_, ?_⟩
    · intro s hp hn
      exact op.act_unsettled h hd hp hn he
    · intro hr
      refine ⟨?_, ?_, ?_⟩
      · have hs := ends_answer_after (Manager.settle b.watched d.id d.now) m
        rw [Manager.settle_ok hr hs] at hs
        exact Manager.settle_recorded h.watched hs
      · intro hf
        refine op.act_unready h hd hr ?_ he
        intro isReady _
        exact MemoryStore.getReady_unknown hf
      · intro r hf hne
        refine op.act_unready h hd hr ?_ he
        intro isReady hi
        have hn : isReady r.status ≠ true := fun ht => hne ((hi r.status).mp ht)
        exact MemoryStore.getReady_unready hf (Bool.eq_false_iff.mpr hn)
    · intro hs e hx
      exact op.act_spared h hs hd (hx ▸ he)
  · intro hd e hx
    exact op.act_error h.watched hd (hx ▸ he)

/-- A store that fails to write a status twice; the first time, the changeset has been run. -/
def lossyTwice : Manager (Watched Script) :=
  after (Operation.act Backend.scripted.watched (.apply .nil ⟨1, 0⟩))
    (.started { store := .oneValidated, failingWrites := 2 })

/-- The first request after that cannot record what has been run either, and the second can. -/
theorem Operation.fails_without_trace_lossyTwice :
    answer (Operation.act Backend.scripted.watched (.revert .nil ⟨2, 0⟩)) lossyTwice =
        .error (.statusNotRecorded .nil .applied) ∧
      answer (Operation.act Backend.scripted.watched (.abandon .nil "late" ⟨3, 0⟩))
        (after (Operation.act Backend.scripted.watched (.revert .nil ⟨2, 0⟩)) lossyTwice) =
          .error (.invalidTransition .nil .applied .failed) := by
  let m := after (Operation.act Backend.scripted.watched (.revert .nil ⟨2, 0⟩)) lossyTwice
  have first := (fails_without_trace Backend.scripted_inMemory (.revert .nil ⟨2, 0⟩)
    lossyTwice).1 _ rfl
  have second := (fails_without_trace Backend.scripted_inMemory (.abandon .nil "late" ⟨3, 0⟩)
    m).1 _ rfl
  have hp : lossyTwice.pendingStatus? .nil = some .applied := by decide +kernel
  have hm : m.pendingStatus? .nil = some .applied := by decide +kernel
  have hlost : answer (Backend.scripted.updateStatus .nil { status := .applied } ⟨2, 0⟩)
      lossyTwice.world.world = .error (.internal "status write failed") := rfl
  have hfound : ((m.settled Backend.scripted.watched .nil ⟨3, 0⟩).world.world.store.find?
      .nil).map Record.status = some .applied := by decide +kernel
  obtain ⟨r, hr, hst⟩ := Option.map_eq_some_iff.mp hfound
  obtain ⟨r', hwritten⟩ : ∃ r', answer (Backend.scripted.updateStatus .nil { status := .applied }
      ⟨3, 0⟩) m.world.world = .ok r' := ⟨_, rfl⟩
  refine ⟨(first.1 .applied hp ?_).1, ?_⟩
  · simp [Recordable, hlost]
  · have hready : r.status ≠ .validated := by simp [hst]
    refine hst ▸ ((second.2.1 ?_).2.2 r hr hready).1
    intro s hs
    obtain rfl := Option.some.inj (hm.symm.trans hs)
    simp [Recordable, hwritten]

end Operation
end Evolution
