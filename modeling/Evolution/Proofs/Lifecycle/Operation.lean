import Evolution.Proofs.Lifecycle.Manager
import Evolution.Proofs.Lifecycle.Watch

/-! All that can be asked of a manager. A manager reaches the world through its backend alone, so
what every call of the backend keeps, every operation keeps. -/
namespace Evolution

open Evolution.Action
open Time (Instant)

inductive Operation where
  | createDraft (request : ChangeRequest) (createdBy : Option String) (stamp : Stamp)
  | saveDraft (request : ChangeRequest) (createdBy : Option String) (stamp : Stamp)
  | preview (request : ChangeRequest)
  | get (id : Uuid)
  | list (f : Filter)
  | validate (id : Uuid) (now : Instant)
  | apply (id : Uuid) (now : Instant)
  | revert (id : Uuid) (now : Instant)
  | abandon (id : Uuid) (reason : String) (now : Instant)

inductive Answer where
  | record (r : Record)
  | records (rs : List Record)
  | preview (p : Preview)

def Operation.act {σ : Type} (b : Backend σ) : Operation → Action (Manager σ) Answer
  | createDraft request createdBy stamp => do
    return .record (← Manager.createDraft b request createdBy stamp)
  | saveDraft request createdBy stamp => do
    return .record (← Manager.saveDraft b request createdBy stamp)
  | preview request => pure (.preview request.preview)
  | get id => do return .record (← Manager.get b id)
  | list f => do return .records (← Manager.list b f)
  | validate id now => do return .record (← Manager.validate b id now)
  | apply id now => do return .record (← Manager.apply b id now)
  | revert id now => do return .record (← Manager.revert b id now)
  | abandon id reason now => do return .record (← Manager.abandon b id reason now)

/-- Every call of the backend, also one that fails, leads from `P` to `P`. -/
structure Backend.Keeps {σ : Type} (b : Backend σ) (P : σ → Prop) : Prop where
  insert {r x s t} : P s → Ends (b.insert r) s x t → P t
  get {id x s t} : P s → Ends (b.get id) s x t → P t
  list {f x s t} : P s → Ends (b.list f) s x t → P t
  updateStatus {id u now x s t} : P s → Ends (b.updateStatus id u now) s x t → P t
  validate {statements x s t} : P s → Ends (b.validate statements) s x t → P t
  apply {id now x s t} : P s → Ends (b.apply id now) s x t → P t
  revert {id now x s t} : P s → Ends (b.revert id now) s x t → P t

namespace Backend

variable {σ : Type} {b : Backend σ}

theorem Keeps.occurs {P : σ → Prop} {e : Event σ} (h : b.Keeps P) (ho : b.Occurs e)
    (hp : P e.before) : P e.after := by
  cases ho with
  | insert he => exact h.insert hp he
  | get he => exact h.get hp he
  | list he => exact h.list hp he
  | updateStatus he => exact h.updateStatus hp he
  | validate he => exact h.validate hp he
  | apply he => exact h.apply hp he
  | revert he => exact h.revert hp he

theorem watched_keeps {P : Watched σ → Prop}
    (h : ∀ {w e}, P w → b.Occurs e → e.before = w.world → P (w.note e)) : b.watched.Keeps P where
  insert hp he := by
    obtain ⟨_, hv, rfl⟩ := ends_watch.mp he
    exact h hp (.insert hv) rfl
  get hp he := by
    obtain ⟨_, hv, rfl⟩ := ends_watch.mp he
    exact h hp (.get hv) rfl
  list hp he := by
    obtain ⟨_, hv, rfl⟩ := ends_watch.mp he
    exact h hp (.list hv) rfl
  updateStatus hp he := by
    obtain ⟨_, hv, rfl⟩ := ends_watch.mp he
    exact h hp (.updateStatus hv) rfl
  validate hp he := by
    obtain ⟨_, hv, rfl⟩ := ends_watch.mp he
    exact h hp (.validate hv) rfl
  apply hp he := by
    obtain ⟨_, hv, rfl⟩ := ends_watch.mp he
    exact h hp (.apply hv) rfl
  revert hp he := by
    obtain ⟨_, hv, rfl⟩ := ends_watch.mp he
    exact h hp (.revert hv) rfl

/-- Watching changes nothing about the worlds. -/
theorem Keeps.watched {P : σ → Prop} (h : b.Keeps P) : b.watched.Keeps fun w => P w.world :=
  watched_keeps fun hp ho hb => h.occurs ho (hb ▸ hp)

end Backend

namespace Manager

variable {σ α : Type} {b : Backend σ} {P : σ → Prop} {m m' : Manager σ} {id : Uuid} {now : Instant}

theorem inWorld_keeps {a : Action σ α} {x : Except Fault α}
    (ha : ∀ {s t}, P s → Ends a s x t → P t) (hp : P m.world) (he : Ends (inWorld a) m x m') :
    P m'.world := by
  obtain ⟨w, hw, rfl⟩ := ends_inWorld.mp he
  exact ha hp hw

theorem settle_keeps {x : Except Fault Unit} (h : b.Keeps P) (hp : P m.world)
    (he : Ends (settle b id now) m x m') : P m'.world := by
  cases settle_cases he with
  | idle => exact hp
  | stored _ hu => exact h.updateStatus hp hu
  | known _ hu => exact h.updateStatus hp hu
  | lost _ hu => exact h.updateStatus hp hu

theorem ready_keeps {isReady : Status → Bool} {target : Status} {x : Except Fault Record}
    (h : b.Keeps P) (hp : P m.world) (he : Ends (ready b id isReady target) m x m') :
    P m'.world := by
  cases ready_cases he with
  | missing hg => exact h.get hp hg
  | unready hg => exact h.get hp hg
  | ready hg => exact h.get hp hg

theorem prepare_keeps {isReady : Status → Bool} {target : Status}
    {rest : Record → Action (Manager σ) α} {x : Except Fault α} (h : b.Keeps P) (hp : P m.world)
    (hr : ∀ {r m₁ m₂}, P m₁.world → Ends (rest r) m₁ x m₂ → P m₂.world)
    (hc : Prepares b id isReady target now rest m x m') : P m'.world := by
  cases hc with
  | unsettled hs => exact settle_keeps h hp hs
  | unready hs hg => exact ready_keeps h (settle_keeps h hp hs) hg
  | prepared hs hg he => exact hr (ready_keeps h (settle_keeps h hp hs) hg) he

theorem validate_keeps {x : Except Fault Record} (h : b.Keeps P) (hp : P m.world)
    (he : Ends (validate b id now) m x m') : P m'.world := by
  refine prepare_keeps h hp ?_ (validate_cases he)
  intro r m₁ m₂ hp hc
  cases check_cases hc with
  | failed hv => exact h.validate hp hv
  | reported hv hu => exact h.updateStatus (h.validate hp hv) hu

theorem execute_keeps {target : Status} {run : Action σ Outcome} {x : Except Fault Record}
    (h : b.Keeps P) (hr : ∀ {o s t}, P s → Ends run s o t → P t) (hp : P m.world)
    (he : Ends (execute b id target run now) m x m') : P m'.world := by
  refine prepare_keeps h hp ?_ (execute_cases he)
  intro r m₁ m₂ hp hc
  cases runAndStore_cases hc with
  | raised ha => exact hr hp ha
  | refused ha => exact hr hp ha
  | recorded ha _ _ hg => exact h.get (hr hp ha) hg
  | stored ha _ _ hu => exact h.updateStatus (hr hp ha) hu
  | lost ha _ _ hu => exact h.updateStatus (hr hp ha) hu

theorem abandon_keeps {reason : String} {x : Except Fault Record} (h : b.Keeps P)
    (hp : P m.world) (he : Ends (abandon b id reason now) m x m') : P m'.world :=
  prepare_keeps h hp (fun hp hc => inWorld_keeps h.updateStatus hp hc) (abandon_cases he)

theorem createDraft_keeps {request : ChangeRequest} {createdBy : Option String} {stamp : Stamp}
    {x : Except Fault Record} (h : b.Keeps P) (hp : P m.world)
    (he : Ends (createDraft b request createdBy stamp) m x m') : P m'.world := by
  cases createDraft_cases he with
  | rejected => exact hp
  | unchecked _ hv => exact h.validate hp hv
  | inserted _ hv hi => exact h.insert (h.validate hp hv) hi

theorem saveDraft_keeps {request : ChangeRequest} {createdBy : Option String} {stamp : Stamp}
    {x : Except Fault Record} (h : b.Keeps P) (hp : P m.world)
    (he : Ends (saveDraft b request createdBy stamp) m x m') : P m'.world := by
  cases saveDraft_cases he with
  | rejected => exact hp
  | inserted _ hi => exact h.insert hp hi

end Manager

theorem Operation.act_keeps {σ : Type} {b : Backend σ} {P : σ → Prop} {m m' : Manager σ}
    {x : Except Fault Answer} (h : b.Keeps P) (op : Operation) (hp : P m.world)
    (he : Ends (op.act b) m x m') : P m'.world := by
  cases op with
  | preview =>
    obtain ⟨-, rfl⟩ := ends_pure.mp he
    exact hp
  | createDraft =>
    obtain ⟨_, hc, -⟩ := ends_bind_pure.mp he
    exact Manager.createDraft_keeps h hp hc
  | saveDraft =>
    obtain ⟨_, hc, -⟩ := ends_bind_pure.mp he
    exact Manager.saveDraft_keeps h hp hc
  | get =>
    obtain ⟨_, hc, -⟩ := ends_bind_pure.mp he
    exact Manager.inWorld_keeps h.get hp hc
  | list =>
    obtain ⟨_, hc, -⟩ := ends_bind_pure.mp he
    exact Manager.inWorld_keeps h.list hp hc
  | validate =>
    obtain ⟨_, hc, -⟩ := ends_bind_pure.mp he
    exact Manager.validate_keeps h hp hc
  | apply =>
    obtain ⟨_, hc, -⟩ := ends_bind_pure.mp he
    exact Manager.execute_keeps h h.apply hp hc
  | revert =>
    obtain ⟨_, hc, -⟩ := ends_bind_pure.mp he
    exact Manager.execute_keeps h h.revert hp hc
  | abandon =>
    obtain ⟨_, hc, -⟩ := ends_bind_pure.mp he
    exact Manager.abandon_keeps h hp hc

end Evolution
