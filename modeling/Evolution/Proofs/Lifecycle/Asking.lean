import Evolution.Proofs.Lifecycle.Page

/-! The calls that a manager makes of its backend. What every such call keeps, every operation
keeps, though other calls of the backend may break it. -/
namespace Evolution

open Evolution.Action
open Time (Instant)

/-- The calls that belong to an operation, by where the changeset stands in the world. -/
inductive Operation.Asks {σ ρ : Type} (A : Archive σ ρ) (op : Operation) (w : σ) : Call → Prop where
  | insert {r} (new : r.IsNew) : Asks A op w (.insert r)
  | get {id} : Asks A op w (.get id)
  | list {f} : Asks A op w (.list f)
  | check {id report now} : Asks A op w (.updateStatus id (Manager.updateOfReport report) now)
  | store {id target now} (run : target.IsRun) :
      Asks A op w (.updateStatus id { status := target } now)
  | abandon {id reason now} (asked : op = .abandon id reason now)
      (hs : A.statusOf w id = some .validated) :
      Asks A op w (.updateStatus id { status := .failed, errorText := some reason } now)
  | validate {statements} : Asks A op w (.validate statements)
  | apply {id now} (hs : A.statusOf w id = some .validated) : Asks A op w (.apply id now)
  | revert {id now} (hs : A.statusOf w id = some .applied) : Asks A op w (.revert id now)

/-- Every call that belongs to the operation leads from `P` to `P`, whatever the answer. -/
def Operation.Heeds {σ ρ : Type} (b : Backend σ) (A : Archive σ ρ) (op : Operation)
    (P : Watched σ → Prop) : Prop :=
  ∀ ⦃w e⦄, P w → A.Sound w.world → b.Occurs e → e.before = w.world →
    op.Asks A w.world e.call → P (w.note e)

namespace Manager

/-- Between two calls: all is in order, and only runs have left a status pending. -/
structure Stands {σ ρ : Type} (A : Archive σ ρ) (P : Watched σ → Prop) (m : Manager (Watched σ)) :
    Prop where
  sound : A.Sound m.world.world
  kept : P m.world
  runs {id target} : m.pendingStatus? id = some target → target.IsRun

section Stands

variable {σ ρ : Type} {b : Backend σ} {A : Archive σ ρ} {P : Watched σ → Prop} {op : Operation}
  {m m' : Manager (Watched σ)} {id : Uuid} {target : Status} {now : Instant}

/-- A call that belongs to the operation was made. -/
theorem Stands.watch {α : Type} {call : Call} {reply : Except Fault α → Reply} {a : Action σ α}
    {x : Except Fault α} {w : Watched σ} (hm : Stands A P m) (h : Honest b A) (hk : op.Heeds b A P)
    (ho : ∀ {v}, Ends a m.world.world x v → b.Occurs ⟨call, reply x, m.world.world, v⟩)
    (ha : op.Asks A m.world.world call) (he : Ends (watch call reply a) m.world x w) :
    Stands A P { m with world := w } := by
  obtain ⟨v, hv, rfl⟩ := ends_watch.mp he
  have hs := h.sound.occurs (ho hv) hm.sound
  exact ⟨hs, hk hm.kept hm.sound (ho hv) rfl ha, hm.runs⟩

theorem Stands.withoutPending (hm : Stands A P m) (id : Uuid) :
    Stands A P (m.withoutPending id) where
  sound := hm.sound
  kept := hm.kept
  runs {other target} hp := by
    rw [pendingStatus?_withoutPending] at hp
    split at hp
    · cases hp
    · exact hm.runs hp

theorem Stands.withPending (hm : Stands A P m) (id : Uuid) (ht : target.IsRun) :
    Stands A P (m.withPending id target) where
  sound := hm.sound
  kept := hm.kept
  runs {other t} hp := by
    rw [pendingStatus?_withPending] at hp
    split at hp
    · cases hp
      exact ht
    · exact hm.runs hp

theorem settle_stands {x : Except Fault Unit} (h : Honest b A) (hk : op.Heeds b A P)
    (hm : Stands A P m) (he : Ends (settle b.watched id now) m x m') : Stands A P m' := by
  cases settle_cases he with
  | idle => exact hm
  | stored hp hu =>
    exact (hm.watch h hk .updateStatus (.store (hm.runs hp)) hu).withoutPending id
  | known hp hu =>
    exact (hm.watch h hk .updateStatus (.store (hm.runs hp)) hu).withoutPending id
  | lost hp hu =>
    exact hm.watch h hk .updateStatus (.store (hm.runs hp)) hu

theorem ready_stands {isReady : Status → Bool} {x : Except Fault Record} (h : Honest b A)
    (hk : op.Heeds b A P) (hm : Stands A P m)
    (he : Ends (ready b.watched id isReady target) m x m') : Stands A P m' := by
  cases ready_cases he with
  | missing hg =>
    exact hm.watch h hk .get .get hg
  | unready hg =>
    exact hm.watch h hk .get .get hg
  | ready hg =>
    exact hm.watch h hk .get .get hg

/-- The rest of an operation begins where the changeset is ready for it. -/
theorem prepare_stands {α : Type} {isReady : Status → Bool}
    {rest : Record → Action (Manager (Watched σ)) α} {x : Except Fault α} (h : Honest b A)
    (hk : op.Heeds b A P) (hm : Stands A P m)
    (hr : ∀ {r m₁ m₂ s}, Stands A P m₁ → A.statusOf m₁.world.world id = some s →
      isReady s = true → Ends (rest r) m₁ x m₂ → Stands A P m₂)
    (hc : Prepares b.watched id isReady target now rest m x m') : Stands A P m' := by
  cases hc with
  | unsettled hs => exact settle_stands h hk hm hs
  | unready hs hg => exact ready_stands h hk (settle_stands h hk hm hs) hg
  | @prepared r _ m₁ m₂ _ hs hg he =>
    have hm₁ := settle_stands h hk hm hs
    obtain ⟨hq, hf⟩ := ready_pages h hm₁.sound hg
    obtain ⟨s, hst, hi⟩ := hf r rfl
    have hst₂ : A.statusOf m₂.world.world id = some s :=
      (congrArg (fun p => p.entry.bind A.status) (hq id)).trans hst
    exact hr (ready_stands h hk hm₁ hg) hst₂ hi he

theorem validate_stands {x : Except Fault Record} (h : Honest b A) (hk : op.Heeds b A P)
    (hm : Stands A P m) (he : Ends (validate b.watched id now) m x m') : Stands A P m' := by
  refine prepare_stands h hk hm ?_ (validate_cases he)
  intro r m₁ m₂ s hm _ _ hc
  cases check_cases hc with
  | failed hd =>
    exact hm.watch h hk .validate .validate hd
  | reported hd hw =>
    have hchecked := hm.watch h hk .validate .validate hd
    exact hchecked.watch h hk .updateStatus .check hw

theorem execute_stands {c : Call} {run : Action σ Outcome} {x : Except Fault Record}
    (h : Honest b A) (hk : op.Heeds b A P) (ht : target.IsRun)
    (ho : ∀ {w y w'}, Ends run w y w' → b.Occurs ⟨c, .outcome y, w, w'⟩)
    (ha : ∀ {w s}, A.statusOf w id = some s → s.canMoveTo target = true → op.Asks A w c)
    (hm : Stands A P m)
    (he : Ends (execute b.watched id target (watch c .outcome run) now) m x m') :
    Stands A P m' := by
  refine prepare_stands h hk hm ?_ (execute_cases he)
  intro r m₁ m₂ s hm hst hs hc
  cases runAndStore_cases hc with
  | raised hr =>
    exact hm.watch h hk ho (ha hst hs) hr
  | refused hr =>
    exact hm.watch h hk ho (ha hst hs) hr
  | recorded hr _ _ hg =>
    have hran := hm.watch h hk ho (ha hst hs) hr
    exact hran.watch h hk .get .get hg
  | stored hr _ _ hw =>
    have hran := hm.watch h hk ho (ha hst hs) hr
    exact hran.watch h hk .updateStatus (.store ht) hw
  | lost hr _ _ hw =>
    have hran := hm.watch h hk ho (ha hst hs) hr
    have hlost := hran.watch h hk .updateStatus (.store ht) hw
    exact hlost.withPending id ht

theorem abandon_stands {reason : String} {x : Except Fault Record} (h : Honest b A)
    (hk : op.Heeds b A P) (ho : op = .abandon id reason now) (hm : Stands A P m)
    (he : Ends (abandon b.watched id reason now) m x m') : Stands A P m' := by
  refine prepare_stands h hk hm ?_ (abandon_cases he)
  intro r m₁ m₂ s hm hst hs hc
  obtain rfl := eq_of_beq hs
  obtain ⟨w, hw, rfl⟩ := ends_inWorld.mp hc
  exact hm.watch h hk .updateStatus (.abandon ho hst) hw

theorem createDraft_stands {request : ChangeRequest} {createdBy : Option String} {stamp : Stamp}
    {x : Except Fault Record} (h : Honest b A) (hk : op.Heeds b A P) (hm : Stands A P m)
    (he : Ends (createDraft b.watched request createdBy stamp) m x m') : Stands A P m' := by
  cases createDraft_cases he with
  | rejected => exact hm
  | unchecked _ hd =>
    exact hm.watch h hk .validate .validate hd
  | inserted _ hd hi =>
    have hchecked := hm.watch h hk .validate .validate hd
    exact hchecked.watch h hk .insert (.insert (.checked ..)) hi

theorem saveDraft_stands {request : ChangeRequest} {createdBy : Option String} {stamp : Stamp}
    {x : Except Fault Record} (h : Honest b A) (hk : op.Heeds b A P) (hm : Stands A P m)
    (he : Ends (saveDraft b.watched request createdBy stamp) m x m') : Stands A P m' := by
  cases saveDraft_cases he with
  | rejected => exact hm
  | inserted _ hi =>
    exact hm.watch h hk .insert (.insert (.draft ..)) hi

end Stands
end Manager

open Manager

/-- An operation makes no other calls than those that belong to it. -/
theorem Operation.act_stands {σ ρ : Type} {b : Backend σ} {A : Archive σ ρ}
    {P : Watched σ → Prop} {m m' : Manager (Watched σ)} {x : Except Fault Answer} {op : Operation}
    (h : Honest b A) (hk : op.Heeds b A P) (hm : Stands A P m)
    (he : Ends (op.act b.watched) m x m') : Stands A P m' := by
  cases op with
  | preview =>
    obtain ⟨-, rfl⟩ := ends_pure.mp he
    exact hm
  | createDraft =>
    obtain ⟨_, hc, -⟩ := ends_bind_pure.mp he
    exact createDraft_stands h hk hm hc
  | saveDraft =>
    obtain ⟨_, hc, -⟩ := ends_bind_pure.mp he
    exact saveDraft_stands h hk hm hc
  | get =>
    obtain ⟨_, hc, -⟩ := ends_bind_pure.mp he
    obtain ⟨_, hw, rfl⟩ := ends_inWorld.mp hc
    exact hm.watch h hk .get .get hw
  | list =>
    obtain ⟨_, hc, -⟩ := ends_bind_pure.mp he
    obtain ⟨_, hw, rfl⟩ := ends_inWorld.mp hc
    exact hm.watch h hk .list .list hw
  | validate =>
    obtain ⟨_, hc, -⟩ := ends_bind_pure.mp he
    exact validate_stands h hk hm hc
  | apply =>
    obtain ⟨_, hc, -⟩ := ends_bind_pure.mp he
    refine execute_stands h hk (Or.inl rfl) (fun hr => .apply hr) ?_ hm hc
    intro w s hs ht
    exact .apply (Status.eq_validated_of_canMoveTo ht ▸ hs)
  | revert =>
    obtain ⟨_, hc, -⟩ := ends_bind_pure.mp he
    refine execute_stands h hk (Or.inr rfl) (fun hr => .revert hr) ?_ hm hc
    intro w s hs ht
    exact .revert (Status.eq_applied_of_canMoveTo ht ▸ hs)
  | abandon =>
    obtain ⟨_, hc, -⟩ := ends_bind_pure.mp he
    exact abandon_stands h hk rfl hm hc

end Evolution
