import Evolution.Proofs.Lifecycle.Page

/-! A manager over a backend that can store the status of every run never has to report that one
was lost, and nothing ever stays pending. -/
namespace Evolution

open Evolution.Action Manager
open Time (Instant)

/-- It is not the report of a manager that a status was lost. -/
def Fault.Plain (e : Fault) : Prop :=
  ∀ id s, e ≠ .statusNotRecorded id s

/-- A status that an executor leaves to the store is stored there. Reports of lost statuses do not
come from the calls themselves. -/
structure Reliable {σ ρ : Type} (b : Backend σ) (A : Archive σ ρ) : Prop where
  insert (r) : FailsIn Fault.Plain (b.insert r)
  get (id) : FailsIn Fault.Plain (b.get id)
  list (f) : FailsIn Fault.Plain (b.list f)
  updateStatus (id u now) : FailsIn Fault.Plain (b.updateStatus id u now)
  validate (statements) : FailsIn Fault.Plain (b.validate statements)
  apply (id now) : FailsIn Fault.Plain (b.apply id now)
  revert (id now) : FailsIn Fault.Plain (b.revert id now)
  applied {id now o w v} : A.Sound w → A.statusOf w id = some .validated →
    Ends (b.apply id now) w (.ok o) v → o.ok = true → o.statusRecorded = false →
      ∀ {now e v'}, ¬ Ends (b.updateStatus id { status := .applied } now) v (.error e) v'
  reverted {id now o w v} : A.Sound w → A.statusOf w id = some .applied →
    Ends (b.revert id now) w (.ok o) v → o.ok = true → o.statusRecorded = false →
      ∀ {now e v'}, ¬ Ends (b.updateStatus id { status := .reverted } now) v (.error e) v'

namespace Manager

variable {σ ρ : Type} {b : Backend σ} {A : Archive σ ρ} {m m' : Manager (Watched σ)} {id : Uuid}
  {now : Instant}

/-- Nothing is left pending, and the answer is no report of a lost status. -/
def Settled {α : Type} (x : Except Fault α) (m : Manager (Watched σ)) : Prop :=
  m.pending = [] ∧ ErrorsIn Fault.Plain x

theorem errorsIn_watch {α : Type} {c : Call} {k : Except Fault α → Reply} {a : Action σ α}
    {x : Except Fault α} {w w' : Watched σ} (ha : FailsIn Fault.Plain a)
    (he : Ends (watch c k a) w x w') : ErrorsIn Fault.Plain x := by
  obtain ⟨v, hv, rfl⟩ := ends_watch.mp he
  exact fun e hx => ha.ends (hx ▸ hv)

theorem settle_idle {x : Except Fault Unit} (hp : m.pending = [])
    (he : Ends (settle b.watched id now) m x m') : x = .ok () ∧ m' = m := by
  have hn : m.pendingStatus? id = none := by rw [pendingStatus?, hp, List.lookup_nil]
  cases settle_cases he with
  | idle => exact ⟨rfl, rfl⟩
  | stored h => simp [hn] at h
  | known h => simp [hn] at h
  | lost h => simp [hn] at h

theorem ready_settled {isReady : Status → Bool} {target : Status} {x : Except Fault Record}
    (hb : Reliable b A) (hp : m.pending = [])
    (he : Ends (ready b.watched id isReady target) m x m') : Settled x m' := by
  cases ready_cases he with
  | missing hg => exact ⟨hp, errorsIn_watch (hb.get id) hg⟩
  | unready => exact ⟨hp, .error nofun⟩
  | ready => exact ⟨hp, .ok⟩

theorem prepare_settled {α : Type} {isReady : Status → Bool} {target : Status}
    {rest : Record → Action (Manager (Watched σ)) α} {x : Except Fault α} (h : Honest b A)
    (hb : Reliable b A) (hs : A.Sound m.world.world) (hp : m.pending = [])
    (hr : ∀ {r m₁ m₂ s}, A.Sound m₁.world.world → m₁.pending = [] →
      A.statusOf m₁.world.world id = some s → isReady s = true →
      Ends (rest r) m₁ x m₂ → Settled x m₂)
    (hc : Prepares b.watched id isReady target now rest m x m') : Settled x m' := by
  cases hc with
  | unsettled hu => cases (settle_idle hp hu).1
  | unready hu hg =>
    obtain ⟨-, rfl⟩ := settle_idle hp hu
    have hq := ready_settled hb hp hg
    exact ⟨hq.1, .error (hq.2 _ rfl)⟩
  | @prepared r _ m₁ m₂ _ hu hg he =>
    obtain ⟨-, rfl⟩ := settle_idle hp hu
    obtain ⟨hq, hf⟩ := ready_pages h hs hg
    obtain ⟨s, hst, hi⟩ := hf r rfl
    have hst₂ : A.statusOf m₂.world.world id = some s :=
      (congrArg (fun p => p.entry.bind A.status) (hq id)).trans hst
    exact hr (ready_keeps h.sound.watched hs hg) (ready_settled hb hp hg).1 hst₂ hi he

theorem runAndStore_settled {c : Call} {target : Status} {run : Action σ Outcome}
    {x : Except Fault Record} (hb : Reliable b A) (hp : m.pending = [])
    (ha : FailsIn Fault.Plain run)
    (hrun : ∀ {o v}, Ends run m.world.world (.ok o) v → o.ok = true → o.statusRecorded = false →
      ∀ {now e v'}, ¬ Ends (b.updateStatus id { status := target } now) v (.error e) v')
    (he : Ends (runAndStore b.watched id target (watch c .outcome run) now) m x m') :
    Settled x m' := by
  cases runAndStore_cases he with
  | raised hr => exact ⟨hp, .error (errorsIn_watch ha hr _ rfl)⟩
  | refused => exact ⟨hp, .error nofun⟩
  | recorded _ _ _ hg => exact ⟨hp, errorsIn_watch (hb.get id) hg⟩
  | stored => exact ⟨hp, .ok⟩
  | lost hr ho hs hu =>
    obtain ⟨v, hv, rfl⟩ := ends_watch.mp hr
    obtain ⟨_, hw, rfl⟩ := ends_watch.mp hu
    exact (hrun hv ho hs hw).elim

theorem validate_settled {x : Except Fault Record} (h : Honest b A) (hb : Reliable b A)
    (hs : A.Sound m.world.world) (hp : m.pending = [])
    (he : Ends (validate b.watched id now) m x m') : Settled x m' := by
  refine prepare_settled h hb hs hp ?_ (validate_cases he)
  intro r m₁ m₂ s _ hp _ _ hc
  cases check_cases hc with
  | failed hv => exact ⟨hp, .error (errorsIn_watch (hb.validate _) hv _ rfl)⟩
  | reported _ hu => exact ⟨hp, errorsIn_watch (hb.updateStatus _ _ _) hu⟩

theorem execute_settled {c : Call} {target : Status} {run : Action σ Outcome}
    {x : Except Fault Record} (h : Honest b A) (hb : Reliable b A)
    (hs : A.Sound m.world.world) (hp : m.pending = []) (ha : FailsIn Fault.Plain run)
    (hrun : ∀ {w s o v}, A.Sound w → A.statusOf w id = some s → s.canMoveTo target = true →
      Ends run w (.ok o) v → o.ok = true → o.statusRecorded = false →
      ∀ {now e v'}, ¬ Ends (b.updateStatus id { status := target } now) v (.error e) v')
    (he : Ends (execute b.watched id target (watch c .outcome run) now) m x m') :
    Settled x m' := by
  refine prepare_settled h hb hs hp ?_ (execute_cases he)
  intro r m₁ m₂ s hs hp hst hm hc
  exact runAndStore_settled hb hp ha (hrun hs hst hm) hc

theorem abandon_settled {reason : String} {x : Except Fault Record} (h : Honest b A)
    (hb : Reliable b A) (hs : A.Sound m.world.world) (hp : m.pending = [])
    (he : Ends (abandon b.watched id reason now) m x m') : Settled x m' := by
  refine prepare_settled h hb hs hp ?_ (abandon_cases he)
  intro r m₁ m₂ s _ hp _ _ hc
  obtain ⟨w, hw, rfl⟩ := ends_inWorld.mp hc
  exact ⟨hp, errorsIn_watch (hb.updateStatus _ _ _) hw⟩

theorem errorsIn_compileChecked (request : ChangeRequest) :
    ErrorsIn Fault.Plain request.compileChecked := by
  unfold ChangeRequest.compileChecked
  split
  · exact .error nofun
  · dsimp only
    split
    · exact .error nofun
    · split
      · exact .error nofun
      · exact .ok

theorem createDraft_settled {request : ChangeRequest} {createdBy : Option String} {stamp : Stamp}
    {x : Except Fault Record} (hb : Reliable b A) (hp : m.pending = [])
    (he : Ends (createDraft b.watched request createdBy stamp) m x m') : Settled x m' := by
  cases createDraft_cases he with
  | rejected hc => exact ⟨hp, .error (errorsIn_compileChecked request _ hc)⟩
  | unchecked _ hv => exact ⟨hp, .error (errorsIn_watch (hb.validate _) hv _ rfl)⟩
  | inserted _ _ hi => exact ⟨hp, errorsIn_watch (hb.insert _) hi⟩

theorem saveDraft_settled {request : ChangeRequest} {createdBy : Option String} {stamp : Stamp}
    {x : Except Fault Record} (hb : Reliable b A) (hp : m.pending = [])
    (he : Ends (saveDraft b.watched request createdBy stamp) m x m') : Settled x m' := by
  cases saveDraft_cases he with
  | rejected hc => exact ⟨hp, .error (errorsIn_compileChecked request _ hc)⟩
  | inserted _ hi => exact ⟨hp, errorsIn_watch (hb.insert _) hi⟩

end Manager

/-- Whatever is asked of a manager, nothing is left pending. -/
theorem Operation.act_settled {σ ρ : Type} {b : Backend σ} {A : Archive σ ρ}
    {m m' : Manager (Watched σ)} {x : Except Fault Answer} (h : Honest b A) (hb : Reliable b A)
    (hs : A.Sound m.world.world) (hp : m.pending = []) (op : Operation)
    (he : Ends (op.act b.watched) m x m') : Settled x m' := by
  have hmap {α : Type} {y : Except Fault α} {f : α → Answer} (hy : Settled y m') :
      Settled (y.map f) m' := by
    refine ⟨hy.1, ?_⟩
    cases y with
    | ok => exact .ok
    | error e => exact .error (hy.2 e rfl)
  cases op with
  | preview =>
    obtain ⟨rfl, rfl⟩ := ends_pure.mp he
    exact ⟨hp, .ok⟩
  | createDraft =>
    obtain ⟨_, hc, rfl⟩ := ends_bind_pure.mp he
    exact hmap (createDraft_settled hb hp hc)
  | saveDraft =>
    obtain ⟨_, hc, rfl⟩ := ends_bind_pure.mp he
    exact hmap (saveDraft_settled hb hp hc)
  | get id =>
    obtain ⟨_, hc, rfl⟩ := ends_bind_pure.mp he
    obtain ⟨_, hw, rfl⟩ := ends_inWorld.mp hc
    exact hmap ⟨hp, errorsIn_watch (hb.get id) hw⟩
  | list f =>
    obtain ⟨_, hc, rfl⟩ := ends_bind_pure.mp he
    obtain ⟨_, hw, rfl⟩ := ends_inWorld.mp hc
    exact hmap ⟨hp, errorsIn_watch (hb.list f) hw⟩
  | validate =>
    obtain ⟨_, hc, rfl⟩ := ends_bind_pure.mp he
    exact hmap (validate_settled h hb hs hp hc)
  | apply id now =>
    obtain ⟨_, hc, rfl⟩ := ends_bind_pure.mp he
    refine hmap (execute_settled h hb hs hp (hb.apply id now) ?_ hc)
    intro w s o v hw hst hm hv ho hn
    obtain rfl := Status.eq_validated_of_canMoveTo hm
    exact hb.applied hw hst hv ho hn
  | revert id now =>
    obtain ⟨_, hc, rfl⟩ := ends_bind_pure.mp he
    refine hmap (execute_settled h hb hs hp (hb.revert id now) ?_ hc)
    intro w s o v hw hst hm hv ho hn
    obtain rfl := Status.eq_applied_of_canMoveTo hm
    exact hb.reverted hw hst hv ho hn
  | abandon =>
    obtain ⟨_, hc, rfl⟩ := ends_bind_pure.mp he
    exact hmap (abandon_settled h hb hs hp hc)

theorem Leads.unpending {σ ρ : Type} {b : Backend σ} {A : Archive σ ρ} {w : σ}
    {m : Manager (Watched σ)} (h : Honest b A) (hb : Reliable b A) (hs : A.Sound w)
    (hl : Leads A (Operation.act b.watched) (.started w) m) : m.pending = [] := by
  induction hl with
  | refl => rfl
  | step op hl ih =>
    exact (op.act_settled h hb (hl.sound h.sound hs) ih (ends_answer_after _ _)).1
  | meanwhile _ _ _ ih => exact ih

end Evolution
