import Evolution.Proofs.Lifecycle.Archive
import Mathlib.Logic.Relation

/-! The life of one changeset, as the store, the pending status and the runs of its statements tell
it together. Every operation of a manager takes each page through the turns of `Turn` only. -/
namespace Evolution

open Evolution.Action Manager
open Time (Instant)

/-- What is known of one changeset. -/
structure Page (ρ : Type) where
  entry : Option ρ
  pending : Option Status
  /-- The targets of its successful runs, in order. -/
  runs : List Status

/-- A record as it is first stored, unchecked or with the report of a check. -/
inductive Record.IsNew : Record → Prop where
  | draft (c : Changeset) (createdBy : Option String) (stamp : Stamp) :
      IsNew (.ofChangeset c .draft none createdBy stamp)
  | checked (c : Changeset) (report : Report) (createdBy : Option String) (stamp : Stamp) :
      IsNew (.ofChangeset c (Manager.statusOf report) (some report) createdBy stamp)

theorem Record.IsNew.status {r : Record} (h : r.IsNew) :
    r.status = .draft ∨ r.status = .validated ∨ r.status = .failed := by
  cases h with
  | draft => exact Or.inl rfl
  | checked c report =>
    cases hr : report.ok <;> simp [Record.ofChangeset, Manager.statusOf, hr]

/-- Statements are run to get here. -/
def Status.IsRun (s : Status) : Prop :=
  s = .applied ∨ s = .reverted

/-- One thing that can happen to a changeset. -/
inductive Turn {σ ρ : Type} (A : Archive σ ρ) : Page ρ → Page ρ → Prop where
  | insert {r p runs} (new : r.IsNew) : Turn A ⟨none, p, runs⟩ ⟨some (A.ofRecord r), p, runs⟩
  | check {x runs report now} (hs : A.status x = some .draft) :
      Turn A ⟨some x, none, runs⟩ ⟨some (A.moved (updateOfReport report) now x), none, runs⟩
  | abandon {x runs reason now} (hs : A.status x = some .validated) :
      Turn A ⟨some x, none, runs⟩
        ⟨some (A.moved { status := .failed, errorText := some reason } now x), none, runs⟩
  /-- A pending status is stored. -/
  | settle {x s t runs now} (hs : A.status x = some s) (ht : s.canMoveTo t = true) :
      Turn A ⟨some x, some t, runs⟩ ⟨some (A.moved { status := t } now x), none, runs⟩
  /-- A pending status turns out to be stored. -/
  | confirm {x t runs} (ht : A.status x = some t) :
      Turn A ⟨some x, some t, runs⟩ ⟨some x, none, runs⟩
  | run {x s t runs now} (hs : A.status x = some s) (ht : s.canMoveTo t = true) (hr : t.IsRun) :
      Turn A ⟨some x, none, runs⟩ ⟨some (A.moved { status := t } now x), none, runs ++ [t]⟩
  /-- A run whose status could not be stored. -/
  | lose {x s t runs} (hs : A.status x = some s) (ht : s.canMoveTo t = true) (hr : t.IsRun) :
      Turn A ⟨some x, none, runs⟩ ⟨some x, some t, runs ++ [t]⟩
  /-- A run whose status was stored by the executor, which did not say so. -/
  | overlook {x s t runs now} (hs : A.status x = some s) (ht : s.canMoveTo t = true)
      (hr : t.IsRun) :
      Turn A ⟨some x, none, runs⟩ ⟨some (A.moved { status := t } now x), some t, runs ++ [t]⟩

section Advances

variable {σ ρ : Type} {A : Archive σ ρ} {l m m' : Manager (Watched σ)}

def page (A : Archive σ ρ) (m : Manager (Watched σ)) (id : Uuid) : Page ρ :=
  ⟨A.entry m.world.world id, m.pendingStatus? id, m.world.runs id⟩

/-- Every page is reached by turns. -/
def Advances (A : Archive σ ρ) (m m' : Manager (Watched σ)) : Prop :=
  ∀ id, Relation.ReflTransGen (Turn A) (page A m id) (page A m' id)

theorem Advances.of_eq (h : ∀ id, page A m' id = page A m id) : Advances A m m' := by
  intro id
  rw [h id]

theorem Advances.of_turn (id : Uuid) (ho : ∀ other, other ≠ id → page A m' other = page A m other)
    (ht : Turn A (page A m id) (page A m' id)) : Advances A m m' := by
  intro other
  by_cases h : other = id
  · subst h
    exact .single ht
  · rw [ho other h]

theorem Advances.trans (h : Advances A l m) (h' : Advances A m m') : Advances A l m' :=
  fun id => (h id).trans (h' id)

end Advances

namespace Manager

variable {σ ρ : Type} {b : Backend σ} {A : Archive σ ρ} {m m' : Manager (Watched σ)} {id : Uuid}
  {now : Instant}

/-- A call that ran no statements shows in the entries only. -/
theorem page_note {e : Event σ} (h : e.success? id = none) :
    page A { m with world := m.world.note e } id =
      ⟨A.entry e.after id, m.pendingStatus? id, m.world.runs id⟩ := by
  simp only [page, Watched.note_world, Watched.note_runs_of_none h, pendingStatus?]

theorem page_note_of_eq {e : Event σ} (h : e.success? id = none)
    (he : A.entry e.after = A.entry m.world.world) :
    page A { m with world := m.world.note e } id = page A m id := by
  rw [page_note h, he]
  rfl

theorem page_withoutPending (i : Uuid) :
    page A (m.withoutPending i) id =
      ⟨A.entry m.world.world id, if id = i then none else m.pendingStatus? id,
        m.world.runs id⟩ := by
  rw [page, pendingStatus?_withoutPending]
  rfl

theorem settle_advances {x : Except Fault Unit} (h : Honest b A) (hs : A.Sound m.world.world)
    (he : Ends (settle b.watched id now) m x m') :
    Advances A m m' ∧ (x = .ok () → m'.pendingStatus? id = none) := by
  cases settle_cases he with
  | idle hp => exact ⟨.of_eq fun _ => rfl, fun _ => hp⟩
  | stored hp hu =>
    obtain ⟨v, hv, rfl⟩ := ends_watch.mp hu
    have hm := h.updateStatus_ok hs hv
    refine ⟨.of_turn id ?_ ?_, fun _ => by simp [pendingStatus?_withoutPending]⟩
    · intro other ho
      rw [page_withoutPending, if_neg ho]
      exact (page_note rfl).trans (by rw [hm.other ho]; rfl)
    · obtain ⟨y, t, hy, ht, hc, hm⟩ := hm.self
      rw [page_withoutPending, if_pos rfl, Watched.note_world, hm,
        Watched.note_runs_of_none rfl, page, hy, hp]
      exact .settle ht hc
  | known hp hu =>
    obtain ⟨v, hv, rfl⟩ := ends_watch.mp hu
    have hm := h.updateStatus_error hs hv
    refine ⟨.of_turn id ?_ ?_, fun _ => by simp [pendingStatus?_withoutPending]⟩
    · intro other ho
      rw [page_withoutPending, if_neg ho]
      exact (page_note rfl).trans (by rw [hm]; rfl)
    · obtain ⟨y, hy, ht⟩ := Option.bind_eq_some_iff.mp (h.updateStatus_refused hs hv)
      rw [page_withoutPending, if_pos rfl, Watched.note_world, hm,
        Watched.note_runs_of_none rfl, page, hy, hp]
      exact .confirm ht
  | lost hp hu =>
    obtain ⟨v, hv, rfl⟩ := ends_watch.mp hu
    exact ⟨.of_eq fun _ => page_note_of_eq rfl (h.updateStatus_error hs hv), nofun⟩

theorem ready_pages {isReady : Status → Bool} {target : Status} {x : Except Fault Record}
    (h : Honest b A) (hs : A.Sound m.world.world)
    (he : Ends (ready b.watched id isReady target) m x m') :
    (∀ i, page A m' i = page A m i) ∧
      ∀ r, x = .ok r → ∃ s, A.statusOf m.world.world id = some s ∧ isReady s = true := by
  cases ready_cases he with
  | missing hg =>
    obtain ⟨v, hv, rfl⟩ := ends_watch.mp hg
    refine ⟨fun _ => page_note_of_eq rfl (h.get hs hv), ?_⟩
    intro _ hx
    cases hx
  | unready hg =>
    obtain ⟨v, hv, rfl⟩ := ends_watch.mp hg
    refine ⟨fun _ => page_note_of_eq rfl (h.get hs hv), ?_⟩
    intro _ hx
    cases hx
  | ready hg hr =>
    obtain ⟨v, hv, rfl⟩ := ends_watch.mp hg
    exact ⟨fun _ => page_note_of_eq rfl (h.get hs hv), fun _ _ => ⟨_, h.get_ok hs hv, hr⟩⟩

/-- Nothing is pending and the entry stands where the operation needs it when the rest begins. -/
theorem prepare_advances {α : Type} {isReady : Status → Bool} {target : Status}
    {rest : Record → Action (Manager (Watched σ)) α} {x : Except Fault α} (h : Honest b A)
    (hs : A.Sound m.world.world)
    (hr : ∀ {r m₁ m₂ y s}, A.Sound m₁.world.world → m₁.pendingStatus? id = none →
      A.entry m₁.world.world id = some y → A.status y = some s → isReady s = true →
      Ends (rest r) m₁ x m₂ → Advances A m₁ m₂)
    (hc : Prepares b.watched id isReady target now rest m x m') : Advances A m m' := by
  cases hc with
  | unsettled hu => exact (settle_advances h hs hu).1
  | unready hu hg =>
    have hs₁ := settle_keeps h.sound.watched hs hu
    exact (settle_advances h hs hu).1.trans (.of_eq (ready_pages h hs₁ hg).1)
  | @prepared r _ m₁ m₂ _ hu hg he =>
    have hs₁ := settle_keeps h.sound.watched hs hu
    have hs₂ := ready_keeps h.sound.watched hs₁ hg
    obtain ⟨ha, hp⟩ := settle_advances h hs hu
    obtain ⟨hq, hf⟩ := ready_pages h hs₁ hg
    obtain ⟨s, hst, hi⟩ := hf r rfl
    obtain ⟨y, hy, hys⟩ := Option.bind_eq_some_iff.mp hst
    have hpage := hq id
    have hp₂ : m₂.pendingStatus? id = none := (congrArg Page.pending hpage).trans (hp rfl)
    have hy₂ : A.entry m₂.world.world id = some y := (congrArg Page.entry hpage).trans hy
    exact (ha.trans (.of_eq hq)).trans (hr hs₂ hp₂ hy₂ hys hi he)

theorem updateStatus_advances {u : StatusUpdate} {y : ρ} {x : Except Fault Record}
    {w : Watched σ} (h : Honest b A) (hs : A.Sound m.world.world)
    (hp : m.pendingStatus? id = none) (hy : A.entry m.world.world id = some y)
    (ht : ∀ runs, Turn A ⟨some y, none, runs⟩ ⟨some (A.moved u now y), none, runs⟩)
    (he : Ends (b.watched.updateStatus id u now) m.world x w) :
    Advances A m { m with world := w } := by
  obtain ⟨v, hv, rfl⟩ := ends_watch.mp he
  cases x with
  | error e => exact .of_eq fun _ => page_note_of_eq rfl (h.updateStatus_error hs hv)
  | ok r =>
    have hm := h.updateStatus_ok hs hv
    refine .of_turn id ?_ ?_
    · intro other ho
      rw [page_note rfl, hm.other ho]
      rfl
    · rw [page_note rfl, page, hm.entry hy, hy, hp]
      exact ht _

theorem insert_advances {r : Record} {x : Except Fault Record} {w : Watched σ} (h : Honest b A)
    (hs : A.Sound m.world.world) (hr : r.IsNew) (he : Ends (b.watched.insert r) m.world x w) :
    Advances A m { m with world := w } := by
  obtain ⟨v, hv, rfl⟩ := ends_watch.mp he
  cases x with
  | error e => exact .of_eq fun _ => page_note_of_eq rfl (h.insert_error hs hv)
  | ok y =>
    obtain ⟨hn, hi⟩ := h.insert_ok hs hv
    refine .of_turn r.id ?_ ?_
    · intro other ho
      rw [page_note rfl, hi, Function.update_of_ne ho]
      rfl
    · rw [page_note rfl, hi, Function.update_self, page, hn]
      exact .insert hr

theorem validate_pages {statements : List String} {x : Except Fault Report} {w : Watched σ}
    (h : Honest b A) (hs : A.Sound m.world.world)
    (he : Ends (b.watched.validate statements) m.world x w) (i : Uuid) :
    page A { m with world := w } i = page A m i := by
  obtain ⟨v, hv, rfl⟩ := ends_watch.mp he
  exact page_note_of_eq rfl (h.validate hs hv)

theorem validate_advances {x : Except Fault Record} (h : Honest b A)
    (hs : A.Sound m.world.world) (he : Ends (validate b.watched id now) m x m') :
    Advances A m m' := by
  refine prepare_advances h hs ?_ (validate_cases he)
  intro r m₁ m₂ y s hs hp hy hst hd hc
  obtain rfl := eq_of_beq hd
  cases check_cases hc with
  | failed hv => exact .of_eq (validate_pages h hs hv)
  | reported hv hu =>
    have hq := validate_pages h hs hv
    exact .trans (.of_eq hq) (updateStatus_advances h (h.sound.watched.validate hs hv)
      ((congrArg Page.pending (hq id)).trans hp) ((congrArg Page.entry (hq id)).trans hy)
      (fun _ => .check hst) hu)

theorem abandon_advances {reason : String} {x : Except Fault Record} (h : Honest b A)
    (hs : A.Sound m.world.world) (he : Ends (abandon b.watched id reason now) m x m') :
    Advances A m m' := by
  refine prepare_advances h hs ?_ (abandon_cases he)
  intro r m₁ m₂ y s hs hp hy hst hv hc
  obtain rfl := eq_of_beq hv
  obtain ⟨w, hw, rfl⟩ := ends_inWorld.mp hc
  exact updateStatus_advances h hs hp hy (fun _ => .abandon hst) hw

theorem createDraft_advances {request : ChangeRequest} {createdBy : Option String} {stamp : Stamp}
    {x : Except Fault Record} (h : Honest b A) (hs : A.Sound m.world.world)
    (he : Ends (createDraft b.watched request createdBy stamp) m x m') : Advances A m m' := by
  cases createDraft_cases he with
  | rejected => exact .of_eq fun _ => rfl
  | unchecked _ hv => exact .of_eq (validate_pages h hs hv)
  | inserted _ hv hi =>
    exact .trans (.of_eq (validate_pages h hs hv))
      (insert_advances h (h.sound.watched.validate hs hv) (.checked ..) hi)

theorem saveDraft_advances {request : ChangeRequest} {createdBy : Option String} {stamp : Stamp}
    {x : Except Fault Record} (h : Honest b A) (hs : A.Sound m.world.world)
    (he : Ends (saveDraft b.watched request createdBy stamp) m x m') : Advances A m m' := by
  cases saveDraft_cases he with
  | rejected => exact .of_eq fun _ => rfl
  | inserted _ hi => exact insert_advances h hs (.draft ..) hi

theorem runs_note {w : Watched σ} {c : Call} {o : Outcome} {v : σ} {target : Status}
    (hc : ∀ i, c.target? i = if id = i then some target else none) (ho : o.ok = true) (i : Uuid) :
    (w.note ⟨c, .outcome (.ok o), w.world, v⟩).runs i =
      w.runs i ++ if id = i then [target] else [] := by
  rw [Watched.note_runs, Event.success?_succeeded ho, hc]
  split <;> rfl

/-- After a successful run only the page of the changeset is another. -/
theorem advances_ran {c : Call} {o : Outcome} {v : σ} {w : Watched σ} {target : Status}
    (hc : ∀ i, c.target? i = if id = i then some target else none) (ho : o.ok = true)
    (hr : ∀ i, w.runs i = (m.world.note ⟨c, .outcome (.ok o), m.world.world, v⟩).runs i)
    (he : ∀ i, i ≠ id → A.entry w.world i = A.entry m.world.world i)
    (ht : Turn A (page A m id)
      ⟨A.entry w.world id, m'.pendingStatus? id, m.world.runs id ++ [target]⟩)
    (hw : m'.world = w) (hp : ∀ i, i ≠ id → m'.pendingStatus? i = m.pendingStatus? i) :
    Advances A m m' := by
  subst hw
  refine .of_turn id ?_ ?_
  · intro other hne
    rw [page, he other hne, hp other hne, hr, runs_note hc ho, if_neg (Ne.symm hne),
      List.append_nil]
    rfl
  · rw [page.eq_def A m', hr, runs_note hc ho, if_pos rfl]
    exact ht

/-- A run whose status is stored, by the executor or after it. -/
theorem advances_moved {c : Call} {o : Outcome} {v : σ} {w : Watched σ} {target : Status} {y : ρ}
    {s : Status} {t : Instant} (hp : m.pendingStatus? id = none)
    (hy : A.entry m.world.world id = some y) (hst : A.status y = some s)
    (hm : s.canMoveTo target = true) (ht : target.IsRun)
    (hc : ∀ i, c.target? i = if id = i then some target else none) (ho : o.ok = true)
    (hr : ∀ i, w.runs i = (m.world.note ⟨c, .outcome (.ok o), m.world.world, v⟩).runs i)
    (hmv : A.Moved m.world.world id { status := target } t w.world) :
    Advances A m { m with world := w } := by
  refine advances_ran hc ho hr (fun _ hne => hmv.other hne) ?_ rfl fun _ _ => rfl
  have hp' : ({ m with world := w } : Manager (Watched σ)).pendingStatus? id = none := hp
  rw [page, hy, hp, hp', hmv.entry hy]
  exact .run hst hm ht

theorem runAndStore_advances {c : Call} {target : Status} {run : Action σ Outcome}
    {x : Except Fault Record} {y : ρ} {s : Status} (h : Honest b A)
    (hp : m.pendingStatus? id = none) (hy : A.entry m.world.world id = some y)
    (hst : A.status y = some s) (hm : s.canMoveTo target = true) (ht : target.IsRun)
    (hc : ∀ i, c.target? i = if id = i then some target else none)
    (hrun : ∀ {o v}, Ends run m.world.world o v →
      A.Sound v ∧ A.Ran m.world.world id target v o)
    (he : Ends (runAndStore b.watched id target (watch c .outcome run) now) m x m') :
    Advances A m m' := by
  have hpage : page A m id = ⟨some y, none, m.world.runs id⟩ := by rw [page, hy, hp]
  cases runAndStore_cases he with
  | raised hr =>
    obtain ⟨v, hv, rfl⟩ := ends_watch.mp hr
    cases (hrun hv).2 with
    | raised hk => exact .of_eq fun _ => page_note_of_eq rfl hk
  | refused hr ho =>
    obtain ⟨v, hv, rfl⟩ := ends_watch.mp hr
    cases (hrun hv).2 with
    | refused _ hk => exact .of_eq fun _ => page_note_of_eq (Event.success?_refused ho) hk
    | unmoved ho' => simp [ho] at ho'
    | moved ho' => simp [ho] at ho'
  | recorded hr ho hrec hg =>
    obtain ⟨v, hv, rfl⟩ := ends_watch.mp hr
    obtain ⟨u, hu, rfl⟩ := ends_watch.mp hg
    obtain ⟨hs', hran⟩ := hrun hv
    have hk : A.entry u = A.entry v := h.get hs' hu
    cases hran with
    | refused ho' => simp [ho] at ho'
    | unmoved _ hrec' => simp [hrec] at hrec'
    | moved _ hmv =>
      exact advances_moved hp hy hst hm ht hc ho (fun _ => Watched.note_runs_of_none rfl)
        (hmv.congr rfl hk)
  | stored hr ho hrec hw =>
    obtain ⟨v, hv, rfl⟩ := ends_watch.mp hr
    obtain ⟨u, hu, rfl⟩ := ends_watch.mp hw
    obtain ⟨hs', hran⟩ := hrun hv
    have hmu := h.updateStatus_ok hs' hu
    cases hran with
    | refused ho' => simp [ho] at ho'
    | moved _ hmv => exact (hmv.not_again rfl hmu).elim
    | unmoved _ _ hk =>
      exact advances_moved hp hy hst hm ht hc ho (fun _ => Watched.note_runs_of_none rfl)
        (hmu.congr hk.symm rfl)
  | lost hr ho hrec hw =>
    obtain ⟨v, hv, rfl⟩ := ends_watch.mp hr
    obtain ⟨u, hu, rfl⟩ := ends_watch.mp hw
    obtain ⟨hs', hran⟩ := hrun hv
    have hku : A.entry u = A.entry v := h.updateStatus_error hs' hu
    cases hran with
    | refused ho' => simp [ho] at ho'
    | moved _ hmv =>
      refine advances_ran hc ho (fun _ => Watched.note_runs_of_none rfl) ?_ ?_ rfl ?_
      · intro other hne
        exact (congrFun hku other).trans (hmv.other hne)
      · rw [hpage, Watched.note_world, hku, hmv.entry hy, pendingStatus?_withPending, if_pos rfl]
        exact .overlook hst hm ht
      · intro other hne
        exact (pendingStatus?_withPending _ _ _ _).trans (if_neg hne)
    | unmoved _ _ hk =>
      refine advances_ran hc ho (fun _ => Watched.note_runs_of_none rfl) ?_ ?_ rfl ?_
      · intro other _
        exact congrFun (hku.trans hk) other
      · rw [hpage, Watched.note_world, hku, hk, hy, pendingStatus?_withPending, if_pos rfl]
        exact .lose hst hm ht
      · intro other hne
        exact (pendingStatus?_withPending _ _ _ _).trans (if_neg hne)

theorem execute_advances {c : Call} {target : Status} {run : Action σ Outcome}
    {x : Except Fault Record} (h : Honest b A) (hs : A.Sound m.world.world) (ht : target.IsRun)
    (hc : ∀ i, c.target? i = if id = i then some target else none)
    (hrun : ∀ {w s o v}, A.Sound w → A.statusOf w id = some s → s.canMoveTo target = true →
      Ends run w o v → A.Sound v ∧ A.Ran w id target v o)
    (he : Ends (execute b.watched id target (watch c .outcome run) now) m x m') :
    Advances A m m' := by
  refine prepare_advances h hs ?_ (execute_cases he)
  intro r m₁ m₂ y s hs hp hy hst hm hc'
  refine runAndStore_advances h hp hy hst hm ht hc ?_ hc'
  intro o v hv
  exact hrun hs (by rw [Archive.statusOf, hy, Option.bind_some, hst]) hm hv

end Manager

theorem Status.eq_validated_of_canMoveTo {s : Status} (h : s.canMoveTo .applied = true) :
    s = .validated := by
  cases s <;> first | rfl | cases h

theorem Status.eq_applied_of_canMoveTo {s : Status} (h : s.canMoveTo .reverted = true) :
    s = .applied := by
  cases s <;> first | rfl | cases h

/-- Whatever is asked of a manager, it takes every changeset through turns of its life only. -/
theorem Operation.act_advances {σ ρ : Type} {b : Backend σ} {A : Archive σ ρ}
    {m m' : Manager (Watched σ)} {x : Except Fault Answer} (h : Honest b A)
    (hs : A.Sound m.world.world) (op : Operation) (he : Ends (op.act b.watched) m x m') :
    Advances A m m' := by
  cases op with
  | preview =>
    obtain ⟨-, rfl⟩ := ends_pure.mp he
    exact .of_eq fun _ => rfl
  | createDraft =>
    obtain ⟨_, hc, -⟩ := ends_bind_pure.mp he
    exact createDraft_advances h hs hc
  | saveDraft =>
    obtain ⟨_, hc, -⟩ := ends_bind_pure.mp he
    exact saveDraft_advances h hs hc
  | get =>
    obtain ⟨_, hc, -⟩ := ends_bind_pure.mp he
    obtain ⟨_, hw, rfl⟩ := ends_inWorld.mp hc
    obtain ⟨v, hv, rfl⟩ := ends_watch.mp hw
    exact .of_eq fun _ => page_note_of_eq rfl (h.get hs hv)
  | list =>
    obtain ⟨_, hc, -⟩ := ends_bind_pure.mp he
    obtain ⟨_, hw, rfl⟩ := ends_inWorld.mp hc
    obtain ⟨v, hv, rfl⟩ := ends_watch.mp hw
    exact .of_eq fun _ => page_note_of_eq rfl (h.list hs hv)
  | validate =>
    obtain ⟨_, hc, -⟩ := ends_bind_pure.mp he
    exact validate_advances h hs hc
  | apply id now =>
    obtain ⟨_, hc, -⟩ := ends_bind_pure.mp he
    refine execute_advances h hs (Or.inl rfl) (fun _ => rfl) ?_ hc
    intro w s o v hw hst hm hv
    obtain rfl := Status.eq_validated_of_canMoveTo hm
    exact ⟨h.sound.apply hw hv, h.apply hw hst hv⟩
  | revert id now =>
    obtain ⟨_, hc, -⟩ := ends_bind_pure.mp he
    refine execute_advances h hs (Or.inr rfl) (fun _ => rfl) ?_ hc
    intro w s o v hw hst hm hv
    obtain rfl := Status.eq_applied_of_canMoveTo hm
    exact ⟨h.sound.revert hw hv, h.revert hw hst hv⟩
  | abandon =>
    obtain ⟨_, hc, -⟩ := ends_bind_pure.mp he
    exact abandon_advances h hs hc

namespace Leads

variable {σ ρ : Type} {b : Backend σ} {A : Archive σ ρ} {l m : Manager (Watched σ)}

theorem sound (h : b.Keeps A.Sound) (hs : A.Sound l.world.world)
    (hl : Leads A (Operation.act b.watched) l m) : A.Sound m.world.world :=
  hl.keeps (P := fun w => A.Sound w.world)
    (fun {op m} hm => op.act_keeps h.watched hm (ends_answer_after _ m)) (fun _ hw _ => hw) hs

theorem advances (h : Honest b A) (hs : A.Sound l.world.world)
    (hl : Leads A (Operation.act b.watched) l m) : Advances A l m := by
  induction hl with
  | refl => exact .of_eq fun _ => rfl
  | step op hl ih =>
    exact ih.trans (op.act_advances h (hl.sound h.sound hs) (ends_answer_after _ _))
  | @meanwhile m w _ he _ ih =>
    refine ih.trans (.of_eq ?_)
    intro id
    rw [page, he]
    rfl

end Leads
end Evolution
