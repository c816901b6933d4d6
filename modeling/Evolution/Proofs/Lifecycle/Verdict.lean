import Evolution.Proofs.Lifecycle.Asking

/-! Status, report and error text of a changeset are written together by some operations and one by
one by others. They fit together all the same, wherever the operations of a manager lead. -/
namespace Evolution

open Evolution.Action Manager
open Time (Instant)

/-- A report that was not ok says why. -/
theorem Report.errorText_ne_none {report : Report} (h : report.ok = false) :
    report.errorText ≠ none := by
  cases he : report.errors <;> simp [errorText, h, he]

/-- The report and the error text are those of the status; `given` are the reasons for which the
changeset has been given up. -/
structure Record.Coherent (given : String → Prop) (r : Record) : Prop where
  report : r.report = none ↔ r.status = .draft
  errorText : r.errorText ≠ none ↔ r.status = .failed
  passed : r.status = .validated ∨ r.status = .applied ∨ r.status = .reverted →
    ∃ report, r.report = some report ∧ report.ok = true
  rejected {report} : r.status = .failed → r.report = some report → report.ok = false →
    r.errorText = report.errorText
  abandoned {report} : r.status = .failed → r.report = some report → report.ok = true →
    ∃ reason, given reason ∧ r.errorText = some reason

namespace Record

variable {given : String → Prop} {r : Record} {report : Report} {now : Instant}

theorem Coherent.imp {given' : String → Prop} (h : r.Coherent given)
    (hg : r.status = .failed → ∀ reason, given reason → given' reason) : r.Coherent given' where
  report := h.report
  errorText := h.errorText
  passed := h.passed
  rejected := h.rejected
  abandoned hs hr ho := by
    obtain ⟨reason, hgiven, he⟩ := h.abandoned hs hr ho
    exact ⟨reason, hg hs reason hgiven, he⟩

/-- Only the three parts count. -/
theorem Coherent.congr {r' : Record} (h : r.Coherent given) (hs : r'.status = r.status)
    (hr : r'.report = r.report) (he : r'.errorText = r.errorText) : r'.Coherent given where
  report := by
    rw [hs, hr]
    exact h.report
  errorText := by
    rw [hs, he]
    exact h.errorText
  passed := by
    rw [hs, hr]
    exact h.passed
  rejected := by
    rw [hs, hr, he]
    exact h.rejected
  abandoned := by
    rw [hs, hr, he]
    exact h.abandoned

/-- A report decides between two statuses, and gives the error text of the one. -/
theorem coherent_of_report (hr : r.report = some report) (hs : r.status = statusOf report)
    (he : r.errorText = report.errorText) : r.Coherent given := by
  cases ho : report.ok with
  | false =>
    have hf : r.status = .failed := by simp [hs, statusOf, ho]
    have ht : r.errorText ≠ none := he ▸ Report.errorText_ne_none ho
    clear hs
    constructor <;> simp_all
  | true =>
    have hv : r.status = .validated := by simp [hs, statusOf, ho]
    have ht : r.errorText = none := by simp [he, Report.errorText, ho]
    clear hs he
    constructor <;> simp_all

theorem IsNew.coherent (h : r.IsNew) : r.Coherent given := by
  cases h with
  | draft => constructor <;> simp [ofChangeset]
  | checked c report => exact coherent_of_report rfl rfl rfl

theorem coherent_checked (report : Report) (now : Instant) (r : Record) :
    (r.moved (updateOfReport report) now).Coherent given := by
  have hr : (r.moved (updateOfReport report) now).report = some report := by
    cases ho : report.ok <;> simp [moved, updateOfReport, ho]
  have hs : (r.moved (updateOfReport report) now).status = statusOf report := by
    cases ho : report.ok <;> simp [moved, updateOfReport, statusOf, ho]
  have he : (r.moved (updateOfReport report) now).errorText = report.errorText := by
    cases ho : report.ok <;> simp [moved, updateOfReport, Report.errorText, ho]
  exact coherent_of_report hr hs he

/-- A run begins where a report has passed, and keeps it. -/
theorem Coherent.run {target : Status} (h : r.Coherent given) (ht : target.IsRun)
    (hm : r.status.canMoveTo target = true) :
    (r.moved { status := target } now).Coherent given := by
  have hs : r.status = .validated ∨ r.status = .applied ∨ r.status = .reverted := by
    rcases ht with rfl | rfl
    · exact Or.inl (Status.eq_validated_of_canMoveTo hm)
    · exact Or.inr (Or.inl (Status.eq_applied_of_canMoveTo hm))
  obtain ⟨report, hr, ho⟩ := h.passed hs
  rcases ht with rfl | rfl <;> constructor <;> simp [moved, hr, ho]

theorem Coherent.abandon {reason : String} (h : r.Coherent given) (hg : given reason)
    (hs : r.status = .validated) :
    (r.moved { status := .failed, errorText := some reason } now).Coherent given := by
  obtain ⟨report, hr, ho⟩ := h.passed (Or.inl hs)
  constructor <;> simp [moved, hr, ho, hg]

end Record

namespace Archive

variable {σ ρ : Type} {b : Backend σ} {A : Archive σ ρ} {shows : ρ → Record → Prop}
  {given : Uuid → String → Prop} {w w' : σ} {id : Uuid} {u : StatusUpdate} {now : Instant}

/-- How much of a record an entry shows, at least its status. -/
structure Showing (A : Archive σ ρ) (shows : ρ → Record → Prop) : Prop where
  ofRecord (r) : shows (A.ofRecord r) r
  moved {x r u now} : shows x r → shows (A.moved u now x) (r.moved u now)
  status {x r} : shows x r → A.status x = some r.status

/-- Every changeset shows a coherent record. -/
def Coherent (A : Archive σ ρ) (shows : ρ → Record → Prop) (given : Uuid → String → Prop)
    (w : σ) : Prop :=
  ∀ id x, A.entry w id = some x → ∃ r, shows x r ∧ r.Coherent (given id)

theorem Coherent.of_entry (h : A.Coherent shows given w) (he : A.entry w' = A.entry w) :
    A.Coherent shows given w' := by
  intro id x hx
  rw [he] at hx
  exact h id x hx

theorem Coherent.insert {r : Record} (h : A.Coherent shows given w) (hs : A.Showing shows)
    (hr : r.IsNew)
    (he : A.entry w' = Function.update (A.entry w) r.id (some (A.ofRecord r))) :
    A.Coherent shows given w' := by
  intro id x hx
  rw [he] at hx
  by_cases hi : id = r.id
  · subst hi
    rw [Function.update_self] at hx
    cases hx
    exact ⟨r, hs.ofRecord r, hr.coherent⟩
  · rw [Function.update_of_ne hi] at hx
    exact h id x hx

theorem Coherent.moved (h : A.Coherent shows given w) (hs : A.Showing shows)
    (hm : A.Moved w id u now w')
    (hu : ∀ {r : Record}, r.Coherent (given id) → A.statusOf w id = some r.status →
      r.status.canMoveTo u.status = true → (r.moved u now).Coherent (given id)) :
    A.Coherent shows given w' := by
  obtain ⟨y, s, hy, hys, hc, he⟩ := hm
  intro other x hx
  rw [he] at hx
  by_cases hi : other = id
  · subst hi
    rw [Function.update_self] at hx
    cases hx
    obtain ⟨r, hr, hrc⟩ := h other y hy
    have hst := hs.status hr
    obtain rfl : s = r.status := Option.some.inj (hys.symm.trans hst)
    have hso : A.statusOf w other = some r.status := by
      rw [statusOf, hy, Option.bind_some, hst]
    exact ⟨_, hs.moved hr, hu hrc hso hc⟩
  · rw [Function.update_of_ne hi] at hx
    exact h other x hx

theorem Coherent.ran {target : Status} {x : Except Fault Outcome} (h : A.Coherent shows given w)
    (hs : A.Showing shows) (ht : target.IsRun) (hr : A.Ran w id target w' x) :
    A.Coherent shows given w' := by
  cases hr with
  | raised he => exact h.of_entry he
  | refused _ he => exact h.of_entry he
  | unmoved _ _ he => exact h.of_entry he
  | moved _ hm => exact h.moved hs hm fun hc _ hm => hc.run ht hm

theorem heeds_coherent {op : Operation} (h : Honest b A) (hs : A.Showing shows)
    (hg : ∀ {id reason now}, op = .abandon id reason now → given id reason) :
    op.Heeds b A fun w => A.Coherent shows given w.world := by
  intro w e hc hsound ho hb ha
  have hc : A.Coherent shows given e.before := hb ▸ hc
  have hsound : A.Sound e.before := hb ▸ hsound
  have ha : op.Asks A e.before e.call := hb ▸ ha
  change A.Coherent shows given e.after
  cases ho with
  | @insert r x v v' he =>
    cases ha with
    | insert new =>
      cases x with
      | error => exact hc.of_entry (h.insert_error hsound he)
      | ok => exact hc.insert hs new (h.insert_ok hsound he).2
  | get he => exact hc.of_entry (h.get hsound he)
  | list he => exact hc.of_entry (h.list hsound he)
  | @updateStatus id u now x v v' he =>
    cases x with
    | error => exact hc.of_entry (h.updateStatus_error hsound he)
    | ok =>
      have hm := h.updateStatus_ok hsound he
      cases ha with
      | check => exact hc.moved hs hm fun _ _ _ => Record.coherent_checked _ _ _
      | store run => exact hc.moved hs hm fun hc _ hm => hc.run run hm
      | abandon asked hv =>
        refine hc.moved hs hm ?_
        intro r hr hst _
        exact hr.abandon (hg asked) (Option.some.inj (hst.symm.trans hv))
  | validate he => exact hc.of_entry (h.validate hsound he)
  | apply he =>
    cases ha with
    | apply hv => exact hc.ran hs (Or.inl rfl) (h.apply hsound hv he)
  | revert he =>
    cases ha with
    | revert hv => exact hc.ran hs (Or.inr rfl) (h.revert hsound hv he)

end Archive

section Abandoned

variable {σ ρ : Type} {b : Backend σ} {A : Archive σ ρ} {shows : ρ → Record → Prop}
  {l m m' : Manager (Watched σ)} {id : Uuid} {reason : String}

/-- On the way from `l` to `m`, the changeset was made to fail by giving it up for this reason. -/
def Abandoned (b : Backend σ) (A : Archive σ ρ) (l m : Manager (Watched σ)) (id : Uuid)
    (reason : String) : Prop :=
  ∃ (k : Manager (Watched σ)) (now : Instant),
    Leads A (Operation.act b.watched) l k ∧ A.statusOf k.world.world id ≠ some .failed ∧
    A.statusOf (after ((Operation.abandon id reason now).act b.watched) k).world.world id =
      some .failed ∧
    Leads A (Operation.act b.watched) (after ((Operation.abandon id reason now).act b.watched) k) m

theorem Abandoned.step (h : Abandoned b A l m id reason) (op : Operation) :
    Abandoned b A l (after (op.act b.watched) m) id reason := by
  obtain ⟨k, now, hl, hn, hf, hm⟩ := h
  exact ⟨k, now, hl, hn, hf, .step op hm⟩

theorem Abandoned.meanwhile {w : σ} (h : Abandoned b A l m id reason) (hs : A.Sound w)
    (he : A.entry w = A.entry m.world.world) :
    Abandoned b A l { m with world.world := w } id reason := by
  obtain ⟨k, now, hl, hn, hf, hm⟩ := h
  exact ⟨k, now, hl, hn, hf, .meanwhile hs he hm⟩

theorem Turn.entry_of_failed {p p' : Page ρ} {x : ρ} (h : Turn A p p') (hx : p.entry = some x)
    (hs : A.status x = some .failed) : p'.entry = some x := by
  have hno : ∀ {s t : Status}, A.status x = some s → s.canMoveTo t = false := by
    intro s t hst
    obtain rfl := Option.some.inj (hs.symm.trans hst)
    cases t <;> rfl
  cases h with
  | insert => cases hx
  | check hd =>
    cases hx
    cases hs.symm.trans hd
  | abandon hv =>
    cases hx
    cases hs.symm.trans hv
  | settle hst ht =>
    cases hx
    simp [hno hst] at ht
  | confirm => exact hx
  | run hst ht =>
    cases hx
    simp [hno hst] at ht
  | lose => exact hx
  | overlook hst ht =>
    cases hx
    simp [hno hst] at ht

theorem entry_of_failed_turns {p p' : Page ρ} {x : ρ} (h : Relation.ReflTransGen (Turn A) p p')
    (hx : p.entry = some x) (hs : A.status x = some .failed) : p'.entry = some x := by
  induction h with
  | refl => exact hx
  | tail _ ht ih => exact ht.entry_of_failed ih hs

/-- What has failed is never touched again. -/
theorem Operation.act_failed {x : Except Fault Answer} {op : Operation} (h : Honest b A)
    (hs : A.Sound m.world.world) (hf : A.statusOf m.world.world id = some .failed)
    (he : Ends (op.act b.watched) m x m') :
    A.entry m'.world.world id = A.entry m.world.world id := by
  obtain ⟨y, hy, hyf⟩ := Option.bind_eq_some_iff.mp hf
  exact (entry_of_failed_turns (op.act_advances h hs he id) hy hyf).trans hy.symm

/-- While an operation is under way, the reason that it was asked to record counts as well. -/
def Given (b : Backend σ) (A : Archive σ ρ) (l m : Manager (Watched σ)) (op : Operation)
    (id : Uuid) (reason : String) : Prop :=
  Abandoned b A l m id reason ∨ ∃ now, op = .abandon id reason now

/-- Wherever operations lead from a world without changesets, all changesets are coherent. -/
theorem Leads.coherent (h : Honest b A) (hsh : A.Showing shows) (hs : A.Sound l.world.world)
    (hn : ∀ id, A.entry l.world.world id = none) (hp : l.pending = [])
    (hl : Leads A (Operation.act b.watched) l m) :
    Stands A (fun w => A.Coherent shows (Abandoned b A l m) w.world) m := by
  induction hl with
  | refl =>
    refine ⟨hs, ?_, ?_⟩
    · intro id x hx
      cases (hn id).symm.trans hx
    · intro id target ht
      rw [pendingStatus?, hp, List.lookup_nil] at ht
      cases ht
  | @step m op hl ih =>
    -- whether the changeset fails is only known at the end, so until then the reason is given
    have hm : Stands A (fun w => A.Coherent shows (Given b A l m op) w.world) m := by
      refine ⟨ih.sound, ?_, ih.runs⟩
      intro id x hx
      obtain ⟨r, hr, hc⟩ := ih.kept id x hx
      exact ⟨r, hr, hc.imp fun _ _ hg => Or.inl hg⟩
    have hk : op.Heeds b A fun w => A.Coherent shows (Given b A l m op) w.world :=
      Archive.heeds_coherent h hsh fun ho => Or.inr ⟨_, ho⟩
    have hm' := op.act_stands h hk hm (ends_answer_after _ m)
    refine ⟨hm'.sound, ?_, hm'.runs⟩
    intro id x hx
    -- the reason counts only if this operation made the changeset fail, which it had not before
    by_cases hf : A.statusOf m.world.world id = some .failed
    · have he := op.act_failed h ih.sound hf (ends_answer_after _ m)
      obtain ⟨r, hr, hc⟩ := ih.kept id x (he.symm.trans hx)
      exact ⟨r, hr, hc.imp fun _ _ hg => hg.step op⟩
    · obtain ⟨r, hr, hc⟩ := hm'.kept id x hx
      refine ⟨r, hr, hc.imp ?_⟩
      rintro hrf reason (hg | ⟨now, rfl⟩)
      · exact hg.step op
      · refine ⟨m, now, hl, hf, ?_, .refl⟩
        rw [Archive.statusOf, hx, Option.bind_some, hsh.status hr, hrf]
  | @meanwhile m w hw he hl ih =>
    refine ⟨hw, ?_, ih.runs⟩
    intro id x hx
    obtain ⟨r, hr, hc⟩ := ih.kept id x (he ▸ hx)
    exact ⟨r, hr, hc.imp fun _ _ hg => hg.meanwhile hw he⟩

end Abandoned
end Evolution
