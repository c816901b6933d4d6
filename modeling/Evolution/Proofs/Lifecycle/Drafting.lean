import Evolution.Proofs.Changeset.Part
import Evolution.Proofs.Lifecycle.Archive
import Evolution.Proofs.Store.Memory

/-! Drafts follow their preview: a request is refused before anything is called exactly where its
preview shows why, and what is checked and stored otherwise is what the preview shows. -/
namespace Evolution

open Evolution.Action
open Time (Instant)

namespace ChangeRequest

variable {r : ChangeRequest}

/-- The preview shows why the request is not to be stored. -/
def Unfit (r : ChangeRequest) : Prop :=
  r.desiredState.isEmpty = true ∨ r.preview.errors ≠ [] ∨ r.preview.changeset.sql = []

/-- The fault that is found in a request. The first of the three that applies is told. -/
inductive Refused (r : ChangeRequest) : Fault → Prop where
  | empty (h : r.desiredState.isEmpty = true) : Refused r (.validation "Desired state is empty")
  | invalid (hs : r.desiredState.isEmpty = false) (h : r.preview.errors ≠ []) :
      Refused r (.invalidModel (r.preview.errors.map ModelError.message))
  | idle (hs : r.desiredState.isEmpty = false) (he : r.preview.errors = [])
      (h : r.preview.changeset.sql = []) :
      Refused r (.validation "Desired state compiles to no statements")

theorem Refused.unfit {e : Fault} (h : r.Refused e) : r.Unfit := by
  cases h with
  | empty h => exact .inl h
  | invalid _ h => exact .inr (.inl h)
  | idle _ _ h => exact .inr (.inr h)

/-- A request is refused, or it is compiled as in its preview. -/
inductive Compiles (r : ChangeRequest) : Except Fault Changeset → Prop where
  | refused {e : Fault} (h : r.Refused e) : Compiles r (.error e)
  | compiled (h : ¬ r.Unfit) : Compiles r (.ok r.preview.changeset)

theorem compiles (r : ChangeRequest) : r.Compiles r.compileChecked := by
  unfold compileChecked
  split
  · rename_i hs
    exact .refused (.empty hs)
  · rename_i hs
    rw [Bool.not_eq_true] at hs
    dsimp only
    split
    · rename_i he
      exact .refused (.invalid hs (by simpa [preview] using he))
    · rename_i he
      replace he : r.preview.errors = [] := by simpa [preview] using he
      split
      · rename_i hn
        exact .refused (.idle hs he (List.isEmpty_iff.mp hn))
      · rename_i hn
        refine .compiled ?_
        rintro (h | h | h)
        · simp [hs] at h
        · exact h he
        · exact hn (List.isEmpty_iff.mpr h)

theorem compileChecked_ok {c : Changeset} (h : r.compileChecked = .ok c) :
    c = r.preview.changeset ∧ ¬ r.Unfit := by
  have hc := r.compiles
  rw [h] at hc
  cases hc with
  | compiled hn => exact ⟨rfl, hn⟩

theorem compileChecked_error_iff {e : Fault} : r.compileChecked = .error e ↔ r.Refused e := by
  constructor
  · intro h
    have hc := r.compiles
    rw [h] at hc
    cases hc with
    | refused h => exact h
  · intro h
    cases h with
    | empty hs => simp [compileChecked, hs]
    | invalid hs he =>
      have hne : r.desiredState.errors ≠ [] := he
      simp [compileChecked, hs, hne, preview]
    | idle hs he hn =>
      have hno : r.desiredState.errors = [] := he
      have hnil : r.compile.sql = [] := hn
      simp [compileChecked, hs, hno, hnil]

theorem exists_refused_iff : (∃ e, r.Refused e) ↔ r.Unfit := by
  constructor
  · rintro ⟨e, h⟩
    exact h.unfit
  · intro h
    have hc := r.compiles
    cases hx : r.compileChecked with
    | ok => exact ((compileChecked_ok hx).2 h).elim
    | error e => exact ⟨e, compileChecked_error_iff.mp hx⟩

/-- Nothing becomes of nothing. -/
theorem sql_eq_nil_of_isEmpty (h : r.desiredState.isEmpty = true) :
    r.preview.changeset.sql = [] := by
  simp only [DesiredState.isEmpty, Bool.and_eq_true, List.isEmpty_iff] at h
  obtain ⟨⟨⟨⟨⟨⟨⟨⟨htables, hpolicies⟩, htriggers⟩, hfunctions⟩, hauth⟩, hbuckets⟩, hremote⟩, hapi⟩,
    hpreferences⟩ := h
  have hauth : r.desiredState.authSettings.settings = [] := by
    rw [show r.desiredState.authSettings = {} from eq_of_beq hauth]
    rfl
  have hapi : r.desiredState.apiSettings.settings = [] := by
    rw [show r.desiredState.apiSettings = {} from eq_of_beq hapi]
    rfl
  have hparts : r.parts = [] := by
    simp [parts, htables, hpolicies, htriggers, hfunctions, hauth, hbuckets, hremote, hapi,
      hpreferences]
  have hchanges : r.changes = [] := by
    rw [changes_eq_parts, hparts]
    rfl
  change r.changes.map Change.forward = []
  rw [hchanges]
  rfl

end ChangeRequest

/-- A record with the content of a changeset, and with the checksum of its statements. -/
structure Record.Carries (record : Record) (c : Changeset) : Prop where
  moduleName : record.moduleName = c.moduleName
  title : record.title = c.title
  summary : record.summary = c.summary
  scope : record.scope = c.scope
  tenantId : record.tenantId = c.tenantId
  desiredState : record.desiredState = c.desiredState
  sql : record.sql = c.sql
  rollbackSql : record.rollbackSql = c.rollbackSql
  impact : record.impact = c.impact
  checksum : record.checksum = c.checksum

theorem Record.carries_ofChangeset (c : Changeset) (status : Status) (report : Option Report)
    (createdBy : Option String) (stamp : Stamp) :
    (ofChangeset c status report createdBy stamp).Carries c :=
  ⟨rfl, rfl, rfl, rfl, rfl, rfl, rfl, rfl, rfl, rfl⟩

namespace Operation

/-- An operation that makes a changeset of a request. -/
inductive Makes (r : ChangeRequest) (createdBy : Option String) (stamp : Stamp) :
    Operation → Prop where
  | created : Makes r createdBy stamp (.createDraft r createdBy stamp)
  | saved : Makes r createdBy stamp (.saveDraft r createdBy stamp)

/-- The calls that are made for a changeset, with the answer that they lead to: a check that fails
is the last of them. -/
inductive Calls {σ : Type} (c : Changeset) :
    Operation → List (Event σ) → Except Fault Answer → Prop where
  | unchecked {r : ChangeRequest} {createdBy : Option String} {stamp : Stamp} {e : Fault}
      {w w' : σ} :
      Calls c (.createDraft r createdBy stamp) [⟨.validate c.sql, .report (.error e), w, w'⟩]
        (.error e)
  | checked {r : ChangeRequest} {createdBy : Option String} {stamp : Stamp} {report : Report}
      {record : Record} {x : Except Fault Record} {w v w' : σ} (h : record.Carries c) :
      Calls c (.createDraft r createdBy stamp)
        [⟨.validate c.sql, .report (.ok report), w, v⟩, ⟨.insert record, .record x, v, w'⟩]
        (x.map .record)
  | saved {r : ChangeRequest} {createdBy : Option String} {stamp : Stamp} {record : Record}
      {x : Except Fault Record} {w w' : σ} (h : record.Carries c) :
      Calls c (.saveDraft r createdBy stamp) [⟨.insert record, .record x, w, w'⟩] (x.map .record)

theorem Calls.ne_nil {σ : Type} {c : Changeset} {op : Operation} {calls : List (Event σ)}
    {x : Except Fault Answer} (h : op.Calls c calls x) : calls ≠ [] := by
  cases h <;> exact nofun

section Makes

variable {σ : Type} {b : Backend σ} {m m' : Manager (Watched σ)} {r : ChangeRequest}
  {createdBy : Option String} {stamp : Stamp} {op : Operation}

/-- An operation that makes a changeset is stopped by its request, or makes its calls. -/
theorem Makes.calls {x : Except Fault Answer} (h : op.Makes r createdBy stamp)
    (he : Ends (op.act b.watched) m x m') :
    (∃ e, r.Refused e ∧ x = .error e ∧ m' = m) ∨
      ¬ r.Unfit ∧ ∃ later, m'.world.past = m.world.past ++ later ∧
        op.Calls r.preview.changeset later x := by
  cases h with
  | created =>
    obtain ⟨y, hy, rfl⟩ := ends_bind_pure.mp he
    cases Manager.createDraft_cases hy with
    | rejected hc => exact .inl ⟨_, ChangeRequest.compileChecked_error_iff.mp hc, rfl, rfl⟩
    | unchecked hc hv =>
      obtain ⟨rfl, hn⟩ := ChangeRequest.compileChecked_ok hc
      obtain ⟨w, -, rfl⟩ := ends_watch.mp hv
      exact .inr ⟨hn, _, rfl, .unchecked⟩
    | inserted hc hv hi =>
      obtain ⟨rfl, hn⟩ := ChangeRequest.compileChecked_ok hc
      obtain ⟨w, -, rfl⟩ := ends_watch.mp hv
      obtain ⟨v, -, rfl⟩ := ends_watch.mp hi
      refine .inr ⟨hn, _, List.append_assoc .., ?_⟩
      exact .checked (Record.carries_ofChangeset ..)
  | saved =>
    obtain ⟨y, hy, rfl⟩ := ends_bind_pure.mp he
    cases Manager.saveDraft_cases hy with
    | rejected hc => exact .inl ⟨_, ChangeRequest.compileChecked_error_iff.mp hc, rfl, rfl⟩
    | inserted hc hi =>
      obtain ⟨rfl, hn⟩ := ChangeRequest.compileChecked_ok hc
      obtain ⟨v, -, rfl⟩ := ends_watch.mp hi
      exact .inr ⟨hn, _, rfl, .saved (Record.carries_ofChangeset ..)⟩

/-- Nothing is called exactly where the request is refused. -/
theorem Makes.stops_iff {e : Fault} (h : op.Makes r createdBy stamp) :
    Ends (op.act b.watched) m (.error e) m ↔ r.Refused e := by
  constructor
  · intro he
    rcases h.calls he with ⟨_, hr, hx, -⟩ | ⟨-, later, hp, hc⟩
    · cases hx
      exact hr
    · obtain rfl : later = [] := List.self_eq_append_right.mp hp
      exact (hc.ne_nil rfl).elim
  · intro hr
    have hc := ChangeRequest.compileChecked_error_iff.mpr hr
    cases h with
    | created =>
      refine ends_bind_pure.mpr ⟨.error e, ?_, rfl⟩
      exact ends_bind.mpr (.inr ⟨e, ends_mk.mpr ⟨hc.symm, rfl⟩, rfl⟩)
    | saved =>
      refine ends_bind_pure.mpr ⟨.error e, ?_, rfl⟩
      exact ends_bind.mpr (.inr ⟨e, ends_mk.mpr ⟨hc.symm, rfl⟩, rfl⟩)

/-- An operation that has made a changeset has had it inserted. -/
theorem Makes.inserted {Sound : σ → Prop} {y : Answer} (hb : b.Keeps Sound)
    (hs : Sound m.world.world) (h : op.Makes r createdBy stamp)
    (he : Ends (op.act b.watched) m (.ok y) m') :
    ∃ status report record w, Sound w ∧
      Ends (b.insert (.ofChangeset r.preview.changeset status report createdBy stamp)) w
        (.ok record) m'.world.world ∧ y = .record record := by
  cases h with
  | created =>
    obtain ⟨x, hx, hy⟩ := ends_bind_pure.mp he
    cases x with
    | error => cases hy
    | ok record =>
      cases hy
      cases Manager.createDraft_cases hx with
      | inserted hc hv hi =>
        obtain ⟨rfl, -⟩ := ChangeRequest.compileChecked_ok hc
        have hs' := hb.watched.validate hs hv
        obtain ⟨v, hw, rfl⟩ := ends_watch.mp hi
        exact ⟨_, _, record, _, hs', hw, rfl⟩
  | saved =>
    obtain ⟨x, hx, hy⟩ := ends_bind_pure.mp he
    cases x with
    | error => cases hy
    | ok record =>
      cases hy
      cases Manager.saveDraft_cases hx with
      | inserted hc hi =>
        obtain ⟨rfl, -⟩ := ChangeRequest.compileChecked_ok hc
        obtain ⟨v, hw, rfl⟩ := ends_watch.mp hi
        exact ⟨_, _, record, _, hs, hw, rfl⟩

end Makes
end Operation

/-- A request is refused before anything is called exactly where its preview shows why. Otherwise
the database is asked about the statements of the preview, and what is stored has its content. The
preview itself calls nothing, and shows no statements for an empty desired state. -/
theorem drafts_follow_preview {σ : Type} (b : Backend σ) (m : Manager (Watched σ))
    {r : ChangeRequest} {createdBy : Option String} {stamp : Stamp} {op : Operation}
    (h : op.Makes r createdBy stamp) :
    (∀ e, Ends (op.act b.watched) m (.error e) m ↔ r.Refused e) ∧
    ((∃ e, Ends (op.act b.watched) m (.error e) m) ↔
      r.desiredState.isEmpty = true ∨ r.preview.errors ≠ [] ∨ r.preview.changeset.sql = []) ∧
    (¬ r.Unfit → ∃ later,
      (after (op.act b.watched) m).world.past = m.world.past ++ later ∧
        op.Calls r.preview.changeset later (answer (op.act b.watched) m)) ∧
    (∀ {ρ : Type} {A : Archive σ ρ}, Storing b A → A.Sound m.world.world → ∀ y,
      answer (op.act b.watched) m = .ok y → ∃ record : Record, record.Carries r.preview.changeset ∧
        A.entry (after (op.act b.watched) m).world.world stamp.id = some (A.ofRecord record)) ∧
    Ends (Operation.act b.watched (.preview r)) m (.ok (.preview r.preview)) m ∧
    (r.desiredState.isEmpty = true → r.preview.changeset.sql = []) := by
  have hstops (e : Fault) : Ends (op.act b.watched) m (.error e) m ↔ r.Refused e := h.stops_iff
  refine ⟨hstops, ?_, ?_, ?_, rfl, ChangeRequest.sql_eq_nil_of_isEmpty⟩
  · rw [exists_congr hstops]
    exact ChangeRequest.exists_refused_iff
  · intro hn
    rcases h.calls (ends_answer_after (op.act b.watched) m) with ⟨e, he, -⟩ | ⟨-, hcalls⟩
    · exact (hn he.unfit).elim
    · exact hcalls
  · intro ρ A hb hs y hy
    have he : Ends (op.act b.watched) m (.ok y) (after (op.act b.watched) m) :=
      hy ▸ ends_answer_after _ m
    obtain ⟨status, report, record, w, hw, hi, rfl⟩ := h.inserted hb.sound hs he
    refine ⟨_, Record.carries_ofChangeset _ status report createdBy stamp, ?_⟩
    exact congrFun (hb.insert_ok hw hi).2 stamp.id |>.trans (Function.update_self ..)

/-- A function with this body. -/
def oneFunction (body : String) : ChangeRequest where
  desiredState := { functions := [{ signature := "f()", body }] }

/-- A function without a body passes all checks and compiles to nothing; one with a body is stored
beside what there is. -/
theorem drafts_follow_preview_oneFunction :
    (Operation.saveDraft (oneFunction " ") none ⟨⟨1⟩, ⟨0, 0⟩⟩).Makes (oneFunction " ") none
        ⟨⟨1⟩, ⟨0, 0⟩⟩ ∧
      (oneFunction " ").preview.errors = [] ∧
      Ends (Operation.act Backend.detached.watched
          (.saveDraft (oneFunction " ") none ⟨⟨1⟩, ⟨0, 0⟩⟩)) (.started .oneValidated)
        (.error (.validation "Desired state compiles to no statements")) (.started .oneValidated) ∧
      ∃ record : Record, record.Carries (oneFunction "begin end").preview.changeset ∧
        (after (Operation.act Backend.detached.watched
          (.createDraft (oneFunction "begin end") none ⟨⟨1⟩, ⟨0, 0⟩⟩))
            (.started .oneValidated)).world.world.find? ⟨1⟩ = some record := by
  have hsaved : (Operation.saveDraft (oneFunction " ") none ⟨⟨1⟩, ⟨0, 0⟩⟩).Makes (oneFunction " ")
      none ⟨⟨1⟩, ⟨0, 0⟩⟩ := .saved
  have hcreated : (Operation.createDraft (oneFunction "begin end") none ⟨⟨1⟩, ⟨0, 0⟩⟩).Makes
      (oneFunction "begin end") none ⟨⟨1⟩, ⟨0, 0⟩⟩ := .created
  have hidle := drafts_follow_preview Backend.detached (.started .oneValidated) hsaved
  have hstored := drafts_follow_preview Backend.detached (.started .oneValidated) hcreated
  have hr : (oneFunction " ").Refused (.validation "Desired state compiles to no statements") :=
    .idle (by decide) (by decide +kernel) (by decide +kernel)
  refine ⟨hsaved, by decide +kernel, (hidle.1 _).mpr hr, ?_⟩
  have hk : Backend.detached.Keeps fun _ => True := by constructor <;> intros <;> trivial
  exact hstored.2.2.2.1 (Backend.detached_inMemory.storing hk) trivial _ rfl

end Evolution
