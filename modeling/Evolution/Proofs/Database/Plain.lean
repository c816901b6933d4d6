import Evolution.Proofs.Database.Batch
import Evolution.Proofs.Lifecycle.Reliable

/-! The calls that reach the database fail for reasons of the server, of what it answers or of the
changeset. None of them reports a lost status. -/
namespace Evolution.Database

open Evolution.Action
open Time (Instant)

variable {φ δ α β : Type} {server : Server φ δ} {id : Uuid} {source target : Status}

theorem OfServer.plain {e : Fault} (h : OfServer e) : e.Plain := by
  cases h <;> nofun

theorem plain_unknownChangeset (id : Uuid) : (Fault.unknownChangeset id).Plain := by
  simp [Fault.Plain, Fault.unknownChangeset]

theorem plain_duplicateChangeset (id : Uuid) : (Fault.duplicateChangeset id).Plain := by
  simp [Fault.Plain, Fault.duplicateChangeset]

theorem failsIn_ask (a : Exchange φ δ α) : FailsIn Fault.Plain (ask a) := by
  intro s e he
  obtain ⟨y, -, hy⟩ := ends_ask.mp (ends_answer_after (ask a) s)
  cases y with
  | ok => cases hy.symm.trans he
  | error cause =>
    cases hy.symm.trans he
    nofun

theorem failsIn_connect : FailsIn Fault.Plain (connect : Action (Database φ δ) Unit) := by
  intro db e he
  exact ((connects_of_ends ⟨fun f _ => (none, f), fun _ _ tables => tables⟩
    (ends_answer_after connect db)).errors e he).plain

theorem failsIn_inTransaction {body : Action (Database φ δ) α}
    {finish : α → Action (Database φ δ) β}
    (hb : FailsIn Fault.Plain body) (hf : ∀ a, FailsIn Fault.Plain (finish a)) :
    FailsIn Fault.Plain (inTransaction server body finish) := by
  refine .bind failsIn_connect fun _ => .bind (failsIn_ask _) fun _ => ?_
  refine .observing_bind ?_ hb
  intro x hx
  cases x with
  | ok a => exact hf a
  | error e => exact .modify_bind (.throw (hx e rfl))

theorem failsIn_insert (r : Record) : FailsIn Fault.Plain (insert server r) := by
  refine .bind failsIn_connect fun _ => .observing_bind ?_ (failsIn_ask _)
  intro x hx
  split
  · exact .pure
  · split
    · exact .throw (plain_duplicateChangeset _)
    · exact .throw nofun
  · exact .throw (hx _ rfl)

theorem errorsIn_plain_record (row : Row) : ErrorsIn Fault.Plain row.record :=
  Row.errorsIn_record nofun nofun

theorem failsIn_plain_readRow (row : Option Row) :
    FailsIn Fault.Plain (readRow id row : Action (Database φ δ) Record) :=
  failsIn_readRow (plain_unknownChangeset id) nofun nofun

theorem failsIn_get (id : Uuid) : FailsIn Fault.Plain (get server id) :=
  .bind failsIn_connect fun _ => .bind (failsIn_ask _) fun _ => failsIn_plain_readRow _

theorem errorsIn_mapM {γ δ : Type} {P : Fault → Prop} {f : γ → Except Fault δ}
    (hf : ∀ x, ErrorsIn P (f x)) (xs : List γ) : ErrorsIn P (xs.mapM f) := by
  induction xs with
  | nil => exact .ok
  | cons x xs ih =>
    rw [List.mapM_cons]
    exact .bind (hf x) fun _ => .bind ih fun _ => .ok

theorem failsIn_list (f : Filter) : FailsIn Fault.Plain (list server f) :=
  .bind failsIn_connect fun _ => .bind (failsIn_ask _) fun _ =>
    .mk (errorsIn_mapM errorsIn_plain_record _)

theorem failsIn_updateStatus (id : Uuid) (u : StatusUpdate) (now : Instant) :
    FailsIn Fault.Plain (updateStatus server id u now) := by
  refine failsIn_inTransaction (.bind (failsIn_ask _) fun _ =>
    .bind (failsIn_plain_readRow _) fun r => ?_) fun _ => .bind (failsIn_ask _) fun _ => .pure
  split
  · exact .bind (failsIn_ask _) fun _ => .pure
  · exact .throw nofun

theorem failsIn_runStatements (n : Nat) (statements : List String) :
    FailsIn Fault.Plain (runStatements server n statements) := by
  intro db e he
  obtain ⟨y, -, hy⟩ := runs_of_ends (ends_answer_after (runStatements server n statements) db)
  cases hy.symm.trans he

theorem failsIn_dryRun (statements : List String) :
    FailsIn Fault.Plain (dryRun server statements) := by
  intro db e he
  cases tries_of_ends (he ▸ ends_answer_after (dryRun server statements) db) with
  | unopened hs => exact hs.plain
  | passed _ _ _ hx =>
    obtain hx | ⟨cause, hx⟩ := hx
    · cases hx
    · cases hx
      nofun

theorem failsIn_lockRow : FailsIn Fault.Plain (lockRow server id source target) := by
  refine .bind (failsIn_ask _) ?_
  intro found
  cases found with
  | none => exact .throw (plain_unknownChangeset id)
  | some row =>
    dsimp only
    split
    · refine .bind (.mk ?_) fun status => ?_
      · unfold Status.parse
        split
        · exact .ok
        · exact .error nofun
      · split
        · exact .pure
        · exact .throw nofun
    · exact .throw nofun

theorem failsIn_runRecorded (recordsStatus : Bool) (statements : List String) (now : Instant) :
    FailsIn Fault.Plain (runRecorded server recordsStatus id statements source target now) := by
  have hl : FailsIn Fault.Plain
      (runLocked server recordsStatus id statements source target now) := by
    refine .bind (failsIn_runStatements _ _) ?_
    intro x
    cases x with
    | error => exact .pure
    | ok =>
      cases recordsStatus with
      | false => exact .pure
      | true =>
        refine .bind (failsIn_ask _) ?_
        intro b
        cases b <;> exact .pure
  cases recordsStatus with
  | false => exact hl
  | true => exact .bind failsIn_lockRow fun _ => hl

theorem failsIn_execute (recordsStatus : Bool) (statements : List String) (now : Instant) :
    FailsIn Fault.Plain (execute server recordsStatus id statements source target now) := by
  refine failsIn_inTransaction (failsIn_runRecorded _ _ _) ?_
  intro x
  cases x with
  | error => exact .modify_bind .pure
  | ok =>
    intro db e he
    obtain ⟨y, db₁, -, hn⟩ := ends_attempt_bind.mp (he ▸ ends_answer_after (conclude server _) db)
    cases y <;> cases hn

end Evolution.Database
