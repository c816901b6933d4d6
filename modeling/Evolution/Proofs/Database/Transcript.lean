import Evolution.Proofs.Database.Batch

/-! What the server is sent, command by command, when all goes well: a success tells exactly which
commands there were, and in which order. -/
namespace Evolution.Database

open Evolution.Action
open Time (Instant)

variable {φ δ α β : Type} {server : Server φ δ} {db db₁ db' : Database φ δ} {id : Uuid}
  {source target : Status} {now : Instant}

section statements

/-- The statements among commands. -/
def batches (cs : List Command) : List String :=
  cs.filterMap Command.batch?

theorem batches_append (cs ds : List Command) : batches (cs ++ ds) = batches cs ++ batches ds :=
  List.filterMap_append

theorem batches_map_batch (xs : List String) : batches (xs.map .batch) = xs := by
  induction xs with
  | nil => rfl
  | cons x xs ih => exact congrArg (x :: ·) ih

/-- The statements that have been sent since. -/
def statementsSince (db db' : Database φ δ) : List String :=
  batches (sentSince db db')

end statements

section exchange

theorem sent_send {c : Command} (he : Ends (send server c) db (.ok ()) db') :
    Sent server [c] db db' := by
  cases send_cases he with
  | served => exact ⟨rfl, rfl⟩

theorem sent_query {q : Query} {effect : List Row → Except DatabaseError (α × List Row)} {a : α}
    (he : Ends (query server q effect) db (.ok a) db') : Sent server [.query q] db db' := by
  obtain ⟨_, db₁, hs, hn⟩ := ends_bind_ok.mp he
  have h := sent_send hs
  replace hn := ends_getThe_bind.mp hn
  split at hn
  · replace hn := ends_set_bind.mp hn
    obtain ⟨-, rfl⟩ := ends_pure.mp hn
    exact h.congr rfl rfl
  · cases (ends_throw.mp hn).1

theorem sent_batch {text : String} (he : Ends (batch server text) db (.ok ()) db') :
    Sent server [.batch text] db db' := by
  unfold Database.batch at he
  split at he
  · exact sent_send he
  · cases (ends_throw.mp he).1

theorem sent_begin (he : Ends (begin server) db (.ok ()) db') : Sent server [.begin] db db' := by
  obtain ⟨db₁, hs, ⟨-, rfl⟩ | ⟨⟨_, hx⟩, -⟩⟩ := begin_cases he
  · exact (sent_send hs).congr rfl rfl
  · cases hx

theorem sent_commit (he : Ends (commit server) db (.ok ()) db') : Sent server [.commit] db db' := by
  obtain ⟨db₁, hs, ⟨-, rfl⟩ | ⟨⟨_, hx⟩, -⟩⟩ := commit_cases he
  · exact (sent_send hs).congr rfl rfl
  · cases hx

end exchange

section action

/-- A transaction that was gone through was begun first. -/
theorem sent_inTransaction {body : Action (Database φ δ) α} {finish : α → Action (Database φ δ) β}
    {y : β} (he : Ends (inTransaction server body finish) db (.ok y) db') :
    ∃ a db₁ db₂, Sent server [.begin] db db₁ ∧ Ends body db₁ (.ok a) db₂ ∧
      Ends (finish a) db₂ (.ok y) db' := by
  obtain ⟨_, db₀, hc, he⟩ := ends_bind_ok.mp he
  obtain ⟨_, db₁, hb, he⟩ := ends_bind_ok.mp he
  obtain ⟨x, db₂, hx, he⟩ := ends_observing_bind.mp he
  have hs : Sent server [.begin] db db₁ :=
    (connects_of_ends server hc).sends.trans (sent_begin (ends_ask_ok.mp hb))
  cases x with
  | ok a => exact ⟨a, db₁, db₂, hs, hx, he⟩
  | error e =>
    replace he := ends_modify_bind.mp he
    cases (ends_throw.mp he).1

/-- All statements of a list were sent, each as a batch of its own. -/
theorem sent_runs {n : Nat} {statements : List String} {x : Except String Unit}
    (h : Runs server n statements db x db') (hx : x = .ok ()) :
    Sent server ((sendable statements).map .batch) db db' := by
  induction h with
  | done => exact .refl
  | passed hs _ ih =>
    rw [sendable_cons, if_neg (by simp [hs])]
    exact ih hx
  | failed => cases hx
  | sent hs hb _ ih =>
    rw [sendable_cons, if_pos hs]
    exact (sent_batch hb).trans (ih hx)

theorem sent_lockRow (he : Ends (lockRow server id source target) db (.ok ()) db') :
    Sent server [.query .lockStatus] db db' := by
  obtain ⟨found, db₁, hl, hn⟩ := ends_bind_ok.mp he
  have h : Sent server [.query .lockStatus] db db₁ := sent_query (ends_ask_ok.mp hl)
  cases found with
  | none => cases (ends_throw.mp hn).1
  | some row =>
    dsimp only at hn
    split at hn
    · obtain ⟨status, db₂, hm, hs⟩ := ends_bind_ok.mp hn
      obtain ⟨-, rfl⟩ := ends_mk.mp hm
      split at hs
      · obtain ⟨-, rfl⟩ := ends_pure.mp hs
        exact h
      · cases (ends_throw.mp hs).1
    · cases (ends_throw.mp hn).1

end action

section execute

theorem sent_claimRow {b : Bool} (he : Ends (claimRow server id source target now) db (.ok b) db') :
    Sent server [.query .claimStatus] db db' := by
  unfold Database.claimRow at he
  exact sent_query (ends_ask_ok.mp he)

/-- What is sent within a transaction that runs statements for good. -/
def recording (recordsStatus : Bool) (statements : List String) : List Command :=
  if recordsStatus then .query .lockStatus :: statements.map .batch ++ [.query .claimStatus]
  else statements.map .batch

/-- What is sent when statements are run for good. -/
def transcript (recordsStatus : Bool) (statements : List String) : List Command :=
  .begin :: recording recordsStatus statements ++ [.commit]

theorem sent_runLocked {recordsStatus : Bool} {statements : List String}
    (he : Ends (runLocked server recordsStatus id statements source target now) db (.ok (.ok ()))
      db') :
    Sent server ((sendable statements).map .batch ++
      if recordsStatus then [.query .claimStatus] else []) db db' := by
  generalize hx : (Except.ok (Except.ok ()) : Except Fault (Except String Unit)) = x at he
  cases runsLocked_of_ends he with
  | failed => cases hx
  | unrecorded hn hr =>
    subst hn
    exact (sent_runs hr rfl).trans .refl
  | @claims y _ _ hn hr hc =>
    subst hn
    cases y with
    | error => cases hx
    | ok => exact (sent_runs hr rfl).trans (sent_claimRow hc)

theorem sent_runRecorded {recordsStatus : Bool} {statements : List String}
    (he : Ends (runRecorded server recordsStatus id statements source target now) db (.ok (.ok ()))
      db') : Sent server (recording recordsStatus (sendable statements)) db db' := by
  cases recordsStatus with
  | false =>
    replace he : Ends (runLocked server false id statements source target now) db _ db' := he
    have h := sent_runLocked he
    rwa [if_neg Bool.false_ne_true, List.append_nil] at h
  | true =>
    obtain ⟨_, db₁, hl, hn⟩ := ends_bind_ok.mp he
    replace hn : Ends (runLocked server true id statements source target now) db₁ _ db' := hn
    exact (sent_lockRow hl).trans (sent_runLocked hn)

/-- Statements that were run for good were sent between the beginning and the end of a
transaction. -/
theorem sent_execute {recordsStatus : Bool} {statements : List String} {o : Outcome}
    (he : Ends (execute server recordsStatus id statements source target now) db (.ok o) db')
    (ho : o.ok = true) :
    Sent server (transcript recordsStatus (sendable statements)) db db' := by
  obtain ⟨a, db₁, db₂, hb, hr, hf⟩ := sent_inTransaction he
  cases a with
  | error message =>
    replace hf := ends_modify_bind.mp hf
    obtain ⟨h, -⟩ := ends_pure.mp hf
    cases h
    cases ho
  | ok =>
    obtain ⟨y, db₃, hc, hn⟩ := ends_attempt_bind.mp hf
    cases y with
    | ok =>
      obtain ⟨-, rfl⟩ := ends_pure.mp hn
      exact (hb.trans (sent_runRecorded hr)).trans (sent_commit hc)
    | error cause =>
      obtain ⟨h, -⟩ := ends_pure.mp hn
      cases h
      cases ho

theorem sent_get {r : Record} (he : Ends (get server id) db (.ok r) db') :
    Sent server [.query .select] db db' := by
  obtain ⟨_, db₁, hc, he⟩ := ends_bind_ok.mp he
  obtain ⟨found, db₂, hl, hr⟩ := ends_bind_ok.mp he
  obtain rfl := readRow_after hr
  exact (connects_of_ends server hc).sends.trans (sent_query (ends_ask_ok.mp hl))

/-- The statements of the row that is found are those that are run. -/
theorem sent_fetchAndExecute {statements : Record → List String} {o : Outcome}
    (he : Ends (do
      let r ← Database.get server id
      Database.execute server true id (statements r) source target now) db (.ok o) db')
    (ho : o.ok = true) :
    ∃ row r, rowOf db.rows id = some row ∧ row.record = .ok r ∧
      Sent server (.query .select :: transcript true (sendable (statements r))) db db' := by
  obtain ⟨r, db₁, hg, he⟩ := ends_bind_ok.mp he
  obtain ⟨row, hrow, hr⟩ := row_of_get hg
  exact ⟨row, r, hrow, hr, (sent_get hg).trans (sent_execute he ho)⟩

end execute

end Evolution.Database
