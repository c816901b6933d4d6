import Evolution.Proofs.Database.Tame

/-! A dry run tells what a run for good will do. Where the answer to a statement hangs on what was
sent before it in the transaction, and all else is in order, both send the same statements and stop
at the same one, with the same number and the same words. -/
namespace Evolution.Database

open Evolution.Action
open Text (trim)
open Time (Instant)

/-- What befalls a statement, by the statements that were sent before it in the transaction. -/
abbrev Responses := List String → String → Option Breakdown

/-- What is told of a command that something befell. -/
def Breakdown.error : Breakdown → DatabaseError
  | refusal message code => .refused message code
  | disconnect => .closed

section trial

variable (answers : Responses)

/-- Why a statement fails after those that were sent before it, if it does. -/
def verdict (sent : List String) (s : String) : Option DatabaseError :=
  if isSendable s then (answers sent s).map Breakdown.error else some .notSendable

/-- Which statements reach the server, and which is the first that fails, and why. -/
structure Trial where
  sent : List String := []
  failure : Option (Nat × DatabaseError) := none

/-- Tries statements one after the other, the first of them with number `n`. One that is skipped has
a number as well. -/
def trial (sent : List String) (n : Nat) : List String → Trial
  | [] => {}
  | s :: rest =>
    if isSent (trim s) then
      match verdict answers sent (trim s) with
      | none =>
        let later := trial (sent ++ [trim s]) (n + 1) rest
        { later with sent := trim s :: later.sent }
      | some e => ⟨if isSendable (trim s) then [trim s] else [], some (n, e)⟩
    else trial sent (n + 1) rest

/-- What is told of the first statement that fails. -/
def Trial.message? (t : Trial) : Option String :=
  t.failure.map fun (n, e) => s!"Statement {n} failed: {e.reason}"

variable {answers}

/-- A failure has the number of its statement among all of them. -/
theorem trial_failure {sent xs : List String} {n k : Nat} {e : DatabaseError}
    (h : (trial answers sent n xs).failure = some (k, e)) :
    ∃ i s, xs[i]? = some s ∧ k = n + i ∧ isSent (trim s) = true ∧
      verdict answers (sent ++ sendable (xs.take i)) (trim s) = some e := by
  induction xs generalizing sent n with
  | nil => cases h
  | cons s xs ih =>
    unfold trial at h
    split at h
    · rename_i hs
      split at h
      · obtain ⟨i, t, hi, hk, ht, hv⟩ := ih h
        refine ⟨i + 1, t, hi, by omega, ht, ?_⟩
        simpa [sendable_cons, hs] using hv
      · rename_i hv
        cases h
        exact ⟨0, s, rfl, rfl, hs, by simpa [sendable] using hv⟩
    · rename_i hs
      obtain ⟨i, t, hi, hk, ht, hv⟩ := ih h
      refine ⟨i + 1, t, hi, by omega, ht, ?_⟩
      simpa [sendable_cons, hs] using hv

end trial

/-- What befalls a command in a transaction. -/
def Responses.to (answers : Responses) (sent : List String) : Command → Option Breakdown
  | .batch s => answers sent s
  | _ => none

/-- What is seen within a transaction that has just begun. -/
def Tables.begun {δ : Type} (tables : Tables δ) : Tables δ :=
  { tables with saved := some tables.toStored }

/-- There is nothing to go back to outside a transaction. -/
theorem Tables.restored_of_unsaved {δ : Type} {tables : Tables δ} (h : tables.saved = none) :
    tables.restored = tables := by
  obtain ⟨stored, saved⟩ := tables
  cases h
  rfl

/-- What these statements do one after the other, when nothing befalls them. -/
def Server.ran {φ δ : Type} (server : Server φ δ) (texts : List String) (tables : Tables δ) :
    Tables δ :=
  texts.foldl (fun tables text => server.effect text none tables) tables

variable {φ δ : Type} {fails : FailureSource φ} {server : Server φ δ} {answers : Responses}
  {sent : List String} {db db₁ db₂ db' : Database φ δ} {f : φ} {c : Command} {id : Uuid}
  {source target : Status} {now : Instant}

/-- Neither begins nor ends a transaction. -/
def Command.isInner : Command → Bool
  | query _ => true
  | batch _ => true
  | _ => false

/-- Up to the end of the transaction, in which `sent` was sent already, statements are answered by
what was sent before them, and nothing else fails. -/
def Abides (fails : FailureSource φ) (answers : Responses) (sent : List String) (f : φ) : Prop :=
  ∀ cs c, cs.all Command.isInner = true →
    (fails (spent fails f cs) c).1 = answers.to (sent ++ batches cs) c

theorem Abides.befalls (h : Abides fails answers sent f) (c : Command) :
    (fails f c).1 = answers.to sent c := by
  have hc := h [] c rfl
  rwa [batches, List.filterMap_nil, List.append_nil] at hc

theorem Abides.next (h : Abides fails answers sent f) (hc : c.isInner = true) :
    Abides fails answers (sent ++ batches [c]) (fails f c).2 := by
  intro cs d hcs
  have hd := h (c :: cs) d (by rw [List.all_cons, hc, hcs, Bool.and_self])
  have hb : batches (c :: cs) = batches [c] ++ batches cs := batches_append [c] cs
  rwa [hb, ← List.append_assoc] at hd

/-- The connection is open, and the server abides by its answers. -/
structure Serves (server : Server φ δ) (answers : Responses) (sent : List String)
    (db : Database φ δ) : Prop where
  connected : db.connected = true
  abides : Abides server.fails answers sent db.failures

section Passes

variable {cs ds : List Command} {α : Type}

/-- These commands have been sent, and all went well. -/
structure Passes (server : Server φ δ) (answers : Responses) (sent : List String)
    (cs : List Command) (db db' : Database φ δ) : Prop where
  serves : Serves server answers (sent ++ batches cs) db'
  sends : Sent server cs db db'
  tables : db'.toTables = server.ran (batches cs) db.toTables

theorem Passes.trans (h : Passes server answers sent cs db db₁)
    (h' : Passes server answers (sent ++ batches cs) ds db₁ db₂) :
    Passes server answers sent (cs ++ ds) db db₂ := by
  refine ⟨?_, h.sends.trans h'.sends, ?_⟩
  · rw [batches_append, ← List.append_assoc]
    exact h'.serves
  · rw [h'.tables, h.tables, batches_append, Server.ran, Server.ran, Server.ran, List.foldl_append]

theorem Serves.passes (h : Serves server answers sent db) : Passes server answers sent [] db db :=
  ⟨by rwa [batches, List.filterMap_nil, List.append_nil], .refl, rfl⟩

theorem Serves.noted (h : Serves server answers sent db) (hc : c.isInner = true)
    (hn : (server.fails db.failures c).1 = none) :
    Passes server answers sent [c] db (db.noted server c) := by
  refine ⟨⟨h.connected, h.abides.next hc⟩, ⟨rfl, rfl⟩, ?_⟩
  cases c with
  | batch s => exact congrArg (server.effect s · db.toTables) hn
  | query => rfl
  | startup | begin | commit | rollback => cases hc

theorem Serves.befalls (h : Serves server answers sent db) (hn : answers.to sent c = none) :
    (server.fails db.failures c).1 = none :=
  (h.abides.befalls c).trans hn

theorem Serves.batch_ok {s : String} {x : Except DatabaseError Unit}
    (h : Serves server answers sent db) (hv : verdict answers sent s = none)
    (he : Ends (batch server s) db x db') :
    x = .ok () ∧ Passes server answers sent [.batch s] db db' := by
  unfold verdict at hv
  unfold Database.batch at he
  split at hv
  · rename_i hs
    rw [if_pos hs] at he
    have hn : (server.fails db.failures (.batch s)).1 = none :=
      h.befalls (Option.map_eq_none_iff.mp hv)
    obtain ⟨rfl, rfl⟩ := he.unique (ends_send h.connected hn)
    exact ⟨rfl, h.noted rfl hn⟩
  · cases hv

theorem Serves.batch_error {s : String} {x : Except DatabaseError Unit} {e : DatabaseError}
    (h : Serves server answers sent db) (hv : verdict answers sent s = some e)
    (he : Ends (batch server s) db x db') :
    x = .error e ∧ Sent server ((if isSendable s then [s] else []).map .batch) db db' := by
  unfold verdict at hv
  unfold Database.batch at he
  split at hv
  · rename_i hs
    obtain ⟨b, hb, rfl⟩ := Option.map_eq_some_iff.mp hv
    rw [if_pos hs] at he
    rw [if_pos hs]
    have hf : (server.fails db.failures (.batch s)).1 = some b := (h.abides.befalls _).trans hb
    cases send_cases he with
    | unconnected hc => simp [h.connected] at hc
    | served _ hn => simp [hf] at hn
    | refused _ hr =>
      obtain rfl := Option.some.inj (hf.symm.trans hr)
      exact ⟨rfl, rfl, rfl⟩
    | lost _ hr =>
      obtain rfl := Option.some.inj (hf.symm.trans hr)
      exact ⟨rfl, rfl, rfl⟩
  · rename_i hs
    cases hv
    rw [if_neg hs] at he
    obtain ⟨rfl, rfl⟩ := ends_throw.mp he
    rw [if_neg hs]
    exact ⟨rfl, .refl⟩

/-- How a run of statements ends. -/
def Trial.outcome (t : Trial) : Except String Unit :=
  match t.message? with
  | none => .ok ()
  | some message => .error message

/-- All that is sendable has been sent when nothing fails. -/
theorem trial_sent {n : Nat} {xs : List String} (h : (trial answers sent n xs).failure = none) :
    (trial answers sent n xs).sent = sendable xs := by
  induction xs generalizing sent n with
  | nil => rfl
  | cons s xs ih =>
    rw [sendable_cons]
    unfold trial at h ⊢
    split
    · rename_i hs
      rw [if_pos hs] at h
      split at h
      · exact congrArg (trim s :: ·) (ih h)
      · cases h
    · rename_i hs
      rw [if_neg hs] at h
      exact ih h

/-- Statements run as they were tried. -/
theorem Serves.runs {xs : List String} {n : Nat} {x : Except String Unit}
    (h : Serves server answers sent db) (hr : Runs server n xs db x db') :
    x = (trial answers sent n xs).outcome ∧
      Sent server ((trial answers sent n xs).sent.map .batch) db db' ∧
      ((trial answers sent n xs).failure = none →
        Passes server answers sent ((trial answers sent n xs).sent.map .batch) db db') := by
  induction hr generalizing sent with
  | done => exact ⟨rfl, .refl, fun _ => h.passes⟩
  | passed hs _ ih =>
    rw [trial, if_neg (by simp [hs])]
    exact ih h
  | failed hs hb =>
    rw [trial, if_pos hs]
    cases hv : verdict answers sent (trim _) with
    | none => cases (h.batch_ok hv hb).1
    | some e =>
      obtain ⟨hx, hsent⟩ := h.batch_error hv hb
      cases hx
      exact ⟨rfl, hsent, nofun⟩
  | sent hs hb _ ih =>
    rw [trial, if_pos hs]
    cases hv : verdict answers sent (trim _) with
    | some e => cases (h.batch_error hv hb).1
    | none =>
      obtain ⟨-, hp⟩ := h.batch_ok hv hb
      obtain ⟨hx, hsent, hpass⟩ := ih hp.serves
      exact ⟨hx, hp.sends.trans hsent, fun hf => hp.trans (hpass hf)⟩

end Passes

section Ready

variable {α β : Type} {statements : List String}

/-- A connection can be had, and up to the end of the next transaction statements are answered by
what was sent before them in it, and nothing else fails. -/
structure Ready (server : Server φ δ) (answers : Responses) (db : Database φ δ) : Prop where
  pool : db.poolClosed = false
  reachable : db.connected = true ∨ db.refusing = false
  begins : (server.fails db.failures .begin).1 = none
  abides : Abides server.fails answers [] (server.fails db.failures .begin).2

/-- A transaction has been begun, and nothing is sent in it yet. -/
structure Begun (server : Server φ δ) (answers : Responses) (db db' : Database φ δ) : Prop where
  serves : Serves server answers [] db'
  sends : Sent server [.begin] db db'
  tables : db'.toTables = db.toTables.begun

/-- These statements have been sent since, and perhaps commands of other kinds. -/
def Batched (server : Server φ δ) (xs : List String) (db db' : Database φ δ) : Prop :=
  ∃ cs, Sent server cs db db' ∧ batches cs = xs

theorem Batched.since {xs : List String} (h : Batched server xs db db') :
    statementsSince db db' = xs := by
  obtain ⟨cs, hs, rfl⟩ := h
  rw [statementsSince, hs.sentSince]

theorem Batched.trans {xs ys : List String} (h : Batched server xs db db₁)
    (h' : Batched server ys db₁ db₂) : Batched server (xs ++ ys) db db₂ := by
  obtain ⟨cs, hs, rfl⟩ := h
  obtain ⟨ds, ht, rfl⟩ := h'
  exact ⟨cs ++ ds, hs.trans ht, batches_append cs ds⟩

/-- Commands of other kinds add no statement. -/
theorem Batched.more {xs : List String} {cs : List Command}
    (h : Batched server xs db db₁) (hs : Sent server cs db₁ db₂) (hc : batches cs = []) :
    Batched server xs db db₂ := by
  have ht := h.trans ⟨cs, hs, hc⟩
  rwa [List.append_nil] at ht

/-- To give a transaction up is to send its end at most. -/
theorem Batched.giveUp {xs : List String} (h : Batched server xs db db₁) :
    Batched server xs db (giveUp server db₁) := by
  obtain hs | hs := (send_cases (ends_answer_after (send server .rollback) db₁)).sent
  · exact h.more (hs.congr rfl rfl) rfl
  · exact h.more (hs.congr rfl rfl) rfl

/-- The body of a transaction is come to. -/
theorem Ready.inTransaction {body : Action (Database φ δ) α} {finish : α → Action (Database φ δ) β}
    {x : Except Fault β} (h : Ready server answers db)
    (he : Ends (inTransaction server body finish) db x db') :
    ∃ db₁, Begun server answers db db₁ ∧
      Ends (observing body >>= fun y => match y with
        | .ok a => finish a
        | .error e => do
          modify (giveUp server)
          throw e) db₁ x db' := by
  have hbegin : Ends (begin server) { db with connected := true } (.ok ()) _ :=
    ends_begin rfl h.begins
  replace he := (ends_bind_of (ends_connect h.pool h.reachable)).mp he
  replace he := (ends_bind_of (ends_ask_ok.mpr hbegin)).mp he
  refine ⟨_, ?_, he⟩
  exact ⟨⟨rfl, h.abides⟩, ⟨rfl, rfl⟩, rfl⟩

/-- What a dry run reports of statements that were tried. -/
def Trial.report (t : Trial) (statements : List String) : Report :=
  match t.message? with
  | none => .passed ((requiredFrom 1 statements).map requiredWarning)
  | some message => .rejected [message]

/-- How the body of a transaction ends that has run all statements. -/
structure Tried (server : Server φ δ) (answers : Responses) (t : Trial) (db db' : Database φ δ) :
    Prop where
  batched : Batched server t.sent db db'
  serves : t.message? = none → Serves server answers t.sent db'
  tables : t.message? = none → db'.toTables = server.ran t.sent db.toTables

theorem Serves.tried {x : Except String Unit} (h : Serves server answers [] db)
    (hr : Runs server 1 statements db x db') :
    x = (trial answers [] 1 statements).outcome ∧
      Tried server answers (trial answers [] 1 statements) db db' := by
  obtain ⟨rfl, hs, hgood⟩ := h.runs hr
  refine ⟨rfl, ⟨_, hs, batches_map_batch _⟩, fun hm => ?_, fun hm => ?_⟩
  · have hserves := (hgood (Option.map_eq_none_iff.mp hm)).serves
    rwa [List.nil_append, batches_map_batch] at hserves
  · have htables := (hgood (Option.map_eq_none_iff.mp hm)).tables
    rwa [batches_map_batch] at htables

/-- A dry run is a trial. What is left of what passed it is what the end of the transaction does not
take back. -/
theorem Ready.dryRun {x : Except Fault Report} (h : Ready server answers db)
    (he : Ends (dryRun server statements) db x db') :
    x = .ok ((trial answers [] 1 statements).report statements) ∧
      statementsSince db db' = (trial answers [] 1 statements).sent ∧
      ((trial answers [] 1 statements).message? = none →
        db'.toTables = (server.ran (sendable statements) db.toTables.begun).restored) := by
  obtain ⟨db₁, hp, he⟩ := h.inTransaction he
  have hbegun : Batched server [] db db₁ := ⟨_, hp.sends, rfl⟩
  obtain ⟨y, db₂, hy, hf⟩ := ends_observing_bind.mp he
  obtain ⟨z, hr, rfl⟩ := runs_of_ends_try hy
  obtain ⟨rfl, ht⟩ := hp.serves.tried hr
  have hsendable (hm : (trial answers [] 1 statements).message? = none) :
      (trial answers [] 1 statements).sent = sendable statements :=
    trial_sent (Option.map_eq_none_iff.mp hm)
  generalize trial answers [] 1 statements = t at ht hsendable hf ⊢
  have hsent := hbegun.trans ht.batched
  cases hm : t.message? with
  | some message =>
    simp only [Trial.outcome, Trial.report, hm] at hf ⊢
    replace hf := ends_modify_bind.mp hf
    obtain ⟨rfl, rfl⟩ := ends_pure.mp hf
    exact ⟨rfl, hsent.giveUp.since, nofun⟩
  | none =>
    simp only [Trial.outcome, Trial.report, hm] at hf ⊢
    have hserves := ht.serves hm
    have hrollback := ends_rollback hserves.connected (hserves.befalls rfl)
    replace hf := (ends_bind_of (ends_ask_ok.mpr hrollback)).mp hf
    obtain ⟨rfl, rfl⟩ := ends_pure.mp hf
    have hs : Sent server [.rollback] db₂ (db₂.noted server .rollback) := ⟨rfl, rfl⟩
    refine ⟨rfl, (hsent.more (hs.congr rfl rfl) rfl).since, fun _ => ?_⟩
    change db₂.toTables.restored = _
    rw [ht.tables hm, hp.tables, hsendable hm]

/-- What a text did that ends the transaction outlasts the dry run of it: only statements that keep
the transaction open leave no trace. -/
theorem Ready.dryRun_outlasted {s : String} (h : Ready server answers db)
    (hs : isSent (trim s) = true) (hv : verdict answers [] (trim s) = none)
    (hn : (server.effect (trim s) none db.toTables.begun).saved = none) :
    (after (Database.dryRun server [s]) db).toTables =
      server.effect (trim s) none db.toTables.begun := by
  obtain ⟨-, -, ht⟩ := h.dryRun (ends_answer_after (Database.dryRun server [s]) db)
  have hm : (trial answers [] 1 [s]).message? = none := by
    rw [trial, if_pos hs, hv]
    rfl
  have hsendable : sendable [s] = [trim s] := by
    rw [sendable_cons, if_pos hs]
    rfl
  rw [ht hm, hsendable]
  exact Tables.restored_of_unsaved hn

end Ready

section execution

variable {recordsStatus : Bool} {statements : List String}

/-- The row of the changeset is there, and stands at the source to the letter. -/
def InOrder (rows : List Row) (id : Uuid) (source : Status) : Prop :=
  ∃ row, rowWithId id rows = .ok (some row) ∧ row.cell .status = .text source.text

/-- The row is in order when the transaction begins, and when the statements have run in it. -/
structure StaysInOrder (server : Server φ δ) (statements : List String) (id : Uuid)
    (source : Status) (db : Database φ δ) : Prop where
  first : InOrder db.rows id source
  last : InOrder (server.ran (sendable statements) db.toTables.begun).rows id source

theorem InOrder.claimable {rows : List Row} (h : InOrder rows id source) :
    Claimable id source rows := by
  obtain ⟨row, hr, hc⟩ := h
  have hf := rowWithId_ok hr
  unfold Claimable
  simp only [Bool.and_comm (Row.hasId id _)]
  rw [← List.countP_filter, hf]
  simp [hc, Cell.text?]

theorem Serves.lockRow {x : Except Fault Unit} (h : Serves server answers sent db)
    (hr : InOrder db.rows id source) (he : Ends (lockRow server id source target) db x db') :
    x = .ok () ∧ Passes server answers sent [.query .lockStatus] db db' := by
  obtain ⟨row, hr, hc⟩ := hr
  have hlook := ends_look (q := .lockStatus) h.connected (h.befalls rfl) hr
  replace he := (ends_bind_of (ends_ask_ok.mpr hlook)).mp he
  simp only [hc, Cell.text?] at he
  replace he := (ends_bind_of (ends_mk.mpr ⟨(Status.parse_text source).symm, rfl⟩)).mp he
  rw [if_pos rfl] at he
  obtain ⟨rfl, rfl⟩ := ends_pure.mp he
  exact ⟨rfl, h.noted rfl (h.befalls rfl)⟩

theorem Serves.claimRow {x : Except Fault Bool} (h : Serves server answers sent db)
    (hr : InOrder db.rows id source) (he : Ends (claimRow server id source target now) db x db') :
    x = .ok true ∧ Serves server answers sent db' ∧ Sent server [.query .claimStatus] db db' := by
  unfold Database.claimRow at he
  obtain ⟨y, hy, rfl⟩ := ends_ask.mp he
  have hc : Claimable id source db.rows := hr.claimable
  obtain ⟨rfl, rfl⟩ := hy.unique (ends_query h.connected (h.befalls rfl) rfl)
  have hp : Passes server answers sent [.query .claimStatus] db _ := h.noted rfl (h.befalls rfl)
  refine ⟨?_, ⟨hp.serves.connected, ?_⟩, hp.sends.congr rfl rfl⟩
  · exact congrArg Except.ok (beq_iff_eq.mpr hc)
  · have ha := hp.serves.abides
    rwa [show batches [.query .claimStatus] = [] from rfl, List.append_nil] at ha

/-- How an execution of statements that were tried ends. -/
def Trial.executed (recordsStatus : Bool) (t : Trial) : Outcome :=
  match t.message? with
  | none => if recordsStatus then .recorded else .success
  | some message => .failure message

theorem Serves.runLocked {x : Except Fault (Except String Unit)}
    (h : Serves server answers [] db)
    (hr : recordsStatus = true →
      InOrder (server.ran (sendable statements) db.toTables).rows id source)
    (he : Ends (runLocked server recordsStatus id statements source target now) db x db') :
    x = .ok (trial answers [] 1 statements).outcome ∧
      Batched server (trial answers [] 1 statements).sent db db' ∧
      ((trial answers [] 1 statements).message? = none →
        Serves server answers (trial answers [] 1 statements).sent db') := by
  have hsendable (hm : (trial answers [] 1 statements).message? = none) :
      (trial answers [] 1 statements).sent = sendable statements :=
    trial_sent (Option.map_eq_none_iff.mp hm)
  cases runsLocked_of_ends he with
  | failed hruns =>
    obtain ⟨hx, ht⟩ := h.tried hruns
    exact ⟨congrArg _ hx, ht.batched, ht.serves⟩
  | unrecorded _ hruns =>
    obtain ⟨hx, ht⟩ := h.tried hruns
    exact ⟨congrArg _ hx, ht.batched, ht.serves⟩
  | claims hn hruns hc =>
    obtain ⟨hx, ht⟩ := h.tried hruns
    have hm : (trial answers [] 1 statements).message? = none := by
      rw [Trial.outcome] at hx
      split at hx
      · assumption
      · cases hx
    have hrow : InOrder _ id source := hsendable hm ▸ hr hn
    rw [← ht.tables hm] at hrow
    obtain ⟨rfl, hserves, hs⟩ := (ht.serves hm).claimRow hrow hc
    exact ⟨congrArg _ hx, ht.batched.more hs rfl, fun _ => hserves⟩

theorem Begun.runRecorded {x : Except Fault (Except String Unit)}
    (h : Begun server answers db db₁)
    (hr : recordsStatus = true → StaysInOrder server statements id source db)
    (he : Ends (runRecorded server recordsStatus id statements source target now) db₁ x db') :
    x = .ok (trial answers [] 1 statements).outcome ∧
      Batched server (trial answers [] 1 statements).sent db₁ db' ∧
      ((trial answers [] 1 statements).message? = none →
        Serves server answers (trial answers [] 1 statements).sent db') := by
  cases recordsStatus with
  | false =>
    have hrow : false = true →
        InOrder (server.ran (sendable statements) db₁.toTables).rows id source := nofun
    exact h.serves.runLocked hrow he
  | true =>
    have hfirst : InOrder db₁.rows id source := by
      rw [h.tables]
      exact (hr rfl).first
    obtain ⟨_, db₂, hl, hn⟩ | ⟨e, hl, -⟩ := ends_bind.mp he
    · obtain ⟨-, hp⟩ := h.serves.lockRow hfirst hl
      have hlast : InOrder (server.ran (sendable statements) db₂.toTables).rows id source := by
        rw [hp.tables, h.tables]
        exact (hr rfl).last
      obtain ⟨hx, hb, hgood⟩ := hp.serves.runLocked (fun _ => hlast) hn
      have hlocked : Batched server [] db₁ db₂ := ⟨_, hp.sends, rfl⟩
      exact ⟨hx, hlocked.trans hb, hgood⟩
    · cases (h.serves.lockRow hfirst hl).1

/-- So is an execution. -/
theorem Ready.execute {x : Except Fault Outcome} (h : Ready server answers db)
    (hr : recordsStatus = true → StaysInOrder server statements id source db)
    (he : Ends (execute server recordsStatus id statements source target now) db x db') :
    x = .ok ((trial answers [] 1 statements).executed recordsStatus) ∧
      statementsSince db db' = (trial answers [] 1 statements).sent := by
  obtain ⟨db₁, hp, he⟩ := h.inTransaction he
  have hbegun : Batched server [] db db₁ := ⟨_, hp.sends, rfl⟩
  obtain ⟨y, db₂, hy, hf⟩ := ends_observing_bind.mp he
  obtain ⟨rfl, hb, hgood⟩ := hp.runRecorded hr hy
  generalize trial answers [] 1 statements = t at hb hgood hf ⊢
  have hsent := hbegun.trans hb
  cases hm : t.message? with
  | some message =>
    simp only [Trial.outcome, Trial.executed, hm] at hf ⊢
    replace hf := ends_modify_bind.mp hf
    obtain ⟨rfl, rfl⟩ := ends_pure.mp hf
    exact ⟨rfl, hsent.giveUp.since⟩
  | none =>
    simp only [Trial.outcome, Trial.executed, hm] at hf ⊢
    obtain ⟨w, db₃, hw, hn⟩ := ends_attempt_bind.mp hf
    obtain ⟨rfl, -⟩ := hw.unique (ends_commit (hgood hm).connected ((hgood hm).befalls rfl))
    obtain ⟨rfl, rfl⟩ := ends_pure.mp hn
    exact ⟨rfl, (hsent.more (sent_commit hw) rfl).since⟩

end execution

section outcomes

variable {t : Trial} {statements : List String} {message : String} {recordsStatus : Bool}

theorem report_eq_rejected_iff :
    t.report statements = .rejected [message] ↔ t.message? = some message := by
  unfold Trial.report
  cases t.message? with
  | none => simp [Report.passed, Report.rejected, Report.make]
  | some m => simp [Report.rejected, Report.make]

theorem report_ok_iff : (t.report statements).ok = true ↔ t.message? = none := by
  unfold Trial.report
  cases t.message? with
  | none => simp [Report.passed, Report.make]
  | some m => simp [Report.rejected, Report.make]

theorem executed_eq_failure_iff :
    t.executed recordsStatus = .failure message ↔ t.message? = some message := by
  unfold Trial.executed
  cases t.message? with
  | none => cases recordsStatus <;> simp [Outcome.recorded, Outcome.success, Outcome.failure]
  | some m => simp [Outcome.failure]

theorem executed_ok_iff : (t.executed recordsStatus).ok = true ↔ t.message? = none := by
  unfold Trial.executed
  cases t.message? with
  | none => cases recordsStatus <;> simp [Outcome.recorded, Outcome.success]
  | some m => simp [Outcome.failure]

/-- The message names the statement, counted among all of them, and says what befell it. -/
theorem message_names_statement
    (h : (trial answers [] 1 statements).message? = some message) :
    ∃ i s e, statements[i]? = some s ∧ isSent (trim s) = true ∧
      verdict answers (sendable (statements.take i)) (trim s) = some e ∧
      message = s!"Statement {i + 1} failed: {e.reason}" := by
  obtain ⟨⟨n, e⟩, hf, rfl⟩ := Option.map_eq_some_iff.mp h
  obtain ⟨i, s, hi, rfl, hs, hv⟩ := trial_failure hf
  exact ⟨i, s, e, hi, hs, hv, by rw [Nat.add_comm]⟩

end outcomes

/-- Where the answer to a statement hangs on what was sent before it in the transaction, and all
else is in order, a dry run and an execution send the same statements; the one rejects them with a
message if the other fails with it, and passes them if the other succeeds. The message has the
number of a statement among all of them. Whatever fails, a dry run commits nothing, and it leaves
all that is stored as it was if no statement ends the transaction by itself. -/
theorem dry_run_foretells_execution (statements : List String) :
    (∀ {φ δ ψ ε : Type} (server : Server φ δ) (server' : Server ψ ε) (answers : Responses)
        (db : Database φ δ) (db' : Database ψ ε) (recordsStatus : Bool) (id : Uuid)
        (source target : Status) (now : Instant),
      Ready server answers db → Ready server' answers db' →
      (recordsStatus = true → StaysInOrder server' statements id source db') →
      let check := dryRun server statements
      let run := execute server' recordsStatus id statements source target now
      statementsSince db (after check db) = statementsSince db' (after run db') ∧
      (∀ message, answer check db = .ok (.rejected [message]) ↔
        answer run db' = .ok (.failure message)) ∧
      ((∃ report, answer check db = .ok report ∧ report.ok = true) ↔
        ∃ o, answer run db' = .ok o ∧ o.ok = true) ∧
      ((∃ report, answer check db = .ok report ∧ report.ok = true) ∨
        ∃ message, answer check db = .ok (.rejected [message])) ∧
      ∀ message, answer run db' = .ok (.failure message) →
        ∃ i s e, statements[i]? = some s ∧ isSent (trim s) = true ∧
          verdict answers (sendable (statements.take i)) (trim s) = some e ∧
          message = s!"Statement {i + 1} failed: {e.reason}") ∧
    ∀ {φ δ : Type} (server : Server φ δ) (db : Database φ δ),
      .commit ∉ sentSince db (after (dryRun server statements) db) ∧
      (db.saved = none → (∀ s ∈ sendable statements, server.KeepsOpen s) →
        (after (dryRun server statements) db).toTables = db.toTables) := by
  constructor
  · intro φ δ ψ ε server server' answers db db' recordsStatus id source target now h h' hr check run
    obtain ⟨hc, hs, -⟩ := h.dryRun (ends_answer_after check db)
    obtain ⟨hx, hs'⟩ := h'.execute hr (ends_answer_after run db')
    rw [hs, hs', hc, hx]
    refine ⟨rfl, fun message => ?_, ?_, ?_, fun message hm => ?_⟩
    · rw [Except.ok.injEq, Except.ok.injEq, report_eq_rejected_iff, executed_eq_failure_iff]
    · simp only [Except.ok.injEq, exists_eq_left', report_ok_iff, executed_ok_iff]
    · cases hm : (trial answers [] 1 statements).message? with
      | none => exact Or.inl ⟨_, rfl, report_ok_iff.mpr hm⟩
      | some message => exact Or.inr ⟨message, congrArg _ (report_eq_rejected_iff.mpr hm)⟩
    · exact message_names_statement (executed_eq_failure_iff.mp (Except.ok.inj hm))
  · intro φ δ server db
    have he := ends_answer_after (dryRun server statements) db
    constructor
    · obtain ⟨cs, hc, hs⟩ := quiet_dryRun he
      rwa [hs.sentSince]
    · intro hsaved hk
      have hh : Holds none db.toStored db := ⟨hsaved, rfl⟩
      exact hh.tables (hh.dryRun hk he)

section remembering

/-- A server that answers as it is told, and remembers what was sent in the transaction. What it has
answered well is stored. -/
def remembering (answers : Responses) : Server (List String) (List String) where
  fails := fun sent c =>
    match c with
    | .begin => (none, [])
    | .batch s => (answers sent s, sent ++ [s])
    | _ => (none, sent)
  effect := scripted.effect

theorem spent_remembering {cs : List Command} (h : cs.all Command.isInner = true) :
    spent (remembering answers).fails sent cs = sent ++ batches cs := by
  induction cs generalizing sent with
  | nil => exact (List.append_nil _).symm
  | cons c cs ih =>
    rw [List.all_cons, Bool.and_eq_true] at h
    cases c with
    | query q => exact ih h.2
    | batch s =>
      have hs := @ih (sent ++ [s]) h.2
      rwa [List.append_assoc] at hs
    | startup => cases h.1
    | begin => cases h.1
    | commit => cases h.1
    | rollback => cases h.1

theorem abides_remembering : Abides (remembering answers).fails answers sent sent := by
  intro cs c h
  rw [spent_remembering h]
  cases c <;> rfl

/-- There is a server for all answers. -/
theorem ready_remembering {db : Database (List String) (List String)} (hp : db.poolClosed = false)
    (hs : db.connected = true ∨ db.refusing = false) : Ready (remembering answers) answers db :=
  ⟨hp, hs, rfl, abides_remembering⟩

theorem keepsOpen_remembering (text : String) : (remembering answers).KeepsOpen text :=
  (tame_scripted text).keepsOpen

/-- Nothing can be done twice. -/
def onceOnly : Responses := fun sent s =>
  if s ∈ sent then some (.refusal "relation exists already" "42P07") else none

/-- A table that is made twice, with a comment between. -/
def madeAgain : List String :=
  ["create table notes()", "-- once more", " create table notes() "]

def storing : Database (List String) (List String) where
  rows := [validatedRow]
  others := []
  failures := []

theorem ready_storing : Ready (remembering answers) answers storing :=
  ready_remembering rfl (Or.inr rfl)

theorem dry_run_foretells_execution_madeAgain :
    Ready (remembering onceOnly) onceOnly storing ∧
    StaysInOrder (remembering onceOnly) madeAgain .nil .validated storing ∧
    answer (dryRun (remembering onceOnly) madeAgain) storing =
      .ok (.rejected ["Statement 3 failed: relation exists already"]) ∧
    answer (execute (remembering onceOnly) true .nil madeAgain .validated .applied ⟨0, 0⟩)
      storing = .ok (.failure "Statement 3 failed: relation exists already") ∧
    (after (dryRun (remembering onceOnly) madeAgain) storing).toTables = storing.toTables := by
  have hready : Ready (remembering onceOnly) onceOnly storing := ready_storing
  have hrow : StaysInOrder (remembering onceOnly) madeAgain .nil .validated storing :=
    ⟨⟨validatedRow, rfl, rfl⟩, ⟨validatedRow, rfl, rfl⟩⟩
  obtain ⟨hsame, hquiet⟩ := dry_run_foretells_execution madeAgain
  obtain ⟨-, hm, -⟩ :=
    hsame _ _ _ _ _ true .nil .validated .applied ⟨0, 0⟩ hready hready fun _ => hrow
  have hcheck : answer (dryRun (remembering onceOnly) madeAgain) storing =
      .ok (.rejected ["Statement 3 failed: relation exists already"]) := by rfl
  exact ⟨hready, hrow, hcheck, (hm _).mp hcheck,
    (hquiet _ storing).2 rfl fun s _ => keepsOpen_remembering s⟩

end remembering

end Evolution.Database
