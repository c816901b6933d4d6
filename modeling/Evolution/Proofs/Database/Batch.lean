import Evolution.Proofs.Database.Sending
import Evolution.Proofs.Database.Store

/-! What running the statements of a changeset makes of what is stored, wherever it fails. Where
they spare the table and the transaction, the row is moved and their effects are kept, or neither; a
success is a commit, whatever they do. -/
namespace Evolution.Database

open Evolution.Action
open Text (trim)
open Time (Instant)

variable {φ δ : Type} {server : Server φ δ} {db db₀ db₁ db' : Database φ δ} {stored : Stored δ}
  {saved : Option (Stored δ)} {id : Uuid} {source target : Status} {now : Instant}
  {statements : List String} {recordsStatus : Bool}

section dryRun

variable {x : Except Fault Report}

/-- The ways in which a dry run ends: it always goes back to where it began. -/
inductive Tries (server : Server φ δ) (statements : List String) (db : Database φ δ) :
    Except Fault Report → Database φ δ → Prop where
  | unopened {e : Fault} {db' : Database φ δ} (hs : OfServer e)
      (h : ∀ stored, Holds none stored db → Holds none stored db') (hq : Quiet server db db') :
      Tries server statements db (.error e) db'
  | rejected {message : String} {db₁ db₂ : Database φ δ}
      (h : ∀ stored, Holds none stored db → Holds (some stored) stored db₁)
      (hq : Quiet server db db₁) (hr : Runs server 1 statements db₁ (.error message) db₂) :
      Tries server statements db (.ok (.rejected [message])) (giveUp server db₂)
  | passed {x : Except Fault Report} {db₁ db₂ db' : Database φ δ}
      (h : ∀ stored, Holds none stored db → Holds (some stored) stored db₁)
      (hq : Quiet server db db₁) (hr : Runs server 1 statements db₁ (.ok ()) db₂)
      (hx : x = .ok (.passed ((requiredFrom 1 statements).map requiredWarning)) ∨
        ∃ e, x = .error (.database e)) (hb : db' = giveUp server db₂) :
      Tries server statements db x db'

theorem tries_of_ends (he : Ends (dryRun server statements) db x db') :
    Tries server statements db x db' := by
  cases transacts_of_ends he with
  | unopened hs h hq => exact .unopened hs h hq
  | broken _ _ hb =>
    obtain ⟨_, -, hx⟩ := runs_of_ends_try hb
    cases hx
  | finished h hq hb hf =>
    obtain ⟨y, hr, hx⟩ := runs_of_ends_try hb
    cases hx
    cases y with
    | error message =>
      replace hf := ends_modify_bind.mp hf
      obtain ⟨rfl, rfl⟩ := ends_pure.mp hf
      exact .rejected h hq hr
    | ok =>
      obtain ⟨y, hy, rfl⟩ := ends_bind_pure.mp hf
      obtain ⟨z, hz, rfl⟩ := ends_ask.mp hy
      refine .passed h hq hr ?_ (congrArg Prod.snd hz).symm
      cases z with
      | ok => exact .inl rfl
      | error e => exact .inr ⟨e, rfl⟩

/-- A dry run sends no commit. -/
theorem quiet_dryRun (he : Ends (dryRun server statements) db x db') : Quiet server db db' := by
  cases tries_of_ends he with
  | unopened _ _ hq => exact hq
  | rejected _ hq hr => exact (hq.trans hr.quiet).trans Holds.refl.within.giveUp.2
  | passed _ hq hr _ hb =>
    subst hb
    exact (hq.trans hr.quiet).trans Holds.refl.within.giveUp.2

/-- A dry run leaves no trace, if no statement ends the transaction. -/
theorem Holds.dryRun (h : Holds none stored db)
    (hk : ∀ s ∈ sendable statements, server.KeepsOpen s)
    (he : Ends (dryRun server statements) db x db') : Holds none stored db' := by
  cases tries_of_ends he with
  | unopened _ hh => exact hh _ h
  | rejected hh _ hr =>
    obtain ⟨_, hw, -⟩ := hr.within hk (hh _ h).within
    exact hw.giveUp.1
  | passed hh _ hr _ hb =>
    subst hb
    obtain ⟨_, hw, -⟩ := hr.within hk (hh _ h).within
    exact hw.giveUp.1

end dryRun

section row

/-- The row is there and stands at the source. -/
def StandsAt (rows : List Row) (id : Uuid) (source : Status) : Prop :=
  ∃ row, rowWithId id rows = .ok (some row) ∧ row.status? = some source

/-- The ways in which the row of a changeset is locked. -/
inductive Locks (saved : Option (Stored δ)) (stored : Stored δ) (id : Uuid) (source : Status) :
    Except Fault Unit → Database φ δ → Prop where
  | failed {e : Fault} {db' : Database φ δ} (h : Within saved stored db') :
      Locks saved stored id source (.error e) db'
  | locked {db' : Database φ δ} (h : Holds saved stored db') (hs : StandsAt stored.rows id source) :
      Locks saved stored id source (.ok ()) db'

theorem Holds.lockRow {x : Except Fault Unit} (h : Holds saved stored db)
    (he : Ends (lockRow server id source target) db x db') :
    Locks saved stored id source x db' ∧ Quiet server db db' := by
  cases h.within.asks he with
  | failed _ h₁ hq => exact ⟨.failed h₁, hq⟩
  | @answered found _ _ _ hf h₁ hq hn =>
    have ht (e : Fault) {db₁ : Database φ δ} (h₁ : Holds saved stored db₁)
        (hq : Quiet server db db₁)
        (he : Ends (throw e : Action (Database φ δ) Unit) db₁ x db') :
        Locks saved stored id source x db' ∧ Quiet server db db' := by
      obtain ⟨rfl, rfl⟩ := ends_throw.mp he
      exact ⟨.failed h₁.within, hq⟩
    cases found with
    | none => exact ht _ h₁ hq hn
    | some row =>
      dsimp only at hn
      split at hn
      · rename_i text htext
        obtain ⟨status, _, hm, hs⟩ | ⟨e, hm, rfl⟩ := ends_bind.mp hn
        · obtain ⟨hp, rfl⟩ := ends_mk.mp hm
          split at hs
          · rename_i heq
            subst heq
            obtain ⟨rfl, rfl⟩ := ends_pure.mp hs
            refine ⟨.locked h₁ ⟨row, hf, ?_⟩, hq⟩
            rw [Row.status?, htext, Option.bind_some]
            exact Status.parse_eq_ok hp.symm
          · exact ht _ h₁ hq hs
        · obtain ⟨-, rfl⟩ := ends_mk.mp hm
          exact ⟨.failed h₁.within, hq⟩
      · exact ht _ h₁ hq hn

/-- What a claim makes of the rows. -/
def claimed (id : Uuid) (source target : Status) (now : Instant) (rows : List Row) : List Row :=
  rows.map fun row =>
    if row.hasId id && (row.cell .status).text? == some source.text then
      row.moved { status := target } now
    else row

/-- One row is moved by the claim. -/
def Claimable (id : Uuid) (source : Status) (rows : List Row) : Prop :=
  rows.countP (fun row => row.hasId id && (row.cell .status).text? == some source.text) = 1

/-- The ways in which the row of a changeset is claimed. -/
inductive Claims (saved : Option (Stored δ)) (id : Uuid) (source target : Status) (now : Instant)
    (stored : Stored δ) : Except Fault Bool → Database φ δ → Prop where
  | failed {e : Fault} {db' : Database φ δ} (h : Within saved stored db') :
      Claims saved id source target now stored (.error e) db'
  | claimed {db' : Database φ δ} (hc : Claimable id source stored.rows)
      (h : Holds saved ⟨claimed id source target now stored.rows, stored.others⟩ db') :
      Claims saved id source target now stored (.ok true) db'
  | unclaimed {db' : Database φ δ}
      (h : Holds saved ⟨claimed id source target now stored.rows, stored.others⟩ db') :
      Claims saved id source target now stored (.ok false) db'

theorem Holds.claimRow {x : Except Fault Bool} (h : Holds saved stored db)
    (he : Ends (claimRow server id source target now) db x db') :
    Claims saved id source target now stored x db' ∧ Quiet server db db' := by
  unfold Database.claimRow at he
  obtain ⟨y, hy, rfl⟩ := ends_ask.mp he
  obtain ⟨hy, hq⟩ := h.within.query hy
  cases hy with
  | failed h₁ => exact ⟨.failed h₁, hq⟩
  | @answered b _ _ ha h₁ =>
    cases b with
    | false =>
      obtain ⟨-, rfl⟩ := Prod.mk.inj (Except.ok.inj ha)
      exact ⟨.unclaimed h₁, hq⟩
    | true =>
      obtain ⟨hc, rfl⟩ := Prod.mk.inj (Except.ok.inj ha)
      exact ⟨.claimed (eq_of_beq hc) h₁, hq⟩

end row

section body

variable {x : Except Fault (Except String Unit)}

/-- What is done once the row is locked, where it has to be. -/
def runLocked (server : Server φ δ) (recordsStatus : Bool) (id : Uuid)
    (statements : List String) (source target : Status) (now : Instant) :
    Action (Database φ δ) (Except String Unit) := do
  match ← runStatements server 1 statements with
  | .error message => pure (.error message)
  | .ok () =>
    if !recordsStatus then pure (.ok ())
    else if ← claimRow server id source target now then pure (.ok ())
    else pure (.error s!"Changeset {id} left status {source} during execution")

/-- The ways in which statements are run on a locked row. -/
inductive RunsLocked (server : Server φ δ) (recordsStatus : Bool) (id : Uuid)
    (statements : List String) (source target : Status) (now : Instant) (db : Database φ δ) :
    Except Fault (Except String Unit) → Database φ δ → Prop where
  | failed {message : String} {db' : Database φ δ}
      (hr : Runs server 1 statements db (.error message) db') :
      RunsLocked server recordsStatus id statements source target now db (.ok (.error message)) db'
  | unrecorded {db' : Database φ δ} (hn : recordsStatus = false)
      (hr : Runs server 1 statements db (.ok ()) db') :
      RunsLocked server recordsStatus id statements source target now db (.ok (.ok ())) db'
  | claims {y : Except Fault Bool} {db₁ db' : Database φ δ} (hn : recordsStatus = true)
      (hr : Runs server 1 statements db (.ok ()) db₁)
      (hc : Ends (claimRow server id source target now) db₁ y db') :
      RunsLocked server recordsStatus id statements source target now db
        (y.map fun b =>
          if b then .ok () else .error s!"Changeset {id} left status {source} during execution") db'

theorem runsLocked_of_ends
    (he : Ends (runLocked server recordsStatus id statements source target now) db x db') :
    RunsLocked server recordsStatus id statements source target now db x db' := by
  obtain ⟨y, db₁, hm, hn⟩ | ⟨e, hm, rfl⟩ := ends_bind.mp he
  · obtain ⟨z, hr, hx⟩ := runs_of_ends hm
    cases hx
    cases y with
    | error message =>
      obtain ⟨rfl, rfl⟩ := ends_pure.mp hn
      exact .failed hr
    | ok =>
      cases recordsStatus with
      | false =>
        obtain ⟨rfl, rfl⟩ := ends_pure.mp hn
        exact .unrecorded rfl hr
      | true =>
        obtain ⟨b, db₂, hc, hp⟩ | ⟨e, hc, rfl⟩ := ends_bind.mp hn
        · have h : RunsLocked server true id statements source target now db _ db₂ :=
            .claims rfl hr hc
          cases b with
          | false =>
            obtain ⟨rfl, rfl⟩ := ends_pure.mp hp
            exact h
          | true =>
            obtain ⟨rfl, rfl⟩ := ends_pure.mp hp
            exact h
        · exact .claims rfl hr hc
  · obtain ⟨z, -, hx⟩ := runs_of_ends hm
    cases hx

theorem RunsLocked.quiet
    (h : RunsLocked server recordsStatus id statements source target now db x db') :
    Quiet server db db' := by
  cases h with
  | failed hr => exact hr.quiet
  | unrecorded _ hr => exact hr.quiet
  | claims _ hr hc => exact hr.quiet.trans (Holds.refl.claimRow hc).2

theorem quiet_runLocked (recordsStatus : Bool)
    (he : Ends (runLocked server recordsStatus id statements source target now) db x db') :
    Quiet server db db' :=
  (runsLocked_of_ends he).quiet

theorem quiet_runRecorded
    (he : Ends (runRecorded server recordsStatus id statements source target now) db x db') :
    Quiet server db db' := by
  cases recordsStatus with
  | false => exact quiet_runLocked false he
  | true =>
    obtain ⟨_, db₁, hm, hn⟩ | ⟨e, hm, rfl⟩ := ends_bind.mp he
    · exact (Holds.refl.lockRow hm).2.trans (quiet_runLocked true hn)
    · exact (Holds.refl.lockRow hm).2

/-- The ways in which the statements of a changeset run in an open transaction. -/
inductive Records (recordsStatus : Bool) (id : Uuid) (source target : Status) (now : Instant)
    (stored : Stored δ) : Except Fault (Except String Unit) → Database φ δ → Prop where
  | raised {e : Fault} {stored' : Stored δ} {db' : Database φ δ}
      (h : Within (some stored) stored' db') :
      Records recordsStatus id source target now stored (.error e) db'
  | failed {message : String} {stored' : Stored δ} {db' : Database φ δ}
      (h : Within (some stored) stored' db') :
      Records recordsStatus id source target now stored (.ok (.error message)) db'
  | claimed {others : δ} {db' : Database φ δ} (hr : recordsStatus = true)
      (hs : StandsAt stored.rows id source) (hc : Claimable id source stored.rows)
      (h : Holds (some stored) ⟨claimed id source target now stored.rows, others⟩ db') :
      Records recordsStatus id source target now stored (.ok (.ok ())) db'
  | unrecorded {others : δ} {db' : Database φ δ} (hr : recordsStatus = false)
      (h : Holds (some stored) ⟨stored.rows, others⟩ db') :
      Records recordsStatus id source target now stored (.ok (.ok ())) db'

theorem Holds.runLocked (h : Holds (some stored) stored db)
    (hs : recordsStatus = true → StandsAt stored.rows id source)
    (hk : ∀ s ∈ sendable statements, server.Spares s)
    (hr : RunsLocked server recordsStatus id statements source target now db x db') :
    Records recordsStatus id source target now stored x db' := by
  have hopen : ∀ s ∈ sendable statements, server.KeepsOpen s := fun s hs => (hk s hs).keepsOpen
  have hrows : ∀ s ∈ sendable statements, server.KeepsRows s := fun s hs => (hk s hs).keepsRows
  cases hr with
  | failed hr =>
    obtain ⟨_, hw, -⟩ := hr.within hopen h.within
    exact .failed hw
  | unrecorded hn hr =>
    obtain ⟨⟨rows, others⟩, -, hkept, hh⟩ := hr.within hopen h.within
    obtain rfl : rows = stored.rows := hkept hrows
    exact .unrecorded hn (hh rfl h)
  | claims hn hr hc =>
    obtain ⟨⟨rows, others⟩, -, hkept, hh⟩ := hr.within hopen h.within
    obtain rfl : rows = stored.rows := hkept hrows
    cases ((hh rfl h).claimRow hc).1 with
    | failed hw => exact .raised hw
    | claimed hrow hd => exact .claimed hn (hs hn) hrow hd
    | unclaimed hd => exact .failed hd.within

theorem Holds.runRecorded (h : Holds (some stored) stored db)
    (hk : ∀ s ∈ sendable statements, server.Spares s)
    (he : Ends (runRecorded server recordsStatus id statements source target now) db x db') :
    Records recordsStatus id source target now stored x db' := by
  cases recordsStatus with
  | false => exact h.runLocked nofun hk (runsLocked_of_ends he)
  | true =>
    obtain ⟨_, db₁, hm, hn⟩ | ⟨e, hm, rfl⟩ := ends_bind.mp he
    · cases (h.lockRow hm).1 with
      | locked h₁ hs => exact h₁.runLocked (fun _ => hs) hk (runsLocked_of_ends hn)
    · cases (h.lockRow hm).1 with
      | failed h₁ => exact .raised h₁

end body

section execute

variable {x : Except Fault Outcome}

/-- What ends an execution whose statements have all run. -/
def conclude (server : Server φ δ) (recordsStatus : Bool) : Action (Database φ δ) Outcome := do
  match ← attempt (commit server) with
  | .ok () => pure (if recordsStatus then .recorded else .success)
  | .error cause => pure (.failure s!"Commit failed: {cause.message}")

/-- The ways in which an execution whose statements have all run is concluded. -/
inductive Concludes (server : Server φ δ) (recordsStatus : Bool) (saved : Option (Stored δ))
    (stored : Stored δ) (db₀ : Database φ δ) : Except Fault Outcome → Database φ δ → Prop where
  | kept {db' : Database φ δ} (h : Holds none stored db') (hn : Committed server db₀ db') :
      Concludes server recordsStatus saved stored db₀
        (.ok (if recordsStatus then .recorded else .success)) db'
  | lost {message : String} {db' : Database φ δ} (h : Holds none (saved.getD stored) db')
      (hn : ¬ Committed server db₀ db') :
      Concludes server recordsStatus saved stored db₀ (.ok (.failure message)) db'

theorem Holds.conclude (h : Holds saved stored db) (hq : Quiet server db₀ db)
    (he : Ends (conclude server recordsStatus) db x db') :
    Concludes server recordsStatus saved stored db₀ x db' := by
  obtain ⟨y, db₁, hm, hn⟩ := ends_attempt_bind.mp he
  cases h.within.commit hm with
  | kept h₁ hc =>
    obtain ⟨rfl, rfl⟩ := ends_pure.mp hn
    exact .kept h₁ (hc _ hq)
  | undone h₁ hc =>
    obtain ⟨rfl, rfl⟩ := ends_pure.mp hn
    exact .lost h₁ (hc _ hq)

/-- The ways in which the statements of a changeset are run for good. -/
inductive Executes (recordsStatus : Bool) (id : Uuid) (source target : Status) (now : Instant)
    (stored : Stored δ) : Except Fault Outcome → Database φ δ → Prop where
  | raised {e : Fault} {db' : Database φ δ} (h : Holds none stored db') :
      Executes recordsStatus id source target now stored (.error e) db'
  | refused {o : Outcome} {db' : Database φ δ} (ho : o.ok = false) (h : Holds none stored db') :
      Executes recordsStatus id source target now stored (.ok o) db'
  | recorded {others : δ} {db' : Database φ δ} (hr : recordsStatus = true)
      (hs : StandsAt stored.rows id source) (hc : Claimable id source stored.rows)
      (h : Holds none ⟨claimed id source target now stored.rows, others⟩ db') :
      Executes recordsStatus id source target now stored (.ok .recorded) db'
  | unrecorded {others : δ} {db' : Database φ δ} (hr : recordsStatus = false)
      (h : Holds none ⟨stored.rows, others⟩ db') :
      Executes recordsStatus id source target now stored (.ok .success) db'

theorem Holds.execute (h : Holds none stored db) (hk : ∀ s ∈ sendable statements, server.Spares s)
    (he : Ends (execute server recordsStatus id statements source target now) db x db') :
    Executes recordsStatus id source target now stored x db' := by
  cases transacts_of_ends he with
  | unopened _ hh => exact .raised (hh _ h)
  | broken hh _ hb =>
    cases (hh _ h).runRecorded hk hb with
    | raised h₂ => exact .raised h₂.giveUp.1
  | finished hh _ hb hf =>
    cases (hh _ h).runRecorded hk hb with
    | failed h₂ =>
      replace hf := ends_modify_bind.mp hf
      obtain ⟨rfl, rfl⟩ := ends_pure.mp hf
      exact .refused rfl h₂.giveUp.1
    | claimed hr hs hc h₂ =>
      subst hr
      cases h₂.conclude .refl hf with
      | kept h₃ => exact .recorded rfl hs hc h₃
      | lost h₃ => exact .refused rfl h₃
    | unrecorded hr h₂ =>
      subst hr
      cases h₂.conclude .refl hf with
      | kept h₃ => exact .unrecorded rfl h₃
      | lost h₃ => exact .refused rfl h₃

/-- What is answered of a run for good, by whether a commit went through. -/
inductive Closes (server : Server φ δ) (recordsStatus : Bool) (db₀ : Database φ δ) :
    Except Fault Outcome → Database φ δ → Prop where
  | raised {e : Fault} {db' : Database φ δ} (hn : ¬ Committed server db₀ db') :
      Closes server recordsStatus db₀ (.error e) db'
  | refused {message : String} {db' : Database φ δ} (hn : ¬ Committed server db₀ db') :
      Closes server recordsStatus db₀ (.ok (.failure message)) db'
  | succeeded {db' : Database φ δ} (hc : Committed server db₀ db') :
      Closes server recordsStatus db₀ (.ok (if recordsStatus then .recorded else .success)) db'

/-- Whatever the statements do, there is a commit behind every success and behind nothing else. -/
theorem closes_of_ends (hq : Quiet server db₀ db)
    (he : Ends (execute server recordsStatus id statements source target now) db x db') :
    Closes server recordsStatus db₀ x db' := by
  cases transacts_of_ends he with
  | unopened _ _ hq₁ => exact .raised (hq.trans hq₁).not_committed
  | broken _ hq₁ hb =>
    have hq₂ := (hq.trans hq₁).trans (quiet_runRecorded hb)
    exact .raised (hq₂.trans Holds.refl.within.giveUp.2).not_committed
  | @finished a _ _ _ _ _ hq₁ hb hf =>
    have hq₂ := (hq.trans hq₁).trans (quiet_runRecorded hb)
    cases a with
    | error message =>
      replace hf := ends_modify_bind.mp hf
      obtain ⟨rfl, rfl⟩ := ends_pure.mp hf
      exact .refused (hq₂.trans Holds.refl.within.giveUp.2).not_committed
    | ok =>
      cases Holds.refl.conclude hq₂ hf with
      | kept _ hc => exact .succeeded hc
      | lost _ hn => exact .refused hn

theorem Closes.success_iff (h : Closes server recordsStatus db₀ x db') :
    (∃ o, x = .ok o ∧ o.ok = true) ↔ Committed server db₀ db' := by
  cases h with
  | raised hn => exact iff_of_false nofun hn
  | refused hn =>
    refine iff_of_false ?_ hn
    rintro ⟨_, ⟨⟩, ho⟩
    cases ho
  | succeeded hc =>
    refine iff_of_true ⟨_, rfl, ?_⟩ hc
    cases recordsStatus <;> rfl

/-- A success tells whether the status is recorded with it. -/
theorem Closes.statusRecorded {o : Outcome} (h : Closes server recordsStatus db₀ (.ok o) db')
    (ho : o.ok = true) : o.statusRecorded = recordsStatus := by
  cases h with
  | refused => cases ho
  | succeeded => cases recordsStatus <;> rfl

end execute

end Evolution.Database
