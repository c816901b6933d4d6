import Evolution.Database.Session
import Evolution.Proofs.Action

/-! What is sent in a transaction and what becomes of what is stored, wherever it fails. -/
namespace Evolution.Database

open Evolution.Action

variable {φ δ α β : Type} {fails : FailureSource φ} {server : Server φ δ}
  {db db₁ db₂ db' : Database φ δ} {stored : Stored δ} {c : Command}

/-- What is left of the source after these commands. -/
def spent (fails : FailureSource φ) (f : φ) : List Command → φ
  | [] => f
  | c :: cs => spent fails (fails f c).2 cs

/-- What befell these commands. -/
def fates (fails : FailureSource φ) (f : φ) : List Command → List (Command × Option Breakdown)
  | [] => []
  | c :: cs => (c, (fails f c).1) :: fates fails (fails f c).2 cs

theorem spent_append (f : φ) (cs ds : List Command) :
    spent fails f (cs ++ ds) = spent fails (spent fails f cs) ds := by
  induction cs generalizing f with
  | nil => rfl
  | cons c cs ih => exact ih _

theorem fates_append (f : φ) (cs ds : List Command) :
    fates fails f (cs ++ ds) = fates fails f cs ++ fates fails (spent fails f cs) ds := by
  induction cs generalizing f with
  | nil => rfl
  | cons c cs ih => exact congrArg _ (ih _)

theorem mem_of_mem_fates {f : φ} {cs : List Command} {o : Option Breakdown}
    (h : (c, o) ∈ fates fails f cs) : c ∈ cs := by
  induction cs generalizing f with
  | nil => cases h
  | cons d cs ih =>
    cases h with
    | head => exact List.mem_cons_self
    | tail _ h => exact List.mem_cons_of_mem _ (ih h)

/-- These commands were sent, and the source was asked about each of them. -/
structure Sent (server : Server φ δ) (cs : List Command) (db db' : Database φ δ) : Prop where
  log : db'.log = db.log ++ cs
  failures : db'.failures = spent server.fails db.failures cs

theorem Sent.trans {cs ds : List Command} (h : Sent server cs db db₁)
    (h' : Sent server ds db₁ db₂) :
    Sent server (cs ++ ds) db db₂ :=
  ⟨by rw [h'.log, h.log, List.append_assoc], by rw [h'.failures, h.failures, spent_append]⟩

theorem Sent.refl : Sent server [] db db :=
  ⟨(List.append_nil _).symm, rfl⟩

/-- What is done to a database but to send is not seen in what was sent. -/
theorem Sent.congr {cs : List Command} (h : Sent server cs db db₁) (hl : db'.log = db₁.log)
    (hf : db'.failures = db₁.failures) : Sent server cs db db' :=
  ⟨hl.trans h.log, hf.trans h.failures⟩

/-- What has been sent since. -/
def sentSince (db db' : Database φ δ) : List Command :=
  db'.log.drop db.log.length

theorem Sent.sentSince {cs : List Command} (h : Sent server cs db db') : sentSince db db' = cs := by
  rw [Database.sentSince, h.log, List.drop_left]

/-- A commit was sent since, and nothing befell it. -/
def Committed (server : Server φ δ) (db db' : Database φ δ) : Prop :=
  (.commit, none) ∈ fates server.fails db.failures (sentSince db db')

instance : Decidable (Committed server db db') :=
  inferInstanceAs (Decidable (_ ∈ _))

theorem Sent.committed_iff {cs : List Command} (h : Sent server cs db db') :
    Committed server db db' ↔ (.commit, none) ∈ fates server.fails db.failures cs := by
  rw [Committed, h.sentSince]

/-- No commit was sent since. -/
def Quiet (server : Server φ δ) (db db' : Database φ δ) : Prop :=
  ∃ cs, .commit ∉ cs ∧ Sent server cs db db'

theorem Quiet.of_eq (hl : db'.log = db.log) (hf : db'.failures = db.failures) :
    Quiet server db db' :=
  ⟨[], List.not_mem_nil, by rw [hl, List.append_nil], hf⟩

theorem Quiet.refl : Quiet server db db :=
  .of_eq rfl rfl

theorem Quiet.trans (h : Quiet server db db₁) (h' : Quiet server db₁ db₂) :
    Quiet server db db₂ := by
  obtain ⟨cs, hn, hs⟩ := h
  obtain ⟨ds, hm, ht⟩ := h'
  exact ⟨cs ++ ds, by simp [hn, hm], hs.trans ht⟩

theorem Quiet.not_committed (h : Quiet server db db') : ¬ Committed server db db' := by
  obtain ⟨cs, hn, hs⟩ := h
  rw [hs.committed_iff]
  exact fun hc => hn (mem_of_mem_fates hc)

/-- Nothing before the last commit was one. -/
theorem Quiet.committed_iff (h : Quiet server db db₁) (hc : Sent server [.commit] db₁ db₂) :
    Committed server db db₂ ↔ (server.fails db₁.failures .commit).1 = none := by
  obtain ⟨cs, hn, hs⟩ := h
  rw [(hs.trans hc).committed_iff, fates_append, List.mem_append, ← hs.failures]
  constructor
  · rintro (hm | hm)
    · exact (hn (mem_of_mem_fates hm)).elim
    · simpa [fates, eq_comm] using hm
  · intro hf
    exact Or.inr (by simp [fates, hf])

/-- The command is written down, the source has been asked about it, and the server has done with it
what it does. -/
def noted (server : Server φ δ) (c : Command) (db : Database φ δ) : Database φ δ :=
  { db with
    toTables := server.does c (server.fails db.failures c).1 db.toTables
    failures := (server.fails db.failures c).2
    log := db.log ++ [c] }

/-- The statement that a command sends. -/
def Command.batch? : Command → Option String
  | batch s => some s
  | _ => none

/-- Where no statement is sent, nothing is up to the server. -/
theorem does_of_not_batch (h : c.batch? = none) (befallen : Option Breakdown)
    (tables : Tables δ) : server.does c befallen tables = tables := by
  cases c <;> first | rfl | cases h

theorem noted_toTables (h : c.batch? = none) : (db.noted server c).toTables = db.toTables :=
  does_of_not_batch h _ _

/-- The ways in which a command is sent. -/
inductive Sends (server : Server φ δ) (c : Command) (db : Database φ δ) :
    Except DatabaseError Unit → Database φ δ → Prop where
  | unconnected (hc : db.connected = false) : Sends server c db (.error .closed) db
  | served (hc : db.connected = true) (hf : (server.fails db.failures c).1 = none) :
      Sends server c db (.ok ()) (db.noted server c)
  | refused {message code : String} (hc : db.connected = true)
      (hf : (server.fails db.failures c).1 = some (.refusal message code)) :
      Sends server c db (.error (.refused message code)) (db.noted server c)
  | lost (hc : db.connected = true) (hf : (server.fails db.failures c).1 = some .disconnect) :
      Sends server c db (.error .closed) { (db.noted server c).restored with connected := false }

theorem send_cases {x : Except DatabaseError Unit} (he : Ends (send server c) db x db') :
    Sends server c db x db' := by
  replace he := ends_getThe_bind.mp he
  split at he
  · rename_i hc
    dsimp only at he
    split at he
    · rename_i hf
      obtain ⟨rfl, rfl⟩ := ends_set.mp he
      exact .served hc hf
    · rename_i hf
      replace he := ends_set_bind.mp he
      obtain ⟨rfl, rfl⟩ := ends_throw.mp he
      exact .refused hc hf
    · rename_i hf
      replace he := ends_set_bind.mp he
      obtain ⟨rfl, rfl⟩ := ends_throw.mp he
      exact .lost hc hf
  · rename_i hc
    obtain ⟨rfl, rfl⟩ := ends_throw.mp he
    exact .unconnected (by simpa using hc)

theorem Sends.sent {x : Except DatabaseError Unit} (h : Sends server c db x db') :
    Sent server [] db db' ∨ Sent server [c] db db' := by
  cases h with
  | unconnected => exact Or.inl ⟨(List.append_nil _).symm, rfl⟩
  | served => exact Or.inr ⟨rfl, rfl⟩
  | refused => exact Or.inr ⟨rfl, rfl⟩
  | lost => exact Or.inr ⟨rfl, rfl⟩

theorem Sends.quiet {x : Except DatabaseError Unit} (h : Sends server c db x db')
    (hc : c ≠ .commit) : Quiet server db db' := by
  obtain hs | hs := h.sent
  · exact ⟨_, List.not_mem_nil, hs⟩
  · exact ⟨_, by simpa using hc.symm, hs⟩

/-- What is stored, and what there will be when the open transaction is undone. -/
structure Holds (saved : Option (Stored δ)) (stored : Stored δ) (db : Database φ δ) : Prop where
  saved : db.saved = saved
  stored : db.toStored = stored

/-- So it is, or the open transaction has been undone with the connection. -/
inductive Within (saved : Option (Stored δ)) (stored : Stored δ) (db : Database φ δ) : Prop where
  | holds (h : Holds saved stored db)
  | undone (hc : db.connected = false) (h : Holds none (saved.getD stored) db)

variable {saved : Option (Stored δ)}

theorem Holds.rows (h : Holds saved stored db) : db.rows = stored.rows :=
  congrArg Stored.rows h.stored

theorem Holds.refl : Holds db.saved db.toStored db :=
  ⟨rfl, rfl⟩

theorem Holds.within (h : Holds saved stored db) : Within saved stored db :=
  .holds h

/-- Only what is stored counts. -/
theorem Holds.congr (h : Holds saved stored db) (ht : db'.toTables = db.toTables) :
    Holds saved stored db' :=
  ⟨(congrArg Tables.saved ht).trans h.saved, (congrArg Tables.toStored ht).trans h.stored⟩

/-- There is no more to the tables. -/
theorem Holds.tables (h : Holds saved stored db) (h' : Holds saved stored db') :
    db'.toTables = db.toTables := by
  obtain ⟨⟨_, _⟩⟩ := db
  obtain ⟨⟨_, _⟩⟩ := db'
  obtain ⟨rfl, rfl⟩ := h
  obtain ⟨rfl, rfl⟩ := h'
  rfl

/-- Outside a transaction nothing is ever undone. -/
theorem Within.outside (h : Within none stored db) : Holds none stored db := by
  cases h with
  | holds h => exact h
  | undone _ h => exact h

theorem Holds.restored (h : Holds saved stored db) : Holds none (saved.getD stored) db.restored :=
  ⟨rfl, by rw [Database.restored, Tables.restored, h.saved, h.stored]⟩

theorem Within.restored (h : Within saved stored db) :
    Holds none (saved.getD stored) db.restored := by
  cases h with
  | holds h => exact h.restored
  | undone _ h => exact h.restored

/-- A command that nothing befell was sent on an open connection. -/
theorem Within.sends {x : Except DatabaseError Unit} (hc : c.batch? = none)
    (h : Within saved stored db) (hs : Sends server c db x db') :
    Within saved stored db' ∧ (x = .ok () → Holds saved stored db') := by
  have ht : (db.noted server c).toTables = db.toTables := noted_toTables hc
  cases hs with
  | unconnected => exact ⟨h, nofun⟩
  | served ho =>
    cases h with
    | holds h => exact ⟨.holds (h.congr ht), fun _ => h.congr ht⟩
    | undone hn => simp [hn] at ho
  | refused ho =>
    cases h with
    | holds h => exact ⟨.holds (h.congr ht), nofun⟩
    | undone hn => simp [hn] at ho
  | lost ho =>
    cases h with
    | holds h => exact ⟨.undone rfl ((h.congr ht).restored.congr rfl), nofun⟩
    | undone hn => simp [hn] at ho

/-- The ways in which a query ends. -/
inductive Queries (saved : Option (Stored δ)) (stored : Stored δ)
    (effect : List Row → Except DatabaseError (α × List Row)) :
    Except DatabaseError α → Database φ δ → Prop where
  | failed {e : DatabaseError} {db' : Database φ δ} (h : Within saved stored db') :
      Queries saved stored effect (.error e) db'
  | answered {a : α} {rows : List Row} {db' : Database φ δ}
      (he : effect stored.rows = .ok (a, rows))
      (h : Holds saved { stored with rows } db') : Queries saved stored effect (.ok a) db'

theorem Within.query {q : Query} {effect : List Row → Except DatabaseError (α × List Row)}
    {x : Except DatabaseError α} (h : Within saved stored db)
    (he : Ends (query server q effect) db x db') :
    Queries saved stored effect x db' ∧ Quiet server db db' := by
  obtain ⟨_, u, hm, hn⟩ | ⟨e, hm, rfl⟩ := ends_bind.mp he
  · have hs := send_cases hm
    have hq := hs.quiet nofun
    have hu := (h.sends rfl hs).2 rfl
    replace hn := ends_getThe_bind.mp hn
    split at hn
    · rename_i rows hf
      replace hn := ends_set_bind.mp hn
      obtain ⟨rfl, rfl⟩ := ends_pure.mp hn
      refine ⟨.answered (hu.rows ▸ hf) ⟨hu.saved, ?_⟩, hq.trans (.of_eq rfl rfl)⟩
      exact congrArg (fun stored => { stored with rows }) hu.stored
    · obtain ⟨rfl, rfl⟩ := ends_throw.mp hn
      exact ⟨.failed (.holds hu), hq⟩
  · have hs := send_cases hm
    exact ⟨.failed (h.sends rfl hs).1, hs.quiet nofun⟩

/-- The ways in which a query that changes no row ends. -/
inductive Looks (saved : Option (Stored δ)) (stored : Stored δ)
    (see : List Row → Except DatabaseError α) :
    Except DatabaseError α → Database φ δ → Prop where
  | failed {e : DatabaseError} {db' : Database φ δ} (h : Within saved stored db') :
      Looks saved stored see (.error e) db'
  | answered {a : α} {db' : Database φ δ} (he : see stored.rows = .ok a)
      (h : Holds saved stored db') : Looks saved stored see (.ok a) db'

theorem Within.look {q : Query} {see : List Row → Except DatabaseError α}
    {x : Except DatabaseError α} (h : Within saved stored db)
    (he : Ends (look server q see) db x db') :
    Looks saved stored see x db' ∧ Quiet server db db' := by
  obtain ⟨hq, hn⟩ := h.query he
  refine ⟨?_, hn⟩
  cases hq with
  | failed h => exact .failed h
  | answered hs h =>
    cases hr : see stored.rows with
    | error e =>
      rw [hr] at hs
      cases hs
    | ok a =>
      rw [hr] at hs
      cases hs
      exact .answered hr h

theorem Within.giveUp (h : Within saved stored db) :
    Holds none (saved.getD stored) (giveUp server db) ∧ Quiet server db (giveUp server db) := by
  have hs := send_cases (ends_answer_after (send server .rollback) db)
  exact ⟨(h.sends rfl hs).1.restored, (hs.quiet nofun).trans (.of_eq rfl rfl)⟩

theorem Within.rollback {x : Except DatabaseError Unit} (h : Within saved stored db)
    (he : Ends (rollback server) db x db') :
    Holds none (saved.getD stored) db' ∧ Quiet server db db' := by
  cases he
  exact h.giveUp

/-- A transaction is begun with the answer of the server, or given up at once. -/
theorem begin_cases {x : Except DatabaseError Unit} (he : Ends (begin server) db x db') :
    ∃ db₁, Ends (send server .begin) db x db₁ ∧
      (x = .ok () ∧ db' = { db₁ with saved := some db₁.toStored } ∨
        (∃ e, x = .error e) ∧ db' = giveUp server db₁) := by
  obtain ⟨y, db₁, hs⟩ : ∃ y db₁, Ends (send server .begin) db y db₁ := ⟨_, _, rfl⟩
  unfold Ends Database.begin at he
  rw [ExceptT.run_mk, StateT.run] at he
  simp only [show (send server .begin).run.run db = (y, db₁) from hs] at he
  cases y with
  | ok =>
    cases he
    exact ⟨db₁, hs, .inl ⟨rfl, rfl⟩⟩
  | error e =>
    cases he
    exact ⟨db₁, hs, .inr ⟨⟨e, rfl⟩, rfl⟩⟩

/-- A transaction begins with what is stored, or not at all. -/
inductive Begins (stored : Stored δ) : Except DatabaseError Unit → Database φ δ → Prop where
  | begun {db' : Database φ δ} (h : Holds (some stored) stored db') : Begins stored (.ok ()) db'
  | failed {e : DatabaseError} {db' : Database φ δ} (h : Holds none stored db') :
      Begins stored (.error e) db'

theorem Holds.begin {x : Except DatabaseError Unit} (h : Holds none stored db)
    (he : Ends (begin server) db x db') : Begins stored x db' := by
  obtain ⟨db₁, hs, hx⟩ := begin_cases he
  have hw := (Within.holds h).sends rfl (send_cases hs)
  obtain ⟨rfl, rfl⟩ | ⟨⟨e, rfl⟩, rfl⟩ := hx
  · have hu := hw.2 rfl
    exact .begun ⟨congrArg some hu.stored, hu.stored⟩
  · exact .failed hw.1.giveUp.1

theorem quiet_begin {x : Except DatabaseError Unit} (he : Ends (begin server) db x db') :
    Quiet server db db' := by
  obtain ⟨db₁, hs, hx⟩ := begin_cases he
  have hq := (send_cases hs).quiet nofun
  obtain ⟨-, rfl⟩ | ⟨-, rfl⟩ := hx
  · exact hq.trans (.of_eq rfl rfl)
  · exact hq.trans Holds.refl.within.giveUp.2

/-- A commit ends with the answer of the server, and loses everything where it fails. -/
theorem commit_cases {x : Except DatabaseError Unit} (he : Ends (commit server) db x db') :
    ∃ db₁, Ends (send server .commit) db x db₁ ∧
      (x = .ok () ∧ db' = { db₁ with saved := none } ∨
        (∃ e, x = .error e) ∧ db' = db₁.restored) := by
  obtain ⟨y, db₁, hs⟩ : ∃ y db₁, Ends (send server .commit) db y db₁ := ⟨_, _, rfl⟩
  unfold Ends Database.commit at he
  rw [ExceptT.run_mk, StateT.run] at he
  simp only [show (send server .commit).run.run db = (y, db₁) from hs] at he
  cases y with
  | ok =>
    cases he
    exact ⟨db₁, hs, .inl ⟨rfl, rfl⟩⟩
  | error e =>
    cases he
    exact ⟨db₁, hs, .inr ⟨⟨e, rfl⟩, rfl⟩⟩

/-- A commit keeps what is stored, or it is undone; it is known which. -/
inductive Commits (server : Server φ δ) (saved : Option (Stored δ)) (stored : Stored δ)
    (db : Database φ δ) : Except DatabaseError Unit → Database φ δ → Prop where
  | kept {db' : Database φ δ} (h : Holds none stored db')
      (hc : ∀ db₀, Quiet server db₀ db → Committed server db₀ db') :
      Commits server saved stored db (.ok ()) db'
  | undone {e : DatabaseError} {db' : Database φ δ} (h : Holds none (saved.getD stored) db')
      (hc : ∀ db₀, Quiet server db₀ db → ¬ Committed server db₀ db') :
      Commits server saved stored db (.error e) db'

theorem Within.commit {x : Except DatabaseError Unit} (h : Within saved stored db)
    (he : Ends (commit server) db x db') : Commits server saved stored db x db' := by
  obtain ⟨db₁, hs, hx⟩ := commit_cases he
  have hw := h.sends rfl (send_cases hs)
  obtain ⟨rfl, rfl⟩ | ⟨⟨e, rfl⟩, rfl⟩ := hx
  · refine .kept ⟨rfl, (hw.2 rfl).stored⟩ ?_
    intro db₀ hq
    cases send_cases hs with
    | served _ hf => exact (hq.committed_iff ⟨rfl, rfl⟩).mpr hf
  · refine .undone hw.1.restored ?_
    intro db₀ hq
    cases send_cases hs with
    | unconnected => exact (hq.trans (.of_eq rfl rfl)).not_committed
    | refused _ hf =>
      rw [hq.committed_iff ⟨rfl, rfl⟩, hf]
      nofun
    | lost _ hf =>
      rw [hq.committed_iff ⟨rfl, rfl⟩, hf]
      nofun

/-- The server or the way to it is at fault. -/
inductive OfServer : Fault → Prop where
  | database (cause : DatabaseError) : OfServer (.database cause)
  | pool (cause : PoolError) : OfServer (.pool cause)

theorem ends_ask {a : Exchange φ δ α} {x : Except Fault α} :
    Ends (ask a) db x db' ↔ ∃ y, Ends a db y db' ∧ x = y.mapError .database := by
  constructor
  · intro h
    cases h
    exact ⟨_, rfl, rfl⟩
  · rintro ⟨y, h, rfl⟩
    exact congrArg (fun p => (p.1.mapError Fault.database, p.2)) h

/-- A failure that is looked at does not end the action. -/
theorem ends_attempt_bind {a : Exchange φ δ α}
    {f : Except DatabaseError α → Action (Database φ δ) β}
    {x : Except Fault β} :
    Ends (attempt a >>= f) db x db' ↔ ∃ y db₁, Ends a db y db₁ ∧ Ends (f y) db₁ x db' := by
  constructor
  · intro h
    exact ⟨_, _, rfl, h⟩
  · rintro ⟨y, db₁, h, hf⟩
    cases h.answer_eq
    cases h.after_eq
    exact hf

/-! Where nothing befalls a command, what is done with the answer is known. -/

section served

variable {q : Query} {effect : List Row → Except DatabaseError (α × List Row)} {a : α}
  {rows : List Row}

theorem ends_send (hc : db.connected = true) (hf : (server.fails db.failures c).1 = none) :
    Ends (send server c) db (.ok ()) (db.noted server c) := by
  obtain ⟨y, u, hs⟩ : ∃ y u, Ends (send server c) db y u := ⟨_, _, rfl⟩
  cases send_cases hs with
  | unconnected hn => simp [hc] at hn
  | served => exact hs
  | refused _ hr => simp [hf] at hr
  | lost _ hr => simp [hf] at hr

theorem ends_query (hc : db.connected = true) (hf : (server.fails db.failures (.query q)).1 = none)
    (he : effect db.rows = .ok (a, rows)) :
    Ends (query server q effect) db (.ok a) { db.noted server (.query q) with rows } := by
  refine ends_bind.mpr (.inl ⟨_, _, ends_send hc hf, ends_getThe_bind.mpr ?_⟩)
  rw [show (db.noted server (.query q)).rows = db.rows from rfl, he]
  exact ends_set_bind.mpr (ends_pure.mpr ⟨rfl, rfl⟩)

theorem ends_look {see : List Row → Except DatabaseError α} (hc : db.connected = true)
    (hf : (server.fails db.failures (.query q)).1 = none) (he : see db.rows = .ok a) :
    Ends (look server q see) db (.ok a) (db.noted server (.query q)) :=
  ends_query hc hf (by rw [he]; rfl)

theorem ends_begin (hc : db.connected = true) (hf : (server.fails db.failures .begin).1 = none) :
    Ends (begin server) db (.ok ()) { db.noted server .begin with saved := some db.toStored } := by
  unfold Ends Database.begin
  rw [ExceptT.run_mk, StateT.run]
  simp only [show (send server .begin).run.run db = _ from ends_send hc hf]
  rfl

theorem ends_commit (hc : db.connected = true) (hf : (server.fails db.failures .commit).1 = none) :
    Ends (commit server) db (.ok ()) { db.noted server .commit with saved := none } := by
  unfold Ends Database.commit
  rw [ExceptT.run_mk, StateT.run]
  simp only [show (send server .commit).run.run db = _ from ends_send hc hf]

theorem ends_rollback (hc : db.connected = true)
    (hf : (server.fails db.failures .rollback).1 = none) :
    Ends (rollback server) db (.ok ()) (db.noted server .rollback).restored := by
  unfold Ends Database.rollback
  rw [ExceptT.run_mk, StateT.run]
  simp only [show (send server .rollback).run.run db = _ from ends_send hc hf]

theorem ends_connect (hp : db.poolClosed = false)
    (hs : db.connected = true ∨ db.refusing = false) :
    Ends connect db (.ok ()) { db with connected := true } := by
  refine ends_getThe_bind.mpr ?_
  rw [if_neg (by simp [hp])]
  split
  · rename_i hc
    exact ends_pure.mpr ⟨rfl, by rw [← hc]⟩
  · rename_i hc
    rw [if_neg (by simp [hs.resolve_left hc])]
    exact ends_set.mpr ⟨rfl, rfl⟩

theorem ends_ask_ok {b : Exchange φ δ α} : Ends (ask b) db (.ok a) db' ↔ Ends b db (.ok a) db' := by
  rw [ends_ask]
  constructor
  · rintro ⟨y, hy, hx⟩
    cases y with
    | ok =>
      cases hx
      exact hy
    | error => cases hx
  · intro h
    exact ⟨_, h, rfl⟩

end served

/-- To take a connection out of the pool is nothing that the server hears of. -/
structure Connects (server : Server φ δ) (db : Database φ δ) (x : Except Fault Unit)
    (db' : Database φ δ) : Prop where
  tables : db'.toTables = db.toTables
  sends : Sent server [] db db'
  errors : ErrorsIn OfServer x

variable (server) in
theorem connects_of_ends {x : Except Fault Unit} (he : Ends connect db x db') :
    Connects server db x db' := by
  replace he := ends_getThe_bind.mp he
  split at he
  · obtain ⟨rfl, rfl⟩ := ends_throw.mp he
    exact ⟨rfl, .refl, .error (.pool _)⟩
  · split at he
    · obtain ⟨rfl, rfl⟩ := ends_pure.mp he
      exact ⟨rfl, .refl, .ok⟩
    · split at he
      · obtain ⟨rfl, rfl⟩ := ends_throw.mp he
        exact ⟨rfl, .refl, .error (.pool _)⟩
      · obtain ⟨rfl, rfl⟩ := ends_set.mp he
        exact ⟨rfl, Sent.refl.congr rfl rfl, .ok⟩

theorem Connects.quiet {x : Except Fault Unit} (h : Connects server db x db') :
    Quiet server db db' :=
  ⟨[], List.not_mem_nil, h.sends⟩

theorem Holds.connect {x : Except Fault Unit} (h : Holds saved stored db)
    (hc : Connects server db x db') : Holds saved stored db' :=
  h.congr hc.tables

/-- The ways in which a question to the server and what is made of the answer end. -/
inductive Asks (server : Server φ δ) (saved : Option (Stored δ)) (stored : Stored δ)
    (see : List Row → Except DatabaseError α) (rest : α → Action (Database φ δ) β)
    (db : Database φ δ) : Except Fault β → Database φ δ → Prop where
  | failed {e : Fault} {db' : Database φ δ} (hs : OfServer e) (h : Within saved stored db')
      (hq : Quiet server db db') : Asks server saved stored see rest db (.error e) db'
  | answered {a : α} {x : Except Fault β} {db₁ db' : Database φ δ} (ha : see stored.rows = .ok a)
      (h : Holds saved stored db₁) (hq : Quiet server db db₁) (he : Ends (rest a) db₁ x db') :
      Asks server saved stored see rest db x db'

theorem Within.asks {q : Query} {see : List Row → Except DatabaseError α}
    {rest : α → Action (Database φ δ) β} {x : Except Fault β} (h : Within saved stored db)
    (he : Ends (ask (Database.look server q see) >>= rest) db x db') :
    Asks server saved stored see rest db x db' := by
  obtain ⟨a, db₁, hm, hn⟩ | ⟨e, hm, rfl⟩ := ends_bind.mp he
  · obtain ⟨y, hy, hx⟩ := ends_ask.mp hm
    obtain ⟨hy, hq⟩ := h.look hy
    cases hy with
    | failed => cases hx
    | answered ha h₁ =>
      cases hx
      exact .answered ha h₁ hq hn
  · obtain ⟨y, hy, hx⟩ := ends_ask.mp hm
    obtain ⟨hy, hq⟩ := h.look hy
    cases hy with
    | answered => cases hx
    | failed h₁ =>
      cases hx
      exact .failed (.database _) h₁ hq

/-- The same over a connection that is taken out of the pool for it. -/
theorem Holds.asks {q : Query} {see : List Row → Except DatabaseError α}
    {rest : α → Action (Database φ δ) β} {x : Except Fault β} (h : Holds saved stored db)
    (he : Ends (Database.connect >>= fun _ => ask (look server q see) >>= rest) db x db') :
    Asks server saved stored see rest db x db' := by
  obtain ⟨_, db₁, hm, hn⟩ | ⟨e, hm, rfl⟩ := ends_bind.mp he
  · have hc := connects_of_ends server hm
    cases (h.connect hc).within.asks hn with
    | failed hs h₂ hq₂ => exact .failed hs h₂ (hc.quiet.trans hq₂)
    | answered ha h₂ hq₂ hr => exact .answered ha h₂ (hc.quiet.trans hq₂) hr
  · have hc := connects_of_ends server hm
    exact .failed (hc.errors e rfl) (h.connect hc).within hc.quiet

/-- The ways in which a transaction ends. -/
inductive Transacts (server : Server φ δ) (body : Action (Database φ δ) α)
    (finish : α → Action (Database φ δ) β) (db : Database φ δ) :
    Except Fault β → Database φ δ → Prop where
  | unopened {e : Fault} {db' : Database φ δ} (hs : OfServer e)
      (h : ∀ stored, Holds none stored db → Holds none stored db') (hq : Quiet server db db') :
      Transacts server body finish db (.error e) db'
  | broken {e : Fault} {db₁ db₂ : Database φ δ}
      (h : ∀ stored, Holds none stored db → Holds (some stored) stored db₁)
      (hq : Quiet server db db₁) (hb : Ends body db₁ (.error e) db₂) :
      Transacts server body finish db (.error e) (giveUp server db₂)
  | finished {a : α} {x : Except Fault β} {db₁ db₂ db₃ : Database φ δ}
      (h : ∀ stored, Holds none stored db → Holds (some stored) stored db₁)
      (hq : Quiet server db db₁) (hb : Ends body db₁ (.ok a) db₂) (hf : Ends (finish a) db₂ x db₃) :
      Transacts server body finish db x db₃

theorem transacts_of_ends {body : Action (Database φ δ) α}
    {finish : α → Action (Database φ δ) β} {x : Except Fault β}
    (he : Ends (inTransaction server body finish) db x db') :
    Transacts server body finish db x db' := by
  obtain ⟨_, db₀, hm, hn⟩ | ⟨e, hm, rfl⟩ := ends_bind.mp he
  · have hc := connects_of_ends server hm
    obtain ⟨_, db₁, hb, hn⟩ | ⟨e, hb, rfl⟩ := ends_bind.mp hn
    · have hb := ends_ask_ok.mp hb
      have hq := hc.quiet.trans (quiet_begin hb)
      have hh (stored : Stored δ) (h : Holds none stored db) : Holds (some stored) stored db₁ := by
        cases (h.connect hc).begin hb with
        | begun h => exact h
      obtain ⟨z, db₂, hz, hn⟩ := ends_observing_bind.mp hn
      cases z with
      | ok a => exact .finished hh hq hz hn
      | error e =>
        replace hn := ends_modify_bind.mp hn
        obtain ⟨rfl, rfl⟩ := ends_throw.mp hn
        exact .broken hh hq hz
    · obtain ⟨y, hy, hx⟩ := ends_ask.mp hb
      cases y with
      | ok => cases hx
      | error cause =>
        cases hx
        refine .unopened (.database _) (fun stored h => ?_) (hc.quiet.trans (quiet_begin hy))
        cases (h.connect hc).begin hy with
        | failed h => exact h
  · have hc := connects_of_ends server hm
    exact .unopened (hc.errors e rfl) (fun _ h => h.connect hc) hc.quiet

end Evolution.Database
