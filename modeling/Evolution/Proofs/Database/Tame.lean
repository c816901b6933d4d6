import Evolution.Database.Hosting
import Evolution.Proofs.Database.Transcript
import Evolution.Proofs.Lifecycle.Mirror

/-! Statements of changesets that leave the table of changesets and the transaction alone. A server
that is sent no others does what a server does on which there are no others. -/
namespace Evolution

open Evolution.Action Database
open Time (Instant)

namespace Database

variable {φ δ α β : Type} {server : Server φ δ} {db db' : Database φ δ} {c : Command} {id : Uuid}
  {source target : Status} {now : Instant}

/-- Every statement leaves the table of changesets and the transaction alone. -/
def Server.Tame (server : Server φ δ) : Prop :=
  ∀ text, server.Spares text

/-- The same server, with nothing left of the statements but what spares both. -/
def Server.tamed (server : Server φ δ) : Server φ δ where
  fails := server.fails
  effect := fun text befallen tables =>
    { tables with others := (server.effect text befallen tables).others }

theorem Server.tame_tamed (server : Server φ δ) : server.tamed.Tame :=
  fun _ => ⟨fun _ _ => rfl, fun _ _ => rfl⟩

theorem Server.Spares.effect_tamed {text : String} (h : server.Spares text) :
    server.tamed.effect text = server.effect text := by
  funext befallen tables
  have hrows := h.keepsRows befallen tables
  have hsaved := h.keepsOpen befallen tables
  change Tables.mk ⟨tables.rows, (server.effect text befallen tables).others⟩ tables.saved = _
  rw [← hrows, ← hsaved]

/-- The statement that a command sends, if it sends one, is spared by. -/
def Server.SparesBy (server : Server φ δ) (c : Command) : Prop :=
  ∀ text, c.batch? = some text → server.Spares text

/-- Databases write down what they are sent. -/
abbrev MirrorsTamed {ε : Type} (server : Server φ δ)
    (a a' : ExceptT ε (StateM (Database φ δ)) α) : Prop :=
  Mirrors Database.log server.SparesBy a a'

section exchange

theorem send_tamed (h : server.SparesBy c) : send server.tamed c = send server c := by
  have hdoes : server.tamed.does c = server.does c := by
    cases c with
    | batch text => exact (h text rfl).effect_tamed
    | _ => rfl
  unfold send
  rw [hdoes]
  rfl

theorem mirrors_send : MirrorsTamed server (send server c) (send server.tamed c) := by
  intro db x db' he
  cases send_cases he with
  | unconnected hc =>
    refine ⟨[], (List.append_nil _).symm, fun _ => ends_getThe_bind.mpr ?_⟩
    rw [if_neg (by simp [hc])]
    exact ends_throw.mpr ⟨rfl, rfl⟩
  | served => exact ⟨[c], rfl, fun hg => send_tamed (hg c (List.mem_singleton_self c)) ▸ he⟩
  | refused => exact ⟨[c], rfl, fun hg => send_tamed (hg c (List.mem_singleton_self c)) ▸ he⟩
  | lost => exact ⟨[c], rfl, fun hg => send_tamed (hg c (List.mem_singleton_self c)) ▸ he⟩

theorem mirrors_batch {s : String} :
    MirrorsTamed server (batch server s) (batch server.tamed s) := by
  unfold batch
  split
  · exact mirrors_send
  · exact .throw

theorem Quiet.grows (h : Quiet server db db') : ∃ new, db'.log = db.log ++ new := by
  obtain ⟨cs, -, hs⟩ := h
  exact ⟨cs, hs.log⟩

/-- What sends no statement is the same on both. -/
theorem mirrors_quiet {ε : Type} {a : ExceptT ε (StateM (Database φ δ)) α}
    (h : ∀ {db x db'}, Ends a db x db' → Quiet server db db') : MirrorsTamed server a a :=
  .same fun he => (h he).grows

theorem mirrors_commit : MirrorsTamed server (commit server) (commit server.tamed) := by
  refine .same fun {db x db'} he => ?_
  obtain ⟨db₁, hs, hx⟩ := commit_cases he
  obtain ⟨new, hn⟩ : ∃ new, db₁.log = db.log ++ new := by
    rcases (send_cases hs).sent with hs | hs
    · exact ⟨_, hs.log⟩
    · exact ⟨_, hs.log⟩
  obtain ⟨-, rfl⟩ | ⟨-, rfl⟩ := hx
  · exact ⟨new, hn⟩
  · exact ⟨new, hn⟩

theorem mirrors_attempt_bind {a a' : Exchange φ δ α}
    {f f' : Except DatabaseError α → Action (Database φ δ) β} (h : MirrorsTamed server a a')
    (hf : ∀ x, MirrorsTamed server (f x) (f' x)) :
    MirrorsTamed server (attempt a >>= f) (attempt a' >>= f') := by
  intro db r db' he
  obtain ⟨x, u, hx, hr⟩ := ends_attempt_bind.mp he
  exact written_trans (h hx) (hf x hr) fun hs hs' => ends_attempt_bind.mpr ⟨x, u, hs, hs'⟩

theorem mirrors_ask {a a' : Exchange φ δ α} (h : MirrorsTamed server a a') :
    MirrorsTamed server (ask a) (ask a') := by
  intro db x db' he
  obtain ⟨y, hy, rfl⟩ := ends_ask.mp he
  obtain ⟨new, hn, hs⟩ := h hy
  exact ⟨new, hn, fun hg => ends_ask.mpr ⟨y, hs hg, rfl⟩⟩

theorem mirrors_query {q : Query} {effect : List Row → Except DatabaseError (α × List Row)} :
    MirrorsTamed server (ask (query server q effect)) (ask (query server.tamed q effect)) :=
  mirrors_ask (mirrors_quiet fun he => (Holds.refl.within.query he).2)

theorem mirrors_giveUp :
    MirrorsTamed server (modify (giveUp server) : Action (Database φ δ) PUnit)
      (modify (giveUp server.tamed)) :=
  mirrors_quiet fun he => by
    obtain ⟨-, rfl⟩ := ends_modify.mp he
    exact Holds.refl.within.giveUp.2

end exchange

section statements

variable {statements : List String} {recordsStatus : Bool}

theorem mirrors_runStatements {n : Nat} : MirrorsTamed server (runStatements server n statements)
    (runStatements server.tamed n statements) := by
  induction statements generalizing n with
  | nil => exact .pure
  | cons s rest ih =>
    unfold runStatements
    dsimp only
    split
    · exact ih
    · refine mirrors_attempt_bind mirrors_batch fun x => ?_
      cases x with
      | error => exact .pure
      | ok => exact ih

theorem mirrors_inTransaction {body body' : Action (Database φ δ) α}
    {finish finish' : α → Action (Database φ δ) β} (hb : MirrorsTamed server body body')
    (hf : ∀ a, MirrorsTamed server (finish a) (finish' a)) :
    MirrorsTamed server (inTransaction server body finish)
      (inTransaction server.tamed body' finish') := by
  refine .bind (mirrors_quiet fun he => (connects_of_ends server he).quiet) fun _ => ?_
  refine .bind (mirrors_ask (mirrors_quiet quiet_begin)) fun _ => .observing_bind hb fun x => ?_
  cases x with
  | ok a => exact hf a
  | error => exact .bind mirrors_giveUp fun _ => .throw

theorem mirrors_updateStatus {u : StatusUpdate} :
    MirrorsTamed server (updateStatus server id u now) (updateStatus server.tamed id u now) := by
  refine mirrors_inTransaction ?_ fun r => .bind (mirrors_ask mirrors_commit) fun _ => .pure
  refine .bind mirrors_query fun found => .bind (.silent fun he => ?_) fun r => ?_
  · rw [readRow_after he]
  · split
    · exact .bind mirrors_query fun _ => .pure
    · exact .throw

theorem mirrors_dryRun :
    MirrorsTamed server (dryRun server statements) (dryRun server.tamed statements) := by
  refine mirrors_inTransaction ?_ fun x => ?_
  · rw [tryStatements_eq, tryStatements_eq]
    exact .bind mirrors_runStatements fun _ => .pure
  · cases x with
    | error => exact .bind mirrors_giveUp fun _ => .pure
    | ok =>
      refine .bind (mirrors_ask (mirrors_quiet fun he => ?_)) fun _ => .pure
      exact (Holds.refl.within.rollback he).2

theorem mirrors_runLocked :
    MirrorsTamed server (runLocked server recordsStatus id statements source target now)
      (runLocked server.tamed recordsStatus id statements source target now) := by
  refine .bind mirrors_runStatements fun x => ?_
  cases x with
  | error => exact .pure
  | ok =>
    cases recordsStatus with
    | false => exact .pure
    | true =>
      refine .bind (mirrors_quiet fun he => (Holds.refl.claimRow he).2) fun b => ?_
      cases b <;> exact .pure

theorem mirrors_execute :
    MirrorsTamed server (execute server recordsStatus id statements source target now)
      (execute server.tamed recordsStatus id statements source target now) := by
  refine mirrors_inTransaction ?_ fun x => ?_
  · cases recordsStatus with
    | false => exact mirrors_runLocked
    | true =>
      exact .bind (mirrors_quiet fun he => (Holds.refl.lockRow he).2) fun _ => mirrors_runLocked
  · cases x with
    | error => exact .bind mirrors_giveUp fun _ => .pure
    | ok =>
      refine mirrors_attempt_bind mirrors_commit fun y => ?_
      cases y <;> exact .pure

end statements

/-- All statements that were sent on the way from `db` to `db'` leave the table of changesets and
the transaction alone. -/
def Server.SparesSince (server : Server φ δ) (db db' : Database φ δ) : Prop :=
  ∀ text ∈ statementsSince db db', server.Spares text

theorem MirrorsTamed.ends {ε : Type} {a a' : ExceptT ε (StateM (Database φ δ)) α}
    {x : Except ε α} (h : MirrorsTamed server a a') (he : Ends a db x db')
    (hs : server.SparesSince db db') : Ends a' db x db' := by
  obtain ⟨new, hn, h'⟩ := h he
  refine h' fun c hc text ht => hs text ?_
  rw [statementsSince, sentSince, hn, List.drop_left]
  exact List.mem_filterMap.mpr ⟨c, hc, ht⟩

theorem hosted_mirrors (server : Server φ δ) :
    (hosted server).Mirrors (fun e => server.SparesSince e.before e.after)
      (hosted server.tamed) := by
  have hexecute {statements : Record → List String} {source target : Status} {id : Uuid}
      {now : Instant} : MirrorsTamed server
        (get server id >>= fun r => execute server true id (statements r) source target now)
        (get server.tamed id >>= fun r =>
          execute server.tamed true id (statements r) source target now) :=
    .bind (mirrors_quiet quiet_get) fun _ => mirrors_execute
  intro e ho hs
  cases ho with
  | insert he => exact .insert he
  | get he => exact .get he
  | list he => exact .list he
  | updateStatus he => exact .updateStatus he
  | validate he => exact .validate (mirrors_dryRun.ends he hs)
  | apply he => exact .apply (hexecute.ends he hs)
  | revert he => exact .revert (hexecute.ends he hs)

/-- In all these calls no statement of a changeset touched the table of changesets or ended the
transaction. -/
def Server.SparesAll (server : Server φ δ) (past : List (Event (Database φ δ))) : Prop :=
  ∀ e ∈ past, server.SparesSince e.before e.after

section leads

variable {ρ : Type} {A : Archive (Database φ δ) ρ} {l m : Manager (Watched (Database φ δ))}

theorem Server.SparesAll.operations (h : server.SparesAll m.world.past)
    (hl : Leads A (Operation.act (hosted server).watched) l m) :
    Leads A (Operation.act (hosted server.tamed).watched) l m :=
  hl.mirrored (Operation.act_mirrors (hosted_mirrors server)) h

theorem Server.SparesAll.requests (h : server.SparesAll m.world.past)
    (hl : Leads A (Request.act (hosted server).watched) l m) :
    Leads A (Request.act (hosted server.tamed).watched) l m :=
  hl.mirrored (Request.act_mirrors (hosted_mirrors server)) h

theorem Server.SparesAll.drafted (h : server.SparesAll m.world.past)
    (hd : Drafted (hosted server) A l m id) : Drafted (hosted server.tamed) A l m id :=
  hd.mirrored (hosted_mirrors server) h

end leads

/-- A server whose statements all spare the table can be sent anything. -/
theorem Server.Tame.sparesAll (h : server.Tame) (past : List (Event (Database φ δ))) :
    server.SparesAll past :=
  fun _ _ text _ => h text

theorem tame_scripted : scripted.Tame := by
  intro text
  constructor <;> intro befallen tables <;> cases befallen <;> rfl

end Database
end Evolution
