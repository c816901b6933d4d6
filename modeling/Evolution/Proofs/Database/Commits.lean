import Evolution.Proofs.Database.Hosting
import Evolution.Proofs.Lifecycle.Execution
import Mathlib.Data.List.Basic

/-! The stored status of a changeset tells in which transactions its own statements were committed,
with the records in the same database or in memory, wherever the database fails. -/
namespace Evolution

open Evolution.Action Database Manager

/-- The changesets of a world, and the database that their statements are sent to. -/
structure Ledger (σ φ δ : Type) where
  database : σ → Database φ δ
  /-- What is stored for a changeset of its statements towards a status. -/
  statements? : σ → Uuid → Status → Option (List String)
  /-- All that is sent when statements are run for good. -/
  sends : List String → List Command

/-- The changesets are in the same database. They are fetched before their statements are run. -/
def Ledger.inTable (φ δ : Type) : Ledger (Database φ δ) φ δ where
  database := fun db => db
  statements? := fun db => statementsIn db.rows
  sends := fun statements => .query .select :: transcript true (sendable statements)

/-- The changesets are in memory beside it. -/
def Ledger.inSplit (φ δ : Type) : Ledger (Split φ δ) φ δ where
  database := Split.database
  statements? := fun w id target => (w.store.find? id).bind (·.statements? target)
  sends := fun statements => transcript false (sendable statements)

section commits

variable {σ φ δ : Type}

/-- What was sent is what running the stored statements of a changeset sends. -/
def Ledger.Ran (L : Ledger σ φ δ) (id : Uuid) (target : Status) (w w' : σ) : Prop :=
  (L.statements? w id target).map L.sends = some (sentSince (L.database w) (L.database w'))

instance (L : Ledger σ φ δ) (id : Uuid) (target : Status) (w w' : σ) :
    Decidable (L.Ran id target w w') :=
  inferInstanceAs (Decidable (_ = _))

/-- The target of a run of changeset `id`, if its own statements were sent in a transaction and this
was committed. -/
def Event.commit? (server : Server φ δ) (L : Ledger σ φ δ) (id : Uuid) (e : Event σ) :
    Option Status :=
  (e.call.target? id).filter fun target =>
    decide (Committed server (L.database e.before) (L.database e.after) ∧
      L.Ran id target e.before e.after)

/-- The targets of all runs of changeset `id` that were committed, in order. -/
def Watched.commits (server : Server φ δ) (L : Ledger σ φ δ) (w : Watched σ) (id : Uuid) :
    List Status :=
  w.past.filterMap (Event.commit? server L id)

variable {server : Server φ δ} {L : Ledger σ φ δ} {b : Backend σ}

/-- What was committed by this call is the storing of a status, or a run of the statements of the
changeset that it is for, and the call was answered as a success in the second case alone. -/
structure Event.Faithful (server : Server φ δ) (L : Ledger σ φ δ) (e : Event σ) : Prop where
  success (id) : e.success? id = e.commit? server L id
  committed : Committed server (L.database e.before) (L.database e.after) →
    (∃ id target, e.commit? server L id = some target) ∨
      ∃ id u now, e.call = .updateStatus id u now

theorem Event.commit?_of_target? {e : Event σ} {id : Uuid} (h : e.call.target? id = none) :
    e.commit? server L id = none := by
  rw [commit?, h]
  rfl

/-- A call that runs nothing commits nothing, but that a status is stored. -/
theorem Event.Faithful.of_target? {e : Event σ} (h : ∀ id, e.call.target? id = none)
    (hc : Committed server (L.database e.before) (L.database e.after) →
      ∃ id u now, e.call = .updateStatus id u now) : e.Faithful server L := by
  refine ⟨fun id => ?_, fun hcommitted => .inr (hc hcommitted)⟩
  rw [commit?_of_target? (h id), success?, h id]
  exact ite_self none

/-- A run that is answered as a success if it was committed has sent what is stored. -/
theorem Event.Faithful.of_target {e : Event σ} {id : Uuid} {target : Status}
    (ht : ∀ i, e.call.target? i = if id = i then some target else none)
    (h : e.reply.isSuccess = true ↔ Committed server (L.database e.before) (L.database e.after))
    (hr : e.reply.isSuccess = true → L.Ran id target e.before e.after) : e.Faithful server L := by
  by_cases hc : Committed server (L.database e.before) (L.database e.after)
  · have hcommit (i : Uuid) : e.commit? server L i = e.call.target? i := by
      rw [commit?, ht]
      split
      · rename_i hi
        subst hi
        rw [Option.filter_some, if_pos (decide_eq_true ⟨hc, hr (h.mpr hc)⟩)]
      · rfl
    refine ⟨fun i => ?_, fun _ => .inl ⟨id, target, ?_⟩⟩
    · rw [hcommit, success?, if_pos (h.mpr hc)]
    · rw [hcommit, ht, if_pos rfl]
  · refine ⟨fun i => ?_, fun hcommitted => (hc hcommitted).elim⟩
    have hn : ¬ e.reply.isSuccess = true := fun hs => hc (h.mp hs)
    rw [success?, if_neg hn, commit?, eq_comm, Option.filter_eq_none_iff]
    intro target _
    simp [hc]

/-- The same of all calls so far. -/
def Watched.Faithful (server : Server φ δ) (L : Ledger σ φ δ) (w : Watched σ) : Prop :=
  ∀ e ∈ w.past, e.Faithful server L

theorem Watched.Faithful.commits_eq {w : Watched σ} (h : w.Faithful server L) (id : Uuid) :
    w.commits server L id = w.runs id :=
  List.filterMap_congr fun e he => ((h e he).success id).symm

theorem Leads.faithful {ρ : Type} {A : Archive σ ρ} {w : σ} {m : Manager (Watched σ)}
    (h : ∀ e, b.Occurs e → e.Faithful server L)
    (hl : Leads A (Operation.act b.watched) (.started w) m) : m.world.Faithful server L := by
  have hk : b.watched.Keeps (Watched.Faithful server L) := by
    refine Backend.watched_keeps ?_
    intro w e hw ho _ e' he'
    obtain he' | he' := List.mem_append.mp he'
    · exact hw e' he'
    · obtain rfl := List.mem_singleton.mp he'
      exact h e' ho
  exact hl.keeps (P := Watched.Faithful server L)
    (fun {op m} hm => op.act_keeps hk hm (ends_answer_after _ m)) (fun hm _ _ => hm)
    (by intro e he; cases he)

end commits

/-- The stored status of a changeset, and which of its transactions were committed. -/
structure Status.Tells (s : Option Status) (commits : List Status) : Prop where
  applied : s = some .applied ↔ commits = [.applied]
  reverted : s = some .reverted ↔ commits = [.applied, .reverted]
  otherwise : s = none ∨ s = some .draft ∨ s = some .validated ∨ s = some .failed ↔ commits = []

section Tells

variable {s t : Status} {runs : List Status}

theorem Status.tells_nil (h : s = .draft ∨ s = .validated ∨ s = .failed) :
    Status.Tells (some s) [] := by
  constructor <;> rcases h with rfl | rfl | rfl <;> simp

/-- Nothing has been run where a status can move without a run. -/
theorem Status.Tells.of_check (h : Status.Tells (some s) runs) (hm : s.canMoveTo t = true)
    (ht : t = .validated ∨ t = .failed) : Status.Tells (some t) runs := by
  have hs : s = .draft ∨ s = .validated := by
    obtain rfl | rfl := ht <;> cases s <;> simp_all [Status.canMoveTo]
  have hc : runs = [] := h.otherwise.mp (by rcases hs with rfl | rfl <;> simp)
  subst hc
  exact Status.tells_nil (Or.inr ht)

theorem Status.Tells.of_run (h : Status.Tells (some s) runs) (hm : s.canMoveTo t = true)
    (ht : t.IsRun) : Status.Tells (some t) (runs ++ [t]) := by
  obtain rfl | rfl := ht
  · obtain rfl := Status.eq_validated_of_canMoveTo hm
    obtain rfl := h.otherwise.mp (by simp)
    constructor <;> simp
  · obtain rfl := Status.eq_applied_of_canMoveTo hm
    obtain rfl := h.applied.mp rfl
    constructor <;> simp

/-- At most one run each way, the forward one first, and none of a changeset that has failed. -/
theorem Status.Tells.in_order {s : Option Status} (h : Status.Tells s runs) :
    runs <+: [.applied, .reverted] ∧ (s = some .failed → runs = []) := by
  constructor
  · rcases s with _ | _ | _ | _ | _ | _
    · rw [h.otherwise.mp (by simp)]
      exact List.nil_prefix
    · rw [h.otherwise.mp (by simp)]
      exact List.nil_prefix
    · rw [h.otherwise.mp (by simp)]
      exact List.nil_prefix
    · rw [h.applied.mp rfl]
      exact ⟨[.reverted], rfl⟩
    · rw [h.otherwise.mp (by simp)]
      exact List.nil_prefix
    · have hr := h.reverted.mp rfl
      exact ⟨[], by simp [hr]⟩
  · rintro rfl
    exact h.otherwise.mp (by simp)

end Tells

theorem Page.Agrees.tells {σ ρ : Type} {A : Archive σ ρ} {p : Page ρ} (h : p.Agrees A)
    (hp : p.pending = none) : Status.Tells (p.entry.bind A.status) p.runs := by
  cases h with
  | unknown => constructor <;> simp
  | unrun hs hu => constructor <;> rcases hu with rfl | rfl | rfl <;> simp [hs]
  | applied hs => constructor <;> simp [hs]
  | reverted hs => constructor <;> simp [hs]
  | applying => cases hp
  | reverting => cases hp

theorem Leads.tells {σ ρ φ δ : Type} {server : Server φ δ} {L : Ledger σ φ δ} {b : Backend σ}
    {A : Archive σ ρ} {w : σ} {m : Manager (Watched σ)} (h : Honest b A) (hb : Reliable b A)
    (hs : A.Sound w) (hw : A.Unexecuted w)
    (hl : Leads A (Operation.act b.watched) (.started w) m) (hf : m.world.Faithful server L)
    (id : Uuid) : Status.Tells (A.statusOf m.world.world id) (m.world.commits server L id) := by
  have hp : (page A m id).pending = none := by
    rw [page, pendingStatus?, hl.unpending h hb hs, List.lookup_nil]
  rw [hf.commits_eq]
  exact (hl.agrees h hs hw id).tells hp

theorem Leads.plain {σ ρ : Type} {b : Backend σ} {A : Archive σ ρ} {w : σ}
    {m m' : Manager (Watched σ)} {op : Operation} {x : Except Fault Answer} (h : Honest b A)
    (hb : Reliable b A) (hs : A.Sound w) (hl : Leads A (Operation.act b.watched) (.started w) m)
    (he : Ends (op.act b.watched) m x m') : ErrorsIn Fault.Plain x :=
  (op.act_settled h hb (hl.sound h.sound hs) (hl.unpending h hb hs) he).2

namespace Database

variable {φ δ : Type}

section faithful

variable {server : Server φ δ} {statements : Record → List String} {id : Uuid}
  {source target : Status} {now : Time.Instant} {x : Except Fault Outcome}

/-- A success has sent the statements that the changeset's own row has. -/
theorem ran_fetched {db db' : Database φ δ}
    (hst : ∀ r : Record, r.statements? target = some (statements r))
    (he : Ends (do
      let r ← Database.get server id
      Database.execute server true id (statements r) source target now) db x db')
    (hx : (Reply.outcome x).isSuccess = true) : (Ledger.inTable φ δ).Ran id target db db' := by
  cases x with
  | error => cases hx
  | ok o =>
    obtain ⟨row, r, hrow, hr, hs⟩ := sent_fetchAndExecute he hx
    change (statementsIn db.rows id target).map _ = some (sentSince db db')
    rw [statementsIn, hrow, Option.bind_some, Row.statements?_of_record hr, hst, Option.map_some,
      hs.sentSince]
    rfl

/-- So it has where the changesets are in memory. -/
theorem ran_fetched_split {w w' : Split φ δ}
    (hst : ∀ r : Record, r.statements? target = some (statements r))
    (he : Ends (do
      let r ← inStore (MemoryStore.getAction id)
      inDatabase (Database.execute server false id (statements r) source target now)) w x w')
    (hx : (Reply.outcome x).isSuccess = true) : (Ledger.inSplit φ δ).Ran id target w w' := by
  cases x with
  | error => cases hx
  | ok o =>
    obtain ⟨r, hr, hs⟩ := sent_fetchAndExecute_split he hx
    change ((w.store.find? id).bind _).map _ = some (sentSince w.database w'.database)
    rw [hr, Option.bind_some, hst, Option.map_some, hs.sentSince]
    rfl

theorem hosted_faithful {e : Event (Database φ δ)} (ho : (hosted server).Occurs e) :
    e.Faithful server (.inTable φ δ) := by
  have hquiet {db db' : Database φ δ} {P : Prop} (hq : Quiet server db db')
      (hc : Committed server db db') : P := (hq.not_committed hc).elim
  cases ho with
  | insert he => exact .of_target? (fun _ => rfl) (hquiet (quiet_insert he))
  | get he => exact .of_target? (fun _ => rfl) (hquiet (quiet_get he))
  | list he => exact .of_target? (fun _ => rfl) (hquiet (quiet_list he))
  | updateStatus => exact .of_target? (fun _ => rfl) fun _ => ⟨_, _, _, rfl⟩
  | validate he => exact .of_target? (fun _ => rfl) (hquiet (quiet_dryRun he))
  | apply he =>
    exact .of_target (fun _ => rfl) (closes_fetched he).isSuccess_iff
      (ran_fetched (fun _ => rfl) he)
  | revert he =>
    exact .of_target (fun _ => rfl) (closes_fetched he).isSuccess_iff
      (ran_fetched (fun _ => rfl) he)

theorem split_faithful {e : Event (Split φ δ)} (ho : (split server).Occurs e) :
    e.Faithful server (.inSplit φ δ) := by
  have hquiet {w w' : Split φ δ} {P : Prop} (hw : w'.database = w.database)
      (hc : Committed server w.database w'.database) : P := by
    rw [hw] at hc
    exact (Quiet.refl.not_committed hc).elim
  have hstore {α : Type} {a : Action MemoryStore α} {x : Except Fault α} {w w' : Split φ δ}
      (he : Ends (inStore a) w x w') : w'.database = w.database := by
    obtain ⟨s, -, rfl⟩ := ends_inStore.mp he
    rfl
  cases ho with
  | insert he => exact .of_target? (fun _ => rfl) (hquiet (hstore he))
  | get he => exact .of_target? (fun _ => rfl) (hquiet (hstore he))
  | @list f _ _ _ he =>
    exact .of_target? (fun _ => rfl) (hquiet (hstore (a := MemoryStore.listAction f) he))
  | updateStatus he => exact .of_target? (fun _ => rfl) (hquiet (hstore he))
  | @validate statements _ _ _ he =>
    replace he : Ends (inDatabase (dryRun server statements)) _ _ _ := he
    obtain ⟨db, hd, rfl⟩ := ends_inDatabase.mp he
    exact .of_target? (fun _ => rfl) fun hc => ((quiet_dryRun hd).not_committed hc).elim
  | apply he =>
    exact .of_target (fun _ => rfl) (closes_split he).isSuccess_iff
      (ran_fetched_split (fun _ => rfl) he)
  | revert he =>
    exact .of_target (fun _ => rfl) (closes_split he).isSuccess_iff
      (ran_fetched_split (fun _ => rfl) he)

end faithful

/-- A changeset is stored as applied exactly when its forward statements alone were committed, as
reverted exactly when its rollback was committed after them, and else nothing of it was. What was
committed besides is that statuses were stored. No manager ever has to report that a status was
lost. Where the changesets are in the same database, the statements must leave their table alone. -/
theorem status_tells_commits (server : Server φ δ) :
    (∀ (db : Database φ δ) (m : Manager (Watched (Database φ δ))), db.saved = none →
      (Archive.inTable φ δ).Unexecuted db → server.SparesAll m.world.past →
      Leads (.inTable φ δ) (Operation.act (hosted server).watched) (.started db) m →
      (∀ id, Status.Tells ((Archive.inTable φ δ).statusOf m.world.world id)
        (m.world.commits server (.inTable φ δ) id)) ∧
      (∀ e ∈ m.world.past, Committed server e.before e.after →
        (∃ id target, e.commit? server (.inTable φ δ) id = some target) ∨
          ∃ id u now, e.call = .updateStatus id u now) ∧
      ∀ op id s, server.SparesAll (after (Operation.act (hosted server).watched op) m).world.past →
        answer (Operation.act (hosted server).watched op) m ≠ .error (.statusNotRecorded id s)) ∧
    (∀ (w : Split φ δ) (m : Manager (Watched (Split φ δ))),
      (Archive.inSplit φ δ).Unexecuted w →
      Leads (.inSplit φ δ) (Operation.act (split server).watched) (.started w) m →
      (∀ id, Status.Tells ((Archive.inSplit φ δ).statusOf m.world.world id)
        (m.world.commits server (.inSplit φ δ) id)) ∧
      (∀ e ∈ m.world.past, Committed server e.before.database e.after.database →
        (∃ id target, e.commit? server (.inSplit φ δ) id = some target) ∨
          ∃ id u now, e.call = .updateStatus id u now) ∧
      ∀ op id s, answer (Operation.act (split server).watched op) m ≠
        .error (.statusNotRecorded id s)) := by
  constructor
  · intro db m hs hu hspares hl
    have hf : m.world.Faithful server (.inTable φ δ) := hl.faithful fun _ => hosted_faithful
    have hhonest := hosted_honest server.tame_tamed
    have hreliable := hosted_reliable server.tamed
    have hl := hspares.operations hl
    refine ⟨hl.tells hhonest hreliable hs hu hf, fun e he => (hf e he).committed, ?_⟩
    intro op id s hafter he
    have hact := op.act_mirrors (hosted_mirrors server)
    obtain ⟨new, hn, hsame⟩ := hact (ends_answer_after _ m)
    have hnew : ∀ e ∈ new, server.SparesSince e.before e.after := by
      intro e he
      refine hafter e ?_
      rw [← Manager.past, hn]
      exact List.mem_append_right _ he
    exact hl.plain hhonest hreliable hs (hsame hnew) _ he id s rfl
  · intro w m hu hl
    have hf : m.world.Faithful server (.inSplit φ δ) := hl.faithful fun _ => split_faithful
    have hhonest := split_honest server
    have hreliable := split_reliable server
    refine ⟨hl.tells hhonest hreliable trivial hu hf, fun e he => (hf e he).committed, ?_⟩
    intro op id s he
    exact hl.plain hhonest hreliable trivial (ends_answer_after _ m) _ he id s rfl

/-- A server that refuses the first commit. -/
def refusingCommit : Database (List ScriptedFailure) (List String) where
  rows := [validatedRow]
  others := []
  failures := [⟨(· == .commit), .refusal "out of space" "53100", 1⟩]

/-- The same in memory, with a connection that is lost with the first commit. -/
def losingCommit : Split (List ScriptedFailure) (List String) where
  store := .oneValidated
  database := { others := [], failures := [⟨(· == .commit), .disconnect, 1⟩] }

/-- The statements are run three times, and what the first run did is lost. -/
theorem status_tells_commits_twice :
    ((appliedTwice (hosted scripted) refusingCommit).world.commits scripted (.inTable _ _) .nil =
        [.applied, .reverted] ∧
      (appliedTwice (hosted scripted) refusingCommit).world.world.others =
        ["create table notes()", "drop table notes"]) ∧
    (appliedTwice (split scripted) losingCommit).world.commits scripted (.inSplit _ _) .nil =
        [.applied, .reverted] ∧
      (appliedTwice (split scripted) losingCommit).world.world.database.others =
        ["create table notes()", "drop table notes"] := by
  have hu : (Archive.inTable _ _).Unexecuted refusingCommit := by
    intro id x hx
    obtain rfl := List.mem_singleton.mp (List.mem_of_find?_eq_some hx)
    exact ⟨.validated, status?_validatedRow, Or.inr (Or.inl rfl)⟩
  have hw : (Archive.inSplit _ _).Unexecuted losingCommit :=
    Archive.unexecuted_oneValidated rfl
  have h := status_tells_commits scripted
  have hosted := (h.1 refusingCommit _ rfl hu (tame_scripted.sparesAll _)
    (leads_appliedTwice _ _)).1 .nil
  have split := (h.2 losingCommit _ hw (leads_appliedTwice _ _)).1 .nil
  refine ⟨⟨hosted.reverted.mp ?_, ?_⟩, split.reverted.mp ?_, ?_⟩
  · decide +kernel
  · decide +kernel
  · decide +kernel
  · decide +kernel

end Database
end Evolution
