import Evolution.Proofs.Database.Plain
import Evolution.Proofs.Database.Tame

/-! The backends that have a database do what they answer, however the database fails, and there is
a commit behind every success of their executors and behind nothing else. Where the records are in
the database too, the statements of changesets must spare their table. -/
namespace Evolution

open Evolution.Action Database
open Time (Instant)

/-- The changesets of a table, whose readers see nothing of an open transaction. -/
def Archive.inTable (φ δ : Type) : Archive (Database φ δ) Row where
  Sound := fun db => db.saved = none
  entry := fun db => rowOf db.rows
  status := Row.status?
  ofRecord := Row.ofRecord
  moved := Row.moved
  status_ofRecord := Row.status?_ofRecord
  status_moved := Row.status?_moved

/-- The changesets of a store in memory, whatever becomes of the database beside it. -/
abbrev Archive.inSplit (φ δ : Type) : Archive (Split φ δ) Record :=
  .inMemory Split.store fun _ => True

namespace Database

variable {φ δ : Type} {server : Server φ δ} {db db' : Database φ δ} {stored : Stored δ} {id : Uuid}
  {u : StatusUpdate} {now : Instant} {source target : Status} {x : Except Fault Outcome}

theorem inTable_entry (db : Database φ δ) : (Archive.inTable φ δ).entry db = rowOf db.rows := rfl

theorem holds_of_sound (h : (Archive.inTable φ δ).Sound db) : Holds none db.toStored db :=
  ⟨h, rfl⟩

theorem Holds.entry (h : Holds none stored db) :
    (Archive.inTable φ δ).entry db = rowOf stored.rows :=
  congrArg rowOf h.rows

theorem inTable_moved {row : Row} {r : Record} (hf : rowWithId id db.rows = .ok (some row))
    (hr : row.record = .ok r) (hc : r.status.canMoveTo u.status = true)
    (h : Holds none { db.toStored with
      rows := db.rows.map fun x => if x.hasId id then x.moved u now else x } db') :
    (Archive.inTable φ δ).Moved db id u now db' := by
  have hrow := rowOf_of_rowWithId hf
  refine ⟨row, r.status, hrow, Row.status?_of_record hr, hc, ?_⟩
  rw [h.entry]
  exact rowOf_moved hrow (fun _ h => h) (rowOf_hasId hrow)

/-- A claim that moves one row moves the row that was locked. -/
theorem inTable_claimed {others : δ} (hs : StandsAt db.rows id source)
    (hc : Claimable id source db.rows) (hm : source.canMoveTo target = true)
    (h : Holds none ⟨claimed id source target now db.rows, others⟩ db') :
    (Archive.inTable φ δ).Moved db id { status := target } now db' := by
  obtain ⟨row, hf, hst⟩ := hs
  have hrow := rowOf_of_rowWithId hf
  refine ⟨row, source, hrow, hst, hm, ?_⟩
  rw [h.entry]
  refine rowOf_moved hrow ?_ ?_
  · intro y hy
    exact (Bool.and_eq_true_iff.mp hy).1
  · obtain ⟨y, hy, hyc⟩ := List.countP_pos_iff.mp (Nat.lt_of_lt_of_eq Nat.zero_lt_one hc.symm)
    have hyf : y ∈ db.rows.filter (·.hasId id) :=
      List.mem_filter.mpr ⟨hy, (Bool.and_eq_true_iff.mp hyc).1⟩
    rw [rowWithId_ok hf] at hyf
    obtain rfl := List.mem_singleton.mp hyf
    exact hyc

theorem Executes.saved {recordsStatus : Bool}
    (h : Executes recordsStatus id source target now stored x db') : db'.saved = none := by
  cases h with
  | raised h => exact h.saved
  | refused _ h => exact h.saved
  | recorded _ _ _ h => exact h.saved
  | unrecorded _ h => exact h.saved

theorem Executes.ran (hm : source.canMoveTo target = true)
    (h : Executes true id source target now db.toStored x db') :
    (Archive.inTable φ δ).Ran db id target db' x := by
  cases h with
  | raised h => exact .raised h.entry
  | refused ho h => exact .refused ho h.entry
  | recorded _ hs hc h => exact .moved rfl (inTable_claimed hs hc hm h)
  | unrecorded hr => cases hr

/-- Behind every success there is a commit, and behind nothing else. -/
theorem Closes.isSuccess_iff {recordsStatus : Bool} (h : Closes server recordsStatus db x db') :
    (Reply.outcome x).isSuccess = true ↔ Committed server db db' := by
  rw [← h.success_iff]
  cases x with
  | error => exact ⟨nofun, nofun⟩
  | ok o => exact ⟨fun ho => ⟨o, rfl, ho⟩, by rintro ⟨_, ⟨⟩, ho⟩; exact ho⟩

/-- To fetch the statements changes nothing. -/
theorem Holds.fetchAndExecute {statements : Record → List String} (ht : server.Tame)
    (h : Holds none stored db)
    (he : Ends (do
      let r ← Database.get server id
      Database.execute server true id (statements r) source target now) db x db') :
    Executes true id source target now stored x db' := by
  obtain ⟨r, db₁, hg, hn⟩ | ⟨e, hg, rfl⟩ := ends_bind.mp he
  · exact (h.get hg).execute (fun s _ => ht s) hn
  · exact .raised (h.get hg)

theorem closes_fetched {statements : Record → List String}
    (he : Ends (do
      let r ← Database.get server id
      Database.execute server true id (statements r) source target now) db x db') :
    Closes server true db x db' := by
  obtain ⟨r, db₁, hg, hn⟩ | ⟨e, hg, rfl⟩ := ends_bind.mp he
  · exact closes_of_ends (quiet_get hg) hn
  · exact .raised (quiet_get hg).not_committed

theorem executes_apply (ht : server.Tame) (h : db.saved = none)
    (he : Ends ((hosted server).apply id now) db x db') :
    Executes true id .validated .applied now db.toStored x db' :=
  (holds_of_sound h).fetchAndExecute ht he

theorem executes_revert (ht : server.Tame) (h : db.saved = none)
    (he : Ends ((hosted server).revert id now) db x db') :
    Executes true id .applied .reverted now db.toStored x db' :=
  (holds_of_sound h).fetchAndExecute ht he

/-- Between two calls no transaction is open. -/
theorem hosted_keeps_sound (ht : server.Tame) :
    (hosted server).Keeps (Archive.inTable φ δ).Sound where
  insert h he := by
    cases (holds_of_sound h).insert he with
    | failed h => exact h.saved
    | inserted _ h => exact h.saved
  get h he := ((holds_of_sound h).get he).saved
  list h he := ((holds_of_sound h).list he).saved
  updateStatus h he := by
    cases (holds_of_sound h).updateStatus he with
    | failed h => exact h.saved
    | refused h => exact h.saved
    | moved _ _ _ h => exact h.saved
  validate h he := ((holds_of_sound h).dryRun (fun s _ => (ht s).keepsOpen) he).saved
  apply h he := (executes_apply ht h he).saved
  revert h he := (executes_revert ht h he).saved

theorem hosted_storing (ht : server.Tame) : Storing (hosted server) (.inTable φ δ) := by
  constructor
  case sound => exact hosted_keeps_sound ht
  case insert_ok =>
    intro r y db db' hs he
    cases (holds_of_sound hs).insert he with
    | inserted hi h =>
      refine ⟨(rowOf_insertRow hi).1, ?_⟩
      rw [h.entry]
      exact (rowOf_insertRow hi).2
  case insert_error =>
    intro r e db db' hs he
    cases (holds_of_sound hs).insert he with
    | failed h => exact h.entry
  case get =>
    intro id x db db' hs he
    exact ((holds_of_sound hs).get he).entry
  case get_ok =>
    intro id r db db' hs he
    obtain ⟨row, hf, hr⟩ := row_of_get he
    change (rowOf db.rows id).bind Row.status? = some r.status
    rw [hf, Option.bind_some, Row.status?_of_record hr]
  case list =>
    intro f x db db' hs he
    exact ((holds_of_sound hs).list he).entry
  case updateStatus_ok =>
    intro id u now r db db' hs he
    cases (holds_of_sound hs).updateStatus he with
    | moved hf hr hc h => exact inTable_moved hf hr hc h
  case updateStatus_error =>
    intro id u now e db db' hs he
    cases (holds_of_sound hs).updateStatus he with
    | failed h => exact h.entry
    | refused h => exact h.entry
  case updateStatus_refused =>
    intro id u now i s t db db' hs he
    cases (holds_of_sound hs).updateStatus he with
    | failed _ hn => exact (hn _ _ _ rfl).elim
    | refused _ hf hr =>
      change (rowOf db.rows _).bind Row.status? = _
      rw [rowOf_of_rowWithId hf, Option.bind_some, Row.status?_of_record hr]
  case validate =>
    intro statements x db db' hs he
    exact ((holds_of_sound hs).dryRun (fun s _ => (ht s).keepsOpen) he).entry

theorem hosted_honest (ht : server.Tame) : Honest (hosted server) (.inTable φ δ) where
  toStoring := hosted_storing ht
  apply hs _ he := (executes_apply ht hs he).ran rfl
  revert hs _ he := (executes_revert ht hs he).ran rfl

/-- The status of every run is recorded with it. -/
theorem hosted_reliable (server : Server φ δ) : Reliable (hosted server) (.inTable φ δ) where
  insert := failsIn_insert
  get := failsIn_get
  list := failsIn_list
  updateStatus := failsIn_updateStatus
  validate := failsIn_dryRun
  apply _ _ := .bind (failsIn_get _) fun _ => failsIn_execute _ _ _
  revert _ _ := .bind (failsIn_get _) fun _ => failsIn_execute _ _ _
  applied _ _ he ho hn := by simp [(closes_fetched he).statusRecorded ho] at hn
  reverted _ _ he ho hn := by simp [(closes_fetched he).statusRecorded ho] at hn

section split

variable {w w' : Split φ δ}

theorem ends_inStore {α : Type} {a : Action MemoryStore α} {x : Except Fault α} :
    Ends (inStore a) w x w' ↔ ∃ s, Ends a w.store x s ∧ w' = { w with store := s } :=
  ends_liftPart

theorem ends_inDatabase {α : Type} {a : Action (Database φ δ) α} {x : Except Fault α} :
    Ends (inDatabase a) w x w' ↔ ∃ db, Ends a w.database x db ∧ w' = { w with database := db } :=
  ends_liftPart

/-- The executor finds the statements in memory, and writes nothing there. -/
theorem store_of_executes {rest : Record → Action (Database φ δ) Outcome}
    (he : Ends (do
      let r ← inStore (MemoryStore.getAction id)
      inDatabase (rest r)) w x w') : w'.store = w.store := by
  obtain ⟨r, v, hg, hn⟩ | ⟨e, hg, rfl⟩ := ends_bind.mp he
  · obtain ⟨s, hs, rfl⟩ := ends_inStore.mp hg
    obtain ⟨db, -, rfl⟩ := ends_inDatabase.mp hn
    exact (MemoryStore.get_cases hs).2
  · obtain ⟨s, hs, rfl⟩ := ends_inStore.mp hg
    exact (MemoryStore.get_cases hs).2

theorem closes_split {statements : Record → List String}
    (he : Ends (do
      let r ← inStore (MemoryStore.getAction id)
      inDatabase (Database.execute server false id (statements r) source target now)) w x w') :
    Closes server false w.database x w'.database := by
  obtain ⟨r, v, hg, hn⟩ | ⟨e, hg, rfl⟩ := ends_bind.mp he
  · obtain ⟨s, -, rfl⟩ := ends_inStore.mp hg
    obtain ⟨db, hd, rfl⟩ := ends_inDatabase.mp hn
    exact closes_of_ends .refl hd
  · obtain ⟨s, -, rfl⟩ := ends_inStore.mp hg
    exact .raised Quiet.refl.not_committed

/-- The statements of the record that is found are those that are run. -/
theorem sent_fetchAndExecute_split {statements : Record → List String} {o : Outcome}
    (he : Ends (do
      let r ← inStore (MemoryStore.getAction id)
      inDatabase (Database.execute server false id (statements r) source target now)) w (.ok o) w')
    (ho : o.ok = true) :
    ∃ r, w.store.find? id = some r ∧
      Sent server (transcript false (sendable (statements r))) w.database w'.database := by
  obtain ⟨r, v, hg, he⟩ := ends_bind_ok.mp he
  obtain ⟨s, hs, rfl⟩ := ends_inStore.mp hg
  obtain ⟨db, hd, rfl⟩ := ends_inDatabase.mp he
  exact ⟨r, MemoryStore.get_ok (MemoryStore.get_cases hs).1.symm, sent_execute hd ho⟩

theorem store_inStore {α : Type} {a : Action MemoryStore α} {x : Except Fault α}
    (he : Ends (inStore a) w x w') : Ends a w.store x w'.store := by
  obtain ⟨s, hs, rfl⟩ := ends_inStore.mp he
  exact hs

theorem split_inMemory (server : Server φ δ) : (split server).InMemory Split.store where
  insert {r _ _ _} he :=
    Or.inl (MemoryStore.insert_cases (store_inStore (a := MemoryStore.insertAction r) he))
  get {id _ _ _} he := MemoryStore.get_cases (store_inStore (a := MemoryStore.getAction id) he)
  list {f _ _ _} he := MemoryStore.list_cases (store_inStore (a := MemoryStore.listAction f) he)
  updateStatus {id u now _ _ _} he :=
    Or.inl (MemoryStore.updateStatus_cases
      (store_inStore (a := MemoryStore.updateStatusAction id u now) he))
  validate {statements _ _ _} he := by
    replace he : Ends (inDatabase (dryRun server statements)) _ _ _ := he
    obtain ⟨db, -, rfl⟩ := ends_inDatabase.mp he
    rfl
  apply he := Or.inl (store_of_executes he)
  revert he := Or.inl (store_of_executes he)

theorem Closes.ran (hw : w'.store = w.store) (h : Closes server false db x db') :
    (Archive.inSplit φ δ).Ran w id target w' x := by
  have he : (Archive.inSplit φ δ).entry w' = (Archive.inSplit φ δ).entry w :=
    congrArg MemoryStore.find? hw
  cases h with
  | raised => exact .raised he
  | refused => exact .refused rfl he
  | succeeded => exact .unmoved rfl rfl he

theorem split_honest (server : Server φ δ) : Honest (split server) (.inSplit φ δ) where
  toStoring := (split_inMemory server).storing (by constructor <;> intros <;> trivial)
  apply _ _ he := (closes_split he).ran (store_of_executes he)
  revert _ _ he := (closes_split he).ran (store_of_executes he)

/-- A record in memory that stands at the source can be moved. -/
theorem split_moves {s : Status} {e : Fault} (hw : w'.store = w.store)
    (hs : (Archive.inSplit φ δ).statusOf w id = some s)
    (hm : s.canMoveTo u.status = true) {w'' : Split φ δ} :
    ¬ Ends ((split server).updateStatus id u now) w' (.error e) w'' := by
  intro he
  replace he : Ends (inStore (MemoryStore.updateStatusAction id u now)) w' _ w'' := he
  obtain ⟨t, ht, -⟩ := ends_inStore.mp he
  obtain ⟨r, hr, hrs⟩ := Option.bind_eq_some_iff.mp hs
  cases hrs
  replace hr : w'.store.find? id = some r := hw ▸ hr
  obtain ⟨v, hv⟩ := MemoryStore.updateStatus_of_canMoveTo now hr hm
  cases hv.symm.trans (MemoryStore.updateStatus_cases ht).error.1

theorem failsIn_inStore_get (id : Uuid) :
    FailsIn Fault.Plain (inStore (MemoryStore.getAction id) : Action (Split φ δ) Record) :=
  .liftPart (MemoryStore.failsIn_getAction (plain_unknownChangeset id))

theorem split_reliable (server : Server φ δ) :
    Reliable (split server) (.inSplit φ δ) where
  insert r := .liftPart (MemoryStore.failsIn_insertAction (plain_duplicateChangeset r.id))
  get id := failsIn_inStore_get id
  list f := .liftPart (MemoryStore.failsIn_listAction f)
  updateStatus id _ _ :=
    .liftPart (MemoryStore.failsIn_updateStatusAction (plain_unknownChangeset id) nofun)
  validate statements := .liftPart (failsIn_dryRun statements)
  apply id _ := .bind (failsIn_inStore_get id) fun _ => .liftPart (failsIn_execute _ _ _)
  revert id _ := .bind (failsIn_inStore_get id) fun _ => .liftPart (failsIn_execute _ _ _)
  applied _ hs he _ _ := split_moves (store_of_executes he) hs rfl
  reverted _ hs he _ _ := split_moves (store_of_executes he) hs rfl

end split

end Database
end Evolution
