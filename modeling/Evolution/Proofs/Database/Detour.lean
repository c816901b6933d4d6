import Evolution.Proofs.Changeset.Codec
import Evolution.Proofs.Database.Readback
import Evolution.Proofs.Database.Service
import Evolution.Proofs.Lifecycle.Detour

/-! A table where nothing fails but statements does what it is asked, so that both ways of checking
a draft lead to rows that differ in their identity and their times alone. -/
namespace Evolution

open Evolution.Action Database Manager
open Time (Instant)

section table

variable {φ δ : Type} {server : Server φ δ} {b : Backend (Database φ δ)} {report : Report}
  {r : ChangeRequest} {createdBy : Option String} {stamp stamp' : Stamp} {now : Instant}

/-- Records are kept in a table, and every check gives this report and leaves the table alone. -/
structure Backend.Tabulates (b : Backend (Database φ δ)) (server : Server φ δ) (report : Report) :
    Prop where
  insert : b.insert = Database.insert server
  get : b.get = Database.get server
  updateStatus : b.updateStatus = Database.updateStatus server
  validate {db} (statements) : InService server db →
    ∃ db', Ends (b.validate statements) db (.ok report) db' ∧ InService server db' ∧
      db'.rows = db.rows

theorem Backend.Tabulates.obliges (h : b.Tabulates server report) :
    b.Obliges (.inTable φ δ) Row.record report (InService server) := by
  constructor
  case insert =>
    intro r db hw hn
    obtain ⟨db', he, hw', hrows⟩ := hw.insert hn
    rw [h.insert]
    refine ⟨db', he, hw', ?_⟩
    have hrow := (rowOf_insertRow (insertRow_of_new hn)).2
    rw [← hrows] at hrow
    exact (congrFun hrow r.id).trans (Function.update_self ..)
  case get =>
    intro id row r db hw hf hr
    obtain ⟨db', he, hw', hrows⟩ := hw.get hf hr
    rw [h.get]
    exact ⟨db', he, hw', congrArg rowOf hrows⟩
  case updateStatus =>
    intro id u row r db now hw hf hr hc
    obtain ⟨db', he, -, hrows⟩ := hw.updateStatus now hf hr hc
    rw [h.updateStatus]
    refine ⟨db', he, ?_⟩
    have hrow : rowOf (db.rows.map fun x => if x.hasId id then x.moved u now else x) = _ :=
      rowOf_moved hf (fun _ h => h) (rowOf_hasId hf)
    rw [← hrows] at hrow
    exact (congrFun hrow id).trans (Function.update_self ..)
  case validate =>
    intro db statements hw
    obtain ⟨db', he, hw', hrows⟩ := h.validate statements hw
    exact ⟨db', he, hw', congrArg rowOf hrows⟩

/-- The rows of two identifiers differ in the cells of their identity and their times alone, and
both can be read as records, which differ in these alone. -/
def Database.Twins (db : Database φ δ) (id : Uuid) (db' : Database φ δ) (id' : Uuid) : Prop :=
  ∃ row row' x y, rowOf db.rows id = some row ∧ rowOf db'.rows id' = some row' ∧
    (∀ c, c ≠ .id → c ≠ .createdAt → c ≠ .updatedAt → row'.cell c = row.cell c) ∧
    row.record = .ok x ∧ row'.record = .ok y ∧ x.Alike y

/-- The cells of a row that was moved by a report are those of the record with the report. -/
theorem Row.moved_updateOfReport {d d' : Record} (h : d.Alike d') {c : ChangesetColumn}
    (hi : c ≠ .id) (hc : c ≠ .createdAt) (hu : c ≠ .updatedAt) :
    ((Row.ofRecord d').moved (updateOfReport report) now).cell c =
      (Row.ofRecord (d.judged report)).cell c := by
  have hshows : ((Row.ofRecord d').moved (updateOfReport report) now).Shows
      (d'.moved (updateOfReport report) now) := (Row.shows_ofRecord d').moved
  rw [Record.moved_updateOfReport] at hshows
  have hfixed : (Row.ofRecord d').cell c = (Row.ofRecord d).cell c := by
    rw [show d' = _ from h]
    cases c <;> first | rfl | contradiction
  cases c with
  | report => exact hshows.report
  | status => exact hshows.status
  | errorText => exact hshows.errorText
  | updatedAt => exact (hu rfl).elim
  | _ => exact (Row.moved_cell_of_isFixed rfl).trans hfixed

theorem Backend.Tabulates.agrees {m k : Manager (Watched (Database φ δ))}
    (h : b.Tabulates server report) (hm : InService server m.world.world)
    (hk : InService server k.world.world) (hmn : rowOf m.world.world.rows stamp.id = none)
    (hkn : rowOf k.world.world.rows stamp'.id = none) (hp : k.pendingStatus? stamp'.id = none)
    (hs : r.desiredState.Legible) (ht : stamp.now.Legible) (ht' : stamp'.now.Legible)
    (hn : now.Legible) :
    b.Agrees Database.Twins r createdBy stamp stamp' now m k := by
  obtain ⟨s, hs⟩ := hs
  obtain ⟨t, ht⟩ := ht
  obtain ⟨t', ht'⟩ := ht'
  obtain ⟨t'', hn⟩ := hn
  have hread : (Row.ofRecord ((r.draft createdBy stamp).judged report)).Reads
      { (r.draft createdBy stamp).judged report with
        desiredState := s, createdAt := t, updatedAt := t } :=
    Row.reads_ofRecord hs ht ht
  have hread' : (Row.ofRecord (r.draft createdBy stamp')).Reads
      { r.draft createdBy stamp' with desiredState := s, createdAt := t', updatedAt := t' } :=
    Row.reads_ofRecord hs ht' ht'
  refine h.obliges.agrees hm hk hmn hkn hp ⟨_, hread'.record, rfl, rfl⟩ ?_
  intro db db' hdb hdb'
  refine ⟨_, _, _, _, hdb, hdb', ?_, hread.record, (hread'.moved hn).record, ?_⟩
  · intro c hi hc hu
    exact Row.moved_updateOfReport ChangeRequest.alike_draft hi hc hu
  · rw [Record.moved_updateOfReport]
    rfl

end table

/-- What comes as text is nested little enough to be read back, if its numbers can be. -/
theorem DesiredState.Proper.legible {s : DesiredState} (h : s.Proper 123)
    (hn : s.Readable) : s.Legible := by
  have hdeep : s.Proper 124 := h.mono (by decide)
  exact DesiredState.legible hdeep.widths fun p hp => ⟨hn p hp, hdeep.values p hp⟩

end Evolution
