import Evolution.Proofs.Changeset.Codec
import Evolution.Proofs.Database.Readback
import Evolution.Proofs.Database.Service
import Evolution.Proofs.Database.Verbatim

/-! What is written for a changeset is read as it was: from its JSON, in whatever order the members
of objects are kept, and from the table, however long it has been there. -/
namespace Evolution

open Evolution.Action Database Json
open Time (Instant)

/-- What a record was made of is the same in both. -/
structure Record.Echoes (r' r : Record) : Prop where
  desiredState : r'.desiredState = r.desiredState
  sql : r'.sql = r.sql
  rollbackSql : r'.rollbackSql = r.rollbackSql
  impact : r'.impact = r.impact

namespace Database

variable {φ δ : Type} {server : Server φ δ} {db db₁ db' : Database φ δ} {r r' y : Record}
  {row : Row}

theorem json?_desiredState (h : r.desiredState.Proper 124) (hr : r.desiredState.Readable) :
    Cell.json? DesiredState.decode (.json r.desiredState.json) = some r.desiredState :=
  Cell.json?_json (h.restores hr)

/-- What is written once is read back from the row of a record, whatever became of the rest. -/
theorem Row.echoes_of_content (h : r.desiredState.Proper 124) (hn : r.desiredState.Readable)
    (hc : row.content = (Row.ofRecord r).content) (hr : row.record = .ok r') : r'.Echoes r := by
  have hread := reads_of_record hr
  obtain ⟨hsql, hrollback⟩ := sql_of_content hc hr
  have hstate : r'.desiredState = r.desiredState :=
    read_of_content (Cell.json? DesiredState.decode) hc rfl hread.desiredState
      (json?_desiredState h hn)
  have himpact : r'.impact = r.impact :=
    read_of_content (Cell.json? Impact.decode) hc rfl hread.impact (Cell.json?_json Impact.restores)
  exact ⟨hstate, hsql, hrollback, himpact⟩

theorem entry_of_insert (hs : db.saved = none) (he : Ends (insert server r) db (.ok y) db₁) :
    db₁.saved = none ∧ rowOf db₁.rows r.id = some (Row.ofRecord r) := by
  cases (holds_of_sound hs).insert he with
  | inserted hi h =>
    refine ⟨h.saved, ?_⟩
    rw [h.rows, (rowOf_insertRow hi).2, Function.update_self]

/-- However long a record has been in a table, whatever fails and whatever else is asked for, it is
read with what it was made of, and with its report if it has not been touched. -/
theorem get_echoes {m : Manager (Watched (Database φ δ))} (hs : db.saved = none)
    (h : r.desiredState.Proper 124) (hi : r.desiredState.Integral)
    (he : Ends (insert server r) db (.ok y) db₁) (hspares : server.SparesAll m.world.past)
    (hl : Leads (.inTable φ δ) (Request.act (hosted server).watched) (.started db₁) m)
    (hg : Ends (get server r.id) m.world.world (.ok r') db') :
    r'.Echoes r ∧ (rowOf m.world.world.rows r.id = rowOf db₁.rows r.id → r'.report = r.report) := by
  obtain ⟨hs₁, hrow⟩ := entry_of_insert hs he
  obtain ⟨-, hstays⟩ := (hspares.requests hl).stays (l := .started db₁)
    (hosted_orderly server.tame_tamed) Row.content_moved hs₁ r.id
  obtain ⟨row, hm, hc⟩ := hstays _ hrow
  obtain ⟨found, hf, hr⟩ := row_of_get hg
  obtain rfl : found = row := Option.some.inj (hf.symm.trans hm)
  refine ⟨Row.echoes_of_content h hi.readable hc hr, fun hsame => ?_⟩
  obtain rfl : found = Row.ofRecord r := Option.some.inj (hm.symm.trans (hsame.trans hrow))
  exact ((Row.shows_ofRecord r).of_record hr).2.1

/-- In service, a record that is new is inserted and read, with its desired state and its times as
they are read. -/
theorem InService.insert_reads {s : DesiredState} {t t' : Instant} (hdb : InService server db)
    (hn : rowOf db.rows r.id = none)
    (hs : Cell.json? DesiredState.decode (.json r.desiredState.json) = some s)
    (hc : (Cell.ofInstant r.createdAt).instant? = some t)
    (hu : (Cell.ofInstant r.updatedAt).instant? = some t') :
    ∃ db₁ db₂, Ends (Database.insert server r) db (.ok r) db₁ ∧
      Ends (Database.get server r.id) db₁
        (.ok { r with desiredState := s, createdAt := t, updatedAt := t' }) db₂ := by
  obtain ⟨db₁, he, hdb₁, -⟩ := hdb.insert hn
  have hrow := (entry_of_insert hdb.idle he).2
  obtain ⟨db₂, hg, -⟩ := hdb₁.get hrow (Row.reads_ofRecord hs hc hu).record
  exact ⟨db₁, db₂, he, hg⟩

theorem InService.insert_get (hdb : InService server db) (hn : rowOf db.rows r.id = none)
    (h : r.desiredState.Proper 124) (hi : r.desiredState.Integral) (hc : r.createdAt.Legible)
    (hu : r.updatedAt.Legible) :
    ∃ db₁ db₂ r', Ends (Database.insert server r) db (.ok r) db₁ ∧
      Ends (Database.get server r.id) db₁ (.ok r') db₂ ∧ r'.Echoes r ∧ r'.report = r.report := by
  obtain ⟨t, ht⟩ := hc
  obtain ⟨t', ht'⟩ := hu
  obtain ⟨db₁, db₂, he, hg⟩ := hdb.insert_reads hn (json?_desiredState h hi.readable) ht ht'
  exact ⟨db₁, db₂, _, he, hg, ⟨rfl, rfl, rfl, rfl⟩, rfl⟩

end Database

/-- What is written for desired states, impacts, reports and requests is read as it was, in whatever
order the members of objects are kept, and all requests that come as text can be written and read
again. So a record that was inserted is read with what it was made of for all time, as long as no
statement of a changeset touches the table, and there is one to be read where nothing fails. -/
theorem written_is_read :
    (∀ {s : DesiredState} {depth w}, s.Proper (depth + 2) → s.Integral → Reordered s.json w →
      DesiredState.decode (depth + 5) w.tree = .ok s) ∧
    (∀ {i : Impact} {depth w}, Reordered i.json w → Impact.decode (depth + 2) w.tree = .ok i) ∧
    (∀ {report : Report} {depth w}, Reordered report.json w →
      Report.decode (depth + 2) w.tree = .ok report) ∧
    (∀ {r : ChangeRequest} {depth w}, r.desiredState.Proper (depth + 2) →
      r.desiredState.Integral → Reordered r.json w →
      ChangeRequest.decode (depth + 6) w.tree = .ok r) ∧
    (∀ {text r}, decodeText ChangeRequest.decode text = .ok r → r.desiredState.Proper 123) ∧
    (∀ {text s}, decodeText Submission.decode text = .ok s → s.request.desiredState.Proper 123) ∧
    (∀ {φ δ : Type} {server : Server φ δ} {db : Database φ δ} {r : Record}, InService server db →
      rowOf db.rows r.id = none → r.desiredState.Proper 124 → r.desiredState.Integral →
      r.createdAt.Legible → r.updatedAt.Legible →
      ∃ db₁ db₂ r', Ends (insert server r) db (.ok r) db₁ ∧
        Ends (get server r.id) db₁ (.ok r') db₂ ∧ r'.Echoes r ∧ r'.report = r.report) ∧
    (∀ {φ δ : Type} {server : Server φ δ} {db db₁ db' : Database φ δ} {r r' y : Record}
      {m : Manager (Watched (Database φ δ))}, db.saved = none → r.desiredState.Proper 124 →
      r.desiredState.Integral → Ends (insert server r) db (.ok y) db₁ →
      server.SparesAll m.world.past →
      Leads (.inTable φ δ) (Request.act (hosted server).watched) (.started db₁) m →
      Ends (get server r.id) m.world.world (.ok r') db' →
      r'.Echoes r ∧
        (rowOf m.world.world.rows r.id = rowOf db₁.rows r.id → r'.report = r.report)) := by
  refine ⟨fun h hi hw => (h.restores hi.readable).reordered hw, Impact.restores.reordered,
    Report.restores.reordered, fun h hi hw => (ChangeRequest.restores h hi.readable).reordered hw,
    ChangeRequest.yields.text, Submission.yields.text, InService.insert_get, get_echoes⟩

/-- A desired state with numbers, and a preference whose value is nested twice. -/
def nestedPreference : DesiredState where
  tables := [{ name := "t", columns := [{ name := "a" }] }]
  authSettings := { jwtExpirySeconds := some 3600 }
  buckets := [{ name := "b", fileSizeLimitBytes := some (-1) }]
  preferences := [
    { key := "k", value := .object [("a", .array [.int 1, .null]), ("b", .int (-2))] }]

theorem proper_nestedPreference : nestedPreference.Proper 2 := by
  refine ⟨⟨by simp [nestedPreference], by simp [nestedPreference], by simp [nestedPreference]⟩, ?_⟩
  intro p hp
  obtain rfl := List.mem_singleton.mp hp
  refine ⟨.object (List.pairwise_pair.mpr (by decide)) ?_, by decide⟩
  simp only [List.forall_mem_cons]
  refine ⟨.array ?_, .number, by simp⟩
  simp only [List.forall_mem_cons]
  exact ⟨.number, .null, by simp⟩

theorem integral_nestedPreference : nestedPreference.Integral := by
  intro p hp
  obtain rfl := List.mem_singleton.mp hp
  refine .object ?_
  simp only [List.forall_mem_cons]
  refine ⟨.array ?_, .int (by decide) (by decide), by simp⟩
  simp only [List.forall_mem_cons]
  exact ⟨.int (by decide) (by decide), .null, by simp⟩

def nestedRequest : ChangeRequest where
  desiredState := nestedPreference

/-- A record of the first second of 2020 that was found good. -/
def checkedRecord : Record where
  id := ⟨1⟩
  desiredState := nestedPreference
  sql := ["select 1"]
  impact := { tables := .ofList ["t"] }
  report := some { ok := true, warnings := ["w"] }
  createdAt := ⟨1577836800, 0⟩
  updatedAt := ⟨1577836800, 0⟩

/-- The members of a report are read from the last to the first, a request from its text, and a
record from the table where nothing fails. -/
theorem written_is_read_checked :
    DesiredState.decode 5 nestedPreference.json.tree = .ok nestedPreference ∧
    Report.decode 2 (Value.object [("warnings", .strings ["w"]), ("errors", .strings []),
      ("ok", .bool true)]).tree = .ok { ok := true, warnings := ["w"] } ∧
    ChangeRequest.decode 6 nestedRequest.json.tree = .ok nestedRequest ∧
    decodeText ChangeRequest.decode nestedRequest.json.render = .ok nestedRequest ∧
    nestedRequest.desiredState.Proper 123 ∧
    ∃ db₁ db₂ r',
      Ends (insert unfailing checkedRecord) { others := [], failures := () } (.ok checkedRecord)
        db₁ ∧
      Ends (get unfailing ⟨1⟩) db₁ (.ok r') db₂ ∧ r'.Echoes checkedRecord ∧
      r'.report = some { ok := true, warnings := ["w"] } := by
  obtain ⟨hstate, -, hreport, hrequest, htext, -, hservice, hlater⟩ := written_is_read
  have hp := proper_nestedPreference
  have hi := integral_nestedPreference
  have hdeep : nestedPreference.Proper 124 := hp.mono (by decide)
  have hr : Restores ChangeRequest.decode maxDepth nestedRequest.json nestedRequest :=
    ChangeRequest.restores (hp.mono (by decide)) hi.readable
  have hread := hr.decodeText (.refl _)
  have hreverse := List.reverse_perm
    [("ok", Value.bool true), ("errors", .strings []), ("warnings", .strings ["w"])]
  refine ⟨hstate hp hi (.refl _), hreport (.object (.refl _) hreverse),
    hrequest hp hi (.refl _), hread, htext hread, ?_⟩
  obtain ⟨db₁, db₂, r', he, hg, -⟩ :=
    hservice (r := checkedRecord) inService_unfailing rfl hdeep hi
      (Instant.legible (by decide) (by decide) (by decide))
      (Instant.legible (by decide) (by decide) (by decide))
  have hspares : unfailing.SparesAll [] := fun _ he => (List.not_mem_nil he).elim
  obtain ⟨hechoes, hsame⟩ := hlater rfl hdeep hi he hspares .refl hg
  exact ⟨db₁, db₂, r', he, hg, hechoes, hsame rfl⟩

end Evolution
