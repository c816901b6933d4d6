import Evolution.Database.Store
import Evolution.Proofs.Store.Memory

/-! What the queries find in the table of changesets, and what they make of the row of each
identifier. -/
namespace Evolution

open Time (Instant)

theorem Status.ofText?_text (s : Status) : Status.ofText? s.text = some s := by
  cases s <;> rfl

theorem Status.text_inj {s t : Status} (h : s.text = t.text) : s = t := by
  have ho : some s = some t := by rw [← ofText?_text, h, ofText?_text]
  exact Option.some.inj ho

theorem Status.parse_text (s : Status) : Status.parse s.text = .ok s := by
  rw [Status.parse, Status.ofText?_text]

theorem Status.parse_eq_ok {text : String} {s : Status} (h : Status.parse text = .ok s) :
    Status.ofText? text = some s := by
  unfold Status.parse at h
  split at h
  · rename_i hs
    cases h
    exact hs
  · cases h

/-- The statements that take a changeset to a status. -/
def Record.statements? (r : Record) : Status → Option (List String)
  | .applied => some r.sql
  | .reverted => some r.rollbackSql
  | _ => none

namespace Database

variable {r : Record} {row : Row} {rows rows' : List Row} {id : Uuid} {u : StatusUpdate}
  {now : Instant}

namespace Row

/-- The status that is read of a row. -/
def status? (row : Row) : Option Status :=
  (row.cell .status).text?.bind Status.ofText?

theorem status?_ofRecord (r : Record) : (ofRecord r).status? = some r.status := by
  simp only [status?, ofRecord, Cell.text?, Option.bind_some, Status.ofText?_text]

theorem moved_status (u : StatusUpdate) (now : Instant) (row : Row) :
    (row.moved u now).cell .status = .text u.status.text := by
  unfold moved
  cases u.report <;> rfl

theorem status?_moved (u : StatusUpdate) (now : Instant) (row : Row) :
    (row.moved u now).status? = some u.status := by
  simp only [status?, moved_status, Cell.text?, Option.bind_some, Status.ofText?_text]

/-- A move overwrites four cells and no other. -/
theorem moved_cell {c : ChangesetColumn} (hs : c ≠ .status) (he : c ≠ .errorText)
    (hr : c ≠ .report) (hu : c ≠ .updatedAt) : (row.moved u now).cell c = row.cell c := by
  unfold moved
  cases u.report <;> simp [put, hs, he, hr, hu]

theorem hasId_moved (j : Uuid) : (row.moved u now).hasId j = row.hasId j := by
  have h : (row.moved u now).cell .id = row.cell .id := by apply moved_cell <;> decide
  rw [hasId, h]
  rfl

theorem hasId_ofRecord (r : Record) (j : Uuid) : (ofRecord r).hasId j = (some r.id == some j) :=
  rfl

theorem hasId_unique {j : Uuid} (hi : row.hasId id = true) (hj : row.hasId j = true) : j = id := by
  unfold hasId at hi hj
  exact Option.some.inj ((eq_of_beq hj).symm.trans (eq_of_beq hi))

theorem read_ok {α : Type} {c : ChangesetColumn} {read? : Cell → Option α} {a : α}
    (h : row.read c read? = .ok a) : read? (row.cell c) = some a := by
  unfold read at h
  split at h
  · rename_i ha
    cases h
    exact ha
  · cases h

theorem read_of_eq {α : Type} {c : ChangesetColumn} {read? : Cell → Option α} {a : α}
    (h : read? (row.cell c) = some a) : row.read c read? = .ok a := by
  simp only [read, h]

/-- Every cell can be read, and this is what is read of it. -/
structure Reads (row : Row) (r : Record) : Prop where
  id : (row.cell .id).uuid? = some r.id
  scope : (row.cell .scope).text?.bind Scope.named? = some r.scope
  tenantId : Cell.orNull Cell.uuid? (row.cell .tenantId) = some r.tenantId
  title : (row.cell .title).text? = some r.title
  summary : (row.cell .summary).text? = some r.summary
  moduleName : (row.cell .moduleName).text? = some r.moduleName
  desiredState : (row.cell .desiredState).json? DesiredState.decode = some r.desiredState
  sql : (row.cell .sql).json? decodeTexts = some r.sql
  rollbackSql : (row.cell .rollbackSql).json? decodeTexts = some r.rollbackSql
  impact : (row.cell .impact).json? Impact.decode = some r.impact
  checksum : (row.cell .checksum).text? = some r.checksum
  report : Cell.orNull (Cell.json? Report.decode) (row.cell .report) = some r.report
  status : row.status? = some r.status
  errorText : Cell.orNull Cell.text? (row.cell .errorText) = some r.errorText
  createdBy : Cell.orNull Cell.text? (row.cell .createdBy) = some r.createdBy
  createdAt : (row.cell .createdAt).instant? = some r.createdAt
  updatedAt : (row.cell .updatedAt).instant? = some r.updatedAt

theorem reads_of_record (h : row.record = .ok r) : row.Reads r := by
  obtain ⟨scopeText, hscope, h⟩ := bind_eq_ok.mp h
  obtain ⟨statusText, hstatus, h⟩ := bind_eq_ok.mp h
  split at h
  · rename_i status hs
    obtain ⟨id, hid, h⟩ := bind_eq_ok.mp h
    split at h
    · rename_i scope hn
      simp only [bind_eq_ok] at h
      obtain ⟨tenantId, htenant, title, htitle, summary, hsummary, moduleName, hmodule,
        desiredState, hstate, sql, hsql, rollbackSql, hrollback, impact, himpact, checksum,
        hchecksum, report, hreport, errorText, herror, createdBy, hauthor, createdAt, hcreated,
        updatedAt, hupdated, h⟩ := h
      cases h
      exact
        { id := read_ok hid
          scope := Option.bind_eq_some_iff.mpr ⟨_, read_ok hscope, hn⟩
          tenantId := read_ok htenant
          title := read_ok htitle
          summary := read_ok hsummary
          moduleName := read_ok hmodule
          desiredState := read_ok hstate
          sql := read_ok hsql
          rollbackSql := read_ok hrollback
          impact := read_ok himpact
          checksum := read_ok hchecksum
          report := read_ok hreport
          status := Option.bind_eq_some_iff.mpr ⟨_, read_ok hstatus, hs⟩
          errorText := read_ok herror
          createdBy := read_ok hauthor
          createdAt := read_ok hcreated
          updatedAt := read_ok hupdated }
    · cases h
  · cases h

theorem Reads.record (h : row.Reads r) : row.record = .ok r := by
  obtain ⟨scopeText, hscope, hn⟩ := Option.bind_eq_some_iff.mp h.scope
  obtain ⟨statusText, hstatus, hs⟩ := Option.bind_eq_some_iff.mp h.status
  refine bind_eq_ok.mpr ⟨_, read_of_eq hscope, ?_⟩
  refine bind_eq_ok.mpr ⟨_, read_of_eq hstatus, ?_⟩
  rw [hs]
  refine bind_eq_ok.mpr ⟨_, read_of_eq h.id, ?_⟩
  rw [hn]
  simp only [bind_eq_ok]
  exact ⟨_, read_of_eq h.tenantId, _, read_of_eq h.title, _, read_of_eq h.summary, _,
    read_of_eq h.moduleName, _, read_of_eq h.desiredState, _, read_of_eq h.sql, _,
    read_of_eq h.rollbackSql, _, read_of_eq h.impact, _, read_of_eq h.checksum, _,
    read_of_eq h.report, _, read_of_eq h.errorText, _, read_of_eq h.createdBy, _,
    read_of_eq h.createdAt, _, read_of_eq h.updatedAt, rfl⟩

/-- A row that can be read as a record is read with its status. -/
theorem status?_of_record (h : row.record = .ok r) : row.status? = some r.status :=
  (reads_of_record h).status

/-- The statements that take a changeset to a status, as they are read of its row. -/
def statements? (row : Row) : Status → Option (List String)
  | .applied => (row.cell .sql).json? decodeTexts
  | .reverted => (row.cell .rollbackSql).json? decodeTexts
  | _ => none

theorem statements?_of_record (h : row.record = .ok r) : row.statements? = r.statements? := by
  have hr := reads_of_record h
  funext target
  cases target <;> first | rfl | exact hr.sql | exact hr.rollbackSql

/-- To move a row does not touch its statements. -/
theorem statements?_moved (u : StatusUpdate) (now : Instant) (row : Row) :
    (row.moved u now).statements? = row.statements? := by
  have hs : (row.moved u now).cell .sql = row.cell .sql := by apply moved_cell <;> decide
  have hr : (row.moved u now).cell .rollbackSql = row.cell .rollbackSql := by
    apply moved_cell <;> decide
  funext target
  cases target <;> simp only [statements?, hs, hr]

theorem errorsIn_read {α : Type} {P : Fault → Prop} {c : ChangesetColumn}
    {read? : Cell → Option α} (h : P (.database (.unreadableColumn c.index))) :
    ErrorsIn P (row.read c read?) := by
  unfold read
  split
  · exact .ok
  · exact .error h

/-- A row that cannot be read has a cell that cannot be read, or a word that is unknown. -/
theorem errorsIn_record {P : Fault → Prop} (hc : ∀ i, P (.database (.unreadableColumn i)))
    (hw : ∀ message, P (.internal message)) : ErrorsIn P row.record := by
  refine .bind (errorsIn_read (hc _)) fun _ => .bind (errorsIn_read (hc _)) fun _ => ?_
  split
  · refine .bind (errorsIn_read (hc _)) fun _ => ?_
    split
    · iterate 14 refine .bind (errorsIn_read (hc _)) fun _ => ?_
      exact .ok
    · exact .error (hw _)
  · exact .error (hw _)

end Row

/-- The first row of an identifier; where the server answers, it is the only one. -/
def rowOf (rows : List Row) (id : Uuid) : Option Row :=
  rows.find? (·.hasId id)

/-- The statements of a changeset in the table. -/
def statementsIn (rows : List Row) (id : Uuid) (target : Status) : Option (List String) :=
  (rowOf rows id).bind (·.statements? target)

theorem rowWithId_ok {found : Option Row} (h : rowWithId id rows = .ok found) :
    rows.filter (·.hasId id) = found.toList := by
  unfold rowWithId at h
  split at h
  · rename_i hf
    cases h
    exact hf
  · rename_i hf
    cases h
    exact hf
  · cases h

theorem rowOf_of_rowWithId {found : Option Row} (h : rowWithId id rows = .ok found) :
    rowOf rows id = found := by
  rw [rowOf, ← List.head?_filter, rowWithId_ok h]
  cases found <;> rfl

theorem insertRow_ok (h : insertRow row rows = .ok ((), rows')) :
    rows' = rows ++ [row] ∧ ∀ x ∈ rows, (x.cell .id).uuid? ≠ (row.cell .id).uuid? := by
  unfold insertRow at h
  split at h
  · cases h
  · rename_i hn
    cases h
    exact ⟨rfl, by simpa using hn⟩

theorem rowOf_insertRow (h : insertRow (.ofRecord r) rows = .ok ((), rows')) :
    rowOf rows r.id = none ∧
      rowOf rows' = Function.update (rowOf rows) r.id (some (.ofRecord r)) := by
  obtain ⟨rfl, hn⟩ := insertRow_ok h
  have hnone : rowOf rows r.id = none := by
    rw [rowOf, List.find?_eq_none]
    intro x hx
    have hne : (x.cell .id).uuid? ≠ some r.id := hn x hx
    simpa [Row.hasId] using hne
  refine ⟨hnone, ?_⟩
  funext j
  by_cases hj : j = r.id
  · subst hj
    rw [Function.update_self, rowOf, List.find?_append, ← rowOf, hnone]
    simp [Row.hasId_ofRecord]
  · rw [Function.update_of_ne hj, rowOf, List.find?_append]
    simp [Row.hasId_ofRecord, Ne.symm hj, rowOf]

/-- Moved rows keep their identifiers. -/
theorem rowOf_map_moved (stands : Row → Bool) (rows : List Row) (j : Uuid) :
    rowOf (rows.map fun x => if stands x then x.moved u now else x) j =
      (rowOf rows j).map fun x => if stands x then x.moved u now else x := by
  have hc : ((·.hasId j) ∘ fun x : Row => if stands x then x.moved u now else x) =
      (·.hasId j) := by
    funext x
    simp only [Function.comp]
    split
    · exact Row.hasId_moved j
    · rfl
  rw [rowOf, List.find?_map, hc, rowOf]

theorem rowOf_hasId (h : rowOf rows id = some row) : row.hasId id = true :=
  List.find?_some (by exact h)

/-- To move the one row of an identifier moves its entry. -/
theorem rowOf_moved {stands : Row → Bool} (h : rowOf rows id = some row)
    (hs : ∀ x, stands x = true → x.hasId id = true) (hr : stands row = true) :
    rowOf (rows.map fun x => if stands x then x.moved u now else x) =
      Function.update (rowOf rows) id (some (row.moved u now)) := by
  funext j
  rw [rowOf_map_moved]
  by_cases hj : j = id
  · subst hj
    rw [Function.update_self, h, Option.map_some, if_pos hr]
  · rw [Function.update_of_ne hj]
    cases hx : rowOf rows j with
    | none => rfl
    | some x =>
      have hn : ¬ stands x = true := fun hx' => hj (Row.hasId_unique (hs x hx') (rowOf_hasId hx))
      rw [Option.map_some, if_neg hn]

/-- The row of a validated changeset. -/
def validatedRow : Row :=
  (Row.ofRecord .oneTable).put .desiredState (.text "\x01\x7b\x7d")

theorem status?_validatedRow : validatedRow.status? = some .validated :=
  Status.ofText?_text .validated

end Database
end Evolution
