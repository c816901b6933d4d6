import Evolution.Proofs.Database.Verdict
import Evolution.Proofs.Model.Codec

/-! What was written for a record is read back from its row: sets of names from their texts, and the
rest cell by cell. A desired state and a time are read back where they can be. -/
namespace Evolution

open Database Json
open Time (Instant)

section impact

theorem insertName_last {name : String} {names : List String} (h : ∀ n ∈ names, n < name) :
    insertName name names = names ++ [name] := by
  induction names with
  | nil => rfl
  | cons n rest ih =>
    have hn := h n List.mem_cons_self
    have hlt : ¬ name < n := fun hx => String.lt_irrefl _ (String.lt_trans hn hx)
    have hne : name ≠ n := fun hx => String.lt_irrefl _ (hx ▸ hn)
    rw [insertName, if_neg hlt, if_neg hne, ih fun x hx => h x (List.mem_cons_of_mem _ hx)]
    rfl

theorem NameSet.toList_foldl_insert {names : List String} {s : NameSet}
    (h : (s.toList ++ names).Pairwise (· < ·)) :
    (names.foldl insert s).toList = s.toList ++ names := by
  induction names generalizing s with
  | nil => exact (List.append_nil _).symm
  | cons n rest ih =>
    have hlast : (s.insert n).toList = s.toList ++ [n] :=
      insertName_last fun x hx => (List.pairwise_append.mp h).2.2 x hx n List.mem_cons_self
    have hrest : ((s.insert n).toList ++ rest).Pairwise (· < ·) := by
      rw [hlast, List.append_assoc]
      exact h
    rw [List.foldl_cons, ih hrest, hlast, List.append_assoc]
    rfl

/-- Names in ascending order give the set that they were taken from. -/
theorem NameSet.ofList_toList (names : NameSet) : ofList names.toList = names := by
  have h : (ofList names.toList).toList = names.toList := toList_foldl_insert names.ascending
  generalize ofList names.toList = read at h
  cases names
  cases read
  simpa using h

theorem NameSet.restores {names : NameSet} {depth : Nat} :
    Restores decode (depth + 1) names.json names := by
  have h : Restores decodeTexts (depth + 1) names.json names.toList := .strings
  refine ⟨h.readable, fun hw => ?_⟩
  rw [decode, h.reordered hw]
  exact congrArg Except.ok names.ofList_toList

theorem Impact.restores {i : Impact} {depth : Nat} : Restores decode (depth + 2) i.json i := by
  have h : Copies (depth + 1) i fields _ :=
    .field NameSet.restores <| .field NameSet.restores <| .field NameSet.restores <|
    .field NameSet.restores <| .field NameSet.restores <| .field NameSet.restores <|
    .field NameSet.restores <| .field .strings .nil
  exact h.restores (by decide) (by simp) rfl

end impact

/-- What is written for a desired state can be read. It cannot where a preference is nested so
deeply that no text that is read could have said it. -/
def DesiredState.Legible (s : DesiredState) : Prop :=
  ∃ t, Cell.json? DesiredState.decode (.json s.json) = some t

/-- It can if its numbers have their widths, and if the values of its preferences can be read where
124 arrays and objects may be opened. -/
theorem DesiredState.legible {s : DesiredState} (h : s.Fits)
    (hv : ∀ p ∈ s.preferences, p.value.Readable ∧ p.value.Fits 124) : s.Legible :=
  ⟨s, Cell.json?_json (restores h fun p hp => .value (hv p hp).1 (hv p hp).2)⟩

/-- What is written for a time can be read. -/
def Time.Instant.Legible (t : Instant) : Prop :=
  ∃ t', (Cell.ofInstant t).instant? = some t'

/-- It can from 2000 on, in the years that can be told. -/
theorem Time.Instant.legible {t : Instant} (hs : 946684800 ≤ t.seconds) (hn : t.nanos < 1000000000)
    (hy : isYear t.year = true) : t.Legible := by
  have hmicros : Int.fdiv t.microseconds 1000000 + 946684800 = t.seconds := by
    have hnonneg : 0 ≤ (t.seconds - 946684800) * 1000000000 + t.nanos := by omega
    rw [microseconds, Int.tdiv_eq_ediv_of_nonneg hnonneg, Int.fdiv_eq_ediv_of_nonneg _ (by decide)]
    omega
  have h : ofMicroseconds? t.microseconds =
      some ⟨t.seconds, (Int.fmod t.microseconds 1000000 * 1000).toNat⟩ := by
    rw [ofMicroseconds?, hmicros]
    exact if_pos hy
  exact ⟨_, h⟩

/-- A time of whole microseconds, in the years that can be told and in no leap second. -/
structure Time.Instant.IsWhole (t : Instant) : Prop where
  second : t.nanos < 1000000000
  whole : t.nanos % 1000 = 0
  year : isYear t.year = true

section whole

variable {t t' : Instant}

theorem Time.Instant.IsWhole.microseconds_eq (h : t.IsWhole) :
    t.microseconds = (t.seconds - 946684800) * 1000000 + (t.nanos / 1000 : Nat) := by
  have hn := h.whole
  have he : (t.seconds - 946684800) * 1000000000 + t.nanos =
      ((t.seconds - 946684800) * 1000000 + (t.nanos / 1000 : Nat)) * 1000 := by omega
  rw [microseconds, he, Int.mul_tdiv_cancel _ (by decide)]

/-- What is written for such a time is read as this time. -/
theorem Time.Instant.IsWhole.instant? (h : t.IsWhole) : (Cell.ofInstant t).instant? = some t := by
  have hs := h.second
  have hn := h.whole
  have hm := h.microseconds_eq
  have hsecond : Int.fdiv t.microseconds 1000000 + 946684800 = t.seconds := by
    rw [Int.fdiv_eq_ediv_of_nonneg _ (by decide)]
    omega
  have hnano : (Int.fmod t.microseconds 1000000 * 1000).toNat = t.nanos := by
    rw [Int.fmod_eq_emod_of_nonneg _ (by decide)]
    omega
  change ofMicroseconds? t.microseconds = some t
  rw [ofMicroseconds?, hsecond, hnano]
  exact if_pos h.year

theorem Time.Instant.IsWhole.before_iff (h : t.IsWhole) (h' : t'.IsWhole) :
    t.before t' = true ↔ t.microseconds < t'.microseconds := by
  have hs := h.second
  have hs' := h'.second
  have hn := h.whole
  have hn' := h'.whole
  rw [h.microseconds_eq, h'.microseconds_eq]
  simp only [before, Bool.or_eq_true, Bool.and_eq_true, decide_eq_true_eq, beq_iff_eq]
  omega

end whole

namespace Database

variable {r : Record} {row : Row} {u : StatusUpdate} {now t t' : Instant} {s : DesiredState}

namespace Row

/-- The row that is written for a record is read as this record, up to its desired state and its
times, which are what is read of their cells. -/
theorem reads_ofRecord
    (hs : Cell.json? DesiredState.decode (.json r.desiredState.json) = some s)
    (hc : (Cell.ofInstant r.createdAt).instant? = some t)
    (hu : (Cell.ofInstant r.updatedAt).instant? = some t') :
    (ofRecord r).Reads { r with desiredState := s, createdAt := t, updatedAt := t' } where
  id := rfl
  scope := by
    change Scope.named? r.scope.text = some r.scope
    cases r.scope <;> rfl
  tenantId := Cell.orNull_uuid r.tenantId
  title := rfl
  summary := rfl
  moduleName := rfl
  desiredState := hs
  sql := Cell.json?_texts r.sql
  rollbackSql := Cell.json?_texts r.rollbackSql
  impact := Cell.json?_json Impact.restores
  checksum := rfl
  report := Cell.orNull_report r.report
  status := status?_ofRecord r
  errorText := Cell.orNull_text r.errorText
  createdBy := Cell.orNull_text r.createdBy
  createdAt := hc
  updatedAt := hu

theorem moved_cell_of_isFixed {c : ChangesetColumn} (hc : c.isFixed = true) :
    (row.moved u now).cell c = row.cell c :=
  congrFun (content_moved u now row) ⟨c, hc⟩

/-- A row that was moved is read as the record that was moved with it. -/
theorem Reads.moved (h : row.Reads r) (hn : (Cell.ofInstant now).instant? = some t) :
    (row.moved u now).Reads (r.moved u t) := by
  have hcell (c : ChangesetColumn) (hc : c.isFixed = true) :
      row.cell c = (row.moved u now).cell c := (moved_cell_of_isFixed hc).symm
  have hreport : Cell.orNull (Cell.json? Report.decode) ((row.moved u now).cell .report) =
      some (u.report <|> r.report) := by
    cases hu : u.report with
    | none => simpa [Row.moved, hu, put] using h.report
    | some report =>
      rw [show (row.moved u now).cell .report = .json report.json by simp [Row.moved, hu, put]]
      exact Cell.orNull_report (some report)
  have herror : (row.moved u now).cell .errorText = .ofOption .text u.errorText := by
    unfold Row.moved
    cases u.report <;> rfl
  have htime : (row.moved u now).cell .updatedAt = .ofInstant now := by
    unfold Row.moved
    cases u.report <;> rfl
  exact
    { id := hcell .id rfl ▸ h.id
      scope := hcell .scope rfl ▸ h.scope
      tenantId := hcell .tenantId rfl ▸ h.tenantId
      title := hcell .title rfl ▸ h.title
      summary := hcell .summary rfl ▸ h.summary
      moduleName := hcell .moduleName rfl ▸ h.moduleName
      desiredState := hcell .desiredState rfl ▸ h.desiredState
      sql := hcell .sql rfl ▸ h.sql
      rollbackSql := hcell .rollbackSql rfl ▸ h.rollbackSql
      impact := hcell .impact rfl ▸ h.impact
      checksum := hcell .checksum rfl ▸ h.checksum
      report := hreport
      status := status?_moved u now row
      errorText := herror ▸ Cell.orNull_text u.errorText
      createdBy := hcell .createdBy rfl ▸ h.createdBy
      createdAt := hcell .createdAt rfl ▸ h.createdAt
      updatedAt := htime ▸ hn }

end Row
end Database
end Evolution
