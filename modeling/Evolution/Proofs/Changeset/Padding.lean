import Evolution.Proofs.Changeset.Statement
import Evolution.Proofs.Model.Padding

/-! White space around the texts of a request changes nothing in what it is compiled to. Every
text that becomes part of a statement, a name in the impact or a warning is trimmed wherever it is
used. -/
namespace Evolution

open Text (trim nonBlank? isBlank)

section blocks

theorem filterMap_nonBlank?_of_padded {ss ss' : List String}
    (h : List.Forall₂ Text.Padded ss ss') :
    ss'.filterMap nonBlank? = ss.filterMap nonBlank? :=
  filterMap_eq_of_forall₂ h fun _ _ => Text.Padded.nonBlank?_eq

theorem Column.Padded.definition_eq {c c' : Column} (h : c.Padded c') :
    c'.definition = c.definition := by
  simp only [definition, h.name.trim_eq, h.dataType.nonBlank?_eq, h.nullable, h.unique,
    Text.bind_nonBlank?_of_padded h.defaultValue, Text.bind_nonBlank?_of_padded h.referencesTable,
    Text.bind_nonBlank?_of_padded h.referencesColumn]

section table

variable {t t' : Table} (h : t.Padded t')

include h

theorem Table.Padded.quoted_eq : t'.quoted = t.quoted := by
  simp only [quoted, h.name.trim_eq]

theorem Table.Padded.namedColumns : List.Forall₂ Column.Padded t.namedColumns t'.namedColumns := by
  refine List.rel_filter (fun c c' hc => ?_) h.columns
  dsimp only
  rw [hc.name.trim_eq]

theorem Table.Padded.isCreated_eq : t'.isCreated = t.isCreated := by
  have hempty : t'.namedColumns = [] ↔ t.namedColumns = [] := by
    rw [← List.length_eq_zero_iff, ← h.namedColumns.length_eq, List.length_eq_zero_iff]
  rw [isCreated, isCreated, h.createIfMissing, Bool.eq_iff_iff]
  simp only [Bool.and_eq_true, Bool.not_eq_true', List.isEmpty_eq_false_iff, ne_eq, hempty]

theorem Table.Padded.createChange_eq : t'.createChange = t.createChange := by
  have hdefinitions : (t'.namedColumns.map fun c => "  " ++ c.definition) =
      t.namedColumns.map fun c => "  " ++ c.definition :=
    map_eq_of_forall₂ h.namedColumns fun _ _ hc => by rw [hc.definition_eq]
  unfold createChange
  rw [h.quoted_eq, hdefinitions]

theorem Table.Padded.addColumnChange_eq {c c' : Column} (hc : c.Padded c') :
    t'.addColumnChange c' = t.addColumnChange c := by
  simp only [addColumnChange, h.quoted_eq, hc.definition_eq, hc.name.trim_eq]

theorem Table.Padded.securityChange_eq : t'.securityChange = t.securityChange := by
  simp only [securityChange, h.quoted_eq, h.isCreated_eq]

theorem Table.Padded.indexChange?_eq {i i' : TableIndex} (hi : i.Padded i') :
    t'.indexChange? i' = t.indexChange? i := by
  simp only [indexChange?, hi.name.nonBlank?_eq, hi.expression.nonBlank?_eq, hi.unique,
    h.name.trim_eq, h.quoted_eq]

theorem Table.Padded.block_eq : t'.block = t.block := by
  have hadded : t'.namedColumns.map t'.addColumnChange = t.namedColumns.map t.addColumnChange :=
    map_eq_of_forall₂ h.namedColumns fun _ _ => h.addColumnChange_eq
  have hindexes : t'.indexes.filterMap t'.indexChange? = t.indexes.filterMap t.indexChange? :=
    filterMap_eq_of_forall₂ h.indexes fun _ _ => h.indexChange?_eq
  unfold block
  rw [h.name.trim_eq, h.isCreated_eq, h.createChange_eq, hadded, h.rowLevelSecurity,
    h.securityChange_eq, hindexes]

end table

theorem Policy.Padded.block_eq {p p' : Policy} (h : p.Padded p') : p'.block = p.block := by
  have hdrop : p'.dropSql = p.dropSql := by
    unfold dropSql
    rw [h.name.trim_eq, h.table.trim_eq]
  have hcreate : p'.createSql = p.createSql := by
    unfold createSql
    rw [h.name.trim_eq, h.table.trim_eq, h.command, filterMap_nonBlank?_of_padded h.roles,
      h.usingExpr.nonBlank?_eq, h.checkExpr.nonBlank?_eq]
  unfold block
  rw [h.table.nonBlank?_eq, h.name.nonBlank?_eq, hdrop, hcreate]

theorem Trigger.Padded.block_eq {t t' : Trigger} (h : t.Padded t') : t'.block = t.block := by
  have hdrop : t'.dropSql = t.dropSql := by
    unfold dropSql
    rw [h.name.trim_eq, h.table.trim_eq]
  have hcreate : t'.createSql = t.createSql := by
    unfold createSql
    rw [h.name.trim_eq, h.table.trim_eq, h.timing, h.events, h.function_eq]
  unfold block
  rw [h.table.nonBlank?_eq, h.name.nonBlank?_eq, h.events, hdrop, hcreate]

/-- A blank is no character of a name. -/
theorem isNameChar_of_isBlank (c : Char) (h : isBlank c = true) : Sql.isNameChar c = false := by
  rw [← Bool.not_eq_true]
  intro hn
  rw [Sql.isNameChar, Bool.or_eq_true, Char.isAlphanum, Bool.or_eq_true, beq_iff_eq] at hn
  obtain (halpha | hdigit) | rfl := hn
  · rw [isBlank_of_isAlpha halpha] at h
    cases h
  · have hrange : 48 ≤ c.toNat ∧ c.toNat ≤ 57 := by
      simpa [Char.isDigit, UInt32.le_iff_toNat_le] using hdigit
    simp only [isBlank, Bool.or_eq_true, Bool.and_eq_true, decide_eq_true_eq, beq_iff_eq] at h
    omega
  · revert h
    decide

/-- The language of a function is not trimmed, but no blank of it is kept. -/
theorem Routine.Padded.languageName_eq {f f' : Routine} (h : f.Padded f') :
    f'.languageName = f.languageName := by
  simp only [languageName, h.language.filter_eq isNameChar_of_isBlank]

theorem Routine.Padded.block_eq {f f' : Routine} (h : f.Padded f') : f'.block = f.block := by
  have hcreate : f'.createSql = f.createSql := by
    unfold createSql head
    rw [h.signature.trim_eq, h.returns.nonBlank?_eq, h.languageName_eq, h.securityDefiner,
      h.body.trim_eq]
  have hinverse : f'.inverse = f.inverse := by
    unfold inverse
    rw [h.signature.trim_eq]
  have hname : f'.name = f.name := by
    unfold name
    rw [h.signature.trim_eq]
  unfold block
  rw [h.signature.nonBlank?_eq, h.body.nonBlank?_eq, hcreate, hinverse, hname]

theorem Preference.Padded.setting?_eq {p p' : Preference} (h : p.Padded p') :
    p'.setting? = p.setting? := by
  simp only [setting?, h.key.nonBlank?_eq, h.value]

theorem Bucket.Padded.block_eq {b b' : Bucket} (h : b.Padded b') : b'.block = b.block := by
  simp only [block, upsert, owner, h.scope, h.tenantId, h.name.nonBlank?_eq, h.name.trim_eq,
    h.isPublic, filterMap_nonBlank?_of_padded h.allowedMimeTypes, h.fileSizeLimitBytes]

theorem RemoteFunction.Padded.block_eq {f f' : RemoteFunction} (h : f.Padded f') :
    f'.block = f.block := by
  simp only [block, upsert, owner, effectiveRoute, h.scope, h.tenantId, h.name.nonBlank?_eq,
    h.name.trim_eq, h.route.nonBlank?_eq, h.enabled, h.version.trim_eq]

end blocks

namespace ChangeRequest

/-- The texts of the second request may have more white space at their ends. -/
structure Padded (r r' : ChangeRequest) : Prop where
  moduleName : Text.Padded r.moduleName r'.moduleName
  title : Text.Padded r.title r'.title
  summary : Option.Rel Text.Padded r.summary r'.summary
  scope : r'.scope = r.scope
  tenantId : r'.tenantId = r.tenantId
  desiredState : r.desiredState.Padded r'.desiredState

variable {r r' : ChangeRequest}

theorem Padded.blocks_eq (h : r.Padded r') : r'.blocks = r.blocks := by
  have hs := h.desiredState
  have howner : r'.owner = r.owner := by
    rw [owner, h.scope, h.tenantId]
    rfl
  have hsettings : r'.settings = r.settings := by
    simp only [settings, hs.authSettings, hs.apiSettings,
      filterMap_eq_of_forall₂ hs.preferences fun _ _ => Preference.Padded.setting?_eq]
  simp only [blocks, howner, hsettings,
    map_eq_of_forall₂ hs.tables fun _ _ => Table.Padded.block_eq,
    map_eq_of_forall₂ hs.policies fun _ _ => Policy.Padded.block_eq,
    map_eq_of_forall₂ hs.triggers fun _ _ => Trigger.Padded.block_eq,
    map_eq_of_forall₂ hs.functions fun _ _ => Routine.Padded.block_eq,
    map_eq_of_forall₂ hs.buckets fun _ _ => Bucket.Padded.block_eq,
    map_eq_of_forall₂ hs.remoteFunctions fun _ _ => RemoteFunction.Padded.block_eq]

/-- White space at the ends of the texts of a request is seen in the desired state that goes along
with the changeset, and nowhere else: module, title, summary, both lists of statements, the impact
and the checksum are the same, and so are the errors of the check. -/
theorem compile_of_padded (h : r.Padded r') :
    r'.compile = { r.compile with desiredState := r'.desiredState } ∧
      r'.compile.checksum = r.compile.checksum ∧
      r'.desiredState.errors = r.desiredState.errors := by
  have hblocks := h.blocks_eq
  have hcompile : r'.compile = { r.compile with desiredState := r'.desiredState } := by
    simp only [compile, impact, warnings, changes, hblocks, h.moduleName.trim_eq, h.title.trim_eq,
      Text.bind_nonBlank?_of_padded h.summary, h.scope, h.tenantId]
  refine ⟨hcompile, ?_, h.desiredState.errors_eq⟩
  rw [hcompile]
  rfl

/-- A text between blanks of several kinds. -/
def aired (s : String) : String :=
  "\u00a0\t" ++ s ++ " \u3000\n"

theorem padded_aired (s : String) : Text.Padded s (aired s) :=
  ⟨['\u00a0', '\t'], [' ', '\u3000', '\n'], List.all_eq_true.mp (by decide),
    List.all_eq_true.mp (by decide), by simp [aired]⟩

def tidy : ChangeRequest where
  moduleName := "notes"
  title := "Notes"
  summary := some "All about notes"
  desiredState := {
    tables := [{ name := "notes", columns := [{ name := "id", defaultValue := some "0" }] }]
    triggers := [
      { table := "notes", name := "touched", events := [.update], functionName := "touch" }]
    functions := [{ signature := "touch()", body := "begin return new; end;" }]
    buckets := [{ name := "avatars", allowedMimeTypes := ["image/png"] }] }

/-- The same with more white space. -/
def airy : ChangeRequest where
  moduleName := aired "notes"
  title := "Notes"
  summary := some (aired "All about notes")
  desiredState := {
    tables := [{
      name := aired "notes"
      columns := [{ name := aired "id", dataType := aired "text",
                    defaultValue := some (aired "0") }] }]
    triggers := [{
      table := "notes", name := aired "touched", events := [.update],
      functionName := aired "touch" }]
    functions := [{
      signature := aired "touch()", language := aired "plpgsql",
      body := aired "begin return new; end;" }]
    buckets := [{ name := "avatars", allowedMimeTypes := [aired "image/png"] }] }

theorem padded_airy : tidy.Padded airy := by
  have hcolumn : Column.Padded { name := "id", defaultValue := some "0" }
      { name := aired "id", dataType := aired "text", defaultValue := some (aired "0") } :=
    { name := padded_aired _, dataType := padded_aired _, nullable := rfl, unique := rfl
      defaultValue := .some (padded_aired _), referencesTable := .none, referencesColumn := .none }
  refine
    { moduleName := padded_aired _, title := .refl _, summary := .some (padded_aired _)
      scope := rfl, tenantId := rfl, desiredState := ?_ }
  refine
    { tables := .cons ?table .nil, policies := .nil, triggers := .cons ?trigger .nil
      functions := .cons ?function .nil, authSettings := rfl, buckets := .cons ?bucket .nil
      remoteFunctions := .nil, apiSettings := rfl, preferences := .nil }
  case table => exact ⟨padded_aired _, rfl, rfl, .cons hcolumn .nil, .nil⟩
  case trigger => exact ⟨.refl _, padded_aired _, rfl, rfl, padded_aired _⟩
  case function => exact ⟨padded_aired _, .refl _, padded_aired _, rfl, padded_aired _⟩
  case bucket => exact ⟨rfl, rfl, .refl _, .cons (padded_aired _) .nil, rfl, rfl⟩

theorem compile_of_padded_airy :
    tidy.Padded airy ∧ airy.compile.moduleName = "notes" ∧ airy.compile.sql = tidy.compile.sql ∧
      airy.compile.rollbackSql = tidy.compile.rollbackSql ∧
      airy.compile.impact = tidy.compile.impact ∧ airy.compile.summary = "All about notes" ∧
      airy.compile.checksum = tidy.compile.checksum ∧
      airy.desiredState.errors = tidy.desiredState.errors := by
  obtain ⟨hcompile, hchecksum, herrors⟩ := compile_of_padded padded_airy
  have hmodule : tidy.compile.moduleName = "notes" := by decide
  have hsummary : tidy.compile.summary = "All about notes" := by decide
  rw [hcompile] at hchecksum ⊢
  dsimp only
  refine ⟨padded_airy, hmodule, ?_, ?_, ?_, hsummary, hchecksum, herrors⟩ <;> rfl

end ChangeRequest
end Evolution
