import Evolution.Changeset.Compile
import Mathlib.Data.List.Basic

/-! A changeset part by part: what each entity of a request contributes, and how it is undone. -/
namespace Evolution

open Sql
open Text (trim nonBlank?)

/-- One entity of a request. An entry of the settings comes with their owner, and nothing else of
the request counts. -/
inductive Part where
  | table (t : Table)
  | policy (p : Policy)
  | trigger (t : Trigger)
  | function (f : Routine)
  | setting (o : Owner) (s : Setting)
  | preference (o : Owner) (p : Preference)
  | bucket (b : Bucket)
  | remoteFunction (f : RemoteFunction)

/-- What an entity contributes: forward statements and their inverses. -/
def Part.changes : Part → List Change
  | table t => t.block.changes
  | policy p => p.block.changes
  | trigger t => t.block.changes
  | function f => f.block.changes
  | setting o s => (s.block o).changes
  | preference o p => p.setting?.toList.flatMap fun s => (s.block o).changes
  | bucket b => b.block.changes
  | remoteFunction f => f.block.changes

namespace ChangeRequest

/-- The entities in the order in which they are compiled. -/
def parts (r : ChangeRequest) : List Part :=
  let s := r.desiredState
  s.tables.map .table ++ s.policies.map .policy ++ s.triggers.map .trigger ++
    s.functions.map .function ++ s.authSettings.settings.map (.setting r.owner) ++
    s.apiSettings.settings.map (.setting r.owner) ++ s.preferences.map (.preference r.owner) ++
    s.buckets.map .bucket ++ s.remoteFunctions.map .remoteFunction

theorem changes_eq_parts (r : ChangeRequest) : r.changes = r.parts.flatMap Part.changes := by
  have hpreferences : ((r.desiredState.preferences.filterMap Preference.setting?).flatMap
      fun s => (s.block r.owner).changes) =
        r.desiredState.preferences.flatMap fun p => (Part.preference r.owner p).changes := by
    rw [List.filterMap_eq_flatMap_toList, List.flatMap_assoc]
    rfl
  simp only [changes, blocks, parts, settings, List.flatMap_append, List.flatMap_map,
    List.flatMap_singleton, hpreferences, List.append_assoc, List.map_append]
  rfl

end ChangeRequest

/-- A forward statement of an entity and what undoes it in the rollback. Both name the same object
by the same quoted names, which are those of the entity, or a function by its signature; a function
that has to be dropped by hand is named in a comment of one line. -/
inductive Undoes : Part → String → String → Prop where
  | table {t : Table} (definitions : String) :
      Undoes (.table t)
        s!"create table if not exists {quoteQualified (trim t.name)} (\n{definitions}\n);"
        s!"drop table if exists {quoteQualified (trim t.name)};"
  | column {t : Table} {c : Column} (hc : c ∈ t.namedColumns) (definition : String) :
      Undoes (.table t)
        (s!"alter table {quoteQualified (trim t.name)} add column if not exists " ++
          s!"{quoteIdentifier (trim c.name)} {definition}")
        (s!"alter table {quoteQualified (trim t.name)} drop column if exists " ++
          s!"{quoteIdentifier (trim c.name)};")
  | security {t : Table} :
      Undoes (.table t)
        s!"alter table {quoteQualified (trim t.name)} enable row level security;"
        s!"alter table {quoteQualified (trim t.name)} disable row level security;"
  | index {t : Table} {i : TableIndex} (hi : i ∈ t.indexes) {unique : String}
      (hu : unique = "" ∨ unique = "unique ") :
      Undoes (.table t)
        (s!"create {unique}index if not exists {quoteIdentifier (trim i.name)} on " ++
          s!"{quoteQualified (trim t.name)} ({trim i.expression});")
        s!"drop index if exists {schemaQualifier (trim t.name)}{quoteIdentifier (trim i.name)};"
  | policy {p : Policy} (clauses : String) :
      Undoes (.policy p)
        (s!"create policy {quoteIdentifier (trim p.name)} on " ++
          s!"{quoteQualified (trim p.table)} for {clauses}")
        (s!"drop policy if exists {quoteIdentifier (trim p.name)} on " ++
          s!"{quoteQualified (trim p.table)};")
  | trigger {t : Trigger} (timing events : String) :
      Undoes (.trigger t)
        (s!"create trigger {quoteIdentifier (trim t.name)} {timing} {events} on " ++
          s!"{quoteQualified (trim t.table)} " ++
          s!"for each row execute function {quoteQualified t.function}();")
        (s!"drop trigger if exists {quoteIdentifier (trim t.name)} on " ++
          s!"{quoteQualified (trim t.table)};")
  | function {f : Routine} (definition : String) :
      Undoes (.function f)
        s!"create or replace function {trim f.signature}\nreturns {definition}"
        s!"drop function if exists {trim f.signature};"
  | byHand {f : Routine} (definition reason : String) :
      Undoes (.function f)
        s!"create or replace function {trim f.signature}\nreturns {definition}"
        ("-- manual rollback required for function " ++
          Text.replaceChar '\n' " " (trim f.signature) ++ ": " ++ reason)

/-- The rollback has something that undoes the statement of an entity. -/
def Change.IsUndone (p : Part) (c : Change) : Prop :=
  ∃ back, c.inverse.sql? = some back ∧ Undoes p c.forward back

section Undoes

variable {p : Part} {forward back : String} {c : Change}

theorem upsert_inserts (u : Upsert) : ∃ rest, u.sql = "insert into " ++ rest := by
  unfold Upsert.sql
  simp only [String.append_assoc]
  exact ⟨_, rfl⟩

/-- What is undone creates or alters something, and inserts nothing. -/
theorem Undoes.not_upsert (h : Undoes p forward back) : ¬ ∃ u : Upsert, forward = u.sql := by
  have hf : forward.toList.head? = some 'c' ∨ forward.toList.head? = some 'a' := by
    cases h <;> simp [toString]
  rintro ⟨u, hu⟩
  obtain ⟨rest, hrest⟩ := upsert_inserts u
  simp [hu, hrest] at hf

theorem Change.IsUndone.inverse_ne_nothing (h : c.IsUndone p) : c.inverse ≠ .nothing := by
  obtain ⟨back, hb, -⟩ := h
  intro hn
  rw [hn] at hb
  cases hb

end Undoes

theorem isUndone_securityChange {t : Table} (ht : t.isCreated = false) :
    t.securityChange.IsUndone (.table t) := by
  rw [Table.securityChange, if_neg (by simp [ht])]
  exact ⟨_, rfl, .security⟩

/-- A text goes on where it is the beginning of another. -/
theorem exists_append {s head : String} (h : ∃ rest, s = head ++ rest) (t : String) :
    ∃ rest, s ++ t = head ++ rest := by
  obtain ⟨rest, rfl⟩ := h
  exact ⟨rest ++ t, String.append_assoc⟩

theorem isUndone_addColumnChange {t : Table} {c : Column} (hc : c ∈ t.namedColumns) :
    (t.addColumnChange c).IsUndone (.table t) := by
  obtain ⟨rest, hd⟩ : ∃ rest, c.definition = quoteIdentifier (trim c.name) ++ " " ++ rest :=
    exists_append (exists_append (exists_append (exists_append ⟨_, rfl⟩ _) _) _) _
  have hu := Undoes.column hc (rest ++ ";")
  refine ⟨_, rfl, ?_⟩
  simpa [Table.addColumnChange, Table.quoted, hd, toString, String.append_assoc] using hu

theorem nonBlank?_eq_some {s t : String} (h : nonBlank? s = some t) : t = trim s := by
  simp only [nonBlank?] at h
  split at h
  · cases h
  · exact (Option.some.inj h).symm

theorem isUndone_indexChange {t : Table} {i : TableIndex} {c : Change} (hi : i ∈ t.indexes)
    (h : t.indexChange? i = some c) : c.IsUndone (.table t) := by
  unfold Table.indexChange? at h
  split at h
  · rename_i name expression hname hexpression
    cases h
    obtain rfl := nonBlank?_eq_some hname
    obtain rfl := nonBlank?_eq_some hexpression
    have hu : (if i.unique then "unique " else "") = "" ∨
        (if i.unique then "unique " else "") = "unique " := by
      cases i.unique <;> simp
    have hindex := Undoes.index hi hu
    refine ⟨_, rfl, ?_⟩
    simpa [Table.quoted, toString, String.append_assoc] using hindex
  · cases h

theorem undoes_policy (p : Policy) : Undoes (.policy p) p.createSql p.dropSql := by
  obtain ⟨clauses, h⟩ : ∃ clauses : String, p.createSql =
      s!"create policy {quoteIdentifier (trim p.name)} on {quoteQualified (trim p.table)} for " ++
        clauses :=
    exists_append (exists_append (exists_append (exists_append ⟨_, rfl⟩ _) _) _) _
  have hu : Undoes (.policy p) _ _ := .policy clauses
  rw [h]
  unfold Policy.dropSql
  simpa [toString, String.append_assoc] using hu

theorem undoes_trigger (t : Trigger) : Undoes (.trigger t) t.createSql t.dropSql := by
  have hu : Undoes (.trigger t) _ _ := .trigger t.timing.sql
    (" OR ".intercalate (distinct (t.events.map TriggerEvent.sql)))
  unfold Trigger.createSql Trigger.dropSql
  simpa [toString, String.append_assoc] using hu

theorem isUndone_function (f : Routine) :
    (⟨f.createSql, f.inverse⟩ : Change).IsUndone (.function f) := by
  obtain ⟨definition, h⟩ : ∃ definition : String, f.createSql =
      s!"create or replace function {trim f.signature}\nreturns " ++ definition := by
    refine exists_append (exists_append (exists_append ?_ _) _) _
    exact exists_append (exists_append ⟨_, rfl⟩ _) _
  have hhand (reason : String) :
      (⟨f.createSql, .manual (trim f.signature) reason⟩ : Change).IsUndone (.function f) := by
    refine ⟨_, rfl, ?_⟩
    rw [h]
    exact .byHand definition reason
  simp only [Routine.inverse]
  split
  · exact hhand _
  split
  · exact hhand _
  · refine ⟨_, rfl, ?_⟩
    rw [h]
    exact .function definition

/-- The security of a table goes with the table where the table was created as well. -/
def Table.securitySql (t : Table) : String :=
  s!"alter table {quoteQualified (trim t.name)} enable row level security;"

/-- An entity that lacks what its statements need is passed over. -/
def Part.IsSkipped : Part → Prop
  | table t => nonBlank? t.name = none
  | policy p => nonBlank? p.table = none ∨ nonBlank? p.name = none
  | trigger t => nonBlank? t.table = none ∨ nonBlank? t.name = none ∨ t.events = []
  | function f => nonBlank? f.signature = none ∨ nonBlank? f.body = none
  | setting _ _ => False
  | preference _ p => nonBlank? p.key = none
  | bucket b => nonBlank? b.name = none
  | remoteFunction f => nonBlank? f.name = none

/-- The changes of one entity, by whether they have an inverse. Without one are the security of a
table that was created with it, the drop in front of the policy or trigger that takes its place,
and what overwrites the entity's own row. -/
inductive Contributes : Part → List Change → Prop where
  | created {t : Table} {definitions : String} {changes : List Change}
      (ht : t.isCreated = true)
      (hs : ∀ c ∈ changes, (c.inverse = .nothing ↔ c.forward = t.securitySql) ∧
        (c.inverse ≠ .nothing → c.IsUndone (.table t))) :
      Contributes (.table t)
        (⟨s!"create table if not exists {quoteQualified (trim t.name)} (\n{definitions}\n);",
          .statement s!"drop table if exists {quoteQualified (trim t.name)};"⟩ :: changes)
  | altered {t : Table} {changes : List Change} (ht : t.isCreated = false)
      (hs : ∀ c ∈ changes, c.IsUndone (.table t)) : Contributes (.table t) changes
  | policy {p : Policy} {drop create : String} (h : Undoes (.policy p) create drop) :
      Contributes (.policy p) [⟨drop, .nothing⟩, ⟨create, .statement drop⟩]
  | trigger {t : Trigger} {drop create : String} (h : Undoes (.trigger t) create drop) :
      Contributes (.trigger t) [⟨drop, .nothing⟩, ⟨create, .statement drop⟩]
  | function {f : Routine} {c : Change} (h : c.IsUndone (.function f)) :
      Contributes (.function f) [c]
  | setting {o : Owner} {s : Setting} : Contributes (.setting o s) [⟨(s.upsert o).sql, .nothing⟩]
  | preference {o : Owner} {p : Preference} {s : Setting} (hs : p.setting? = some s) :
      Contributes (.preference o p) [⟨(s.upsert o).sql, .nothing⟩]
  | bucket {b : Bucket} : Contributes (.bucket b) [⟨b.upsert.sql, .nothing⟩]
  | remoteFunction {f : RemoteFunction} :
      Contributes (.remoteFunction f) [⟨f.upsert.sql, .nothing⟩]

/-- An entity that is passed over has no changes, and every other those that it contributes. -/
inductive Paired (p : Part) (changes : List Change) : Prop where
  | skipped (hp : p.IsSkipped) (hn : changes = [])
  | contributed (hp : ¬ p.IsSkipped) (hc : Contributes p changes)

/-- An index is no matter of security. -/
theorem indexChange_forward_ne {t : Table} {i : TableIndex} {c : Change}
    (h : t.indexChange? i = some c) : c.forward ≠ t.securitySql := by
  intro he
  replace he := congrArg (fun s => s.toList.head?) he
  unfold Table.indexChange? at h
  split at h
  · cases h
    simp [Table.securitySql, toString] at he
  · cases h

theorem paired_table (t : Table) : Paired (.table t) t.block.changes := by
  have hindex : ∀ c ∈ t.indexes.filterMap t.indexChange?,
      c.IsUndone (.table t) ∧ c.forward ≠ t.securitySql := by
    intro c hc
    obtain ⟨i, hi, hchange⟩ := List.mem_filterMap.mp hc
    exact ⟨isUndone_indexChange hi hchange, indexChange_forward_ne hchange⟩
  have hsecurity {c : Change} (hc : c ∈ if t.rowLevelSecurity then [t.securityChange] else []) :
      c = t.securityChange := by
    split at hc
    · exact List.mem_singleton.mp hc
    · cases hc
  simp only [Table.block]
  split
  · rename_i hname
    exact .skipped (if_pos hname) rfl
  rename_i hname
  have hp : ¬ (Part.table t).IsSkipped := by simp [Part.IsSkipped, nonBlank?, hname]
  refine .contributed hp ?_
  cases ht : t.isCreated with
  | true =>
    refine .created ht ?_
    intro c hc
    rcases List.mem_append.mp hc with hc | hc
    · obtain rfl := hsecurity hc
      simp [Table.securityChange, ht, Table.securitySql, Table.quoted]
    · obtain ⟨hu, hne⟩ := hindex c hc
      exact ⟨iff_of_false hu.inverse_ne_nothing hne, fun _ => hu⟩
  | false =>
    refine .altered ht ?_
    intro c hc
    rcases List.mem_append.mp hc with hc | hc
    · rcases List.mem_append.mp hc with hc | hc
      · obtain ⟨column, hcolumn, rfl⟩ := List.mem_map.mp hc
        exact isUndone_addColumnChange hcolumn
      · obtain rfl := hsecurity hc
        exact isUndone_securityChange ht
    · exact (hindex c hc).1

/-- What is needed is there, or the entity is passed over. -/
theorem Part.paired (p : Part) : Paired p p.changes := by
  cases p with
  | table t => exact paired_table t
  | policy p =>
    simp only [changes, Policy.block]
    cases ht : nonBlank? p.table with
    | none => exact .skipped (.inl ht) rfl
    | some =>
      cases hn : nonBlank? p.name with
      | none => exact .skipped (.inr hn) rfl
      | some => exact .contributed (by simp [IsSkipped, ht, hn]) (.policy (undoes_policy p))
  | trigger t =>
    simp only [changes, Trigger.block]
    cases ht : nonBlank? t.table with
    | none => exact .skipped (.inl ht) rfl
    | some =>
      cases hn : nonBlank? t.name with
      | none => exact .skipped (.inr (.inl hn)) rfl
      | some =>
        dsimp only
        split
        · rename_i he
          exact .skipped (.inr (.inr (List.isEmpty_iff.mp he))) rfl
        · rename_i he
          have hp : ¬ (Part.trigger t).IsSkipped := by
            simpa [IsSkipped, ht, hn] using he
          exact .contributed hp (.trigger (undoes_trigger t))
  | function f =>
    simp only [changes, Routine.block]
    cases hs : nonBlank? f.signature with
    | none => exact .skipped (.inl hs) rfl
    | some =>
      cases hb : nonBlank? f.body with
      | none => exact .skipped (.inr hb) rfl
      | some => exact .contributed (by simp [IsSkipped, hs, hb]) (.function (isUndone_function f))
  | setting o s => exact .contributed id .setting
  | preference o p =>
    simp only [changes]
    cases hs : p.setting? with
    | none => exact .skipped (Option.map_eq_none_iff.mp hs) rfl
    | some s =>
      have hp : ¬ (Part.preference o p).IsSkipped := by
        intro hn
        rw [Preference.setting?, show nonBlank? p.key = none from hn] at hs
        cases hs
      exact .contributed hp (.preference hs)
  | bucket b =>
    simp only [changes, Bucket.block, upsertChange]
    cases hn : nonBlank? b.name with
    | none => exact .skipped hn rfl
    | some => exact .contributed (by simp [IsSkipped, hn]) .bucket
  | remoteFunction f =>
    simp only [changes, RemoteFunction.block, upsertChange]
    cases hn : nonBlank? f.name with
    | none => exact .skipped hn rfl
    | some => exact .contributed (by simp [IsSkipped, hn]) .remoteFunction

/-- An entity either leaves something to undo, or has done nothing but overwrite rows. -/
theorem Contributes.undone_or_upserts {p : Part} {changes : List Change}
    (h : Contributes p changes) :
    (∃ c ∈ changes, c.inverse ≠ .nothing ∧ ¬ ∃ u : Upsert, c.forward = u.sql) ∨
      ∀ c ∈ changes, c.inverse = .nothing ∧ ∃ u : Upsert, c.forward = u.sql := by
  have undone {c : Change} (hc : c ∈ changes) (hundone : c.IsUndone p) :
      ∃ c ∈ changes, c.inverse ≠ .nothing ∧ ¬ ∃ u : Upsert, c.forward = u.sql := by
    have hi := hundone.inverse_ne_nothing
    obtain ⟨_, -, hu⟩ := hundone
    exact ⟨c, hc, hi, hu.not_upsert⟩
  have overwritten (u : Upsert) : ∀ c ∈ [(⟨u.sql, .nothing⟩ : Change)],
      c.inverse = .nothing ∧ ∃ u : Upsert, c.forward = u.sql := by
    intro c hc
    obtain rfl := List.mem_singleton.mp hc
    exact ⟨rfl, u, rfl⟩
  cases h with
  | created => exact .inl (undone List.mem_cons_self ⟨_, rfl, .table _⟩)
  | altered _ hs =>
    cases changes with
    | nil => exact .inr nofun
    | cons c changes => exact .inl (undone List.mem_cons_self (hs c List.mem_cons_self))
  | policy h => exact .inl (undone (List.mem_cons_of_mem _ List.mem_cons_self) ⟨_, rfl, h⟩)
  | trigger h => exact .inl (undone (List.mem_cons_of_mem _ List.mem_cons_self) ⟨_, rfl, h⟩)
  | function h => exact .inl (undone List.mem_cons_self h)
  | setting => exact .inr (overwritten _)
  | preference => exact .inr (overwritten _)
  | bucket => exact .inr (overwritten _)
  | remoteFunction => exact .inr (overwritten _)

theorem Paired.nothing_iff_upserts {p : Part} {changes : List Change} (h : Paired p changes) :
    (∀ c ∈ changes, c.inverse = .nothing) ↔ ∀ c ∈ changes, ∃ u : Upsert, c.forward = u.sql := by
  cases h with
  | skipped _ hn =>
    subst hn
    exact iff_of_true nofun nofun
  | contributed _ h =>
    obtain ⟨c, hc, hi, hu⟩ | hall := h.undone_or_upserts
    · exact iff_of_false (fun hn => hi (hn c hc)) (fun hn => hu (hn c hc))
    · exact iff_of_true (fun c hc => (hall c hc).1) (fun c hc => (hall c hc).2)

theorem Inverse.sql?_eq_none_iff {i : Inverse} : i.sql? = none ↔ i = .nothing := by
  cases i <;> simp [sql?]

/-- A changeset is made of its entities, one after the other, and each of them contributes what it
would contribute anywhere. Its rollback undoes the same in reverse, and there is none exactly where
rows are overwritten and nothing else is done. -/
theorem ChangeRequest.compile_by_parts (r : ChangeRequest) :
    r.compile.sql = (r.parts.flatMap Part.changes).map Change.forward ∧
      r.compile.rollbackSql =
        ((r.parts.flatMap Part.changes).filterMap fun c => c.inverse.sql?).reverse ∧
      (∀ p, Paired p p.changes) ∧
      (r.compile.rollbackSql = [] ↔ ∀ s ∈ r.compile.sql, ∃ u : Upsert, s = u.sql) := by
  have hsql : r.compile.sql = (r.parts.flatMap Part.changes).map Change.forward :=
    congrArg (List.map Change.forward) r.changes_eq_parts
  have hrollback : r.compile.rollbackSql =
      ((r.parts.flatMap Part.changes).filterMap fun c => c.inverse.sql?).reverse := by
    rw [← r.changes_eq_parts]
    exact congrArg List.reverse List.filterMap_map
  refine ⟨hsql, hrollback, Part.paired, ?_⟩
  calc r.compile.rollbackSql = []
    _ ↔ ∀ p ∈ r.parts, ∀ c ∈ p.changes, c.inverse = .nothing := by
      simp only [hrollback, List.reverse_eq_nil_iff, List.filterMap_eq_nil_iff,
        List.forall_mem_flatMap, Inverse.sql?_eq_none_iff]
    _ ↔ ∀ p ∈ r.parts, ∀ c ∈ p.changes, ∃ u : Upsert, c.forward = u.sql :=
      forall₂_congr fun p _ => p.paired.nothing_iff_upserts
    _ ↔ ∀ s ∈ r.compile.sql, ∃ u : Upsert, s = u.sql := by
      simp only [hsql, List.forall_mem_map, List.forall_mem_flatMap]

end Evolution
