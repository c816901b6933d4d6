import Evolution.Proofs.Changeset.Omission
import Evolution.Proofs.Changeset.Order
import Evolution.Proofs.Changeset.Statement
import Evolution.Proofs.Sql.Reference

/-! Indexes on the way back. The statement that creates an index names its table with the schema,
and the index without: it is where its table is. So the statement that drops it has to name the
schema itself. -/
namespace Evolution

open Text (trim nonBlank?)

namespace Sql

/-- The index that a statement creates, and the table that it is for. -/
def readIndexCreation? (statement : String) : Option (String × Reference) := do
  let cs ← readWord? "create ".toList statement.toList
  let cs ← readWord? "index if not exists ".toList
    ((readWord? "unique ".toList cs).getD cs)
  let (index, cs) ← readQuotedName? cs
  let cs ← readWord? " on ".toList cs
  let (table, cs) ← readReference? cs
  let _ ← readWord? " (".toList cs
  some (index, table)

/-- The index that a statement drops. -/
def readIndexDrop? (statement : String) : Option Reference := do
  let cs ← readWord? "drop index if exists ".toList statement.toList
  let (index, cs) ← readReference? cs
  if cs = [';'] then some index else none

variable {statement index : String} {table : Reference}

/-- One letter tells the creation of an index from that of anything else. -/
theorem take_of_readIndexCreation?
    (h : readIndexCreation? statement = some (index, table)) :
    statement.toList.take 8 = "create u".toList ∨ statement.toList.take 8 = "create i".toList := by
  obtain ⟨cs, hcreate, h⟩ := Option.bind_eq_some_iff.mp h
  obtain ⟨behind, hindex, -⟩ := Option.bind_eq_some_iff.mp h
  rw [readWord?_eq_some.mp hcreate]
  cases hunique : readWord? "unique ".toList cs with
  | some ds =>
    rw [readWord?_eq_some.mp hunique]
    exact .inl rfl
  | none =>
    rw [hunique, Option.getD_none] at hindex
    rw [readWord?_eq_some.mp hindex]
    exact .inr rfl

theorem head?_of_readIndexCreation? (h : readIndexCreation? statement = some (index, table)) :
    statement.toList.head? = some 'c' := by
  have hhead : (statement.toList.take 8).head? = some 'c' := by
    rcases take_of_readIndexCreation? h with h | h <;> rw [h] <;> rfl
  rwa [List.head?_take] at hhead

theorem readIndexCreation?_index {unique : String} (hu : unique = "" ∨ unique = "unique ")
    (table name expression : String) :
    readIndexCreation? (s!"create {unique}index if not exists {quoteIdentifier name} on " ++
      s!"{quoteQualified table} ({expression});") = some (clean name, reference table) := by
  have hchars : (s!"create {unique}index if not exists {quoteIdentifier name} on " ++
      s!"{quoteQualified table} ({expression});").toList =
        "create ".toList ++ (unique.toList ++ ("index if not exists ".toList ++
          ((inQuotes (clean name)).toList ++ (" on ".toList ++ ((reference table).text.toList ++
            (" (".toList ++ (expression ++ ");").toList)))))) := by
    simp [quoteIdentifier_eq, quoteQualified_eq, toString]
  have hunique (cs : List Char) (hc : cs.head? ≠ some 'u') :
      (readWord? "unique ".toList (unique.toList ++ cs)).getD (unique.toList ++ cs) = cs := by
    rcases hu with rfl | rfl
    · exact congrArg (Option.getD · cs) (readWord?_eq_none rfl hc)
    · rw [readWord?_append, Option.getD_some]
  have htable (cs : List Char) :
      readReference? ((reference table).text.toList ++ (" (".toList ++ cs)) =
        some (reference table, " (".toList ++ cs) :=
    readReference?_text (isPlain_reference table) (by simp)
  rw [readIndexCreation?, hchars, readWord?_append]
  simp only [Option.bind_eq_bind, Option.bind_some]
  rw [hunique _ (head?_append_ne rfl (by decide)), readWord?_append]
  simp only [Option.bind_some, readQuotedName?_inQuotes (isName_clean name), readWord?_append,
    htable]

theorem readIndexDrop?_index (table name : String) :
    readIndexDrop? s!"drop index if exists {schemaQualifier table}{quoteIdentifier name};" =
      some ⟨(reference table).schema, clean name⟩ := by
  let index : Reference := ⟨(reference table).schema, clean name⟩
  have hplain : index.IsPlain := ⟨(isPlain_reference table).schema, isName_clean name⟩
  have hchars : (s!"drop index if exists {schemaQualifier table}{quoteIdentifier name};").toList =
      "drop index if exists ".toList ++ (index.text.toList ++ [';']) := by
    rw [← schemaQualifier_append]
    simp [quoteIdentifier_eq, toString]
  have hindex : readReference? (index.text.toList ++ [';']) = some (index, [';']) :=
    readReference?_text hplain (by decide)
  rw [readIndexDrop?, hchars, readWord?_append]
  simp only [Option.bind_eq_bind, Option.bind_some, hindex]
  exact if_pos trivial

end Sql

open Sql

section undoing

variable {p : Part} {c : Change} {forward back index : String} {table : Reference}

/-- What creates an index is undone by what drops it, in the schema of its table. -/
theorem Undoes.drops_index (h : Undoes p forward back)
    (hi : readIndexCreation? forward = some (index, table)) :
    readIndexDrop? back = some ⟨table.schema, index⟩ := by
  cases h with
  | index _ hu =>
    have hread := (readIndexCreation?_index hu _ _ _).symm.trans hi
    obtain ⟨rfl, rfl⟩ := Prod.mk.inj (Option.some.inj hread)
    exact readIndexDrop?_index _ _
  | _ =>
    have htake := take_of_readIndexCreation? hi
    simp [toString] at htake

/-- A comment drops no index. -/
theorem readIndexDrop?_placeholder (object reason : String) :
    readIndexDrop? (Inverse.placeholder object reason) = none := by
  unfold readIndexDrop? Inverse.placeholder
  rw [readWord?_eq_none (c := 'd') rfl (by simp)]
  rfl

theorem Change.IsUndone.drops_index (h : c.IsUndone p)
    (hi : readIndexCreation? c.forward = some (index, table)) :
    ∃ drop, c.inverse = .statement drop ∧ readIndexDrop? drop = some ⟨table.schema, index⟩ := by
  obtain ⟨back, hb, hu⟩ := h
  have hread := hu.drops_index hi
  cases hinverse : c.inverse with
  | nothing =>
    rw [hinverse] at hb
    cases hb
  | statement drop =>
    rw [hinverse] at hb
    cases hb
    exact ⟨_, rfl, hread⟩
  | manual object reason =>
    rw [hinverse] at hb
    cases hb
    rw [readIndexDrop?_placeholder] at hread
    cases hread

end undoing

/-- An index of a table that has a name is created if it has a name and an expression itself. -/
theorem Table.creates_index {t : Table} {i : TableIndex} {name expression : String}
    (ht : isBlankText t.name = false) (hi : i ∈ t.indexes) (hn : nonBlank? i.name = some name)
    (he : nonBlank? i.expression = some expression) :
    ∃ c ∈ (Part.table t).changes,
      readIndexCreation? c.forward = some (clean name, reference (trim t.name)) := by
  obtain ⟨c, hc, hread⟩ : ∃ c, t.indexChange? i = some c ∧
      readIndexCreation? c.forward = some (clean name, reference (trim t.name)) := by
    rw [indexChange?, hn, he]
    refine ⟨_, rfl, ?_⟩
    have hu : (if i.unique then "unique " else "") = "" ∨
        (if i.unique then "unique " else "") = "unique " := by
      cases i.unique <;> simp
    have hread := readIndexCreation?_index hu (trim t.name) name expression
    simpa [quoted, toString, String.append_assoc] using hread
  refine ⟨c, ?_, hread⟩
  rw [Part.changes, block_changes ht]
  exact List.mem_append_right _ (List.mem_filterMap.mpr ⟨i, hi, hc⟩)

namespace ChangeRequest

/-- A quoted name is of ASCII letters, digits and underscores, one for each character and at least
one. A name that may carry its schema becomes one quoted name or two with a dot between them, two
exactly where there is something on both sides of its first dot, and in front of the last one stands
the qualifier by which the schema is named elsewhere. So every statement that creates an index has
its undoing in the rollback, which drops what it has created, in the schema of the table; and there
is such a statement for every index that asks for one. -/
theorem index_drops_keep_schema (r : ChangeRequest) (s : String) :
    (∃ name, quoteIdentifier s = inQuotes name ∧ IsName name ∧ name.length = max 1 s.length ∧
      (s = "" → name = "_")) ∧
    (∃ referred : Reference, quoteQualified s = referred.text ∧ referred.IsPlain ∧
      (referred.schema ≠ none ↔ ∃ schema object, Splits s schema object)) ∧
    (∃ name, quoteQualified s = schemaQualifier s ++ inQuotes name ∧ IsName name) ∧
    (∀ c ∈ r.changes, ∀ index table, readIndexCreation? c.forward = some (index, table) →
      ∃ drop ∈ r.compile.rollbackSql, c.inverse = .statement drop ∧
        readIndexDrop? drop = some ⟨table.schema, index⟩) ∧
    ∀ t ∈ r.desiredState.tables, isBlankText t.name = false → ∀ i ∈ t.indexes,
      ∀ name expression, nonBlank? i.name = some name → nonBlank? i.expression = some expression →
        ∃ c ∈ r.changes,
          readIndexCreation? c.forward = some (clean name, reference (trim t.name)) := by
  refine ⟨?name, ?qualified, ?qualifier, ?dropped, ?created⟩
  case name =>
    refine ⟨clean s, quoteIdentifier_eq s, isName_clean s, length_clean s, ?_⟩
    rintro rfl
    rfl
  case qualified =>
    exact ⟨reference s, quoteQualified_eq s, isPlain_reference s, schema_reference_ne_none_iff⟩
  case qualifier =>
    exact ⟨(reference s).name, quoteQualified_eq_append s, (isPlain_reference s).name⟩
  case dropped =>
    intro c hc index table hread
    obtain ⟨p, -, hp⟩ := List.mem_flatMap.mp (r.changes_eq_parts ▸ hc)
    obtain hu | ⟨-, hhead⟩ := p.undone_or_head hp
    · obtain ⟨drop, hdrop, hindex⟩ := hu.drops_index hread
      refine ⟨drop, ?_, hdrop, hindex⟩
      rw [rollbackSql_eq, List.mem_reverse, List.mem_filterMap]
      exact ⟨c, hc, by rw [hdrop]; rfl⟩
    · exact absurd (head?_of_readIndexCreation? hread) hhead
  case created =>
    intro t ht hname i hi name expression hn he
    obtain ⟨c, hc, hread⟩ := Table.creates_index hname hi hn he
    have hp : Part.table t ∈ r.parts := by simp [parts, ht]
    refine ⟨c, ?_, hread⟩
    rw [changes_eq_parts]
    exact List.mem_flatMap.mpr ⟨_, hp, hc⟩

/-- An index on a table with a schema, and one on a table with nothing in front of its dot. -/
def indexed : ChangeRequest where
  desiredState := {
    tables := [
      { name := " app.notes.old", indexes := [
        { name := "by day", expression := "day", unique := true }] },
      { name := ".tags", indexes := [{ name := "by_name", expression := "name" }] }] }

/-- The first index is dropped in its schema, and the second one without any. -/
theorem index_drops_keep_schema_indexed :
    (∃ c ∈ indexed.changes, ∃ drop ∈ indexed.compile.rollbackSql,
      readIndexCreation? c.forward = some ("by_day", ⟨some "app", "notes_old"⟩) ∧
        readIndexDrop? drop = some ⟨some "app", "by_day"⟩) ∧
    ∃ c ∈ indexed.changes, ∃ drop ∈ indexed.compile.rollbackSql,
      readIndexCreation? c.forward = some ("by_name", ⟨none, "_tags"⟩) ∧
        readIndexDrop? drop = some ⟨none, "by_name"⟩ := by
  obtain ⟨-, -, -, hdropped, hcreated⟩ := index_drops_keep_schema indexed ""
  have hundone {index : String} {table : Reference}
      (h : ∃ c ∈ indexed.changes, readIndexCreation? c.forward = some (index, table)) :
      ∃ c ∈ indexed.changes, ∃ drop ∈ indexed.compile.rollbackSql,
        readIndexCreation? c.forward = some (index, table) ∧
          readIndexDrop? drop = some ⟨table.schema, index⟩ := by
    obtain ⟨c, hc, hread⟩ := h
    obtain ⟨drop, hdrop, -, hindex⟩ := hdropped c hc index table hread
    exact ⟨c, hc, drop, hdrop, hread, hindex⟩
  have hday : (clean "by day", reference (trim " app.notes.old")) =
      ("by_day", (⟨some "app", "notes_old"⟩ : Reference)) := by decide +kernel
  have hname : (clean "by_name", reference (trim ".tags")) =
      ("by_name", (⟨none, "_tags"⟩ : Reference)) := by decide +kernel
  constructor
  · refine hundone (hday ▸ hcreated _ List.mem_cons_self ?_ _ List.mem_cons_self "by day" "day"
      ?_ ?_) <;> decide +kernel
  · refine hundone (hname ▸ hcreated _ (List.mem_cons_of_mem _ List.mem_cons_self) ?_ _
      List.mem_cons_self "by_name" "name" ?_ ?_) <;> decide +kernel

end ChangeRequest
end Evolution
