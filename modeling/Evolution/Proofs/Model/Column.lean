import Evolution.Changeset.Block
import Evolution.Model.Check
import Mathlib.Data.List.Forall2
import Mathlib.Data.List.Nodup

/-! What the check of columns guards. It compares names whatever their case, and statements name a
column by its quoted name, in which all but letters, digits and underscores of ASCII is lost. So two
columns of a table that passed can become one, but only where their names hold such characters. -/
namespace Evolution

open Sql
open Text (trim)

section check

variable {α : Type} {errors : α → Nat → List ModelError} {items : List α} {x : α} {c : Column}
  {columns : List Column} {seen : List String} {table position : Nat} {tableName : String}

theorem exists_errors_eq_nil (h : positionedErrors errors items = []) (hx : x ∈ items) :
    ∃ position, errors x position = [] := by
  rw [← List.zipIdx_map_fst 1 items] at hx
  obtain ⟨⟨_, position⟩, hp, rfl⟩ := List.mem_map.mp hx
  exact ⟨position, List.flatMap_eq_nil_iff.mp h _ hp⟩

/-- As long as nothing was reported, the columns pass where they have names and keys that are
new. -/
theorem columnErrors_eq_nil_iff :
    columnErrors table tableName position seen [] columns = [] ↔
      (∀ c ∈ columns, isBlankText c.name = false) ∧ (columns.map Column.key).Nodup ∧
        ∀ c ∈ columns, c.key ∉ seen := by
  induction columns generalizing position seen with
  | nil => simp [columnErrors]
  | cons c rest ih =>
    simp only [columnErrors, List.forall_mem_cons, List.map_cons, List.nodup_cons]
    by_cases hb : isBlankText c.name = true
    · simp [hb]
    by_cases hs : c.key ∈ seen
    · simp [hb, hs]
    -- what comes after is compared with this column too
    have hkeys : (∀ d ∈ rest, d.key ∉ c.key :: seen) ↔
        c.key ∉ rest.map Column.key ∧ ∀ d ∈ rest, d.key ∉ seen := by
      simp only [List.mem_cons, not_or, List.mem_map, not_exists, not_and]
      exact forall₂_and
    rw [if_neg hb, if_pos (by simpa using hs), ih, hkeys]
    simp only [Bool.not_eq_true] at hb
    constructor
    · rintro ⟨hn, hk, hc, hr⟩
      exact ⟨⟨hb, hn⟩, ⟨hc, hk⟩, hs, hr⟩
    · rintro ⟨⟨-, hn⟩, ⟨hc, hk⟩, -, hr⟩
      exact ⟨hn, hk, hc, hr⟩

/-- A table passes where it has a name, all its columns have, and no two of them have one key. -/
theorem Table.errors_eq_nil_iff {t : Table} :
    t.errors position = [] ↔ isBlankText t.name = false ∧
      (∀ c ∈ t.columns, isBlankText c.name = false) ∧ (t.columns.map Column.key).Nodup := by
  rw [errors, List.append_eq_nil_iff, columnErrors_eq_nil_iff]
  simp [isBlankText]

theorem Table.namedColumns_of_named {t : Table}
    (h : ∀ c ∈ t.columns, isBlankText c.name = false) : t.namedColumns = t.columns := by
  refine List.filter_eq_self.mpr fun c hc => ?_
  have hn : (trim c.name).isEmpty = false := h c hc
  rw [hn]
  rfl

end check

namespace Sql

/-- A character that becomes an underscore between quotes. -/
def fades (c : Char) : Bool :=
  c == '_' || !isNameChar c

/-- Names that differ at most where both become underscores. -/
def Blurred (s t : String) : Prop :=
  List.Forall₂ (fun a b => a = b ∨ fades a = true ∧ fades b = true) s.toList t.toList

variable {s t : String} {a b : Char}

theorem nameChar_eq_iff :
    (if isNameChar a then a else '_') = (if isNameChar b then b else '_') ↔
      a = b ∨ fades a = true ∧ fades b = true := by
  have hunderscore : isNameChar '_' = true := by decide
  unfold fades
  cases ha : isNameChar a <;> cases hb : isNameChar b <;> grind

theorem quoteIdentifier_inj_iff :
    quoteIdentifier s = quoteIdentifier t ↔ nameChars s.toList = nameChars t.toList := by
  simp [quoteIdentifier, String.ofList_inj]

theorem nameChars_of_ne_empty (hs : s ≠ "") :
    nameChars s.toList = s.toList.map fun c => if isNameChar c then c else '_' := by
  have hn : s.toList.isEmpty = false := by simpa using hs
  rw [nameChars, hn]
  rfl

theorem quoteIdentifier_eq_iff (hs : s ≠ "") (ht : t ≠ "") :
    quoteIdentifier s = quoteIdentifier t ↔ Blurred s t := by
  rw [quoteIdentifier_inj_iff, nameChars_of_ne_empty hs, nameChars_of_ne_empty ht,
    ← List.forall₂_eq_eq_eq, List.forall₂_map_left_iff, List.forall₂_map_right_iff]
  simp only [nameChar_eq_iff]
  rfl

/-- A name of letters, digits and underscores is kept. -/
theorem nameChars_of_plain (hs : s ≠ "") (h : s.toList.all isNameChar = true) :
    nameChars s.toList = s.toList := by
  rw [nameChars_of_ne_empty hs]
  refine (List.map_congr_left fun c hc => ?_).trans (List.map_id _)
  exact if_pos (List.all_eq_true.mp h c hc)

end Sql

namespace Column

variable {c d : Column}

/-- How statements name a column. -/
def quoted (c : Column) : String :=
  quoteIdentifier (trim c.name)

/-- The name is one that quoting keeps. -/
def isPlain (c : Column) : Bool :=
  (trim c.name).toList.all isNameChar

theorem trim_name_ne_empty (h : isBlankText c.name = false) : trim c.name ≠ "" := by
  rintro he
  rw [isBlankText, he] at h
  cases h

theorem definition_eq (c : Column) : ∃ rest, c.definition = c.quoted ++ " " ++ rest := by
  simp only [definition, quoted, String.append_assoc]
  exact ⟨_, rfl⟩

theorem key_eq_of_quoted_eq (hc : isBlankText c.name = false) (hd : isBlankText d.name = false)
    (hcp : c.isPlain = true) (hdp : d.isPlain = true) (h : c.quoted = d.quoted) :
    c.key = d.key := by
  have hchars := quoteIdentifier_inj_iff.mp h
  rw [nameChars_of_plain (trim_name_ne_empty hc) hcp,
    nameChars_of_plain (trim_name_ne_empty hd) hdp] at hchars
  rw [key, key, String.toList_inj.mp hchars]

end Column

/-- The column is added, and dropped on the way back, under its quoted name. -/
theorem Table.addColumnChange_inverse_eq_iff (t : Table) {c d : Column} :
    (t.addColumnChange c).inverse = (t.addColumnChange d).inverse ↔ c.quoted = d.quoted := by
  constructor
  · intro h
    simpa [addColumnChange, Column.quoted, toString] using h
  · intro h
    have hq : quoteIdentifier (trim c.name) = quoteIdentifier (trim d.name) := h
    simp only [addColumnChange, hq]

/-- In a desired state without errors all columns of a table are real, and no two of them have the
same name, whatever its case. Statements name each by its quoted name, and drop two of them as one
exactly where their names differ only in what quoting makes an underscore of. So those are told
apart whose names are of letters, digits and underscores alone. -/
theorem plain_columns_apart {s : DesiredState} {t : Table} (h : s.errors = []) (ht : t ∈ s.tables) :
    t.namedColumns = t.columns ∧
    (∀ c ∈ t.columns, ∃ rest, c.definition = c.quoted ++ " " ++ rest) ∧
    (t.columns.Pairwise fun c d => c.key ≠ d.key ∧
      (c.quoted = d.quoted ↔ Blurred (trim c.name) (trim d.name)) ∧
      ((t.addColumnChange c).inverse = (t.addColumnChange d).inverse ↔ c.quoted = d.quoted)) ∧
    ((t.namedColumns.filter Column.isPlain).map Column.quoted).Nodup := by
  simp only [DesiredState.errors, List.append_eq_nil_iff] at h
  obtain ⟨position, hp⟩ := exists_errors_eq_nil h.1.1.1 ht
  obtain ⟨-, hnamed, hkeys⟩ := Table.errors_eq_nil_iff.mp hp
  have hreal : t.namedColumns = t.columns := Table.namedColumns_of_named hnamed
  have hapart : t.columns.Pairwise fun c d => c.key ≠ d.key := List.pairwise_map.mp hkeys
  refine ⟨hreal, fun c _ => c.definition_eq, ?_, ?_⟩
  · refine hapart.imp_of_mem fun {c d} hc hd hkey => ⟨hkey, ?_, t.addColumnChange_inverse_eq_iff⟩
    exact quoteIdentifier_eq_iff (Column.trim_name_ne_empty (hnamed c hc))
      (Column.trim_name_ne_empty (hnamed d hd))
  · rw [hreal]
    refine List.pairwise_map.mpr ((hapart.filter _).imp_of_mem fun {c d} hc hd hkey hq => hkey ?_)
    obtain ⟨hct, hcp⟩ := List.mem_filter.mp hc
    obtain ⟨hdt, hdp⟩ := List.mem_filter.mp hd
    exact Column.key_eq_of_quoted_eq (hnamed c hct) (hnamed d hdt) hcp hdp hq

/-- A table with two columns that differ in a hyphen, and a third one. -/
def hyphenated : DesiredState where
  tables := [{ name := "t", columns := [{ name := "a-b" }, { name := "a_b" }, { name := " id" }] }]

/-- The first two become one column, the last two are told apart. -/
theorem plain_columns_apart_hyphenated :
    hyphenated.errors = [] ∧ ∃ t ∈ hyphenated.tables, t.namedColumns = t.columns ∧
      (∃ c ∈ t.columns, ∃ d ∈ t.columns, c.key ≠ d.key ∧ Blurred (trim c.name) (trim d.name) ∧
        (t.addColumnChange c).inverse = (t.addColumnChange d).inverse) ∧
      (t.namedColumns.filter Column.isPlain).map Column.quoted = ["\"a_b\"", "\"id\""] ∧
      ((t.namedColumns.filter Column.isPlain).map Column.quoted).Nodup := by
  have herrors : hyphenated.errors = [] := by decide +kernel
  obtain ⟨hreal, -, hpairs, hplain⟩ := plain_columns_apart herrors List.mem_cons_self
  have hpair := (List.pairwise_cons.mp hpairs).1 { name := "a_b" } List.mem_cons_self
  have hquoted : Column.quoted { name := "a-b" } = Column.quoted { name := "a_b" } := by
    decide +kernel
  refine ⟨herrors, _, List.mem_cons_self, hreal, ?_, by decide +kernel, hplain⟩
  exact ⟨_, List.mem_cons_self, _, List.mem_cons_of_mem _ List.mem_cons_self, hpair.1,
    hpair.2.1.mp hquoted, hpair.2.2.mpr hquoted⟩

/-- Two columns of a table can pass and become one. -/
theorem columns_not_apart :
    ¬ ∀ (s : DesiredState) (t : Table), s.errors = [] → t ∈ s.tables →
      (t.namedColumns.map Column.quoted).Nodup := by
  intro h
  have herrors : hyphenated.errors = [] := by decide +kernel
  have hn := h hyphenated _ herrors List.mem_cons_self
  revert hn
  decide +kernel

end Evolution
