import Evolution.Database.Batch
import Evolution.Proofs.Changeset.Checksum
import Evolution.Proofs.Sql.Phrase

/-! Statements that add a column. Whether one is taken to add a required column shows in the type of
the column as well; no other statement speaks of adding a column, unless a text does that is copied
into it. -/
namespace Evolution

open Sql
open Text (trim nonBlank? contains Lacks IsWall isWall_of_apart)
open Database (addsRequiredColumn)

section column

/-- The default of a column, if it has one. -/
def Column.default? (c : Column) : Option String :=
  c.defaultValue.bind nonBlank?

def Column.reference? (c : Column) : Option String :=
  (c.referencesTable.bind nonBlank?).map fun target =>
    "references " ++ quoteQualified target ++ ((c.referencesColumn.bind nonBlank?).map fun name =>
      " (" ++ quoteIdentifier name ++ ")").getD ""

/-- The clauses behind the type of a column, in their order. -/
def Column.clauses (c : Column) : List String :=
  (if c.nullable then [] else ["not null"]) ++ (if c.unique then ["unique"] else []) ++
    (c.default?.map ("default " ++ ·)).toList ++ c.reference?.toList

/-- Each text with a blank in front of it. -/
def spaced : List String → String
  | [] => ""
  | s :: rest => " " ++ s ++ spaced rest

def Column.typeText (c : Column) : String :=
  (nonBlank? c.dataType).getD "text"

/-- The type of a column with the blanks around it. -/
def Column.typeInPlace (c : Column) : String :=
  " " ++ c.typeText ++ if c.clauses.isEmpty then "" else " "

/-- The column may not be null, or its type says so. -/
def Column.isRequired (c : Column) : Bool :=
  !c.nullable || contains c.typeInPlace " not null"

/-- The column has a default, or its type says so. -/
def Column.hasDefault (c : Column) : Bool :=
  c.default?.isSome || contains c.typeInPlace " default "

variable {c : Column} {t : Table} {q : String}

theorem spaced_append (ss ts : List String) : spaced (ss ++ ts) = spaced ss ++ spaced ts := by
  induction ss with
  | nil => rw [spaced, List.nil_append, String.empty_append]
  | cons s ss ih => simp only [List.cons_append, spaced, ih, String.append_assoc]

theorem spaced_singleton (s : String) : spaced [s] = " " ++ s := by
  rw [spaced, spaced, String.append_empty]

theorem Column.definition_eq_clauses (c : Column) :
    c.definition = quoteIdentifier (trim c.name) ++ (" " ++ c.typeText) ++ spaced c.clauses := by
  have hnull : (if c.nullable then "" else " not null") =
      spaced (if c.nullable then [] else ["not null"]) := by
    cases c.nullable <;> decide
  have hunique : (if c.unique then " unique" else "") =
      spaced (if c.unique then ["unique"] else []) := by
    cases c.unique <;> decide
  have hdefault : (c.default?.map (" default " ++ ·)).getD "" =
      spaced (c.default?.map ("default " ++ ·)).toList := by
    cases c.default? with
    | none => rfl
    | some value =>
      have hblank : " default " = " " ++ "default " := by decide
      dsimp only [Option.map_some, Option.getD_some, Option.toList_some]
      rw [spaced_singleton, hblank, String.append_assoc]
  have hreference (target column : String) : " references " ++ target ++ column =
      spaced ["references " ++ target ++ column] := by
    have hblank : " references " = " " ++ "references " := by decide
    rw [spaced_singleton, hblank, String.append_assoc, String.append_assoc, String.append_assoc]
  have happend (name type notNull unique value reference : String) :
      name ++ " " ++ type ++ notNull ++ unique ++ value ++ reference =
        name ++ (" " ++ type) ++ (notNull ++ unique ++ value ++ reference) := by
    simp only [String.append_assoc]
  unfold definition
  rw [clauses, spaced_append, spaced_append, spaced_append, ← hnull, ← hunique, ← hdefault]
  unfold reference?
  cases c.referencesTable.bind nonBlank? with
  | none => exact happend _ _ _ _ _ _
  | some target =>
    dsimp only [Option.map_some, Option.toList_some]
    rw [← hreference]
    exact happend _ _ _ _ _ _

/-- Behind walls a phrase reaches at most to the blank in front of the first of them. -/
theorem contains_spaced_iff (hq : IsPhrase q) {clauses : List String} {front : String}
    (h : ∀ s ∈ clauses, IsWall q s) :
    contains (front ++ spaced clauses ++ ";") q = true ↔
      contains (front ++ if clauses.isEmpty then "" else " ") q = true := by
  have hend : IsWall q ";" := hq.isWall_mark rfl (by decide) (by decide)
  have hrest (clauses : List String) (h : ∀ s ∈ clauses, IsWall q s) :
      Lacks q (spaced clauses ++ ";") := by
    induction clauses with
    | nil => exact (Text.lacks_empty hq.ne_empty).wall hend
    | cons s clauses ih =>
      obtain ⟨hs, hclauses⟩ := List.forall_mem_cons.mp h
      rw [spaced, String.append_assoc]
      exact hq.lacks_blank.walled hs (ih hclauses)
  cases clauses with
  | nil =>
    rw [spaced, List.isEmpty_nil, if_pos rfl, String.append_empty]
    constructor
    · intro hc
      have hc : contains (front ++ ";" ++ "") q = true := by rwa [String.append_empty]
      exact (hend _ _ hc).resolve_right (Text.lacks_iff.mp (Text.lacks_empty hq.ne_empty))
    · exact fun hc => Text.contains_append_left hc _
  | cons s clauses =>
    obtain ⟨hs, hclauses⟩ := List.forall_mem_cons.mp h
    have hassoc : front ++ spaced (s :: clauses) ++ ";" =
        front ++ " " ++ s ++ (spaced clauses ++ ";") := by
      simp only [spaced, String.append_assoc]
    rw [hassoc, List.isEmpty_cons, if_neg Bool.false_ne_true]
    constructor
    · exact fun hc => (hs _ _ hc).resolve_right (Text.lacks_iff.mp (hrest clauses hclauses))
    · exact fun hc => Text.contains_append_left (Text.contains_append_left hc _) _

theorem isWall_reference (hq : IsPhrase q) (hr : IsWall q "references") :
    ∀ s ∈ c.reference?, IsWall q s := by
  intro s hs
  obtain ⟨target, -, rfl⟩ := Option.map_eq_some_iff.mp hs
  have hblank : "references " = "references" ++ " " := by decide
  have htarget : IsWall q ("references " ++ quoteQualified target) := by
    rw [hblank]
    exact hr.between hq.lacks_blank (isWall_quoteQualified hq target)
  cases c.referencesColumn.bind nonBlank? with
  | none => rwa [Option.map_none, Option.getD_none, String.append_empty]
  | some name =>
    have hopen : " (" = " " ++ "(" := by decide
    have hparenthesis : IsWall q "(" := hq.isWall_mark rfl (by decide) (by decide)
    have hend : IsWall q ")" := hq.isWall_mark rfl (by decide) (by decide)
    rw [Option.map_some, Option.getD_some, hopen, ← String.append_assoc, ← String.append_assoc,
      ← String.append_assoc]
    exact ((htarget.between hq.lacks_blank hparenthesis).append hq.ne_empty
      (isWall_quoteIdentifier hq name)).append hq.ne_empty hend

/-- Where a phrase reaches into none of the clauses, it is looked for in the type alone. -/
theorem contains_forward_iff (hq : IsPhrase q) (ha : Lacks q "alter table ")
    (hc : Lacks q " add column if not exists ") (h : ∀ s ∈ c.clauses, IsWall q s) :
    contains (t.addColumnChange c).forward q = true ↔ contains c.typeInPlace q = true := by
  have hforward : (t.addColumnChange c).forward =
      "alter table " ++ t.quoted ++ " add column if not exists " ++ quoteIdentifier (trim c.name) ++
        (" " ++ c.typeText ++ spaced c.clauses ++ ";") := by
    unfold Table.addColumnChange
    rw [c.definition_eq_clauses]
    simp only [toString, String.append_assoc]
  have hfront : Lacks q ("alter table " ++ t.quoted ++ " add column if not exists ") :=
    ha.walled (isWall_quoteQualified hq _) hc
  rw [hforward, Column.typeInPlace, ← contains_spaced_iff hq h]
  constructor
  · exact fun hc => (isWall_quoteIdentifier hq _ _ _ hc).resolve_left (Text.lacks_iff.mp hfront)
  · exact fun hc => Text.contains_append_right _ hc

theorem contains_spaced_of_mem {clauses : List String} {s : String} (hs : s ∈ clauses)
    (h : contains (" " ++ s) q = true) : contains (spaced clauses) q = true := by
  induction clauses with
  | nil => cases hs
  | cons r clauses ih =>
    obtain rfl | hs := List.mem_cons.mp hs
    · exact Text.contains_append_left h _
    · exact Text.contains_append_right _ (ih hs)

theorem contains_forward_of_clause {s : String} (hs : s ∈ c.clauses)
    (h : contains (" " ++ s) q = true) : contains (t.addColumnChange c).forward q = true := by
  have hdefinition : contains c.definition q = true := by
    rw [c.definition_eq_clauses]
    exact Text.contains_append_right _ (contains_spaced_of_mem hs h)
  exact Text.contains_append_left (Text.contains_append_right _ hdefinition) _

theorem isPhrase_not_null : IsPhrase " not null" := by
  decide

theorem isPhrase_default : IsPhrase " default " := by
  decide

/-- The clauses of a column without a default. -/
theorem mem_clauses {s : String} (hd : c.default? = none) (hs : s ∈ c.clauses) :
    (s = "not null" ∧ c.nullable = false) ∨ s = "unique" ∨ c.reference? = some s := by
  simp only [Column.clauses, hd, Option.map_none, Option.toList_none, List.append_nil,
    List.mem_append, Option.mem_toList] at hs
  obtain (hs | hs) | hs := hs
  · split at hs
    · cases hs
    · rename_i hn
      exact .inl ⟨List.mem_singleton.mp hs, Bool.not_eq_true _ ▸ hn⟩
  · split at hs
    · exact .inr (.inl (List.mem_singleton.mp hs))
    · cases hs
  · exact .inr (.inr hs)

theorem contains_not_null_iff (hd : c.default? = none) :
    contains (t.addColumnChange c).forward " not null" = c.isRequired := by
  cases hn : c.nullable with
  | false =>
    have hs : "not null" ∈ c.clauses := by simp [Column.clauses, hn]
    have hblank : contains (" " ++ "not null") " not null" = true := by decide
    rw [contains_forward_of_clause hs hblank, Column.isRequired, hn]
    rfl
  | true =>
    have hwalls : ∀ s ∈ c.clauses, IsWall " not null" s := by
      intro s hs
      obtain ⟨-, hf⟩ | rfl | hr := mem_clauses hd hs
      · rw [hn] at hf
        cases hf
      · exact isWall_of_apart (by decide)
      · exact isWall_reference isPhrase_not_null (isWall_of_apart (by decide)) s hr
    rw [Column.isRequired, hn, Bool.not_true, Bool.false_or, Bool.eq_iff_iff]
    exact contains_forward_iff isPhrase_not_null (by decide) (by decide) hwalls

theorem contains_default_iff :
    contains (t.addColumnChange c).forward " default " = c.hasDefault := by
  cases hd : c.default? with
  | some value =>
    have hs : "default " ++ value ∈ c.clauses := by simp [Column.clauses, hd]
    have hblank : contains (" " ++ ("default " ++ value)) " default " = true := by
      rw [← String.append_assoc]
      exact Text.contains_append_left (by decide) value
    rw [contains_forward_of_clause hs hblank, Column.hasDefault, hd]
    rfl
  | none =>
    have hwalls : ∀ s ∈ c.clauses, IsWall " default " s := by
      intro s hs
      obtain ⟨rfl, -⟩ | rfl | hr := mem_clauses hd hs
      · exact isWall_of_apart (by decide)
      · exact isWall_of_apart (by decide)
      · exact isWall_reference isPhrase_default (isWall_of_apart (by decide)) s hr
    rw [Column.hasDefault, hd, Option.isSome_none, Bool.false_or, Bool.eq_iff_iff]
    exact contains_forward_iff isPhrase_default (by decide) (by decide) hwalls

/-- What is taken for the addition of a required column. -/
theorem addsRequiredColumn_addColumnChange (t : Table) (c : Column) :
    addsRequiredColumn (t.addColumnChange c).forward = (c.isRequired && !c.hasDefault) := by
  have hadd : contains (t.addColumnChange c).forward " add column " = true := by
    have hwords : contains " add column if not exists " " add column " = true := by decide
    exact Text.contains_append_left
      (Text.contains_append_left (Text.contains_append_right _ hwords) _) _
  rw [addsRequiredColumn, hadd, Bool.true_and, contains_default_iff]
  cases hd : c.default? with
  | some value => simp [Column.hasDefault, hd]
  | none => rw [contains_not_null_iff hd]

end column
end Evolution
