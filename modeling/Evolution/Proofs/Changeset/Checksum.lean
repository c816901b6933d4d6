import Evolution.Proofs.Changeset.Line
import Evolution.Proofs.Changeset.Statement
import Evolution.Proofs.Json.Numeral
import Evolution.Proofs.Sql.Reference

/-! What the checksum of a changeset tells of its statements. It is taken of all of them, each
closed by a line break. A text that stands in a statement outside quotes may hold line breaks and
look like the end of the statement and the beginning of another; nothing else can. -/
namespace Evolution

open Sql
open Text (trim nonBlank?)

/-- The text is a part of one line. -/
def OneLine (s : String) : Prop :=
  '\n' ∉ s.toList

section OneLine

variable {s t : String}

@[simp]
theorem oneLine_append : OneLine (s ++ t) ↔ OneLine s ∧ OneLine t := by
  simp [OneLine]

instance (s : String) : Decidable (OneLine s) :=
  inferInstanceAs (Decidable ('\n' ∉ s.toList))

theorem oneLine_intercalate {items : List String} (hs : OneLine s) (h : ∀ i ∈ items, OneLine i) :
    OneLine (s.intercalate items) := by
  induction items with
  | nil => simp [OneLine]
  | cons i items ih =>
    obtain ⟨hi, h⟩ := List.forall_mem_cons.mp h
    cases items with
    | nil => simpa using hi
    | cons j items =>
      rw [String.intercalate_cons_cons]
      simp [hs, hi, ih h]

@[simp]
theorem oneLine_quoteIdentifier (name : String) : OneLine (quoteIdentifier name) := by
  have hname : OneLine (clean name) := by
    intro hn
    have hnewline : isNameChar '\n' = true := List.all_eq_true.mp (isName_clean name).2 _ hn
    cases hnewline
  have hquote : OneLine "\"" := by decide
  rw [quoteIdentifier_eq, inQuotes]
  simp only [oneLine_append, hname, hquote, and_self]

@[simp]
theorem oneLine_quoteQualified (name : String) : OneLine (quoteQualified name) := by
  unfold quoteQualified
  split
  · simp only [oneLine_append, oneLine_quoteIdentifier]
    decide
  · simp

@[simp]
theorem oneLine_schemaQualifier (name : String) : OneLine (schemaQualifier name) := by
  unfold schemaQualifier
  split
  · simp only [oneLine_append, oneLine_quoteIdentifier]
    decide
  · decide

theorem oneLine_ite (b : Bool) (h : OneLine s) : OneLine (if b then s else "") := by
  cases b
  · simp [OneLine]
  · exact h

/-- A clause that may be missing. -/
theorem oneLine_clause {α : Type} {clause : Option α} {text : α → String}
    (h : ∀ a ∈ clause, OneLine (text a)) : OneLine ((clause.map text).getD "") := by
  cases clause with
  | none => simp [OneLine]
  | some a => exact h a rfl

theorem distinct_subset (texts : List String) : distinct texts ⊆ texts := by
  have hfold (kept : List String) :
      texts.foldl (fun kept t => if kept.contains t then kept else kept ++ [t]) kept ⊆
        kept ++ texts := by
    induction texts generalizing kept with
    | nil => simp
    | cons t texts ih =>
      refine List.Subset.trans (ih _) ?_
      dsimp only
      split <;> simp
  exact hfold []

theorem oneLine_nonBlank? (hs : OneLine (trim s)) (ht : OneLine t) :
    OneLine ((nonBlank? s).getD t) := by
  cases h : nonBlank? s with
  | none => exact ht
  | some text =>
    rw [nonBlank?_eq_some h]
    exact hs

end OneLine

/-- The texts of a column that stand in a statement outside quotes. -/
def Column.bareTexts (c : Column) : List String :=
  (c.dataType :: c.defaultValue.toList).map trim

/-- The texts of an entity that stand in its statements outside quotes, and outside the tags of a
body. -/
def Part.bareTexts : Part → List String
  | table t =>
    t.namedColumns.flatMap Column.bareTexts ++ t.indexes.map fun i => trim i.expression
  | policy p => [trim p.usingExpr, trim p.checkExpr]
  | function f => [trim f.signature, trim f.returns]
  | _ => []

def ChangeRequest.bareTexts (r : ChangeRequest) : List String :=
  r.parts.flatMap Part.bareTexts

/-- The forward statement is laid out in one of the four ways, and what undoes it is one line. -/
structure Change.Readable (c : Change) : Prop where
  forward : ∃ l, LaidOut l c.forward.toList
  inverse : ∀ s ∈ c.inverse.sql?, OneLine s

section line

variable {s t : String}

theorem Starts.append_text (h : Starts s.toList) (t : String) : Starts (s ++ t).toList :=
  String.toList_append ▸ h.append t.toList

theorem IsStatement.laidOut_line (h : IsStatement s) (hs : Starts s.toList) (hn : OneLine s) :
    ∃ l, LaidOut l s.toList :=
  ⟨.line, .line hs hn h.ends⟩

theorem oneLine_definition {c : Column} (h : ∀ text ∈ c.bareTexts, OneLine text) :
    OneLine c.definition := by
  obtain ⟨hd, hv⟩ := List.forall_mem_cons.mp h
  have htype : OneLine ((nonBlank? c.dataType).getD "text") := oneLine_nonBlank? hd (by decide)
  have hdefault : OneLine (((c.defaultValue.bind nonBlank?).map (" default " ++ ·)).getD "") := by
    refine oneLine_clause fun text ht => ?_
    obtain ⟨value, hvalue, ht⟩ := Option.bind_eq_some_iff.mp ht
    rw [oneLine_append, nonBlank?_eq_some ht]
    exact ⟨by decide, hv (trim value) (List.mem_map_of_mem (by simp [hvalue]))⟩
  have hcolumn (column : Option String) :
      OneLine ((column.map fun name => " (" ++ quoteIdentifier name ++ ")").getD "") :=
    oneLine_clause fun name _ => by simp +decide
  simp only [Column.definition, oneLine_append, oneLine_quoteIdentifier, htype, hdefault, true_and,
    and_true]
  refine ⟨⟨⟨by decide, ?_⟩, oneLine_ite _ (by decide)⟩, ?_⟩
  · cases c.nullable <;> decide
  · split
    · decide
    · simp only [oneLine_append, oneLine_quoteQualified, hcolumn, and_true]
      decide

theorem readable_addColumnChange {t : Table} {c : Column} (h : OneLine c.definition) :
    (t.addColumnChange c).Readable := by
  have hs : Starts "alter table ".toList := ⟨'a', rfl, by decide⟩
  constructor
  · refine (stated_addColumnChange t c).forward.laidOut_line ?_ ?_
    · exact (((hs.append_text _).append_text _).append_text _).append_text _
    · simp +decide [Table.addColumnChange, Table.quoted, toString, h]
  · simp +decide [Table.addColumnChange, Table.quoted, toString, Inverse.sql?]

theorem readable_securityChange (t : Table) : t.securityChange.Readable := by
  have hs : Starts "alter table ".toList := ⟨'a', rfl, by decide⟩
  have hquoted : OneLine t.quoted := oneLine_quoteQualified (trim t.name)
  constructor
  · refine (stated_securityChange t).forward.laidOut_line ?_ ?_
    · exact (hs.append_text _).append_text _
    · exact oneLine_append.mpr ⟨oneLine_append.mpr ⟨by decide, hquoted⟩, by decide⟩
  · dsimp only [Table.securityChange]
    split
    · intro c hc
      cases hc
    · rintro s ⟨⟩
      exact oneLine_append.mpr ⟨oneLine_append.mpr ⟨by decide, hquoted⟩, by decide⟩

theorem readable_indexChange {t : Table} {i : TableIndex} {c : Change}
    (h : OneLine (trim i.expression)) (hc : t.indexChange? i = some c) : c.Readable := by
  have hs := (stated_indexChange hc).forward
  unfold Table.indexChange? at hc
  split at hc
  · rename_i name expression _ he
    obtain rfl := nonBlank?_eq_some he
    cases hc
    constructor
    · refine hs.laidOut_line ?_ ?_
      · cases i.unique <;> simp [Starts, toString]
      · cases i.unique <;> simp +decide [Table.quoted, toString, h]
    · simp +decide [toString, Inverse.sql?]
  · cases hc

theorem exists_rows (definitions : List String) (h : ∀ d ∈ definitions, OneLine d) :
    ∃ rows, (",\n".intercalate (definitions.map ("  " ++ ·))).toList ++ ['\n'] = written rows ∧
      ∀ row ∈ rows, '\n' ∉ row ∧ row.head? ≠ some ')' := by
  induction definitions with
  | nil => exact ⟨[[]], rfl, by simp⟩
  | cons d definitions ih =>
    obtain ⟨hd, hds⟩ := List.forall_mem_cons.mp h
    obtain ⟨rows, hw, hr⟩ := ih hds
    cases definitions with
    | nil =>
      refine ⟨[' ' :: ' ' :: d.toList], by simp, ?_⟩
      simpa [OneLine] using hd
    | cons e definitions =>
      refine ⟨(' ' :: ' ' :: d.toList ++ [',']) :: rows, ?_, ?_⟩
      · simp only [List.map_cons, String.intercalate_cons_cons, String.toList_append,
          List.append_assoc, written_cons, ← hw]
        simp
      · refine List.forall_mem_cons.mpr ⟨?_, hr⟩
        simpa [OneLine] using hd

theorem readable_createChange {t : Table} (h : ∀ c ∈ t.namedColumns, OneLine c.definition) :
    t.createChange.Readable := by
  have hquoted : OneLine t.quoted := oneLine_quoteQualified (trim t.name)
  constructor
  · obtain ⟨rows, hrows, hr⟩ := exists_rows (t.namedColumns.map Column.definition)
      (List.forall_mem_map.mpr h)
    rw [List.map_map] at hrows
    have ht : t.createChange.forward.toList =
        ("create table if not exists " ++ t.quoted ++ " (").toList ++
          '\n' :: (written rows ++ [')', ';']) := by
      have hf : t.createChange.forward = "create table if not exists " ++ t.quoted ++ " (\n" ++
          ",\n".intercalate (t.namedColumns.map fun c => "  " ++ c.definition) ++ "\n);" := rfl
      rw [hf, ← hrows]
      simp [Function.comp_def]
    rw [ht]
    refine ⟨.table, .table ?_ ?_ (getLast?_append _ rfl) hr⟩
    · simp [Starts]
    · exact oneLine_append.mpr ⟨oneLine_append.mpr ⟨by decide, hquoted⟩, by decide⟩
  · intro s hs
    cases hs
    exact oneLine_append.mpr ⟨oneLine_append.mpr ⟨by decide, hquoted⟩, by decide⟩

theorem readable_table {t : Table} (h : ∀ text ∈ (Part.table t).bareTexts, OneLine text) :
    ∀ c ∈ t.block.changes, c.Readable := by
  have hcolumns : ∀ c ∈ t.namedColumns, OneLine c.definition := by
    intro c hc
    refine oneLine_definition fun text ht => h text ?_
    exact List.mem_append_left _ (List.mem_flatMap_of_mem hc ht)
  intro c hc
  obtain ⟨-, rfl⟩ | ⟨column, hcolumn, rfl⟩ | rfl | ⟨i, hi, hindex⟩ := Table.mem_changes hc
  · exact readable_createChange hcolumns
  · exact readable_addColumnChange (hcolumns column hcolumn)
  · exact readable_securityChange t
  · refine readable_indexChange (h _ ?_) hindex
    exact List.mem_append_right _ (List.mem_map_of_mem hi)

/-- What takes the place of something is undone by the same line that makes room for it. -/
theorem readable_replaceChanges {drop create : String} (hd : ∃ l, LaidOut l drop.toList)
    (hn : OneLine drop) (hc : ∃ l, LaidOut l create.toList) :
    ∀ c ∈ replaceChanges drop create, c.Readable := by
  intro c h
  rcases List.mem_cons.mp h with rfl | h
  · refine ⟨hd, ?_⟩
    intro s hs
    cases hs
  · obtain rfl := List.mem_singleton.mp h
    refine ⟨hc, ?_⟩
    rintro s ⟨⟩
    exact hn

theorem oneLine_quoteRole (role : String) : OneLine (quoteRole role) := by
  unfold quoteRole
  split
  · decide
  · exact oneLine_quoteIdentifier role

theorem readable_policy {p : Policy} (h : ∀ text ∈ (Part.policy p).bareTexts, OneLine text) :
    ∀ c ∈ p.block.changes, c.Readable := by
  have hroles : OneLine (", ".intercalate ((p.roles.filterMap nonBlank?).map quoteRole)) := by
    refine oneLine_intercalate (by decide) (List.forall_mem_map.mpr ?_)
    exact fun role _ => oneLine_quoteRole role
  have hgrantees (b : Bool) : OneLine (if b then "" else
      " to " ++ ", ".intercalate ((p.roles.filterMap nonBlank?).map quoteRole)) := by
    cases b
    · exact oneLine_append.mpr ⟨by decide, hroles⟩
    · simp [OneLine]
  have hclause (start text : String) (hs : OneLine start)
      (ht : trim text ∈ (Part.policy p).bareTexts) :
      OneLine (((nonBlank? text).map fun e => start ++ e ++ ")").getD "") := by
    refine oneLine_clause fun e he => ?_
    rw [nonBlank?_eq_some he]
    exact oneLine_append.mpr ⟨oneLine_append.mpr ⟨hs, h _ ht⟩, by decide⟩
  have hcommand : OneLine p.command.text := by
    cases p.command <;> decide
  have hvisible := hclause " using (" p.usingExpr (by decide) (by simp [Part.bareTexts])
  have hcheck := hclause " with check (" p.checkExpr (by decide) (by simp [Part.bareTexts])
  have hdrop : OneLine p.dropSql := by
    unfold Policy.dropSql
    dsimp only [toString]
    simp only [oneLine_append, oneLine_quoteIdentifier, oneLine_quoteQualified, and_true]
    decide
  have hcreate : OneLine p.createSql := by
    unfold Policy.createSql
    dsimp only [toString]
    simp only [oneLine_append, oneLine_quoteIdentifier, oneLine_quoteQualified, hcommand,
      hgrantees, hvisible, hcheck, and_true]
    decide
  have hd : Starts "drop policy if exists ".toList := ⟨'l', rfl, by decide⟩
  have hc : Starts "create policy ".toList := ⟨'p', rfl, by decide⟩
  unfold Policy.block
  split
  · refine readable_replaceChanges (p.isStatement_dropSql.laidOut_line ?_ hdrop) hdrop
      (p.isStatement_createSql.laidOut_line ?_ hcreate)
    · unfold Policy.dropSql
      exact (((hd.append_text _).append_text _).append_text _).append_text _
    · unfold Policy.createSql
      exact ((((((((hc.append_text _).append_text _).append_text _).append_text _).append_text
        _).append_text _).append_text _).append_text _).append_text _
  · intro c hc
    cases hc

theorem readable_trigger (t : Trigger) : ∀ c ∈ t.block.changes, c.Readable := by
  have htiming : OneLine t.timing.sql := by
    cases t.timing <;> decide
  have hevents : OneLine (" OR ".intercalate (distinct (t.events.map TriggerEvent.sql))) := by
    refine oneLine_intercalate (by decide) fun e he => ?_
    obtain ⟨event, -, rfl⟩ := List.mem_map.mp (distinct_subset _ he)
    cases event <;> decide
  have hdrop : OneLine t.dropSql := by
    unfold Trigger.dropSql
    dsimp only [toString]
    simp only [oneLine_append, oneLine_quoteIdentifier, oneLine_quoteQualified, and_true]
    decide
  have hcreate : OneLine t.createSql := by
    unfold Trigger.createSql
    dsimp only [toString]
    simp only [oneLine_append, oneLine_quoteIdentifier, oneLine_quoteQualified, htiming, hevents,
      and_true]
    decide
  have hd : Starts "drop trigger if exists ".toList := ⟨'i', rfl, by decide⟩
  have hc : Starts "create trigger ".toList := ⟨'t', rfl, by decide⟩
  unfold Trigger.block
  split
  · split
    · intro c hc
      cases hc
    refine readable_replaceChanges (t.isStatement_dropSql.laidOut_line ?_ hdrop) hdrop
      (t.isStatement_createSql.laidOut_line ?_ hcreate)
    · unfold Trigger.dropSql
      exact (((hd.append_text _).append_text _).append_text _).append_text _
    · unfold Trigger.createSql
      refine Starts.append_text ?_ _
      exact (((((((hc.append_text _).append_text _).append_text _).append_text _).append_text
        _).append_text _).append_text _).append_text _
  · intro c hc
    cases hc

theorem enclosed_digits (n : Nat) : Enclosed false (Nat.toDigits 10 n) := by
  have hd (c : Char) (hc : c.isDigit = false) : c ∉ Nat.toDigits 10 n := by
    intro hm
    cases hc.symm.trans (Nat.isDigit_of_mem_toDigits (by decide) (by decide) hm)
  exact enclosed_of_plain (hd _ rfl) (hd _ rfl)

theorem enclosed_literal (l : Literal) : Enclosed false l.sql.toList := by
  have hquoted (text : String) {type : String} (ht : Enclosed false type.toList) :
      Enclosed false (quoteLiteral text ++ type).toList := by
    rw [String.toList_append]
    exact (enclosed_quoteLiteral text).append ht
  cases l with
  | null => exact enclosed_of_plain (by decide) (by decide)
  | bool b => cases b <;> exact enclosed_of_plain (by decide) (by decide)
  | int n =>
    cases n with
    | ofNat m =>
      have ht : (toString (Int.ofNat m)).toList = Nat.toDigits 10 m := Nat.toList_repr
      rw [Literal.sql, ht]
      exact enclosed_digits m
    | negSucc m =>
      rw [Literal.sql, toList_toString_negSucc]
      exact .cons (by decide) (enclosed_digits (m + 1))
  | text s => exact enclosed_quoteLiteral s
  | uuid s => exact hquoted s (enclosed_of_plain (by decide) (by decide))
  | json s => exact hquoted s (enclosed_of_plain (by decide) (by decide))
  | texts items =>
    rw [Literal.sql, String.toList_append, String.toList_append, String.toList_intercalate,
      List.map_map]
    refine ((enclosed_of_plain (by decide) (by decide)).append (enclosed_intercalate ?_ ?_)).append
      (enclosed_of_plain (by decide) (by decide))
    · exact enclosed_of_plain (by decide) (by decide)
    · exact List.forall_mem_map.mpr fun item _ => enclosed_quoteLiteral item

/-- The names of a row: its table, its columns, and what its key and its payload say of them. -/
def namesOfRow (u : Upsert) : List String :=
  u.table :: (u.columns ++ u.key ++ u.payload)

theorem readable_upsert {u : Upsert} (h : ∀ name ∈ namesOfRow u, OneLine name) :
    ∀ c ∈ [upsertChange u], c.Readable := by
  have ht : OneLine u.table := h _ List.mem_cons_self
  have hc : ∀ c ∈ u.columns, OneLine c := fun c hc => h c (by simp [namesOfRow, hc])
  have hk : ∀ c ∈ u.key, OneLine c := fun c hc => h c (by simp [namesOfRow, hc])
  have hp : ∀ c ∈ u.payload, OneLine c := fun c hc => h c (by simp [namesOfRow, hc])
  intro c hm
  obtain rfl := List.mem_singleton.mp hm
  have hnothing : ∀ s ∈ (upsertChange u).inverse.sql?, OneLine s := by
    intro s hs
    cases hs
  refine ⟨⟨.row, ?_⟩, hnothing⟩
  have hcolumns := oneLine_intercalate (s := ", ") (by decide) hc
  have hkey := oneLine_intercalate (s := ", ") (by decide) hk
  have hassignments : OneLine (", ".intercalate
      (u.payload.map (fun c => c ++ " = excluded." ++ c) ++ ["updated_at = now()"])) := by
    refine oneLine_intercalate (by decide) fun a ha => ?_
    rcases List.mem_append.mp ha with ha | ha
    · obtain ⟨c, hc, rfl⟩ := List.mem_map.mp ha
      simp only [oneLine_append, hp c hc, and_true, true_and]
      decide
    · rw [List.mem_singleton.mp ha]
      decide
  have hu : u.sql.toList =
      ("insert into " ++ u.table ++ " (" ++ ", ".intercalate u.columns ++ ")").toList ++
        '\n' :: (("values (" ++ ", ".intercalate (u.values.map Literal.sql) ++ ")").toList ++
          '\n' :: ("on conflict (" ++ ", ".intercalate u.key ++ ") do update set " ++
            ", ".intercalate
              (u.payload.map (fun c => c ++ " = excluded." ++ c) ++ ["updated_at = now()"]) ++
            ";").toList) := by
    unfold Upsert.sql
    dsimp only [toString]
    simp
  have hs : Starts "insert into ".toList := ⟨'i', rfl, by decide⟩
  rw [upsertChange, hu]
  refine .row ?_ ?_ (getLast?_append _ rfl) ?_ ?_
  · exact (((hs.append_text _).append_text _).append_text _).append_text _
  · simp only [← OneLine.eq_def, oneLine_append, ht, hcolumns, and_true]
    decide
  · have hvalues : Enclosed false (", ".intercalate (u.values.map Literal.sql)).toList := by
      rw [String.toList_intercalate, List.map_map]
      refine enclosed_intercalate (enclosed_of_plain (by decide) (by decide)) ?_
      exact List.forall_mem_map.mpr fun l _ => enclosed_literal l
    rw [String.toList_append, String.toList_append]
    exact ((enclosed_of_plain (by decide) (by decide)).append hvalues).append
      (enclosed_of_plain (by decide) (by decide))
  · simp only [← OneLine.eq_def, oneLine_append, hkey, hassignments, and_true]
    decide

/-- A part is found wherever it stands. -/
theorem occursIn_append (front part back : List Char) :
    Text.occursIn part (front ++ (part ++ back)) = true := by
  induction front with
  | nil =>
    cases part with
    | nil => cases back <;> rfl
    | cons c part => simp [Text.occursIn]
  | cons c front ih => simp [Text.occursIn, ih]

theorem bodied_quoteBody (body : String) : Bodied (Routine.quoteBody body).toList := by
  unfold Routine.quoteBody
  split
  · exact .literal body
  · rename_i h
    have ht : (Routine.bodyTag ++ "\n" ++ body ++ "\n" ++ Routine.bodyTag).toList =
        Routine.bodyTag.toList ++ '\n' :: (body.toList ++ '\n' :: Routine.bodyTag.toList) := by
      simp
    rw [ht]
    refine .tagged ?_
    rintro ⟨front, back, hb⟩
    rw [Text.contains, ← hb, List.append_assoc] at h
    exact h (occursIn_append front _ back)

theorem oneLine_languageName (f : Routine) : OneLine f.languageName := by
  have hkept : '\n' ∉ f.language.toList.filter isNameChar := by
    intro h
    exact absurd (List.mem_filter.mp h).2 (by decide)
  simp only [Routine.languageName]
  split
  · decide
  · rwa [OneLine, String.toList_ofList]

theorem laidOut_function {f : Routine} (hs : OneLine (trim f.signature))
    (hr : OneLine (trim f.returns)) : LaidOut .function f.createSql.toList := by
  have hreturns : OneLine ((nonBlank? f.returns).getD "void") := oneLine_nonBlank? hr (by decide)
  have hlanguage := oneLine_languageName f
  have hf : f.createSql.toList =
      ("create or replace function " ++ trim f.signature).toList ++
        '\n' :: (("returns " ++ (nonBlank? f.returns).getD "void").toList ++
          '\n' :: (("language " ++ f.languageName).toList ++
            '\n' :: ((if f.securityDefiner then "security definer\n" else "").toList ++
              'a' :: 's' :: ' ' :: ((Routine.quoteBody (trim f.body)).toList ++ [';'])))) := by
    unfold Routine.createSql Routine.head
    dsimp only [toString]
    cases f.securityDefiner <;> simp
  rw [hf]
  refine .function ?_ ?_ ?_ ?_ ?_ (bodied_quoteBody (trim f.body))
  · simp
  · exact oneLine_append.mpr ⟨by decide, hs⟩
  · exact oneLine_append.mpr ⟨by decide, hreturns⟩
  · exact oneLine_append.mpr ⟨by decide, hlanguage⟩
  · cases f.securityDefiner
    · exact .inl rfl
    · exact .inr rfl

theorem oneLine_placeholder {object reason : String} (h : OneLine reason) :
    OneLine (Inverse.placeholder object reason) := by
  have hobject : OneLine (Text.replaceChar '\n' " " object) := by
    rw [OneLine, Text.replaceChar, String.toList_ofList]
    intro hc
    obtain ⟨c, -, hc⟩ := List.mem_flatMap.mp hc
    split at hc
    · exact absurd hc (by decide)
    · rename_i hne
      exact hne (List.mem_singleton.mp hc).symm
  unfold Inverse.placeholder
  simp only [oneLine_append, hobject, h, and_true]
  decide

theorem readable_function {f : Routine} (h : ∀ text ∈ (Part.function f).bareTexts, OneLine text) :
    ∀ c ∈ f.block.changes, c.Readable := by
  have hs : OneLine (trim f.signature) := h _ (by simp [Part.bareTexts])
  have hr : OneLine (trim f.returns) := h _ (by simp [Part.bareTexts])
  have hinverse : ∀ s ∈ f.inverse.sql?, OneLine s := by
    intro s hi
    unfold Routine.inverse at hi
    dsimp only [toString] at hi
    split at hi
    · cases hi
      exact oneLine_placeholder (by decide)
    split at hi
    · cases hi
      exact oneLine_placeholder (by decide)
    · cases hi
      exact oneLine_append.mpr ⟨oneLine_append.mpr ⟨by decide, hs⟩, by decide⟩
  simp only [Routine.block]
  split
  · intro c hc
    obtain rfl := List.mem_singleton.mp hc
    refine ⟨⟨.function, laidOut_function hs hr⟩, ?_⟩
    dsimp only
    exact hinverse
  · intro c hc
    cases hc

theorem Part.readable {p : Part} (h : ∀ text ∈ p.bareTexts, OneLine text) :
    ∀ c ∈ p.changes, c.Readable := by
  have hsetting (o : Owner) (s : Setting) : ∀ c ∈ (s.block o).changes, c.Readable := by
    refine readable_upsert ?_
    dsimp only [namesOfRow, Setting.upsert]
    decide
  cases p with
  | table t => exact readable_table h
  | policy p => exact readable_policy h
  | trigger t => exact readable_trigger t
  | function f => exact readable_function h
  | setting o s => exact hsetting o s
  | preference o p =>
    intro c hc
    obtain ⟨s, -, hc⟩ := List.mem_flatMap.mp hc
    exact hsetting o s c hc
  | bucket b =>
    simp only [changes, Bucket.block]
    split
    · refine readable_upsert ?_
      dsimp only [namesOfRow, Bucket.upsert]
      decide
    · intro c hc
      cases hc
  | remoteFunction f =>
    simp only [changes, RemoteFunction.block]
    split
    · refine readable_upsert ?_
      dsimp only [namesOfRow, RemoteFunction.upsert]
      decide
    · intro c hc
      cases hc

end line

namespace Changeset

variable {sql rollbackSql sql' rollbackSql' : List String}

/-- The line between the forward statements and the rollback. -/
def marker : List Char :=
  "--rollback--".toList

theorem toList_checksumText (sql rollbackSql : List String) :
    (checksumText sql rollbackSql).toList =
      written (sql.map String.toList) ++
        (marker ++ '\n' :: written (rollbackSql.map String.toList)) := by
  have hwritten (texts : List String) :
      (String.join (texts.map (· ++ "\n"))).toList = written (texts.map String.toList) := by
    simp [String.toList_join, written, List.flatMap_map]
  have hmarker : "--rollback--\n".toList = marker ++ ['\n'] := rfl
  unfold checksumText
  rw [String.toList_append, String.toList_append, hwritten, hwritten, hmarker, List.append_assoc,
    List.append_assoc]
  rfl

theorem checksumBytes_inj :
    checksumBytes sql rollbackSql = checksumBytes sql' rollbackSql' ↔
      checksumText sql rollbackSql = checksumText sql' rollbackSql' := by
  refine ⟨fun h => ?_, fun h => by rw [checksumBytes, checksumBytes, h]⟩
  exact String.toByteArray_inj.mp (ByteArray.ext (Array.toList_inj.mp h))

/-- One text closed by a line break is the beginning of another, one of the first and one of the
second texts. -/
def RunOn (texts texts' : List String) : Prop :=
  ∃ s t, (s ∈ texts ∧ t ∈ texts' ∨ s ∈ texts' ∧ t ∈ texts) ∧ Opens s.toList t.toList

theorem map_toList_inj {texts texts' : List String}
    (h : texts.map String.toList = texts'.map String.toList) : texts = texts' :=
  List.map_injective_iff.mpr (fun _ _ => String.toList_inj.mp) h

theorem eq_or_runOn {texts texts' : List String} {u v : List Char}
    (hs : ∀ s ∈ texts, ∀ r, s.toList ++ '\n' :: r ≠ v)
    (ht : ∀ s ∈ texts', ∀ r, s.toList ++ '\n' :: r ≠ u)
    (h : written (texts.map String.toList) ++ u = written (texts'.map String.toList) ++ v) :
    (texts = texts' ∧ u = v) ∨ RunOn texts texts' := by
  obtain ⟨he, huv⟩ | ⟨s, t, hm, ho⟩ :=
    written_inj_or_opens (List.forall_mem_map.mpr hs) (List.forall_mem_map.mpr ht) h
  · exact .inl ⟨map_toList_inj he, huv⟩
  · simp only [List.mem_map] at hm
    obtain ⟨⟨s, hs, rfl⟩, ⟨t, ht, rfl⟩⟩ | ⟨⟨s, hs, rfl⟩, ⟨t, ht, rfl⟩⟩ := hm
    · exact .inr ⟨s, t, .inl ⟨hs, ht⟩, ho⟩
    · exact .inr ⟨s, t, .inr ⟨hs, ht⟩, ho⟩

/-- The line between the two lists is no statement. -/
theorem statement_ne_marker {s : String} (h : IsStatement s) (r r' : List Char) :
    s.toList ++ '\n' :: r ≠ marker ++ '\n' :: r' := by
  intro he
  obtain ⟨c, hc, ha⟩ := h.begins
  obtain ⟨cs, hcs⟩ := List.head?_eq_some_iff.mp hc
  rw [hcs] at he
  obtain rfl : c = '-' := (List.cons.inj he).1
  cases ha

theorem eq_or_runOn_of_checksumBytes (hs : ∀ s ∈ sql, IsStatement s)
    (hs' : ∀ s ∈ sql', IsStatement s)
    (h : checksumBytes sql rollbackSql = checksumBytes sql' rollbackSql') :
    (sql = sql' ∧ rollbackSql = rollbackSql') ∨ RunOn sql sql' ∨
      RunOn rollbackSql rollbackSql' := by
  have ht := congrArg String.toList (checksumBytes_inj.mp h)
  rw [toList_checksumText, toList_checksumText] at ht
  obtain ⟨rfl, hr⟩ | hr := eq_or_runOn (fun s hm r => statement_ne_marker (hs s hm) r _)
    (fun s hm r => statement_ne_marker (hs' s hm) r _) ht
  · have hw := (List.cons.inj (List.append_cancel_left hr)).2
    obtain ⟨rfl, -⟩ | hr := eq_or_runOn (u := []) (v := []) (by simp) (by simp)
      (congrArg (· ++ []) hw)
    · exact .inl ⟨rfl, rfl⟩
    · exact .inr (.inr hr)
  · exact .inr (.inl hr)

end Changeset

namespace ChangeRequest

open Changeset

variable {r r' : ChangeRequest}

theorem readable_of_mem_changes (h : ∀ text ∈ r.bareTexts, OneLine text) :
    ∀ c ∈ r.changes, c.Readable := by
  intro c hc
  rw [changes_eq_parts] at hc
  obtain ⟨p, hp, hc⟩ := List.mem_flatMap.mp hc
  exact Part.readable (fun text ht => h text (List.mem_flatMap_of_mem hp ht)) c hc

theorem laidOut_sql (h : ∀ text ∈ r.bareTexts, OneLine text) :
    ∀ s ∈ r.compile.sql, ∃ l, LaidOut l s.toList := by
  intro s hs
  obtain ⟨c, hc, rfl⟩ := List.mem_map.mp hs
  exact (readable_of_mem_changes h c hc).forward

theorem oneLine_rollbackSql (h : ∀ text ∈ r.bareTexts, OneLine text) :
    ∀ s ∈ r.compile.rollbackSql, OneLine s := by
  intro s hs
  rw [rollbackSql_eq, List.mem_reverse] at hs
  obtain ⟨c, hc, hi⟩ := List.mem_filterMap.mp hs
  exact (readable_of_mem_changes h c hc).inverse s hi

/-- Where the same is hashed, the statements are the same, or a text outside quotes holds a line
break, and a statement of the one changeset goes on where one of the other is closed. -/
theorem statements_of_checksumBytes
    (h : checksumBytes r.compile.sql r.compile.rollbackSql =
      checksumBytes r'.compile.sql r'.compile.rollbackSql) :
    (r.compile.sql = r'.compile.sql ∧ r.compile.rollbackSql = r'.compile.rollbackSql) ∨
      (∃ text ∈ r.bareTexts ++ r'.bareTexts, '\n' ∈ text.toList) ∧
        (RunOn r.compile.sql r'.compile.sql ∨
          RunOn r.compile.rollbackSql r'.compile.rollbackSql) := by
  obtain he | hr := eq_or_runOn_of_checksumBytes r.isStatement_of_mem_sql
    r'.isStatement_of_mem_sql h
  · exact .inl he
  refine .inr ⟨?_, hr⟩
  by_contra hn
  have hline : ∀ text ∈ r.bareTexts ++ r'.bareTexts, OneLine text :=
    fun text ht hb => hn ⟨text, ht, hb⟩
  obtain ⟨hl, hl'⟩ := List.forall_mem_append.mp hline
  obtain ⟨s, t, ⟨hs, ht⟩ | ⟨hs, ht⟩, ho⟩ | ⟨s, t, ⟨hs, ht⟩ | ⟨hs, ht⟩, ho⟩ := hr
  · obtain ⟨_, hs⟩ := laidOut_sql hl s hs
    obtain ⟨_, ht⟩ := laidOut_sql hl' t ht
    exact hs.not_opens ht ho
  · obtain ⟨_, hs⟩ := laidOut_sql hl' s hs
    obtain ⟨_, ht⟩ := laidOut_sql hl t ht
    exact hs.not_opens ht ho
  · exact not_opens_line (oneLine_rollbackSql hl' t ht) ho
  · exact not_opens_line (oneLine_rollbackSql hl t ht) ho

/-- A column, and a setting that lets everyone sign up. -/
def openSignup : ChangeRequest where
  desiredState := {
    tables := [{ name := "t", columns := [{ name := "a" }] }]
    authSettings := { enableSignup := some true } }

/-- The same column alone, with a type that goes on as the statement of the setting. -/
def overlongType : ChangeRequest where
  desiredState := {
    tables := [{ name := "t", columns := [{
      name := "a"
      dataType := "text;\n" ++
        "insert into public.app_settings (scope, tenant_key, tenant_id, key, value)\n" ++
        "values ('global', '', null, 'auth.enable_signup', 'true'::jsonb)\n" ++
        "on conflict (scope, tenant_key, key) do update set value = excluded.value, " ++
        "updated_at = now()" }] }] }

theorem checksumBytes_overlongType :
    checksumBytes overlongType.compile.sql overlongType.compile.rollbackSql =
      checksumBytes openSignup.compile.sql openSignup.compile.rollbackSql := by
  decide +kernel

theorem sql_overlongType_ne : overlongType.compile.sql ≠ openSignup.compile.sql := by
  intro h
  exact absurd (congrArg List.length h) (by decide +kernel)

theorem statements_of_checksumBytes_overlongType :
    checksumBytes overlongType.compile.sql overlongType.compile.rollbackSql =
        checksumBytes openSignup.compile.sql openSignup.compile.rollbackSql ∧
      (∃ text ∈ overlongType.bareTexts ++ openSignup.bareTexts, '\n' ∈ text.toList) ∧
        (RunOn overlongType.compile.sql openSignup.compile.sql ∨
          RunOn overlongType.compile.rollbackSql openSignup.compile.rollbackSql) := by
  refine ⟨checksumBytes_overlongType, ?_⟩
  obtain ⟨he, -⟩ | h := statements_of_checksumBytes checksumBytes_overlongType
  · exact absurd he sql_overlongType_ne
  · exact h

/-- Different statements do not always make a difference to the checksum. -/
theorem checksumBytes_not_injective :
    ¬ ∀ r r' : ChangeRequest, r.compile.sql ≠ r'.compile.sql ∨
        r.compile.rollbackSql ≠ r'.compile.rollbackSql →
      checksumBytes r.compile.sql r.compile.rollbackSql ≠
        checksumBytes r'.compile.sql r'.compile.rollbackSql := by
  intro h
  exact h overlongType openSignup (.inl sql_overlongType_ne) checksumBytes_overlongType

end ChangeRequest
end Evolution
