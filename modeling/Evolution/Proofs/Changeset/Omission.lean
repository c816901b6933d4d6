import Evolution.Proofs.Changeset.Part
import Evolution.Proofs.Model.Repetition

/-! What is left out of a changeset. An entity that the compiler passes over is one that the check
of the desired state reports, at its position. So nothing is missing from the changeset of a state
without errors: all columns of its tables, its policies, and its triggers and functions that ask for
anything are there. -/
namespace Evolution

open Text (trim nonBlank?)

/-- Nothing comes of an entity: there is no statement for it, and it is not touched. -/
def Block.IsIdle (b : Block) : Prop :=
  b.changes = [] ∧ b.touches = []

instance (b : Block) : Decidable b.IsIdle :=
  inferInstanceAs (Decidable (b.changes = [] ∧ b.touches = []))

/-- The table without its column at `position`, counted from zero. -/
def Table.without (t : Table) (position : Nat) : Table :=
  { t with columns := t.columns.eraseIdx position }

section blank

variable {s : String}

theorem nonBlank?_of_not_blank (h : isBlankText s = false) : nonBlank? s = some (trim s) := by
  rw [isBlankText] at h
  simp [nonBlank?, h]

theorem nonBlank?_of_blank (h : isBlankText s = true) : nonBlank? s = none := by
  rw [isBlankText] at h
  simp [nonBlank?, h]

end blank

section idle

theorem Table.isBlankText_of_isIdle {t : Table} (h : t.block.IsIdle) :
    isBlankText t.name = true := by
  by_contra hn
  rw [Bool.not_eq_true, isBlankText] at hn
  have htouches := h.2
  simp [block, hn] at htouches

/-- A policy that is told where it belongs takes the place of what has its name. -/
theorem Policy.block_changes {p : Policy} (ht : isBlankText p.table = false)
    (hn : isBlankText p.name = false) : p.block.changes = replaceChanges p.dropSql p.createSql := by
  rw [block, nonBlank?_of_not_blank ht, nonBlank?_of_not_blank hn]

theorem Trigger.block_changes {t : Trigger} (he : t.events ≠ []) (ht : isBlankText t.table = false)
    (hn : isBlankText t.name = false) : t.block.changes = replaceChanges t.dropSql t.createSql := by
  rw [block, nonBlank?_of_not_blank ht, nonBlank?_of_not_blank hn]
  simp [he]

theorem Routine.block_changes {f : Routine} (hs : isBlankText f.signature = false)
    (hb : isBlankText f.body = false) : f.block.changes = [⟨f.createSql, f.inverse⟩] := by
  rw [block, nonBlank?_of_not_blank hs, nonBlank?_of_not_blank hb]

end idle

section column

variable {α : Type} {sep x d : List α} {xs ys : List (List α)}

theorem intercalate_cons_flatMap :
    sep.intercalate (x :: xs) = x ++ xs.flatMap (sep ++ ·) := by
  induction xs generalizing x with
  | nil => simp
  | cons y ys ih =>
    rw [List.intercalate_cons_cons, ih, List.flatMap_cons, List.append_assoc, List.append_assoc]

/-- One more text makes a longer list of texts. -/
theorem length_intercalate_lt (hd : d ≠ []) :
    (sep.intercalate (xs ++ ys)).length < (sep.intercalate (xs ++ d :: ys)).length := by
  have hpos : 0 < d.length := List.length_pos_iff.mpr hd
  cases xs with
  | cons x xs =>
    simp only [List.cons_append, intercalate_cons_flatMap, List.flatMap_append,
      List.flatMap_cons, List.length_append]
    omega
  | nil =>
    cases ys with
    | nil => simpa using hpos
    | cons y ys =>
      simp only [List.nil_append, intercalate_cons_flatMap, List.flatMap_cons,
        List.length_append]
      omega

variable {t : Table} {j : Nat} {c : Column}

/-- A column with a name stands somewhere among those with a name, and is all that goes. -/
theorem Table.namedColumns_without (hc : t.columns[j]? = some c) (hn : isBlankText c.name = false) :
    ∃ before after, t.namedColumns = before ++ c :: after ∧
      (t.without j).namedColumns = before ++ after := by
  have hsplit : t.columns = t.columns.take j ++ c :: t.columns.drop (j + 1) := by
    obtain ⟨hj, h⟩ := List.getElem?_eq_some_iff.mp hc
    rw [← h, List.getElem_cons_drop, List.take_append_drop]
  refine ⟨(t.columns.take j).filter fun c => !(trim c.name).isEmpty,
    (t.columns.drop (j + 1)).filter fun c => !(trim c.name).isEmpty, ?_, ?_⟩
  · rw [isBlankText] at hn
    have hkept : (!(trim c.name).isEmpty) = true := by rw [hn]; rfl
    rw [← List.filter_cons_of_pos (p := fun c : Column => !(trim c.name).isEmpty) hkept,
      ← List.filter_append, ← hsplit]
    rfl
  · rw [namedColumns, without, List.eraseIdx_eq_take_drop_succ, List.filter_append]

theorem Table.block_changes (ht : isBlankText t.name = false) : t.block.changes =
    (if t.isCreated then [t.createChange] else t.namedColumns.map t.addColumnChange) ++
      (if t.rowLevelSecurity then [t.securityChange] else []) ++
      t.indexes.filterMap t.indexChange? := by
  have hname : (trim t.name).isEmpty = false := ht
  simp [block, hname]

theorem Table.length_block_changes (ht : isBlankText t.name = false) : t.block.changes.length =
    (if t.isCreated then 1 else t.namedColumns.length) + (if t.rowLevelSecurity then 1 else 0) +
      (t.indexes.filterMap t.indexChange?).length := by
  rw [block_changes ht, List.length_append, List.length_append]
  cases t.isCreated <;> cases t.rowLevelSecurity <;> simp

/-- The statement that creates a table is longer for each of its columns. -/
theorem Table.createChange_without_ne {before after : List Column}
    (hnamed : t.namedColumns = before ++ c :: after)
    (hwithout : (t.without j).namedColumns = before ++ after) :
    (t.without j).createChange ≠ t.createChange := by
  intro h
  let text (c : Column) : List Char := ("  " ++ c.definition).toList
  have hforward (u : Table) : u.createChange.forward.toList =
      ("create table if not exists " ++ u.quoted ++ " (\n").toList ++
        ",\n".toList.intercalate (u.namedColumns.map text) ++ "\n);".toList := by
    have hf : u.createChange.forward = "create table if not exists " ++ u.quoted ++ " (\n" ++
        ",\n".intercalate (u.namedColumns.map fun c => "  " ++ c.definition) ++ "\n);" := rfl
    rw [hf, String.toList_append, String.toList_append, String.toList_intercalate, List.map_map]
    rfl
  have hquoted : (t.without j).quoted = t.quoted := rfl
  replace h := congrArg (fun change => change.forward.toList.length) h
  simp only [hforward, hnamed, hwithout, hquoted, List.map_append, List.map_cons,
    List.length_append] at h
  have hne : text c ≠ [] := by simp [text]
  have hlt : (",\n".toList.intercalate (before.map text ++ after.map text)).length <
      (",\n".toList.intercalate (before.map text ++ text c :: after.map text)).length :=
    length_intercalate_lt hne
  omega

theorem Table.indexChange?_without : (t.without j).indexChange? = t.indexChange? := by
  funext i
  simp only [indexChange?, quoted, without]

/-- Without one of its columns that have a name a table comes to something else. -/
theorem Table.block_changes_without_ne (ht : isBlankText t.name = false)
    (hc : t.columns[j]? = some c) (hn : isBlankText c.name = false) :
    (t.without j).block.changes ≠ t.block.changes := by
  intro hchanges
  obtain ⟨before, after, hnamed, hwithout⟩ := namedColumns_without hc hn
  have ht' : isBlankText (t.without j).name = false := ht
  have hlength := congrArg List.length hchanges
  rw [length_block_changes ht, length_block_changes ht'] at hlength
  -- what is not made of columns stays
  have hsecurity : (t.without j).rowLevelSecurity = t.rowLevelSecurity := rfl
  have hindexes : (t.without j).indexes = t.indexes := rfl
  have hcreate : (t.without j).createIfMissing = t.createIfMissing := rfl
  rw [hsecurity, hindexes, indexChange?_without, isCreated, isCreated, hcreate, hnamed,
    hwithout] at hlength
  cases hwanted : t.createIfMissing with
  | false => simp [hwanted] at hlength
  | true =>
    cases hleft : (before ++ after).isEmpty with
    | true =>
      obtain ⟨rfl, rfl⟩ := List.append_eq_nil_iff.mp (List.isEmpty_iff.mp hleft)
      simp [hwanted] at hlength
    | false =>
      have hcreated : t.isCreated = true := by simp [isCreated, hwanted, hnamed]
      have hcreated' : (t.without j).isCreated = true := by
        rw [isCreated, hcreate, hwanted, hwithout, hleft]
        rfl
      rw [block_changes ht, block_changes ht', hcreated, hcreated'] at hchanges
      exact createChange_without_ne hnamed hwithout (List.cons.inj hchanges).1

end column

section told

variable {s : DesiredState} {i j : Nat} {e : ModelError}

/-- What is wrong with an item is told under its position, counted from one. -/
theorem mem_positionedErrors {α : Type} {errors : α → Nat → List ModelError} {items : List α}
    {x : α} (hx : items[i]? = some x) (he : e ∈ errors x (i + 1)) :
    e ∈ positionedErrors errors items := by
  have hp : (x, 1 + i) ∈ items.zipIdx 1 := List.mk_add_mem_zipIdx_iff_getElem?.mpr hx
  rw [Nat.add_comm] at hp
  exact List.mem_flatMap.mpr ⟨_, hp, he⟩

theorem DesiredState.mem_told (h : e ∈ s.errors) : e.message ∈ s.errors.map ModelError.message :=
  List.mem_map_of_mem h

theorem DesiredState.told_of_idle_table {t : Table} (ht : s.tables[i]? = some t)
    (h : t.block.IsIdle) : .tableUnnamed (i + 1) ∈ s.errors := by
  have hn : (trim t.name).isEmpty = true := Table.isBlankText_of_isIdle h
  have he : .tableUnnamed (i + 1) ∈ t.errors (i + 1) := by simp [Table.errors, hn]
  simp [errors, mem_positionedErrors ht he]

theorem DesiredState.told_of_blank_column {t : Table} {c : Column} (ht : s.tables[i]? = some t)
    (hc : t.columns[j]? = some c) (hn : isBlankText c.name = true) :
    s!"{tableLabel (i + 1) (trim t.name)}: column #{j + 1} name is required" ∈
      s.errors.map ModelError.message := by
  have htold : s!"{tableLabel (i + 1) (trim t.name)}: column #{j + 1} name is required" ∈
      (s.errors.filter fun e => e.columnOf? = some (i + 1)).map ModelError.message := by
    rw [map_message_filter_errors ht]
    refine List.mem_filterMap.mpr ⟨(c, j), List.mk_mem_zipIdx_iff_getElem?.mpr hc, ?_⟩
    rw [complaint?, if_pos hn]
  exact List.map_subset _ (List.filter_subset_self _) htold

theorem DesiredState.told_of_missing_policy {p : Policy} (hp : s.policies[i]? = some p)
    (h : p.block.changes = []) : .policyIncomplete (i + 1) ∈ s.errors := by
  have he : .policyIncomplete (i + 1) ∈ p.errors (i + 1) := by
    by_contra hn
    have hnamed : isBlankText p.table = false ∧ isBlankText p.name = false := by
      simpa [Policy.errors] using hn
    rw [Policy.block_changes hnamed.1 hnamed.2] at h
    simp [replaceChanges] at h
  simp [errors, mem_positionedErrors hp he]

theorem DesiredState.told_of_missing_trigger {t : Trigger} (ht : s.triggers[i]? = some t)
    (hevents : t.events ≠ []) (h : t.block.changes = []) :
    .triggerIncomplete (i + 1) ∈ s.errors := by
  have he : .triggerIncomplete (i + 1) ∈ t.errors (i + 1) := by
    by_contra hn
    have hnamed : (isBlankText t.table = false ∧ isBlankText t.name = false) ∧
        t.function ≠ "" := by
      simpa [Trigger.errors, hevents] using hn
    rw [Trigger.block_changes hevents hnamed.1.1 hnamed.1.2] at h
    simp [replaceChanges] at h
  simp [errors, mem_positionedErrors ht he]

theorem DesiredState.told_of_missing_function {f : Routine} (hf : s.functions[i]? = some f)
    (hb : isBlankText f.body = false) (h : f.block.changes = []) :
    .functionUnsigned (i + 1) ∈ s.errors := by
  have he : .functionUnsigned (i + 1) ∈ f.errors (i + 1) := by
    by_contra hn
    have hsigned : isBlankText f.signature = false := by
      simpa [Routine.errors, hb] using hn
    rw [Routine.block_changes hsigned hb] at h
    cases h
  simp [errors, mem_positionedErrors hf he]

end told

section present

variable {r : ChangeRequest}

/-- The statements of an entity stand together. -/
theorem ChangeRequest.infix_sql {p : Part} (hp : p ∈ r.parts) :
    p.changes.map Change.forward <:+: r.compile.sql := by
  have hsql : r.compile.sql = r.changes.map Change.forward := rfl
  rw [hsql, changes_eq_parts, List.flatMap_def]
  exact (List.infix_of_mem_flatten (List.mem_map_of_mem hp)).map _

theorem ChangeRequest.mem_sql {p : Part} {c : Change} (hp : p ∈ r.parts) (hc : c ∈ p.changes) :
    c.forward ∈ r.compile.sql :=
  (infix_sql hp).subset (List.mem_map_of_mem hc)

/-- The columns of a table are created with it, or added one by one. -/
theorem ChangeRequest.columns_mem_sql {t : Table} {n : Nat} (ht : t ∈ r.desiredState.tables)
    (h : t.errors n = []) :
    ("create table if not exists " ++ t.quoted ++ " (\n" ++
      ",\n".intercalate (t.columns.map fun c => "  " ++ c.definition) ++ "\n);") ∈ r.compile.sql ∨
    ∀ c ∈ t.columns, ("alter table " ++ t.quoted ++ " add column if not exists " ++ c.definition ++
      ";") ∈ r.compile.sql := by
  obtain ⟨hname, hcolumns, -⟩ := Table.errors_eq_nil_iff.mp h
  have hnamed : t.namedColumns = t.columns := Table.namedColumns_of_named hcolumns
  have hp : Part.table t ∈ r.parts := by simp [parts, ht]
  have hchanges : (Part.table t).changes = t.block.changes := rfl
  rw [Table.block_changes hname, hnamed] at hchanges
  cases hcreated : t.isCreated with
  | true =>
    have hcreate : t.createChange ∈ (Part.table t).changes := by simp [hchanges, hcreated]
    rw [← hnamed]
    exact .inl (mem_sql hp hcreate)
  | false =>
    refine .inr fun c hc => ?_
    have hadd : t.addColumnChange c ∈ (Part.table t).changes := by
      simp [hchanges, hcreated, List.mem_map_of_mem hc]
    exact mem_sql hp hadd

theorem ChangeRequest.policy_infix_sql {p : Policy} {n : Nat} (hp : p ∈ r.desiredState.policies)
    (h : p.errors n = []) : [p.dropSql, p.createSql] <:+: r.compile.sql := by
  have hnamed : isBlankText p.table = false ∧ isBlankText p.name = false := by
    simpa [Policy.errors] using h
  have hpart : Part.policy p ∈ r.parts := by simp [parts, hp]
  have hblock := infix_sql hpart
  rwa [Part.changes, Policy.block_changes hnamed.1 hnamed.2] at hblock

theorem ChangeRequest.trigger_infix_sql {t : Trigger} {n : Nat} (ht : t ∈ r.desiredState.triggers)
    (hevents : t.events ≠ []) (h : t.errors n = []) :
    [t.dropSql, t.createSql] <:+: r.compile.sql ∧ t.function ≠ "" := by
  have hnamed : (isBlankText t.table = false ∧ isBlankText t.name = false) ∧ t.function ≠ "" := by
    simpa [Trigger.errors, hevents] using h
  have hpart : Part.trigger t ∈ r.parts := by simp [parts, ht]
  have hblock := infix_sql hpart
  rw [Part.changes, Trigger.block_changes hevents hnamed.1.1 hnamed.1.2] at hblock
  exact ⟨hblock, hnamed.2⟩

theorem ChangeRequest.function_mem_sql {f : Routine} (hf : f ∈ r.desiredState.functions)
    (hs : isBlankText f.signature = false) (hb : isBlankText f.body = false) :
    f.createSql ∈ r.compile.sql := by
  have hpart : Part.function f ∈ r.parts := by simp [parts, hf]
  have hcreate : ⟨f.createSql, f.inverse⟩ ∈ (Part.function f).changes := by
    rw [Part.changes, Routine.block_changes hs hb]
    exact List.mem_singleton_self _
  exact mem_sql hpart hcreate

end present

/-- Whatever the compiler passes over is told: a table of which nothing comes, a column without
which its table would come to the same, and a policy, a trigger with events or a function with a
body that has no statement, each under its position. So where nothing is told, every column of every
table is created with it or added, every policy and every trigger with events takes the place of its
predecessor, the trigger calling a function that has a name, and every function with a body is
created. -/
theorem ChangeRequest.omissions_are_told (r : ChangeRequest) :
    let s := r.desiredState
    let told := s.errors.map ModelError.message
    (∀ (i : Nat) (t : Table), s.tables[i]? = some t → t.block.IsIdle →
      s!"Table #{i + 1}: name is required" ∈ told) ∧
    (∀ (i j : Nat) (t : Table), s.tables[i]? = some t → ¬ t.block.IsIdle →
      j < t.columns.length → (t.without j).block.changes = t.block.changes →
        s!"Table #{i + 1} ({trim t.name}): column #{j + 1} name is required" ∈ told) ∧
    (∀ (i : Nat) (p : Policy), s.policies[i]? = some p → p.block.changes = [] →
      s!"Policy #{i + 1}: table and policy name are required" ∈ told) ∧
    (∀ (i : Nat) (t : Trigger), s.triggers[i]? = some t → t.events ≠ [] →
      t.block.changes = [] →
        s!"Trigger #{i + 1}: table, trigger name and function are required" ∈ told) ∧
    (∀ (i : Nat) (f : Routine), s.functions[i]? = some f → isBlankText f.body = false →
      f.block.changes = [] →
        s!"Function #{i + 1}: signature is required when a body is provided" ∈ told) ∧
    (told = [] →
      (∀ t ∈ s.tables,
        ("create table if not exists " ++ t.quoted ++ " (\n" ++
          ",\n".intercalate (t.columns.map fun c => "  " ++ c.definition) ++ "\n);") ∈
            r.compile.sql ∨
        ∀ c ∈ t.columns, ("alter table " ++ t.quoted ++ " add column if not exists " ++
          c.definition ++ ";") ∈ r.compile.sql) ∧
      (∀ p ∈ s.policies, [p.dropSql, p.createSql] <:+: r.compile.sql) ∧
      (∀ t ∈ s.triggers, t.events ≠ [] → [t.dropSql, t.createSql] <:+: r.compile.sql ∧
        t.function ≠ "" ∧ ∃ front, t.createSql =
          front ++ "for each row execute function " ++ Sql.quoteQualified t.function ++ "();") ∧
      ∀ f ∈ s.functions, isBlankText f.body = false → f.createSql ∈ r.compile.sql) := by
  intro s told
  refine ⟨?tables, ?columns, ?policies, ?triggers, ?functions, ?present⟩
  case tables =>
    intro i t ht h
    exact DesiredState.mem_told (DesiredState.told_of_idle_table ht h)
  case columns =>
    intro i j t ht h hj hsame
    have hname : isBlankText t.name = false := by
      by_contra hn
      refine h ?_
      rw [Bool.not_eq_false, isBlankText] at hn
      simp [Block.IsIdle, Table.block, hn]
    have hc := List.getElem?_eq_getElem hj
    have hblank : isBlankText t.columns[j].name = true := by
      by_contra hn
      exact Table.block_changes_without_ne hname hc (by simpa using hn) hsame
    have hlabel : tableLabel (i + 1) (trim t.name) = s!"Table #{i + 1} ({trim t.name})" := by
      have hn : (trim t.name).isEmpty = false := hname
      simp [tableLabel, hn]
    have hjoin : "): column #" = ")" ++ ": column #" := by decide
    have htold := DesiredState.told_of_blank_column ht hc hblank
    rw [hlabel] at htold
    simpa only [toString, hjoin, String.append_assoc] using htold
  case policies =>
    intro i p hp h
    exact DesiredState.mem_told (DesiredState.told_of_missing_policy hp h)
  case triggers =>
    intro i t ht hevents h
    exact DesiredState.mem_told (DesiredState.told_of_missing_trigger ht hevents h)
  case functions =>
    intro i f hf hb h
    exact DesiredState.mem_told (DesiredState.told_of_missing_function hf hb h)
  case present =>
    intro hnone
    have herrors : s.errors = [] := List.map_eq_nil_iff.mp hnone
    simp only [DesiredState.errors, List.append_eq_nil_iff] at herrors
    obtain ⟨⟨⟨htables, hpolicies⟩, htriggers⟩, hfunctions⟩ := herrors
    refine ⟨?_, ?_, ?_, ?_⟩
    · intro t ht
      obtain ⟨n, hn⟩ := exists_errors_eq_nil htables ht
      exact columns_mem_sql ht hn
    · intro p hp
      obtain ⟨n, hn⟩ := exists_errors_eq_nil hpolicies hp
      exact policy_infix_sql hp hn
    · intro t ht hevents
      obtain ⟨n, hn⟩ := exists_errors_eq_nil htriggers ht
      obtain ⟨hblock, hfunction⟩ := trigger_infix_sql ht hevents hn
      refine ⟨hblock, hfunction, ?_⟩
      unfold Trigger.createSql
      dsimp only [toString]
      simp only [← String.append_assoc]
      exact ⟨_, rfl⟩
    · intro f hf hb
      obtain ⟨n, hn⟩ := exists_errors_eq_nil hfunctions hf
      have hs : isBlankText f.signature = false := by simpa [Routine.errors, hb] using hn
      exact function_mem_sql hf hs hb

/-- A trigger that is given its function with brackets. -/
def noteTouched : Trigger where
  table := "app.notes"
  name := "touched"
  events := [.update]
  functionName := "touch ()"

def noteTaking : DesiredState where
  tables := [{ name := "app.notes", columns := [{ name := "id" }, { name := "text " }] }]
  policies := [{ table := "app.notes", name := "own" }]
  triggers := [noteTouched]
  functions := [{ signature := "touch()", body := "begin return new; end" }]

/-- The same, with a column and a policy that have no name. -/
def noteTakingNamelessly : DesiredState :=
  { noteTaking with
    tables := [{ name := "app.notes", columns := [{ name := "id" }, { name := " " }] }]
    policies := [{ table := "app.notes", name := "own" }, { table := "app.notes" }] }

/-- With all names there is a statement for everything; without, what is missing is told. -/
theorem ChangeRequest.omissions_are_told_notes :
    let complete : ChangeRequest := { desiredState := noteTaking }
    let told := noteTakingNamelessly.errors.map ModelError.message
    noteTaking.errors.map ModelError.message = [] ∧
      [noteTouched.dropSql, noteTouched.createSql] <:+: complete.compile.sql ∧
      noteTouched.function = "touch" ∧
      (∃ f ∈ noteTaking.functions, f.createSql ∈ complete.compile.sql) ∧
      "Table #1 (app.notes): column #2 name is required" ∈ told ∧
      "Policy #2: table and policy name are required" ∈ told := by
  intro complete told
  have hnone : noteTaking.errors.map ModelError.message = [] := by decide +kernel
  obtain ⟨-, -, -, -, -, hpresent⟩ := omissions_are_told complete
  obtain ⟨-, -, htriggers, hfunctions⟩ := hpresent hnone
  obtain ⟨-, hcolumns, hpolicies, -⟩ := omissions_are_told { desiredState := noteTakingNamelessly }
  refine ⟨hnone, ?_, by decide +kernel, ⟨_, List.mem_cons_self, ?_⟩, ?_, ?_⟩
  · exact (htriggers noteTouched List.mem_cons_self nofun).1
  · exact hfunctions _ List.mem_cons_self (by decide +kernel)
  · have hbusy : ¬ (Table.block { name := "app.notes", columns := [{ name := "id" },
        { name := " " }] }).IsIdle := by
      decide +kernel
    have htold := hcolumns 0 1 _ rfl hbusy (by decide) (by decide +kernel)
    have htext (name : String) (hn : trim name = "app.notes") :
        s!"Table #{0 + 1} ({trim name}): column #{1 + 1} name is required" =
          "Table #1 (app.notes): column #2 name is required" := by
      rw [hn]
      decide +kernel
    rwa [htext _ (by decide)] at htold
  · exact hpolicies 1 _ rfl (by decide +kernel)

end Evolution
