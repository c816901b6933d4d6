import Evolution.Proofs.Database.Sending
import Evolution.Proofs.Changeset.Part

/-! The texts of compiled statements. Each begins with a letter and ends with a semicolon, whatever
names and free texts stand between: it is neither blank nor a comment, and there is nothing to trim.
Only what is left to be done by hand is a comment. -/
namespace Evolution

open Sql Database
open Text (trim trimChars dropBlankEnd isBlank startsWith)

section text

variable {s t : String} {cs : List Char}

/-- What neither begins nor ends with white space has nothing to trim. -/
theorem trimChars_eq_self (hb : ∀ c ∈ cs.head?, isBlank c = false)
    (he : ∀ c ∈ cs.getLast?, isBlank c = false) : trimChars cs = cs := by
  have drop {ds : List Char} (h : ∀ c ∈ ds.head?, isBlank c = false) :
      ds.dropWhile isBlank = ds := by
    cases ds with
    | nil => rfl
    | cons d ds => exact List.dropWhile_cons_of_neg (by simp [h d rfl])
  have hr : ∀ c ∈ cs.reverse.head?, isBlank c = false := by
    rw [List.head?_reverse]
    exact he
  rw [trimChars, dropBlankEnd, drop hb, drop hr, List.reverse_reverse]

theorem isBlank_of_isAlpha {c : Char} (h : c.isAlpha = true) : isBlank c = false := by
  have hn : (65 ≤ c.toNat ∧ c.toNat ≤ 90) ∨ (97 ≤ c.toNat ∧ c.toNat ≤ 122) := by
    replace h : (decide (c.val ≥ 'A'.val ∧ c.val ≤ 'Z'.val) ||
        decide (c.val ≥ 'a'.val) && decide (c.val ≤ 'z'.val)) = true := h
    simpa [UInt32.le_iff_toNat_le] using h
  simp only [isBlank, Bool.or_eq_false_iff, Bool.and_eq_false_iff, decide_eq_false_iff_not,
    beq_eq_false_iff_ne]
  omega

/-- The shape of a compiled statement. -/
structure IsStatement (s : String) : Prop where
  begins : ∃ c, s.toList.head? = some c ∧ c.isAlpha = true
  ends : s.toList.getLast? = some ';'

theorem IsStatement.trim_eq (h : IsStatement s) : trim s = s := by
  have hb : ∀ c ∈ s.toList.head?, isBlank c = false := by
    intro c hc
    obtain ⟨d, hd, ha⟩ := h.begins
    obtain rfl := Option.some.inj (hc.symm.trans hd)
    exact isBlank_of_isAlpha ha
  have he : ∀ c ∈ s.toList.getLast?, isBlank c = false := by
    intro c hc
    obtain rfl := Option.some.inj (hc.symm.trans h.ends)
    rfl
  rw [trim, trimChars_eq_self hb he, String.ofList_toList]

theorem IsStatement.not_comment (h : IsStatement s) : startsWith s "--" = false := by
  obtain ⟨c, hc, ha⟩ := h.begins
  obtain ⟨cs, hcs⟩ := List.head?_eq_some_iff.mp hc
  have hne : ('-' == c) = false := by
    rw [beq_eq_false_iff_ne]
    rintro rfl
    cases ha
  have hdash : "--".toList = ['-', '-'] := rfl
  rw [startsWith, hcs, hdash, List.isPrefixOf_cons_cons, hne, Bool.false_and]

theorem IsStatement.ne_empty (h : IsStatement s) : s ≠ "" := by
  rintro rfl
  cases h.ends

theorem IsStatement.isSent (h : IsStatement s) : isSent s = true := by
  simp [Database.isSent, h.not_comment, h.ne_empty]

/-- The first character of a text is a letter. -/
def Begins (s : String) : Prop :=
  ∃ c, s.toList.head? = some c ∧ c.isAlpha = true

theorem Begins.append (h : Begins s) (t : String) : Begins (s ++ t) := by
  obtain ⟨c, hc, ha⟩ := h
  refine ⟨c, ?_, ha⟩
  rw [String.toList_append, List.head?_append, hc]
  rfl

theorem getLast?_append (s : String) {c : Char} (ht : t.toList.getLast? = some c) :
    (s ++ t).toList.getLast? = some c := by
  rw [String.toList_append, List.getLast?_append, ht]
  rfl

theorem isStatement_append (h : Begins s) (ht : t.toList.getLast? = some ';') :
    IsStatement (s ++ t) :=
  ⟨h.append t, getLast?_append s ht⟩

theorem isStatement_upsert (u : Upsert) : IsStatement u.sql := by
  have h : Begins "insert into " := ⟨'i', rfl, rfl⟩
  unfold Upsert.sql
  exact isStatement_append ((((((h.append _).append _).append _).append _).append _).append _)
    (getLast?_append _ rfl)

end text

/-- How a change of an entity is undone: by a compiled statement, or by hand, which only a function
needs. -/
inductive Part.Undone (p : Part) : Inverse → Prop where
  | nothing : Undone p .nothing
  | statement {s : String} (h : IsStatement s) : Undone p (.statement s)
  | manual {f : Routine} {reason : String} (hp : p = .function f)
      (hf : f.inverse = .manual (trim f.signature) reason) :
      Undone p (.manual (trim f.signature) reason)

/-- A change of an entity is made by a compiled statement. -/
structure Part.Stated (p : Part) (c : Change) : Prop where
  forward : IsStatement c.forward
  inverse : p.Undone c.inverse

section stated

theorem stated_createChange (t : Table) : (Part.table t).Stated t.createChange := by
  have hc : Begins "create table if not exists " := ⟨'c', rfl, rfl⟩
  have hd : Begins "drop table if exists " := ⟨'d', rfl, rfl⟩
  exact ⟨isStatement_append (((hc.append _).append _).append _) rfl,
    .statement (isStatement_append (hd.append _) rfl)⟩

theorem stated_addColumnChange (t : Table) (c : Column) :
    (Part.table t).Stated (t.addColumnChange c) := by
  have h : Begins "alter table " := ⟨'a', rfl, rfl⟩
  exact ⟨isStatement_append (((h.append _).append _).append _) rfl,
    .statement (isStatement_append (((h.append _).append _).append _) rfl)⟩

theorem stated_securityChange (t : Table) : (Part.table t).Stated t.securityChange := by
  have h : Begins "alter table " := ⟨'a', rfl, rfl⟩
  refine ⟨isStatement_append (h.append _) rfl, ?_⟩
  simp only [Table.securityChange]
  split
  · exact .nothing
  · exact .statement (isStatement_append (h.append _) rfl)

theorem stated_indexChange {t : Table} {i : TableIndex} {c : Change}
    (h : t.indexChange? i = some c) : (Part.table t).Stated c := by
  have hc : Begins "create " := ⟨'c', rfl, rfl⟩
  have hd : Begins "drop index if exists " := ⟨'d', rfl, rfl⟩
  unfold Table.indexChange? at h
  split at h
  · cases h
    refine ⟨?_, .statement (isStatement_append ((hd.append _).append _) rfl)⟩
    exact isStatement_append ((((((((hc.append _).append _).append _).append _).append _).append
      _).append _)) rfl
  · cases h

/-- The changes of a table, one by one. -/
theorem Table.mem_changes {t : Table} {c : Change} (h : c ∈ t.block.changes) :
    (t.isCreated = true ∧ c = t.createChange) ∨
      (∃ column ∈ t.namedColumns, c = t.addColumnChange column) ∨
      c = t.securityChange ∨ ∃ i ∈ t.indexes, t.indexChange? i = some c := by
  simp only [Table.block] at h
  split at h
  · cases h
  rcases List.mem_append.mp h with h | h
  · rcases List.mem_append.mp h with h | h
    · split at h
      · rename_i ht
        exact .inl ⟨ht, List.mem_singleton.mp h⟩
      · obtain ⟨column, hc, rfl⟩ := List.mem_map.mp h
        exact .inr (.inl ⟨column, hc, rfl⟩)
    · split at h
      · exact .inr (.inr (.inl (List.mem_singleton.mp h)))
      · cases h
  · obtain ⟨i, hi, hc⟩ := List.mem_filterMap.mp h
    exact .inr (.inr (.inr ⟨i, hi, hc⟩))

theorem stated_table (t : Table) : ∀ c ∈ t.block.changes, (Part.table t).Stated c := by
  intro c hc
  obtain ⟨-, rfl⟩ | ⟨column, -, rfl⟩ | rfl | ⟨i, -, hi⟩ := Table.mem_changes hc
  · exact stated_createChange t
  · exact stated_addColumnChange t column
  · exact stated_securityChange t
  · exact stated_indexChange hi

/-- What takes the place of something is undone as what it takes the place of is dropped. -/
theorem stated_replaceChanges {p : Part} {drop create : String} (hd : IsStatement drop)
    (hc : IsStatement create) : ∀ c ∈ replaceChanges drop create, p.Stated c := by
  intro c h
  rcases List.mem_cons.mp h with rfl | h
  · exact ⟨hd, .nothing⟩
  · obtain rfl := List.mem_singleton.mp h
    exact ⟨hc, .statement hd⟩

theorem Policy.isStatement_dropSql (p : Policy) : IsStatement p.dropSql := by
  have h : Begins "drop policy if exists " := ⟨'d', rfl, rfl⟩
  exact isStatement_append (((h.append _).append _).append _) rfl

theorem Policy.isStatement_createSql (p : Policy) : IsStatement p.createSql := by
  have h : Begins "create policy " := ⟨'c', rfl, rfl⟩
  exact isStatement_append ((((((((h.append _).append _).append _).append _).append _).append
    _).append _).append _) rfl

theorem stated_policy (p : Policy) : ∀ c ∈ p.block.changes, (Part.policy p).Stated c := by
  simp only [Policy.block]
  split
  · exact stated_replaceChanges p.isStatement_dropSql p.isStatement_createSql
  · intro c hc
    cases hc

theorem Trigger.isStatement_dropSql (t : Trigger) : IsStatement t.dropSql := by
  have h : Begins "drop trigger if exists " := ⟨'d', rfl, rfl⟩
  exact isStatement_append (((h.append _).append _).append _) rfl

theorem Trigger.isStatement_createSql (t : Trigger) : IsStatement t.createSql := by
  have h : Begins "create trigger " := ⟨'c', rfl, rfl⟩
  refine isStatement_append ?_ (getLast?_append _ rfl)
  exact (((((((h.append _).append _).append _).append _).append _).append _).append _).append _

theorem stated_trigger (t : Trigger) : ∀ c ∈ t.block.changes, (Part.trigger t).Stated c := by
  simp only [Trigger.block]
  split
  · split
    · intro c hc
      cases hc
    · exact stated_replaceChanges t.isStatement_dropSql t.isStatement_createSql
  · intro c hc
    cases hc

theorem undone_inverse (f : Routine) : (Part.function f).Undone f.inverse := by
  have hd : Begins "drop function if exists " := ⟨'d', rfl, rfl⟩
  generalize hf : f.inverse = i
  have hi := hf
  simp only [Routine.inverse] at hi
  split at hi
  · subst hi
    exact .manual rfl hf
  split at hi
  · subst hi
    exact .manual rfl hf
  · subst hi
    exact .statement (isStatement_append (hd.append _) rfl)

theorem begins_head (f : Routine) : Begins f.head := by
  have h : Begins "create or replace function " := ⟨'c', rfl, rfl⟩
  exact ((((h.append _).append _).append _).append _).append _

theorem stated_function (f : Routine) : ∀ c ∈ f.block.changes, (Part.function f).Stated c := by
  have h : IsStatement f.createSql :=
    isStatement_append (((begins_head f).append _).append _) rfl
  simp only [Routine.block]
  split
  · intro c hc
    obtain rfl := List.mem_singleton.mp hc
    refine ⟨h, ?_⟩
    dsimp only
    exact undone_inverse f
  · intro c hc
    cases hc

/-- Rows are overwritten by one statement, which nothing undoes. -/
theorem stated_upsertChange {p : Part} (u : Upsert) : ∀ c ∈ [upsertChange u], p.Stated c := by
  intro c hc
  obtain rfl := List.mem_singleton.mp hc
  exact ⟨isStatement_upsert u, .nothing⟩

theorem Part.stated (p : Part) : ∀ c ∈ p.changes, p.Stated c := by
  cases p with
  | table t => exact stated_table t
  | policy p => exact stated_policy p
  | trigger t => exact stated_trigger t
  | function f => exact stated_function f
  | setting o s => exact stated_upsertChange (s.upsert o)
  | preference o p =>
    simp only [changes]
    cases p.setting? with
    | none =>
      intro c hc
      cases hc
    | some s => exact stated_upsertChange (s.upsert o)
  | bucket b =>
    simp only [changes, Bucket.block]
    split
    · exact stated_upsertChange b.upsert
    · intro c hc
      cases hc
  | remoteFunction f =>
    simp only [changes, RemoteFunction.block]
    split
    · exact stated_upsertChange f.upsert
    · intro c hc
      cases hc

end stated

section sent

variable {p : Part} {i : Inverse} {s : String} {xs : List String}

theorem dropBlankEnd_cons {c : Char} (h : isBlank c = false) (cs : List Char) :
    dropBlankEnd (c :: cs) = c :: dropBlankEnd cs := by
  have hc : [c].dropWhile isBlank = [c] := List.dropWhile_cons_of_neg (by simp [h])
  rw [dropBlankEnd, List.reverse_cons, List.dropWhile_append, hc, dropBlankEnd]
  split
  · rename_i he
    rw [List.isEmpty_iff.mp he]
    rfl
  · simp

theorem startsWith_append (start text : String) : startsWith (start ++ text) start = true := by
  rw [startsWith, String.toList_append]
  exact List.isPrefixOf_iff_prefix.mpr (List.prefix_append _ _)

/-- A comment stays one when it is trimmed. -/
theorem not_isSent_trim_comment (text : String) : isSent (trim ("--" ++ text)) = false := by
  have hd : isBlank '-' = false := rfl
  have ht : (trim ("--" ++ text)).toList = '-' :: '-' :: dropBlankEnd text.toList := by
    have hl : ("--" ++ text).toList = '-' :: '-' :: text.toList := String.toList_append
    have hw : ('-' :: '-' :: text.toList).dropWhile isBlank = '-' :: '-' :: text.toList :=
      List.dropWhile_cons_of_neg (by simp [hd])
    rw [trim, String.toList_ofList, trimChars, hl, hw, dropBlankEnd_cons hd, dropBlankEnd_cons hd]
  have hs : startsWith (trim ("--" ++ text)) "--" = true := by
    rw [startsWith, ht]
    rfl
  simp [isSent, hs]

theorem placeholder_begins (object reason : String) :
    ∃ text, Inverse.placeholder object reason = "--" ++ text := by
  have h : "-- manual rollback required for function " =
      "--" ++ " manual rollback required for function " := by
    decide
  unfold Inverse.placeholder
  exact exists_append (exists_append (exists_append ⟨_, h⟩ _) _) _

/-- The statement that undoes a change, where there is one. -/
def Inverse.statement? : Inverse → Option String
  | .statement s => some s
  | _ => none

/-- What a change leaves in the rollback is a statement that is sent as it is, or a comment. -/
theorem Part.Undone.statement_or_comment (h : p.Undone i) (hs : i.sql? = some s) :
    i.statement? = some s ∧ IsStatement s ∨
      i.statement? = none ∧ startsWith s "--" = true ∧ isSent (trim s) = false := by
  cases h with
  | nothing => cases hs
  | statement h =>
    cases hs
    exact .inl ⟨rfl, h⟩
  | @manual f reason =>
    cases hs
    obtain ⟨text, ht⟩ := placeholder_begins (trim f.signature) reason
    rw [ht]
    exact .inr ⟨rfl, startsWith_append "--" text, not_isSent_trim_comment text⟩

theorem map_trim_of_statements (h : ∀ s ∈ xs, IsStatement s) : xs.map trim = xs :=
  (List.map_congr_left fun s hs => (h s hs).trim_eq).trans (List.map_id xs)

/-- No statement is skipped. -/
theorem sendable_of_statements (h : ∀ s ∈ xs, IsStatement s) : sendable xs = xs := by
  rw [sendable, map_trim_of_statements h, List.filter_eq_self]
  exact fun s hs => (h s hs).isSent

/-- So each has its place as its number. -/
theorem numberedFrom_of_statements (n : Nat) (h : ∀ s ∈ xs, IsStatement s) :
    numberedFrom n xs = xs.zipIdx n := by
  rw [numberedFrom, map_trim_of_statements h, List.filter_eq_self]
  rintro ⟨s, n⟩ hs
  obtain ⟨-, hs⟩ := List.mk_mem_zipIdx_iff_le_and_getElem?_sub.mp hs
  exact (h s (List.mem_of_getElem? hs)).isSent

end sent

namespace ChangeRequest

variable (r : ChangeRequest)

/-- The statements that undo a changeset, the last change first. -/
def undoing : List String :=
  (r.changes.filterMap fun c => c.inverse.statement?).reverse

theorem stated_of_mem_changes {r : ChangeRequest} {c : Change} (h : c ∈ r.changes) :
    ∃ p ∈ r.parts, p.Stated c := by
  rw [changes_eq_parts] at h
  obtain ⟨p, hp, hc⟩ := List.mem_flatMap.mp h
  exact ⟨p, hp, p.stated c hc⟩

theorem isStatement_of_mem_sql : ∀ s ∈ r.compile.sql, IsStatement s := by
  intro s hs
  obtain ⟨c, hc, rfl⟩ := List.mem_map.mp hs
  obtain ⟨p, -, hp⟩ := stated_of_mem_changes hc
  exact hp.forward

theorem rollbackSql_eq :
    r.compile.rollbackSql = (r.changes.filterMap fun c => c.inverse.sql?).reverse :=
  congrArg List.reverse List.filterMap_map

/-- What keeps statements and drops comments leaves of a rollback the statements that undo. -/
theorem filterMap_rollbackSql {f : String → Option String}
    (hf : ∀ s, IsStatement s → f s = some s)
    (hc : ∀ s, startsWith s "--" = true → isSent (trim s) = false → f s = none) :
    r.compile.rollbackSql.filterMap f = r.undoing := by
  rw [rollbackSql_eq, undoing, List.filterMap_reverse, List.filterMap_filterMap]
  refine congrArg List.reverse (List.filterMap_congr fun c hm => ?_)
  obtain ⟨p, -, hp⟩ := stated_of_mem_changes hm
  cases hs : c.inverse.sql? with
  | none =>
    rw [Inverse.sql?_eq_none_iff.mp hs]
    rfl
  | some s =>
    rw [Option.bind_some]
    rcases hp.inverse.statement_or_comment hs with ⟨hi, h⟩ | ⟨hi, h, hn⟩
    · rw [hi, hf s h]
    · rw [hi, hc s h hn]

/-- Nothing but comments is left out of a rollback. -/
theorem filter_rollbackSql :
    (r.compile.rollbackSql.filter fun s => !startsWith s "--") = r.undoing := by
  rw [← List.filterMap_eq_filter]
  refine r.filterMap_rollbackSql ?_ ?_
  · intro s h
    simp [Option.guard, h.not_comment]
  · intro s h _
    simp [Option.guard, h]

theorem sendable_sql : sendable r.compile.sql = r.compile.sql :=
  sendable_of_statements r.isStatement_of_mem_sql

theorem sendable_rollbackSql : sendable r.compile.rollbackSql = r.undoing := by
  rw [sendable, ← List.filterMap_eq_filter, List.filterMap_map]
  refine r.filterMap_rollbackSql ?_ ?_
  · intro s h
    simp [Option.guard, h.trim_eq, h.isSent]
  · intro s _ h
    simp [Option.guard, h]

end ChangeRequest

/-- A comment in a rollback stands for a function that has to be dropped by hand. -/
theorem Part.Undone.comment_iff {p : Part} {i : Inverse} {s : String} (h : p.Undone i)
    (hs : i.sql? = some s) :
    startsWith s "--" = true ↔
      ∃ f reason, p = .function f ∧ f.inverse = .manual (trim f.signature) reason ∧
        s = Inverse.placeholder (trim f.signature) reason := by
  cases h with
  | nothing => cases hs
  | statement h =>
    cases hs
    refine iff_of_false (by simp [h.not_comment]) ?_
    rintro ⟨f, reason, -, -, rfl⟩
    obtain ⟨text, ht⟩ := placeholder_begins (trim f.signature) reason
    have hn := h.not_comment
    rw [ht, startsWith_append] at hn
    cases hn
  | @manual f reason hp hf =>
    cases hs
    refine iff_of_true ?_ ⟨f, reason, hp, hf, rfl⟩
    obtain ⟨text, ht⟩ := placeholder_begins (trim f.signature) reason
    rw [ht]
    exact startsWith_append "--" text

end Evolution
