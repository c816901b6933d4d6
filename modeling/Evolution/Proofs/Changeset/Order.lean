import Evolution.Proofs.Changeset.Part

/-! Which statements of a changeset come first. Triggers are compiled before functions, so that a
trigger is created before the function that it calls. -/
namespace Evolution

open Sql
open Text (trim nonBlank?)

/-- One text stands somewhere before another. -/
def Precedes (texts : List String) (first second : String) : Prop :=
  [first, second].Sublist texts

section Precedes

variable {xs ys : List String} {s t : String}

theorem precedes_append (hs : s ∈ xs) (ht : t ∈ ys) : Precedes (xs ++ ys) s t :=
  (List.singleton_sublist.mpr hs).append (List.singleton_sublist.mpr ht)

theorem not_precedes_append (hs : s ∉ xs) (ht : t ∉ ys) : ¬ Precedes (xs ++ ys) s t := by
  intro h
  obtain ⟨l, l', hl, hx, hy⟩ := List.sublist_append_iff.mp h
  cases l with
  | nil =>
    rw [List.nil_append] at hl
    exact ht (hy.subset (hl ▸ by simp))
  | cons a l =>
    obtain ⟨rfl, -⟩ := List.cons.inj hl
    exact hs (hx.subset List.mem_cons_self)

end Precedes

/-- The kind of an entity; a preference is a setting. -/
def Part.kind : Part → EntityKind
  | table _ => .table
  | policy _ => .policy
  | trigger _ => .trigger
  | function _ => .function
  | setting _ _ | preference _ _ => .setting
  | bucket _ => .bucket
  | remoteFunction _ => .remoteFunction

section Part

variable {p : Part} {forward back rest : String} {c : Change}

theorem Undoes.kind_of_create_function (h : Undoes p forward back)
    (hf : forward = "create or replace function " ++ rest) : p.kind = .function := by
  replace hf := congrArg (fun s => s.toList.take 9) hf
  cases h with
  | function => rfl
  | byHand => rfl
  | index _ hu =>
    rcases hu with rfl | rfl <;> simp [toString] at hf
  | _ => simp [toString] at hf

theorem Undoes.kind_of_create_trigger (h : Undoes p forward back)
    (hf : forward = "create trigger " ++ rest) : p.kind = .trigger := by
  -- nine characters tell the created things from each other
  replace hf := congrArg (fun s => s.toList.take 9) hf
  cases h with
  | trigger => rfl
  | index _ hu =>
    rcases hu with rfl | rfl <;> simp [toString] at hf
  | _ => simp [toString] at hf

theorem Undoes.kind_of_drop_function (h : Undoes p forward back)
    (hb : back = "drop function if exists " ++ rest) : p.kind = .function := by
  replace hb := congrArg (fun s => s.toList.take 7) hb
  cases h with
  | function => rfl
  | byHand => rfl
  | _ => simp [toString] at hb

theorem Undoes.kind_of_drop_trigger (h : Undoes p forward back)
    (hb : back = "drop trigger if exists " ++ rest) : p.kind = .trigger := by
  replace hb := congrArg (fun s => s.toList.take 7) hb
  cases h with
  | trigger => rfl
  | _ => simp [toString] at hb

theorem Undoes.head_of_back (h : Undoes p forward back) : back.toList.head? ≠ some 'c' := by
  cases h <;> simp [toString]

/-- A statement that creates anything is undone, as one of its entity. -/
theorem Contributes.undone_or_head {changes : List Change} (h : Contributes p changes)
    (hc : c ∈ changes) :
    c.IsUndone p ∨ c.inverse = .nothing ∧ c.forward.toList.head? ≠ some 'c' := by
  have replaced {drop create : String} (h : Undoes p create drop)
      (hc : c ∈ [⟨drop, .nothing⟩, ⟨create, .statement drop⟩]) :
      c.IsUndone p ∨ c.inverse = .nothing ∧ c.forward.toList.head? ≠ some 'c' := by
    rcases List.mem_cons.mp hc with rfl | hc
    · exact .inr ⟨rfl, h.head_of_back⟩
    · obtain rfl := List.mem_singleton.mp hc
      exact .inl ⟨drop, rfl, h⟩
  have overwritten {u : Upsert} (hc : c ∈ [⟨u.sql, .nothing⟩]) :
      c.inverse = .nothing ∧ c.forward.toList.head? ≠ some 'c' := by
    obtain rfl := List.mem_singleton.mp hc
    obtain ⟨rest, hu⟩ := upsert_inserts u
    exact ⟨rfl, by simp [hu]⟩
  cases h with
  | created _ hs =>
    rcases List.mem_cons.mp hc with rfl | hc
    · exact .inl ⟨_, rfl, .table _⟩
    by_cases hi : c.inverse = .nothing
    · have hf := (hs c hc).1.mp hi
      exact .inr ⟨hi, by simp [hf, Table.securitySql, toString]⟩
    · exact .inl ((hs c hc).2 hi)
  | altered _ hs => exact .inl (hs c hc)
  | policy h => exact replaced h hc
  | trigger h => exact replaced h hc
  | function h =>
    obtain rfl := List.mem_singleton.mp hc
    exact .inl h
  | setting => exact .inr (overwritten hc)
  | preference => exact .inr (overwritten hc)
  | bucket => exact .inr (overwritten hc)
  | remoteFunction => exact .inr (overwritten hc)

theorem Part.undone_or_head (hc : c ∈ p.changes) :
    c.IsUndone p ∨ c.inverse = .nothing ∧ c.forward.toList.head? ≠ some 'c' := by
  cases p.paired with
  | skipped _ hn =>
    rw [hn] at hc
    cases hc
  | contributed _ h => exact h.undone_or_head hc

theorem Part.kind_of_create_function (hc : c ∈ p.changes)
    (hf : c.forward = "create or replace function " ++ rest) : p.kind = .function := by
  obtain ⟨_, -, h⟩ | ⟨-, h⟩ := p.undone_or_head hc
  · exact h.kind_of_create_function hf
  · simp [hf] at h

theorem Part.kind_of_create_trigger (hc : c ∈ p.changes)
    (hf : c.forward = "create trigger " ++ rest) : p.kind = .trigger := by
  obtain ⟨_, -, h⟩ | ⟨-, h⟩ := p.undone_or_head hc
  · exact h.kind_of_create_trigger hf
  · simp [hf] at h

/-- Whatever the rollback says of a change, it undoes it. -/
theorem Part.undoes_of_sql? (hc : c ∈ p.changes) (hb : c.inverse.sql? = some back) :
    Undoes p c.forward back := by
  obtain ⟨back', hb', h⟩ | ⟨hn, -⟩ := p.undone_or_head hc
  · cases hb.symm.trans hb'
    exact h
  · rw [hn] at hb
    cases hb

end Part

section texts

theorem Trigger.createSql_begins (t : Trigger) :
    ∃ rest, t.createSql = "create trigger " ++ rest := by
  unfold Trigger.createSql
  simp only [String.append_assoc]
  exact ⟨_, rfl⟩

theorem Trigger.dropSql_begins (t : Trigger) :
    ∃ rest, t.dropSql = "drop trigger if exists " ++ rest := by
  unfold Trigger.dropSql
  simp only [String.append_assoc]
  exact ⟨_, rfl⟩

theorem Routine.createSql_begins (f : Routine) :
    ∃ rest, f.createSql = "create or replace function " ++ rest := by
  unfold Routine.createSql Routine.head
  simp only [String.append_assoc]
  exact ⟨_, rfl⟩

theorem Routine.inverse_begins {f : Routine} {drop : String} (h : f.inverse = .statement drop) :
    ∃ rest, drop = "drop function if exists " ++ rest := by
  simp only [inverse] at h
  split at h
  · cases h
  split at h
  · cases h
  · obtain rfl := Inverse.statement.inj h
    simp only [String.append_assoc]
    exact ⟨_, rfl⟩

theorem Trigger.changes_of_ne_nil {t : Trigger} (h : (Part.trigger t).changes ≠ []) :
    (Part.trigger t).changes = replaceChanges t.dropSql t.createSql := by
  simp only [Part.changes, Trigger.block] at h ⊢
  split
  · split
    · simp_all
    · rfl
  · simp_all

theorem Routine.changes_of_ne_nil {f : Routine} (h : (Part.function f).changes ≠ []) :
    (Part.function f).changes = [⟨f.createSql, f.inverse⟩] := by
  simp only [Part.changes, Routine.block] at h ⊢
  split
  · rfl
  · simp_all

end texts

namespace ChangeRequest

/-- The entities down to the triggers. -/
def partsToTriggers (r : ChangeRequest) : List Part :=
  let s := r.desiredState
  s.tables.map .table ++ s.policies.map .policy ++ s.triggers.map .trigger

/-- The entities from the functions on. -/
def partsFromFunctions (r : ChangeRequest) : List Part :=
  let s := r.desiredState
  s.functions.map .function ++ s.authSettings.settings.map (.setting r.owner) ++
    s.apiSettings.settings.map (.setting r.owner) ++ s.preferences.map (.preference r.owner) ++
    s.buckets.map .bucket ++ s.remoteFunctions.map .remoteFunction

theorem parts_split (r : ChangeRequest) : r.parts = r.partsToTriggers ++ r.partsFromFunctions := by
  simp only [parts, partsToTriggers, partsFromFunctions, List.append_assoc]

variable {r : ChangeRequest} {p : Part} {t : Trigger} {f : Routine} {drop : String}

theorem kind_ne_function (hp : p ∈ r.partsToTriggers) : p.kind ≠ .function := by
  simp only [partsToTriggers, List.mem_append, List.mem_map] at hp
  rcases hp with (⟨_, -, rfl⟩ | ⟨_, -, rfl⟩) | ⟨_, -, rfl⟩ <;> nofun

theorem kind_ne_trigger (hp : p ∈ r.partsFromFunctions) : p.kind ≠ .trigger := by
  simp only [partsFromFunctions, List.mem_append, List.mem_map] at hp
  rcases hp with ((((⟨_, -, rfl⟩ | ⟨_, -, rfl⟩) | ⟨_, -, rfl⟩) | ⟨_, -, rfl⟩) | ⟨_, -, rfl⟩) |
    ⟨_, -, rfl⟩ <;> nofun

/-- The statements of some entities. -/
def forwardsOf (ps : List Part) : List String :=
  ps.flatMap fun p => p.changes.map Change.forward

/-- The statements that undo some entities, the last one first. -/
def undosOf (ps : List Part) : List String :=
  (ps.flatMap fun p => p.changes.filterMap fun c => c.inverse.sql?).reverse

theorem sql_split (r : ChangeRequest) :
    r.compile.sql = forwardsOf r.partsToTriggers ++ forwardsOf r.partsFromFunctions := by
  have h : r.compile.sql = r.changes.map Change.forward := rfl
  rw [h, changes_eq_parts, List.map_flatMap, parts_split, List.flatMap_append]
  rfl

theorem rollbackSql_split (r : ChangeRequest) :
    r.compile.rollbackSql = undosOf r.partsFromFunctions ++ undosOf r.partsToTriggers := by
  have h : r.compile.rollbackSql = (r.changes.filterMap fun c => c.inverse.sql?).reverse :=
    congrArg List.reverse List.filterMap_map
  rw [h, changes_eq_parts, List.filterMap_flatMap, parts_split, List.flatMap_append,
    List.reverse_append]
  rfl

theorem mem_forwardsOf {ps : List Part} {s : String} :
    s ∈ forwardsOf ps ↔ ∃ p ∈ ps, ∃ c ∈ p.changes, c.forward = s := by
  simp only [forwardsOf, List.mem_flatMap, List.mem_map]

theorem mem_undosOf {ps : List Part} {s : String} :
    s ∈ undosOf ps ↔ ∃ p ∈ ps, ∃ c ∈ p.changes, c.inverse.sql? = some s := by
  simp only [undosOf, List.mem_reverse, List.mem_flatMap, List.mem_filterMap]

theorem mem_partsToTriggers (ht : t ∈ r.desiredState.triggers) :
    .trigger t ∈ r.partsToTriggers :=
  List.mem_append_right _ (List.mem_map_of_mem ht)

theorem mem_partsFromFunctions (hf : f ∈ r.desiredState.functions) :
    .function f ∈ r.partsFromFunctions := by
  simp [partsFromFunctions, hf]

theorem createFunction_not_early : f.createSql ∉ forwardsOf r.partsToTriggers := by
  intro h
  obtain ⟨p, hp, c, hc, he⟩ := mem_forwardsOf.mp h
  obtain ⟨rest, hf⟩ := f.createSql_begins
  exact kind_ne_function hp (p.kind_of_create_function hc (he.trans hf))

theorem createTrigger_not_late : t.createSql ∉ forwardsOf r.partsFromFunctions := by
  intro h
  obtain ⟨p, hp, c, hc, he⟩ := mem_forwardsOf.mp h
  obtain ⟨rest, ht⟩ := t.createSql_begins
  exact kind_ne_trigger hp (p.kind_of_create_trigger hc (he.trans ht))

theorem dropFunction_not_early (hf : f.inverse = .statement drop) :
    drop ∉ undosOf r.partsToTriggers := by
  intro h
  obtain ⟨p, hp, c, hc, he⟩ := mem_undosOf.mp h
  obtain ⟨rest, rfl⟩ := f.inverse_begins hf
  exact kind_ne_function hp ((p.undoes_of_sql? hc he).kind_of_drop_function rfl)

theorem dropTrigger_not_late : t.dropSql ∉ undosOf r.partsFromFunctions := by
  intro h
  obtain ⟨p, hp, c, hc, he⟩ := mem_undosOf.mp h
  obtain ⟨rest, ht⟩ := t.dropSql_begins
  exact kind_ne_trigger hp ((p.undoes_of_sql? hc he).kind_of_drop_trigger ht)

/-- Of an emitted trigger and an emitted function of one request, the trigger is created first and
dropped last. -/
theorem triggers_outlast_functions (ht : t ∈ r.desiredState.triggers)
    (hf : f ∈ r.desiredState.functions) (ht' : (Part.trigger t).changes ≠ [])
    (hf' : (Part.function f).changes ≠ []) :
    Precedes r.compile.sql t.createSql f.createSql ∧
      ¬ Precedes r.compile.sql f.createSql t.createSql ∧
      ∀ drop, f.inverse = .statement drop →
        Precedes r.compile.rollbackSql drop t.dropSql ∧
          ¬ Precedes r.compile.rollbackSql t.dropSql drop := by
  have hpt := mem_partsToTriggers ht
  have hpf := mem_partsFromFunctions hf
  have htc := t.changes_of_ne_nil ht'
  have hfc := f.changes_of_ne_nil hf'
  rw [sql_split, rollbackSql_split]
  refine ⟨?_, not_precedes_append createFunction_not_early createTrigger_not_late, ?_⟩
  · refine precedes_append (mem_forwardsOf.mpr ?_) (mem_forwardsOf.mpr ?_)
    · exact ⟨_, hpt, ⟨t.createSql, .statement t.dropSql⟩, by simp [htc, replaceChanges], rfl⟩
    · exact ⟨_, hpf, ⟨f.createSql, f.inverse⟩, by simp [hfc], rfl⟩
  · intro drop hd
    refine ⟨?_, not_precedes_append dropTrigger_not_late (dropFunction_not_early hd)⟩
    refine precedes_append (mem_undosOf.mpr ?_) (mem_undosOf.mpr ?_)
    · exact ⟨_, hpf, ⟨f.createSql, f.inverse⟩, by simp [hfc], by rw [hd]; rfl⟩
    · exact ⟨_, hpt, ⟨t.createSql, .statement t.dropSql⟩, by simp [htc, replaceChanges], rfl⟩

def touched : Trigger where
  table := "notes"
  name := "touched"
  events := [.update]
  functionName := "touch"

def touch : Routine where
  signature := "touch()"
  returns := "trigger"
  body := "begin return new; end;"

/-- A trigger with the function that it calls. -/
def touching : ChangeRequest where
  moduleName := "notes"
  title := "Touch notes"
  desiredState := { triggers := [touched], functions := [touch] }

theorem triggers_outlast_functions_touching :
    touched.function = touch.name ∧
      Precedes touching.compile.sql touched.createSql touch.createSql ∧
      Precedes touching.compile.rollbackSql "drop function if exists touch();"
        touched.dropSql := by
  have h := triggers_outlast_functions (r := touching) (t := touched) (f := touch)
    List.mem_cons_self List.mem_cons_self (by decide +kernel) (by decide +kernel)
  exact ⟨by decide +kernel, h.1, (h.2.2 _ (by decide +kernel)).1⟩

/-- Lower-case letters, digits and underscores, with at most one dot. -/
def IsPlainName (name : String) : Prop :=
  (∀ c ∈ name.toList, c.isLower ∨ c.isDigit ∨ c = '_' ∨ c = '.') ∧ name.toList.count '.' ≤ 1

instance (name : String) : Decidable (IsPlainName name) :=
  @instDecidableAnd _ _ (List.decidableBAll _ _) inferInstance

/-- A function does not always come before the trigger that calls it. -/
theorem functions_not_before_triggers :
    ¬ ∀ (r : ChangeRequest) (t : Trigger) (f : Routine), t ∈ r.desiredState.triggers →
      f ∈ r.desiredState.functions → (Part.trigger t).changes ≠ [] →
      (Part.function f).changes ≠ [] → t.function = f.name → IsPlainName f.name →
      Precedes r.compile.sql f.createSql t.createSql ∧
        ∀ drop, f.inverse = .statement drop →
          Precedes r.compile.rollbackSql t.dropSql drop := by
  intro h
  have hname : IsPlainName touch.name := by decide +kernel
  have hp := (h touching touched touch List.mem_cons_self List.mem_cons_self (by decide +kernel)
    (by decide +kernel) (by decide +kernel) hname).1
  rw [sql_split] at hp
  exact not_precedes_append createFunction_not_early createTrigger_not_late hp

end ChangeRequest
end Evolution
