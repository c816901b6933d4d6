import Evolution.Proofs.Changeset.Omission
import Mathlib.Data.Set.Card

/-! What a changeset touches. Its impact names the entities for which it has statements, each by its
kind, and one thing more: a table of which nothing is asked is named as if it were touched. -/
namespace Evolution

open Text (trim nonBlank?)

instance {name : String} {names : NameSet} : Decidable (name ∈ names) :=
  inferInstanceAs (Decidable (name ∈ names.toList))

section names

variable {kind : EntityKind} {name : String} {entities : List Entity}

theorem NameSet.mem_ofList {names : List String} : name ∈ NameSet.ofList names ↔ name ∈ names := by
  have hfold (kept : NameSet) : name ∈ names.foldl insert kept ↔ name ∈ kept ∨ name ∈ names := by
    induction names generalizing kept with
    | nil => simp
    | cons n names ih =>
      rw [List.foldl_cons, ih, mem_insert, List.mem_cons]
      grind
  have hempty : name ∉ empty := List.not_mem_nil
  exact (hfold empty).trans (or_iff_right hempty)

/-- A set of names has as many of them as it says. -/
theorem NameSet.size_eq_ncard (names : NameSet) : names.size = {name | name ∈ names}.ncard := by
  have hnodup : names.toList.Nodup := by
    refine names.ascending.imp fun {m n} h => ?_
    rintro rfl
    exact String.lt_irrefl m h
  have hset : {name | name ∈ names} = (names.toList.toFinset : Set String) := by
    ext name
    rw [List.coe_toFinset]
    rfl
  rw [hset, Set.ncard_coe_finset, List.toFinset_card_of_nodup hnodup]
  rfl

theorem mem_namesOf : name ∈ namesOf kind entities ↔ ⟨kind, name⟩ ∈ entities := by
  rw [namesOf, NameSet.mem_ofList, List.mem_map]
  constructor
  · rintro ⟨e, he, rfl⟩
    obtain ⟨he, hk⟩ := List.mem_filter.mp he
    rwa [← eq_of_beq hk]
  · intro h
    exact ⟨_, List.mem_filter.mpr ⟨h, BEq.rfl⟩, rfl⟩

/-- The names of one kind. -/
def Impact.names (i : Impact) : EntityKind → NameSet
  | .table => i.tables
  | .policy => i.policies
  | .trigger => i.triggers
  | .function => i.functions
  | .bucket => i.buckets
  | .remoteFunction => i.remoteFunctions
  | .setting => i.settingsKeys

theorem Impact.mem_names_of {warnings : List Warning} :
    name ∈ (Impact.of entities warnings).names kind ↔ ⟨kind, name⟩ ∈ entities := by
  rw [← mem_namesOf]
  cases kind <;> rfl

/-- A summary of so many entities of each kind. -/
def summaryOf (count : EntityKind → Nat) : String :=
  s!"{count .table} table(s), {count .policy} policy(ies), {count .trigger} trigger(s), " ++
    s!"{count .function} function(s), {count .setting} setting(s), " ++
    s!"{count .bucket} bucket(s), {count .remoteFunction} remote function(s)"

end names

/-- What an entity of a request is about: itself, and the table that it belongs to. -/
def Part.entities : Part → List Entity
  | table t => [⟨.table, trim t.name⟩]
  | policy p => [⟨.table, trim p.table⟩, ⟨.policy, trim p.name⟩]
  | trigger t => [⟨.table, trim t.table⟩, ⟨.trigger, trim t.name⟩]
  | function f => [⟨.function, f.name⟩]
  | setting _ s => [⟨.setting, s.key⟩]
  | preference _ p => [⟨.setting, "pref." ++ trim p.key⟩]
  | bucket b => [⟨.bucket, trim b.name⟩]
  | remoteFunction f => [⟨.remoteFunction, trim f.name⟩]

/-- What is entered into the impact for an entity. -/
def Part.touches : Part → List Entity
  | table t => t.block.touches
  | policy p => p.block.touches
  | trigger t => t.block.touches
  | function f => f.block.touches
  | setting o s => (s.block o).touches
  | preference o p => p.setting?.toList.flatMap fun s => (s.block o).touches
  | bucket b => b.block.touches
  | remoteFunction f => f.block.touches

/-- A table that has a name, and of which nothing is asked. -/
def Table.IsBare (t : Table) : Prop :=
  isBlankText t.name = false ∧ t.block.changes = []

section touches

variable {p : Part} {e : Entity}

theorem Table.mem_touches {t : Table} :
    e ∈ t.block.touches ↔ e = ⟨.table, trim t.name⟩ ∧ isBlankText t.name = false := by
  unfold block isBlankText
  dsimp only
  cases (trim t.name).isEmpty <;> simp

theorem Table.isBlankText_of_changes {t : Table} (h : t.block.changes ≠ []) :
    isBlankText t.name = false := by
  by_contra hn
  rw [Bool.not_eq_false, isBlankText] at hn
  simp [block, hn] at h

theorem Policy.mem_touches {p : Policy} : e ∈ (Part.policy p).touches ↔
    e ∈ (Part.policy p).entities ∧ (Part.policy p).changes ≠ [] := by
  simp only [Part.touches, Part.changes, block]
  cases ht : isBlankText p.table with
  | true => simp [nonBlank?_of_blank ht]
  | false =>
    rw [nonBlank?_of_not_blank ht]
    cases hn : isBlankText p.name with
    | true => simp [nonBlank?_of_blank hn]
    | false => simp [nonBlank?_of_not_blank hn, replaceChanges, Part.entities]

theorem Trigger.mem_touches {t : Trigger} : e ∈ (Part.trigger t).touches ↔
    e ∈ (Part.trigger t).entities ∧ (Part.trigger t).changes ≠ [] := by
  simp only [Part.touches, Part.changes, block]
  cases ht : isBlankText t.table with
  | true => simp [nonBlank?_of_blank ht]
  | false =>
    rw [nonBlank?_of_not_blank ht]
    cases hn : isBlankText t.name with
    | true => simp [nonBlank?_of_blank hn]
    | false =>
      rw [nonBlank?_of_not_blank hn]
      cases t.events.isEmpty <;> simp [replaceChanges, Part.entities]

theorem Routine.mem_touches {f : Routine} : e ∈ (Part.function f).touches ↔
    e ∈ (Part.function f).entities ∧ (Part.function f).changes ≠ [] := by
  simp only [Part.touches, Part.changes, block]
  cases hs : isBlankText f.signature with
  | true => simp [nonBlank?_of_blank hs]
  | false =>
    rw [nonBlank?_of_not_blank hs]
    cases hb : isBlankText f.body with
    | true => simp [nonBlank?_of_blank hb]
    | false => simp [nonBlank?_of_not_blank hb, Part.entities]

theorem Preference.mem_touches {o : Owner} {p : Preference} : e ∈ (Part.preference o p).touches ↔
    e ∈ (Part.preference o p).entities ∧ (Part.preference o p).changes ≠ [] := by
  simp only [Part.touches, Part.changes, setting?]
  cases hk : isBlankText p.key with
  | true => simp [nonBlank?_of_blank hk]
  | false => simp [nonBlank?_of_not_blank hk, Setting.block, Part.entities]

theorem Bucket.mem_touches {b : Bucket} : e ∈ (Part.bucket b).touches ↔
    e ∈ (Part.bucket b).entities ∧ (Part.bucket b).changes ≠ [] := by
  simp only [Part.touches, Part.changes, block]
  cases hn : isBlankText b.name with
  | true => simp [nonBlank?_of_blank hn]
  | false => simp [nonBlank?_of_not_blank hn, Part.entities]

theorem RemoteFunction.mem_touches {f : RemoteFunction} : e ∈ (Part.remoteFunction f).touches ↔
    e ∈ (Part.remoteFunction f).entities ∧ (Part.remoteFunction f).changes ≠ [] := by
  simp only [Part.touches, Part.changes, block]
  cases hn : isBlankText f.name with
  | true => simp [nonBlank?_of_blank hn]
  | false => simp [nonBlank?_of_not_blank hn, Part.entities]

/-- What is about an entity is entered where the entity has a statement, and for a bare table. -/
theorem Part.mem_touches : e ∈ p.touches ↔ e ∈ p.entities ∧
    (p.changes ≠ [] ∨ ∃ t, p = .table t ∧ t.IsBare) := by
  cases p with
  | table t =>
    have hbare : (∃ t', Part.table t = .table t' ∧ t'.IsBare) ↔ t.IsBare := by
      constructor
      · rintro ⟨t', ht, hb⟩
        cases ht
        exact hb
      · exact fun h => ⟨t, rfl, h⟩
    rw [hbare, touches, Table.mem_touches, entities, List.mem_singleton, changes]
    refine and_congr_right fun _ => ⟨fun hn => ?_, ?_⟩
    · exact (em (t.block.changes = [])).elim (fun h => .inr ⟨hn, h⟩) .inl
    · rintro (h | h)
      · exact Table.isBlankText_of_changes h
      · exact h.1
  | policy p => simpa using Policy.mem_touches
  | trigger t => simpa using Trigger.mem_touches
  | function f => simpa using Routine.mem_touches
  | setting o s => simp [touches, changes, Setting.block, entities]
  | preference o p => simpa using Preference.mem_touches
  | bucket b => simpa using Bucket.mem_touches
  | remoteFunction f => simpa using RemoteFunction.mem_touches

end touches

namespace ChangeRequest

variable {r : ChangeRequest} {kind : EntityKind} {name : String}

theorem touches_eq_parts (r : ChangeRequest) :
    r.blocks.flatMap Block.touches = r.parts.flatMap Part.touches := by
  have hpreferences : ((r.desiredState.preferences.filterMap Preference.setting?).flatMap
      fun s => (s.block r.owner).touches) =
        r.desiredState.preferences.flatMap fun p => (Part.preference r.owner p).touches := by
    rw [List.filterMap_eq_flatMap_toList, List.flatMap_assoc]
    rfl
  simp only [blocks, parts, settings, List.flatMap_append, List.flatMap_map,
    List.flatMap_singleton, hpreferences, List.append_assoc, List.map_append]
  rfl

/-- A statement of the changeset is about it. -/
def Touches (r : ChangeRequest) (e : Entity) : Prop :=
  ∃ p ∈ r.parts, p.changes ≠ [] ∧ e ∈ p.entities

theorem mem_names_iff : name ∈ r.compile.impact.names kind ↔
    r.Touches ⟨kind, name⟩ ∨
      kind = .table ∧ ∃ t ∈ r.desiredState.tables, t.IsBare ∧ name = trim t.name := by
  have himpact : r.compile.impact = .of (r.blocks.flatMap Block.touches) r.warnings := rfl
  rw [himpact, Impact.mem_names_of, touches_eq_parts, List.mem_flatMap]
  simp only [Part.mem_touches]
  constructor
  · rintro ⟨p, hp, he, hc | ⟨t, rfl, ht⟩⟩
    · exact .inl ⟨p, hp, hc, he⟩
    · have hmem : t ∈ r.desiredState.tables := by simpa [parts] using hp
      obtain ⟨rfl, rfl⟩ := Entity.mk.inj (List.mem_singleton.mp he)
      exact .inr ⟨rfl, t, hmem, ht, rfl⟩
  · rintro (⟨p, hp, hc, he⟩ | ⟨rfl, t, ht, hb, rfl⟩)
    · exact ⟨p, hp, he, .inl hc⟩
    · have hp : Part.table t ∈ r.parts := by simp [parts, ht]
      exact ⟨_, hp, List.mem_singleton_self _, .inr ⟨t, rfl, hb⟩⟩

theorem compile_summary_eq (h : r.summary.bind nonBlank? = none) :
    r.compile.summary =
      summaryOf fun kind => {name | name ∈ r.compile.impact.names kind}.ncard := by
  have hsummary : r.compile.summary = r.impact.summary := by
    rw [compile, h]
    rfl
  rw [hsummary]
  simp only [← NameSet.size_eq_ncard]
  rfl

/-- Each statement is made for an entity of the request. Policies, triggers, functions, settings,
buckets and remote functions are named in the impact exactly where a statement was made for one of
that name, and so are tables, by statements for them or for their policies and triggers; but a table
that has a name is named as well if there is no statement for it. Where every table that has a name
has a statement too, the impact tells what is touched, and a summary that is not given by the caller
counts it. -/
theorem impact_names_touched (r : ChangeRequest) :
    r.compile.sql = r.parts.flatMap (fun p => p.changes.map Change.forward) ∧
    (∀ kind name, name ∈ r.compile.impact.names kind ↔
      r.Touches ⟨kind, name⟩ ∨
        kind = .table ∧ ∃ t ∈ r.desiredState.tables, t.IsBare ∧ name = trim t.name) ∧
    ((∀ t ∈ r.desiredState.tables, ¬ t.IsBare) →
      (∀ kind name, name ∈ r.compile.impact.names kind ↔ r.Touches ⟨kind, name⟩) ∧
        (r.summary.bind nonBlank? = none →
          r.compile.summary = summaryOf fun kind => {name | r.Touches ⟨kind, name⟩}.ncard)) := by
  have hsql : r.compile.sql = r.changes.map Change.forward := rfl
  refine ⟨by rw [hsql, changes_eq_parts, List.map_flatMap], fun _ _ => mem_names_iff, ?_⟩
  intro hbare
  have hnames (kind : EntityKind) (name : String) :
      name ∈ r.compile.impact.names kind ↔ r.Touches ⟨kind, name⟩ := by
    refine mem_names_iff.trans (or_iff_left ?_)
    rintro ⟨-, t, ht, hb, -⟩
    exact hbare t ht hb
  refine ⟨hnames, fun hs => ?_⟩
  rw [compile_summary_eq hs]
  simp only [hnames]

/-- A trigger on a table that is not in the request, and a secured table. -/
def tagged : ChangeRequest where
  desiredState := {
    tables := [{ name := "notes", rowLevelSecurity := true }]
    triggers := [
      { table := "tags ", name := "touched", events := [.update], functionName := "touch" }] }

theorem impact_names_touched_tagged :
    (∀ t ∈ tagged.desiredState.tables, ¬ t.IsBare) ∧ tagged.summary.bind nonBlank? = none ∧
      tagged.Touches ⟨.table, "tags"⟩ ∧ "tags" ∈ tagged.compile.impact.names .table ∧
      tagged.compile.summary =
        summaryOf fun kind => {name | tagged.Touches ⟨kind, name⟩}.ncard := by
  have hbare : ∀ t ∈ tagged.desiredState.tables, ¬ t.IsBare := by
    intro t ht hb
    obtain rfl := List.mem_singleton.mp ht
    revert hb
    unfold Table.IsBare
    decide +kernel
  obtain ⟨hnames, hsummary⟩ := (impact_names_touched tagged).2.2 hbare
  have hnamed : "tags" ∈ tagged.compile.impact.names .table := by decide +kernel
  exact ⟨hbare, rfl, (hnames _ _).mp hnamed, hnamed, hsummary rfl⟩

/-- No statement is about a table of which nothing is asked, and the impact names it. -/
theorem bare_table_named :
    ¬ ∀ (r : ChangeRequest) (kind : EntityKind) (name : String),
      name ∈ r.compile.impact.names kind ↔ r.Touches ⟨kind, name⟩ := by
  intro h
  let bare : ChangeRequest := { desiredState := { tables := [{ name := "notes" }] } }
  have hnamed : "notes" ∈ bare.compile.impact.names .table := by decide +kernel
  obtain ⟨p, hp, hchanges, -⟩ := (h bare .table "notes").mp hnamed
  have hnothing : bare.parts.flatMap Part.changes = [] := by
    rw [← changes_eq_parts]
    decide +kernel
  exact hchanges (List.flatMap_eq_nil_iff.mp hnothing p hp)

end ChangeRequest
end Evolution
