import Evolution.Proofs.Changeset.Recompile
import Evolution.Proofs.Changeset.Touch

/-! How long the summary of a changeset can be. One that is given is only trimmed. One that is made
counts the entities of each kind, so its length grows with the digits of their number. -/
namespace Evolution

open Text (trim trimChars dropBlankEnd isBlank nonBlank?)

section trim

theorem length_dropBlankEnd_le (cs : List Char) : (dropBlankEnd cs).length ≤ cs.length := by
  have h : (cs.reverse.dropWhile isBlank).length ≤ cs.reverse.length :=
    (List.dropWhile_sublist isBlank).length_le
  rw [List.length_reverse] at h
  rwa [dropBlankEnd, List.length_reverse]

theorem length_trim_le (s : String) : (trim s).length ≤ s.length := by
  rw [trim, String.length_ofList, trimChars, ← String.length_toList]
  exact (length_dropBlankEnd_le _).trans (List.dropWhile_sublist isBlank).length_le

end trim

section counts

variable {name : String} {names : List String}

theorem length_insertName_le : (insertName name names).length ≤ names.length + 1 := by
  induction names with
  | nil => exact le_rfl
  | cons n rest ih =>
    rw [insertName]
    split
    · exact le_rfl
    · split
      · exact Nat.le_succ _
      · simpa using ih

theorem NameSet.size_ofList_le (names : List String) : (ofList names).size ≤ names.length := by
  have hfold (kept : NameSet) : (names.foldl insert kept).size ≤ kept.size + names.length := by
    induction names generalizing kept with
    | nil => exact le_rfl
    | cons n names ih =>
      have hone : (kept.insert n).size ≤ kept.size + 1 := length_insertName_le
      have hrest := ih (kept.insert n)
      simp only [List.foldl_cons, List.length_cons]
      omega
  exact (hfold empty).trans_eq (Nat.zero_add _)

theorem size_namesOf_le (kind : EntityKind) (entities : List Entity) :
    (namesOf kind entities).size ≤ entities.length := by
  apply (NameSet.size_ofList_le _).trans
  rw [List.length_map]
  exact List.length_filter_le _ _

/-- An entity is entered with the table that it belongs to, if it belongs to one. -/
theorem Part.length_touches_le (p : Part) : p.touches.length ≤ 2 := by
  cases p with
  | table t =>
    simp only [touches, Table.block]
    split <;> simp
  | policy p =>
    simp only [touches, Policy.block]
    split <;> simp
  | trigger t =>
    simp only [touches, Trigger.block]
    split
    · split <;> simp
    · simp
  | function f =>
    simp only [touches, Routine.block]
    split <;> simp
  | setting o s => simp [touches, Setting.block]
  | preference o p =>
    simp only [touches]
    cases p.setting? <;> simp [Setting.block]
  | bucket b =>
    simp only [touches, Bucket.block]
    split <;> simp
  | remoteFunction f =>
    simp only [touches, RemoteFunction.block]
    split <;> simp

theorem Part.length_flatMap_touches_le (ps : List Part) :
    (ps.flatMap touches).length ≤ 2 * ps.length := by
  induction ps with
  | nil => exact le_rfl
  | cons p ps ih =>
    have hp := p.length_touches_le
    rw [List.flatMap_cons, List.length_append, List.length_cons]
    omega

/-- All entities of a desired state, of whatever kind. Single settings are not counted. -/
def DesiredState.entityCount (s : DesiredState) : Nat :=
  s.tables.length + s.policies.length + s.triggers.length + s.functions.length +
    s.preferences.length + s.buckets.length + s.remoteFunctions.length

theorem AuthSettings.length_settings_le (a : AuthSettings) : a.settings.length ≤ 6 :=
  List.length_filterMap_le _ _

theorem ApiSettings.length_settings_le (a : ApiSettings) : a.settings.length ≤ 4 :=
  List.length_filterMap_le _ _

theorem ChangeRequest.length_parts_le (r : ChangeRequest) :
    r.parts.length ≤ r.desiredState.entityCount + 10 := by
  have hauth := r.desiredState.authSettings.length_settings_le
  have hapi := r.desiredState.apiSettings.length_settings_le
  simp only [parts, DesiredState.entityCount, List.length_append, List.length_map]
  omega

theorem ChangeRequest.size_names_le (r : ChangeRequest) (kind : EntityKind) :
    (r.impact.names kind).size ≤ 2 * (r.desiredState.entityCount + 10) := by
  have hnames : r.impact.names kind = namesOf kind (r.blocks.flatMap Block.touches) := by
    cases kind <;> rfl
  have hsize := size_namesOf_le kind (r.blocks.flatMap Block.touches)
  have htouches := Part.length_flatMap_touches_le r.parts
  have hparts := r.length_parts_le
  rw [r.touches_eq_parts] at hsize hnames
  rw [hnames]
  omega

end counts

section summary

variable {k : Nat} {count : EntityKind → Nat} {r : ChangeRequest}

/-- Seven numbers, and what is counted. -/
theorem length_summaryOf_le (hk : 0 < k) (h : ∀ kind, count kind < 10 ^ k) :
    (summaryOf count).length ≤ 7 * k + 96 := by
  have hdigits (kind : EntityKind) : (toString (count kind)).length ≤ k :=
    (Nat.length_repr_le_iff hk).mpr (h kind)
  have htable := hdigits .table
  have hpolicy := hdigits .policy
  have htrigger := hdigits .trigger
  have hfunction := hdigits .function
  have hsetting := hdigits .setting
  have hbucket := hdigits .bucket
  have hremote := hdigits .remoteFunction
  have hwords : " table(s), ".length + " policy(ies), ".length + " trigger(s), ".length +
      " function(s), ".length + " setting(s), ".length + " bucket(s), ".length +
      " remote function(s)".length = 96 := by
    decide
  have hstring (s : String) : toString s = s := rfl
  simp only [summaryOf, hstring, String.length_append]
  omega

theorem ChangeRequest.impact_summary_eq (r : ChangeRequest) :
    r.impact.summary = summaryOf fun kind => (r.impact.names kind).size :=
  rfl

/-- A summary is what is given of it, trimmed, or else it is made. -/
theorem ChangeRequest.length_compile_summary_le {n : Nat} (hg : ∀ t ∈ r.summary, t.length ≤ n)
    (hm : r.impact.summary.length ≤ n) : r.compile.summary.length ≤ n := by
  have hs : r.compile.summary = (r.summary.bind nonBlank?).getD r.impact.summary := rfl
  rw [hs]
  cases hb : r.summary.bind nonBlank? with
  | none => exact hm
  | some t =>
    obtain ⟨given, hgiven, ht⟩ := Option.bind_eq_some_iff.mp hb
    cases hblank : isBlankText given with
    | true =>
      rw [nonBlank?_of_blank hblank] at ht
      cases ht
    | false =>
      rw [nonBlank?_of_not_blank hblank] at ht
      obtain rfl := Option.some.inj ht
      exact (length_trim_le given).trans (hg given hgiven)

end summary
end Evolution
