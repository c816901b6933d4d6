import Evolution.Changeset.Compile
import Mathlib.Data.List.Forall2

/-! How far the owner of a request reaches. It is written into the rows of the settings and may be
warned of, and nothing else of a changeset depends on it. -/
namespace Evolution

section distinct

variable {m : String} {kept xs ys : List String}

/-- Keeps a text, unless it is there already. -/
def keepNew (kept : List String) (t : String) : List String :=
  if kept.contains t then kept else kept ++ [t]

theorem distinct_eq_foldl (texts : List String) : distinct texts = texts.foldl keepNew [] := rfl

/-- One text alone is kept once. -/
theorem foldl_keepNew_replicate (hm : m ∉ kept) (n : Nat) :
    (List.replicate n m).foldl keepNew kept = if n = 0 then kept else kept ++ [m] := by
  have stays (n : Nat) : (List.replicate n m).foldl keepNew (kept ++ [m]) = kept ++ [m] := by
    induction n with
    | zero => rfl
    | succ n ih =>
      have h : keepNew (kept ++ [m]) m = kept ++ [m] := by simp [keepNew]
      rw [List.replicate_succ, List.foldl_cons, h, ih]
  cases n with
  | zero => rfl
  | succ n =>
    have h : keepNew kept m = kept ++ [m] := by simp [keepNew, hm]
    rw [List.replicate_succ, List.foldl_cons, h, stays, if_neg (Nat.succ_ne_zero n)]

/-- A text that does not come any more stands where it stands, and the others come as without it. -/
theorem exists_foldl_keepNew (hm : m ∉ xs) (kept later : List String) :
    ∃ later', xs.foldl keepNew (kept ++ later) = kept ++ later' ∧
      xs.foldl keepNew (kept ++ m :: later) = kept ++ m :: later' ∧
      (m ∉ later → m ∉ later') := by
  induction xs generalizing later with
  | nil => exact ⟨later, rfl, rfl, id⟩
  | cons t xs ih =>
    obtain ⟨hne, hxs⟩ := not_or.mp fun h => hm (List.mem_cons.mpr h)
    by_cases ht : t ∈ kept ++ later
    · obtain ⟨later', h, h', hn⟩ := ih hxs later
      have hk : keepNew (kept ++ later) t = kept ++ later := if_pos (by simpa using ht)
      have hk' : keepNew (kept ++ m :: later) t = kept ++ m :: later :=
        if_pos (by simpa [Ne.symm hne] using ht)
      exact ⟨later', by rw [List.foldl_cons, hk, h], by rw [List.foldl_cons, hk', h'], hn⟩
    · obtain ⟨later', h, h', hn⟩ := ih hxs (later ++ [t])
      have hk : keepNew (kept ++ later) t = kept ++ (later ++ [t]) := by
        rw [keepNew, if_neg (by simpa using ht), List.append_assoc]
      have hk' : keepNew (kept ++ m :: later) t = kept ++ m :: (later ++ [t]) := by
        rw [keepNew, if_neg (by simpa [Ne.symm hne] using ht), List.append_assoc]
        rfl
      refine ⟨later', by rw [List.foldl_cons, hk, h], by rw [List.foldl_cons, hk', h'], ?_⟩
      intro hl
      exact hn (by simp [hl, hne])

/-- However often a text stands between two others, it is kept once or not at all, and of the others
the same is kept. -/
theorem exists_distinct_between (hx : m ∉ xs) (hy : m ∉ ys) :
    ∃ before later, m ∉ before ++ later ∧ ∀ n,
      distinct (xs ++ List.replicate n m ++ ys) =
        if n = 0 then before ++ later else before ++ m :: later := by
  obtain ⟨before, hb, -, hnb⟩ := exists_foldl_keepNew hx [] []
  replace hb : xs.foldl keepNew [] = before := hb
  replace hnb : m ∉ before := hnb List.not_mem_nil
  obtain ⟨later, h, h', hnl⟩ := exists_foldl_keepNew hy before []
  refine ⟨before, later, by simp [hnb, hnl List.not_mem_nil], fun n => ?_⟩
  rw [distinct_eq_foldl, List.foldl_append, List.foldl_append, hb, foldl_keepNew_replicate hnb]
  split
  · rw [← h, List.append_nil]
  · exact h'

end distinct

/-- What is made of the things themselves. -/
def DesiredState.structureBlocks (s : DesiredState) : List Block :=
  s.tables.map Table.block ++ s.policies.map Policy.block ++ s.triggers.map Trigger.block ++
    s.functions.map Routine.block

/-- What is registered for owners of its own. -/
def DesiredState.registrationBlocks (s : DesiredState) : List Block :=
  s.buckets.map Bucket.block ++ s.remoteFunctions.map RemoteFunction.block

section warnings

variable {s : DesiredState} {w : Warning}

/-- The first letter tells the kinds of warnings from each other. -/
theorem Warning.eq_missingTenant_of_message (h : w.message = missingTenant.message) :
    w = missingTenant := by
  have hm : missingTenant.message.toList.head? = some 'T' := rfl
  replace h := congrArg (fun s => s.toList.head?) h
  cases w with
  | missingTenant => rfl
  | losesRowSecurity table =>
    have hr : ("Reverting disables row level security on " ++ table ++
        " even if it was enabled before").toList.head? = some 'T' := h.trans hm
    simp at hr
  | manualRollback object reason =>
    have hf : ("Function " ++ object ++ " has no automatic rollback (" ++ reason ++
        "); revert it manually").toList.head? = some 'T' := h.trans hm
    simp at hf

theorem missingTenant_message_not_mem {ws : List Warning} (h : .missingTenant ∉ ws) :
    Warning.missingTenant.message ∉ ws.map Warning.message := by
  intro hm
  obtain ⟨w, hw, he⟩ := List.mem_map.mp hm
  exact h (Warning.eq_missingTenant_of_message he ▸ hw)

theorem map_message_of_all_missing {ws : List Warning} (h : ∀ w ∈ ws, w = .missingTenant) :
    ws.map Warning.message = List.replicate ws.length Warning.missingTenant.message := by
  rw [List.eq_replicate_of_mem h, List.map_replicate, List.length_replicate]

/-- Things are owned by nobody. -/
theorem missingTenant_not_mem_structure :
    .missingTenant ∉ s.structureBlocks.flatMap Block.warnings := by
  intro h
  obtain ⟨b, hb, hw⟩ := List.mem_flatMap.mp h
  simp only [DesiredState.structureBlocks, List.mem_append, List.mem_map] at hb
  obtain ((⟨t, -, rfl⟩ | ⟨p, -, rfl⟩) | ⟨t, -, rfl⟩) | ⟨f, -, rfl⟩ := hb
  · simp only [Table.block] at hw
    split at hw
    · cases hw
    · dsimp only at hw
      split at hw
      · cases List.mem_singleton.mp hw
      · cases hw
  · simp only [Policy.block] at hw
    split at hw <;> cases hw
  · simp only [Trigger.block] at hw
    split at hw
    · split at hw <;> cases hw
    · cases hw
  · simp only [Routine.block] at hw
    split at hw <;> cases hw

theorem Owner.eq_of_mem_warnings {o : Owner} (h : w ∈ o.warnings) : w = .missingTenant := by
  unfold Owner.warnings at h
  split at h
  · exact List.mem_singleton.mp h
  · cases h

/-- A registration is warned of for its owner only. -/
theorem eq_of_mem_registration (h : w ∈ s.registrationBlocks.flatMap Block.warnings) :
    w = .missingTenant := by
  obtain ⟨b, hb, hw⟩ := List.mem_flatMap.mp h
  simp only [DesiredState.registrationBlocks, List.mem_append, List.mem_map] at hb
  obtain ⟨b, -, rfl⟩ | ⟨f, -, rfl⟩ := hb
  · simp only [Bucket.block] at hw
    split at hw
    · exact Owner.eq_of_mem_warnings hw
    · cases hw
  · simp only [RemoteFunction.block] at hw
    split at hw
    · exact Owner.eq_of_mem_warnings hw
    · cases hw

theorem Inverse.warning?_ne_missingTenant (i : Inverse) : i.warning? ≠ some .missingTenant := by
  cases i <;> simp [warning?]

end warnings

namespace ChangeRequest

variable {r r' : ChangeRequest}

theorem blocks_split (r : ChangeRequest) :
    r.blocks = r.desiredState.structureBlocks ++ { warnings := r.owner.warnings } ::
      (r.settings.map (·.block r.owner) ++ r.desiredState.registrationBlocks) := by
  simp only [blocks, DesiredState.structureBlocks, DesiredState.registrationBlocks,
    List.append_assoc]
  rfl

theorem changes_split (r : ChangeRequest) :
    r.changes = r.desiredState.structureBlocks.flatMap Block.changes ++
      (r.settings.map (fun s => upsertChange (s.upsert r.owner)) ++
        r.desiredState.registrationBlocks.flatMap Block.changes) := by
  have hsettings : (r.settings.map (·.block r.owner)).flatMap Block.changes =
      r.settings.map fun s => upsertChange (s.upsert r.owner) := by
    rw [List.flatMap_map]
    exact List.map_eq_flatMap.symm
  rw [changes, blocks_split, List.flatMap_append, List.flatMap_cons, List.flatMap_append,
    hsettings]
  rfl

theorem touches_split (r : ChangeRequest) :
    r.blocks.flatMap Block.touches = r.desiredState.structureBlocks.flatMap Block.touches ++
      (r.settings.flatMap (fun s => [⟨.setting, s.key⟩]) ++
        r.desiredState.registrationBlocks.flatMap Block.touches) := by
  rw [blocks_split, List.flatMap_append, List.flatMap_cons, List.flatMap_append, List.flatMap_map]
  rfl

theorem warnings_split (r : ChangeRequest) :
    r.warnings = r.desiredState.structureBlocks.flatMap Block.warnings ++
      (r.owner.warnings ++ r.desiredState.registrationBlocks.flatMap Block.warnings) ++
        (r.changes.map Change.inverse).filterMap Inverse.warning? := by
  have hsettings : (r.settings.map (·.block r.owner)).flatMap Block.warnings = [] := by
    rw [List.flatMap_map]
    exact List.flatMap_eq_nil_iff.mpr fun _ _ => rfl
  rw [warnings, blocks_split, List.flatMap_append, List.flatMap_cons, List.flatMap_append,
    hsettings, List.filterMap_map]
  rfl

theorem settings_congr (h : r'.desiredState = r.desiredState) : r'.settings = r.settings := by
  simp only [settings, h]

/-- Whoever it is for, a changeset is undone in the same way. -/
theorem inverses_congr (h : r'.desiredState = r.desiredState) :
    r'.changes.map Change.inverse = r.changes.map Change.inverse := by
  have hsettings (o : Owner) (settings : List Setting) :
      (settings.map fun s => upsertChange (s.upsert o)).map Change.inverse =
        settings.map fun _ => .nothing := by
    rw [List.map_map]
    rfl
  simp only [changes_split, List.map_append, hsettings, settings_congr h, h]

theorem touches_congr (h : r'.desiredState = r.desiredState) :
    r'.blocks.flatMap Block.touches = r.blocks.flatMap Block.touches := by
  simp only [touches_split, settings_congr h, h]

/-- The owner and the desired state are all that is compiled. -/
theorem blocks_congr (h : r'.desiredState = r.desiredState) (ho : r'.owner = r.owner) :
    r'.blocks = r.blocks := by
  simp only [blocks_split, settings_congr h, h, ho]

theorem changes_congr (h : r'.desiredState = r.desiredState) (ho : r'.owner = r.owner) :
    r'.changes = r.changes := by
  simp only [changes, blocks_congr h ho]

theorem impact_congr (h : r'.desiredState = r.desiredState) (ho : r'.owner = r.owner) :
    r'.impact = r.impact := by
  simp only [impact, warnings, changes_congr h ho, blocks_congr h ho]

/-- A tenant that is given for everyone is dropped. -/
theorem owner_congr (hs : r'.scope = r.scope)
    (ht : r.scope = .tenant → r'.tenantId = r.tenantId) : r'.owner = r.owner := by
  unfold owner
  rw [hs]
  cases hscope : r.scope with
  | global => rfl
  | tenant => rw [ht hscope]

/-- The same statement, or the same setting written for each of the owners. -/
def SameButOwner (o' o : Owner) (s' s : String) : Prop :=
  s' = s ∨ ∃ setting : Setting, s' = (setting.upsert o').sql ∧ s = (setting.upsert o).sql

theorem sql_sameButOwner (h : r'.desiredState = r.desiredState) :
    List.Forall₂ (SameButOwner r'.owner r.owner) r'.compile.sql r.compile.sql := by
  have same (statements : List String) :
      List.Forall₂ (SameButOwner r'.owner r.owner) statements statements :=
    List.forall₂_same.mpr fun _ _ => .inl rfl
  have hsettings : List.Forall₂ (SameButOwner r'.owner r.owner)
      (r.settings.map fun s => (s.upsert r'.owner).sql)
      (r.settings.map fun s => (s.upsert r.owner).sql) := by
    rw [List.forall₂_map_left_iff, List.forall₂_map_right_iff, List.forall₂_same]
    exact fun s _ => .inr ⟨s, rfl, rfl⟩
  have hsql (q : ChangeRequest) : q.compile.sql =
      (q.desiredState.structureBlocks.flatMap Block.changes).map Change.forward ++
        (q.settings.map (fun s => (s.upsert q.owner).sql) ++
          (q.desiredState.registrationBlocks.flatMap Block.changes).map Change.forward) := by
    have hmap : q.compile.sql = q.changes.map Change.forward := rfl
    rw [hmap, changes_split, List.map_append, List.map_append, List.map_map]
    rfl
  rw [hsql, hsql, settings_congr h, h]
  exact List.rel_append (same _) (List.rel_append hsettings (same _))

/-- Of the warnings, only that of a missing tenant may come and go. -/
theorem exists_warnings (s : DesiredState) :
    ∃ before later, Warning.missingTenant.message ∉ before ++ later ∧
      ∀ q : ChangeRequest, q.desiredState = s → q.impact.warnings = before ++ later ∨
        q.impact.warnings = before ++ Warning.missingTenant.message :: later := by
  let base : ChangeRequest := { desiredState := s }
  have hmanual : .missingTenant ∉ (base.changes.map Change.inverse).filterMap Inverse.warning? := by
    intro h
    obtain ⟨i, -, hi⟩ := List.mem_filterMap.mp h
    exact i.warning?_ne_missingTenant hi
  obtain ⟨before, later, hn, hd⟩ :=
    exists_distinct_between
      (missingTenant_message_not_mem (missingTenant_not_mem_structure (s := s)))
      (missingTenant_message_not_mem hmanual)
  refine ⟨before, later, hn, ?_⟩
  rintro q rfl
  have hbetween :
      ∀ w ∈ q.owner.warnings ++ q.desiredState.registrationBlocks.flatMap Block.warnings,
        w = .missingTenant := by
    intro w hw
    exact (List.mem_append.mp hw).elim Owner.eq_of_mem_warnings eq_of_mem_registration
  have hw : q.impact.warnings = distinct (q.warnings.map Warning.message) := rfl
  have hinverses : q.changes.map Change.inverse = base.changes.map Change.inverse :=
    inverses_congr rfl
  rw [hw, warnings_split, List.map_append, List.map_append, map_message_of_all_missing hbetween,
    hinverses, hd]
  split
  · exact .inl rfl
  · exact .inr rfl

/-- Two requests for one desired state differ in the rows of the settings and in the warning of a
missing tenant at most, and not even there where their owners are the same: a tenant that is given
for everyone is no owner. -/
theorem owner_reaches_settings_only (h : r'.desiredState = r.desiredState) :
    (r'.scope = r.scope → (r.scope = .tenant → r'.tenantId = r.tenantId) →
      r'.compile.sql = r.compile.sql ∧ r'.compile.rollbackSql = r.compile.rollbackSql ∧
        r'.compile.impact = r.compile.impact ∧ r'.compile.checksum = r.compile.checksum) ∧
    r'.compile.rollbackSql = r.compile.rollbackSql ∧
    r'.compile.sql.length = r.compile.sql.length ∧
    List.Forall₂ (SameButOwner r'.owner r.owner) r'.compile.sql r.compile.sql ∧
    r'.compile.impact = { r.compile.impact with warnings := r'.compile.impact.warnings } ∧
    ∃ before later, Warning.missingTenant.message ∉ before ++ later ∧
      ∀ q ∈ [r, r'], q.compile.impact.warnings = before ++ later ∨
        q.compile.impact.warnings = before ++ Warning.missingTenant.message :: later := by
  have hrollback : r'.compile.rollbackSql = r.compile.rollbackSql :=
    congrArg rollback (inverses_congr h)
  have hsql := sql_sameButOwner h
  refine ⟨?_, hrollback, hsql.length_eq, hsql, ?_, ?_⟩
  · intro hs ht
    have ho := owner_congr hs ht
    have hforward : r'.compile.sql = r.compile.sql :=
      congrArg (List.map Change.forward) (changes_congr h ho)
    refine ⟨hforward, hrollback, impact_congr h ho, ?_⟩
    rw [Changeset.checksum, Changeset.checksum, hforward, hrollback]
  · have hi (q : ChangeRequest) :
        q.compile.impact = .of (q.blocks.flatMap Block.touches) q.warnings := rfl
    rw [hi, hi, touches_congr h, Impact.of, Impact.of]
  · obtain ⟨before, later, hn, hw⟩ := exists_warnings r.desiredState
    refine ⟨before, later, hn, fun q hq => ?_⟩
    obtain rfl | rfl := List.mem_pair.mp hq
    · exact hw q rfl
    · exact hw q h

/-- Sign-up by a setting, and a table that is altered. -/
def signup : DesiredState where
  tables := [{ name := "t", rowLevelSecurity := true }]
  authSettings := { enableSignup := some true }

/-- For a tenant that is not told, the same is compiled as for everyone, but for one row and one
warning; and whom a setting for everyone is said to be for does not count. -/
theorem owner_reaches_settings_only_signup :
    let everyone : ChangeRequest := { tenantId := some ⟨1⟩, desiredState := signup }
    let nobody : ChangeRequest := { scope := .tenant, desiredState := signup }
    { everyone with tenantId := none, title := "t" }.compile.checksum = everyone.compile.checksum ∧
      nobody.compile.rollbackSql = everyone.compile.rollbackSql ∧
      nobody.compile.sql.length = 2 ∧
      nobody.compile.sql ≠ everyone.compile.sql ∧
      ∃ before later, everyone.compile.impact.warnings = before ++ later ∧
        nobody.compile.impact.warnings = before ++ Warning.missingTenant.message :: later := by
  intro everyone nobody
  let renamed : ChangeRequest := { everyone with tenantId := none, title := "t" }
  have hrenamed : renamed.desiredState = everyone.desiredState := rfl
  have hnobody : nobody.desiredState = everyone.desiredState := rfl
  have same := owner_reaches_settings_only hrenamed
  have other := owner_reaches_settings_only hnobody
  refine ⟨(same.1 rfl nofun).2.2.2, other.2.1, other.2.2.1, ?_, ?_⟩
  · decide +kernel
  · obtain ⟨before, later, hn, hall⟩ := other.2.2.2.2.2
    have hwarned : Warning.missingTenant.message ∈ nobody.compile.impact.warnings := by
      decide +kernel
    have hunwarned : Warning.missingTenant.message ∉ everyone.compile.impact.warnings := by
      decide +kernel
    refine ⟨before, later, ?_, ?_⟩
    · refine (hall everyone (by simp)).resolve_right fun he => ?_
      exact hunwarned (he ▸ by simp)
    · refine (hall nobody (by simp)).resolve_left fun he => ?_
      exact hn (he ▸ hwarned)

end ChangeRequest
end Evolution
