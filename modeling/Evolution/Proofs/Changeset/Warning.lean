import Evolution.Proofs.Changeset.Omission
import Evolution.Proofs.Changeset.Order
import Evolution.Proofs.Changeset.Owner
import Evolution.Proofs.Changeset.Statement
import Evolution.Proofs.Text.Search

/-! Of what a changeset warns: of a tenant that is not named, of row security that reverting takes
away, and of functions that have to be dropped by hand, of each once and of nothing else. A function
of which it warns is one for which the rollback holds no statement but a comment. -/
namespace Evolution

open Text (trim nonBlank? StandsAlone lowerAscii isWordChar)

section distinct

variable {t : String} {kept texts : List String}

theorem mem_foldl_keepNew : t ∈ texts.foldl keepNew kept ↔ t ∈ kept ∨ t ∈ texts := by
  induction texts generalizing kept with
  | nil => simp
  | cons s texts ih =>
    have hkeep : t ∈ keepNew kept s ↔ t ∈ kept ∨ t = s := by
      unfold keepNew
      split
      · rename_i hs
        refine ⟨.inl, fun h => h.elim id ?_⟩
        rintro rfl
        simpa using hs
      · simp
    rw [List.foldl_cons, ih, hkeep, List.mem_cons, or_assoc]

theorem nodup_foldl_keepNew (h : kept.Nodup) : (texts.foldl keepNew kept).Nodup := by
  induction texts generalizing kept with
  | nil => exact h
  | cons s texts ih =>
    refine ih ?_
    unfold keepNew
    split
    · exact h
    · rename_i hs
      rw [← List.concat_eq_append]
      exact h.concat (by simpa using hs)

theorem mem_distinct : t ∈ distinct texts ↔ t ∈ texts := by
  rw [distinct_eq_foldl, mem_foldl_keepNew]
  simp

theorem nodup_distinct (texts : List String) : (distinct texts).Nodup :=
  nodup_foldl_keepNew List.nodup_nil

end distinct

/-- An argument may be left out: the word `default` stands in the signature, or an equals sign. -/
def TakesDefaults (signature : String) : Prop :=
  StandsAlone "default".toList none signature.toList ∨ '=' ∈ signature.toList

/-- A function with this signature has to be dropped by hand, and why. -/
inductive ByHand (signature : String) : String → Prop where
  | unlisted (h : '(' ∉ signature.toList) : ByHand signature "signature has no argument list"
  | defaults (hl : '(' ∈ signature.toList) (hd : TakesDefaults signature) :
      ByHand signature "signature has default arguments"

/-- The reasons why a function may have to be dropped by hand. -/
def handReasons : List String :=
  ["signature has no argument list", "signature has default arguments"]

section byHand

variable {f : Routine} {signature signature' object object' reason reason' : String}

theorem ByHand.mem_handReasons (h : ByHand signature reason) : reason ∈ handReasons := by
  cases h <;> simp [handReasons]

theorem Routine.inverse_eq_manual_iff :
    f.inverse = .manual object reason ↔
      object = trim f.signature ∧ ByHand (trim f.signature) reason := by
  have hlist : Text.contains (trim f.signature) "(" = true ↔ '(' ∈ (trim f.signature).toList :=
    Text.contains_char rfl
  have hdefault : (Text.hasWord "default" (trim f.signature) ||
      Text.contains (trim f.signature) "=") = true ↔ TakesDefaults (trim f.signature) := by
    rw [Bool.or_eq_true, Text.hasWord_iff (by decide), Text.contains_char rfl]
    rfl
  unfold inverse
  dsimp only
  split
  · rename_i hl
    rw [Bool.not_eq_true', Bool.eq_false_iff, ne_eq, hlist] at hl
    constructor
    · rintro ⟨⟩
      exact ⟨rfl, .unlisted hl⟩
    · rintro ⟨rfl, h⟩
      cases h with
      | unlisted => rfl
      | defaults h => exact absurd h hl
  · rename_i hl
    rw [Bool.not_eq_true', Bool.not_eq_false, hlist] at hl
    split
    · rename_i hd
      rw [hdefault] at hd
      constructor
      · rintro ⟨⟩
        exact ⟨rfl, .defaults hl hd⟩
      · rintro ⟨rfl, h⟩
        cases h with
        | unlisted h => exact absurd hl h
        | defaults => rfl
    · rename_i hd
      rw [hdefault] at hd
      refine iff_of_false nofun ?_
      rintro ⟨-, h⟩
      cases h with
      | unlisted h => exact h hl
      | defaults _ h => exact hd h

/-- A line break in a comment is a blank. -/
def unbroken (c : Char) : Char :=
  if c = '\n' then ' ' else c

theorem toList_replaceChar_newline (s : String) :
    (Text.replaceChar '\n' " " s).toList = s.toList.map unbroken := by
  have hone (c : Char) : (if c = '\n' then " ".toList else [c]) = [unbroken c] := by
    unfold unbroken
    split <;> rfl
  simp only [Text.replaceChar, String.toList_ofList, hone]
  exact List.map_eq_flatMap.symm

theorem unbroken_eq_of_mem {c : Char} (h : lowerAscii c ∈ "default".toList ∨
    lowerAscii (unbroken c) ∈ "default".toList) : unbroken c = c := by
  by_cases hc : c = '\n'
  · subst hc
    revert h
    decide
  · exact if_neg hc

theorem isWordChar_unbroken (c : Char) : isWordChar (unbroken c) = isWordChar c := by
  by_cases hc : c = '\n'
  · subst hc
    decide +kernel
  · rw [unbroken, if_neg hc]

theorem mem_map_unbroken {c : Char} (hn : c ≠ '\n') (hb : c ≠ ' ') {cs : List Char} :
    c ∈ cs.map unbroken ↔ c ∈ cs := by
  constructor
  · intro h
    obtain ⟨d, hd, rfl⟩ := List.mem_map.mp h
    unfold unbroken at hb ⊢
    split
    · rename_i h
      exact absurd (if_pos h) hb
    · exact hd
  · intro h
    exact List.mem_map.mpr ⟨c, h, if_neg hn⟩

/-- What is wrong with a signature is not a matter of its line breaks. -/
theorem byHand_congr (h : signature.toList.map unbroken = signature'.toList.map unbroken) :
    ByHand signature reason ↔ ByHand signature' reason := by
  have hchar {c : Char} (hn : c ≠ '\n') (hb : c ≠ ' ') :
      c ∈ signature.toList ↔ c ∈ signature'.toList := by
    rw [← mem_map_unbroken hn hb, h, mem_map_unbroken hn hb]
  have hword : StandsAlone "default".toList none signature.toList ↔
      StandsAlone "default".toList none signature'.toList := by
    rw [← Text.standsAlone_map isWordChar_unbroken fun _ => unbroken_eq_of_mem, h,
      Text.standsAlone_map isWordChar_unbroken fun _ => unbroken_eq_of_mem]
  have hdefault : TakesDefaults signature ↔ TakesDefaults signature' :=
    or_congr hword (hchar (by decide) (by decide))
  have hlist : '(' ∈ signature.toList ↔ '(' ∈ signature'.toList := hchar (by decide) (by decide)
  constructor
  · rintro (hl | ⟨hl, hd⟩)
    · exact .unlisted (hlist.not.mp hl)
    · exact .defaults (hlist.mp hl) (hdefault.mp hd)
  · rintro (hl | ⟨hl, hd⟩)
    · exact .unlisted (hlist.not.mpr hl)
    · exact .defaults (hlist.mpr hl) (hdefault.mpr hd)

/-- The last letter tells the reasons from each other. -/
theorem reason_eq_of_getLast? (hr : reason ∈ handReasons) (hr' : reason' ∈ handReasons)
    (h : reason.toList.getLast? = reason'.toList.getLast?) : reason = reason' := by
  simp only [handReasons, List.mem_cons, List.not_mem_nil, or_false] at hr hr'
  rcases hr with rfl | rfl <;> rcases hr' with rfl | rfl
  · rfl
  · revert h
    decide
  · revert h
    decide
  · rfl

theorem exists_getLast?_of_mem_handReasons (hr : reason ∈ handReasons) :
    ∃ c, reason.toList.getLast? = some c := by
  simp only [handReasons, List.mem_cons, List.not_mem_nil, or_false] at hr
  rcases hr with rfl | rfl
  · exact ⟨'t', by decide⟩
  · exact ⟨'s', by decide⟩

theorem append_reason_inj (hr : reason ∈ handReasons) (hr' : reason' ∈ handReasons)
    {front front' : String} (h : front ++ reason = front' ++ reason') :
    front = front' ∧ reason = reason' := by
  obtain ⟨c, hc⟩ := exists_getLast?_of_mem_handReasons hr
  obtain ⟨c', hc'⟩ := exists_getLast?_of_mem_handReasons hr'
  have hlast := congrArg (fun s => s.toList.getLast?) h
  rw [getLast?_append _ hc, getLast?_append _ hc', ← hc, ← hc'] at hlast
  obtain rfl := reason_eq_of_getLast? hr hr' hlast
  exact ⟨(String.append_left_inj _).mp h, rfl⟩

/-- The comment for a function tells its signature, except for line breaks, and the reason. -/
theorem placeholder_inj (hr : reason ∈ handReasons) (hr' : reason' ∈ handReasons)
    (h : Inverse.placeholder object reason = Inverse.placeholder object' reason') :
    object.toList.map unbroken = object'.toList.map unbroken ∧ reason = reason' := by
  unfold Inverse.placeholder at h
  obtain ⟨hfront, rfl⟩ := append_reason_inj hr hr' h
  replace hfront := (String.append_left_inj _).mp hfront
  have hobject := congrArg String.toList ((String.append_right_inj _).mp hfront)
  rw [toList_replaceChar_newline, toList_replaceChar_newline] at hobject
  exact ⟨hobject, rfl⟩

theorem manualRollback_message_inj (hr : reason ∈ handReasons) (hr' : reason' ∈ handReasons)
    (h : (Warning.manualRollback object reason).message =
      (Warning.manualRollback object' reason').message) : object = object' ∧ reason = reason' := by
  replace h : "Function " ++ object ++ " has no automatic rollback (" ++ reason ++
      "); revert it manually" = "Function " ++ object' ++ " has no automatic rollback (" ++
        reason' ++ "); revert it manually" := h
  obtain ⟨hfront, rfl⟩ := append_reason_inj hr hr' ((String.append_left_inj _).mp h)
  replace hfront := (String.append_left_inj _).mp hfront
  exact ⟨(String.append_right_inj _).mp hfront, rfl⟩

end byHand

section blocks

variable {w : Warning}

theorem Owner.mem_warnings_of {scope : Scope} {tenant : Option Uuid} :
    w ∈ (Owner.of scope tenant).warnings ↔
      (scope = .tenant ∧ tenant = none) ∧ w = .missingTenant := by
  cases scope <;> cases tenant <;> simp [Owner.of, warnings, lacksTenant]

theorem Table.mem_block_warnings {t : Table} :
    w ∈ t.block.warnings ↔ isBlankText t.name = false ∧ t.rowLevelSecurity = true ∧
      t.isCreated = false ∧ w = .losesRowSecurity (trim t.name) := by
  unfold block isBlankText
  dsimp only
  cases (trim t.name).isEmpty <;> cases t.rowLevelSecurity <;> cases t.isCreated <;> simp

theorem Bucket.mem_block_warnings {b : Bucket} :
    w ∈ b.block.warnings ↔ (isBlankText b.name = false ∧ b.scope = .tenant ∧ b.tenantId = none) ∧
      w = .missingTenant := by
  unfold block
  cases hn : isBlankText b.name with
  | true => simp [nonBlank?_of_blank hn]
  | false => simp [nonBlank?_of_not_blank hn, owner, Owner.mem_warnings_of]

theorem RemoteFunction.mem_block_warnings {f : RemoteFunction} :
    w ∈ f.block.warnings ↔ (isBlankText f.name = false ∧ f.scope = .tenant ∧ f.tenantId = none) ∧
      w = .missingTenant := by
  unfold block
  cases hn : isBlankText f.name with
  | true => simp [nonBlank?_of_blank hn]
  | false => simp [nonBlank?_of_not_blank hn, owner, Owner.mem_warnings_of]

theorem Policy.block_warnings (p : Policy) : p.block.warnings = [] := by
  unfold block
  split <;> rfl

theorem Trigger.block_warnings (t : Trigger) : t.block.warnings = [] := by
  unfold block
  split
  · split <;> rfl
  · rfl

theorem Routine.block_warnings (f : Routine) : f.block.warnings = [] := by
  unfold block
  split <;> rfl

theorem DesiredState.mem_structure_warnings {s : DesiredState} :
    w ∈ s.structureBlocks.flatMap Block.warnings ↔ ∃ t ∈ s.tables, w ∈ t.block.warnings := by
  simp [structureBlocks, List.flatMap_append, List.flatMap_map, Policy.block_warnings,
    Trigger.block_warnings, Routine.block_warnings]

end blocks

namespace ChangeRequest

variable {r : ChangeRequest} {w : Warning} {object reason text : String}

/-- Something is for one tenant, and it is not said for which: the settings, or a bucket or remote
function that has a name. -/
def LacksTenant (r : ChangeRequest) : Prop :=
  (r.scope = .tenant ∧ r.tenantId = none) ∨
    (∃ b ∈ r.desiredState.buckets,
      isBlankText b.name = false ∧ b.scope = .tenant ∧ b.tenantId = none) ∨
    ∃ f ∈ r.desiredState.remoteFunctions,
      isBlankText f.name = false ∧ f.scope = .tenant ∧ f.tenantId = none

theorem mem_owner_warnings :
    w ∈ r.owner.warnings ++ r.desiredState.registrationBlocks.flatMap Block.warnings ↔
      w = .missingTenant ∧ r.LacksTenant := by
  simp only [List.mem_append, DesiredState.registrationBlocks, List.flatMap_append,
    List.flatMap_map, List.mem_flatMap, owner, Owner.mem_warnings_of, Bucket.mem_block_warnings,
    RemoteFunction.mem_block_warnings, LacksTenant]
  grind

/-- Only a function has to be undone by hand. -/
theorem exists_manual_iff :
    (∃ c ∈ r.changes, c.inverse = .manual object reason) ↔
      ∃ f ∈ r.desiredState.functions, f.block.changes ≠ [] ∧ f.inverse = .manual object reason := by
  constructor
  · rintro ⟨c, hc, hi⟩
    rw [changes_eq_parts] at hc
    obtain ⟨p, hp, hc⟩ := List.mem_flatMap.mp hc
    have hundone := (p.stated c hc).inverse
    rw [hi] at hundone
    cases hundone with
    | @manual f _ hpf hf =>
      subst hpf
      have hmem : f ∈ r.desiredState.functions := by simpa [parts] using hp
      exact ⟨f, hmem, List.ne_nil_of_mem hc, hf⟩
  · rintro ⟨f, hf, hne, hi⟩
    have hchanges : f.block.changes = [⟨f.createSql, f.inverse⟩] := f.changes_of_ne_nil hne
    have hp : Part.function f ∈ r.parts := by simp [parts, hf]
    refine ⟨⟨f.createSql, f.inverse⟩, ?_, ?_⟩
    · rw [changes_eq_parts]
      refine List.mem_flatMap.mpr ⟨.function f, hp, ?_⟩
      rw [Part.changes, hchanges]
      exact List.mem_singleton_self _
    · dsimp only
      exact hi

theorem mem_warnings : w ∈ r.warnings ↔
    (w = .missingTenant ∧ r.LacksTenant) ∨ (∃ t ∈ r.desiredState.tables, w ∈ t.block.warnings) ∨
      ∃ object reason, w = .manualRollback object reason ∧
        ∃ f ∈ r.desiredState.functions, f.block.changes ≠ [] ∧
          f.inverse = .manual object reason := by
  have hmanual : w ∈ (r.changes.map Change.inverse).filterMap Inverse.warning? ↔
      ∃ object reason, w = .manualRollback object reason ∧
        ∃ c ∈ r.changes, c.inverse = .manual object reason := by
    simp only [List.filterMap_map, List.mem_filterMap, Function.comp_apply]
    constructor
    · rintro ⟨c, hc, hw⟩
      cases hi : c.inverse with
      | manual object reason =>
        rw [hi] at hw
        exact ⟨object, reason, (Option.some.inj hw).symm, c, hc, hi⟩
      | _ =>
        rw [hi] at hw
        cases hw
    · rintro ⟨object, reason, rfl, c, hc, hi⟩
      exact ⟨c, hc, by rw [hi]; rfl⟩
  rw [warnings_split, List.mem_append, List.mem_append, DesiredState.mem_structure_warnings,
    mem_owner_warnings, hmanual]
  simp only [exists_manual_iff]
  grind

theorem mem_impact_warnings :
    text ∈ r.compile.impact.warnings ↔ ∃ w ∈ r.warnings, w.message = text := by
  have hw : r.compile.impact.warnings = distinct (r.warnings.map Warning.message) := rfl
  rw [hw, mem_distinct, List.mem_map]

/-- The first letter tells a warning of a function from the others. -/
theorem exists_manualRollback_of_message
    (h : w.message = (Warning.manualRollback object reason).message) :
    ∃ object' reason', w = .manualRollback object' reason' := by
  have hf : (Warning.manualRollback object reason).message.toList.head? = some 'F' := by
    have hm : (Warning.manualRollback object reason).message = "Function " ++ object ++
        " has no automatic rollback (" ++ reason ++ "); revert it manually" := rfl
    simp [hm]
  rw [← h] at hf
  cases w with
  | missingTenant => cases hf
  | losesRowSecurity table =>
    have hr : ("Reverting disables row level security on " ++ table ++
        " even if it was enabled before").toList.head? = some 'F' := hf
    simp at hr
  | manualRollback object' reason' => exact ⟨object', reason', rfl⟩

/-- Of an emitted function it is warned where it has to be dropped by hand. -/
theorem message_mem_warnings_iff {f : Routine} (hf : f ∈ r.desiredState.functions)
    (hne : f.block.changes ≠ []) (hr : reason ∈ handReasons) :
    (Warning.manualRollback (trim f.signature) reason).message ∈ r.compile.impact.warnings ↔
      ByHand (trim f.signature) reason := by
  rw [mem_impact_warnings]
  constructor
  · rintro ⟨w, hw, hm⟩
    obtain ⟨object, reason', rfl⟩ := exists_manualRollback_of_message hm
    obtain ⟨hn, -⟩ | ⟨t, -, ht⟩ | ⟨object, reason', hn, g, -, -, hi⟩ := mem_warnings.mp hw
    · cases hn
    · cases (Table.mem_block_warnings.mp ht).2.2.2
    · cases hn
      have hg := (Routine.inverse_eq_manual_iff.mp hi).2
      obtain ⟨rfl, rfl⟩ := manualRollback_message_inj hg.mem_handReasons hr hm
      rwa [← (Routine.inverse_eq_manual_iff.mp hi).1] at hg
  · intro h
    have hi := Routine.inverse_eq_manual_iff.mpr ⟨rfl, h⟩
    exact ⟨_, mem_warnings.mpr (.inr (.inr ⟨_, _, rfl, f, hf, hne, hi⟩)), rfl⟩

/-- A function is undone by a comment in the rollback where it has to be dropped by hand. -/
theorem placeholder_mem_rollbackSql_iff {f : Routine} (hf : f ∈ r.desiredState.functions)
    (hne : f.block.changes ≠ []) (hr : reason ∈ handReasons) :
    Inverse.placeholder (trim f.signature) reason ∈ r.compile.rollbackSql ↔
      ByHand (trim f.signature) reason := by
  rw [rollbackSql_eq, List.mem_reverse, List.mem_filterMap]
  constructor
  · rintro ⟨c, hc, hs⟩
    obtain ⟨p, -, hp⟩ := stated_of_mem_changes hc
    have hcomment :
        Text.startsWith (Inverse.placeholder (trim f.signature) reason) "--" = true := by
      obtain ⟨text, ht⟩ := placeholder_begins (trim f.signature) reason
      rw [ht]
      exact startsWith_append "--" text
    obtain ⟨g, reason', -, hi, hpl⟩ := (hp.inverse.comment_iff hs).mp hcomment
    have hg := (Routine.inverse_eq_manual_iff.mp hi).2
    -- another signature that differs in line breaks only has the same comment
    obtain ⟨hsig, rfl⟩ := placeholder_inj hr hg.mem_handReasons hpl
    exact (byHand_congr hsig).mpr hg
  · intro h
    have hi := Routine.inverse_eq_manual_iff.mpr ⟨rfl, h⟩
    obtain ⟨c, hc, hinverse⟩ := exists_manual_iff.mpr ⟨f, hf, hne, hi⟩
    exact ⟨c, hc, by rw [hinverse]; rfl⟩

/-- Each warning is given once. It is warned of a missing tenant if something is for one that is not
named; of row security that reverting disables, for the name of every table that has one, is asked
to be secured and is not created; and of every emitted function whose signature lists no arguments
or has one with a default. So the rollback holds a comment in the place of a function exactly where
it is warned of the function, and a request for a tenant that it does not name is warned of once. -/
theorem warnings_are_exact (r : ChangeRequest) :
    let warnings := r.compile.impact.warnings
    warnings.Nodup ∧
    (∀ text, text ∈ warnings ↔
      (text = Warning.missingTenant.message ∧ r.LacksTenant) ∨
      (∃ t ∈ r.desiredState.tables, isBlankText t.name = false ∧ t.rowLevelSecurity = true ∧
        t.isCreated = false ∧ text = (Warning.losesRowSecurity (trim t.name)).message) ∨
      ∃ f ∈ r.desiredState.functions, f.block.changes ≠ [] ∧ ∃ reason,
        ByHand (trim f.signature) reason ∧
          text = (Warning.manualRollback (trim f.signature) reason).message) ∧
    (∀ f ∈ r.desiredState.functions, f.block.changes ≠ [] → ∀ reason ∈ handReasons,
      (Inverse.placeholder (trim f.signature) reason ∈ r.compile.rollbackSql ↔
        (Warning.manualRollback (trim f.signature) reason).message ∈ warnings)) ∧
    (r.scope = .tenant → r.tenantId = none →
      warnings.count Warning.missingTenant.message = 1) := by
  intro warnings
  have hnodup : warnings.Nodup := nodup_distinct _
  refine ⟨hnodup, ?exact, ?placeholders, ?once⟩
  case exact =>
    intro text
    rw [mem_impact_warnings]
    constructor
    · rintro ⟨w, hw, rfl⟩
      obtain ⟨rfl, h⟩ | ⟨t, ht, hw⟩ | ⟨object, reason, rfl, f, hf, hne, hi⟩ := mem_warnings.mp hw
      · exact .inl ⟨rfl, h⟩
      · obtain ⟨hn, hs, hc, rfl⟩ := Table.mem_block_warnings.mp hw
        exact .inr (.inl ⟨t, ht, hn, hs, hc, rfl⟩)
      · obtain ⟨rfl, h⟩ := Routine.inverse_eq_manual_iff.mp hi
        exact .inr (.inr ⟨f, hf, hne, reason, h, rfl⟩)
    · rintro (⟨rfl, h⟩ | ⟨t, ht, hn, hs, hc, rfl⟩ | ⟨f, hf, hne, reason, h, rfl⟩)
      · exact ⟨_, mem_warnings.mpr (.inl ⟨rfl, h⟩), rfl⟩
      · have hw := Table.mem_block_warnings.mpr ⟨hn, hs, hc, rfl⟩
        exact ⟨_, mem_warnings.mpr (.inr (.inl ⟨t, ht, hw⟩)), rfl⟩
      · have hi := Routine.inverse_eq_manual_iff.mpr ⟨rfl, h⟩
        exact ⟨_, mem_warnings.mpr (.inr (.inr ⟨_, _, rfl, f, hf, hne, hi⟩)), rfl⟩
  case placeholders =>
    intro f hf hne reason hr
    exact (placeholder_mem_rollbackSql_iff hf hne hr).trans
      (message_mem_warnings_iff hf hne hr).symm
  case once =>
    intro hs ht
    refine List.count_eq_one_of_mem hnodup (mem_impact_warnings.mpr ⟨_, ?_, rfl⟩)
    exact mem_warnings.mpr (.inl ⟨rfl, .inl ⟨hs, ht⟩⟩)

/-- A function with an argument that may be left out, on two lines. -/
def dated : Routine where
  signature := "count_notes(day\ndate = now())"
  body := "select 1"

/-- For a tenant that it does not name, with a table that is secured and another of its name that is
created, and with functions that cannot be dropped by their signatures. -/
def wary : ChangeRequest where
  scope := .tenant
  desiredState := {
    tables := [{ name := "notes ", rowLevelSecurity := true },
      { name := "notes", createIfMissing := true, rowLevelSecurity := true,
        columns := [{ name := "id" }] }]
    functions := [dated, { signature := "touch", body := "null;" }]
    buckets := [{ scope := .tenant, name := "avatars" }] }

theorem warnings_are_exact_wary :
    let warnings := wary.compile.impact.warnings
    wary.scope = .tenant ∧ wary.tenantId = none ∧
      warnings.count Warning.missingTenant.message = 1 ∧
      "Reverting disables row level security on notes even if it was enabled before" ∈ warnings ∧
      dated ∈ wary.desiredState.functions ∧ dated.block.changes ≠ [] ∧
      (Warning.manualRollback dated.signature "signature has default arguments").message ∈
        warnings ∧
      ("-- manual rollback required for function count_notes(day date = now()): " ++
        "signature has default arguments") ∈ wary.compile.rollbackSql := by
  intro warnings
  have hmem : dated ∈ wary.desiredState.functions := List.mem_cons_self
  have hemitted : dated.block.changes ≠ [] := by decide +kernel
  have htrim : trim dated.signature = dated.signature := by decide
  have hdefaults : ByHand dated.signature "signature has default arguments" :=
    .defaults (by decide) (.inr (by decide))
  obtain ⟨-, hexact, hplaceholders, honce⟩ := warnings_are_exact wary
  have hwarned := (hexact (Warning.manualRollback dated.signature _).message).mpr
    (.inr (.inr ⟨dated, hmem, hemitted, _, htrim ▸ hdefaults, by rw [htrim]⟩))
  have hcomment := hplaceholders dated hmem hemitted _ hdefaults.mem_handReasons
  rw [htrim] at hcomment
  have htext : Inverse.placeholder dated.signature "signature has default arguments" =
      "-- manual rollback required for function count_notes(day date = now()): " ++
        "signature has default arguments" := by
    decide +kernel
  refine ⟨rfl, rfl, honce rfl rfl, ?_, hmem, hemitted, hwarned, htext ▸ hcomment.mpr hwarned⟩
  exact (hexact _).mpr (.inr (.inl ⟨_, List.mem_cons_self, by decide, rfl, rfl, by decide +kernel⟩))

/-- A table without a name is passed over, and it is not warned of its row security. -/
theorem nameless_security_unwarned :
    ¬ ∀ (r : ChangeRequest) (t : Table), t ∈ r.desiredState.tables → t.rowLevelSecurity = true →
      t.isCreated = false →
        (Warning.losesRowSecurity (trim t.name)).message ∈ r.compile.impact.warnings := by
  intro h
  let nameless : Table := { name := " ", rowLevelSecurity := true }
  have hwarned := h { desiredState := { tables := [nameless] } } nameless List.mem_cons_self rfl rfl
  revert hwarned
  decide +kernel

end ChangeRequest
end Evolution
