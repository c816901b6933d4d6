import Evolution.Model.Check
import Mathlib.Data.List.Forall2
import Mathlib.Data.List.TakeWhile

/-! White space around the texts of a request. Two requests differ in it alone where each text of
the one is a text of the other with white space added at its ends; the checks do not tell them
apart. -/
namespace Evolution

open Text (trim nonBlank? isBlank)

namespace Text

/-- The second text is the first with white space added at its ends, or is the first. -/
def Padded (s s' : String) : Prop :=
  ∃ front behind : List Char, (∀ c ∈ front, isBlank c = true) ∧ (∀ c ∈ behind, isBlank c = true) ∧
    s'.toList = front ++ s.toList ++ behind

variable {s s' : String} {cs behind : List Char} {ss ss' : List String} {o o' : Option String}

theorem Padded.refl (s : String) : Padded s s :=
  ⟨[], [], nofun, nofun, by simp⟩

theorem dropBlankEnd_append (hb : ∀ c ∈ behind, isBlank c = true) :
    dropBlankEnd (cs ++ behind) = dropBlankEnd cs := by
  have hreverse : ∀ c ∈ behind.reverse, isBlank c = true := fun c hc =>
    hb c (List.mem_reverse.mp hc)
  rw [dropBlankEnd, List.reverse_append, List.dropWhile_append_of_pos hreverse]
  rfl

theorem trimChars_append (hb : ∀ c ∈ behind, isBlank c = true) :
    trimChars (cs ++ behind) = trimChars cs := by
  unfold trimChars
  rw [List.dropWhile_append]
  split
  · rename_i hcs
    have hbehind : behind.dropWhile isBlank = [] := List.dropWhile_eq_nil_iff.mpr hb
    rw [hbehind, List.isEmpty_iff.mp hcs]
  · exact dropBlankEnd_append hb

theorem Padded.trim_eq (h : Padded s s') : trim s' = trim s := by
  obtain ⟨front, behind, hf, hb, hs⟩ := h
  have hfront : trimChars (front ++ s.toList) = trimChars s.toList := by
    rw [trimChars, List.dropWhile_append_of_pos hf]
    rfl
  rw [trim, hs, trimChars_append hb, hfront]
  rfl

theorem Padded.nonBlank?_eq (h : Padded s s') : nonBlank? s' = nonBlank? s := by
  rw [nonBlank?, h.trim_eq]
  rfl

theorem Padded.isBlankText_eq (h : Padded s s') : isBlankText s' = isBlankText s := by
  rw [isBlankText, h.trim_eq]
  rfl

/-- What white space is not can be picked out of a text as before. -/
theorem Padded.filter_eq {p : Char → Bool} (hp : ∀ c, isBlank c = true → p c = false)
    (h : Padded s s') : s'.toList.filter p = s.toList.filter p := by
  obtain ⟨front, behind, hf, hb, hs⟩ := h
  have hnone {cs : List Char} (hcs : ∀ c ∈ cs, isBlank c = true) : cs.filter p = [] := by
    refine List.filter_eq_nil_iff.mpr fun c hc => ?_
    rw [hp c (hcs c hc)]
    exact Bool.false_ne_true
  rw [hs, List.filter_append, List.filter_append, hnone hf, hnone hb, List.nil_append,
    List.append_nil]

theorem bind_nonBlank?_of_padded (h : Option.Rel Padded o o') :
    o'.bind nonBlank? = o.bind nonBlank? := by
  cases h with
  | none => rfl
  | some h => rw [Option.bind_some, h.nonBlank?_eq, Option.bind_some]

end Text

section forall₂

variable {α β : Type} {R : α → α → Prop} {xs xs' : List α}

theorem map_eq_of_forall₂ {f f' : α → β} (h : List.Forall₂ R xs xs')
    (hf : ∀ x x', R x x' → f' x' = f x) : xs'.map f' = xs.map f := by
  induction h with
  | nil => rfl
  | cons hx _ ih => rw [List.map_cons, List.map_cons, hf _ _ hx, ih]

theorem filterMap_eq_of_forall₂ {f f' : α → Option β} (h : List.Forall₂ R xs xs')
    (hf : ∀ x x', R x x' → f' x' = f x) : xs'.filterMap f' = xs.filterMap f := by
  have hmap := congrArg (List.filterMap id) (map_eq_of_forall₂ h hf)
  rwa [List.filterMap_map, List.filterMap_map] at hmap

theorem positionedErrors_of_forall₂ {errors : α → Nat → List ModelError}
    (h : List.Forall₂ R xs xs') (he : ∀ x x', R x x' → errors x' = errors x) :
    positionedErrors errors xs' = positionedErrors errors xs := by
  have hmap (xs : List α) : positionedErrors errors xs =
      ((xs.map errors).zipIdx 1).flatMap fun e => e.1 e.2 := by
    rw [List.zipIdx_map, List.flatMap_map]
    rfl
  rw [hmap, hmap, map_eq_of_forall₂ h he]

end forall₂

/-! Each relation lets the texts have more white space and keeps the rest. -/

structure Column.Padded (c c' : Column) : Prop where
  name : Text.Padded c.name c'.name
  dataType : Text.Padded c.dataType c'.dataType
  nullable : c'.nullable = c.nullable
  unique : c'.unique = c.unique
  defaultValue : Option.Rel Text.Padded c.defaultValue c'.defaultValue
  referencesTable : Option.Rel Text.Padded c.referencesTable c'.referencesTable
  referencesColumn : Option.Rel Text.Padded c.referencesColumn c'.referencesColumn

structure TableIndex.Padded (i i' : TableIndex) : Prop where
  name : Text.Padded i.name i'.name
  expression : Text.Padded i.expression i'.expression
  unique : i'.unique = i.unique

structure Table.Padded (t t' : Table) : Prop where
  name : Text.Padded t.name t'.name
  createIfMissing : t'.createIfMissing = t.createIfMissing
  rowLevelSecurity : t'.rowLevelSecurity = t.rowLevelSecurity
  columns : List.Forall₂ Column.Padded t.columns t'.columns
  indexes : List.Forall₂ TableIndex.Padded t.indexes t'.indexes

structure Policy.Padded (p p' : Policy) : Prop where
  table : Text.Padded p.table p'.table
  name : Text.Padded p.name p'.name
  command : p'.command = p.command
  roles : List.Forall₂ Text.Padded p.roles p'.roles
  usingExpr : Text.Padded p.usingExpr p'.usingExpr
  checkExpr : Text.Padded p.checkExpr p'.checkExpr

structure Trigger.Padded (t t' : Trigger) : Prop where
  table : Text.Padded t.table t'.table
  name : Text.Padded t.name t'.name
  timing : t'.timing = t.timing
  events : t'.events = t.events
  functionName : Text.Padded t.functionName t'.functionName

structure Routine.Padded (f f' : Routine) : Prop where
  signature : Text.Padded f.signature f'.signature
  returns : Text.Padded f.returns f'.returns
  language : Text.Padded f.language f'.language
  securityDefiner : f'.securityDefiner = f.securityDefiner
  body : Text.Padded f.body f'.body

structure Preference.Padded (p p' : Preference) : Prop where
  key : Text.Padded p.key p'.key
  value : p'.value = p.value

structure Bucket.Padded (b b' : Bucket) : Prop where
  scope : b'.scope = b.scope
  tenantId : b'.tenantId = b.tenantId
  name : Text.Padded b.name b'.name
  allowedMimeTypes : List.Forall₂ Text.Padded b.allowedMimeTypes b'.allowedMimeTypes
  fileSizeLimitBytes : b'.fileSizeLimitBytes = b.fileSizeLimitBytes
  isPublic : b'.isPublic = b.isPublic

structure RemoteFunction.Padded (f f' : RemoteFunction) : Prop where
  scope : f'.scope = f.scope
  tenantId : f'.tenantId = f.tenantId
  name : Text.Padded f.name f'.name
  route : Text.Padded f.route f'.route
  enabled : f'.enabled = f.enabled
  version : Text.Padded f.version f'.version

/-- The built-in settings are values, and are kept as they are. -/
structure DesiredState.Padded (s s' : DesiredState) : Prop where
  tables : List.Forall₂ Table.Padded s.tables s'.tables
  policies : List.Forall₂ Policy.Padded s.policies s'.policies
  triggers : List.Forall₂ Trigger.Padded s.triggers s'.triggers
  functions : List.Forall₂ Routine.Padded s.functions s'.functions
  authSettings : s'.authSettings = s.authSettings
  buckets : List.Forall₂ Bucket.Padded s.buckets s'.buckets
  remoteFunctions : List.Forall₂ RemoteFunction.Padded s.remoteFunctions s'.remoteFunctions
  apiSettings : s'.apiSettings = s.apiSettings
  preferences : List.Forall₂ Preference.Padded s.preferences s'.preferences

section errors

theorem columnErrors_of_padded {columns columns' : List Column} {table position : Nat}
    {tableName : String} {seen reported : List String}
    (h : List.Forall₂ Column.Padded columns columns') :
    columnErrors table tableName position seen reported columns' =
      columnErrors table tableName position seen reported columns := by
  induction h generalizing position seen reported with
  | nil => rfl
  | @cons c c' _ _ hc _ ih =>
    have hkey : c'.key = c.key := by
      rw [Column.key, hc.name.trim_eq]
      rfl
    simp only [columnErrors, hc.name.isBlankText_eq, hc.name.trim_eq, hkey, ih]

theorem Table.Padded.errors_eq {t t' : Table} (h : t.Padded t') : t'.errors = t.errors := by
  funext position
  simp only [errors, h.name.trim_eq, columnErrors_of_padded h.columns]

theorem Policy.Padded.errors_eq {p p' : Policy} (h : p.Padded p') : p'.errors = p.errors := by
  funext position
  simp only [errors, h.table.isBlankText_eq, h.name.isBlankText_eq]

theorem Trigger.Padded.function_eq {t t' : Trigger} (h : t.Padded t') :
    t'.function = t.function := by
  simp only [function, h.functionName.trim_eq]

theorem Trigger.Padded.errors_eq {t t' : Trigger} (h : t.Padded t') : t'.errors = t.errors := by
  funext position
  simp only [errors, h.events, h.table.isBlankText_eq, h.name.isBlankText_eq, h.function_eq]

theorem Routine.Padded.errors_eq {f f' : Routine} (h : f.Padded f') : f'.errors = f.errors := by
  funext position
  simp only [errors, h.body.isBlankText_eq, h.signature.isBlankText_eq]

theorem DesiredState.Padded.errors_eq {s s' : DesiredState} (h : s.Padded s') :
    s'.errors = s.errors := by
  unfold errors
  rw [positionedErrors_of_forall₂ h.tables fun _ _ => Table.Padded.errors_eq,
    positionedErrors_of_forall₂ h.policies fun _ _ => Policy.Padded.errors_eq,
    positionedErrors_of_forall₂ h.triggers fun _ _ => Trigger.Padded.errors_eq,
    positionedErrors_of_forall₂ h.functions fun _ _ => Routine.Padded.errors_eq]

end errors
end Evolution
