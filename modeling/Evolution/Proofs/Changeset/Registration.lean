import Evolution.Proofs.Changeset.Checksum
import Evolution.Proofs.Changeset.Omission
import Evolution.Proofs.Model.Codec
import Evolution.Proofs.Sql.Insertion

/-! What is registered, read back from its statement. An entry of the settings, a bucket and a
remote function are rows of three tables with the same owner columns in front. Whatever their texts
hold, the statement says what was asked for, and two statements are about the same row only if they
are for the same owner and of the same name. -/
namespace Evolution

open Sql
open Text (trim nonBlank?)

/-! ## Entries -/

/-- What a row holds besides its key. -/
inductive Payload where
  | value (json : String)
  | files (isPublic : Bool) (mimeTypes : List String) (sizeLimit : Option Int)
  | route (route : String) (enabled : Bool) (version : String)
  deriving DecidableEq, Repr

structure Entry where
  table : String
  scope : Scope
  tenantKey : String
  tenant : Option Uuid
  name : String
  payload : Payload
  deriving DecidableEq, Repr

namespace Sql.Literal

def text? : Literal → Option String
  | .text s => some s
  | _ => none

def bool? : Literal → Option Bool
  | .bool b => some b
  | _ => none

def json? : Literal → Option String
  | .json s => some s
  | _ => none

def texts? : Literal → Option (List String)
  | .texts items => some items
  | _ => none

/-- A number, or null for none. -/
def limit? : Literal → Option (Option Int)
  | .null => some none
  | .int n => some (some n)
  | _ => none

/-- An identifier, or null for none. -/
def tenant? : Literal → Option (Option Uuid)
  | .null => some none
  | .uuid s => (Uuid.ofText? s).map some
  | _ => none

end Sql.Literal

namespace Sql.Insertion

def files? (i : Insertion) : Option Payload := do
  let isPublic ← (i.value? "public").bind Literal.bool?
  let mimeTypes ← (i.value? "allowed_mime_types").bind Literal.texts?
  let sizeLimit ← (i.value? "file_size_limit").bind Literal.limit?
  some (.files isPublic mimeTypes sizeLimit)

def route? (i : Insertion) : Option Payload := do
  let route ← (i.value? "route").bind Literal.text?
  let enabled ← (i.value? "enabled").bind Literal.bool?
  let version ← (i.value? "version").bind Literal.text?
  some (.route route enabled version)

def payload? (i : Insertion) : Option Payload :=
  ((i.value? "value").bind Literal.json?).map .value <|> i.files? <|> i.route?

/-- The entry that a row stands for, by the names of its columns. -/
def entryOf? (i : Insertion) : Option Entry := do
  let scope ← ((i.value? "scope").bind Literal.text?).bind Scope.named?
  let tenantKey ← (i.value? "tenant_key").bind Literal.text?
  let tenant ← (i.value? "tenant_id").bind Literal.tenant?
  let name ← (i.value? "key" <|> i.value? "name").bind Literal.text?
  let payload ← i.payload?
  some ⟨i.table, scope, tenantKey, tenant, name, payload⟩

end Sql.Insertion

section entryOf?

/-- An entry without a tenant has no identifier in its row, and no text in its place. -/
theorem Sql.Insertion.values_of_no_tenant {i : Insertion} {e : Entry} (h : i.entryOf? = some e)
    (hk : e.tenantKey = "") (ht : e.tenant = none) :
    i.value? "tenant_key" = some (.text "") ∧ i.value? "tenant_id" = some .null := by
  simp only [entryOf?, Option.bind_eq_bind, Option.bind_eq_some_iff] at h
  obtain ⟨scope, -, key, ⟨l, hl, hkey⟩, tenant, ⟨l', hl', htenant⟩, name, -, payload, -, he⟩ := h
  cases he
  obtain rfl : key = "" := hk
  obtain rfl : tenant = none := ht
  refine ⟨?_, ?_⟩
  · cases l <;> cases hkey
    exact hl
  · cases l' <;> simp [Literal.tenant?] at htenant
    exact hl'

theorem tenant?_literals (o : Owner) :
    (o.tenant.elim Literal.null fun id => .uuid id.text).tenant? = some o.tenant := by
  cases o.tenant with
  | none => rfl
  | some id => simp [Literal.tenant?, Uuid.ofText?_text]

theorem Setting.isBare_upsert (s : Setting) (o : Owner) : (s.upsert o).IsBare where
  table := (by decide : IsTableName "public.app_settings")
  columns := (by decide : AreNames ["scope", "tenant_key", "tenant_id", "key", "value"])
  key := (by decide : AreNames ["scope", "tenant_key", "key"])
  values := rfl

theorem Bucket.isBare_upsert (b : Bucket) : b.upsert.IsBare where
  table := (by decide : IsTableName "public.storage_buckets")
  columns := (by decide : AreNames ["scope", "tenant_key", "tenant_id", "name", "public",
    "allowed_mime_types", "file_size_limit"])
  key := (by decide : AreNames ["scope", "tenant_key", "name"])
  values := rfl

theorem RemoteFunction.isBare_upsert (f : RemoteFunction) : f.upsert.IsBare where
  table := (by decide : IsTableName "public.remote_function_registry")
  columns := (by decide : AreNames ["scope", "tenant_key", "tenant_id", "name", "route",
    "enabled", "version"])
  key := (by decide : AreNames ["scope", "tenant_key", "name"])
  values := rfl

theorem Setting.entryOf?_upsert (s : Setting) (o : Owner) :
    (s.upsert o).insertion.entryOf? =
      some ⟨"public.app_settings", o.scope, o.key, o.tenant, s.key, .value s.value.render⟩ := by
  simp [Insertion.entryOf?, Insertion.payload?, Insertion.value?, Upsert.insertion, upsert,
    Owner.literals, List.lookup_cons, Literal.text?, Literal.json?, Scope.named?_text,
    tenant?_literals o]

theorem Bucket.entryOf?_upsert (b : Bucket) :
    b.upsert.insertion.entryOf? =
      some ⟨"public.storage_buckets", b.owner.scope, b.owner.key, b.owner.tenant, trim b.name,
        .files b.isPublic (b.allowedMimeTypes.filterMap nonBlank?) b.fileSizeLimitBytes⟩ := by
  have hlimit : (b.fileSizeLimitBytes.elim Literal.null .int).limit? =
      some b.fileSizeLimitBytes := by
    cases b.fileSizeLimitBytes <;> rfl
  simp [Insertion.entryOf?, Insertion.payload?, Insertion.files?, Insertion.value?,
    Upsert.insertion, upsert, Owner.literals, List.lookup_cons, Literal.text?, Literal.bool?,
    Literal.texts?, Scope.named?_text, tenant?_literals b.owner, hlimit]

theorem RemoteFunction.entryOf?_upsert (f : RemoteFunction) :
    f.upsert.insertion.entryOf? =
      some ⟨"public.remote_function_registry", f.owner.scope, f.owner.key, f.owner.tenant,
        trim f.name, .route f.effectiveRoute f.enabled (trim f.version)⟩ := by
  simp [Insertion.entryOf?, Insertion.payload?, Insertion.files?, Insertion.route?,
    Insertion.value?, Upsert.insertion, upsert, Owner.literals, List.lookup_cons, Literal.text?,
    Literal.bool?, Scope.named?_text, tenant?_literals f.owner]

end entryOf?

/-! ## Registrations -/

/-- What is asked to be kept in a row, with the scope and the tenant as they are given. -/
inductive Registration where
  | setting (scope : Scope) (tenant : Option Uuid) (s : Setting)
  | preference (scope : Scope) (tenant : Option Uuid) (p : Preference)
  | bucket (b : Bucket)
  | remoteFunction (f : RemoteFunction)

namespace Registration

def part : Registration → Part
  | setting scope tenant s => .setting (.of scope tenant) s
  | preference scope tenant p => .preference (.of scope tenant) p
  | bucket b => .bucket b
  | remoteFunction f => .remoteFunction f

def scope : Registration → Scope
  | setting scope _ _ | preference scope _ _ => scope
  | bucket b => b.scope
  | remoteFunction f => f.scope

def givenTenant : Registration → Option Uuid
  | setting _ tenant _ | preference _ tenant _ => tenant
  | bucket b => b.tenantId
  | remoteFunction f => f.tenantId

/-- What is registered for everyone has no tenant. -/
def tenant (g : Registration) : Option Uuid :=
  if g.scope = .global then none else g.givenTenant

def owner (g : Registration) : Owner :=
  .of g.scope g.givenTenant

def table : Registration → String
  | setting .. | preference .. => "public.app_settings"
  | bucket _ => "public.storage_buckets"
  | remoteFunction _ => "public.remote_function_registry"

/-- The key or name without the white space around it, if anything is left; preferences have a
prefix. The key of a setting is what it is. -/
def name? : Registration → Option String
  | setting _ _ s => some s.key
  | preference _ _ p => (nonBlank? p.key).map ("pref." ++ ·)
  | bucket b => nonBlank? b.name
  | remoteFunction f => nonBlank? f.name

def payload : Registration → Payload
  | setting _ _ s => .value s.value.render
  | preference _ _ p => .value p.value.render
  | bucket b => .files b.isPublic (b.allowedMimeTypes.filterMap nonBlank?) b.fileSizeLimitBytes
  | remoteFunction f =>
    .route (if isBlankText f.route then "/" ++ trim f.name else trim f.route) f.enabled
      (trim f.version)

/-- The entry of that name. -/
def entry (g : Registration) (name : String) : Entry where
  table := g.table
  scope := g.scope
  tenantKey := g.tenant.elim "" Uuid.text
  tenant := g.tenant
  name := name
  payload := g.payload

end Registration

/-- What becomes of the payload of a row that is there already. -/
def Payload.update : Payload → String
  | value _ => " do update set value = excluded.value, updated_at = now();"
  | files .. => " do update set public = excluded.public, " ++
      "allowed_mime_types = excluded.allowed_mime_types, " ++
      "file_size_limit = excluded.file_size_limit, updated_at = now();"
  | route .. => " do update set route = excluded.route, enabled = excluded.enabled, " ++
      "version = excluded.version, updated_at = now();"

section owner

theorem Uuid.text_injective : Function.Injective text := by
  intro id id' h
  have hread := congrArg ofText? h
  rwa [ofText?_text, ofText?_text, Option.some.injEq] at hread

theorem Uuid.text_ne_empty (id : Uuid) : id.text ≠ "" := by
  intro h
  have hread := ofText?_text id
  rw [h] at hread
  cases hread

/-- The key of no tenant is not the one of any. -/
theorem elim_text_inj {tenant tenant' : Option Uuid} :
    tenant.elim "" Uuid.text = tenant'.elim "" Uuid.text ↔ tenant = tenant' := by
  cases tenant <;> cases tenant' <;>
    simp [Uuid.text_ne_empty, Ne.symm (Uuid.text_ne_empty _), Uuid.text_injective.eq_iff]

theorem Scope.text_inj {s s' : Scope} : s.text = s'.text ↔ s = s' := by
  cases s <;> cases s' <;> decide

theorem Registration.owner_scope (g : Registration) : g.owner.scope = g.scope := by
  unfold owner Owner.of
  cases g.scope <;> rfl

theorem Registration.owner_tenant (g : Registration) : g.owner.tenant = g.tenant := by
  unfold owner tenant Owner.of
  cases g.scope <;> rfl

theorem Registration.owner_key (g : Registration) : g.owner.key = g.tenant.elim "" Uuid.text := by
  rw [Owner.key, owner_tenant]

end owner

section written

variable {g g' : Registration} {name name' : String} {u u' : Upsert}

/-- The row of a registration: its table, and what its key is. -/
def Registration.target (g : Registration) (name : String) :
    String × List (String × Option Literal) :=
  let column := if g.table = "public.app_settings" then "key" else "name"
  (g.table, [("scope", some (.text g.scope.text)),
    ("tenant_key", some (.text (g.tenant.elim "" Uuid.text))), (column, some (.text name))])

/-- The statement says of a registration of that name what there is to say. -/
structure Registration.IsWrittenBy (g : Registration) (name : String) (u : Upsert) : Prop where
  bare : u.IsBare
  update : u.update = g.payload.update
  entry : u.insertion.entryOf? = some (g.entry name)
  target : u.insertion.target = g.target name

theorem Registration.target_inj :
    g.target name = g'.target name' ↔
      g.table = g'.table ∧ g.scope = g'.scope ∧ g.tenant = g'.tenant ∧ name = name' := by
  constructor
  · intro h
    simp only [target, Prod.mk.injEq, List.cons.injEq, Option.some.injEq, Literal.text.injEq,
      true_and, and_true, Scope.text_inj, elim_text_inj] at h
    obtain ⟨htable, hscope, htenant, -, hname⟩ := h
    exact ⟨htable, hscope, htenant, hname⟩
  · rintro ⟨htable, hscope, htenant, rfl⟩
    simp only [target, htable, hscope, htenant]

theorem Registration.setting_isWrittenBy (scope : Scope) (tenant : Option Uuid) (s : Setting) :
    let g := setting scope tenant s
    g.IsWrittenBy s.key (s.upsert g.owner) where
  bare := s.isBare_upsert _
  update := by
    dsimp only [Upsert.update, Setting.upsert, payload, Payload.update]
    decide
  entry := by
    rw [s.entryOf?_upsert, owner_scope, owner_tenant, owner_key]
    rfl
  target := by
    simp [Insertion.target, Insertion.value?, Upsert.insertion, Setting.upsert, Owner.literals,
      Registration.target, table, owner_scope, owner_key, List.lookup_cons]

theorem Registration.bucket_isWrittenBy (b : Bucket) :
    (bucket b).IsWrittenBy (trim b.name) b.upsert where
  bare := b.isBare_upsert
  update := by
    dsimp only [Upsert.update, Bucket.upsert, payload, Payload.update]
    decide
  entry := by
    have howner : b.owner = (bucket b).owner := rfl
    rw [b.entryOf?_upsert, howner, owner_scope, owner_tenant, owner_key]
    rfl
  target := by
    have howner : b.owner = (bucket b).owner := rfl
    simp [Insertion.target, Insertion.value?, Upsert.insertion, Bucket.upsert, Owner.literals,
      Registration.target, table, howner, owner_scope, owner_key, List.lookup_cons]

theorem Registration.remoteFunction_isWrittenBy (f : RemoteFunction) :
    (remoteFunction f).IsWrittenBy (trim f.name) f.upsert where
  bare := f.isBare_upsert
  update := by
    dsimp only [Upsert.update, RemoteFunction.upsert, payload, Payload.update]
    decide
  entry := by
    have howner : f.owner = (remoteFunction f).owner := rfl
    have hroute : f.effectiveRoute =
        if isBlankText f.route then "/" ++ trim f.name else trim f.route := by
      rw [RemoteFunction.effectiveRoute, nonBlank?, isBlankText]
      split <;> rfl
    rw [f.entryOf?_upsert, howner, owner_scope, owner_tenant, owner_key, hroute]
    rfl
  target := by
    have howner : f.owner = (remoteFunction f).owner := rfl
    simp [Insertion.target, Insertion.value?, Upsert.insertion, RemoteFunction.upsert,
      Owner.literals, Registration.target, table, howner, owner_scope, owner_key, List.lookup_cons]

/-- What has a name is written by the only statement that comes of it. -/
theorem Registration.exists_isWrittenBy (h : g.name? = some name) :
    ∃ u, g.part.changes = [⟨u.sql, .nothing⟩] ∧ g.IsWrittenBy name u := by
  cases g with
  | setting scope tenant s =>
    cases h
    exact ⟨_, rfl, setting_isWrittenBy scope tenant s⟩
  | preference scope tenant p =>
    obtain ⟨key, hkey, rfl⟩ := Option.map_eq_some_iff.mp h
    have hsetting : p.setting? = some ⟨"pref." ++ key, p.value⟩ := by
      rw [Preference.setting?, hkey, Option.map_some]
    have hwritten := setting_isWrittenBy scope tenant ⟨"pref." ++ key, p.value⟩
    refine ⟨_, ?_, hwritten.bare, hwritten.update, hwritten.entry, hwritten.target⟩
    rw [part, Part.changes, hsetting]
    rfl
  | bucket b =>
    have hname : nonBlank? b.name = some name := h
    have hblock : b.block.changes = [⟨b.upsert.sql, .nothing⟩] := by
      rw [Bucket.block, hname]
      rfl
    obtain rfl := nonBlank?_eq_some hname
    exact ⟨_, hblock, bucket_isWrittenBy b⟩
  | remoteFunction f =>
    have hname : nonBlank? f.name = some name := h
    have hblock : f.block.changes = [⟨f.upsert.sql, .nothing⟩] := by
      rw [RemoteFunction.block, hname]
      rfl
    obtain rfl := nonBlank?_eq_some hname
    exact ⟨_, hblock, remoteFunction_isWrittenBy f⟩

theorem Registration.changes_eq_nil (h : g.name? = none) : g.part.changes = [] := by
  cases g with
  | setting scope tenant s => cases h
  | preference scope tenant p =>
    have hkey : nonBlank? p.key = none := Option.map_eq_none_iff.mp h
    rw [part, Part.changes, Preference.setting?, hkey]
    rfl
  | bucket b =>
    have hname : nonBlank? b.name = none := h
    rw [part, Part.changes, Bucket.block, hname]
  | remoteFunction f =>
    have hname : nonBlank? f.name = none := h
    rw [part, Part.changes, RemoteFunction.block, hname]

/-- What has a name is registered by one statement, from which it can be read back. The list of
values ends where the last value ends, and what stands behind it is the same for all rows of the
table. The row holds the scope, the tenant, in a text and in an identifier, the name and the
payload; for everyone there is no tenant, whether one is given or not. Two statements are about the
same row if and only if they agree in table, scope, tenant and name. -/
theorem Registration.statement_reads_back (g : Registration) :
    match g.name? with
    | none => g.part.changes = []
    | some name =>
      ∃ statement i, g.part.changes = [⟨statement, .nothing⟩] ∧
        (∀ r : ChangeRequest, g.part ∈ r.parts → statement ∈ r.compile.sql) ∧
        readInsertion? statement = some (i, g.payload.update) ∧
        i.entryOf? = some (g.entry name) ∧
        (g.scope = .global →
          i.value? "tenant_key" = some (.text "") ∧ i.value? "tenant_id" = some .null) ∧
        ∀ (g' : Registration) (name' statement' : String) (i' : Insertion) (rest : String),
          g'.name? = some name' → g'.part.changes = [⟨statement', .nothing⟩] →
            readInsertion? statement' = some (i', rest) →
              (i.target = i'.target ↔
                g.table = g'.table ∧ g.scope = g'.scope ∧ g.tenant = g'.tenant ∧ name = name') := by
  split
  case h_1 hn => exact changes_eq_nil hn
  case h_2 name hn =>
    obtain ⟨u, hchanges, hu⟩ := exists_isWrittenBy hn
    have hread := Upsert.readInsertion?_sql hu.bare
    rw [hu.update] at hread
    refine ⟨u.sql, u.insertion, hchanges, ?compiled, hread, hu.entry, ?everyone, ?rows⟩
    case compiled =>
      intro r hr
      have hmem : ⟨u.sql, .nothing⟩ ∈ g.part.changes := hchanges ▸ List.mem_singleton_self _
      exact ChangeRequest.mem_sql hr hmem
    case everyone =>
      intro hs
      have htenant : g.tenant = none := if_pos hs
      refine Insertion.values_of_no_tenant hu.entry ?_ htenant
      rw [entry, htenant]
      rfl
    case rows =>
      intro g' name' statement' i' rest hn' hchanges' hread'
      obtain ⟨u', hmade, hu'⟩ := exists_isWrittenBy hn'
      rw [hmade] at hchanges'
      cases hchanges'
      rw [Upsert.readInsertion?_sql hu'.bare] at hread'
      cases hread'
      rw [hu.target, hu'.target]
      exact target_inj

end written

/-- A bucket whose texts look like the end of a literal, of a list and of a statement. -/
def quotedBucket (scope : Scope) (tenant : Option Uuid) : Bucket where
  scope := scope
  tenantId := tenant
  name := " it's'); "
  allowedMimeTypes := ["a', 'b", " ", "]::text[]\n"]
  fileSizeLimitBytes := some (-5)

/-- It is read as it was given. With and without a tenant it is the same row for everyone, and
another one for the tenant. -/
theorem Registration.statement_reads_back_quoted :
    ∃ statement i, (quotedBucket .global (some .nil)).block.changes = [⟨statement, .nothing⟩] ∧
      (∃ rest, readInsertion? statement = some (i, rest)) ∧
      i.entryOf? = some ⟨"public.storage_buckets", .global, "", none, "it's');",
        .files false ["a', 'b", "]::text[]"] (some (-5))⟩ ∧
      (∃ statement' i' rest, (quotedBucket .global none).block.changes = [⟨statement', .nothing⟩] ∧
        readInsertion? statement' = some (i', rest) ∧ i.target = i'.target) ∧
      ∃ statement' i' rest,
        (quotedBucket .tenant (some .nil)).block.changes = [⟨statement', .nothing⟩] ∧
          readInsertion? statement' = some (i', rest) ∧ i.target ≠ i'.target := by
  have hname (scope : Scope) (tenant : Option Uuid) :
      (bucket (quotedBucket scope tenant)).name? = some "it's');" :=
    (by decide : nonBlank? " it's'); " = some "it's');")
  have hreads (scope : Scope) (tenant : Option Uuid) :=
    statement_reads_back (bucket (quotedBucket scope tenant))
  simp only [hname] at hreads
  obtain ⟨statement, i, hchanges, -, hread, hentry, -, hrows⟩ := hreads .global (some .nil)
  obtain ⟨s', i', hchanges', -, hread', -⟩ := hreads .global none
  obtain ⟨s'', i'', hchanges'', -, hread'', -⟩ := hreads .tenant (some .nil)
  refine ⟨statement, i, hchanges, ⟨_, hread⟩, hentry.trans (by decide +kernel),
    ⟨s', i', _, hchanges', hread', ?_⟩, s'', i'', _, hchanges'', hread'', ?_⟩
  · exact (hrows _ _ _ _ _ (hname .global none) hchanges' hread').mpr (by decide)
  · rw [ne_eq, hrows _ _ _ _ _ (hname .tenant (some .nil)) hchanges'' hread'']
    decide

end Evolution
