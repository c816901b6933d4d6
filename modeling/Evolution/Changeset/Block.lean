import Evolution.Changeset.Impact
import Evolution.Json.Printer
import Evolution.Model.State
import Evolution.Sql.Upsert
import Evolution.Text.Word

/-! What one entity of a desired state contributes to a changeset. A block depends on its entity
alone, and for a setting also on the owner of the settings. -/
namespace Evolution

open Sql
open Text (trim nonBlank?)

structure Block where
  changes : List Change := []
  touches : List Entity := []
  warnings : List Warning := []

/-- Definition of a column inside a statement; the clauses come in a fixed order. -/
def Column.definition (c : Column) : String :=
  let dataType := (nonBlank? c.dataType).getD "text"
  let notNull := if c.nullable then "" else " not null"
  let unique := if c.unique then " unique" else ""
  let default := ((c.defaultValue.bind nonBlank?).map (" default " ++ ·)).getD ""
  let reference :=
    match c.referencesTable.bind nonBlank? with
    | none => ""
    | some target =>
      let column := (c.referencesColumn.bind nonBlank?).map fun name =>
        " (" ++ quoteIdentifier name ++ ")"
      " references " ++ quoteQualified target ++ column.getD ""
  quoteIdentifier (trim c.name) ++ " " ++ dataType ++ notNull ++ unique ++ default ++ reference

namespace Table

/-- The table is created whole: wanted so, and with at least one column. -/
def isCreated (t : Table) : Bool :=
  t.createIfMissing && !t.namedColumns.isEmpty

def quoted (t : Table) : String :=
  quoteQualified (trim t.name)

def createChange (t : Table) : Change where
  forward :=
    let definitions := ",\n".intercalate (t.namedColumns.map fun c => "  " ++ c.definition)
    s!"create table if not exists {t.quoted} (\n{definitions}\n);"
  inverse := .statement s!"drop table if exists {t.quoted};"

def addColumnChange (t : Table) (c : Column) : Change where
  forward := s!"alter table {t.quoted} add column if not exists {c.definition};"
  inverse :=
    let column := quoteIdentifier (trim c.name)
    .statement s!"alter table {t.quoted} drop column if exists {column};"

/-- A table that is dropped on the way back takes its row security with it. -/
def securityChange (t : Table) : Change where
  forward := s!"alter table {t.quoted} enable row level security;"
  inverse :=
    if t.isCreated then .nothing
    else .statement s!"alter table {t.quoted} disable row level security;"

/-- An index without a name or an expression is passed over. -/
def indexChange? (t : Table) (i : TableIndex) : Option Change :=
  match nonBlank? i.name, nonBlank? i.expression with
  | some name, some expression =>
    let unique := if i.unique then "unique " else ""
    let index := quoteIdentifier name
    let qualifier := schemaQualifier (trim t.name)
    some {
      forward :=
        s!"create {unique}index if not exists {index} on {t.quoted} ({expression});"
      inverse := .statement s!"drop index if exists {qualifier}{index};" }
  | _, _ => none

def block (t : Table) : Block :=
  let name := trim t.name
  if name.isEmpty then {}
  else
    { changes :=
        (if t.isCreated then [t.createChange] else t.namedColumns.map t.addColumnChange) ++
          (if t.rowLevelSecurity then [t.securityChange] else []) ++
          t.indexes.filterMap t.indexChange?
      touches := [⟨.table, name⟩]
      warnings :=
        if t.rowLevelSecurity && !t.isCreated then [.losesRowSecurity name] else [] }

end Table

/-- The role of everyone has no quotes, whatever its case. -/
def quoteRole (role : String) : String :=
  if role.toList.map Text.lowerAscii = "public".toList then "public" else quoteIdentifier role

/-- A drop that makes room, and a create that the same drop undoes. -/
def replaceChanges (drop create : String) : List Change :=
  [⟨drop, .nothing⟩, ⟨create, .statement drop⟩]

namespace Policy

def dropSql (p : Policy) : String :=
  let name := quoteIdentifier (trim p.name)
  let table := quoteQualified (trim p.table)
  s!"drop policy if exists {name} on {table};"

def createSql (p : Policy) : String :=
  let name := quoteIdentifier (trim p.name)
  let table := quoteQualified (trim p.table)
  let roles := (p.roles.filterMap nonBlank?).map quoteRole
  let grantees := if roles.isEmpty then "" else " to " ++ ", ".intercalate roles
  let visible := ((nonBlank? p.usingExpr).map fun e => " using (" ++ e ++ ")").getD ""
  let check := ((nonBlank? p.checkExpr).map fun e => " with check (" ++ e ++ ")").getD ""
  s!"create policy {name} on {table} for {p.command.text}{grantees}{visible}{check};"

/-- A policy without a table or a name is passed over. -/
def block (p : Policy) : Block :=
  match nonBlank? p.table, nonBlank? p.name with
  | some table, some name =>
    { changes := replaceChanges p.dropSql p.createSql
      touches := [⟨.table, table⟩, ⟨.policy, name⟩] }
  | _, _ => {}

end Policy

namespace Trigger

def dropSql (t : Trigger) : String :=
  let name := quoteIdentifier (trim t.name)
  let table := quoteQualified (trim t.table)
  s!"drop trigger if exists {name} on {table};"

def createSql (t : Trigger) : String :=
  let name := quoteIdentifier (trim t.name)
  let table := quoteQualified (trim t.table)
  let events := " OR ".intercalate (distinct (t.events.map TriggerEvent.sql))
  let function := quoteQualified t.function
  s!"create trigger {name} {t.timing.sql} {events} on {table} " ++
    s!"for each row execute function {function}();"

/-- A trigger without events, a table or a name is passed over. -/
def block (t : Trigger) : Block :=
  match nonBlank? t.table, nonBlank? t.name with
  | some table, some name =>
    if t.events.isEmpty then {}
    else
      { changes := replaceChanges t.dropSql t.createSql
        touches := [⟨.table, table⟩, ⟨.trigger, name⟩] }
  | _, _ => {}

end Trigger

namespace Routine

/-- Opens and closes the body of a function. -/
def bodyTag : String :=
  "$fn$"

/-- The body between tags, or as a literal if it holds the tag itself. -/
def quoteBody (body : String) : String :=
  if Text.contains body bodyTag then quoteLiteral body
  else bodyTag ++ "\n" ++ body ++ "\n" ++ bodyTag

/-- Only letters, digits and underscores of a language's name are kept. -/
def languageName (r : Routine) : String :=
  let kept := r.language.toList.filter isNameChar
  if kept.isEmpty then "plpgsql" else String.ofList kept

/-- Everything in front of the body. -/
def head (r : Routine) : String :=
  let returns := (nonBlank? r.returns).getD "void"
  let security := if r.securityDefiner then "\nsecurity definer" else ""
  s!"create or replace function {trim r.signature}\nreturns {returns}\n" ++
    s!"language {r.languageName}{security}\n"

def createSql (r : Routine) : String :=
  r.head ++ "as " ++ quoteBody (trim r.body) ++ ";"

/-- A function is dropped by its signature, which must list its arguments and none with a
default. -/
def inverse (r : Routine) : Inverse :=
  let signature := trim r.signature
  if !Text.contains signature "(" then .manual signature "signature has no argument list"
  else if Text.hasWord "default" signature || Text.contains signature "=" then
    .manual signature "signature has default arguments"
  else .statement s!"drop function if exists {signature};"

/-- A function without a signature or a body is passed over. -/
def block (r : Routine) : Block :=
  match nonBlank? r.signature, nonBlank? r.body with
  | some _, some _ =>
    { changes := [⟨r.createSql, r.inverse⟩]
      touches := [⟨.function, r.name⟩] }
  | _, _ => {}

end Routine

/-- An owner as the first three columns of a row. -/
def Owner.literals (o : Owner) : List Literal :=
  [.text o.scope.text, .text o.key, o.tenant.elim .null fun id => .uuid id.text]

def Owner.warnings (o : Owner) : List Warning :=
  if o.lacksTenant then [.missingTenant] else []

/-- Rows that are overwritten have no inverse: what they held is not known. -/
def upsertChange (u : Upsert) : Change :=
  ⟨u.sql, .nothing⟩

structure Setting where
  key : String
  value : Json.Value

def Setting.upsert (s : Setting) (o : Owner) : Upsert where
  table := "public.app_settings"
  columns := ["scope", "tenant_key", "tenant_id", "key", "value"]
  values := o.literals ++ [.text s.key, .json s.value.render]
  key := ["scope", "tenant_key", "key"]
  payload := ["value"]

def Setting.block (s : Setting) (o : Owner) : Block where
  changes := [upsertChange (s.upsert o)]
  touches := [⟨.setting, s.key⟩]

/-- The settings that are there, in a fixed order. -/
def AuthSettings.settings (a : AuthSettings) : List Setting :=
  [a.siteUrl.map fun v => ⟨"auth.site_url", .string v⟩,
   a.additionalRedirectUrls.map fun v => ⟨"auth.additional_redirect_urls", .strings v⟩,
   a.jwtExpirySeconds.map fun v => ⟨"auth.jwt_expiry_seconds", .int v⟩,
   a.enableSignup.map fun v => ⟨"auth.enable_signup", .bool v⟩,
   a.emailConfirmationRequired.map fun v => ⟨"auth.email_confirmation_required", .bool v⟩,
   a.mfaEnabled.map fun v => ⟨"auth.mfa_enabled", .bool v⟩].filterMap id

/-- The settings that are there, in a fixed order. -/
def ApiSettings.settings (a : ApiSettings) : List Setting :=
  [a.exposedSchemas.map fun v => ⟨"api.exposed_schemas", .strings v⟩,
   a.extraSearchPath.map fun v => ⟨"api.extra_search_path", .strings v⟩,
   a.maxRows.map fun v => ⟨"api.max_rows", .int v⟩,
   a.corsAllowedOrigins.map fun v => ⟨"api.cors_allowed_origins", .strings v⟩].filterMap id

/-- A preference without a key is passed over. -/
def Preference.setting? (p : Preference) : Option Setting :=
  (nonBlank? p.key).map fun key => ⟨"pref." ++ key, p.value⟩

namespace Bucket

def owner (b : Bucket) : Owner :=
  .of b.scope b.tenantId

def upsert (b : Bucket) : Upsert where
  table := "public.storage_buckets"
  columns := ["scope", "tenant_key", "tenant_id", "name", "public", "allowed_mime_types",
    "file_size_limit"]
  values := b.owner.literals ++
    [.text (trim b.name), .bool b.isPublic, .texts (b.allowedMimeTypes.filterMap nonBlank?),
      b.fileSizeLimitBytes.elim .null .int]
  key := ["scope", "tenant_key", "name"]
  payload := ["public", "allowed_mime_types", "file_size_limit"]

/-- A bucket without a name is passed over. -/
def block (b : Bucket) : Block :=
  match nonBlank? b.name with
  | some name =>
    { changes := [upsertChange b.upsert]
      touches := [⟨.bucket, name⟩]
      warnings := b.owner.warnings }
  | none => {}

end Bucket

namespace RemoteFunction

def owner (f : RemoteFunction) : Owner :=
  .of f.scope f.tenantId

/-- The route, or the name under the root. -/
def effectiveRoute (f : RemoteFunction) : String :=
  (nonBlank? f.route).getD ("/" ++ trim f.name)

def upsert (f : RemoteFunction) : Upsert where
  table := "public.remote_function_registry"
  columns := ["scope", "tenant_key", "tenant_id", "name", "route", "enabled", "version"]
  values := f.owner.literals ++
    [.text (trim f.name), .text f.effectiveRoute, .bool f.enabled, .text (trim f.version)]
  key := ["scope", "tenant_key", "name"]
  payload := ["route", "enabled", "version"]

/-- A remote function without a name is passed over. -/
def block (f : RemoteFunction) : Block :=
  match nonBlank? f.name with
  | some name =>
    { changes := [upsertChange f.upsert]
      touches := [⟨.remoteFunction, name⟩]
      warnings := f.owner.warnings }
  | none => {}

end RemoteFunction
end Evolution
