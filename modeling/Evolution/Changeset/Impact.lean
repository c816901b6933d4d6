import Evolution.Changeset.Change
import Evolution.NameSet

/-! What a changeset touches, and what its reader should know before applying it. -/
namespace Evolution

inductive Warning where
  | missingTenant
  | losesRowSecurity (table : String)
  | manualRollback (object reason : String)
  deriving DecidableEq, Repr

def Warning.message : Warning → String
  | missingTenant => "Tenant scope selected without a tenant id; global defaults may apply"
  | losesRowSecurity table =>
    s!"Reverting disables row level security on {table} even if it was enabled before"
  | manualRollback object reason =>
    s!"Function {object} has no automatic rollback ({reason}); revert it manually"

/-- Only a change that has to be undone by hand is warned of. -/
def Inverse.warning? : Inverse → Option Warning
  | manual object reason => some (.manualRollback object reason)
  | _ => none

inductive EntityKind where
  | table
  | policy
  | trigger
  | function
  | bucket
  | remoteFunction
  | setting
  deriving DecidableEq, Repr

structure Entity where
  kind : EntityKind
  name : String
  deriving DecidableEq, Repr

/-- The named entities by kind, and the warnings, each once. -/
structure Impact where
  tables : NameSet := .empty
  policies : NameSet := .empty
  triggers : NameSet := .empty
  functions : NameSet := .empty
  buckets : NameSet := .empty
  remoteFunctions : NameSet := .empty
  settingsKeys : NameSet := .empty
  warnings : List String := []
  deriving DecidableEq

def namesOf (kind : EntityKind) (entities : List Entity) : NameSet :=
  .ofList ((entities.filter fun e => e.kind == kind).map Entity.name)

/-- Keeps the first of equal texts. -/
def distinct (texts : List String) : List String :=
  texts.foldl (fun kept t => if kept.contains t then kept else kept ++ [t]) []

def Impact.of (entities : List Entity) (warnings : List Warning) : Impact where
  tables := namesOf .table entities
  policies := namesOf .policy entities
  triggers := namesOf .trigger entities
  functions := namesOf .function entities
  buckets := namesOf .bucket entities
  remoteFunctions := namesOf .remoteFunction entities
  settingsKeys := namesOf .setting entities
  warnings := distinct (warnings.map Warning.message)

/-- How many entities of each kind there are. -/
def Impact.summary (i : Impact) : String :=
  s!"{i.tables.size} table(s), {i.policies.size} policy(ies), {i.triggers.size} trigger(s), " ++
    s!"{i.functions.size} function(s), {i.settingsKeys.size} setting(s), " ++
    s!"{i.buckets.size} bucket(s), {i.remoteFunctions.size} remote function(s)"

end Evolution
