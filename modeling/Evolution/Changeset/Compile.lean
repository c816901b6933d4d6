import Evolution.Changeset.Block
import Evolution.Digest.Sha256

/-! Compiling a request: the blocks of its entities, one after the other. Tables come before what
stands on them, and each kind keeps the order of the request. -/
namespace Evolution

/-- A desired state with what it is called and whom it is for. -/
structure ChangeRequest where
  moduleName : String := ""
  title : String := ""
  summary : Option String := none
  scope : Scope := .global
  tenantId : Option Uuid := none
  desiredState : DesiredState := {}

/-- A compiled request. -/
structure Changeset where
  moduleName : String
  title : String
  summary : String
  scope : Scope
  tenantId : Option Uuid
  desiredState : DesiredState
  sql : List String
  rollbackSql : List String
  impact : Impact

namespace ChangeRequest

/-- The owner of the settings. -/
def owner (r : ChangeRequest) : Owner :=
  .of r.scope r.tenantId

def settings (r : ChangeRequest) : List Setting :=
  r.desiredState.authSettings.settings ++ r.desiredState.apiSettings.settings ++
    r.desiredState.preferences.filterMap Preference.setting?

def blocks (r : ChangeRequest) : List Block :=
  let s := r.desiredState
  s.tables.map Table.block ++ s.policies.map Policy.block ++ s.triggers.map Trigger.block ++
    s.functions.map Routine.block ++ [{ warnings := r.owner.warnings }] ++
    r.settings.map (·.block r.owner) ++ s.buckets.map Bucket.block ++
    s.remoteFunctions.map RemoteFunction.block

def changes (r : ChangeRequest) : List Change :=
  r.blocks.flatMap Block.changes

/-- Warnings about changes to undo by hand come last. -/
def warnings (r : ChangeRequest) : List Warning :=
  r.blocks.flatMap Block.warnings ++ r.changes.filterMap fun c => c.inverse.warning?

def impact (r : ChangeRequest) : Impact :=
  .of (r.blocks.flatMap Block.touches) r.warnings

def compile (r : ChangeRequest) : Changeset where
  moduleName := Text.trim r.moduleName
  title := Text.trim r.title
  summary := (r.summary.bind Text.nonBlank?).getD r.impact.summary
  scope := r.scope
  tenantId := r.tenantId
  desiredState := r.desiredState
  sql := r.changes.map Change.forward
  rollbackSql := rollback (r.changes.map Change.inverse)
  impact := r.impact

end ChangeRequest

namespace Changeset

/-- What the checksum is taken of: each statement on lines of its own, with a line between the
forward statements and the rollback. -/
def checksumText (sql rollbackSql : List String) : String :=
  String.join (sql.map (· ++ "\n")) ++ "--rollback--\n" ++
    String.join (rollbackSql.map (· ++ "\n"))

def checksumBytes (sql rollbackSql : List String) : List UInt8 :=
  (checksumText sql rollbackSql).toUTF8.data.toList

def checksum (c : Changeset) : String :=
  Digest.sha256 (checksumBytes c.sql c.rollbackSql)

end Changeset
end Evolution
