import Evolution.Changeset.Compile
import Evolution.Model.Codec

/-! The JSON form of requests, impacts and changesets. -/
namespace Evolution

open Json

def ChangeRequest.fields : List (RecordField ChangeRequest) :=
  [field "module" (·.moduleName) (fun v r => { r with moduleName := v }) .string decodeString,
   field "title" (·.title) (fun v r => { r with title := v }) .string decodeString,
   (field "summary" (·.summary) (fun v r => { r with summary := v })
     encodeOptionalText decodeOptionalText).orDefault,
   (field "scope" (·.scope) (fun v r => { r with scope := v }) Scope.json Scope.decode).orDefault,
   (field "tenantId" (·.tenantId) (fun v r => { r with tenantId := v })
     encodeOptionalUuid decodeOptionalUuid).orDefault,
   (field "desiredState" (·.desiredState) (fun v r => { r with desiredState := v })
     DesiredState.json DesiredState.decode).orDefault]

def ChangeRequest.json : ChangeRequest → Value :=
  writeRecord fields

def ChangeRequest.decode : Decoder ChangeRequest :=
  decodeRecord fields {}

def NameSet.json (names : NameSet) : Value :=
  .strings names.toList

def NameSet.decode : Decoder NameSet :=
  fun depth t => (decodeTexts depth t).map NameSet.ofList

def Impact.fields : List (RecordField Impact) :=
  [field "tables" (·.tables) (fun v i => { i with tables := v }) NameSet.json NameSet.decode,
   field "policies" (·.policies) (fun v i => { i with policies := v }) NameSet.json NameSet.decode,
   field "triggers" (·.triggers) (fun v i => { i with triggers := v }) NameSet.json NameSet.decode,
   field "functions" (·.functions) (fun v i => { i with functions := v })
     NameSet.json NameSet.decode,
   field "storageBuckets" (·.buckets) (fun v i => { i with buckets := v })
     NameSet.json NameSet.decode,
   field "remoteFunctions" (·.remoteFunctions) (fun v i => { i with remoteFunctions := v })
     NameSet.json NameSet.decode,
   field "settingsKeys" (·.settingsKeys) (fun v i => { i with settingsKeys := v })
     NameSet.json NameSet.decode,
   field "warnings" (·.warnings) (fun v i => { i with warnings := v }) .strings decodeTexts]

def Impact.json : Impact → Value :=
  writeRecord fields

def Impact.decode : Decoder Impact :=
  decodeRecord fields {}

def Changeset.json (c : Changeset) : Value :=
  .object [("module", .string c.moduleName), ("title", .string c.title),
    ("summary", .string c.summary), ("scope", c.scope.json),
    ("tenantId", encodeOptionalUuid c.tenantId), ("desiredState", c.desiredState.json),
    ("sql", .strings c.sql), ("rollbackSql", .strings c.rollbackSql),
    ("impactPreview", c.impact.json)]

end Evolution
