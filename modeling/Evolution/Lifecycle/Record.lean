import Evolution.Changeset.Codec
import Evolution.Fault
import Evolution.Lifecycle.Report
import Evolution.Time.Instant

/-! Changesets as they are stored: what was compiled, and where it stands in its life. -/
namespace Evolution

open Json
open Time (Instant)

def decodeStatus : Decoder Status :=
  decodeEnum Status.named?

structure Record where
  id : Uuid := .nil
  scope : Scope := .global
  tenantId : Option Uuid := none
  title : String := ""
  summary : String := ""
  moduleName : String := ""
  desiredState : DesiredState := {}
  sql : List String := []
  rollbackSql : List String := []
  impact : Impact := {}
  checksum : String := ""
  report : Option Report := none
  status : Status := .draft
  errorText : Option String := none
  createdBy : Option String := none
  createdAt : Instant := ⟨0, 0⟩
  updatedAt : Instant := ⟨0, 0⟩

/-- Identity and time of a record to be made. -/
structure Stamp where
  id : Uuid
  now : Instant

/-- A new record of a changeset; a report that did not pass gives the error text. -/
def Record.ofChangeset (c : Changeset) (status : Status) (report : Option Report)
    (createdBy : Option String) (stamp : Stamp) : Record where
  id := stamp.id
  scope := c.scope
  tenantId := c.tenantId
  title := c.title
  summary := c.summary
  moduleName := c.moduleName
  desiredState := c.desiredState
  sql := c.sql
  rollbackSql := c.rollbackSql
  impact := c.impact
  checksum := c.checksum
  report := report
  status := status
  errorText := report.bind Report.errorText
  createdBy := createdBy
  createdAt := stamp.now
  updatedAt := stamp.now

def Record.fields : List (RecordField Record) :=
  [field "id" (·.id) (fun v r => { r with id := v }) Uuid.json Uuid.decode,
   field "scope" (·.scope) (fun v r => { r with scope := v }) Scope.json Scope.decode,
   (field "tenantId" (·.tenantId) (fun v r => { r with tenantId := v })
     encodeOptionalUuid decodeOptionalUuid).orAbsent,
   field "title" (·.title) (fun v r => { r with title := v }) .string decodeString,
   field "summary" (·.summary) (fun v r => { r with summary := v }) .string decodeString,
   field "module" (·.moduleName) (fun v r => { r with moduleName := v }) .string decodeString,
   field "desiredState" (·.desiredState) (fun v r => { r with desiredState := v })
     DesiredState.json DesiredState.decode,
   field "sql" (·.sql) (fun v r => { r with sql := v }) .strings decodeTexts,
   field "rollbackSql" (·.rollbackSql) (fun v r => { r with rollbackSql := v })
     .strings decodeTexts,
   field "impactPreview" (·.impact) (fun v r => { r with impact := v }) Impact.json Impact.decode,
   field "checksum" (·.checksum) (fun v r => { r with checksum := v }) .string decodeString,
   (field "validationReport" (·.report) (fun v r => { r with report := v })
     (Value.ofOption Report.json) (decodeOption Report.decode)).orAbsent.skippingNull,
   field "status" (·.status) (fun v r => { r with status := v })
     (fun s => .string s.text) decodeStatus,
   (field "errorText" (·.errorText) (fun v r => { r with errorText := v })
     encodeOptionalText decodeOptionalText).orAbsent.skippingNull,
   (field "createdBy" (·.createdBy) (fun v r => { r with createdBy := v })
     encodeOptionalText decodeOptionalText).orAbsent.skippingNull,
   field "createdAt" (·.createdAt) (fun v r => { r with createdAt := v })
     (fun t => .string t.text) Instant.decode,
   field "updatedAt" (·.updatedAt) (fun v r => { r with updatedAt := v })
     (fun t => .string t.text) Instant.decode]

def Record.json : Record → Value :=
  writeRecord fields

def Record.decode : Decoder Record :=
  decodeRecord fields {}

/-- A move to another status. The error text is always overwritten, a report only by another. -/
structure StatusUpdate where
  status : Status
  errorText : Option String := none
  report : Option Report := none

def Record.moved (r : Record) (u : StatusUpdate) (now : Instant) : Record :=
  { r with
    status := u.status
    errorText := u.errorText
    report := u.report <|> r.report
    updatedAt := now }

/-- Which records to list, and how many. -/
structure Filter where
  moduleName : Option String := none
  status : Option Status := none
  tenantId : Option Uuid := none
  limit : Option Nat := none
  deriving DecidableEq, Repr

def Filter.admits (f : Filter) (r : Record) : Bool :=
  f.moduleName.all (· == r.moduleName) && f.status.all (· == r.status) &&
    f.tenantId.all fun t => r.tenantId == some t

/-- A size of 64 bits. -/
def decodeSize : Decoder Nat :=
  fun depth t => (decodeInt 0 0xFFFFFFFFFFFFFFFF depth t).map Int.toNat

def Filter.fields : List (RecordField Filter) :=
  [(field "module" (·.moduleName) (fun v f => { f with moduleName := v })
     encodeOptionalText decodeOptionalText).orAbsent,
   (field "status" (·.status) (fun v f => { f with status := v })
     (Value.ofOption fun s => .string s.text) (decodeOption decodeStatus)).orAbsent,
   (field "tenantId" (·.tenantId) (fun v f => { f with tenantId := v })
     encodeOptionalUuid decodeOptionalUuid).orAbsent,
   (field "limit" (·.limit) (fun v f => { f with limit := v })
     (Value.ofOption encodeCount) (decodeOption decodeSize)).orAbsent]

def Filter.decode : Decoder Filter :=
  decodeRecord fields {}

end Evolution
