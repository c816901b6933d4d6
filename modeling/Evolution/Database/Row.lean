import Evolution.Json.Printer
import Evolution.Lifecycle.Record

/-! The rows that changesets are stored in. A cell may have been overwritten by others, so that
reading one can fail. -/
namespace Evolution.Database

open Json (Value Decoder)
open Time (Instant)

inductive ChangesetColumn where
  | id
  | scope
  | tenantId
  | title
  | summary
  | moduleName
  | desiredState
  | sql
  | rollbackSql
  | impact
  | checksum
  | report
  | status
  | errorText
  | createdBy
  | createdAt
  | updatedAt
  deriving DecidableEq, Repr

namespace ChangesetColumn

/-- In the order of the table. -/
def all : List ChangesetColumn :=
  [id, scope, tenantId, title, summary, moduleName, desiredState, sql, rollbackSql, impact,
    checksum, report, status, errorText, createdBy, createdAt, updatedAt]

def name : ChangesetColumn → String
  | id => "id"
  | scope => "scope"
  | tenantId => "tenant_id"
  | title => "title"
  | summary => "summary"
  | moduleName => "module"
  | desiredState => "desired_state"
  | sql => "sql"
  | rollbackSql => "rollback_sql"
  | impact => "impact_preview"
  | checksum => "checksum"
  | report => "validation_report"
  | status => "status"
  | errorText => "error_text"
  | createdBy => "created_by"
  | createdAt => "created_at"
  | updatedAt => "updated_at"

def named? (s : String) : Option ChangesetColumn :=
  all.find? (·.name == s)

def index (c : ChangesetColumn) : Nat :=
  all.idxOf c

end ChangesetColumn

/-- What is stored in a cell. An identifier and a time have binary forms of their own, which a text
of 16 or 8 bytes can stand for. -/
inductive Cell where
  | null
  | text (s : String)
  | uuid (id : Uuid)
  /-- Microseconds since the beginning of 2000. -/
  | time (micros : Int)
  deriving DecidableEq, Repr

namespace Cell

def ofOption {α : Type} (make : α → Cell) : Option α → Cell
  | some a => make a
  | none => null

/-- JSON text after a byte for the version of the format. -/
def json (v : Value) : Cell :=
  text ("\x01" ++ v.render)

def ofInstant (t : Instant) : Cell :=
  time t.microseconds

def text? : Cell → Option String
  | text s => some s
  | _ => none

/-- The number that bytes stand for, the highest first. -/
def bigEndian (bytes : List UInt8) : Nat :=
  bytes.foldl (fun n b => n * 256 + b.toNat) 0

def uuid? : Cell → Option Uuid
  | uuid id => some id
  | text s =>
    let bytes := s.toUTF8.data.toList
    if bytes.length = 16 then some ⟨BitVec.ofNat 128 (bigEndian bytes)⟩ else none
  | _ => none

def micros? : Cell → Option Int
  | time n => some n
  | text s =>
    let bytes := s.toUTF8.data.toList
    if bytes.length = 8 then some (BitVec.ofNat 64 (bigEndian bytes)).toInt else none
  | _ => none

def instant? (c : Cell) : Option Instant :=
  c.micros?.bind Instant.ofMicroseconds?

def json? {α : Type} (decode : Decoder α) (c : Cell) : Option α :=
  match c.text? with
  | some s =>
    match s.toList with
    | '\x01' :: rest => (Json.decodeText decode (String.ofList rest)).toOption
    | _ => none
  | none => none

/-- Null is none, and anything else has to be readable. -/
def orNull {α : Type} (read? : Cell → Option α) : Cell → Option (Option α)
  | null => some none
  | c => (read? c).map some

end Cell

structure Row where
  cell : ChangesetColumn → Cell

namespace Row

def ofRecord (r : Record) : Row where
  cell
    | .id => .uuid r.id
    | .scope => .text r.scope.text
    | .tenantId => .ofOption .uuid r.tenantId
    | .title => .text r.title
    | .summary => .text r.summary
    | .moduleName => .text r.moduleName
    | .desiredState => .json r.desiredState.json
    | .sql => .json (.strings r.sql)
    | .rollbackSql => .json (.strings r.rollbackSql)
    | .impact => .json r.impact.json
    | .checksum => .text r.checksum
    | .report => .ofOption (fun x => .json x.json) r.report
    | .status => .text r.status.text
    | .errorText => .ofOption .text r.errorText
    | .createdBy => .ofOption .text r.createdBy
    | .createdAt => .ofInstant r.createdAt
    | .updatedAt => .ofInstant r.updatedAt

def put (c : ChangesetColumn) (x : Cell) (r : Row) : Row where
  cell := fun d => if d = c then x else r.cell d

def hasId (id : Uuid) (r : Row) : Bool :=
  (r.cell .id).uuid? == some id

def read {α : Type} (r : Row) (c : ChangesetColumn) (read? : Cell → Option α) :
    Except Fault α :=
  match read? (r.cell c) with
  | some a => .ok a
  | none => .error (.database (.unreadableColumn c.index))

/-- Reads a row as a record. Scope and status are looked at first. -/
def record (r : Row) : Except Fault Record := do
  let scopeText ← r.read .scope Cell.text?
  let statusText ← r.read .status Cell.text?
  let some status := Status.ofText? statusText
    | throw (.internal s!"Unknown status '{statusText}' in changesets table")
  let id ← r.read .id Cell.uuid?
  let some scope := Scope.named? scopeText
    | throw (.internal s!"Unknown scope '{scopeText}' in changesets table")
  let tenantId ← r.read .tenantId (Cell.orNull Cell.uuid?)
  let title ← r.read .title Cell.text?
  let summary ← r.read .summary Cell.text?
  let moduleName ← r.read .moduleName Cell.text?
  let desiredState ← r.read .desiredState (Cell.json? DesiredState.decode)
  let sql ← r.read .sql (Cell.json? decodeTexts)
  let rollbackSql ← r.read .rollbackSql (Cell.json? decodeTexts)
  let impact ← r.read .impact (Cell.json? Impact.decode)
  let checksum ← r.read .checksum Cell.text?
  let report ← r.read .report (Cell.orNull (Cell.json? Report.decode))
  let errorText ← r.read .errorText (Cell.orNull Cell.text?)
  let createdBy ← r.read .createdBy (Cell.orNull Cell.text?)
  let createdAt ← r.read .createdAt Cell.instant?
  let updatedAt ← r.read .updatedAt Cell.instant?
  pure { id, scope, tenantId, title, summary, moduleName, desiredState, sql, rollbackSql, impact,
         checksum, report, status, errorText, createdBy, createdAt, updatedAt }

/-- Moves a row to another status, and overwrites the report only by another. -/
def moved (u : StatusUpdate) (now : Instant) (r : Row) : Row :=
  let r := (r.put .status (.text u.status.text)).put .errorText (.ofOption .text u.errorText)
  let r := match u.report with
    | some report => r.put .report (.json report.json)
    | none => r
  r.put .updatedAt (.ofInstant now)

/-- Null admits every row, and a null cell is equal to nothing. -/
def meets (f : Filter) (r : Row) : Bool :=
  (f.moduleName.all fun m => (r.cell .moduleName).text? == some m) &&
    (f.status.all fun s => (r.cell .status).text? == some s.text) &&
    f.tenantId.all fun t => (r.cell .tenantId).uuid? == some t

/-- Later creation; a row without a time comes before all others. -/
def newer (a b : Row) : Bool :=
  match (a.cell .createdAt).micros?, (b.cell .createdAt).micros? with
  | some x, some y => y < x
  | none, some _ => true
  | _, none => false

end Row
end Evolution.Database
