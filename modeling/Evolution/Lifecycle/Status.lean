import Evolution.Text.Blank
import Evolution.Text.Lowercase

/-! The life of a changeset: drafted, validated, applied and reverted, or failed on the way. -/
namespace Evolution

inductive Status where
  | draft
  | validated
  | applied
  | failed
  | reverted
  deriving DecidableEq, Repr

namespace Status

def text : Status → String
  | draft => "draft"
  | validated => "validated"
  | applied => "applied"
  | failed => "failed"
  | reverted => "reverted"

instance : ToString Status :=
  ⟨text⟩

def named? : String → Option Status
  | "draft" => some draft
  | "validated" => some validated
  | "applied" => some applied
  | "failed" => some failed
  | "reverted" => some reverted
  | _ => none

/-- Reads a status whatever its case and the blanks around it. -/
def ofText? (s : String) : Option Status :=
  named? (Text.lower (Text.trim s))

/-- The only steps there are. -/
def canMoveTo : Status → Status → Bool
  | draft, validated => true
  | draft, failed => true
  | validated, applied => true
  | validated, failed => true
  | applied, reverted => true
  | _, _ => false

def all : List Status :=
  [draft, validated, applied, failed, reverted]

end Status
end Evolution
