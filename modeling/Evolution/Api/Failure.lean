import Evolution.Fault
import Evolution.Json.Value

/-! How a fault is told to a client: a status, a code to switch on, and a message. -/
namespace Evolution

open Json (Value)

/-- The text of an inner cause stands apart from the message. -/
structure Failure where
  status : Nat
  code : String
  message : String
  details : Option String := none
  errors : List String := []
  deriving DecidableEq, Repr

def Fault.failure (f : Fault) : Failure :=
  match f with
  | .database cause => ⟨500, "DATABASE_ERROR", "A database error occurred", some cause.message, []⟩
  | .pool cause =>
    ⟨503, "POOL_EXHAUSTED", "Database connection pool exhausted", some cause.message, []⟩
  | .invalidModel errors =>
    ⟨400, "INVALID_MODEL", "The desired state has structural errors", none, errors⟩
  | .invalidTransition .. => ⟨409, "INVALID_TRANSITION", f.message, none, []⟩
  | .statusNotRecorded .. => ⟨500, "STATUS_NOT_RECORDED", f.message, none, []⟩
  | .execution message =>
    ⟨502, "EXECUTION_FAILED", "The executor reported a failure", some message, []⟩
  | .validation message => ⟨400, "VALIDATION_ERROR", message, none, []⟩
  | .notFound message => ⟨404, "NOT_FOUND", message, none, []⟩
  | .conflict message => ⟨409, "CONFLICT", message, none, []⟩
  | .badRequest message => ⟨400, "BAD_REQUEST", message, none, []⟩
  | .internal message =>
    ⟨500, "INTERNAL_ERROR", "An internal error occurred", some message, []⟩
  | .config message =>
    ⟨500, "CONFIG_ERROR", "A configuration error occurred", some message, []⟩

/-- Absent details and an empty list of errors are left out. -/
def Failure.json (f : Failure) : Value :=
  .object ([("success", .bool false), ("message", .string f.message)] ++
    (f.details.map fun d => ("error", Value.string d)).toList ++
    [("code", .string f.code)] ++
    if f.errors.isEmpty then [] else [("errors", .strings f.errors)])

end Evolution
