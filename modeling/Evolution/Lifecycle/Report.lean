import Evolution.Json.Record
import Evolution.Model.Codec

/-! What a check of statements against a database found. -/
namespace Evolution

open Json

structure Report where
  ok : Bool := false
  errors : List String := []
  warnings : List String := []
  deriving DecidableEq, Repr

namespace Report

/-- A report with errors is never ok. -/
def make (ok : Bool) (errors warnings : List String) : Report :=
  ⟨ok && errors.isEmpty, errors, warnings⟩

def passed (warnings : List String) : Report :=
  make true [] warnings

def rejected (errors : List String) : Report :=
  make false errors []

/-- What is kept with a changeset that did not pass. -/
def errorText (r : Report) : Option String :=
  if r.ok then none
  else if r.errors.isEmpty then some "Remote validation failed without details"
  else some ("\n".intercalate r.errors)

def fields : List (RecordField Report) :=
  [field "ok" (·.ok) (fun v r => { r with ok := v }) .bool decodeBool,
   (field "errors" (·.errors) (fun v r => { r with errors := v }) .strings decodeTexts).orDefault,
   (field "warnings" (·.warnings) (fun v r => { r with warnings := v })
     .strings decodeTexts).orDefault]

def json : Report → Value :=
  writeRecord fields

def decode : Decoder Report :=
  decodeRecord fields {}

end Report
end Evolution
