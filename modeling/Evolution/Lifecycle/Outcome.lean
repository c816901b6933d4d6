import Evolution.Json.Record
import Evolution.Model.Codec

/-! How an attempt to apply or revert a changeset ended. -/
namespace Evolution

open Json

structure Outcome where
  ok : Bool := false
  error : Option String := none
  /-- The new status was stored together with the effects of the statements. -/
  statusRecorded : Bool := false
  deriving DecidableEq, Repr

namespace Outcome

def success : Outcome :=
  ⟨true, none, false⟩

def recorded : Outcome :=
  ⟨true, none, true⟩

def failure (error : String) : Outcome :=
  ⟨false, some error, false⟩

def fields : List (RecordField Outcome) :=
  [field "ok" (·.ok) (fun v o => { o with ok := v }) .bool decodeBool,
   (field "error" (·.error) (fun v o => { o with error := v })
     encodeOptionalText decodeOptionalText).orAbsent.skippingNull,
   (field "statusRecorded" (·.statusRecorded) (fun v o => { o with statusRecorded := v })
     .bool decodeBool).orDefault]

def json : Outcome → Value :=
  writeRecord fields

def decode : Decoder Outcome :=
  decodeRecord fields {}

end Outcome
end Evolution
