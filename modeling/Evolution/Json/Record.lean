import Evolution.Json.Decode

/-! Records as JSON: an object with a member per field, or on reading also an array of the fields in
order. Writing and reading share one description of the fields. -/
namespace Evolution.Json

/-- One field of a record. It is `optional` if an object may lack it, and `trailing` if an array may
end before it; the record then keeps what it had. -/
structure RecordField (α : Type) where
  name : String
  write : α → Option Value
  read : Nat → Tree → α → Except Flaw α
  optional : Bool
  trailing : Bool

/-- A required field. -/
def field {α β : Type} (name : String) (get : α → β) (set : β → α → α) (encode : β → Value)
    (decode : Decoder β) : RecordField α where
  name := name
  write := fun a => some (encode (get a))
  read := fun depth t a => (decode depth t).map fun b => set b a
  optional := false
  trailing := false

/-- May be missing in an object. -/
def RecordField.orAbsent {α : Type} (f : RecordField α) : RecordField α :=
  { f with optional := true }

/-- May be missing in an object, and at the end of an array. -/
def RecordField.orDefault {α : Type} (f : RecordField α) : RecordField α :=
  { f with optional := true, trailing := true }

/-- Not written at all where it would be null. -/
def RecordField.skippingNull {α : Type} (f : RecordField α) : RecordField α :=
  { f with
    write := fun a =>
      match f.write a with
      | some .null => none
      | v => v }

def writeRecord {α : Type} (fields : List (RecordField α)) (a : α) : Value :=
  .object (fields.filterMap fun f => (f.write a).map fun v => (f.name, v))

/-- Reads the members of an object in their order; `seen` holds the known names met so far. A known
name may come once, an unknown one as often as it likes. -/
def readFields {α : Type} (fields : List (RecordField α)) (depth : Nat) (closed : Bool)
    (seen : List String) (a : α) : List (Tree × Tree) → Except Flaw α
  | [] =>
    if !closed then .error .malformed
    else if fields.all fun f => f.optional || seen.contains f.name then .ok a
    else .error .mismatched
  | (key, value) :: rest =>
    match key with
    | .string (some name) =>
      match fields.find? (·.name == name) with
      | some f =>
        if seen.contains name then .error .mismatched
        else do
          let a ← f.read depth value a
          readFields fields depth closed (name :: seen) a rest
      | none =>
        if value.intact then readFields fields depth closed seen a rest else .error .malformed
    | _ => .error .malformed

/-- Reads the items of an array as the fields in order. -/
def readPositions {α : Type} (depth : Nat) (closed : Bool) (a : α) :
    List (RecordField α) → List Tree → Except Flaw α
  | [], [] => if closed then .ok a else .error .malformed
  | [], _ :: _ => .error .malformed
  | f :: fields, [] =>
    if !closed then .error .malformed
    else if (f :: fields).all (·.trailing) then .ok a
    else .error .mismatched
  | f :: fields, t :: rest => do
    let a ← f.read depth t a
    readPositions depth closed a fields rest

/-- Reads a record over `blank`, which gives the fields that are missing. -/
def decodeRecord {α : Type} (fields : List (RecordField α)) (blank : α) : Decoder α
  | depth, .object members closed =>
    enter depth fun depth => readFields fields depth closed [] blank members
  | depth, .array items closed =>
    enter depth fun depth => readPositions depth closed blank fields items
  | _, t => .error t.refusal

end Evolution.Json
