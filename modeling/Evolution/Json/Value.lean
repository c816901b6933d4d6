import Evolution.Decimal.Double

/-! JSON values: whole numbers are exact, all other numbers are doubles, and the members of an
object are kept in the order of their keys, each key once. -/
namespace Evolution.Json

open Evolution.Decimal (Double)

inductive Number where
  | int (n : Int)
  | double (x : Double)
  deriving DecidableEq, Repr

inductive Value where
  | null
  | bool (b : Bool)
  | number (n : Number)
  | string (s : String)
  | array (items : List Value)
  | object (members : List (String × Value))

/-- Puts a member at its place in a sorted list; a later value for a key takes the place of the
earlier one. -/
def insertMember {α : Type} (key : String) (value : α) : List (String × α) → List (String × α)
  | [] => [(key, value)]
  | (k, v) :: rest =>
    if key < k then (key, value) :: (k, v) :: rest
    else if key = k then (key, value) :: rest
    else (k, v) :: insertMember key value rest

/-- The object of these members, the last one of each key. -/
def Value.ofMembers (members : List (String × Value)) : Value :=
  .object (members.foldl (fun sorted (k, v) => insertMember k v sorted) [])

def Value.int (n : Int) : Value :=
  .number (.int n)

def Value.strings (items : List String) : Value :=
  .array (items.map .string)

/-- The value, or null for none. -/
def Value.ofOption {α : Type} (encode : α → Value) : Option α → Value
  | some a => encode a
  | none => .null

end Evolution.Json
