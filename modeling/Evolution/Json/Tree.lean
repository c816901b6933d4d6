import Evolution.Json.Value

/-! The shape of a JSON text, as far as the text goes. A text that breaks off or goes wrong still
has a shape up to there, so that a reader who walks it in order meets its faults in the order of the
text. -/
namespace Evolution.Json

/-- A string with half a surrogate pair and a number beyond all doubles are well formed, but have no
value. An array or object that is not closed ends where the text went wrong. -/
inductive Tree where
  | broken
  | null
  | bool (b : Bool)
  | number (n : Option Number)
  | string (s : Option String)
  | array (items : List Tree) (closed : Bool)
  | object (members : List (Tree × Tree)) (closed : Bool)

mutual

/-- No fault anywhere in it. -/
def Tree.intact : Tree → Bool
  | .broken => false
  | .null | .bool _ | .number _ | .string _ => true
  | .array items closed => allIntact items && closed
  | .object members closed => membersIntact members && closed

def allIntact : List Tree → Bool
  | [] => true
  | t :: rest => t.intact && allIntact rest

def membersIntact : List (Tree × Tree) → Bool
  | [] => true
  | (k, v) :: rest => k.intact && v.intact && membersIntact rest

end

mutual

/-- The shape of the text of a value. -/
def Value.tree : Value → Tree
  | .null => .null
  | .bool b => .bool b
  | .number n => .number (some n)
  | .string s => .string (some s)
  | .array items => .array (treesOf items) true
  | .object members => .object (memberTreesOf members) true

def treesOf : List Value → List Tree
  | [] => []
  | v :: rest => v.tree :: treesOf rest

def memberTreesOf : List (String × Value) → List (Tree × Tree)
  | [] => []
  | (k, v) :: rest => (.string (some k), v.tree) :: memberTreesOf rest

end

end Evolution.Json
