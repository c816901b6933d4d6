import Evolution.Json.Parser

/-! Typed reading of JSON. A decoder walks a shape in the order of the text and stops at the first
thing it cannot accept: a fault of the text, or a value of the wrong type. -/
namespace Evolution.Json

/-- Why a text was refused: it is no JSON, or not JSON of this type. -/
inductive Flaw where
  | malformed
  | mismatched
  deriving DecidableEq, Repr

/-- Reads a shape; the number says how many arrays and objects may still be opened. -/
abbrev Decoder (α : Type) := Nat → Tree → Except Flaw α

/-- At most so many arrays and objects may be open at once. -/
def maxDepth : Nat := 127

/-- What is wrong with a shape of another type: a scalar is read to its end first. -/
def Tree.refusal : Tree → Flaw
  | .broken | .number none | .string none => .malformed
  | _ => .mismatched

/-- Steps into an array or object. -/
def enter {α : Type} (depth : Nat) (inside : Nat → Except Flaw α) : Except Flaw α :=
  match depth with
  | 0 => .error .malformed
  | depth + 1 => inside depth

def decodeString : Decoder String
  | _, .string (some s) => .ok s
  | _, t => .error t.refusal

def decodeBool : Decoder Bool
  | _, .bool b => .ok b
  | _, t => .error t.refusal

/-- A whole number from `low` to `high`. -/
def decodeInt (low high : Int) : Decoder Int
  | _, .number (some (.int n)) =>
    if low ≤ n ∧ n ≤ high then .ok n else .error .mismatched
  | _, t => .error t.refusal

/-- Null stands for none. -/
def decodeOption {α : Type} (decode : Decoder α) : Decoder (Option α)
  | _, .null => .ok none
  | depth, t => (decode depth t).map some

def decodeItems {α : Type} (decode : Decoder α) (depth : Nat) (closed : Bool) :
    List Tree → Except Flaw (List α)
  | [] => if closed then .ok [] else .error .malformed
  | t :: rest => do
    let a ← decode depth t
    let as ← decodeItems decode depth closed rest
    pure (a :: as)

def decodeList {α : Type} (decode : Decoder α) : Decoder (List α)
  | depth, .array items closed => enter depth fun depth => decodeItems decode depth closed items
  | _, t => .error t.refusal

/-- A name out of a fixed list, as a string or as the only key of an object over null. -/
def decodeEnum {α : Type} (named? : String → Option α) : Decoder α
  | _, .string (some s) => (named? s).elim (.error .mismatched) .ok
  | depth, .object ((.string (some name), value) :: rest) closed =>
    enter depth fun _ => do
      let a ← (named? name).elim (.error .mismatched) .ok
      match value with
      | .null => if rest.isEmpty && closed then .ok a else .error .malformed
      | t => .error t.refusal
  | _, _ => .error .malformed

mutual

/-- Any value; the last of several members with one key counts. -/
def decodeValue (depth : Nat) : Tree → Except Flaw Value
  | .null => .ok .null
  | .bool b => .ok (.bool b)
  | .number (some n) => .ok (.number n)
  | .string (some s) => .ok (.string s)
  | .array items closed =>
    match depth with
    | 0 => .error .malformed
    | depth + 1 => do
      let values ← decodeValues depth items
      if closed then .ok (.array values) else .error .malformed
  | .object members closed =>
    match depth with
    | 0 => .error .malformed
    | depth + 1 => do
      let pairs ← decodePairs depth members
      if closed then .ok (Value.ofMembers pairs) else .error .malformed
  | .broken | .number none | .string none => .error .malformed

def decodeValues (depth : Nat) : List Tree → Except Flaw (List Value)
  | [] => .ok []
  | t :: rest => do
    let v ← decodeValue depth t
    let vs ← decodeValues depth rest
    pure (v :: vs)

def decodePairs (depth : Nat) : List (Tree × Tree) → Except Flaw (List (String × Value))
  | [] => .ok []
  | (k, t) :: rest => do
    let key ← match k with
      | .string (some s) => .ok s
      | _ => .error .malformed
    let v ← decodeValue depth t
    let pairs ← decodePairs depth rest
    pure ((key, v) :: pairs)

end

/-- Reads a whole text: one value and nothing but blanks after it. -/
def decodeText {α : Type} (decode : Decoder α) (text : String) : Except Flaw α := do
  let read := readText text
  let a ← decode maxDepth read.tree
  if read.ends then .ok a else .error .malformed

/-- What is read for a byte that belongs to no character: no JSON outside of a string, no escape
behind a backslash, and else half a surrogate pair, which leaves a string without a value. -/
def strayByte : List Char :=
  "x\\ud800\\ud800".toList

/-- The characters that bytes stand for; the first `seen` of them belong to a character in front. -/
def charsOfBytes (seen : Nat) : List UInt8 → List Char
  | [] => []
  | byte :: rest =>
    match seen with
    | seen + 1 => charsOfBytes seen rest
    | 0 =>
      let front? (length : Nat) : Option (Nat × String) :=
        (String.fromUTF8? ⟨((byte :: rest).take length).toArray⟩).map ((length - 1, ·))
      match [1, 2, 3, 4].findSome? front? with
      | some (seen, front) => front.toList ++ charsOfBytes seen rest
      | none => strayByte ++ charsOfBytes 0 rest

/-- The text of bytes, in which those of no character are no fault where nobody looks at them. -/
def textOfBytes (bytes : ByteArray) : String :=
  (String.fromUTF8? bytes).getD (String.ofList (charsOfBytes 0 bytes.data.toList))

/-- Reads bytes, which need not be a text. -/
def decodeBytes {α : Type} (decode : Decoder α) (bytes : ByteArray) : Except Flaw α :=
  decodeText decode (textOfBytes bytes)

/-- Reads a value that was read before. -/
def ofValue {α : Type} (decode : Decoder α) (v : Value) : Except Flaw α :=
  decode maxDepth v.tree

end Evolution.Json
