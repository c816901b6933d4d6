import Evolution.Http.Message
import Evolution.Text.Blank
import Evolution.Text.Character

/-! Which encoding of a body a client would rather have, by its list of encodings with qualities. -/
namespace Evolution.Http

inductive Encoding where
  | identity
  | gzip
  deriving DecidableEq, Repr

namespace Encoding

/-- Encodings are named in letters of any case. -/
def named? (name : List Char) : Option Encoding :=
  match String.ofList (name.map Text.lowerAscii) with
  | "identity" => some identity
  | "gzip" | "x-gzip" => some gzip
  | _ => none

/-- Adds up to three decimals to a number of thousandths. -/
def thousandths? : Nat → Nat → List Char → Option Nat
  | _, sum, [] => some sum
  | unit, sum, c :: rest =>
    if unit = 0 || !c.isDigit then none
    else thousandths? (unit / 10) (sum + unit * (c.toNat - 48)) rest

/-- A quality from 0 to 1, in thousandths. -/
def quality? : List Char → Option Nat
  | q :: '=' :: unit :: rest => do
    if q != 'q' && q != 'Q' then none
    let whole ← match unit with
      | '0' => some 0
      | '1' => some 1000
      | _ => none
    let sum ← match rest with
      | [] => some whole
      | '.' :: decimals => thousandths? 100 whole decimals
      | _ => none
    if sum ≤ 1000 then some sum else none
  | _ => none

/-- An encoding with its quality, which is the highest where none is given. -/
def item? (cs : List Char) : Option (Encoding × Nat) :=
  match Text.splitFirstChars ';' cs with
  | none => (named? (Text.trimChars cs)).map (·, 1000)
  | some (name, quality) => do
    pure (← named? (Text.trimChars name), ← quality? (Text.trimChars quality))

/-- The highest quality of an encoding in a list; nothing if it is not there. -/
def bestOf (e : Encoding) (items : List (Encoding × Nat)) : Nat :=
  ((items.filter (·.1 == e)).map (·.2)).foldl max 0

/-- The encoding of the highest quality in some lists, and of two the one that is shorter on the
wire. What cannot be read is passed over, and an encoding of no quality is never chosen. -/
def preferred (lists : List String) : Encoding :=
  let items := (lists.filter isPlain).flatMap fun accepted =>
    (Text.splitAllChars ',' accepted.toList).filterMap item?
  if 0 < bestOf gzip items && bestOf identity items ≤ bestOf gzip items then gzip else identity

end Encoding
end Evolution.Http
