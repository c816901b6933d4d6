import Evolution.Text.Search

/-! Letters and digits of ASCII, the numbers that digits stand for, and sets of characters as closed
ranges of code points. -/
namespace Evolution.Text

/-- Only the capitals of ASCII have another image. -/
def lowerAscii (c : Char) : Char :=
  if 'A' ≤ c ∧ c ≤ 'Z' then Char.ofNat (c.toNat + 32) else c

/-- The lower-case digit of a number below sixteen. -/
def hexDigit (n : Nat) : Char :=
  if n < 10 then Char.ofNat (48 + n) else Char.ofNat (87 + n)

/-- The value of a digit of either case. -/
def hexValue? (c : Char) : Option Nat :=
  if '0' ≤ c ∧ c ≤ '9' then some (c.toNat - 48)
  else if 'a' ≤ c ∧ c ≤ 'f' then some (c.toNat - 87)
  else if 'A' ≤ c ∧ c ≤ 'F' then some (c.toNat - 55)
  else none

/-- The number that digits stand for. Another character counts as a zero. -/
def hexNumber (cs : List Char) : Nat :=
  cs.foldl (fun n c => n * 16 + (hexValue? c).getD 0) 0

def isDecimalDigit (c : Char) : Bool :=
  '0' ≤ c && c ≤ '9'

/-- The number that digits stand for. -/
def decimalValue (digits : List Char) : Nat :=
  digits.foldl (fun n c => n * 10 + (c.toNat - 48)) 0

/-- One digit or more, after a plus sign perhaps, and no number greater than `max`. -/
def unsigned? (max : Nat) (s : String) : Option Nat :=
  let digits := match s.toList with
    | '+' :: rest => rest
    | cs => cs
  if digits.isEmpty || !digits.all isDecimalDigit then none
  else if decimalValue digits ≤ max then some (decimalValue digits)
  else none

def inRanges (ranges : List (Nat × Nat)) (c : Char) : Bool :=
  ranges.any fun (first, last) => first ≤ c.toNat && c.toNat ≤ last

/-- The entries of a table: what stands between the blanks of its lines. -/
def tableWords (lines : List String) : List (List Char) :=
  lines.flatMap fun line => splitAllChars ' ' line.toList

/-- Reads `300-36F`, or `34F` for one character. -/
def rangeOfWord (word : List Char) : Nat × Nat :=
  match splitFirstChars '-' word with
  | some (first, last) => (hexNumber first, hexNumber last)
  | none => (hexNumber word, hexNumber word)

def readRanges (lines : List String) : List (Nat × Nat) :=
  (tableWords lines).map rangeOfWord

end Evolution.Text
