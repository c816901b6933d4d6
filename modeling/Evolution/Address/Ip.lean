import Evolution.Text.Character
import Evolution.Text.Search

/-! The addresses of the Internet Protocol as text. -/
namespace Evolution.Address

/-- A decimal number below 256 without needless zeros. -/
def octet? (cs : List Char) : Option Nat :=
  if cs.isEmpty || 3 < cs.length || !cs.all Text.isDecimalDigit then none
  else if cs.head? == some '0' && 1 < cs.length then none
  else if Text.decimalValue cs < 256 then some (Text.decimalValue cs)
  else none

/-- Four octets with points between them. -/
def octets? (cs : List Char) : Option (List Nat) :=
  let parts := Text.splitAllChars '.' cs
  if parts.length = 4 then parts.mapM octet? else none

/-- One to four hexadecimal digits. -/
def ipv6Piece? (cs : List Char) : Option Nat :=
  if cs.isEmpty || 4 < cs.length then none
  else cs.foldlM (fun n c => (Text.hexValue? c).map (n * 16 + ·)) 0

/-- Pieces with colons between them; the last one may be four octets, which are two pieces. -/
def ipv6Pieces? : List (List Char) → Option (List Nat)
  | [] => none
  | [last] =>
    match ipv6Piece? last, octets? last with
    | some n, _ => some [n]
    | none, some [a, b, c, d] => some [a * 256 + b, c * 256 + d]
    | none, _ => none
  | piece :: rest => do
    let n ← ipv6Piece? piece
    let more ← ipv6Pieces? rest
    pure (n :: more)

/-- No pieces at all, or some with colons between them. -/
def ipv6Side? (cs : List Char) : Option (List Nat) :=
  if cs.isEmpty then some [] else ipv6Pieces? (Text.splitAllChars ':' cs)

/-- The two sides of the first double colon. -/
def splitGap : List Char → Option (List Char × List Char)
  | ':' :: ':' :: rest => some ([], rest)
  | c :: rest => (splitGap rest).map fun (before, after) => (c :: before, after)
  | [] => none

/-- Reads eight pieces. A double colon, once, stands for one zero or more; octets end the text. -/
def ipv6? (cs : List Char) : Option (List Nat) :=
  match splitGap cs with
  | none => (ipv6Side? cs).bind fun pieces => if pieces.length = 8 then some pieces else none
  | some (before, after) => do
    if before.contains '.' then none
    let left ← ipv6Side? before
    let right ← ipv6Side? after
    if left.length + right.length ≤ 7 then
      pure (left ++ List.replicate (8 - left.length - right.length) 0 ++ right)
    else none

/-- The number of zeros at the start of a list. -/
def zeroRun (pieces : List Nat) : Nat :=
  (pieces.takeWhile (· == 0)).length

/-- Where the first of the longest runs of zeros begins, and its length. -/
def longestZeroRun (pieces : List Nat) : Nat × Nat :=
  (List.range pieces.length).foldl
    (fun (best : Nat × Nat) i =>
      let run := zeroRun (pieces.drop i)
      if best.2 < run then (i, run) else best) (0, 0)

def hexText (n : Nat) : String :=
  String.ofList (Nat.toDigits 16 n)

def ipv6Joined (pieces : List Nat) : String :=
  ":".intercalate (pieces.map hexText)

/-- The pieces without needless zeros; of two zeros or more in a row, the first longest run is a
double colon. -/
def ipv6Text (pieces : List Nat) : String :=
  let (start, run) := longestZeroRun pieces
  if run < 2 then ipv6Joined pieces
  else ipv6Joined (pieces.take start) ++ "::" ++ ipv6Joined (pieces.drop (start + run))

/-- Reads a number that is octal after a zero and hexadecimal after `0x`. -/
def radixNumber? (cs : List Char) : Option Nat :=
  let number (base : Nat) (digits : List Char) : Option Nat :=
    digits.foldlM (fun n c =>
      (Text.hexValue? c).bind fun d => if d < base then some (n * base + d) else none) 0
  match cs with
  | [] => none
  | '0' :: 'x' :: rest | '0' :: 'X' :: rest => number 16 rest
  | ['0'] => some 0
  | '0' :: rest => number 8 rest
  | cs => number 10 cs

/-- A name whose last part is a number is read as an address of four octets. -/
def endsInNumber (parts : List (List Char)) : Bool :=
  match parts.getLast? with
  | some last => !last.isEmpty && (last.all Text.isDecimalDigit || (radixNumber? last).isSome)
  | none => false

/-- The parts of a name; a point at its end does not count. -/
def nameParts (cs : List Char) : List (List Char) :=
  let parts := Text.splitAllChars '.' cs
  if 1 < parts.length && parts.getLast? == some [] then parts.dropLast else parts

/-- At most four numbers, of which the last fills the octets that are left. -/
def isShortIpv4 (parts : List (List Char)) : Bool :=
  match parts.mapM radixNumber? with
  | none => false
  | some numbers =>
    numbers.length ≤ 4 && numbers.dropLast.all (· < 256) &&
      (numbers.getLast?.getD 0) < Nat.pow 256 (5 - numbers.length)

end Evolution.Address
