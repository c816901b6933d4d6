import Evolution.Json.Value

/-! Reading a JSON number. Whole numbers of 64 bits stay exact; everything else becomes a double
from its first digits, as many as fit 64 bits. -/
namespace Evolution.Json

open Evolution.Decimal (Double)

def digitValue? (c : Char) : Option Nat :=
  if '0' ≤ c ∧ c ≤ '9' then some (c.toNat - 48) else none

def isDigit (c : Char) : Bool :=
  (digitValue? c).isSome

def maxWord : Nat := 0xFFFFFFFFFFFFFFFF

/-- Takes digits as long as the number they make fits 64 bits: the number, how many were taken, and
the rest. -/
def takeWord (word count : Nat) : List Char → Nat × Nat × List Char
  | [] => (word, count, [])
  | c :: rest =>
    match digitValue? c with
    | some d => if word * 10 + d ≤ maxWord then takeWord (word * 10 + d) (count + 1) rest
      else (word, count, c :: rest)
    | none => (word, count, c :: rest)

def digitsLength (cs : List Char) : Nat :=
  (cs.takeWhile isDigit).length

def afterDigits (cs : List Char) : List Char :=
  cs.dropWhile isDigit

/-- What a number text holds, and what follows it; no value if it is too large. -/
abbrev Reading := Option (Option Number × List Char)

def doubleOf (negative : Bool) (word : Nat) (exponent : Int) : Option Number :=
  (Double.ofDecimal? negative word exponent).map .double

/-- Past 32 bits an exponent is as good as infinite. -/
def maxExponent : Nat := 0x7FFFFFFF

/-- The part after `e`. -/
def readExponent (negative : Bool) (word : Nat) (exponent : Int) (cs : List Char) : Reading :=
  let (down, digits) :=
    match cs with
    | '+' :: rest => (false, rest)
    | '-' :: rest => (true, rest)
    | _ => (false, cs)
  let count := digitsLength digits
  if count = 0 then none
  else
    let written := (digits.take count).foldl (fun n c => n * 10 + (c.toNat - 48)) 0
    let value :=
      if maxExponent < written then
        if word ≠ 0 ∧ !down then none else some (.double { Double.zero with negative := negative })
      else doubleOf negative word (if down then exponent - written else exponent + written)
    some (value, afterDigits digits)

def readTail (negative : Bool) (word : Nat) (exponent : Int) (cs : List Char) : Reading :=
  match cs with
  | 'e' :: rest | 'E' :: rest => readExponent negative word exponent rest
  | _ => some (doubleOf negative word exponent, cs)

/-- The part after the point: at least one digit, and those that no longer fit are passed over. -/
def readFraction (negative : Bool) (word : Nat) (exponent : Int) (cs : List Char) : Reading :=
  if digitsLength cs = 0 then none
  else
    let (word, count, rest) := takeWord word 0 cs
    readTail negative word (exponent - count) (afterDigits rest)

/-- What follows the whole part. Zero with a sign is no whole number. -/
def readAfterWhole (negative : Bool) (word : Nat) (cs : List Char) : Reading :=
  match cs with
  | '.' :: rest => readFraction negative word 0 rest
  | 'e' :: rest | 'E' :: rest => readExponent negative word 0 rest
  | _ =>
    if negative then
      if word = 0 ∨ 0x8000000000000000 < word then some (doubleOf true word 0, cs)
      else some (some (.int (-word)), cs)
    else some (some (.int word), cs)

/-- A whole part of more than 64 bits: the digits left over only count as powers of ten. -/
def readLongWhole (negative : Bool) (word : Nat) (cs : List Char) : Reading :=
  let exponent := digitsLength cs
  match afterDigits cs with
  | '.' :: rest => readFraction negative word exponent rest
  | rest => readTail negative word exponent rest

def readUnsigned (negative : Bool) (cs : List Char) : Reading :=
  match cs with
  | '0' :: rest => if rest.head?.any isDigit then none else readAfterWhole negative 0 rest
  | c :: rest =>
    match digitValue? c with
    | some d =>
      let (word, _, rest) := takeWord d 0 rest
      if rest.head?.any isDigit then readLongWhole negative word rest
      else readAfterWhole negative word rest
    | none => none
  | [] => none

/-- A number at the head of a text. -/
def readNumber (cs : List Char) : Reading :=
  match cs with
  | '-' :: rest => readUnsigned true rest
  | _ => readUnsigned false cs

end Evolution.Json
