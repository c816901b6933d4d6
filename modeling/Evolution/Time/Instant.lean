import Evolution.Json.Decode
import Evolution.Text.Blank
import Evolution.Text.Character
import Evolution.Time.Calendar

/-! Points in time to the nanosecond, and their text by RFC 3339. -/
namespace Evolution.Time

open Evolution.Text (isBlank lowerAscii)
open Evolution.Json (digitValue? isDigit)

/-- Seconds since 1 January 1970 in UTC, and nanoseconds on top; a billion and more of them in a
leap second. -/
structure Instant where
  seconds : Int
  nanos : Nat
  deriving DecidableEq, Repr

namespace Instant

def before (a b : Instant) : Bool :=
  a.seconds < b.seconds || (a.seconds == b.seconds && a.nanos < b.nanos)

/-- Exactly `width` digits, the high ones lost. -/
def padded (width n : Nat) : String :=
  String.ofList ((List.range width).map fun i =>
    Char.ofNat (48 + n / Nat.pow 10 (width - 1 - i) % 10))

/-- Four digits, or a sign and at least four outside of 0 to 9999. -/
def yearText (year : Int) : String :=
  if 0 ≤ year ∧ year ≤ 9999 then padded 4 year.toNat
  else
    let digits := toString year.natAbs
    (if year < 0 then "-" else "+") ++
      String.ofList (List.replicate (4 - digits.toList.length) '0') ++ digits

/-- The fewest of 0, 3, 6 and 9 digits that hold the fraction. -/
def fractionText (nanos : Nat) : String :=
  if nanos = 0 then ""
  else if nanos % 1000000 = 0 then "." ++ padded 3 (nanos / 1000000)
  else if nanos % 1000 = 0 then "." ++ padded 6 (nanos / 1000)
  else "." ++ padded 9 nanos

/-- The instant in UTC, with `Z`. -/
def text (t : Instant) : String :=
  let days := Int.fdiv t.seconds 86400
  let daySeconds := (t.seconds - days * 86400).toNat
  let date := Date.ofDayNumber days
  let leap := t.nanos / 1000000000
  yearText date.year ++ "-" ++ padded 2 date.month ++ "-" ++ padded 2 date.day ++ "T" ++
    padded 2 (daySeconds / 3600) ++ ":" ++ padded 2 (daySeconds / 60 % 60) ++ ":" ++
    padded 2 (daySeconds % 60 + leap) ++ fractionText (t.nanos % 1000000000) ++ "Z"

def skipBlank (cs : List Char) : List Char :=
  cs.dropWhile isBlank

/-- One to `width` digits after any blanks. -/
def number? (width : Nat) (cs : List Char) : Option (Nat × List Char) :=
  let digits := ((skipBlank cs).take width).takeWhile isDigit
  if digits.isEmpty then none
  else some (digits.foldl (fun n c => n * 10 + (c.toNat - 48)) 0,
    (skipBlank cs).drop digits.length)

/-- A year of up to four digits, or of any length after a sign. -/
def year? (cs : List Char) : Option (Int × List Char) :=
  match skipBlank cs with
  | '-' :: rest =>
    if rest.head?.any isDigit then
      (number? rest.length rest).map fun (n, rest) => (-(n : Int), rest)
    else none
  | '+' :: rest =>
    if rest.head?.any isDigit then
      (number? rest.length rest).map fun (n, rest) => ((n : Int), rest)
    else none
  | _ => (number? 4 cs).map fun (n, rest) => ((n : Int), rest)

def mark? (c : Char) (cs : List Char) : Option (List Char) :=
  match skipBlank cs with
  | d :: rest => if d = c then some rest else none
  | [] => none

/-- Nanoseconds after a point: nine digits count, and further ones are passed over. -/
def fraction? (cs : List Char) : Option (Nat × List Char) :=
  match cs with
  | '.' :: rest =>
    let digits := rest.takeWhile isDigit
    if digits.isEmpty then none
    else
      let kept := digits.take 9
      some (kept.foldl (fun n c => n * 10 + (c.toNat - 48)) 0 * Nat.pow 10 (9 - kept.length),
        rest.dropWhile isDigit)
  | _ => some (0, cs)

/-- The distance from UTC in seconds, which is nothing for UTC by its name or as a `Z`. -/
def offset? (cs : List Char) : Option (Int × List Char) :=
  let distance (sign : Int) (cs : List Char) : Option (Int × List Char) :=
    match cs with
    | a :: b :: rest =>
      match digitValue? a, digitValue? b with
      | some a, some b =>
        match rest.dropWhile fun c => c = ':' || isBlank c with
        | c :: d :: rest =>
          match digitValue? c, digitValue? d with
          | some c, some d =>
            if c < 6 then some (sign * ((a * 10 + b) * 3600 + (c * 10 + d) * 60 : Nat), rest)
            else none
          | _, _ => none
        | _ => none
      | _, _ => none
    | _ => none
  if (cs.take 3).map lowerAscii = "utc".toList then some (0, cs.drop 3)
  else
    match cs with
    | 'Z' :: rest | 'z' :: rest => some (0, rest)
    | '+' :: rest => distance 1 rest
    | '-' :: rest | '−' :: rest => distance (-1) rest
    | _ => none

/-- The years that can be told. -/
def isYear (year : Int) : Bool :=
  -262143 ≤ year && year ≤ 262142

/-- The year in UTC. -/
def year (t : Instant) : Int :=
  (Date.ofDayNumber (Int.fdiv t.seconds 86400)).year

/-- The year has to be one that can be told, there and in UTC. -/
def ofParts? (date : Date) (hour minute second nanos : Nat) (offset : Int) : Option Instant :=
  if date.isValid && isYear date.year && hour < 24 && minute < 60 && second ≤ 60 &&
      offset.natAbs < 86400 then
    let leap := if second = 60 then 1000000000 else 0
    let daySeconds : Nat := hour * 3600 + minute * 60 + min second 59
    let t : Instant := ⟨date.dayNumber * 86400 + daySeconds - offset, nanos + leap⟩
    if isYear t.year then some t else none
  else none

/-- Reads a date and a time of day with its distance from UTC. Blanks may stand between the parts,
and leading zeros may be missing. -/
def ofText? (s : String) : Option Instant := do
  let (year, cs) ← year? s.toList
  let (month, cs) ← number? 2 (← mark? '-' cs)
  let (day, cs) ← number? 2 (← mark? '-' cs)
  let cs ← match cs with
    | c :: rest => if c = 'T' || c = 't' || c = ' ' then some rest else none
    | [] => none
  let (hour, cs) ← number? 2 cs
  let (minute, cs) ← number? 2 (← mark? ':' cs)
  let (second, cs) ← number? 2 (← mark? ':' cs)
  let (nanos, cs) ← fraction? cs
  let (offset, cs) ← offset? (skipBlank cs)
  if (skipBlank cs).isEmpty then ofParts? ⟨year, month, day⟩ hour minute second nanos offset
  else none

def decode : Json.Decoder Instant
  | depth, t => do
    let s ← Json.decodeString depth t
    (ofText? s).elim (.error .mismatched) .ok

/-- Whole microseconds since 1 January 2000, the rest cut off. -/
def microseconds (t : Instant) : Int :=
  Int.tdiv ((t.seconds - 946684800) * 1000000000 + t.nanos) 1000

/-- None if the year is not one that can be told. -/
def ofMicroseconds? (n : Int) : Option Instant :=
  let t : Instant := ⟨Int.fdiv n 1000000 + 946684800, (Int.fmod n 1000000 * 1000).toNat⟩
  if isYear t.year then some t else none

end Instant
end Evolution.Time
