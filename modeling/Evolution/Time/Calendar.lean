/-! The proleptic Gregorian calendar as a count of days since 1 January 1970. -/
namespace Evolution.Time

structure Date where
  year : Int
  month : Nat
  day : Nat
  deriving DecidableEq, Repr

def isLeap (year : Int) : Bool :=
  year % 4 == 0 && (year % 100 != 0 || year % 400 == 0)

def daysInMonth (year : Int) (month : Nat) : Nat :=
  match month with
  | 2 => if isLeap year then 29 else 28
  | 4 | 6 | 9 | 11 => 30
  | _ => 31

def Date.isValid (d : Date) : Bool :=
  1 ≤ d.month && d.month ≤ 12 && 1 ≤ d.day && d.day ≤ daysInMonth d.year d.month

/-- Years are counted from March, so that the leap day is the last of its year; four hundred of them
make an era of 146097 days. -/
def Date.dayNumber (d : Date) : Int :=
  let y := if d.month ≤ 2 then d.year - 1 else d.year
  let era := Int.fdiv y 400
  let yearOfEra := y - era * 400
  let shifted : Int := if d.month ≤ 2 then d.month + 9 else d.month - 3
  let dayOfYear := Int.fdiv (153 * shifted + 2) 5 + d.day - 1
  let dayOfEra := yearOfEra * 365 + Int.fdiv yearOfEra 4 - Int.fdiv yearOfEra 100 + dayOfYear
  era * 146097 + dayOfEra - 719468

/-- The date of a day number. -/
def Date.ofDayNumber (n : Int) : Date :=
  let z := n + 719468
  let era := Int.fdiv z 146097
  let dayOfEra := z - era * 146097
  let yearOfEra := Int.fdiv
    (dayOfEra - Int.fdiv dayOfEra 1460 + Int.fdiv dayOfEra 36524 - Int.fdiv dayOfEra 146096) 365
  let dayOfYear := dayOfEra - (365 * yearOfEra + Int.fdiv yearOfEra 4 - Int.fdiv yearOfEra 100)
  let shifted := Int.fdiv (5 * dayOfYear + 2) 153
  let day := dayOfYear - Int.fdiv (153 * shifted + 2) 5 + 1
  let month := if shifted < 10 then shifted + 3 else shifted - 9
  let year := yearOfEra + era * 400 + if month ≤ 2 then 1 else 0
  ⟨year, month.toNat, day.toNat⟩

end Evolution.Time
