import Evolution.Decimal.Double

/-! The shortest decimal that is read as a given double, found in exact arithmetic. -/
namespace Evolution.Decimal

/-- A positive decimal: `digits * 10 ^ exponent`. -/
structure Digits where
  digits : Nat
  exponent : Int
  deriving DecidableEq, Repr

/-- Bounds of the numbers that round to a double, in units of a quarter of its last place, with the
ends included or not. The gap below a power of two is half the gap above it. -/
structure Bounds where
  low : Nat
  value : Nat
  high : Nat
  exponent : Int
  closed : Bool

def Bounds.ofDouble (x : Double) : Bounds where
  low :=
    if x.mantissa = Nat.pow 2 52 ∧ -1074 < x.exponent then 4 * x.mantissa - 1
    else 4 * x.mantissa - 2
  value := 4 * x.mantissa
  high := 4 * x.mantissa + 2
  exponent := x.exponent - 2
  closed := x.mantissa % 2 = 0

/-- A whole number of `10 ^ k`, as a quotient over the unit of the bounds. -/
def gridUnit (b : Bounds) (k : Int) : Nat × Nat :=
  let (num, den) := if 0 ≤ k then (Nat.pow 10 k.toNat, 1) else (1, Nat.pow 10 (-k).toNat)
  Double.scaleDown num den b.exponent

def Bounds.admits (b : Bounds) (k : Int) (d : Nat) : Bool :=
  let (num, den) := gridUnit b k
  if b.closed then b.low * den ≤ d * num && d * num ≤ b.high * den
  else b.low * den < d * num && d * num < b.high * den

/-- Of the two neighbours of the value on the grid of `10 ^ k`, the nearest one that is read as the
same double; at equal distance the even one. -/
def Bounds.nearestOn? (b : Bounds) (k : Int) : Option Nat :=
  let (num, den) := gridUnit b k
  let lower := b.value * den / num
  let gapLow := b.value * den - lower * num
  let gapHigh := (lower + 1) * num - b.value * den
  let lowerFits := 0 < lower && b.admits k lower
  let upperFits := b.admits k (lower + 1)
  if lowerFits && upperFits then
    some (if gapLow < gapHigh || (gapLow == gapHigh && lower % 2 == 0) then lower else lower + 1)
  else if lowerFits then some lower
  else if upperFits then some (lower + 1)
  else none

/-- The exponent of the highest power of ten that a positive quotient reaches, searched upwards. -/
def log10From (fuel : Nat) (num den : Nat) (k : Int) : Int :=
  match fuel with
  | 0 => k
  | fuel + 1 =>
    let (n, d) := if 0 ≤ k + 1 then (num, den * Nat.pow 10 (k + 1).toNat)
      else (num * Nat.pow 10 (-(k + 1)).toNat, den)
    if n < d then k else log10From fuel num den (k + 1)

/-- The decimal order of magnitude of a positive double. -/
def order (x : Double) : Int :=
  let (num, den) := x.quotient
  let bits := Double.log2Quotient num den
  log10From 4 num den (Int.fdiv (bits * 30103) 100000 - 2)

def stripZeros (fuel : Nat) (d : Digits) : Digits :=
  match fuel with
  | 0 => d
  | fuel + 1 =>
    if d.digits % 10 = 0 ∧ d.digits ≠ 0 then stripZeros fuel ⟨d.digits / 10, d.exponent + 1⟩ else d

/-- Tries one digit, then two, and so on; seventeen always do. -/
def searchDigits (b : Bounds) (order : Int) : Nat → Nat → Digits
  | 0, n => ⟨b.value, order - n⟩
  | fuel + 1, n =>
    let k := order - n
    match b.nearestOn? k with
    | some d => stripZeros 20 ⟨d, k⟩
    | none => searchDigits b order fuel (n + 1)

/-- The fewest digits that are read as the magnitude of a double other than zero, and of those the
nearest to it. -/
def shortest (x : Double) : Digits :=
  searchDigits (Bounds.ofDouble x) (order x) 18 0

end Evolution.Decimal
