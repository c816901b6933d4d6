/-! Finite binary floating-point numbers of 53 bits, and their rounding in exact arithmetic. -/
namespace Evolution.Decimal

/-- A finite double: a whole number of `2 ^ exponent`, with a sign that zero has too. The mantissa
stays below `2 ^ 53`, and below `2 ^ 52` only at the least exponent, -1074. -/
structure Double where
  negative : Bool
  mantissa : Nat
  exponent : Int
  deriving DecidableEq, Repr

namespace Double

def zero : Double := ⟨false, 0, -1074⟩

/-- The nearest whole number to a quotient; of two, the even one. -/
def roundQuotient (num den : Nat) : Nat :=
  let q := num / den
  let r := num % den
  if 2 * r < den then q
  else if den < 2 * r then q + 1
  else if q % 2 = 0 then q else q + 1

/-- A quotient divided by `2 ^ e`, as a quotient again. -/
def scaleDown (num den : Nat) (e : Int) : Nat × Nat :=
  if 0 ≤ e then (num, den * Nat.pow 2 e.toNat) else (num * Nat.pow 2 (-e).toNat, den)

/-- The exponent of the highest power of two that a positive quotient reaches. -/
def log2Quotient (num den : Nat) : Int :=
  let guess : Int := Int.ofNat num.log2 - Int.ofNat den.log2
  let (n, d) := scaleDown num den guess
  if n < d then guess - 1 else guess

/-- The double nearest to a quotient, ties to the even mantissa; none past the largest double. -/
def ofQuotient? (negative : Bool) (num den : Nat) : Option Double :=
  if num = 0 then some ⟨negative, 0, -1074⟩
  else
    let e := max (log2Quotient num den - 52) (-1074)
    let (n, d) := scaleDown num den e
    let m := roundQuotient n d
    let (m, e) := if m = Nat.pow 2 53 then (Nat.pow 2 52, e + 1) else (m, e)
    if 971 < e then none else some ⟨negative, m, e⟩

/-- The magnitude as a quotient of whole numbers. -/
def quotient (x : Double) : Nat × Nat :=
  scaleDown x.mantissa 1 (-x.exponent)

def mul? (x y : Double) : Option Double :=
  let (a, b) := x.quotient
  let (c, d) := y.quotient
  ofQuotient? (x.negative != y.negative) (a * c) (b * d)

def div? (x y : Double) : Option Double :=
  let (a, b) := x.quotient
  let (c, d) := y.quotient
  ofQuotient? (x.negative != y.negative) (a * d) (b * c)

/-- The double nearest to `10 ^ k`; none from `k = 309` on. -/
def powerOfTen? (k : Nat) : Option Double :=
  if k ≤ 308 then ofQuotient? false (Nat.pow 10 k) 1 else none

/-- `significand * 10 ^ exponent` computed in doubles: the significand is rounded first, then scaled
by rounded powers of ten, downwards in steps of at most 308. None past the largest double. -/
def scaleByTen? (fuel : Nat) (x : Double) (exponent : Int) : Option Double :=
  match powerOfTen? exponent.natAbs with
  | some power => if 0 ≤ exponent then x.mul? power else x.div? power
  | none =>
    if x.mantissa = 0 then some x
    else if 0 ≤ exponent then none
    else
      match fuel with
      | 0 => some { zero with negative := x.negative }
      | fuel + 1 =>
        match (powerOfTen? 308).bind x.div? with
        | some y => scaleByTen? fuel y (exponent + 308)
        | none => none

/-- Three steps of 308 bring every significand of 64 bits down to zero. -/
def ofDecimal? (negative : Bool) (significand : Nat) (exponent : Int) : Option Double :=
  (ofQuotient? false significand 1).bind fun x =>
    (scaleByTen? 3 x exponent).map fun y => { y with negative := negative }

end Double
end Evolution.Decimal
