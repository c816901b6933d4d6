import Evolution.Text.Character
import Evolution.Text.Search

/-! Punycode: a text as its characters of ASCII, a hyphen, and the places of all other characters
as numbers of base 36. How many digits a number takes adapts to the numbers before it. -/
namespace Evolution.Address.Punycode

/-! ## Digits -/

/-- Letters of either case come before digits. -/
def digitValue? (c : Char) : Option Nat :=
  let c := Text.lowerAscii c
  if 'a' ≤ c ∧ c ≤ 'z' then some (c.toNat - 97)
  else if '0' ≤ c ∧ c ≤ '9' then some (c.toNat - 22)
  else none

def digit (n : Nat) : Char :=
  if n < 26 then Char.ofNat (97 + n) else Char.ofNat (22 + n)

/-- A digit below its threshold ends a number; `k` counts 36 for each digit. -/
def threshold (bias k : Nat) : Nat :=
  if k ≤ bias then 1 else if bias + 26 ≤ k then 26 else k - bias

theorem threshold_pos (bias k : Nat) : 0 < threshold bias k := by
  unfold threshold
  grind

def settle (delta : Nat) : Nat :=
  if 455 < delta then 36 + settle (delta / 35) else 36 * delta / (delta + 38)
termination_by delta

/-- The bias for the next number, after one of `delta` that made a text of `length` characters. -/
def adapt (delta length : Nat) (isFirst : Bool) : Nat :=
  let delta := if isFirst then delta / 700 else delta / 2
  settle (delta + delta / length)

/-! ## Decoding -/

/-- Reads a number, the lowest digit first, and adds it to `sum`. -/
def number? (bias k weight sum : Nat) : List Char → Option (Nat × List Char)
  | [] => none
  | c :: rest =>
    match digitValue? c with
    | none => none
    | some d =>
      let t := threshold bias k
      let next := weight * (36 - t)
      if d < t then some (sum + d * weight, rest)
      else if next < 0x100000000 then number? bias (k + 36) next (sum + d * weight) rest
      else none

theorem length_of_number? {bias k weight sum n : Nat} {cs rest : List Char}
    (h : number? bias k weight sum cs = some (n, rest)) : rest.length < cs.length := by
  induction cs generalizing k weight sum with
  | nil => simp [number?] at h
  | cons c cs ih =>
    simp only [number?] at h
    split at h
    · simp at h
    · split at h
      · simp_all
      · split at h
        · have := ih h
          simp only [List.length_cons]
          omega
        · simp at h

/-- A text on its way: the next character is no lower than `code`, and if it is `code`, it stands
at `place` or behind. -/
structure Progress where
  text : List Char
  code : Nat := 128
  place : Nat := 0
  bias : Nat := 72

/-- Puts in the characters that the numbers tell of. -/
def insertAll? (p : Progress) (cs : List Char) : Option (List Char) :=
  if cs.isEmpty then some p.text
  else
    match _next : number? p.bias 36 1 p.place cs with
    | none => none
    | some (n, rest) =>
      let length := p.text.length + 1
      let code := p.code + n / length
      let place := n % length
      if code < 0xD800 ∨ 0xDFFF < code ∧ code < 0x110000 then
        insertAll? {
          text := p.text.insertIdx place (Char.ofNat code)
          code
          place := place + 1
          bias := adapt (n - p.place) length (p.place == 0) } rest
      else none
termination_by cs.length
decreasing_by exact length_of_number? _next

/-- The text that `cs` encodes. What stands before the last hyphen is in the text as it is, but for
its capitals; a hyphen with nothing before it is no digit. -/
def decode? (cs : List Char) : Option (List Char) :=
  match Text.splitLastChars '-' cs with
  | some ([], _) => none
  | some (basic, numbers) => insertAll? { text := basic.map Text.lowerAscii } numbers
  | none => insertAll? { text := [] } cs

/-! ## Encoding -/

def isBasic (c : Char) : Bool :=
  c.toNat < 128

/-- The digits of a number, the lowest first. -/
def digits (bias k n : Nat) : List Char :=
  let t := threshold bias k
  if n < t then [digit n]
  else digit (t + (n - t) % (36 - t)) :: digits bias (k + 36) ((n - t) / (36 - t))
termination_by n
decreasing_by
  have := threshold_pos bias k
  exact Nat.lt_of_le_of_lt (Nat.div_le_self _ _) (by omega)

/-- Digits on their way: `delta` is the distance from the last place told of. -/
structure Record where
  digits : List Char := []
  delta : Nat := 0
  bias : Nat := 72
  length : Nat

/-- Passes a lower character, tells of the place of `code`, leaves a higher character for later. -/
def Record.see (code basic : Nat) (r : Record) (c : Char) : Record :=
  if c.toNat < code then { r with delta := r.delta + 1 }
  else if c.toNat = code then
    { digits := r.digits ++ Punycode.digits r.bias 36 r.delta
      delta := 0
      bias := adapt r.delta (r.length + 1) (r.length == basic)
      length := r.length + 1 }
  else r

/-- Tells of all places of each code point, given in ascending order, from `code` on. -/
def Record.seeAll (cs : List Char) (basic code : Nat) (r : Record) : List Nat → Record
  | [] => r
  | next :: rest =>
    let r := { r with delta := r.delta + (next - code) * (r.length + 1) }
    let r := cs.foldl (see next basic) r
    seeAll cs basic (next + 1) { r with delta := r.delta + 1 } rest

/-- The code of a text. -/
def encode (cs : List Char) : List Char :=
  let basic := cs.filter isBasic
  let codes := ((cs.filter (!isBasic ·)).map Char.toNat).mergeSort.eraseDups
  let record := Record.seeAll cs basic.length 128 { length := basic.length } codes
  (if basic.isEmpty then [] else basic ++ ['-']) ++ record.digits

end Evolution.Address.Punycode
