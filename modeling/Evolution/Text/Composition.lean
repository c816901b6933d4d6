import Evolution.Text.CompositionTable
import Evolution.Text.Mark

/-! Composed text: of all spellings of a text that mean the same, the one with the fewest marks. -/
namespace Evolution.Text

/-! ## Hangul -/

/-- The syllable is a leading consonant, a vowel and perhaps a trailing consonant. -/
def hangulParts? (c : Char) : Option (List Char) :=
  if 0xAC00 ≤ c.toNat ∧ c.toNat ≤ 0xD7A3 then
    let n := c.toNat - 0xAC00
    let syllable := [Char.ofNat (0x1100 + n / 588), Char.ofNat (0x1161 + n % 588 / 28)]
    some (if n % 28 = 0 then syllable else syllable ++ [Char.ofNat (0x11A7 + n % 28)])
  else none

/-- A leading consonant takes a vowel, a syllable of both a trailing consonant. -/
def hangulPair? (a b : Nat) : Option Char :=
  if 0x1100 ≤ a ∧ a ≤ 0x1112 ∧ 0x1161 ≤ b ∧ b ≤ 0x1175 then
    some (Char.ofNat (0xAC00 + ((a - 0x1100) * 21 + (b - 0x1161)) * 28))
  else if 0xAC00 ≤ a ∧ a ≤ 0xD7A3 ∧ (a - 0xAC00) % 28 = 0 ∧ 0x11A8 ≤ b ∧ b ≤ 0x11C2 then
    some (Char.ofNat (a + (b - 0x11A7)))
  else none

/-! ## Taking apart -/

/-- The parts of a character, `depth` times over. -/
def parts (depth : Nat) (c : Char) : List Char :=
  match depth with
  | 0 => [c]
  | depth + 1 =>
    match composites.find? (·.whole == c.toNat) with
    | some made => parts depth (Char.ofNat made.first) ++ [Char.ofNat made.second]
    | none => (hangulParts? c).getD [c]

/-- A base with all its marks; no character has more than three. -/
def decompose (c : Char) : List Char :=
  parts 4 c

/-- Puts a mark in front of others: it stays behind those of a lower class. -/
def insertMark (c : Char) : List Char → List Char
  | [] => [c]
  | d :: rest =>
    if 0 < combiningClass d && combiningClass d < combiningClass c then d :: insertMark c rest
    else c :: d :: rest

/-- Each run of marks in the order of their classes. -/
def inOrder (cs : List Char) : List Char :=
  cs.foldr insertMark []

/-! ## Putting together -/

/-- The character that is made of two. -/
def pair? (a b : Char) : Option Char :=
  match composites.find? fun made => made.first == a.toNat && made.second == b.toNat with
  | some made => some (Char.ofNat made.whole)
  | none => hangulPair? a.toNat b.toNat

/-- Nothing between the base and `c` keeps them apart; `held` are the marks between, the nearest to
`c` first. -/
def canMeet (held : List Char) (c : Char) : Bool :=
  held.head?.all fun mark => combiningClass mark < combiningClass c

/-- Joins to `base` what can be joined, then goes on from the next base. -/
def composeFrom (base : Char) (held : List Char) : List Char → List Char
  | [] => base :: held.reverse
  | c :: rest =>
    match if canMeet held c then pair? base c else none with
    | some whole => composeFrom whole held rest
    | none =>
      if combiningClass c = 0 then base :: held.reverse ++ composeFrom c [] rest
      else composeFrom base (c :: held) rest

/-- The composed form of a text without singletons, that is characters that stand for one other. -/
def compose (cs : List Char) : List Char :=
  let ordered := inOrder (cs.flatMap decompose)
  let leading := ordered.takeWhile fun c => combiningClass c != 0
  match ordered.dropWhile fun c => combiningClass c != 0 with
  | [] => leading
  | base :: rest => leading ++ composeFrom base [] rest

end Evolution.Text
