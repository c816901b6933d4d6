import Evolution.Json.Decode
import Evolution.Text.Character

/-! Universally unique identifiers: 128 bits, written as 32 hexadecimal digits in five groups. -/
namespace Evolution

structure Uuid where
  bits : BitVec 128
  deriving DecidableEq, Repr

namespace Uuid

def nil : Uuid :=
  ⟨0⟩

/-- The hexadecimal digits, the highest first. -/
def hexDigits (id : Uuid) : List Char :=
  (List.range 32).map fun i => Text.hexDigit (id.bits.toNat / Nat.pow 16 (31 - i) % 16)

/-- Five groups of digits, joined by hyphens. -/
def text (id : Uuid) : String :=
  let ds := id.hexDigits
  String.ofList (ds.take 8 ++ '-' :: (ds.drop 8).take 4 ++ '-' :: (ds.drop 12).take 4 ++
    '-' :: (ds.drop 16).take 4 ++ '-' :: ds.drop 20)

instance : ToString Uuid :=
  ⟨text⟩

def ofHex? (cs : List Char) : Option Uuid :=
  (cs.foldlM (fun n c => (Text.hexValue? c).map (n * 16 + ·)) 0).map fun n => ⟨BitVec.ofNat 128 n⟩

/-- The digits of five hyphenated groups. -/
def ofGroups? (cs : List Char) : Option Uuid :=
  let hyphen (i : Nat) : Bool := cs[i]? == some '-'
  if cs.length = 36 && hyphen 8 && hyphen 13 && hyphen 18 && hyphen 23 then
    ofHex? (cs.take 8 ++ (cs.drop 9).take 4 ++ (cs.drop 14).take 4 ++ (cs.drop 19).take 4 ++
      cs.drop 24)
  else none

/-- Reads 32 digits, or five groups bare, in braces or after `urn:uuid:` in letters of any case. -/
def ofText? (s : String) : Option Uuid :=
  let cs := s.toList
  if cs.length = 32 then ofHex? cs
  else if cs.length = 36 then ofGroups? cs
  else if cs.length = 38 ∧ cs.head? = some '\x7b' ∧ cs.getLast? = some '\x7d' then
    ofGroups? ((cs.drop 1).take 36)
  else if cs.length = 45 ∧ "urn:uuid:".toList.isPrefixOf (cs.map Char.toLower) then
    ofGroups? (cs.drop 9)
  else none

/-- Identifiers as strings. -/
def json (id : Uuid) : Json.Value :=
  .string id.text

def decode : Json.Decoder Uuid
  | depth, t => do
    let s ← Json.decodeString depth t
    (ofText? s).elim (.error .mismatched) .ok

end Uuid
end Evolution
