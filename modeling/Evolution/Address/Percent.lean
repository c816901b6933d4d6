import Evolution.Text.Character

/-! Percent-encoding: a byte as a percent sign and two hexadecimal digits. -/
namespace Evolution.Address

def utf8Bytes (s : String) : List UInt8 :=
  s.toUTF8.data.toList

/-- Two upper-case digits after a percent sign. -/
def encodeByte (b : UInt8) : List Char :=
  ['%', (Text.hexDigit (b.toNat / 16)).toUpper, (Text.hexDigit (b.toNat % 16)).toUpper]

/-- A character that `mustEncode`, or one outside of ASCII, byte by byte. -/
def encodeChar (mustEncode : Char → Bool) (c : Char) : List Char :=
  if mustEncode c || 0x7F < c.toNat then (utf8Bytes (String.singleton c)).flatMap encodeByte
  else [c]

def encode (mustEncode : Char → Bool) (cs : List Char) : String :=
  String.ofList (cs.flatMap (encodeChar mustEncode))

/-- The bytes that a text stands for. A percent sign without two digits stands for itself. -/
def decodedBytes : List Char → List UInt8
  | [] => []
  | '%' :: a :: b :: rest =>
    match Text.hexValue? a, Text.hexValue? b with
    | some x, some y => UInt8.ofNat (x * 16 + y) :: decodedBytes rest
    | _, _ => 37 :: decodedBytes (a :: b :: rest)
  | c :: rest => utf8Bytes (String.singleton c) ++ decodedBytes rest

/-- The text that a text stands for, unless its bytes are no UTF-8. -/
def decode? (cs : List Char) : Option String :=
  String.fromUTF8? ⟨(decodedBytes cs).toArray⟩

/-- Where the bytes are no UTF-8, a replacement character stands for each outside of ASCII. -/
def decodeLossy (cs : List Char) : String :=
  match decode? cs with
  | some s => s
  | none =>
    String.ofList ((decodedBytes cs).map fun b =>
      if b < 128 then Char.ofNat b.toNat else '\uFFFD')

/-! ### Names and values in the query of an address -/

/-- A plus sign stands for a space. -/
def plusToSpace (cs : List Char) : List Char :=
  cs.map fun c => if c = '+' then ' ' else c

def formText (cs : List Char) : String :=
  decodeLossy (plusToSpace cs)

/-- A name and what follows the first equals sign; nothing is an empty value. -/
def formPair (cs : List Char) : String × String :=
  match Text.splitFirstChars '=' cs with
  | some (name, value) => (formText name, formText value)
  | none => (formText cs, "")

/-- The pairs between ampersands; empty ones are passed over. -/
def formPairs (query : String) : List (String × String) :=
  ((Text.splitAllChars '&' query.toList).filter fun cs => !cs.isEmpty).map formPair

end Evolution.Address
