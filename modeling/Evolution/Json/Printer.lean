import Evolution.Decimal.Shortest
import Evolution.Json.Value
import Evolution.Text.Character

/-! The compact text of a JSON value: no blanks, members in their order, and every double with the
fewest digits that read back. -/
namespace Evolution.Json

open Evolution.Decimal (Double Digits shortest)
open Evolution.Text (hexDigit)

/-- A character inside a string literal. Only the quote, the backslash and the control characters
below the space are escaped. -/
def escapeChar (c : Char) : List Char :=
  if c = '"' then ['\\', '"']
  else if c = '\\' then ['\\', '\\']
  else if c.toNat = 8 then ['\\', 'b']
  else if c.toNat = 9 then ['\\', 't']
  else if c.toNat = 10 then ['\\', 'n']
  else if c.toNat = 12 then ['\\', 'f']
  else if c.toNat = 13 then ['\\', 'r']
  else if c.toNat < 32 then
    ['\\', 'u', '0', '0', hexDigit (c.toNat / 16), hexDigit (c.toNat % 16)]
  else [c]

def renderString (s : String) : String :=
  "\"" ++ String.ofList (s.toList.flatMap escapeChar) ++ "\""

def zeros (n : Nat) : String :=
  String.ofList (List.replicate n '0')

/-- Digits and a power of ten. Positional, and always with a fraction, when the first digit stands
for `10 ^ -5` up to `10 ^ 15`; else with an exponent, whose sign is always written. -/
def renderDigits (d : Digits) : String :=
  let text := toString d.digits
  let size := text.toList.length
  let point : Int := size + d.exponent
  if 0 ≤ d.exponent ∧ point ≤ 16 then
    text ++ zeros d.exponent.toNat ++ ".0"
  else if 0 < point ∧ point ≤ 16 then
    String.ofList (text.toList.take point.toNat) ++ "." ++
      String.ofList (text.toList.drop point.toNat)
  else if -5 < point ∧ point ≤ 0 then
    "0." ++ zeros (-point).toNat ++ text
  else
    let exponent := point - 1
    let sign := if exponent < 0 then "e-" else "e+"
    let mantissa :=
      if size = 1 then text
      else String.ofList (text.toList.take 1) ++ "." ++ String.ofList (text.toList.drop 1)
    mantissa ++ sign ++ toString exponent.natAbs

def renderDouble (x : Double) : String :=
  let magnitude := if x.mantissa = 0 then "0.0" else renderDigits (shortest x)
  if x.negative then "-" ++ magnitude else magnitude

def Number.render : Number → String
  | .int n => toString n
  | .double x => renderDouble x

mutual

def Value.render : Value → String
  | .null => "null"
  | .bool b => if b then "true" else "false"
  | .number n => n.render
  | .string s => renderString s
  | .array items => "[" ++ ",".intercalate (renderItems items) ++ "]"
  | .object members => "\x7b" ++ ",".intercalate (renderMembers members) ++ "\x7d"

def renderItems : List Value → List String
  | [] => []
  | v :: rest => v.render :: renderItems rest

def renderMembers : List (String × Value) → List String
  | [] => []
  | (k, v) :: rest => (renderString k ++ ":" ++ v.render) :: renderMembers rest

end

end Evolution.Json
