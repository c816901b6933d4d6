import Evolution.Http.Message

/-! Media types: a type, a subtype with a suffix perhaps, and parameters. -/
namespace Evolution.Http

/-- In small letters. What follows the last plus sign is the suffix. -/
structure MediaType where
  type : String
  subtype : String
  suffix : Option String := none
  deriving DecidableEq, Repr

namespace MediaType

/-- The rest after a quoted value and blanks: nothing, or the next parameters. -/
def skipQuoted? : List Char → Option (List Char)
  | [] => none
  | '"' :: rest =>
    match rest.dropWhile (· == ' ') with
    | [] => some []
    | ';' :: more => some more
    | _ => none
  | c :: rest => if 31 < c.toNat && c.toNat != 127 then skipQuoted? rest else none

/-- The rest after one value. Something stands in quotes, or is an unquoted token. -/
def skipValue? : List Char → Option (List Char)
  | '"' :: c :: rest =>
    if 31 < c.toNat && c.toNat != 127 then skipQuoted? rest else none
  | cs =>
    match cs.dropWhile isTokenChar with
    | [] => some []
    | ';' :: more => if (cs.takeWhile isTokenChar).isEmpty then none else some more
    | _ => none

/-- Names with values after them; blanks may stand before a name, and nothing may follow. The number
bounds the parameters by the characters there are. -/
def areParameters : Nat → List Char → Bool
  | 0, cs => cs.isEmpty
  | fuel + 1, cs =>
    match cs.dropWhile (· == ' ') with
    | [] => true
    | rest =>
      match rest.dropWhile isTokenChar with
      | '=' :: value =>
        !(rest.takeWhile isTokenChar).isEmpty && (skipValue? value).any (areParameters fuel)
      | _ => false

/-- Splits a subtype at its last plus sign, unless that comes first. -/
def splitSuffix (cs : List Char) : List Char × Option (List Char) :=
  match Text.splitFirstChars '+' cs.reverse with
  | some (after, before) =>
    if before.isEmpty then (cs, none) else (before.reverse, some after.reverse)
  | none => (cs, none)

def ofText? (s : String) : Option MediaType := do
  let cs := s.toList.map Char.toLower
  let (type, rest) ← Text.splitFirstChars '/' cs
  let subtype := rest.takeWhile isTokenChar
  let parameters := rest.drop subtype.length
  if !isPlain s || type.isEmpty || !type.all isTokenChar then none
  if subtype.isEmpty && !parameters.isEmpty then none
  let isWhole := match parameters with
    | [] => true
    | ';' :: more => areParameters more.length more
    | _ => false
  if !isWhole then none
  let (name, suffix) := splitSuffix subtype
  pure ⟨String.ofList type, String.ofList name, suffix.map String.ofList⟩

/-- An application's JSON, or a kind of it. -/
def isJson (m : MediaType) : Bool :=
  m.type == "application" && (m.subtype == "json" || m.suffix == some "json")

end MediaType
end Evolution.Http
