import Evolution.Json.Numeral
import Evolution.Json.Tree
import Evolution.Text.Character

/-! Reading the shape of a JSON text. Reading never fails: where the text goes wrong the shape is
broken and nothing is left to read. -/
namespace Evolution.Json

open Evolution.Text (hexValue?)

def isSpace (c : Char) : Bool :=
  c = ' ' || c = '\n' || c = '\t' || c = '\r'

def skipSpace (cs : List Char) : List Char :=
  cs.dropWhile isSpace

def readHex4 : List Char → Option (Nat × List Char)
  | a :: b :: c :: d :: rest => do
    let a ← hexValue? a
    let b ← hexValue? b
    let c ← hexValue? c
    let d ← hexValue? d
    pure (((a * 16 + b) * 16 + c) * 16 + d, rest)
  | _ => none

/-- A low surrogate written as an escape. -/
def readLow? : List Char → Option (Nat × List Char)
  | '\\' :: 'u' :: rest =>
    match readHex4 rest with
    | some (n, rest) => if 0xDC00 ≤ n ∧ n ≤ 0xDFFF then some (n, rest) else none
    | none => none
  | _ => none

/-- The character of an escape after its backslash: none for a text gone wrong, and no character for
half a surrogate pair. -/
def readEscape : List Char → Option (Option Char × List Char)
  | '"' :: rest => some (some '"', rest)
  | '\\' :: rest => some (some '\\', rest)
  | '/' :: rest => some (some '/', rest)
  | 'b' :: rest => some (some '\x08', rest)
  | 'f' :: rest => some (some '\x0c', rest)
  | 'n' :: rest => some (some '\n', rest)
  | 'r' :: rest => some (some '\r', rest)
  | 't' :: rest => some (some '\t', rest)
  | 'u' :: rest =>
    match readHex4 rest with
    | none => none
    | some (n, rest) =>
      if 0xD800 ≤ n ∧ n ≤ 0xDBFF then
        match readLow? rest with
        | some (low, rest) =>
          some (some (Char.ofNat (0x10000 + (n - 0xD800) * 0x400 + (low - 0xDC00))), rest)
        | none => some (none, rest)
      else if 0xDC00 ≤ n ∧ n ≤ 0xDFFF then some (none, rest)
      else some (some (Char.ofNat n), rest)
  | _ => none

/-- The rest of a string literal, up to and without its closing quote. -/
def readLiteral (fuel : Nat) (cs : List Char) : Option (Option (List Char) × List Char) :=
  match fuel with
  | 0 => none
  | fuel + 1 =>
    match cs with
    | [] => none
    | '"' :: rest => some (some [], rest)
    | '\\' :: rest => do
      let (c, rest) ← readEscape rest
      let (text, rest) ← readLiteral fuel rest
      pure (do return (← c) :: (← text), rest)
    | c :: rest =>
      if c.toNat < 32 then none
      else do
        let (text, rest) ← readLiteral fuel rest
        pure (text.map (c :: ·), rest)

/-- A shape and what follows it, if the text went well up to there. -/
structure Read where
  tree : Tree
  rest : Option (List Char)

def Read.stop : Read :=
  ⟨.broken, none⟩

def readWord (word : String) (tree : Tree) (cs : List Char) : Read :=
  if word.toList.isPrefixOf cs then ⟨tree, some (cs.drop word.toList.length)⟩ else .stop

def readString (cs : List Char) : Read :=
  match readLiteral (cs.length + 1) cs with
  | some (text, rest) => ⟨.string (text.map String.ofList), some rest⟩
  | none => .stop

def readNumeral (cs : List Char) : Read :=
  match readNumber cs with
  | some (n, rest) => ⟨.number n, some rest⟩
  | none => .stop

mutual

/-- One value, after any blanks. -/
def readValue (fuel : Nat) (cs : List Char) : Read :=
  match fuel with
  | 0 => .stop
  | fuel + 1 =>
    match skipSpace cs with
    | [] => .stop
    | c :: rest =>
      if c = 'n' then readWord "null" .null (c :: rest)
      else if c = 't' then readWord "true" (.bool true) (c :: rest)
      else if c = 'f' then readWord "false" (.bool false) (c :: rest)
      else if c = '"' then readString rest
      else if c = '[' then
        let (items, closed, rest) := readItems fuel true rest
        ⟨.array items closed, rest⟩
      else if c = '\x7b' then
        let (members, closed, rest) := readMembers fuel true rest
        ⟨.object members closed, rest⟩
      else readNumeral (c :: rest)

/-- The items of an array up to its end; `first` until one has been read. -/
def readItems (fuel : Nat) (first : Bool) (cs : List Char) :
    List Tree × Bool × Option (List Char) :=
  match fuel with
  | 0 => ([], false, none)
  | fuel + 1 =>
    match skipSpace cs with
    | [] => ([], false, none)
    | c :: rest =>
      if c = ']' then ([], true, some rest)
      else if first then readItem fuel (c :: rest)
      else if c = ',' then
        if (skipSpace rest).head? = some ']' then ([], false, none) else readItem fuel rest
      else ([], false, none)

def readItem (fuel : Nat) (cs : List Char) : List Tree × Bool × Option (List Char) :=
  match fuel with
  | 0 => ([], false, none)
  | fuel + 1 =>
    let item := readValue fuel cs
    match item.rest with
    | none => ([item.tree], false, none)
    | some rest =>
      let (items, closed, rest) := readItems fuel false rest
      (item.tree :: items, closed, rest)

/-- The members of an object up to its end; `first` until one has been read. -/
def readMembers (fuel : Nat) (first : Bool) (cs : List Char) :
    List (Tree × Tree) × Bool × Option (List Char) :=
  match fuel with
  | 0 => ([], false, none)
  | fuel + 1 =>
    match skipSpace cs with
    | [] => ([], false, none)
    | c :: rest =>
      if c = '\x7d' then ([], true, some rest)
      else if first then readMember fuel (c :: rest)
      else if c = ',' then
        if (skipSpace rest).head? = some '\x7d' then ([], false, none) else readMember fuel rest
      else ([], false, none)

/-- A key that is no string is kept too, and is the last thing read. -/
def readMember (fuel : Nat) (cs : List Char) :
    List (Tree × Tree) × Bool × Option (List Char) :=
  match fuel with
  | 0 => ([], false, none)
  | fuel + 1 =>
    let key := readValue fuel cs
    match key.tree, key.rest with
    | .string _, some rest =>
      match skipSpace rest with
      | ':' :: rest =>
        let value := readValue fuel rest
        match value.rest with
        | none => ([(key.tree, value.tree)], false, none)
        | some rest =>
          let (members, closed, rest) := readMembers fuel false rest
          ((key.tree, value.tree) :: members, closed, rest)
      | _ => ([(key.tree, .broken)], false, none)
    | tree, _ => ([(tree, .broken)], false, none)

end

/-- Each value takes a character at least, and no more than two calls. -/
def readText (text : String) : Read :=
  readValue (3 * text.toList.length + 3) text.toList

/-- Nothing but blanks follows. -/
def Read.ends (r : Read) : Bool :=
  match r.rest with
  | some rest => (skipSpace rest).isEmpty
  | none => false

end Evolution.Json
