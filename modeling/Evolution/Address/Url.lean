import Evolution.Address.Domain
import Evolution.Address.Ip
import Evolution.Address.Percent

/-! Absolute URLs. A scheme that is not one of the web's has an opaque host, which keeps its
letters; all parts stay percent-encoded. -/
namespace Evolution.Address

structure Url where
  scheme : String
  user : String := ""
  password : String := ""
  host : Option String := none
  port : Option Nat := none
  path : String := ""
  query : Option String := none
  deriving DecidableEq, Repr

namespace Url

def isWebScheme (scheme : String) : Bool :=
  ["http", "https", "ws", "wss", "ftp"].contains scheme

/-! ## Characters -/

def isControl (c : Char) : Bool :=
  c.toNat < 0x20 || c.toNat == 0x7F

def inPathSet (c : Char) : Bool :=
  isControl c || " \"<>#?\x60\x7b\x7d".toList.contains c

def inUserSet (c : Char) : Bool :=
  inPathSet c || "/:;=@[\\]^|".toList.contains c

/-- Characters that no host may have. -/
def isForbiddenInHost (c : Char) : Bool :=
  "\x00\t\n\r #/:<>?@[\\]^|".toList.contains c

/-- Without the controls and spaces around it, and without tabs and line breaks. -/
def cleaned (s : String) : List Char :=
  let isEdge (c : Char) : Bool := c.toNat ≤ 0x20
  let cs := ((s.toList.dropWhile isEdge).reverse.dropWhile isEdge).reverse
  cs.filter fun c => !(c = '\t' || c = '\n' || c = '\r')

/-! ## Parts -/

/-- A letter, then letters, digits and some marks, up to a colon. -/
def scheme? (cs : List Char) : Option (String × List Char) :=
  let inScheme (c : Char) : Bool := c.isAlphanum || c = '+' || c = '-' || c = '.'
  match cs with
  | [] => none
  | first :: _ =>
    match cs.dropWhile inScheme with
    | ':' :: rest =>
      if first.isAlpha then some (String.ofList ((cs.takeWhile inScheme).map Char.toLower), rest)
      else none
    | _ => none

/-- A web scheme takes a backslash for a slash. -/
def isSlash (web : Bool) (c : Char) : Bool :=
  c = '/' || (web && c = '\\')

def endsAuthority (web : Bool) (c : Char) : Bool :=
  isSlash web c || c = '?' || c = '#'

/-- Up to a colon outside of brackets. -/
def takeHost : Bool → List Char → List Char
  | _, [] => []
  | inside, c :: rest =>
    if c = ':' && !inside then []
    else c :: takeHost (c = '[' || (inside && c != ']')) rest

def bracketed? (cs : List Char) : Option String :=
  match cs with
  | '[' :: rest =>
    if rest.getLast? == some ']' then
      (ipv6? rest.dropLast).map fun pieces => "[" ++ ipv6Text pieces ++ "]"
    else none
  | _ => none

/-- A host whose letters mean nothing. -/
def opaqueHost? (cs : List Char) : Option String :=
  if cs.head? == some '[' then bracketed? cs
  else if cs.any isForbiddenInHost then none
  else some (encode isControl cs)

/-- A host of the web: the name of a domain, or an address. -/
def webHost? (cs : List Char) : Option String :=
  if cs.head? == some '[' then bracketed? cs
  else do
    let text ← decode? cs
    let name ← Domain.toAscii? text.toList
    if name.isEmpty then none
    let parts := nameParts name
    if endsInNumber parts && !isShortIpv4 parts then none
    pure (String.ofList name)

/-- Digits up to the end of the authority; no digits are no port. -/
def port? (cs : List Char) : Option (Option Nat × List Char) :=
  let digits := cs.takeWhile Text.isDecimalDigit
  let rest := cs.dropWhile Text.isDecimalDigit
  if 65535 < Text.decimalValue digits then none
  else if rest.head?.all fun c => c = '/' || c = '\\' || c = '?' || c = '#' then
    some (if digits.isEmpty then none else some (Text.decimalValue digits), rest)
  else none

/-! ## Paths -/

def isSingleDot (segment : String) : Bool :=
  [".", "%2e", "%2E"].contains segment

def isDoubleDot (segment : String) : Bool :=
  ["..", ".%2e", ".%2E", "%2e.", "%2E.", "%2e%2e", "%2e%2E", "%2E%2e", "%2E%2E"].contains segment

/-- A letter and a colon or bar. -/
def isDriveLetter (segment : String) : Bool :=
  match segment.toList with
  | [c, d] => c.isAlpha && (d = ':' || d = '|')
  | _ => false

/-- Begins with the letter of a drive, and a backslash if anything follows it. A double dot does not
step over such a segment. -/
def beginsWithDrive (segment : String) : Bool :=
  match segment.toList with
  | c :: d :: rest => c.isAlpha && (d = ':' || d = '|') && rest.head?.all (· == '\\')
  | _ => false

/-- The segments without the dots in them; `done` holds those before, the nearest first. -/
def resolveDots (done : List String) : List String → List String
  | [] => done.reverse
  | segment :: rest =>
    if isDoubleDot segment then
      let done := match done with
        | nearest :: others => if beginsWithDrive nearest then done else others
        | [] => []
      resolveDots (if rest.isEmpty then "" :: done else done) rest
    else if isSingleDot segment then resolveDots (if rest.isEmpty then "" :: done else done) rest
    else resolveDots (segment :: done) rest

/-- The pieces between slashes. -/
def segments (web : Bool) (cs : List Char) : List String :=
  let slashed := if web then cs.map fun c => if c = '\\' then '/' else c else cs
  (Text.splitAllChars '/' slashed).map (encode inPathSet)

def pathText (web : Bool) (cs : List Char) : String :=
  match cs with
  | [] => if web then "/" else ""
  | c :: rest =>
    let cs := if isSlash web c then rest else cs
    "/" ++ "/".intercalate (resolveDots [] (segments web cs))

/-- Path and query, without the fragment. -/
def withPath (web : Bool) (u : Url) (cs : List Char) : Url :=
  let cs := cs.takeWhile (· != '#')
  match Text.splitFirstChars '?' cs with
  | some (path, query) => { u with path := pathText web path, query := some (String.ofList query) }
  | none => { u with path := pathText web cs }

/-- Name and password. An empty password is none. -/
def withUser (u : Url) (cs : List Char) : Url :=
  match Text.splitFirstChars ':' cs with
  | some (name, password) =>
    { u with user := encode inUserSet name, password := encode inUserSet password }
  | none => { u with user := encode inUserSet cs }

/-- What follows the two slashes. Whoever has a name has to have a host. -/
def withAuthority? (web : Bool) (u : Url) (cs : List Char) : Option Url := do
  let authority := cs.takeWhile fun c => !endsAuthority web c
  let rest := cs.drop authority.length
  let (user, place) := (Text.splitLastChars '@' authority).getD ([], authority)
  let isBareAt := user.isEmpty && place.length < authority.length && place.isEmpty
  if isBareAt && !rest.isEmpty then none
  let u := u.withUser user
  let hostText := takeHost false place
  let host ← if web then webHost? hostText else opaqueHost? hostText
  let after := place.drop hostText.length ++ rest
  if host.isEmpty && (after.head? == some ':' || u.user != "" || u.password != "") then none
  let (port, after) ← match after with
    | ':' :: digits => port? digits
    | _ => some (none, after)
  pure (withPath web { u with host := if host.isEmpty then none else some host, port } after)

/-- The host of a file, which may be missing, before its path. -/
def withFile? (u : Url) (cs : List Char) : Option Url :=
  match cs with
  | a :: b :: rest =>
    if isSlash true a && isSlash true b then do
      let hostText := rest.takeWhile fun c => !endsAuthority true c
      if hostText.isEmpty || isDriveLetter (String.ofList hostText) then pure (withPath true u rest)
      else
        let host ← webHost? hostText
        pure (withPath true { u with host := some host } (rest.drop hostText.length))
    else some (withPath true u cs)
  | _ => some (withPath true u cs)

/-- Reads an absolute URL. -/
def ofText? (s : String) : Option Url := do
  let (scheme, rest) ← scheme? (cleaned s)
  let u : Url := { scheme }
  if isWebScheme scheme then withAuthority? true u (rest.dropWhile (isSlash true))
  else if scheme == "file" then withFile? u rest
  else
    match rest with
    | '/' :: '/' :: rest => withAuthority? false u rest
    | rest => pure (withPath false u rest)

end Url
end Evolution.Address
