import Evolution.Json.Value
import Evolution.Text.Search

/-! Requests and responses of HTTP. -/
namespace Evolution.Http

/-- The path and query that a request is for. -/
structure Target where
  path : String
  query : Option String := none
  deriving DecidableEq, Repr

/-- The names of headers are in small letters. A body can be any bytes. -/
structure Request where
  method : String
  target : Target
  headers : List (String × String) := []
  body : ByteArray := .empty

/-- The first header of a name. -/
def Request.header? (r : Request) (name : String) : Option String :=
  r.headers.lookup name

/-- All headers of a name. -/
def Request.headersNamed (r : Request) (name : String) : List String :=
  (r.headers.filter (·.1 == name)).map (·.2)

/-- A compressed body is known by what is in it. -/
inductive Body where
  | empty
  | text (s : String)
  | json (v : Json.Value)
  | compressed (v : Json.Value)

structure Response where
  status : Nat
  headers : List (String × String) := []
  body : Body := .empty

def Response.withHeaders (r : Response) (headers : List (String × String)) : Response :=
  { r with headers := r.headers ++ headers }

def Response.withoutBody (r : Response) : Response :=
  { r with body := .empty }

/-- A JSON body is worth compressing; the others are too small or empty. -/
def Response.compress (r : Response) : Response :=
  match r.body with
  | .json v => { r with body := .compressed v }
  | _ => r

def Response.ofJson (status : Nat) (v : Json.Value) : Response :=
  ⟨status, [("content-type", "application/json")], .json v⟩

def Response.ofText (status : Nat) (s : String) : Response :=
  ⟨status, [("content-type", "text/plain; charset=utf-8")], .text s⟩

/-- The characters of methods, header names and media types. -/
def isTokenChar (c : Char) : Bool :=
  c.isAlphanum || "!#$%&'*+-.^_\x60|~".toList.contains c

def isToken (s : String) : Bool :=
  !s.isEmpty && s.toList.all isTokenChar

/-- A tab, or anything but a control character. -/
def isHeaderValue (s : String) : Bool :=
  s.toList.all fun c => c = '\t' || (0x20 ≤ c.toNat && c.toNat != 0x7F)

/-- Printable characters of ASCII, blanks and tabs. -/
def isPlain (s : String) : Bool :=
  s.toList.all fun c => c = '\t' || (0x20 ≤ c.toNat && c.toNat < 0x7F)

namespace Target

/-- May stand in a path as it is. -/
def isPathChar (c : Char) : Bool :=
  0x20 < c.toNat && c.toNat != 0x7F && !"#<>?\x60".toList.contains c

def isQueryChar (c : Char) : Bool :=
  0x20 < c.toNat && c.toNat != 0x7F && !"\"#<>".toList.contains c

/-- Reads a path and a query, without the fragment. -/
def ofPath? (cs : List Char) : Option Target :=
  let cs := cs.takeWhile (· != '#')
  let path := cs.takeWhile (· != '?')
  let query := cs.drop path.length
  if path.all isPathChar && (query.drop 1).all isQueryChar then
    some ⟨String.ofList path,
      if query.isEmpty then none else some (String.ofList (query.drop 1))⟩
  else none

/-- May stand anywhere in an authority. -/
def isAuthorityChar (c : Char) : Bool :=
  c.isAlphanum || "!$&'()*+,-.;=_~".toList.contains c

/-- What has been seen of an authority: its brackets, and the colons and percent signs since the
last `@` or closing bracket. -/
structure Seen where
  colons : Nat := 0
  percent : Bool := false
  opened : Bool := false
  closed : Bool := false

/-- An address has no more colons than eight, and brackets around it once, without a percent sign in
front of them. -/
def Seen.step? (s : Seen) (c : Char) : Option Seen :=
  if c = ':' then if s.colons < 8 then some { s with colons := s.colons + 1 } else none
  else if c = '%' then some { s with percent := true }
  else if c = '@' then some { s with colons := 0, percent := false }
  else if c = '[' then if s.percent || s.opened then none else some { s with opened := true }
  else if c = ']' then
    if s.opened && !s.closed then some { s with colons := 0, percent := false, closed := true }
    else none
  else if isAuthorityChar c then some s
  else none

/-- A user perhaps, then a host, and a port perhaps. Only in a user or between brackets is there a
percent sign. -/
def isAuthority (cs : List Char) : Bool :=
  match cs.foldlM Seen.step? {} with
  | some s => s.opened == s.closed && s.colons ≤ 1 && !s.percent && cs.getLast? != some '@'
  | none => false

/-- The part after the authority of an address; nothing stands for the root. -/
def ofRest? (cs : List Char) : Option Target :=
  (ofPath? cs).map fun t => if t.path.isEmpty then { t with path := "/" } else t

def isSchemeChar (c : Char) : Bool :=
  c.isAlphanum || "+-.~".toList.contains c

/-- No scheme is longer. -/
def maxSchemeLength : Nat := 64

/-- An address after its scheme and the two slashes. -/
def ofAddress? (cs : List Char) : Option Target :=
  let authority := cs.takeWhile fun c => !(c = '/' || c = '?' || c = '#')
  if authority.isEmpty || !isAuthority authority then none
  else ofRest? (cs.drop authority.length)

/-- No target is longer, in bytes. -/
def maxLength : Nat := 65534

/-- Reads a path with its query, a whole address, an asterisk, or an authority alone, which has no
path. -/
def ofText? (s : String) : Option Target :=
  if maxLength < s.utf8ByteSize then none
  else
    match s.toList with
    | [] => none
    | ['*'] => some ⟨"*", none⟩
    | '/' :: rest => ofPath? ('/' :: rest)
    | cs =>
      let scheme := cs.takeWhile isSchemeChar
      match cs.drop scheme.length with
      | ':' :: '/' :: '/' :: rest =>
        if scheme.length ≤ maxSchemeLength then ofAddress? rest else none
      | _ => if isAuthority cs then some ⟨"", none⟩ else none

end Target
end Evolution.Http
