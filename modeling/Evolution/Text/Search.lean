/-! Finding, splitting and replacing parts of a text. -/
namespace Evolution.Text

/-- The two sides of the first `sep`. -/
def splitFirstChars (sep : Char) : List Char → Option (List Char × List Char)
  | [] => none
  | c :: rest =>
    if c = sep then some ([], rest)
    else (splitFirstChars sep rest).map fun (before, after) => (c :: before, after)

/-- The two sides of the first `sep`. -/
def splitFirst (sep : Char) (s : String) : Option (String × String) :=
  (splitFirstChars sep s.toList).map fun (before, after) =>
    (String.ofList before, String.ofList after)

/-- The two sides of the last `sep`. -/
def splitLastChars (sep : Char) (cs : List Char) : Option (List Char × List Char) :=
  (splitFirstChars sep cs.reverse).map fun (after, before) => (before.reverse, after.reverse)

/-- All the pieces between separators, the empty ones too: one more than there are separators. -/
def splitAllChars (sep : Char) : List Char → List (List Char)
  | [] => [[]]
  | c :: rest =>
    match splitAllChars sep rest with
    | [] => [[c]]
    | piece :: pieces =>
      if c = sep then [] :: piece :: pieces else (c :: piece) :: pieces

/-- All the pieces between separators, the empty ones too. -/
def splitAll (sep : Char) (s : String) : List String :=
  (splitAllChars sep s.toList).map String.ofList

def occursIn (part : List Char) : List Char → Bool
  | [] => part.isEmpty
  | c :: rest => part.isPrefixOf (c :: rest) || occursIn part rest

/-- `part` is a contiguous piece of `whole`. -/
def contains (whole part : String) : Bool :=
  occursIn part.toList whole.toList

def startsWith (whole start : String) : Bool :=
  start.toList.isPrefixOf whole.toList

def endsWith (whole ending : String) : Bool :=
  ending.toList.isSuffixOf whole.toList

/-- The text without `ending`, if it ends so. -/
def dropEnding? (whole ending : String) : Option String :=
  if endsWith whole ending then
    some (String.ofList (whole.toList.take (whole.toList.length - ending.toList.length)))
  else none

/-- Each `c` becomes the whole `replacement`. -/
def replaceChar (c : Char) (replacement : String) (s : String) : String :=
  String.ofList (s.toList.flatMap fun d => if d = c then replacement.toList else [d])

end Evolution.Text
