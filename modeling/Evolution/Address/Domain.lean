import Evolution.Address.DomainTable
import Evolution.Address.Punycode
import Evolution.Text.Composition
import Evolution.Text.Direction
import Evolution.Text.Joining

/-! Names of domains in letters of any script, and their form in ASCII. -/
namespace Evolution.Address.Domain

/-! ## Characters -/

/-- What becomes of a character in a name: letters are lower-cased and variants replaced. -/
def image? (c : Char) : Option (List Char) :=
  match imageRuns.findSome? (·.image? c.toNat) with
  | some image => some image.toList
  | none =>
    if Text.inRanges ignoredRanges c then some []
    else if Text.inRanges validRanges c then some [c]
    else none

/-- Controls, the blank and what has a meaning in addresses. -/
def isForbidden (c : Char) : Bool :=
  c.toNat ≤ 0x20 || c.toNat = 0x7F || "#%/:<>?@[\\]^|".toList.contains c

/-! ## Labels -/

def asciiMark : List Char :=
  "xn--".toList

/-- Characters that join letters or keep them apart. -/
def isJoiner (c : Char) : Bool :=
  c = '\u200C' || c = '\u200D'

/-- Each joiner stands after a virama, or keeps apart two letters that would join; `before` is what
precedes the text, the nearest first. -/
def joinersFit (before : List Char) : List Char → Bool
  | [] => true
  | c :: rest =>
    (!isJoiner c || before.head?.any Text.isVirama ||
      (c = '\u200C' && Text.wouldJoin before rest)) && joinersFit (c :: before) rest

def isReadable (label : List Char) : Bool :=
  !label.head?.any Text.isMark && joinersFit [] label &&
    (label.all Punycode.isBasic || label.length ≤ 1000)

/-- A text that a label in ASCII may stand for: it needs one, and would itself stay as it is. -/
def isNormal (label : List Char) : Bool :=
  !label.all Punycode.isBasic && label.all (fun c => image? c == some [c]) &&
    Text.compose label == label && !asciiMark.isPrefixOf label

/-- The letters of a label, which are decoded if they are in ASCII. -/
def letters? (label : List Char) : Option (List Char) :=
  if asciiMark.isPrefixOf label then
    let code := label.drop asciiMark.length
    if !code.all Punycode.isBasic || 2000 < code.length then none
    else (Punycode.decode? code).bind fun text => if isNormal text then some text else none
  else some label

def label? (label : List Char) : Option (List Char) :=
  (letters? label).bind fun text => if isReadable text then some text else none

/-! ## Directions -/

def hasRightToLeft (label : List Char) : Bool :=
  label.any fun c => [.rightToLeft, .arabicNumber].contains (Text.Direction.ofChar c)

/-- The label can be told from its neighbours where text runs both ways: it begins with a letter, no
letter of the other direction follows, and it ends with a letter or digit. -/
def keepsDirection (label : List Char) : Bool :=
  let all := label.map Text.Direction.ofChar
  let last := all.reverse.find? (· != .inherited)
  match all.head? with
  | none => true
  | some .leftToRight =>
    last.any [.leftToRight, .europeanNumber].contains &&
      !all.contains .rightToLeft && !all.contains .arabicNumber
  | some .rightToLeft =>
    last.any [.rightToLeft, .europeanNumber, .arabicNumber].contains &&
      !all.contains .leftToRight &&
      !(all.contains .europeanNumber && all.contains .arabicNumber)
  | some _ => false

/-! ## Names -/

/-- The letters of each label. -/
def labels? (name : List Char) : Option (List (List Char)) := do
  let images ← name.mapM image?
  let text := Text.compose images.flatten
  if text.any isForbidden then none
  let labels ← (Text.splitAllChars '.' text).mapM label?
  if labels.any hasRightToLeft && !labels.all keepsDirection then none
  pure labels

def asciiLabel (label : List Char) : List Char :=
  if label.all Punycode.isBasic then label else asciiMark ++ Punycode.encode label

/-- The name in ASCII, if it is one. -/
def toAscii? (name : List Char) : Option (List Char) :=
  (labels? name).map fun labels => ['.'].intercalate (labels.map asciiLabel)

end Evolution.Address.Domain
