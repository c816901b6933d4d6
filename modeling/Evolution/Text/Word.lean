import Evolution.Text.Character
import Evolution.Text.Lowercase
import Evolution.Text.WordTable

/-! Whole words within a text. -/
namespace Evolution.Text

/-- Letters, digits, marks and the like: what a word is made of. -/
def isWordChar (c : Char) : Bool :=
  inRanges wordRanges c

/-- The text begins with `word`, in capitals or not, and the word ends there. -/
def beginsWithWord (word cs : List Char) : Bool :=
  word == (cs.take word.length).map lowerAscii &&
    !(cs.drop word.length).head?.any isWordChar

/-- `word`, given in lower case, stands in the text as a word of its own, whatever the case of its
letters; `before` is the character in front of the text. -/
def hasWordFrom (word : List Char) (before : Option Char) : List Char → Bool
  | [] => false
  | c :: rest =>
    (!before.any isWordChar && beginsWithWord word (c :: rest)) || hasWordFrom word (some c) rest

def hasWord (word s : String) : Bool :=
  hasWordFrom word.toList none s.toList

end Evolution.Text
