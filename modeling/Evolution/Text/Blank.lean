/-! White space by the White_Space property of Unicode, and trimming by it. -/
namespace Evolution.Text

/-- The twenty-five characters of Unicode that count as white space. -/
def isBlank (c : Char) : Bool :=
  let n := c.toNat
  (9 ≤ n && n ≤ 13) || n == 0x20 || n == 0x85 || n == 0xA0 || n == 0x1680 ||
    (0x2000 ≤ n && n ≤ 0x200A) || n == 0x2028 || n == 0x2029 || n == 0x202F || n == 0x205F ||
    n == 0x3000

def dropBlankEnd (cs : List Char) : List Char :=
  (cs.reverse.dropWhile isBlank).reverse

def trimChars (cs : List Char) : List Char :=
  dropBlankEnd (cs.dropWhile isBlank)

/-- The text without the white space at its two ends. -/
def trim (s : String) : String :=
  String.ofList (trimChars s.toList)

def trimEnd (s : String) : String :=
  String.ofList (dropBlankEnd s.toList)

/-- The trimmed text, if anything is left of it. -/
def nonBlank? (s : String) : Option String :=
  let t := trim s
  if t.isEmpty then none else some t

end Evolution.Text
