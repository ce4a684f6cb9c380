/-! White space and blank text. A text is blank when it holds white space only. -/

namespace Faultline.Text

/-- The characters with the Unicode property White_Space. -/
def isSpace (c : Char) : Bool :=
  let n := c.toNat
  (9 ≤ n && n ≤ 13) || n == 0x20 || n == 0x85 || n == 0xA0 || n == 0x1680 ||
    (0x2000 ≤ n && n ≤ 0x200A) || n == 0x2028 || n == 0x2029 || n == 0x202F || n == 0x205F ||
    n == 0x3000

def trimEnd (cs : List Char) : List Char := (cs.reverse.dropWhile isSpace).reverse

def trimChars (cs : List Char) : List Char := trimEnd (cs.dropWhile isSpace)

def trim (s : String) : String := .ofList (trimChars s.toList)

def isBlank (s : String) : Bool := s.toList.all isSpace

/-- A text that counts as given only if it is not blank. -/
def nonBlank (s : Option String) : Option String := s.filter fun t => !isBlank t

end Faultline.Text
