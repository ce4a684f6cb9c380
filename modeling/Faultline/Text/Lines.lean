/-! Splitting at a character, joining, searching and cutting. -/

namespace Faultline.Text

/-- The pieces between the occurrences of `sep`: one more than there are occurrences. -/
def splitOn (sep : Char) : List Char → List (List Char)
  | [] => [[]]
  | c :: rest =>
    if c = sep then [] :: splitOn sep rest
    else match splitOn sep rest with
      | [] => [[c]]
      | piece :: pieces => (c :: piece) :: pieces

/-- Carriage return and line feed together count as one line feed. -/
def unifyBreaks : List Char → List Char
  | [] => []
  | '\r' :: '\n' :: rest => '\n' :: unifyBreaks rest
  | c :: rest => c :: unifyBreaks rest

def hasInfix (needle : List Char) : List Char → Bool
  | [] => needle.isEmpty
  | c :: rest => needle.isPrefixOf (c :: rest) || hasInfix needle rest

def contains (s needle : String) : Bool := hasInfix needle.toList s.toList

def truncate (n : Nat) (s : String) : String := .ofList (s.toList.take n)

def joinWith (sep : String) (parts : List String) : String := sep.intercalate parts

end Faultline.Text
