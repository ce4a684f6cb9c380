/-! Parts of a text by positions in bytes. -/

namespace Faultline.Text

def dropBytes? : Nat → List Char → Option (List Char)
  | 0, cs => some cs
  | _ + 1, [] => none
  | n + 1, c :: cs => if c.utf8Size ≤ n + 1 then dropBytes? (n + 1 - c.utf8Size) cs else none

def fitting : Nat → List Char → List Char
  | _, [] => []
  | room, c :: cs => if c.utf8Size ≤ room then c :: fitting (room - c.utf8Size) cs else []

def slice? (start stop : Nat) (cs : List Char) : Option (List Char) := do
  let rest ← dropBytes? start cs
  let _ ← dropBytes? stop cs
  return fitting (stop - start) rest

end Faultline.Text
