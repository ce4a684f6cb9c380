/-!
Characters of a YAML text, and places in it. Line breaks are a line feed, which also stands for a
carriage return and a next line, and the two separators, which stand for themselves.
-/

namespace Faultline.Yaml

def isLegal (c : Char) : Bool :=
  let n := c.toNat
  n == 9 || n == 0xA || n == 0xD || (0x20 ≤ n && n ≤ 0x7E) || n == 0x85 ||
    (0xA0 ≤ n && n ≤ 0xFFFD) || 0x10000 ≤ n

def byteOrderMark : Char := '\ufeff'

/-- Line feeds in the place of the other line breaks, except the separators. -/
def unifyBreaks : List Char → List Char
  | [] => []
  | '\r' :: '\n' :: rest => '\n' :: unifyBreaks rest
  | c :: rest => (if c = '\r' ∨ c = '\u0085' then '\n' else c) :: unifyBreaks rest

def isBreak (c : Char) : Bool := c == '\n' || c == '\u2028' || c == '\u2029'

def isBlank (c : Char) : Bool := c == ' ' || c == '\t'

def atGap : List Char → Bool
  | [] => true
  | c :: _ => isBlank c || isBreak c

/-- A place in a text. All counts are from zero; the `offset` is in bytes, and compares places on
one line. -/
structure Place where
  line : Nat
  column : Nat
  offset : Nat
  deriving DecidableEq, Repr

namespace Place

def start : Place := ⟨0, 0, 0⟩

def after (place : Place) (c : Char) : Place :=
  let offset := place.offset + c.utf8Size
  if isBreak c then ⟨place.line + 1, 0, offset⟩ else ⟨place.line, place.column + 1, offset⟩

/-- Three dashes or dots at the start of a line mark where a document starts or ends. -/
def isMarker (place : Place) : List Char → Bool
  | a :: b :: c :: rest =>
    place.column == 0 && ([a, b, c] == "---".toList || [a, b, c] == "...".toList) && atGap rest
  | _ => false

end Place
end Faultline.Yaml
