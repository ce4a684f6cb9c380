import Faultline.Decimal.Nearest
import Faultline.Json.Basic
import Faultline.Text.Ascii
import Faultline.Text.Numeral

/-!
The compact JSON text of a value: no white space, and in strings only the quote, the backslash and
the control characters below U+0020 are escaped.
-/

namespace Faultline

namespace Decimal

/-- The digits from the first to the last that is not zero, and how many of the number's digits
stand before the point; that is negative if zeros follow the point. -/
def significant (d : Decimal) : List (Fin 10) × Int :=
  let whole := if d.whole = 0 then [] else (Nat.toDigits 10 d.whole).filterMap Text.digitValue?
  let digits := whole ++ d.fraction
  let zeros := (digits.takeWhile (· == zeroDigit)).length
  (trimZeros (digits.drop zeros), whole.length - zeros)

/-- Very large and very small numbers are written as a digit, a fraction and a power of ten with its
sign, and all others with all their digits. -/
def jsonText (d : Decimal) : List Char :=
  let (digits, point) := d.significant
  if d.isZero || (-5 < point && point ≤ 16) then d.text
  else match digits.map Text.decimalDigit with
    | [] => d.text
    | first :: rest =>
      d.sign ++ first :: (if rest.isEmpty then [] else '.' :: rest) ++
        'e' :: (if 0 < point then ['+'] else []) ++ Text.integerChars (point - 1)

end Decimal

namespace Json

def escape (c : Char) : List Char :=
  if c = '"' then ['\\', '"']
  else if c = '\\' then ['\\', '\\']
  else if c = '\n' then ['\\', 'n']
  else if c = '\r' then ['\\', 'r']
  else if c = '\t' then ['\\', 't']
  else if c = '\x08' then ['\\', 'b']
  else if c = '\x0c' then ['\\', 'f']
  else if c.toNat < 32 then
    ['\\', 'u', '0', '0', Text.hexDigit (.ofNat 16 (c.toNat / 16)),
      Text.hexDigit (.ofNat 16 c.toNat)]
  else [c]

def stringText (s : String) : List Char := '"' :: s.toList.flatMap escape ++ ['"']

mutual
def text : Json → List Char
  | .null => ['n', 'u', 'l', 'l']
  | .bool true => ['t', 'r', 'u', 'e']
  | .bool false => ['f', 'a', 'l', 's', 'e']
  | .integer n => Text.integerChars n
  | .decimal d => d.jsonText
  | .string s => stringText s
  | .array [] => ['[', ']']
  | .array (item :: rest) => '[' :: item.text ++ itemsText rest
  | .object [] => ['\x7b', '\x7d']
  | .object ((name, value) :: rest) =>
    '\x7b' :: stringText name ++ ':' :: value.text ++ membersText rest

def itemsText : List Json → List Char
  | [] => [']']
  | item :: rest => ',' :: item.text ++ itemsText rest

def membersText : List (String × Json) → List Char
  | [] => ['\x7d']
  | (name, value) :: rest => ',' :: stringText name ++ ':' :: value.text ++ membersText rest
end

def compact (value : Json) : String := .ofList value.text

end Json
end Faultline
