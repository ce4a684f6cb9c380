/-! Decimal numerals. -/

namespace Faultline.Text

def integerChars : Int → List Char
  | .ofNat n => Nat.toDigits 10 n
  | .negSucc n => '-' :: Nat.toDigits 10 (n + 1)

def numeral (n : Int) : String := .ofList (integerChars n)

end Faultline.Text
