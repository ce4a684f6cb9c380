import Faultline.Decimal.Floating
import Faultline.Text.Ascii

/-! Numbers as they are written in settings. -/

namespace Faultline.Scalar

def natural? (base : Nat) : List Char → Option Nat
  | [] => none
  | digits => digits.foldlM (fun n c =>
      (Text.hexValue? c).bind fun digit => if digit < base then some (n * base + digit) else none) 0

def dropSign : List Char → Bool × List Char
  | '-' :: rest => (true, rest)
  | '+' :: rest => (false, rest)
  | cs => (false, cs)

/-- The integer written in decimal digits, if it fits in 64 bits, with a sign or without one. -/
def integer? (cs : List Char) : Option Int :=
  let (negative, digits) := dropSign cs
  match natural? 10 digits with
  | none => none
  | some n =>
    if negative then if n ≤ Nat.pow 2 63 then some (-n) else none
    else if n < Nat.pow 2 64 then some n else none

/-- The number written with digits, perhaps a point, and perhaps an exponent; there is a digit
before the exponent. The point may stand at either end of the digits. -/
def number? (negative : Bool) (cs : List Char) : Option Floating :=
  let whole := cs.takeWhile Char.isDigit
  let (fraction, rest) := match cs.dropWhile Char.isDigit with
    | '.' :: more => (more.takeWhile Char.isDigit, more.dropWhile Char.isDigit)
    | rest => ([], rest)
  if whole.isEmpty && fraction.isEmpty then none
  else match rest with
    | [] => some (.ofDigits negative whole fraction 0)
    | 'e' :: exponent | 'E' :: exponent =>
      let (minus, digits) := dropSign exponent
      (natural? 10 digits).map fun size =>
        .ofDigits negative whole fraction (if minus then -size else size)
    | _ => none

def floating? (cs : List Char) : Option Floating :=
  let (negative, cs) := dropSign cs
  let name := String.ofList (cs.map Text.lowerChar)
  if name = "nan" then some .notANumber
  else if name = "inf" ∨ name = "infinity" then some (.infinite negative)
  else number? negative cs

end Faultline.Scalar
