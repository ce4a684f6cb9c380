import Faultline.Decimal.Nearest

/-! Floating point numbers: decimals that fit in 64 bits, the two infinities, and no number. -/

namespace Faultline

inductive Floating where
  | finite (value : Decimal)
  | infinite (negative : Bool)
  | notANumber
  deriving DecidableEq, Repr

namespace Floating

def ofDigits (negative : Bool) (whole fraction : List Char) (exponent : Int) : Floating :=
  match Decimal.nearest? negative whole fraction exponent with
  | some d => finite d
  | none => infinite negative

def text : Floating → String
  | finite d => .ofList d.withTiesUp.plainText
  | infinite negative => if negative then "-inf" else "inf"
  | notANumber => "NaN"

/-- The order of numbers between the infinities. What is no number comes first. -/
def order : Floating → Floating → Ordering
  | finite a, finite b => a.order b
  | infinite a, infinite b => compare b a
  | infinite negative, finite _ => if negative then .lt else .gt
  | finite _, infinite negative => if negative then .gt else .lt
  | notANumber, notANumber => .eq
  | notANumber, _ => .lt
  | _, notANumber => .gt

end Floating
end Faultline
