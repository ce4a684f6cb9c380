import Faultline.Text.Ascii

/-! Numbers with a fraction, as their digits. -/

namespace Faultline

/-- A number with a fraction, as its digits: `-0.25` has whole part 0 and the fraction 2, 5. -/
structure Decimal where
  negative : Bool
  whole : Nat
  fraction : List (Fin 10)
  deriving DecidableEq, Repr

namespace Decimal

def zeroDigit : Fin 10 := ⟨0, by decide⟩

def isZero (d : Decimal) : Bool := d.whole == 0 && d.fraction.all (· == zeroDigit)

def isWhole (d : Decimal) : Bool := d.fraction.all (· == zeroDigit)

/-- Equality of numbers: the sign of zero does not count. -/
def same (a b : Decimal) : Bool := a == b || (a.isZero && b.isZero)

def compareFractions : List (Fin 10) → List (Fin 10) → Ordering
  | [], rest => if rest.all (· == zeroDigit) then .eq else .lt
  | rest, [] => if rest.all (· == zeroDigit) then .eq else .gt
  | a :: as, b :: bs => (compare a.val b.val).then (compareFractions as bs)

def compareSizes (a b : Decimal) : Ordering :=
  (compare a.whole b.whole).then (compareFractions a.fraction b.fraction)

def order (a b : Decimal) : Ordering :=
  if a.isZero && b.isZero then .eq
  else match a.negative, b.negative with
    | false, false => a.compareSizes b
    | true, true => b.compareSizes a
    | true, false => .lt
    | false, true => .gt

def sign (d : Decimal) : List Char := if d.negative then ['-'] else []

def text (d : Decimal) : List Char :=
  d.sign ++ Nat.toDigits 10 d.whole ++ '.' :: d.fraction.map Text.decimalDigit

/-- All digits, and no point if there is nothing after it. -/
def plainText (d : Decimal) : List Char :=
  if d.isWhole then d.sign ++ Nat.toDigits 10 d.whole else d.text

end Decimal
end Faultline
