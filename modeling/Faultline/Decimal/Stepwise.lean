import Faultline.Decimal.Nearest

/-!
Reading a decimal in steps: the digits that fit in 64 bits are taken as one integer, the others are
left out, and the integer is multiplied or divided by a power of ten. Each step is rounded, so that
the result may not be the nearest number.
-/

namespace Faultline.Decimal

def Binary.quotient (b : Binary) : Nat × Nat := shifted b.mantissa 1 (-b.exponent)

def Binary.mul (a b : Binary) : Binary :=
  .nearest (a.quotient.1 * b.quotient.1) (a.quotient.2 * b.quotient.2)

def Binary.div (a b : Binary) : Binary :=
  .nearest (a.quotient.1 * b.quotient.2) (a.quotient.2 * b.quotient.1)

def Binary.tenTo (k : Nat) : Binary := .nearest (Nat.pow 10 k) 1

def maxPower : Nat := 308

/-- Adds digits to an integer as long as it fits, and gives those that are left out. -/
def takeDigits (n : Nat) : List Char → Nat × List Char
  | [] => (n, [])
  | c :: rest =>
    let next := n * 10 + (c.toNat - '0'.toNat)
    if next < Nat.pow 2 64 then takeDigits next rest else (n, c :: rest)

def timesTenTo? (negative : Bool) (n : Nat) (exponent : Int) : Option Decimal :=
  let f := Binary.nearest n 1
  let zero : Decimal := ⟨negative, 0, [zeroDigit]⟩
  if n = 0 then some zero
  else if exponent < -2 * maxPower then some zero
  else if exponent < -maxPower then
    ((f.div (.tenTo maxPower)).div (.tenTo (-exponent - maxPower).toNat)).fitting? negative
  else if exponent < 0 then (f.div (.tenTo (-exponent).toNat)).fitting? negative
  else if exponent ≤ maxPower then (f.mul (.tenTo exponent.toNat)).fitting? negative
  else none

/-- The number with these digits before and after the point, times a power of ten. -/
def stepwise? (negative : Bool) (whole fraction : List Char) (exponent : Int) : Option Decimal :=
  let (n, above) := takeDigits 0 whole
  let (n, left) := takeDigits n fraction
  let taken : Int := fraction.length - left.length
  timesTenTo? negative n (exponent + above.length - taken)

end Faultline.Decimal
