import Faultline.Decimal.Basic

/-!
Rounding decimal digits to the numbers that 64 bits of floating point hold: 53 bits of mantissa,
and exponents down to -1074. Each of them is written with the fewest digits that are nearer to it
than to any other.
-/

namespace Faultline.Decimal

structure Binary where
  mantissa : Nat
  exponent : Int
  deriving DecidableEq, Repr

/-- A quotient to the nearest integer, a half to the even one. -/
def roundHalfEven (n d : Nat) : Nat :=
  let q := n / d
  let r := n % d
  if d < 2 * r || (2 * r == d && q % 2 == 1) then q + 1 else q

def shifted (n d : Nat) (e : Int) : Nat × Nat := (n * Nat.pow 2 (-e).toNat, d * Nat.pow 2 e.toNat)

def mantissaBits : Nat := 53

def leastExponent : Int := -1074

def Binary.nearest (n d : Nat) : Binary :=
  let guess : Int := (n.log2 : Int) - d.log2 - (mantissaBits - 1 : Nat)
  let (n', d') := shifted n d guess
  let e := max leastExponent (if n' / d' < Nat.pow 2 (mantissaBits - 1) then guess - 1 else guess)
  let (n', d') := shifted n d e
  let mantissa := roundHalfEven n' d'
  if mantissa = Nat.pow 2 mantissaBits then ⟨Nat.pow 2 (mantissaBits - 1), e + 1⟩
  else ⟨mantissa, e⟩

def Binary.fits (b : Binary) : Bool :=
  b.mantissa * Nat.pow 2 b.exponent.toNat < Nat.pow 2 1024 * Nat.pow 2 (-b.exponent).toNat

def scaled (n : Nat) (k : Int) : Nat × Nat := (n * Nat.pow 10 k.toNat, Nat.pow 10 (-k).toNat)

/-- Whether `n * 10 ^ k` is nearer to the number than to its neighbours. A half way mark belongs to
the number with the even mantissa, and below a power of two the neighbour is half as far away. -/
def Binary.reads (b : Binary) (n : Nat) (k : Int) : Bool :=
  let (num, den) := scaled n k
  let (num, den) := shifted num den (b.exponent - 2)
  let narrow := b.mantissa == Nat.pow 2 (mantissaBits - 1) && leastExponent < b.exponent
  let low := (4 * b.mantissa - (if narrow then 1 else 2)) * den
  let high := (4 * b.mantissa + 2) * den
  if b.mantissa % 2 == 0 then low ≤ num && num ≤ high else low < num && num < high

inductive Tie where
  | up
  | even
  deriving DecidableEq, Repr

/-- The nearer of the two multiples of `10 ^ k` around the number, if one reads as the number. -/
def Binary.onGrid (b : Binary) (tie : Tie) (k : Int) : Option Nat :=
  let (num, den) := shifted b.mantissa 1 (-b.exponent)
  let (num, den) := (num * Nat.pow 10 (-k).toNat, den * Nat.pow 10 k.toNat)
  let below := num / den
  let low := 2 * (num % den) < den || (2 * (num % den) == den && tie == .even && below % 2 == 0)
  let nearer := if low then below else below + 1
  let other := if nearer = below then below + 1 else below
  if b.reads nearer k then some nearer else if b.reads other k then some other else none

def Binary.shortestFrom (b : Binary) (tie : Tie) : (grids : Nat) → (k : Int) → Nat × Int
  | 0, k => ((b.onGrid tie k).getD 0, k)
  | grids + 1, k => match b.onGrid tie k with
    | some n => (n, k)
    | none => b.shortestFrom tie grids (k - 1)

/-- Digits `n` and a power `k` of ten with the number `n * 10 ^ k`. No number has more than 309
digits before its point, and none needs more than 340 after it. -/
def Binary.shortest (b : Binary) (tie : Tie) : Nat × Int :=
  let top : Int := (b.mantissa.log2 : Int) + b.exponent
  b.shortestFrom tie 700 (if top < 0 then top / 4 + 1 else top / 3 + 2)

def digitsOf : (count : Nat) → Nat → List (Fin 10)
  | 0, _ => []
  | count + 1, n => Fin.ofNat 10 (n / Nat.pow 10 count) :: digitsOf count (n % Nat.pow 10 count)

def trimZeros (digits : List (Fin 10)) : List (Fin 10) :=
  match (digits.reverse.dropWhile (· == zeroDigit)).reverse with
  | [] => [zeroDigit]
  | digits => digits

def ofScaled (negative : Bool) (n : Nat) (k : Int) : Decimal :=
  let places := (-k).toNat
  let unit := Nat.pow 10 places
  ⟨negative, n * Nat.pow 10 k.toNat / unit, trimZeros (digitsOf places (n % unit))⟩

def Binary.decimal (b : Binary) (tie : Tie) (negative : Bool) : Decimal :=
  if b.mantissa = 0 then ⟨negative, 0, [zeroDigit]⟩
  else
    let (n, k) := b.shortest tie
    ofScaled negative n k

def Binary.fitting? (b : Binary) (negative : Bool) : Option Decimal :=
  if b.fits then some (b.decimal .even negative) else none

/-- The number with these digits before and after the point, times a power of ten, as it fits in 64
bits; none if it is too large. -/
def nearest? (negative : Bool) (whole fraction : List Char) (exponent : Int) : Option Decimal :=
  let n := Nat.ofDigitChars 10 (whole ++ fraction) 0
  let k := exponent - fraction.length
  let size := (Nat.toDigits 10 n).length + k
  if n = 0 ∨ size < -330 then some ⟨negative, 0, [zeroDigit]⟩
  else if 310 < size then none
  else
    let (num, den) := scaled n k
    (Binary.nearest num den).fitting? negative

/-- The number that fits in 64 bits, with the larger one of two equally near decimals. -/
def withTiesUp (d : Decimal) : Decimal :=
  let places := d.fraction.length
  let n := d.fraction.foldl (fun n digit => n * 10 + digit.val) d.whole
  (Binary.nearest n (Nat.pow 10 places)).decimal .up d.negative

end Faultline.Decimal
