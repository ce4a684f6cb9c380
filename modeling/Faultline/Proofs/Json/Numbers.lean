import Mathlib.Algebra.Group.Int.Defs
import Mathlib.Data.List.Basic
import Mathlib.Data.List.TakeWhile
import Faultline.Json.Printer
import Faultline.Json.Reader

/-!
Reading a number to the end of its text. What follows in a collection does not change how the
number is read, and the numeral of an integer of 64 bits is read as that integer.
-/

namespace Faultline

theorem Text.head?_toDigits {n : Nat} (positive : 0 < n) :
    (Nat.toDigits 10 n).head? ≠ some '0' := by
  induction n using Nat.strongRecOn with
  | ind n ih =>
    by_cases small : n < 10
    · have table : ∀ k : Fin 10, 0 < k.val → some (Nat.digitChar k.val) ≠ some '0' := by decide
      rw [Nat.toDigits_of_lt_base small, List.head?_cons]
      exact table ⟨n, small⟩ positive
    · have nonempty : Nat.toDigits 10 (n / 10) ≠ [] := Nat.toDigits_ne_nil
      rw [Nat.toDigits_of_base_le (by decide) (by omega), List.head?_append_of_ne_nil _ nonempty]
      exact ih (n / 10) (by omega) (by omega)

namespace Json

/-- What may follow a value: the end, or what closes or continues a collection. -/
def Delimited (rest : List Char) : Prop := ∀ c ∈ rest.head?, c = ',' ∨ c = ']' ∨ c = '\x7d'

variable {rest : List Char}

theorem Delimited.not_digit (delimited : Delimited rest) :
    ∀ c ∈ rest.head?, c.isDigit = false := by
  intro c first
  rcases delimited c first with rfl | rfl | rfl <;> rfl

section
variable {p : Char → Bool} (stop : ∀ c ∈ rest.head?, p c = false)
include stop

theorem takeWhile_append_of_stop (cs : List Char) :
    (cs ++ rest).takeWhile p = cs.takeWhile p := by
  induction cs with
  | nil =>
    cases rest with
    | nil => rfl
    | cons c more => exact List.takeWhile_cons_of_neg (by simp [stop c rfl])
  | cons c cs ih =>
    rw [List.cons_append, List.takeWhile_cons, List.takeWhile_cons, ih]

theorem dropWhile_append_of_stop (cs : List Char) :
    (cs ++ rest).dropWhile p = cs.dropWhile p ++ rest := by
  induction cs with
  | nil =>
    cases rest with
    | nil => rfl
    | cons c more => exact List.dropWhile_cons_of_neg (by simp [stop c rfl])
  | cons c cs ih =>
    rw [List.cons_append, List.dropWhile_cons, List.dropWhile_cons, ih]
    split <;> rfl

end

def signed : List Char → Bool × List Char
  | '-' :: cs => (true, cs)
  | '+' :: cs => (false, cs)
  | cs => (false, cs)

def readPower (negative : Bool) (whole fraction : List Char) (minus : Bool) (cs : List Char) :
    Except Defect (Json × List Char) :=
  let digits := cs.takeWhile Char.isDigit
  let rest := cs.dropWhile Char.isDigit
  if digits.isEmpty then .error (missing rest)
  else
    let size : Int := Nat.ofDigitChars 10 digits 0
    match Decimal.stepwise? negative whole fraction (if minus then -size else size) with
    | some d => .ok (.decimal d, rest)
    | none => .error .malformed

variable {negative minus : Bool} {whole fraction cs left : List Char} {value : Json}

theorem readExponent_eq : readExponent negative whole fraction cs =
    readPower negative whole fraction (signed cs).1 (signed cs).2 := rfl

theorem signed_append (c : Char) : signed (c :: cs ++ rest) =
    ((signed (c :: cs)).1, (signed (c :: cs)).2 ++ rest) := by
  unfold signed
  split <;> split <;> simp_all

theorem readPower_append (delimited : Delimited rest)
    (read : readPower negative whole fraction minus cs = .ok (value, left)) :
    readPower negative whole fraction minus (cs ++ rest) = .ok (value, left ++ rest) := by
  unfold readPower at read ⊢
  rw [takeWhile_append_of_stop delimited.not_digit, dropWhile_append_of_stop delimited.not_digit]
  dsimp only at read ⊢
  split at read
  next => cases read
  next nonempty =>
    rw [if_neg nonempty]
    split at read
    next d found =>
      cases read
      rfl
    next => cases read

theorem readExponent_append (delimited : Delimited rest)
    (read : readExponent negative whole fraction cs = .ok (value, left)) :
    readExponent negative whole fraction (cs ++ rest) = .ok (value, left ++ rest) := by
  cases cs with
  | nil => cases read
  | cons c cs =>
    rw [readExponent_eq] at read ⊢
    rw [signed_append]
    exact readPower_append delimited read

theorem Delimited.append_ne_cons (delimited : Delimited rest) {c : Char}
    (free : ∀ before, cs = c :: before → False) (other : c ∉ [',', ']', '\x7d'])
    (more : List Char) : cs ++ rest ≠ c :: more := by
  intro same
  cases cs with
  | nil =>
    have first : c ∈ rest.head? := by
      rw [← List.nil_append rest, same]
      rfl
    exact other (by simpa using delimited c first)
  | cons d before =>
    cases same
    exact free before rfl

def readFraction (negative : Bool) (whole cs : List Char) : Except Defect (Json × List Char) :=
  let fraction := cs.takeWhile Char.isDigit
  let rest := cs.dropWhile Char.isDigit
  if fraction.isEmpty then .error (missing rest)
  else match rest with
    | 'e' :: cs | 'E' :: cs => readExponent negative whole fraction cs
    | rest => match Decimal.stepwise? negative whole fraction 0 with
      | some d => .ok (.decimal d, rest)
      | none => .error .malformed

theorem readFraction_append (delimited : Delimited rest)
    (read : readFraction negative whole cs = .ok (value, left)) :
    readFraction negative whole (cs ++ rest) = .ok (value, left ++ rest) := by
  unfold readFraction at read ⊢
  rw [takeWhile_append_of_stop delimited.not_digit, dropWhile_append_of_stop delimited.not_digit]
  dsimp only at read ⊢
  split at read
  next => cases read
  next nonempty =>
    rw [if_neg nonempty]
    split at read
    next lower =>
      rw [lower]
      exact readExponent_append delimited read
    next upper =>
      rw [upper]
      exact readExponent_append delimited read
    next noLower noUpper =>
      split
      next lower => exact absurd lower (delimited.append_ne_cons noLower (by decide) _)
      next upper => exact absurd upper (delimited.append_ne_cons noUpper (by decide) _)
      next =>
        split at read
        next => cases read; rfl
        next => cases read

theorem readUnsigned_append (delimited : Delimited rest)
    (read : readUnsigned negative cs = .ok (value, left)) :
    readUnsigned negative (cs ++ rest) = .ok (value, left ++ rest) := by
  unfold readUnsigned at read ⊢
  rw [takeWhile_append_of_stop delimited.not_digit, dropWhile_append_of_stop delimited.not_digit]
  dsimp only at read ⊢
  split at read
  next => cases read
  next nonempty =>
    rw [if_neg nonempty]
    split at read
    next => cases read
    next lead =>
      rw [if_neg lead]
      split at read
      next point =>
        rw [point]
        exact readFraction_append delimited read
      next lower =>
        rw [lower]
        exact readExponent_append delimited read
      next upper =>
        rw [upper]
        exact readExponent_append delimited read
      -- the number ends here, and what follows it does not go on with it
      next noPoint noLower noUpper =>
        split
        next point => exact absurd point (delimited.append_ne_cons noPoint (by decide) _)
        next lower => exact absurd lower (delimited.append_ne_cons noLower (by decide) _)
        next upper => exact absurd upper (delimited.append_ne_cons noUpper (by decide) _)
        next =>
          split at read
          next => cases read; rfl
          next => cases read

theorem readNumber_append (delimited : Delimited rest)
    (read : readNumber cs = .ok (value, left)) :
    readNumber (cs ++ rest) = .ok (value, left ++ rest) := by
  unfold readNumber at read ⊢
  split at read
  next => exact readUnsigned_append delimited read
  next noMinus =>
    split
    next minus => exact absurd minus (delimited.append_ne_cons noMinus (by decide) _)
    next => exact readUnsigned_append delimited read

theorem readUnsigned_toDigits {n : Nat}
    (made : ofInteger negative (Nat.toDigits 10 n) = some value) :
    readUnsigned negative (Nat.toDigits 10 n) = .ok (value, []) := by
  have digits : ∀ c ∈ Nat.toDigits 10 n, c.isDigit = true := fun _ digit =>
    Nat.isDigit_of_mem_toDigits (by decide) (by decide) digit
  have nonempty : ¬ (Nat.toDigits 10 n).isEmpty = true := by simp
  have lead : ¬ ((Nat.toDigits 10 n).head? = some '0' ∧ (Nat.toDigits 10 n).length ≠ 1) := by
    rintro ⟨zero, long⟩
    rcases Nat.eq_zero_or_pos n with rfl | positive
    · exact long rfl
    · exact Text.head?_toDigits positive zero
  unfold readUnsigned
  rw [List.takeWhile_eq_self_iff.2 digits, List.dropWhile_eq_nil_iff.2 digits]
  dsimp only
  rw [if_neg nonempty, if_neg lead, made]

theorem readNumber_integerChars {n : Int} (low : -2 ^ 63 ≤ n) (high : n < 2 ^ 64) :
    readNumber (Text.integerChars n) = .ok (.integer n, []) := by
  have signed : Nat.pow 2 63 = 2 ^ 63 := rfl
  have unsigned : Nat.pow 2 64 = 2 ^ 64 := rfl
  cases n with
  | ofNat n =>
    rw [Int.ofNat_eq_natCast] at high
    have made : ofInteger false (Nat.toDigits 10 n) = some (.integer n) := by
      rw [ofInteger, Nat.ofDigitChars_ten_toDigits, if_neg Bool.false_ne_true, if_pos (by omega)]
    have plain : readNumber (Nat.toDigits 10 n) = readUnsigned false (Nat.toDigits 10 n) := by
      unfold readNumber
      split
      next minus =>
        have digit : '-' ∈ Nat.toDigits 10 n → '-'.isDigit = true :=
          Nat.isDigit_of_mem_toDigits (by decide) (by decide)
        cases digit (minus ▸ List.mem_cons_self)
      next => rfl
    exact plain.trans (readUnsigned_toDigits made)
  | negSucc n =>
    have made : ofInteger true (Nat.toDigits 10 (n + 1)) = some (.integer (.negSucc n)) := by
      rw [ofInteger, Nat.ofDigitChars_ten_toDigits, if_pos rfl, if_pos (by omega)]
      rfl
    exact readUnsigned_toDigits made

end Json
end Faultline
