/-! ASCII letters and hexadecimal digits. Other characters are left alone. -/

namespace Faultline.Text

def lowerChar (c : Char) : Char :=
  if 'A' ≤ c ∧ c ≤ 'Z' then .ofNat (c.toNat + 32) else c

def lowercase (s : String) : String := .ofList (s.toList.map lowerChar)

def sameIgnoringCase (s t : String) : Bool := s.toList.map lowerChar == t.toList.map lowerChar

def isHexDigit (c : Char) : Bool :=
  c.isDigit || ('a' ≤ c && c ≤ 'f') || ('A' ≤ c && c ≤ 'F')

def hexDigit (n : Fin 16) : Char :=
  if n.val < 10 then .ofNat (48 + n.val) else .ofNat (87 + n.val)

def hexValue? (c : Char) : Option Nat :=
  if c.isDigit then some (c.toNat - 48)
  else if 'a' ≤ c ∧ c ≤ 'f' then some (c.toNat - 87)
  else if 'A' ≤ c ∧ c ≤ 'F' then some (c.toNat - 55)
  else none

def digitValue? (c : Char) : Option (Fin 10) :=
  if h : '0' ≤ c ∧ c ≤ '9' then
    some ⟨c.toNat - 48, by
      have : c.toNat ≤ '9'.toNat := h.2
      have : '9'.toNat = 57 := rfl
      omega⟩
  else none

def decimalDigit (n : Fin 10) : Char := .ofNat (48 + n.val)

end Faultline.Text
