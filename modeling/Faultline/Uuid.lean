import Faultline.Text.Ascii
import Faultline.Text.Blank

/-! Identifiers of 32 hexadecimal digits, and their two written forms. -/

namespace Faultline

structure Uuid where
  digits : Vector (Fin 16) 32
  deriving DecidableEq

namespace Uuid

def hexChars (id : Uuid) : List Char := id.digits.toList.map Text.hexDigit

def hex (id : Uuid) : String := .ofList id.hexChars

def hyphenated (id : Uuid) : String :=
  let cs := id.hexChars
  .ofList (cs.take 8 ++ '-' :: (cs.drop 8).take 4 ++ '-' :: (cs.drop 12).take 4 ++
    '-' :: (cs.drop 16).take 4 ++ '-' :: cs.drop 20)

theorem isSpace_hexDigit (n : Fin 16) : Text.isSpace (Text.hexDigit n) = false := by
  revert n; decide

theorem length_hexChars (id : Uuid) : id.hexChars.length = 32 := by simp [hexChars]

theorem isBlank_hex (id : Uuid) : Text.isBlank id.hex = false := by
  have length := id.length_hexChars
  match shape : id.hexChars with
  | [] => simp [shape] at length
  | c :: rest =>
    have mem : c ∈ id.hexChars := by simp [shape]
    obtain ⟨n, -, rfl⟩ := List.mem_map.1 mem
    simp [Text.isBlank, hex, shape, isSpace_hexDigit]

end Uuid
end Faultline
