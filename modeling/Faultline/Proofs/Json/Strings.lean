import Faultline.Json.Printer
import Faultline.Json.Reader

/-!
Reading a string back from its text: each character is read from its escape, and so the whole.
-/

namespace Faultline

theorem Text.hexValue?_hexDigit : ∀ n : Fin 16, hexValue? (hexDigit n) = some n.val := by
  decide

namespace Json

theorem length_le_byteCount (cs : List Char) : min 4 cs.length ≤ byteCount cs := by
  have bytes (ds : List Char) (n : Nat) :
      n + ds.length ≤ ds.foldl (fun count c => count + c.utf8Size) n := by
    induction ds generalizing n with
    | nil => exact Nat.le_refl n
    | cons d ds ih =>
      have one := d.utf8Size_pos
      have later := ih (n + d.utf8Size)
      rw [List.foldl_cons, List.length_cons]
      omega
  have taken := bytes (cs.take 4) 0
  rwa [List.length_take, Nat.zero_add] at taken

variable {acc cs : List Char}

theorem readString_digit {high : Option Nat} {count value : Nat} {digit : Fin 16}
    (early : count < 3) (long : 4 ≤ count + (cs.length + 1)) :
    readString (.digits high count value) acc (Text.hexDigit digit :: cs) =
      readString (.digits high (count + 1) (value * 16 + digit)) acc cs := by
  have fits : ¬ count + byteCount (Text.hexDigit digit :: cs) < 4 := by
    have size := length_le_byteCount (Text.hexDigit digit :: cs)
    rw [List.length_cons] at size
    omega
  rw [readString, if_neg fits, Text.hexValue?_hexDigit]
  dsimp only
  rw [if_pos early]

theorem readString_lastDigit {value : Nat} {digit : Fin 16} (small : value * 16 + digit < 0xD800) :
    readString (.digits none 3 value) acc (Text.hexDigit digit :: cs) =
      readString .plain (.ofNat (value * 16 + digit) :: acc) cs := by
  have fits : ¬ 3 + byteCount (Text.hexDigit digit :: cs) < 4 := by
    have size := length_le_byteCount (Text.hexDigit digit :: cs)
    rw [List.length_cons] at size
    omega
  have low : ¬ isLowSurrogate (value * 16 + digit) = true := by
    simp only [isLowSurrogate, Bool.and_eq_true, decide_eq_true_eq]
    omega
  have high : ¬ isHighSurrogate (value * 16 + digit) = true := by
    simp only [isHighSurrogate, Bool.and_eq_true, decide_eq_true_eq]
    omega
  rw [readString, if_neg fits, Text.hexValue?_hexDigit]
  dsimp only
  rw [if_neg (by decide), if_neg low, if_neg high]

theorem readString_simpleEscape {letter c : Char} (known : simpleEscape? letter = some c) :
    readString .plain acc ('\\' :: letter :: cs) = readString .plain (c :: acc) cs := by
  have notU : letter ≠ 'u' := by
    rintro rfl
    cases known
  rw [readString, if_neg (by decide), if_pos rfl, readString, if_neg notU, known]

theorem readString_control {c : Char} (control : c.toNat < 32) :
    readString .plain acc
        ('\\' :: 'u' :: '0' :: '0' :: Text.hexDigit (.ofNat 16 (c.toNat / 16)) ::
          Text.hexDigit (.ofNat 16 c.toNat) :: cs) =
      readString .plain (c :: acc) cs := by
  have zero : '0' = Text.hexDigit 0 := rfl
  have code : (((0 * 16 + (0 : Fin 16)) * 16 + (0 : Fin 16)) * 16 +
      (Fin.ofNat 16 (c.toNat / 16)).val) * 16 + (Fin.ofNat 16 c.toNat).val = c.toNat := by
    simp only [Fin.ofNat]
    omega
  rw [readString, if_neg (by decide), if_pos rfl, readString, if_pos rfl, zero]
  iterate 3 rw [readString_digit (by decide) (by simp only [List.length_cons]; omega)]
  rw [readString_lastDigit (by omega), code, Char.ofNat_toNat]

theorem readString_escape (c : Char) :
    readString .plain acc (escape c ++ cs) = readString .plain (c :: acc) cs := by
  unfold escape
  iterate 7
    split
    next special =>
      subst special
      exact readString_simpleEscape rfl
  split
  next control => exact readString_control control
  next noQuote noBackslash _ _ _ _ _ printable =>
    show readString .plain acc (c :: cs) = _
    rw [readString, if_neg noQuote, if_neg noBackslash, if_neg printable]

theorem readString_flatMap (s rest : List Char) :
    readString .plain acc (s.flatMap escape ++ '"' :: rest) =
      .ok (.ofList (acc.reverse ++ s), rest) := by
  induction s generalizing acc with
  | nil => rw [List.append_nil]; rfl
  | cons c s ih =>
    rw [List.flatMap_cons, List.append_assoc, readString_escape, ih, List.reverse_cons,
      List.append_assoc]
    rfl

theorem stringText_append (s : String) (rest : List Char) :
    stringText s ++ rest = '"' :: (s.toList.flatMap escape ++ '"' :: rest) := by
  rw [stringText, List.cons_append, List.cons_append, List.append_assoc, List.singleton_append]

theorem readString_text (s : String) (rest : List Char) :
    readString .plain [] (s.toList.flatMap escape ++ '"' :: rest) = .ok (s, rest) := by
  rw [readString_flatMap, List.reverse_nil, List.nil_append, String.ofList_toList]

end Json
end Faultline
