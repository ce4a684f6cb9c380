import Mathlib.Data.String.Basic
import Mathlib.Tactic.SplitIfs

/-!
Texts as bytes in UTF-8. Main statement: a text that comes first by its characters comes first by
its bytes, too.
-/

namespace Faultline.Text

def bytes (s : String) : List UInt8 := s.toUTF8.toList

theorem toList_loop (bytes : ByteArray) (position : Nat) (seen : List UInt8) :
    ByteArray.toList.loop bytes position seen =
      seen.reverse ++ bytes.data.toList.drop position := by
  have size : bytes.data.toList.length = bytes.size := Array.length_toList
  induction remaining : bytes.size - position generalizing position seen with
  | zero =>
    have done : ¬position < bytes.size := by omega
    rw [ByteArray.toList.loop.eq_def, if_neg done, List.drop_of_length_le (by omega),
      List.append_nil]
  | succ n ih =>
    have more : position < bytes.size := by omega
    have next : bytes.get! position = bytes.data.toList[position] := by
      simp [ByteArray.get!, more]
    rw [ByteArray.toList.loop.eq_def, if_pos more, ih _ _ (by omega), next, List.reverse_cons,
      List.append_assoc, List.singleton_append, List.getElem_cons_drop]

theorem bytes_eq (s : String) : bytes s = s.toList.flatMap String.utf8EncodeChar := by
  have encoded : s.toByteArray = (s.toList.flatMap String.utf8EncodeChar).toByteArray := by
    conv_lhs => rw [← String.ofList_toList (s := s), String.toByteArray_ofList]
    rfl
  rw [bytes, String.toUTF8_eq_toByteArray, encoded, ByteArray.toList, toList_loop, List.reverse_nil,
    List.nil_append, List.drop_zero, List.toList_data_toByteArray]

theorem bytes_eq_nil_iff {s : String} : bytes s = [] ↔ s = "" := by
  simp only [bytes_eq, List.flatMap_eq_nil_iff, String.utf8EncodeChar_ne_nil, imp_false,
    ← List.eq_nil_iff_forall_not_mem, String.toList_eq_nil_iff]

theorem ofNat_cons_lt {m n : Nat} {first second : List UInt8} (bound : n < UInt8.size) (le : m ≤ n)
    (later : m = n → first < second) : UInt8.ofNat m :: first < UInt8.ofNat n :: second := by
  rw [List.cons_lt_cons_iff]
  rcases Nat.lt_or_eq_of_le le with less | rfl
  · left
    rw [UInt8.lt_iff_toNat_lt, UInt8.toNat_ofNat_of_lt' (by omega), UInt8.toNat_ofNat_of_lt' bound]
    exact less
  · exact .inr ⟨rfl, later rfl⟩

theorem utf8EncodeChar_lt {c d : Char} (less : c < d) (first second : List UInt8) :
    String.utf8EncodeChar c ++ first < String.utf8EncodeChar d ++ second := by
  have before : c.val.toNat < d.val.toNat := less
  have bound : d.val.toNat < 0x110000 := by
    rcases d.valid with low | ⟨-, high⟩
    · omega
    · exact high
  have size : UInt8.size = 256 := rfl
  -- each byte but the first holds six bits, so the bytes are digits to the base 64
  have digits (k : Nat) : k / 4096 = k / 64 / 64 ∧ k / 262144 = k / 64 / 64 / 64 := by omega
  unfold String.utf8EncodeChar
  dsimp only
  generalize c.val.toNat = m at before
  generalize d.val.toNat = n at before bound
  simp only [(digits _).1, (digits _).2]
  split_ifs
  -- characters of one byte, or of different numbers of bytes, differ in the first
  all_goals
    refine ofNat_cons_lt (by omega) (by omega) fun _ => ?_
    try omega
  · refine ofNat_cons_lt (by omega) (by omega) fun _ => ?_
    omega
  · refine ofNat_cons_lt (by omega) (by omega) fun _ => ?_
    refine ofNat_cons_lt (by omega) (by omega) fun _ => ?_
    omega
  · refine ofNat_cons_lt (by omega) (by omega) fun _ => ?_
    refine ofNat_cons_lt (by omega) (by omega) fun _ => ?_
    refine ofNat_cons_lt (by omega) (by omega) fun _ => ?_
    omega

theorem flatMap_utf8EncodeChar_lt {first second : List Char} (less : first < second) :
    first.flatMap String.utf8EncodeChar < second.flatMap String.utf8EncodeChar := by
  replace less := (List.lt_iff_lex_lt first second).1 less
  induction less with
  | @nil c rest =>
    rw [List.flatMap_nil, List.flatMap_cons]
    cases encoded : String.utf8EncodeChar c with
    | nil => exact absurd encoded String.utf8EncodeChar_ne_nil
    | cons byte bytes => exact List.nil_lt_cons byte _
  | rel before =>
    rw [List.flatMap_cons, List.flatMap_cons]
    exact utf8EncodeChar_lt before _ _
  | cons _ ih =>
    rw [List.flatMap_cons, List.flatMap_cons]
    exact List.append_left_lt ih

theorem bytes_lt {s t : String} (less : s < t) : bytes s < bytes t := by
  rw [bytes_eq, bytes_eq]
  exact flatMap_utf8EncodeChar_lt (String.lt_iff.1 less)

end Faultline.Text
