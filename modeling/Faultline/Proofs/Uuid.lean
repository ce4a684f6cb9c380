import Mathlib.Data.List.Basic
import Faultline.Uuid

/-! Either written form of an identifier tells which one it is. -/

namespace Faultline

theorem Text.hexDigit_injective : Function.Injective hexDigit := by
  have few : ∀ m n : Fin 16, hexDigit m = hexDigit n → m = n := by decide
  exact fun m n => few m n

namespace Uuid

theorem hexChars_injective : Function.Injective hexChars := by
  intro a b same
  have digits := List.map_injective_iff.2 Text.hexDigit_injective same
  exact congrArg Uuid.mk (Vector.toList_inj.1 digits)

theorem hex_injective : Function.Injective hex := by
  intro a b same
  exact hexChars_injective (String.ofList_injective same)

theorem mem_hexChars {id : Uuid} {c : Char} (member : c ∈ id.hexChars) : c ≠ '-' ∧ c ≠ 'r' := by
  have few : ∀ n : Fin 16, Text.hexDigit n ≠ '-' ∧ Text.hexDigit n ≠ 'r' := by decide
  obtain ⟨n, -, rfl⟩ := List.mem_map.1 member
  exact few n

theorem filter_hyphenated (id : Uuid) : id.hyphenated.toList.filter (· != '-') = id.hexChars := by
  have digits {cs : List Char} (part : cs ⊆ id.hexChars) : cs.filter (· != '-') = cs := by
    rw [List.filter_eq_self]
    intro c member
    simpa using (mem_hexChars (part member)).1
  have inner (n m : Nat) : (id.hexChars.drop n).take m ⊆ id.hexChars :=
    fun _ member => List.drop_subset n _ (List.take_subset m _ member)
  have rejoin (n m : Nat) : (id.hexChars.drop n).take m ++ id.hexChars.drop (n + m) =
      id.hexChars.drop n := by
    rw [← List.drop_drop]
    exact List.take_append_drop m _
  unfold hyphenated
  simp only [String.toList_ofList, List.filter_append, List.filter_cons, bne_self_eq_false,
    Bool.false_eq_true, if_false, digits (inner _ _), digits (List.take_subset 8 _),
    digits (List.drop_subset 20 _), List.append_assoc]
  rw [rejoin 16 4, rejoin 12 4, rejoin 8 4]
  exact List.take_append_drop 8 _

theorem hyphenated_injective : Function.Injective hyphenated := by
  intro a b same
  apply hexChars_injective
  rw [← filter_hyphenated a, ← filter_hyphenated b, same]

theorem not_mem_hyphenated (id : Uuid) : 'r' ∉ id.hyphenated.toList := by
  intro member
  have kept : 'r' ∈ id.hyphenated.toList.filter (· != '-') := List.mem_filter.2 ⟨member, rfl⟩
  rw [filter_hyphenated] at kept
  exact (mem_hexChars kept).2 rfl

end Uuid
end Faultline
