import Faultline.Http.Headers
import Faultline.Proofs.Telemetry.Normalize
import Faultline.Proofs.Text.Trim
import Faultline.Uuid

/-!
Plain texts: not blank, without white space at the end, and all of visible ASCII, blanks and tabs.
Header values and span attributes hold them as they are.
-/

namespace Faultline.Text

structure IsPlain (s : String) : Prop where
  nonempty : s.toList ≠ []
  trimmed : trimEnd s.toList = s.toList
  readable : ∀ c ∈ s.toList, Headers.isReadableChar c = true

namespace IsPlain

variable {s : String}

theorem isBlank (plain : IsPlain s) : Text.isBlank s = false := by
  have blank := isBlank_of_trimEnd plain.trimmed plain.nonempty
  rwa [String.ofList_toList] at blank

theorem isLegalValue (plain : IsPlain s) : Headers.isLegalValue s = true := by
  unfold Headers.isLegalValue
  rw [List.all_eq_true]
  intro c member
  have readable := plain.readable c member
  simp only [Headers.isReadableChar, Headers.isLegalChar, Bool.or_eq_true, Bool.and_eq_true,
    beq_iff_eq, bne_iff_ne, decide_eq_true_eq] at readable ⊢
  rcases readable with tab | ⟨low, high⟩
  · exact .inl tab
  · exact .inr ⟨low, by omega⟩

end IsPlain

theorem isPlain_ofList {cs : List Char} (nonempty : cs ≠ [])
    (visible : ∀ c ∈ cs, Headers.isReadableChar c = true ∧ isSpace c = false) :
    IsPlain (.ofList cs) := by
  have trimmed := trimEnd_of_visible fun c member => (visible c member).2
  rw [← String.toList_ofList (l := cs)] at nonempty trimmed
  refine ⟨nonempty, trimmed, fun c member => ?_⟩
  rw [String.toList_ofList] at member
  exact (visible c member).1

theorem isReadableChar_ne_break {c : Char} (readable : Headers.isReadableChar c = true) :
    c ≠ '\r' ∧ c ≠ '\n' := by
  constructor <;> (rintro rfl; revert readable; decide)

theorem IsPlain.normalize_append {s : String} (plain : IsPlain s) {t : String}
    (blank : Text.isBlank t = true) : Telemetry.normalize (s ++ t) = s := by
  have returns : '\r' ∉ s.toList := fun member =>
    (isReadableChar_ne_break (plain.readable _ member)).1 rfl
  have feeds : '\n' ∉ s.toList := fun member =>
    (isReadableChar_ne_break (plain.readable _ member)).2 rfl
  have lines : ∀ line ∈ splitOn '\n' (unifyBreaks t.toList), line.all isSpace = true := by
    rw [← List.all_eq_true, ← all_isSpace_joinLines, splitOn_eq, joinLines_splitOn,
      all_isSpace_unifyBreaks]
    exact blank
  rw [Telemetry.normalize, String.toList_append, unifyBreaks_append_of_not_mem returns,
    splitOn_append_of_not_mem feeds]
  cases split : splitOn '\n' (unifyBreaks t.toList) with
  | nil => exact absurd split (by rw [splitOn_eq]; exact List.splitOn_ne_nil _ _)
  | cons first rest =>
    rw [split, List.forall_mem_cons] at lines
    have spaces (previous : Option (List Char)) :
        (first ++ Telemetry.joinDistinct previous rest).all isSpace = true := by
      rw [List.all_append, lines.1, Telemetry.all_isSpace_joinDistinct previous lines.2]
      rfl
    rw [List.modifyHead_cons, Telemetry.joinDistinct, List.append_assoc,
      trimEnd_append_of_blank (spaces _), plain.trimmed, String.ofList_toList]

theorem IsPlain.normalize {s : String} (plain : IsPlain s) : Telemetry.normalize s = s := by
  simpa using plain.normalize_append (t := "") rfl

theorem visible_hexDigit (n : Fin 16) :
    Headers.isReadableChar (hexDigit n) = true ∧ isSpace (hexDigit n) = false := by
  revert n
  decide

end Faultline.Text

namespace Faultline.Uuid

theorem isLowerHex_hexChars (id : Uuid) : ∀ c ∈ id.hexChars, c ∈ "0123456789abcdef".toList := by
  have listed : ∀ n : Fin 16, Text.hexDigit n ∈ "0123456789abcdef".toList := by decide
  intro c member
  obtain ⟨n, -, rfl⟩ := List.mem_map.1 member
  exact listed n

theorem visible_hexChars (id : Uuid) :
    ∀ c ∈ id.hexChars, Headers.isReadableChar c = true ∧ Text.isSpace c = false := by
  intro c member
  obtain ⟨n, -, rfl⟩ := List.mem_map.1 member
  exact Text.visible_hexDigit n

theorem isPlain_hex (id : Uuid) : Text.IsPlain id.hex := by
  refine Text.isPlain_ofList ?_ id.visible_hexChars
  have length := id.length_hexChars
  intro empty
  rw [empty] at length
  cases length

end Faultline.Uuid
