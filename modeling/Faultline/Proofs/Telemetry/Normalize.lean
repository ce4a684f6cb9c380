import Mathlib.Data.List.Destutter
import Faultline.Proofs.Text.Lines
import Faultline.Telemetry.Attributes

/-!
Normalized text, told by lines: of the lines of a text those that equal the one before and the blank
ones at the end are left out. Nothing is left of a blank text.
-/

namespace Faultline.Telemetry
open Text

def linesOf (s : String) : List (List Char) := (unifyBreaks s.toList).splitOn '\n'

/-- The lines that are left: of equal ones in a row the first, and no blank ones at the end. -/
def keptLines (s : String) : List (List Char) :=
  ((linesOf s).destutter (· ≠ ·)).rdropWhile (·.all isSpace)

theorem append_joinDistinct (previous : List Char) (lines : List (List Char)) :
    previous ++ joinDistinct (some previous) lines =
      joinLines (lines.destutter' (· ≠ ·) previous) := by
  induction lines generalizing previous with
  | nil => simp [joinDistinct]
  | cons line rest ih =>
    by_cases again : line = previous
    · subst again
      rw [List.destutter'_cons_neg rest (by simp), ← ih, joinDistinct, if_pos rfl]
    · rw [List.destutter'_cons_pos rest (Ne.symm again),
        joinLines_cons previous (List.destutter'_ne_nil rest _), ← ih, joinDistinct, if_neg again]
      rfl

theorem joinDistinct_none (lines : List (List Char)) :
    joinDistinct none lines = joinLines (lines.destutter (· ≠ ·)) := by
  cases lines with
  | nil => rfl
  | cons line rest => exact append_joinDistinct line rest

theorem toList_normalize (s : String) :
    (normalize s).toList = joinLines ((keptLines s).modifyLast trimEnd) := by
  rw [normalize, String.toList_ofList, splitOn_eq, joinDistinct_none, trimEnd_joinLines]
  rfl

variable {s : String}

theorem mem_linesOf_of_mem_keptLines {line : List Char} (member : line ∈ keptLines s) :
    line ∈ linesOf s := by
  have distinct : line ∈ (linesOf s).destutter (· ≠ ·) :=
    (List.rdropWhile_prefix _ _).subset member
  exact (List.destutter_sublist _ _).subset distinct

theorem not_mem_of_mem_modifyLast {line : List Char}
    (member : line ∈ (keptLines s).modifyLast trimEnd) : '\n' ∉ line := by
  have single {kept : List Char} (left : kept ∈ keptLines s) : '\n' ∉ kept :=
    not_mem_of_mem_splitOn (mem_linesOf_of_mem_keptLines left)
  rcases List.eq_nil_or_concat' (keptLines s) with none | ⟨earlier, last, kept⟩
  · rw [none] at member
    cases member
  · rw [kept] at single
    rw [kept, List.modifyLast_concat, List.mem_append, List.mem_singleton] at member
    rcases member with member | rfl
    · exact single (List.mem_append_left _ member)
    · exact fun feed => @single last (by simp) (mem_of_mem_trimEnd feed)

theorem splitOn_normalize (nonempty : keptLines s ≠ []) :
    (normalize s).toList.splitOn '\n' = (keptLines s).modifyLast trimEnd := by
  obtain ⟨earlier, last, kept⟩ := (List.eq_nil_or_concat' _).resolve_left nonempty
  have some : (keptLines s).modifyLast trimEnd ≠ [] := by
    rw [kept, List.modifyLast_concat]
    simp
  rw [toList_normalize, splitOn_joinLines (fun _ => not_mem_of_mem_modifyLast) some]

theorem mem_destutter'_iff {line first : List Char} {lines : List (List Char)} :
    line ∈ lines.destutter' (· ≠ ·) first ↔ line = first ∨ line ∈ lines := by
  induction lines generalizing first with
  | nil => simp
  | cons second rest ih =>
    by_cases again : first = second
    · subst again
      rw [List.destutter'_cons_neg rest (by simp), ih]
      simp
    · rw [List.destutter'_cons_pos rest again, List.mem_cons, ih, List.mem_cons]

theorem mem_destutter_iff {line : List Char} {lines : List (List Char)} :
    line ∈ lines.destutter (· ≠ ·) ↔ line ∈ lines := by
  cases lines with
  | nil => rfl
  | cons first rest => rw [List.destutter_cons', mem_destutter'_iff, List.mem_cons]

theorem all_blank_destutter (s : String) :
    ((linesOf s).destutter (· ≠ ·)).all (·.all isSpace) = isBlank s := by
  have same : ((linesOf s).destutter (· ≠ ·)).all (·.all isSpace) =
      (linesOf s).all (·.all isSpace) := by
    rw [Bool.eq_iff_iff, List.all_eq_true, List.all_eq_true]
    simp only [mem_destutter_iff]
  rw [same, ← all_isSpace_joinLines, linesOf, joinLines_splitOn, all_isSpace_unifyBreaks]
  rfl

theorem all_isSpace_joinDistinct (previous : Option (List Char)) {lines : List (List Char)}
    (blank : ∀ line ∈ lines, line.all isSpace = true) :
    (joinDistinct previous lines).all isSpace = true := by
  have space : isSpace '\n' = true := by decide
  induction lines generalizing previous with
  | nil => cases previous <;> rfl
  | cons line rest ih =>
    rw [List.forall_mem_cons] at blank
    cases previous with
    | none => simp [joinDistinct, blank.1, ih _ blank.2]
    | some previous =>
      rw [joinDistinct]
      split
      · exact ih _ blank.2
      · simp [space, blank.1, ih _ blank.2]

theorem keptLines_eq_nil_iff : keptLines s = [] ↔ isBlank s = true := by
  rw [← all_blank_destutter, List.all_eq_true]
  exact List.rdropWhile_eq_nil_iff

theorem normalize_eq_empty_iff : normalize s = "" ↔ isBlank s = true := by
  rw [← all_blank_destutter, ← all_isSpace_joinLines, List.all_eq_true, normalize, splitOn_eq,
    joinDistinct_none, ← String.toList_eq_nil_iff, String.toList_ofList]
  exact List.rdropWhile_eq_nil_iff

theorem splitOn_joinLines_destutter (s : String) :
    (joinLines ((linesOf s).destutter (· ≠ ·))).splitOn '\n' = (linesOf s).destutter (· ≠ ·) := by
  have nonempty : (linesOf s).destutter (· ≠ ·) ≠ [] :=
    mt (List.destutter_eq_nil _).1 (List.splitOn_ne_nil _ _)
  refine splitOn_joinLines (fun line member => ?_) nonempty
  exact not_mem_of_mem_splitOn ((List.destutter_sublist _ _).subset member)

/-! Text after a line break -/

theorem destutter'_suffix (line : List Char) (earlier lines : List (List Char)) :
    lines.destutter (· ≠ ·) <:+ (earlier ++ lines).destutter' (· ≠ ·) line := by
  induction earlier generalizing line with
  | nil =>
    cases lines with
    | nil => exact List.nil_suffix
    | cons first rest =>
      by_cases again : line = first
      · rw [again, List.nil_append, List.destutter'_cons_neg rest (by simp)]
        exact List.suffix_rfl
      · rw [List.nil_append, List.destutter'_cons_pos rest again]
        exact List.suffix_cons line _
  | cons second earlier ih =>
    by_cases again : line = second
    · rw [again, List.cons_append, List.destutter'_cons_neg _ (by simp)]
      exact ih second
    · rw [List.cons_append, List.destutter'_cons_pos _ again]
      exact (ih second).trans (List.suffix_cons line _)

theorem destutter_suffix (earlier lines : List (List Char)) :
    lines.destutter (· ≠ ·) <:+ (earlier ++ lines).destutter (· ≠ ·) := by
  cases earlier with
  | nil => exact List.suffix_rfl
  | cons line earlier => exact destutter'_suffix line earlier lines

theorem keptLines_suffix (mark : isBlank s = false) (before : String) :
    keptLines s <:+ keptLines (before ++ "\n" ++ s) := by
  obtain ⟨unified, joined⟩ := exists_unifyBreaks_append before.toList s.toList
  have lines : linesOf (before ++ "\n" ++ s) = unified.splitOn '\n' ++ linesOf s := by
    have split := List.splitOn_append_cons_self (a := '\n') unified (unifyBreaks s.toList)
    rw [← joined] at split
    simpa [linesOf] using split
  obtain ⟨earlier, whole⟩ := destutter_suffix (unified.splitOn '\n') (linesOf s)
  have visible : ¬((linesOf s).destutter (· ≠ ·)).all (·.all isSpace) = true := by
    rw [all_blank_destutter, mark]
    exact Bool.false_ne_true
  refine ⟨earlier, ?_⟩
  rw [keptLines, keptLines, lines, ← whole, rdropWhile_append_of_not_all visible]

theorem splitOn_normalize_suffix (mark : isBlank s = false) (before : String) :
    (normalize s).toList.splitOn '\n' <:+
      (normalize (before ++ "\n" ++ s)).toList.splitOn '\n' := by
  have nonempty : keptLines s ≠ [] := by
    rw [Ne, keptLines_eq_nil_iff, mark]
    exact Bool.false_ne_true
  obtain ⟨earlier, whole⟩ := keptLines_suffix mark before
  refine ⟨earlier, ?_⟩
  rw [splitOn_normalize nonempty, splitOn_normalize (by simp [← whole, nonempty]), ← whole,
    List.modifyLast_append_of_right_ne_nil _ _ _ nonempty]

end Faultline.Telemetry
