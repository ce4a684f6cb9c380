import Mathlib.Logic.Function.Iterate
import Faultline.Proofs.Telemetry.Normalize

/-!
The normal form of texts: breaks of one kind, no line twice in a row and no white space at the end.
Main statement: when normalization gives this form in one pass and when it does not, and that it
does so if it is repeated.
-/

namespace Faultline.Telemetry
open Text

structure IsNormal (s : String) : Prop where
  oneBreak : ¬crlf <:+: s.toList
  distinct : (s.toList.splitOn '\n').IsChain (· ≠ ·)
  trimmed : ∀ c ∈ s.toList.getLast?, isSpace c = false

variable {s : String}

theorem normalize_of_isNormal (normal : IsNormal s) : normalize s = s := by
  rw [normalize, unifyBreaks_eq_self_iff.2 normal.oneBreak, splitOn_eq, joinDistinct_none,
    List.destutter_of_isChain _ _ normal.distinct, joinLines_splitOn,
    trimEnd_eq_self_iff.2 normal.trimmed, String.ofList_toList]

variable (s)

theorem normalize_sublists :
    (normalize s).toList.Sublist (joinLines ((linesOf s).destutter (· ≠ ·))) ∧
      (joinLines ((linesOf s).destutter (· ≠ ·))).Sublist (unifyBreaks s.toList) := by
  constructor
  · rw [normalize, String.toList_ofList, splitOn_eq, joinDistinct_none]
    exact (List.rdropWhile_prefix _ _).sublist
  · have joined := joinLines_sublist (List.destutter_sublist (· ≠ ·) (linesOf s))
    rwa [linesOf, joinLines_splitOn] at joined

theorem normalize_sublist : (normalize s).toList.Sublist s.toList :=
  (normalize_sublists s).1.trans ((normalize_sublists s).2.trans (unifyBreaks_sublist _))

theorem trimmed_normalize : ∀ c ∈ (normalize s).toList.getLast?, isSpace c = false := by
  rw [← trimEnd_eq_self_iff, normalize, String.toList_ofList, trimEnd_idem]

variable {s}

theorem isBlank_normalize (mark : isBlank s = false) : isBlank (normalize s) = false := by
  have nonempty : (normalize s).toList ≠ [] := by
    rw [Ne, String.toList_eq_nil_iff, normalize_eq_empty_iff, mark]
    exact Bool.false_ne_true
  have visible := isBlank_of_trimEnd (trimEnd_eq_self_iff.2 (trimmed_normalize s)) nonempty
  rwa [String.ofList_toList] at visible

/-- The texts in normal form are those that normalization leaves as they are. -/
theorem normalize_eq_self_iff : normalize s = s ↔ IsNormal s := by
  refine ⟨fun same => ?_, normalize_of_isNormal⟩
  obtain ⟨trimmed, joined⟩ := normalize_sublists s
  rw [same] at trimmed
  -- nothing was taken away, so each step kept all it was given
  have unified : unifyBreaks s.toList = s.toList :=
    (unifyBreaks_sublist _).antisymm (trimmed.trans joined)
  have whole : joinLines ((linesOf s).destutter (· ≠ ·)) = joinLines (linesOf s) := by
    rw [linesOf, joinLines_splitOn]
    refine joined.antisymm ?_
    rw [unified]
    exact trimmed
  have distinct : (linesOf s).destutter (· ≠ ·) = linesOf s := by
    have split := congrArg (List.splitOn '\n') whole
    rwa [splitOn_joinLines_destutter, linesOf, joinLines_splitOn] at split
  refine ⟨unifyBreaks_eq_self_iff.1 unified, ?_, ?_⟩
  · rw [linesOf, unified] at distinct
    exact (List.destutter_eq_self_iff _ _).1 distinct
  · rw [← same]
    exact trimmed_normalize s

variable (s)

/-- A break of two characters is left where a line before others ends in a carriage return. -/
theorem crlf_infix_normalize_iff : crlf <:+: (normalize s).toList ↔
    ∃ line ∈ (keptLines s).dropLast, line.getLast? = some '\r' := by
  have earlier : ((keptLines s).modifyLast trimEnd).dropLast = (keptLines s).dropLast := by
    rcases List.eq_nil_or_concat' (keptLines s) with none | ⟨earlier, last, kept⟩
    · rw [none]
      rfl
    · rw [kept, List.modifyLast_concat, List.dropLast_concat, List.dropLast_concat]
  rw [toList_normalize, crlf_infix_joinLines_iff fun _ => not_mem_of_mem_modifyLast, earlier]

theorem distinct_keptLines : (keptLines s).IsChain (· ≠ ·) := by
  obtain ⟨blank, whole⟩ := List.rdropWhile_prefix (·.all isSpace) ((linesOf s).destutter (· ≠ ·))
  have distinct := (linesOf s).isChain_destutter (· ≠ ·)
  rw [← whole] at distinct
  exact distinct.left_of_append

/-- A line is left twice in a row where the last one differs from the one before in white space at
its end only. -/
theorem repeats_normalize_iff : ¬((normalize s).toList.splitOn '\n').IsChain (· ≠ ·) ↔
    ∃ earlier last, keptLines s = earlier ++ [last] ∧ earlier.getLast? = some (trimEnd last) := by
  rcases List.eq_nil_or_concat' (keptLines s) with none | ⟨earlier, last, kept⟩
  · have alone : (normalize s).toList.splitOn '\n' = [[]] := by
      rw [toList_normalize, none]
      exact List.splitOn_nil _
    simp [alone, none]
  · have nonempty : keptLines s ≠ [] := by simp [kept]
    -- neighbours are distinct before the last line is trimmed
    have distinct := distinct_keptLines s
    rw [kept, List.isChain_append] at distinct
    rw [splitOn_normalize nonempty, kept, List.modifyLast_concat, List.isChain_append]
    constructor
    · intro repeats
      refine ⟨earlier, last, rfl, ?_⟩
      by_contra differs
      refine repeats ⟨distinct.1, List.isChain_singleton _, ?_⟩
      rintro line before other found rfl
      obtain rfl : trimEnd last = line := Option.some.inj found
      exact differs before
    · rintro ⟨others, line, split, before⟩ ⟨-, -, differs⟩
      obtain ⟨rfl, same⟩ := List.append_inj' split rfl
      obtain ⟨rfl, -⟩ := List.cons.inj same
      exact differs _ before _ rfl rfl

theorem exists_passes : ∃ passes ≤ s.length, IsNormal (normalize^[passes] s) := by
  induction size : s.length using Nat.strong_induction_on generalizing s with
  | _ size ih =>
    by_cases settled : normalize s = s
    · exact ⟨0, Nat.zero_le _, normalize_eq_self_iff.1 settled⟩
    · have shorter : (normalize s).length < s.length := by
        have kept := normalize_sublist s
        rw [← String.length_toList, ← String.length_toList]
        refine Nat.lt_of_le_of_ne kept.length_le fun same => settled ?_
        exact String.toList_inj.1 (kept.eq_of_length same)
      obtain ⟨passes, bound, normal⟩ := ih _ (size ▸ shorter) (normalize s) rfl
      exact ⟨passes + 1, by omega, normal⟩

/-- No pass leaves white space at the end. A break of two characters, or a line that equals the one
before, may be left in the ways that are told here, and exactly then another pass changes the text;
after some passes the normal form is reached. -/
theorem normal_form_of_passes :
    (∀ c ∈ (normalize s).toList.getLast?, isSpace c = false) ∧
      (crlf <:+: (normalize s).toList ↔
        ∃ line ∈ (keptLines s).dropLast, line.getLast? = some '\r') ∧
      (¬((normalize s).toList.splitOn '\n').IsChain (· ≠ ·) ↔
        ∃ earlier last, keptLines s = earlier ++ [last] ∧
          earlier.getLast? = some (trimEnd last)) ∧
      (normalize (normalize s) = normalize s ↔ IsNormal (normalize s)) ∧
      ∃ passes ≤ s.length, IsNormal (normalize^[passes] s) :=
  ⟨trimmed_normalize s, crlf_infix_normalize_iff s, repeats_normalize_iff s, normalize_eq_self_iff,
    exists_passes s⟩

/-- The break is left of two carriage returns, and the last line loses its blank only after it was
told apart from the one before. -/
theorem normalize_leaves_break_and_repeat :
    normalize "gone\r\r\nretry\nretry " = "gone\r\nretry\nretry" ∧
      normalize "gone\r\nretry\nretry" = "gone\nretry" ∧
      ¬IsNormal (normalize "gone\r\r\nretry\nretry ") := by
  have first : normalize "gone\r\r\nretry\nretry " = "gone\r\nretry\nretry" := by decide +kernel
  have second : normalize "gone\r\nretry\nretry" = "gone\nretry" := by decide +kernel
  refine ⟨first, second, fun normal => ?_⟩
  have settled := normalize_of_isNormal normal
  rw [first, second] at settled
  exact absurd settled (by decide +kernel)

end Faultline.Telemetry
