import Mathlib.Data.List.DropRight
import Faultline.Text.Blank

/-! Trimming, in terms of the library's `List.rdropWhile`, and blank texts. -/

namespace Faultline.Text

theorem isBlank_append (s t : String) : isBlank (s ++ t) = (isBlank s && isBlank t) := by
  unfold isBlank
  rw [String.toList_append, List.all_append]

theorem nonBlank_eq_some_iff {given : Option String} {text : String} :
    nonBlank given = some text ↔ given = some text ∧ isBlank text = false := by
  rw [nonBlank, Option.filter_eq_some_iff, Bool.not_eq_true']

variable {cs : List Char}

theorem trimChars_map {f : Char → Char} (spaces : ∀ c, isSpace (f c) = isSpace c)
    (cs : List Char) : trimChars (cs.map f) = (trimChars cs).map f := by
  have same : isSpace ∘ f = isSpace := funext spaces
  simp only [trimChars, trimEnd, List.dropWhile_map, ← List.map_reverse, same]

theorem trimEnd_eq_rdropWhile (cs : List Char) : trimEnd cs = cs.rdropWhile isSpace := rfl

theorem trimEnd_idem (cs : List Char) : trimEnd (trimEnd cs) = trimEnd cs := by
  simp only [trimEnd_eq_rdropWhile]
  exact List.rdropWhile_idempotent isSpace cs

theorem trimEnd_eq_self_iff : trimEnd cs = cs ↔ ∀ c ∈ cs.getLast?, isSpace c = false := by
  rw [trimEnd_eq_rdropWhile, List.rdropWhile_eq_self_iff]
  constructor
  · rintro trimmed c last
    obtain ⟨nonempty, rfl⟩ := List.mem_getLast?_eq_getLast last
    exact (Bool.not_eq_true _).mp (trimmed nonempty)
  · intro visible nonempty
    rw [visible _ (List.getLast_mem_getLast? nonempty)]
    exact Bool.false_ne_true

theorem mem_of_mem_trimEnd {c : Char} (member : c ∈ trimEnd cs) : c ∈ cs := by
  rw [trimEnd_eq_rdropWhile] at member
  exact (List.rdropWhile_prefix isSpace cs).subset member

theorem mem_of_mem_trimChars {c : Char} (member : c ∈ trimChars cs) : c ∈ cs :=
  (List.dropWhile_suffix isSpace).subset (mem_of_mem_trimEnd member)

theorem trimEnd_of_visible (visible : ∀ c ∈ cs, isSpace c = false) : trimEnd cs = cs := by
  rw [trimEnd_eq_rdropWhile, List.rdropWhile_eq_self_iff]
  intro nonempty
  rw [visible _ (List.getLast_mem nonempty)]
  exact Bool.false_ne_true

theorem rdropWhile_append_of_all {α : Type} {p : α → Bool} {after : List α}
    (every : after.all p = true) (before : List α) :
    (before ++ after).rdropWhile p = before.rdropWhile p := by
  have dropped : after.reverse.dropWhile p = [] := by
    simpa [List.dropWhile_eq_nil_iff] using every
  rw [List.rdropWhile, List.reverse_append, List.dropWhile_append, dropped]
  rfl

theorem trimEnd_append_of_blank {blank : List Char} (spaces : blank.all isSpace = true) :
    trimEnd (cs ++ blank) = trimEnd cs :=
  rdropWhile_append_of_all spaces cs

theorem exists_trimEnd_append (cs : List Char) :
    ∃ spaces, spaces.all isSpace = true ∧ trimEnd cs ++ spaces = cs :=
  ⟨cs.rtakeWhile isSpace, List.all_eq_true.2 fun _ => List.mem_rtakeWhile_imp,
    List.rdropWhile_append_rtakeWhile⟩

theorem trimChars_of_visible (visible : ∀ c ∈ cs, isSpace c = false) : trimChars cs = cs := by
  have kept : cs.dropWhile isSpace = cs := by
    rw [List.dropWhile_eq_self_iff]
    intro nonempty
    rw [visible _ (List.getElem_mem nonempty)]
    exact Bool.false_ne_true
  rw [trimChars, kept, trimEnd_of_visible visible]

theorem trimChars_eq_nil_iff : trimChars cs = [] ↔ cs.all isSpace = true := by
  rw [trimChars, trimEnd_eq_rdropWhile, List.rdropWhile_eq_nil_iff, List.all_eq_true]
  constructor
  · intro blank
    by_contra mark
    have kept : cs.dropWhile isSpace ≠ [] := by simpa [List.dropWhile_eq_nil_iff] using mark
    -- what is kept starts with a character that is no white space
    have first := List.head_dropWhile_not isSpace kept
    rw [blank _ (List.head_mem kept)] at first
    cases first
  · exact fun blank c member => blank c ((List.dropWhile_suffix isSpace).subset member)

theorem trimChars_idem (cs : List Char) : trimChars (trimChars cs) = trimChars cs := by
  have kept : (trimChars cs).dropWhile isSpace = trimChars cs := by
    rw [List.dropWhile_eq_self_iff]
    intro nonempty
    -- the first character is the first one that was not dropped
    have start : trimChars cs <+: cs.dropWhile isSpace := List.rdropWhile_prefix isSpace _
    rw [start.getElem nonempty]
    exact List.dropWhile_get_zero_not isSpace cs (nonempty.trans_le start.length_le)
  rw [trimChars, kept, trimChars, trimEnd_idem]

theorem rdropWhile_append_of_not_all {α : Type} {p : α → Bool} {after : List α}
    (mark : ¬after.all p = true) (before : List α) :
    (before ++ after).rdropWhile p = before ++ after.rdropWhile p := by
  have kept : ¬(after.reverse.dropWhile p).isEmpty = true := by
    simpa [List.dropWhile_eq_nil_iff] using mark
  rw [List.rdropWhile, List.reverse_append, List.dropWhile_append, if_neg kept,
    List.reverse_append, List.reverse_reverse]
  rfl

theorem trimEnd_append_of_not_blank {visible : List Char} (mark : ¬visible.all isSpace = true) :
    trimEnd (cs ++ visible) = cs ++ trimEnd visible :=
  rdropWhile_append_of_not_all mark cs

theorem exists_trimEnd_append_cons {c : Char} (visible : isSpace c = false)
    (before after : List Char) : ∃ rest, trimEnd (before ++ c :: after) = before ++ c :: rest := by
  have single : trimEnd [c] = [c] := trimEnd_of_visible (List.forall_mem_singleton.2 visible)
  rw [trimEnd_append_of_not_blank (by simp [visible])]
  by_cases blank : after.all isSpace = true
  · exact ⟨[], by rw [← List.singleton_append, trimEnd_append_of_blank blank, single]⟩
  · exact ⟨trimEnd after, by rw [← List.singleton_append, trimEnd_append_of_not_blank blank]; rfl⟩

theorem isBlank_of_trimEnd (trimmed : trimEnd cs = cs) (nonempty : cs ≠ []) :
    isBlank (.ofList cs) = false := by
  rw [trimEnd_eq_rdropWhile, List.rdropWhile_eq_self_iff] at trimmed
  unfold isBlank
  rw [String.toList_ofList, List.all_eq_false]
  exact ⟨cs.getLast nonempty, List.getLast_mem nonempty, trimmed nonempty⟩

end Faultline.Text
