import Mathlib.Data.List.DropRight
import Mathlib.Data.List.Infix
import Mathlib.Data.List.ModifyLast
import Faultline.Proofs.Text.Trim
import Faultline.Text.Lines

/-!
Line breaks and lines. A text is made of its lines, joined by line feeds; what unifying the breaks
changes and what is left of a carriage return before a break; and the end of lines that are joined,
without its white space.
-/

namespace Faultline.Text

theorem splitOn_eq (sep : Char) (cs : List Char) : splitOn sep cs = cs.splitOn sep := by
  induction cs with
  | nil => rfl
  | cons c rest ih =>
    rw [List.splitOn_cons_eq_if_modifyHead, splitOn, ih]
    by_cases found : c = sep
    · simp [found]
    · cases pieces : rest.splitOn sep with
      | nil => exact absurd pieces (List.splitOn_ne_nil sep rest)
      | cons piece pieces => simp [found]

theorem splitOn_append_of_not_mem {sep : Char} {before : List Char} (absent : sep ∉ before)
    (after : List Char) :
    splitOn sep (before ++ after) = (splitOn sep after).modifyHead (before ++ ·) := by
  rw [splitOn_eq, splitOn_eq]
  induction before with
  | nil => exact (congrFun List.modifyHead_id _).symm
  | cons c rest ih =>
    rw [List.mem_cons, not_or] at absent
    have other : ¬(c == sep) = true := by simpa using Ne.symm absent.1
    rw [List.cons_append, List.splitOn_cons_eq_if_modifyHead, if_neg other, ih absent.2,
      List.modifyHead_modifyHead]
    rfl

theorem splitOn_append_cons_of_not_mem {sep : Char} {before : List Char} (absent : sep ∉ before)
    (after : List Char) : splitOn sep (before ++ sep :: after) = before :: splitOn sep after := by
  rw [splitOn_append_of_not_mem absent, splitOn, if_pos rfl, List.modifyHead_cons, List.append_nil]

theorem not_mem_of_mem_splitOn {sep : Char} {cs piece : List Char}
    (member : piece ∈ cs.splitOn sep) : sep ∉ piece := by
  induction cs generalizing piece with
  | nil =>
    rw [List.splitOn_nil, List.mem_singleton] at member
    rw [member]
    exact List.not_mem_nil
  | cons c rest ih =>
    rw [List.splitOn_cons_eq_if_modifyHead] at member
    by_cases found : c = sep
    · simp only [found, beq_self_eq_true, if_true, List.mem_cons] at member
      rcases member with rfl | member
      · exact List.not_mem_nil
      · exact ih member
    · rw [if_neg (by simpa using found)] at member
      cases pieces : rest.splitOn sep with
      | nil => exact absurd pieces (List.splitOn_ne_nil sep rest)
      | cons first others =>
        rw [pieces] at ih member
        rw [List.modifyHead_cons, List.mem_cons] at member
        rcases member with rfl | member
        · rw [List.mem_cons, not_or]
          exact ⟨Ne.symm found, ih List.mem_cons_self⟩
        · exact ih (List.mem_cons_of_mem _ member)

def crlf : List Char := ['\r', '\n']

theorem unifyBreaks_sublist (cs : List Char) : (unifyBreaks cs).Sublist cs := by
  fun_induction unifyBreaks cs with
  | case1 => exact List.Sublist.refl _
  | case2 rest ih => exact (ih.cons_cons '\n').cons '\r'
  | case3 c rest _ ih => exact ih.cons_cons c

theorem all_isSpace_unifyBreaks (cs : List Char) :
    (unifyBreaks cs).all isSpace = cs.all isSpace := by
  have space : isSpace '\r' = true := by decide
  fun_induction unifyBreaks cs with
  | case1 => rfl
  | case2 rest ih => simp only [List.all_cons, ih, space, Bool.true_and]
  | case3 c rest _ ih => simp only [List.all_cons, ih]

theorem unifyBreaks_eq_self_iff {cs : List Char} : unifyBreaks cs = cs ↔ ¬crlf <:+: cs := by
  fun_induction unifyBreaks cs with
  | case1 => simp [crlf]
  | case2 rest ih =>
    have shorter : ('\n' :: unifyBreaks rest).length < ('\r' :: '\n' :: rest).length := by
      have length := (unifyBreaks_sublist rest).length_le
      simp only [List.length_cons]
      omega
    have found : crlf <:+: '\r' :: '\n' :: rest := (List.prefix_append crlf rest).isInfix
    exact iff_of_false (fun equal => shorter.ne (congrArg List.length equal)) (not_not_intro found)
  | case3 c rest other ih =>
    have apart : ¬crlf <+: c :: rest := by
      rintro ⟨more, whole⟩
      obtain ⟨rfl, rfl⟩ := List.cons.inj whole
      exact other more rfl rfl
    rw [List.cons.injEq, ih, List.infix_cons_iff, not_or]
    simp [apart]

theorem unifyBreaks_cons {c : Char} {rest : List Char} (apart : ¬crlf <+: c :: rest) :
    unifyBreaks (c :: rest) = c :: unifyBreaks rest := by
  rw [unifyBreaks.eq_3]
  rintro more rfl rfl
  exact apart (List.prefix_append crlf more)

theorem unifyBreaks_feed (rest : List Char) :
    unifyBreaks ('\n' :: rest) = '\n' :: unifyBreaks rest :=
  unifyBreaks_cons (by simp [crlf])

/-- Two parts keep their own breaks, unless the cut between them goes through one. -/
theorem unifyBreaks_append {before after : List Char}
    (apart : after.head? = some '\n' → before.getLast? ≠ some '\r') :
    unifyBreaks (before ++ after) = unifyBreaks before ++ unifyBreaks after := by
  fun_induction unifyBreaks before with
  | case1 => rfl
  | case2 rest ih =>
    rw [List.cons_append, List.cons_append, unifyBreaks, ih, List.cons_append]
    intro feed last
    exact apart feed (by simp [List.getLast?_cons, last])
  | case3 c rest other ih =>
    have whole : ¬crlf <+: c :: (rest ++ after) := by
      intro found
      obtain ⟨rfl, feed⟩ := List.cons_prefix_cons.1 found
      rw [List.singleton_prefix_iff_head?_eq_some] at feed
      cases rest with
      | nil => exact apart feed rfl
      | cons d rest => exact other rest rfl (congrArg (· :: rest) (Option.some.inj feed))
    rw [List.cons_append, unifyBreaks_cons whole, ih, List.cons_append]
    intro feed last
    exact apart feed (by simp [List.getLast?_cons, last])

theorem unifyBreaks_of_not_mem {c : Char} {cs : List Char} (part : c ∈ crlf) (absent : c ∉ cs) :
    unifyBreaks cs = cs :=
  unifyBreaks_eq_self_iff.2 fun found => absent (found.subset part)

theorem unifyBreaks_append_of_not_mem {before : List Char} (absent : '\r' ∉ before)
    (after : List Char) : unifyBreaks (before ++ after) = before ++ unifyBreaks after := by
  rw [unifyBreaks_append fun _ last => absent (List.mem_of_getLast? last),
    unifyBreaks_of_not_mem List.mem_cons_self absent]

theorem exists_unifyBreaks_append (before after : List Char) :
    ∃ unified, unifyBreaks (before ++ '\n' :: after) = unified ++ '\n' :: unifyBreaks after := by
  by_cases last : before.getLast? = some '\r'
  · -- a carriage return at the end belongs to the line feed
    obtain ⟨others, rfl⟩ := List.getLast?_eq_some_iff.1 last
    refine ⟨unifyBreaks others, ?_⟩
    rw [List.append_assoc, unifyBreaks_append (by simp)]
    rfl
  · exact ⟨unifyBreaks before, by rw [unifyBreaks_append fun _ => last, unifyBreaks_feed]⟩

/-! Joined lines -/

def joinLines (lines : List (List Char)) : List Char := ['\n'].intercalate lines

@[simp] theorem joinLines_nil : joinLines [] = [] := rfl

@[simp] theorem joinLines_singleton (line : List Char) : joinLines [line] = line :=
  List.intercalate_singleton

theorem joinLines_cons (line : List Char) {rest : List (List Char)} (nonempty : rest ≠ []) :
    joinLines (line :: rest) = line ++ '\n' :: joinLines rest := by
  rw [joinLines, List.intercalate_cons_of_ne_nil nonempty, List.append_assoc]
  rfl

theorem joinLines_splitOn (cs : List Char) : joinLines (cs.splitOn '\n') = cs :=
  List.intercalate_splitOn '\n'

theorem splitOn_joinLines {lines : List (List Char)} (whole : ∀ line ∈ lines, '\n' ∉ line)
    (nonempty : lines ≠ []) : (joinLines lines).splitOn '\n' = lines :=
  List.splitOn_intercalate '\n' whole nonempty

theorem joinLines_concat (lines : List (List Char)) (last : List Char) :
    joinLines (lines ++ [last]) = lines.flatMap (· ++ ['\n']) ++ last := by
  induction lines with
  | nil => exact joinLines_singleton last
  | cons line rest ih =>
    calc
      joinLines (line :: rest ++ [last]) = line ++ '\n' :: joinLines (rest ++ [last]) :=
        joinLines_cons line (by simp)
      _ = (line :: rest).flatMap (· ++ ['\n']) ++ last := by
        rw [ih]
        simp

theorem joinLines_sublist {some all : List (List Char)} (sublist : some.Sublist all) :
    (joinLines some).Sublist (joinLines all) := by
  induction sublist with
  | slnil => exact List.Sublist.refl _
  | @cons some all line sublist ih =>
    cases all with
    | nil =>
      rw [List.sublist_nil.1 sublist]
      exact List.nil_sublist _
    | cons second rest =>
      -- the line is left out with the line feed after it
      rw [joinLines_cons line (List.cons_ne_nil _ _)]
      exact (ih.cons '\n').trans (List.sublist_append_right _ _)
  | @cons_cons some all line sublist ih =>
    cases some with
    | nil =>
      cases all with
      | nil => exact List.Sublist.refl _
      | cons second rest =>
        rw [joinLines_singleton, joinLines_cons line (List.cons_ne_nil _ _)]
        exact List.sublist_append_left _ _
    | cons first others =>
      have nonempty : all ≠ [] := by
        rintro rfl
        cases sublist
      rw [joinLines_cons line (List.cons_ne_nil _ _), joinLines_cons line nonempty]
      exact (List.Sublist.refl line).append (ih.cons_cons '\n')

theorem all_isSpace_joinLines (lines : List (List Char)) :
    (joinLines lines).all isSpace = lines.all (·.all isSpace) := by
  induction lines with
  | nil => rfl
  | cons line rest ih =>
    cases rest with
    | nil => simp
    | cons second rest =>
      have space : isSpace '\n' = true := by decide
      rw [joinLines_cons line (List.cons_ne_nil _ _), List.all_append, List.all_cons, ih, space,
        Bool.true_and, List.all_cons (l := second :: rest)]

/-- Without its white space at the end, a text loses the lines that are blank up to the end, and the
last line that is left loses its own. -/
theorem trimEnd_joinLines (lines : List (List Char)) :
    trimEnd (joinLines lines) =
      joinLines ((lines.rdropWhile (·.all isSpace)).modifyLast trimEnd) := by
  induction lines using List.reverseRecOn with
  | nil => rfl
  | append_singleton lines last ih =>
    rw [joinLines_concat]
    by_cases blank : last.all isSpace = true
    · rw [List.rdropWhile_concat_pos (·.all isSpace) lines last blank, ← ih,
        trimEnd_append_of_blank blank]
      cases lines using List.reverseRecOn with
      | nil => rfl
      | append_singleton lines line =>
        rw [List.flatMap_append, joinLines_concat, List.flatMap_singleton, ← List.append_assoc]
        exact trimEnd_append_of_blank (by decide)
    · rw [List.rdropWhile_concat_neg (·.all isSpace) lines last blank, List.modifyLast_concat,
        joinLines_concat, trimEnd_append_of_not_blank blank]

theorem crlf_infix_append_iff {line rest : List Char} (single : '\n' ∉ line) :
    crlf <:+: line ++ '\n' :: rest ↔ line.getLast? = some '\r' ∨ crlf <:+: rest := by
  induction line with
  | nil => simp [List.infix_cons_iff, crlf]
  | cons c line ih =>
    rw [List.mem_cons, not_or] at single
    rw [List.cons_append, List.infix_cons_iff, ih single.2, ← or_assoc]
    cases line with
    | nil => simp [crlf, eq_comm]
    | cons d line =>
      have other : d ≠ '\n' := fun equal => single.2 (equal ▸ List.mem_cons_self)
      simp [crlf, Ne.symm other]

/-- A break of two characters is a line before another that ends in a carriage return. -/
theorem crlf_infix_joinLines_iff {lines : List (List Char)} (whole : ∀ line ∈ lines, '\n' ∉ line) :
    crlf <:+: joinLines lines ↔ ∃ line ∈ lines.dropLast, line.getLast? = some '\r' := by
  induction lines with
  | nil => simp [crlf]
  | cons line rest ih =>
    have single : '\n' ∉ line := whole line List.mem_cons_self
    cases rest with
    | nil =>
      have apart : ¬crlf <:+: line := fun found => single (found.subset (by simp [crlf]))
      simp [apart]
    | cons second rest =>
      rw [joinLines_cons line (List.cons_ne_nil _ _), crlf_infix_append_iff single,
        ih fun other member => whole other (List.mem_cons_of_mem _ member),
        List.dropLast_cons_cons, List.exists_mem_cons_iff]

end Faultline.Text
