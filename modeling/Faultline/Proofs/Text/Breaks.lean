import Faultline.Proofs.Text.Lines

/-!
The lines of a text that may have line breaks of two kinds, told without unifying them: a text has
these lines if it is put together from them, each but the last one with its break. Main statement:
every text has lines in one way, and they are those between the line feeds of the unified text.
-/

namespace Faultline.Text

/-- A text and its lines. A carriage return before a line feed is a part of the break. -/
inductive HasLines : List Char → List (List Char) → Prop
  | last {line : List Char} (single : '\n' ∉ line) : HasLines line [line]
  | feed {line rest : List Char} {lines : List (List Char)} (single : '\n' ∉ line)
      (bare : line.getLast? ≠ some '\r') (others : HasLines rest lines) :
      HasLines (line ++ '\n' :: rest) (line :: lines)
  | crlf {line rest : List Char} {lines : List (List Char)} (single : '\n' ∉ line)
      (others : HasLines rest lines) : HasLines (line ++ '\r' :: '\n' :: rest) (line :: lines)

namespace HasLines

variable {cs : List Char} {lines : List (List Char)}

theorem eq_splitOn (has : HasLines cs lines) : lines = (unifyBreaks cs).splitOn '\n' := by
  have whole {line : List Char} (single : '\n' ∉ line) : unifyBreaks line = line :=
    unifyBreaks_of_not_mem (List.mem_cons_of_mem _ List.mem_cons_self) single
  induction has with
  | @last line single =>
    have alone := splitOn_joinLines (List.forall_mem_singleton.2 single) (List.cons_ne_nil line [])
    rw [joinLines_singleton] at alone
    rw [whole single, alone]
  | @feed line rest lines single bare others ih =>
    rw [unifyBreaks_append fun _ => bare, whole single, unifyBreaks_feed, ← splitOn_eq,
      splitOn_append_cons_of_not_mem single, splitOn_eq, ← ih]
  | @crlf line rest lines single others ih =>
    rw [unifyBreaks_append (by simp), whole single, unifyBreaks, ← splitOn_eq,
      splitOn_append_cons_of_not_mem single, splitOn_eq, ← ih]

theorem exists_cons {c : Char} (has : HasLines cs lines) (other : c ≠ '\n')
    (apart : ¬Text.crlf <+: c :: cs) : ∃ lines, HasLines (c :: cs) lines := by
  have longer {line : List Char} (single : '\n' ∉ line) : '\n' ∉ c :: line := by
    rw [List.mem_cons, not_or]
    exact ⟨other.symm, single⟩
  cases has with
  | last single => exact ⟨_, last (longer single)⟩
  | @feed line rest lines single bare others =>
    refine ⟨_, feed (longer single) ?_ others⟩
    cases line with
    | nil =>
      intro last
      obtain rfl := Option.some.inj last
      exact apart (List.prefix_append Text.crlf rest)
    | cons d line => rwa [List.getLast?_cons_cons]
  | crlf single others => exact ⟨_, crlf (longer single) others⟩

theorem exists_lines (cs : List Char) : ∃ lines, HasLines cs lines := by
  fun_induction unifyBreaks cs with
  | case1 => exact ⟨_, last List.not_mem_nil⟩
  | case2 rest ih =>
    obtain ⟨lines, has⟩ := ih
    exact ⟨_, crlf List.not_mem_nil has⟩
  | case3 c rest apart ih =>
    obtain ⟨lines, has⟩ := ih
    by_cases feeds : c = '\n'
    · rw [feeds]
      exact ⟨_, feed List.not_mem_nil (by simp) has⟩
    · refine has.exists_cons feeds ?_
      rintro ⟨more, rfl, rfl⟩
      exact apart _ rfl rfl

end HasLines

theorem hasLines_iff {cs : List Char} {lines : List (List Char)} :
    HasLines cs lines ↔ lines = (unifyBreaks cs).splitOn '\n' := by
  refine ⟨HasLines.eq_splitOn, ?_⟩
  rintro rfl
  obtain ⟨lines, has⟩ := HasLines.exists_lines cs
  exact has.eq_splitOn ▸ has

end Faultline.Text
