import Faultline.Proofs.Text.Lines
import Faultline.Proofs.Text.Matching
import Faultline.Settings.Variables

/-!
The names of variables. Main statement: the prefix and two names with two underscores between them,
in any case of their letters, stand for the path of these names.
-/

namespace Faultline.Variables

theorem path?_ne_nil {name : String} : path? name ≠ some [] := by
  unfold path?
  dsimp only
  split
  next =>
    split
    next => nofun
    next =>
      rw [Text.splitOn_eq]
      simp only [ne_eq, Option.some.injEq, List.map_eq_nil_iff]
      exact List.splitOn_ne_nil _ _
  next => nofun

def isName : List Char → Bool
  | [] => false
  | [c] => c.isLower
  | c :: d :: rest => (c.isLower || (c == '_' && d != '_')) && isName (d :: rest)

variable {first second : List Char}

theorem isLower_or_eq_of_isName (named : isName first = true) :
    ∀ c ∈ first, c.isLower = true ∨ c = '_' := by
  fun_induction isName first with
  | case1 => nomatch named
  | case2 c => exact List.forall_mem_singleton.2 (.inl named)
  | case3 c d rest ih =>
    simp only [Bool.and_eq_true, Bool.or_eq_true, beq_iff_eq, bne_iff_ne] at named
    exact List.forall_mem_cons.2 ⟨named.1.imp id And.left, ih named.2⟩

theorem dotted_cons {c : Char} {rest : List Char}
    (apart : c = '_' → ∀ more, rest ≠ '_' :: more) : dotted (c :: rest) = c :: dotted rest := by
  rw [dotted]
  exact fun more underscore same => apart underscore more same

theorem dotted_append (named : isName first = true) (rest : List Char) :
    dotted (first ++ rest) = first ++ dotted rest := by
  fun_induction isName first with
  | case1 => nomatch named
  | case2 c => exact dotted_cons fun underscore => nomatch underscore ▸ named
  | case3 c d more ih =>
    simp only [Bool.and_eq_true, Bool.or_eq_true, beq_iff_eq, bne_iff_ne] at named
    obtain ⟨here, later⟩ := named
    have apart : c = '_' → ∀ after, d :: (more ++ rest) ≠ '_' :: after := by
      rintro rfl after same
      exact here.elim nofun fun other => other.2 (List.cons.inj same).1
    rw [List.cons_append, List.cons_append, dotted_cons apart, ← List.cons_append, ih later]
    rfl

theorem visible_of_isName (named : isName first = true) :
    ∀ c ∈ first, Text.lowerChar c = c ∧ Text.isSpace c = false ∧ c ≠ '.' := by
  intro c inside
  rcases isLower_or_eq_of_isName named c inside with lower | rfl
  · have high : c.val ≤ 'z'.val := of_decide_eq_true (Bool.and_eq_true_iff.1 lower).2
    have bound : c.toNat < 128 := Nat.lt_of_le_of_lt high (by decide)
    exact Text.forall_ascii (P := fun c => c.isLower = true →
      Text.lowerChar c = c ∧ Text.isSpace c = false ∧ c ≠ '.') (by decide) bound lower
  · decide

theorem map_lowerChar_of_isName (named : isName first = true) :
    first.map Text.lowerChar = first :=
  (List.map_congr_left fun c inside => (visible_of_isName named c inside).1).trans (List.map_id _)

theorem trimChars_names {before middle : List Char} (ahead : ∀ c ∈ before, Text.isSpace c = false)
    (outer : isName first = true) (between : ∀ c ∈ middle, Text.isSpace c = false)
    (inner : isName second = true) :
    Text.trimChars (before ++ (first ++ (middle ++ second))) =
      before ++ (first ++ (middle ++ second)) := by
  refine Text.trimChars_of_visible ?_
  simp only [List.forall_mem_append]
  exact ⟨ahead, fun c inside => (visible_of_isName outer c inside).2.1, between,
    fun c inside => (visible_of_isName inner c inside).2.1⟩

theorem dotted_names (outer : isName first = true) (inner : isName second = true) :
    dotted (first ++ (['_', '_'] ++ second)) = first ++ (['.'] ++ second) := by
  have last : dotted second = second := by simpa [dotted] using dotted_append inner []
  rw [dotted_append outer]
  show first ++ '.' :: dotted second = _
  rw [last]
  rfl

theorem splitOn_names (outer : isName first = true) (inner : isName second = true) :
    Text.splitOn '.' (first ++ (['.'] ++ second)) = [first, second] := by
  have undotted {cs : List Char} (named : isName cs = true) : '.' ∉ cs :=
    fun inside => (visible_of_isName named _ inside).2.2 rfl
  have last : Text.splitOn '.' second = [second] := by
    simpa [Text.splitOn] using Text.splitOn_append_of_not_mem (undotted inner) []
  rw [List.singleton_append, Text.splitOn_append_cons_of_not_mem (undotted outer), last]

theorem path?_of_names {a b name : String} (outer : isName a.toList = true)
    (inner : isName b.toList = true)
    (same : Text.SameUpToCase name (namePrefix ++ a ++ "__" ++ b)) : path? name = some [a, b] := by
  have visible : ∀ c ∈ namePrefix.toList.map Text.lowerChar, Text.isSpace c = false := by
    have all : (namePrefix.toList.map Text.lowerChar).all (!Text.isSpace ·) = true := by decide
    simpa only [List.all_eq_true, Bool.not_eq_true'] using all
  have between : ∀ c ∈ ['_', '_'], Text.isSpace c = false :=
    List.forall_mem_cons.2 ⟨by decide, List.forall_mem_singleton.2 (by decide)⟩
  have chars : (Text.trimChars name.toList).map Text.lowerChar =
      namePrefix.toList.map Text.lowerChar ++ (a.toList ++ (['_', '_'] ++ b.toList)) := by
    rw [← trimChars_names visible outer between inner,
      ← Text.trimChars_map Text.isSpace_lowerChar, Text.sameUpToCase_iff.1 same]
    simp only [String.toList_append, List.map_append, List.append_assoc,
      map_lowerChar_of_isName outer, map_lowerChar_of_isName inner]
    rfl
  have names : Text.splitOn '.'
      (Text.trimChars (dotted (a.toList ++ (['_', '_'] ++ b.toList)))) = [a.toList, b.toList] := by
    have whole := trimChars_names (List.forall_mem_nil _) outer
      (List.forall_mem_singleton.2 (by decide : Text.isSpace '.' = false)) inner
    rw [dotted_names outer inner, ← List.nil_append (a.toList ++ _), whole]
    exact splitOn_names outer inner
  have nonempty {cs : List Char} (named : isName cs = true) : cs.isEmpty = false := by
    cases cs with
    | nil => nomatch named
    | cons => rfl
  unfold path?
  simp only [chars]
  rw [if_pos (List.isPrefixOf_iff_prefix.2 (List.prefix_append _ _)), List.drop_left, names]
  simp [nonempty outer, nonempty inner]

end Faultline.Variables
