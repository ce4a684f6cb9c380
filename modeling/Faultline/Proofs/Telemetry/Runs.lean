import Faultline.Proofs.Telemetry.NormalForm
import Faultline.Proofs.Text.Breaks

/-!
Normalized text, told by runs of equal lines. Main statement: of each run one line is left, in the
order of the runs, and the text is cut off where only white space comes.
-/

namespace Faultline.Telemetry
open Text

structure Run where
  line : List Char
  repeats : Nat
  deriving DecidableEq, Repr

namespace Run

def lines (run : Run) : List (List Char) := run.line :: List.replicate run.repeats run.line

def prepend (line : List Char) : List Run → List Run
  | [] => [⟨line, 0⟩]
  | run :: runs =>
    if line = run.line then ⟨line, run.repeats + 1⟩ :: runs else ⟨line, 0⟩ :: run :: runs

end Run

/-- The runs that lines come in. Neighbouring ones have different lines, so none can be longer. -/
structure InRuns (lines : List (List Char)) (runs : List Run) : Prop where
  whole : runs.flatMap Run.lines = lines
  maximal : (runs.map Run.line).IsChain (· ≠ ·)

def runsOf (lines : List (List Char)) : List Run := lines.foldr Run.prepend []

namespace InRuns

variable {lines : List (List Char)} {runs : List Run}

theorem prepend (inRuns : InRuns lines runs) (line : List Char) :
    InRuns (line :: lines) (Run.prepend line runs) := by
  obtain ⟨rfl, maximal⟩ := inRuns
  cases runs with
  | nil => exact ⟨rfl, List.isChain_singleton _⟩
  | cons run runs =>
    rw [Run.prepend]
    split
    · next same =>
      rw [List.map_cons, ← same] at maximal
      refine ⟨?_, maximal⟩
      rw [List.flatMap_cons, List.flatMap_cons, Run.lines, Run.lines, ← same, List.replicate_succ]
      rfl
    · next other => exact ⟨rfl, maximal.cons_cons other⟩

theorem of_runsOf (lines : List (List Char)) : InRuns lines (runsOf lines) := by
  induction lines with
  | nil => exact ⟨rfl, List.isChain_nil⟩
  | cons line rest ih => exact ih.prepend line

theorem foldr_replicate {line : List Char} (distinct : (line :: runs.map Run.line).IsChain (· ≠ ·))
    (repeats : Nat) :
    (List.replicate (repeats + 1) line).foldr Run.prepend runs = ⟨line, repeats⟩ :: runs := by
  induction repeats with
  | zero =>
    cases runs with
    | nil => rfl
    | cons run runs => exact if_neg (List.isChain_cons_cons.1 distinct).1
  | succ repeats ih =>
    rw [List.replicate_succ, List.foldr_cons, ih]
    exact if_pos rfl

/-- Lines come in runs in one way only. -/
theorem eq_runsOf (inRuns : InRuns lines runs) : runs = runsOf lines := by
  induction runs generalizing lines with
  | nil =>
    rw [← inRuns.whole]
    rfl
  | cons run runs ih =>
    have rest : runs = runsOf (runs.flatMap Run.lines) := ih ⟨rfl, inRuns.maximal.tail⟩
    rw [← inRuns.whole, List.flatMap_cons, runsOf, List.foldr_append, ← runsOf, ← rest]
    exact (foldr_replicate inRuns.maximal run.repeats).symm

theorem iff_runsOf : InRuns lines runs ↔ runs = runsOf lines :=
  ⟨eq_runsOf, fun same => same ▸ of_runsOf lines⟩

theorem destutter'_replicate (line : List Char) (repeats : Nat) (rest : List (List Char)) :
    (List.replicate repeats line ++ rest).destutter' (· ≠ ·) line =
      rest.destutter' (· ≠ ·) line := by
  induction repeats with
  | zero => rfl
  | succ repeats ih =>
    rw [List.replicate_succ, List.cons_append, List.destutter'_cons_neg _ (by simp), ih]

theorem destutter_eq (inRuns : InRuns lines runs) :
    lines.destutter (· ≠ ·) = runs.map Run.line := by
  obtain ⟨rfl, maximal⟩ := inRuns
  induction runs with
  | nil => rfl
  | cons run runs ih =>
    have rest := ih maximal.tail
    rw [List.flatMap_cons, Run.lines, List.cons_append, List.destutter_cons', destutter'_replicate]
    cases runs with
    | nil => rfl
    | cons next runs =>
      have other : run.line ≠ next.line := (List.isChain_cons_cons.1 maximal).1
      rw [List.flatMap_cons, Run.lines, List.cons_append] at rest ⊢
      rw [List.destutter'_cons_pos _ other, ← List.destutter_cons', rest]
      rfl

end InRuns

/-- Lines after `previous`, and what is left of them in their order. A line is left out where it
equals the one before it, or where it and all that come after it are white space. The last one that
is left may lose white space at its end. -/
inductive Thinned : (previous : Option (List Char)) → (lines left : List (List Char)) → Prop
  | nil {previous : Option (List Char)} : Thinned previous [] []
  | blank {previous : Option (List Char)} {line : List Char} {lines : List (List Char)}
      (space : line.all isSpace = true) (rest : Thinned (some line) lines []) :
      Thinned previous (line :: lines) []
  | kept {previous : Option (List Char)} {line : List Char} {lines left : List (List Char)}
      (rest : Thinned (some line) lines left) : Thinned previous (line :: lines) (line :: left)
  | last {previous : Option (List Char)} {line spaces : List Char} {lines : List (List Char)}
      (blank : spaces.all isSpace = true) (rest : Thinned (some (line ++ spaces)) lines []) :
      Thinned previous ((line ++ spaces) :: lines) [line]
  | again {line : List Char} {lines left : List (List Char)}
      (rest : Thinned (some line) lines left) : Thinned (some line) (line :: lines) left

namespace Thinned

theorem replicate {line : List Char} {lines left : List (List Char)}
    (rest : Thinned (some line) lines left) (repeats : Nat) :
    Thinned (some line) (List.replicate repeats line ++ lines) left := by
  induction repeats with
  | zero => exact rest
  | succ repeats ih => exact ih.again

theorem trimmed {previous : Option (List Char)} {line : List Char} {lines : List (List Char)}
    (rest : Thinned (some line) lines []) : Thinned previous (line :: lines) [trimEnd line] := by
  obtain ⟨spaces, blank, whole⟩ := exists_trimEnd_append line
  have thinned : Thinned previous ((trimEnd line ++ spaces) :: lines) [trimEnd line] :=
    .last blank (whole.symm ▸ rest)
  rwa [whole] at thinned

theorem of_runs (runs : List Run) (previous : Option (List Char)) :
    Thinned previous (runs.flatMap Run.lines)
      (((runs.map Run.line).rdropWhile (·.all isSpace)).modifyLast trimEnd) := by
  induction runs generalizing previous with
  | nil => exact .nil
  | cons run runs ih =>
    have later := (ih (some run.line)).replicate run.repeats
    have first : (run :: runs).map Run.line = [run.line] ++ runs.map Run.line := rfl
    rw [List.flatMap_cons, Run.lines, List.cons_append, first]
    by_cases spaces : (runs.map Run.line).all (·.all isSpace) = true
    · have none : (runs.map Run.line).rdropWhile (·.all isSpace) = [] :=
        List.rdropWhile_eq_nil_iff.2 (List.all_eq_true.1 spaces)
      rw [none] at later
      rw [rdropWhile_append_of_all spaces, List.rdropWhile_singleton]
      split
      · next space => exact later.blank space
      · exact later.trimmed
    · have some : (runs.map Run.line).rdropWhile (·.all isSpace) ≠ [] :=
        mt List.rdropWhile_eq_nil_iff.1 (mt List.all_eq_true.2 spaces)
      rw [rdropWhile_append_of_not_all spaces,
        List.modifyLast_append_of_right_ne_nil _ _ _ some]
      exact later.kept

theorem emptied {lines : List (List Char)} (thinned : Thinned none lines [])
    (nonempty : lines ≠ []) : Thinned none lines [[]] := by
  cases thinned with
  | nil => exact absurd rfl nonempty
  | @blank _ line lines space rest =>
    have thinned : Thinned none (([] ++ line) :: lines) [[]] := .last space rest
    exact thinned

end Thinned

variable {s : String}

theorem lines_thinned (s : String) :
    Thinned none (linesOf s) ((normalize s).toList.splitOn '\n') := by
  have inRuns := InRuns.of_runsOf (linesOf s)
  have thinned := Thinned.of_runs (runsOf (linesOf s)) none
  rw [inRuns.whole, ← inRuns.destutter_eq, ← keptLines] at thinned
  by_cases none : keptLines s = []
  · rw [none] at thinned
    rw [toList_normalize, none]
    exact thinned.emptied (List.splitOn_ne_nil _ _)
  · rw [splitOn_normalize none]
    exact thinned

theorem trimmed_joinLines_destutter {lines : List (List Char)}
    (trimmed : ∀ c ∈ (joinLines lines).getLast?, isSpace c = false) :
    ∀ c ∈ (joinLines (lines.destutter (· ≠ ·))).getLast?, isSpace c = false := by
  rcases List.eq_nil_or_concat' lines with rfl | ⟨earlier, last, rfl⟩
  · exact trimmed
  · obtain ⟨others, whole⟩ := destutter_suffix earlier [last]
    rw [List.destutter_singleton] at whole
    rw [← whole, joinLines_concat]
    rw [joinLines_concat] at trimmed
    cases last with
    | nil =>
      rcases List.eq_nil_or_concat' earlier with rfl | ⟨first, line, rfl⟩
      · have none : others = [] := by simpa using whole
        simp [none]
      · -- the line feed before the last line is white space
        have feed : isSpace '\n' = false := trimmed '\n' (by simp)
        exact absurd feed (by decide)
    | cons c last =>
      rw [List.getLast?_append_of_ne_nil _ (List.cons_ne_nil c last)] at trimmed ⊢
      exact trimmed

theorem isNormal_normalize (bare : '\r' ∉ s.toList)
    (trimmed : ∀ c ∈ s.toList.getLast?, isSpace c = false) : IsNormal (normalize s) := by
  have unified : unifyBreaks s.toList = s.toList :=
    unifyBreaks_of_not_mem List.mem_cons_self bare
  have kept : (normalize s).toList = joinLines ((linesOf s).destutter (· ≠ ·)) := by
    rw [normalize, String.toList_ofList, splitOn_eq, joinDistinct_none]
    refine trimEnd_eq_self_iff.2 (trimmed_joinLines_destutter ?_)
    rwa [joinLines_splitOn, unified]
  refine ⟨fun found => ?_, ?_, trimmed_normalize s⟩
  · exact bare ((normalize_sublist s).subset (found.subset List.mem_cons_self))
  · rw [kept, splitOn_joinLines_destutter]
    exact List.isChain_destutter _ _

/-- The lines of a text come in runs, and of each run one line is left, in their order and up to
where only white space comes. So nothing is left of white space alone, nothing else is left out, and
where no carriage return is there and no white space at the end, another pass changes nothing. -/
theorem normalize_keeps_runs (s : String) :
    ∃ lines runs, (∀ other, HasLines s.toList other ↔ other = lines) ∧
      (∀ other, InRuns lines other ↔ other = runs) ∧
      (∃ spaces, spaces.all isSpace = true ∧
        (normalize s).toList ++ spaces = joinLines (runs.map Run.line)) ∧
      (∀ c ∈ (normalize s).toList.getLast?, isSpace c = false) ∧
      (normalize s = "" ↔ isBlank s = true) ∧
      Thinned none lines ((normalize s).toList.splitOn '\n') ∧
      ('\r' ∉ s.toList → (∀ c ∈ s.toList.getLast?, isSpace c = false) →
        normalize (normalize s) = normalize s) := by
  refine ⟨linesOf s, runsOf (linesOf s), fun _ => hasLines_iff, fun _ => InRuns.iff_runsOf, ?_,
    trimmed_normalize s, normalize_eq_empty_iff, lines_thinned s,
    fun bare trimmed => normalize_of_isNormal (isNormal_normalize bare trimmed)⟩
  have kept := (InRuns.of_runsOf (linesOf s)).destutter_eq
  rw [← kept, normalize, String.toList_ofList, splitOn_eq, joinDistinct_none]
  exact exists_trimEnd_append _

theorem normalize_keeps_runs_retries :
    normalize "\n\nretry\nretry\n\ngone" = "\nretry\n\ngone" ∧
      normalize (normalize "\n\nretry\nretry\n\ngone") = "\nretry\n\ngone" := by
  have once : normalize "\n\nretry\nretry\n\ngone" = "\nretry\n\ngone" := by decide +kernel
  obtain ⟨lines, runs, -, -, -, -, -, -, again⟩ :=
    normalize_keeps_runs "\n\nretry\nretry\n\ngone"
  have settled := again (by decide +kernel) (trimEnd_eq_self_iff.1 (by decide +kernel))
  exact ⟨once, settled.trans once⟩

end Faultline.Telemetry
