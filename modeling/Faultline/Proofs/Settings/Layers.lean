import Mathlib.Data.List.Induction
import Faultline.Proofs.Settings.Tables

/-!
What layers of settings hold along a path. Main statement: at the end of a path that only tables lie
along, layers hold what the last of them that holds anything does. Sorting changes nothing about it.
-/

namespace Faultline

namespace Layers
open Setting

variable {may : Setting → Prop} {lower upper value : Setting}
  {known members : List (String × Setting)} {name : String} {path : List String}

/-- As far as a value holds anything along the path, it holds tables there. -/
def IsOpen (value : Setting) : List String → Prop
  | [] => True
  | name :: path => ∃ members, value = .table members ∧
      ∀ inner, find? members name = some inner → IsOpen inner path

theorem find?_overlayMembers (distinct : (members.map Prod.fst).Nodup) :
    find? (overlayMembers known members) name =
      (find? known name).merge overlay (find? members name) := by
  induction members generalizing known with
  | nil => exact Option.merge_none_right.symm
  | cons member rest ih =>
    obtain ⟨first, value⟩ := member
    rw [List.map_cons, List.nodup_cons] at distinct
    rw [overlayMembers, ih distinct.2, find?_upsert, find?_cons]
    by_cases same : first = name
    · subst same
      have absent : find? rest first = none := by
        refine Option.eq_none_iff_forall_ne_some.2 fun other found => ?_
        exact distinct.1 (List.mem_map.2 ⟨_, mem_of_find? found, rfl⟩)
      rw [if_pos rfl, if_pos rfl, absent]
      cases find? known first <;> rfl
    · rw [if_neg same, if_neg same]

theorem at?_cons (members : List (String × Setting)) (name : String) (path : List String) :
    at? (.table members) (name :: path) = (find? members name).bind (at? · path) := rfl

theorem at?_append (value : Setting) (path rest : List String) :
    at? value (path ++ rest) = (at? value path).bind (at? · rest) := by
  induction path generalizing value with
  | nil => cases value <;> rfl
  | cons name path ih =>
    cases value with
    | table members =>
      rw [List.cons_append, at?_cons, at?_cons, Option.bind_assoc]
      exact Option.bind_congr fun inner _ => ih inner
    | _ => rfl

theorem mem_names_of_at? (held : at? (.table members) (name :: path) ≠ none) :
    name ∈ members.map Prod.fst := by
  obtain ⟨value, held⟩ := Option.ne_none_iff_exists'.1 held
  rw [at?_cons] at held
  obtain ⟨inner, found, -⟩ := Option.bind_eq_some_iff.1 held
  exact List.mem_map_of_mem (mem_of_find? found)

theorem tidy_at? (tidy : Tidy may value) {inner : Setting}
    (held : at? value path = some inner) : Tidy may inner := by
  induction path generalizing value with
  | nil =>
    cases value <;> exact Option.some.inj held ▸ tidy
  | cons name path ih =>
    cases value with
    | table members =>
      obtain ⟨next, found, held⟩ := Option.bind_eq_some_iff.1 held
      exact ih (tidy.of_find? found) held
    | _ => nomatch held

/-- Along an open path layers are laid over each other value by value. -/
theorem at?_overlay (tidy : Tidy may upper) (below : IsOpen lower path)
    (above : IsOpen upper path) :
    at? (overlay lower upper) path = (at? lower path).merge overlay (at? upper path) := by
  induction path generalizing lower upper with
  | nil => cases lower <;> cases upper <;> rfl
  | cons name path ih =>
    obtain ⟨known, rfl, lowers⟩ := below
    obtain ⟨members, rfl, uppers⟩ := above
    rw [overlay, at?_cons, at?_cons, at?_cons, find?_overlayMembers tidy.distinct]
    cases old : find? known name with
    | none => cases find? members name <;> simp
    | some inner =>
      cases new : find? members name with
      | none => simp
      | some outer => exact ih (tidy.of_find? new) (lowers _ old) (uppers _ new)

theorem isOpen_overlay (tidy : Tidy may upper) (below : IsOpen lower path)
    (above : IsOpen upper path) : IsOpen (overlay lower upper) path := by
  induction path generalizing lower upper with
  | nil => trivial
  | cons name path ih =>
    obtain ⟨known, rfl, lowers⟩ := below
    obtain ⟨members, rfl, uppers⟩ := above
    refine ⟨overlayMembers known members, rfl, fun inner found => ?_⟩
    rw [find?_overlayMembers tidy.distinct, Option.merge_eq_some_iff] at found
    rcases found with ⟨old, -⟩ | ⟨-, new⟩ | ⟨lowest, outer, old, new, rfl⟩
    · exact lowers _ old
    · exact uppers _ new
    · exact ih (tidy.of_find? new) (lowers _ old) (uppers _ new)

theorem overlay_eq_upper (apart : lower.IsSingle ∨ upper.IsSingle) :
    overlay lower upper = upper := by
  cases upper with
  | table members =>
    cases lower with
    | table known => exact apart.elim (absurd rfl <| · known) (absurd rfl <| · members)
    | _ => rfl
  | _ => rfl

theorem merge_overlay {below above : Option Setting}
    (apart : (∀ value ∈ below, value.IsSingle) ∨ ∀ value ∈ above, value.IsSingle) :
    below.merge overlay above = above.or below := by
  cases above with
  | none => exact Option.merge_none_right
  | some upper =>
    cases below with
    | none => rfl
    | some lower => exact congrArg some (overlay_eq_upper (apart.imp (· _ rfl) (· _ rfl)))

theorem merged_concat (layers : List Setting) (last : Setting) :
    merged (layers ++ [last]) = overlay (merged layers) last := by
  rw [merged, List.foldl_append]
  rfl

variable {layers : List Setting}

theorem tidy_merged (tidy : ∀ layer ∈ layers, Tidy may layer) : Tidy may (merged layers) := by
  induction layers using List.reverseRecOn with
  | nil => exact .empty
  | append_singleton layers last ih =>
    rw [List.forall_mem_append, List.forall_mem_singleton] at tidy
    rw [merged_concat]
    exact (ih tidy.1).overlay last tidy.2

theorem isOpen_merged (tidy : ∀ layer ∈ layers, Tidy may layer)
    (opens : ∀ layer ∈ layers, IsOpen layer path) : IsOpen (merged layers) path := by
  induction layers using List.reverseRecOn with
  | nil =>
    cases path with
    | nil => trivial
    | cons name path => exact ⟨[], rfl, fun _ found => nomatch found⟩
  | append_singleton layers last ih =>
    rw [List.forall_mem_append, List.forall_mem_singleton] at tidy opens
    rw [merged_concat]
    exact isOpen_overlay tidy.2 (ih tidy.1 opens.1) opens.2

theorem at?_merged_ne_none_iff (tidy : ∀ layer ∈ layers, Tidy may layer)
    (opens : ∀ layer ∈ layers, IsOpen layer (name :: path)) :
    at? (merged layers) (name :: path) ≠ none ↔
      ∃ layer ∈ layers, at? layer (name :: path) ≠ none := by
  induction layers using List.reverseRecOn with
  | nil => exact iff_of_false (fun held => held rfl) (fun ⟨_, inside, _⟩ => nomatch inside)
  | append_singleton layers last ih =>
    rw [List.forall_mem_append, List.forall_mem_singleton] at tidy opens
    rw [merged_concat, at?_overlay tidy.2 (isOpen_merged tidy.1 opens.1) opens.2, Ne,
      Option.merge_eq_none_iff, not_and_or, ← Ne, ← Ne, ih tidy.1 opens.1]
    simp only [List.mem_append, List.mem_singleton, or_and_right, exists_or, exists_eq_left]

/-- What is held is what the last of the layers that hold something does, where these are no
tables. -/
theorem at?_merged (tidy : ∀ layer ∈ layers, Tidy may layer)
    (opens : ∀ layer ∈ layers, IsOpen layer (name :: path))
    (single : ∀ layer ∈ layers, ∀ value ∈ at? layer (name :: path), value.IsSingle) :
    at? (merged layers) (name :: path) = (layers.filterMap (at? · (name :: path))).getLast? := by
  induction layers using List.reverseRecOn with
  | nil => rfl
  | append_singleton layers last ih =>
    rw [List.forall_mem_append, List.forall_mem_singleton] at tidy opens single
    rw [merged_concat, at?_overlay tidy.2 (isOpen_merged tidy.1 opens.1) opens.2,
      merge_overlay (.inr single.2), ih tidy.1 opens.1 single.1, List.filterMap_append,
      List.getLast?_append]
    cases held : at? last (name :: path) <;> simp [held]

/-! Sorting -/

theorem find?_insertByName (member : String × Setting) (members : List (String × Setting))
    (key : String) : find? (insertByName member members) key =
      if member.1 = key then some member.2 else find? members key := by
  induction members with
  | nil => exact find?_cons member.1 key member.2 []
  | cons other rest ih =>
    rw [insertByName]
    by_cases before : other.1 < member.1
    · rw [if_pos before, find?_cons, ih, find?_cons]
      by_cases same : other.1 = key
      · have later : member.1 ≠ key := fun equal =>
          String.lt_irrefl key (by rwa [same, equal] at before)
        rw [if_pos same, if_pos same, if_neg later]
      · rw [if_neg same, if_neg same]
    · rw [if_neg before, find?_cons]

theorem find?_sortedMembers (members : List (String × Setting)) (key : String) :
    find? (sortedMembers members) key = (find? members key).map sorted := by
  induction members with
  | nil => rfl
  | cons member rest ih =>
    rw [sortedMembers, find?_insertByName, find?_cons, ih]
    by_cases same : member.1 = key
    · rw [if_pos same, if_pos same, Option.map_some]
    · rw [if_neg same, if_neg same]

theorem at?_sorted (value : Setting) (path : List String) :
    at? (sorted value) path = (at? value path).map sorted := by
  induction path generalizing value with
  | nil => cases value <;> rfl
  | cons name path ih =>
    cases value with
    | table members =>
      rw [sorted, at?_cons, at?_cons, find?_sortedMembers]
      cases find? members name with
      | none => rfl
      | some inner => exact ih inner
    | _ => rfl

theorem insertByName_perm (member : String × Setting) (members : List (String × Setting)) :
    (insertByName member members).Perm (member :: members) := by
  induction members with
  | nil => exact .refl _
  | cons other rest ih =>
    rw [insertByName]
    split
    next => exact (ih.cons other).trans (.swap member other rest)
    next => exact .refl _

theorem names_sortedMembers_perm (members : List (String × Setting)) :
    ((sortedMembers members).map Prod.fst).Perm (members.map Prod.fst) := by
  induction members with
  | nil => exact .refl _
  | cons member rest ih => exact ((insertByName_perm _ _).map Prod.fst).trans (ih.cons member.1)

end Layers
end Faultline
