import Faultline.Proofs.Settings.Layers
import Faultline.Proofs.Settings.Naming
import Faultline.Settings.Loading
import Faultline.Yaml.Reading

/-!
What a file and variables give. The tables of both are tidy, and a variable never gives nothing.
-/

namespace Faultline
open Setting

/-- What is read is a table, and in no table in it does a name come twice. -/
def SettingsFile.Reader.IsTidy (read : SettingsFile.Reader) : Prop :=
  ∀ text layer, read text = some layer →
    (∃ members, layer = .table members) ∧ Tidy (fun _ => True) layer

namespace Yaml

theorem isSingle_resolve (text : String) : (resolve text).IsSingle := by
  intro members
  have integer : integer? text.toList ≠ some (.table members) := by
    simp only [integer?, bind]
    cases magnitude? (isPadded text.toList) (Scalar.dropSign text.toList).2 with
    | none => simp
    | some n =>
      simp only [Option.bind_some]
      grind
  have floating : floating? text.toList ≠ some (.table members) := by
    unfold floating?
    grind
  unfold resolve
  split
  · nofun
  split
  · nofun
  split
  · nofun
  intro same
  cases whole : integer? text.toList with
  | some value =>
    rw [whole, Option.some_or, Option.getD_some] at same
    exact integer (same ▸ whole)
  | none =>
    rw [whole, Option.none_or] at same
    cases read : floating? text.toList with
    | some value =>
      rw [read, Option.getD_some] at same
      exact floating (same ▸ read)
    | none => rw [read] at same; nomatch same

mutual
theorem tidy_setting? (node : Node) {value : Setting} (read : setting? node = some value) :
    Tidy (fun _ => True) value := by
  cases node with
  | scalar plain text =>
    cases plain with
    | true => exact Option.some.inj read ▸ .other (isSingle_resolve text) trivial
    | false => exact Option.some.inj read ▸ .other (fun _ => nofun) trivial
  | list items =>
    obtain ⟨settings, -, rfl⟩ := Option.map_eq_some_iff.1 read
    exact .other (fun _ => nofun) trivial
  | mapping entries =>
    obtain ⟨members, inner, rfl⟩ := Option.map_eq_some_iff.1 read
    exact .resolve (tidy_members? entries inner)

theorem tidy_members? (entries : List (Node × Node)) {members : List (String × Setting)}
    (read : members? entries = some members) :
    ∀ member ∈ members, Tidy (fun _ => True) member.2 := by
  match entries with
  | [] => exact Option.some.inj read ▸ List.forall_mem_nil _
  | (.scalar _ name, value) :: rest =>
    obtain ⟨first, head, read⟩ := Option.bind_eq_some_iff.1 read
    obtain ⟨others, tail, same⟩ := Option.bind_eq_some_iff.1 read
    cases same
    exact List.forall_mem_cons.2 ⟨tidy_setting? value head, tidy_members? rest tail⟩
end

theorem isTidy_read? : SettingsFile.Reader.IsTidy read? := by
  intro text layer read
  obtain ⟨tokens, -, read⟩ := Option.bind_eq_some_iff.1 read
  obtain ⟨node, -, read⟩ := Option.bind_eq_some_iff.1 read
  split at read
  next => exact Option.some.inj read ▸ ⟨⟨[], rfl⟩, .empty⟩
  next => exact Option.some.inj read ▸ ⟨⟨[], rfl⟩, .empty⟩
  next node _ =>
    obtain ⟨value, meant, read⟩ := Option.bind_eq_some_iff.1 read
    split at read
    next members =>
      split at read
      next => exact Option.some.inj read ▸ ⟨⟨members, rfl⟩, tidy_setting? node meant⟩
      next => nomatch read
    next => nomatch read

end Yaml

namespace Variables

theorem tidy_plain (cs : List Char) : Tidy (· ≠ .empty) (plain cs) := by
  unfold plain
  split
  all_goals exact .other (fun _ => nofun) nofun

mutual
theorem tidy_readValue (fuel : Nat) {cs rest : List Char} {value : Setting}
    (read : readValue fuel cs = some (value, rest)) : Tidy (· ≠ .empty) value := by
  cases fuel with
  | zero => nomatch read
  | succ fuel =>
    -- stated before the cases are split, which hides the recursion
    have tables := @tidy_readMembers fuel
    rw [readValue] at read
    split at read
    case h_5 => nomatch read
    case h_7 =>
      obtain ⟨_, read, same⟩ := Option.bind_eq_some_iff.1 read
      obtain ⟨⟨members, remaining⟩, inner, rfl⟩ := Option.map_eq_some_iff.1 read
      cases same
      exact .resolve (tables inner)
    case h_8 =>
      cases read
      exact tidy_plain _
    -- a flag, a character, a text or a list
    all_goals
      obtain ⟨_, read, same⟩ := Option.bind_eq_some_iff.1 read
      first
      | cases read
      | obtain ⟨_, -, rfl⟩ := Option.map_eq_some_iff.1 read
      cases same
      exact .other (fun _ => nofun) nofun

theorem tidy_readMembers (fuel : Nat) {cs rest : List Char}
    {members : List (String × Setting)} (read : readMembers fuel cs = some (members, rest)) :
    ∀ member ∈ members, Tidy (· ≠ .empty) member.2 := by
  cases fuel with
  | zero => nomatch read
  | succ fuel =>
    have values := @tidy_readValue fuel
    have tables := @tidy_readMembers fuel
    rw [readMembers.eq_def] at read
    split at read
    next => nomatch read
    next => cases read; exact List.forall_mem_nil _
    next _ same _ =>
      cases same
      obtain ⟨⟨name, after⟩, -, read⟩ := Option.bind_eq_some_iff.1 read
      dsimp only at read
      split at read
      next =>
        obtain ⟨⟨value, remaining⟩, first, read⟩ := Option.bind_eq_some_iff.1 read
        dsimp only at read
        split at read
        next =>
          cases read
          exact List.forall_mem_singleton.2 (values first)
        next =>
          obtain ⟨⟨others, last⟩, later, same⟩ := Option.bind_eq_some_iff.1 read
          cases same
          exact List.forall_mem_cons.2 ⟨values first, tables later⟩
        next => nomatch read
      next => nomatch read
end

theorem tidy_value (text : String) : Tidy (· ≠ .empty) (value text) := by
  unfold value
  split
  next read => exact tidy_readValue _ read
  next => exact .other (fun _ => nofun) nofun

theorem tidy_nested (path : List String) {value : Setting} (tidy : Tidy (· ≠ .empty) value) :
    Tidy (· ≠ .empty) (nested path value) := by
  induction path with
  | nil => exact tidy
  | cons name path ih => exact .table (List.nodup_singleton name) (List.forall_mem_singleton.2 ih)

def values (given : List (String × String)) : List (String × Setting) :=
  given.map fun one => (one.1, value one.2)

def parts (given : List (String × String)) : List Setting :=
  (resolve (values given)).filterMap fun one => (path? one.1).map (nested · one.2)

theorem tidy_of_mem_parts {given : List (String × String)} {part : Setting}
    (member : part ∈ parts given) :
    (∃ members, part = .table members) ∧ Tidy (· ≠ .empty) part := by
  obtain ⟨⟨name, setting⟩, resolved, read⟩ := List.mem_filterMap.1 member
  obtain ⟨path, along, rfl⟩ := Option.map_eq_some_iff.1 read
  constructor
  · cases path with
    | nil => exact absurd along path?_ne_nil
    | cons name path => exact ⟨_, rfl⟩
  · have tidy : Tidy (· ≠ .empty) (.table (resolve (values given))) :=
      .resolve (List.forall_mem_map.2 fun entry _ => tidy_value entry.2)
    exact tidy_nested path (tidy.inner _ resolved)

end Variables
end Faultline
