import Mathlib.Data.List.Induction
import Faultline.Json.Basic

/-!
Lists of members: the look-up of a name, and what comes of adding members one after another. Each
name stands where it came first and has the value that came last.
-/

namespace Faultline

namespace Json

variable {members : List (String × Json)} {key name : String} {value : Json}

theorem find?_cons_self : find? ((key, value) :: members) key = some value := by
  simp [find?]

theorem find?_cons_of_ne (different : name ≠ key) :
    find? ((name, value) :: members) key = find? members key := by
  simp [find?, different]

theorem mem_of_find? (found : find? members key = some value) : (key, value) ∈ members := by
  obtain ⟨⟨first, second⟩, hit, rfl⟩ := Option.map_eq_some_iff.1 found
  have named : first = key := by simpa using List.find?_some hit
  exact named ▸ List.mem_of_find?_eq_some hit

theorem find?_append (members others : List (String × Json)) :
    find? (members ++ others) key = (find? members key).or (find? others key) := by
  simp only [find?, List.find?_append, Option.map_or]

theorem find?_eq_none_iff : find? members key = none ↔ key ∉ members.map Prod.fst := by
  constructor
  · intro absent named
    obtain ⟨member, inside, rfl⟩ := List.mem_map.1 named
    simp only [find?, Option.map_eq_none_iff, List.find?_eq_none] at absent
    exact absent member inside (beq_self_eq_true _)
  · intro absent
    cases found : find? members key with
    | none => rfl
    | some value => exact absurd (List.mem_map_of_mem (mem_of_find? found)) absent

theorem find?_eq_some_of_mem (distinct : (members.map Prod.fst).Nodup)
    (member : (key, value) ∈ members) : find? members key = some value := by
  induction members with
  | nil => cases member
  | cons first rest ih =>
    obtain ⟨name, other⟩ := first
    rw [List.map_cons, List.nodup_cons] at distinct
    rcases List.mem_cons.1 member with same | later
    · cases same
      exact find?_cons_self
    · have named : key ∈ rest.map Prod.fst := List.mem_map_of_mem later
      have different : name ≠ key := by
        rintro rfl
        exact distinct.1 named
      rw [find?_cons_of_ne different]
      exact ih distinct.2 later

theorem upsert_of_not_mem (fresh : key ∉ members.map Prod.fst) :
    upsert key value members = members ++ [(key, value)] := by
  induction members with
  | nil => rfl
  | cons first rest ih =>
    obtain ⟨name, other⟩ := first
    rw [List.map_cons, List.mem_cons, not_or] at fresh
    rw [upsert, if_neg (Ne.symm fresh.1), ih fresh.2]
    rfl

theorem foldl_upsert (known members : List (String × Json))
    (distinct : ((known ++ members).map Prod.fst).Nodup) :
    members.foldl (fun known member => upsert member.1 member.2 known) known =
      known ++ members := by
  induction members generalizing known with
  | nil => exact (List.append_nil known).symm
  | cons member rest ih =>
    have fresh : member.1 ∉ known.map Prod.fst := by
      rw [List.map_append, List.map_cons] at distinct
      intro old
      exact (List.nodup_append.1 distinct).2.2 _ old _ List.mem_cons_self rfl
    rw [List.foldl_cons, upsert_of_not_mem fresh, ih _ (by simpa using distinct)]
    simp

theorem names_upsert_of_mem (known : key ∈ members.map Prod.fst) :
    (upsert key value members).map Prod.fst = members.map Prod.fst := by
  induction members with
  | nil => cases known
  | cons first rest ih =>
    obtain ⟨name, other⟩ := first
    by_cases same : name = key
    · simp [upsert, same]
    · rw [List.map_cons, List.mem_cons] at known
      rw [upsert, if_neg same, List.map_cons, ih (known.resolve_left (Ne.symm same)), List.map_cons]

theorem find?_upsert (key : String) (value : Json) (members : List (String × Json)) :
    find? (upsert key value members) name =
      if key = name then some value else find? members name := by
  induction members with
  | nil => by_cases same : key = name <;> simp [upsert, find?, same]
  | cons first rest ih =>
    obtain ⟨other, kept⟩ := first
    by_cases same : other = key
    · subst same
      by_cases equal : other = name
      · rw [upsert, if_pos rfl, if_pos equal, equal, find?_cons_self]
      · rw [upsert, if_pos rfl, if_neg equal, find?_cons_of_ne equal, find?_cons_of_ne equal]
    · rw [upsert, if_neg same]
      by_cases equal : other = name
      · rw [equal, find?_cons_self, find?_cons_self, if_neg (equal ▸ Ne.symm same)]
      · rw [find?_cons_of_ne equal, ih, find?_cons_of_ne equal]

theorem eraseDups_of_nodup {names : List String} (distinct : names.Nodup) :
    names.eraseDups = names := by
  induction names with
  | nil => rfl
  | cons name rest ih =>
    rw [List.nodup_cons] at distinct
    have others : rest.filter (fun other => !other == name) = rest := by
      rw [List.filter_eq_self]
      intro other member
      have different : other ≠ name := fun same => distinct.1 (same ▸ member)
      simpa using different
    rw [List.eraseDups_cons, others, ih distinct.2]

/-- After a series of additions each name stands where it came first. -/
theorem names_foldl_upsert {known : List (String × Json)} (distinct : (known.map Prod.fst).Nodup)
    (added : List (String × Json)) :
    (added.foldl (fun members member => upsert member.1 member.2 members) known).map Prod.fst =
      (known.map Prod.fst ++ added.map Prod.fst).eraseDups := by
  induction added using List.reverseRecOn with
  | nil => rw [List.foldl_nil, List.map_nil, List.append_nil, eraseDups_of_nodup distinct]
  | append_singleton added last ih =>
    rw [List.foldl_append, List.foldl_cons, List.foldl_nil, List.map_append, ← List.append_assoc,
      List.eraseDups_append, ← ih]
    by_cases old : last.1 ∈ known.map Prod.fst ++ added.map Prod.fst
    · have named := List.mem_eraseDups.2 old
      rw [← ih] at named
      rw [names_upsert_of_mem named]
      simp [List.removeAll, old]
    · have fresh := mt List.mem_eraseDups.1 old
      rw [← ih] at fresh
      rw [upsert_of_not_mem fresh]
      simp [List.removeAll, old, List.eraseDups_cons]

/-- After a series of additions each name has the value that was added last. -/
theorem find?_foldl_upsert (known added : List (String × Json)) :
    find? (added.foldl (fun members member => upsert member.1 member.2 members) known) name =
      ((added.filter (·.1 == name)).getLast?.map Prod.snd).or (find? known name) := by
  induction added using List.reverseRecOn with
  | nil => rfl
  | append_singleton added last ih =>
    rw [List.foldl_append, List.foldl_cons, List.foldl_nil, find?_upsert, ih, List.filter_append]
    by_cases same : last.1 = name <;> simp [same]

theorem resolve_of_nodup (distinct : (members.map Prod.fst).Nodup) : resolve members = members :=
  foldl_upsert [] members distinct

end Json

namespace Members

theorem entries_foldl_insert (extensions : Members) (members : List (String × Json)) :
    (members.foldl (fun known member => known.insert member.1 member.2) extensions).entries =
      members.foldl (fun known member => Json.upsert member.1 member.2 known)
        extensions.entries := by
  induction members generalizing extensions with
  | nil => rfl
  | cons member rest ih => exact ih _

theorem entries_ofList {members : List (String × Json)}
    (distinct : (members.map Prod.fst).Nodup) : (ofList members).entries = members := by
  rw [ofList, entries_foldl_insert]
  exact Json.foldl_upsert [] members distinct

theorem names_ofList (members : List (String × Json)) :
    (ofList members).entries.map Prod.fst = (members.map Prod.fst).eraseDups := by
  have none : (empty.entries.map Prod.fst).Nodup := List.nodup_nil
  rw [ofList, entries_foldl_insert, Json.names_foldl_upsert none members]
  rfl

/-- Keeps some of the first members, each under its name. -/
def select (members : Members) (count : Nat) (keep : String → Json → Option Json) : Members where
  entries := (members.entries.take count).filterMap fun entry =>
    (keep entry.1 entry.2).map (entry.1, ·)
  distinct := by
    have sub : (((members.entries.take count).filterMap fun entry =>
        (keep entry.1 entry.2).map (entry.1, ·)).map Prod.fst).Sublist
          (members.entries.map Prod.fst) := by
      refine .trans ?_ ((List.take_sublist count members.entries).map Prod.fst)
      generalize members.entries.take count = entries
      induction entries with
      | nil => simp
      | cons entry rest ih =>
        cases h : keep entry.1 entry.2 with
        | none => simpa [h] using ih.cons entry.1
        | some value => simpa [h] using ih
    exact sub.nodup members.distinct

theorem ext {a b : Members} (same : a.entries = b.entries) : a = b := by
  cases a
  cases b
  cases same
  rfl

end Members
end Faultline
