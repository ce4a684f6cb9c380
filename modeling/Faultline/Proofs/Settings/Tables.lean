import Mathlib.Data.List.Nodup
import Faultline.Settings.Layers

/-!
Tables of settings: when two are equal, the look-up of a name, and what adding members and
overlaying do to it. Tables are tidy if no name comes twice in any of them, which all operations on
them keep.
-/

namespace Faultline

namespace Setting

mutual
def same : Setting → Setting → Bool
  | .empty, .empty => true
  | .flag a, .flag b => a == b
  | .integer f a, .integer g b => f == g && a == b
  | .floating x, .floating y => x == y
  | .character c, .character d => c == d
  | .text s, .text t => s == t
  | .list items, .list others => sameItems items others
  | .table members, .table others => sameMembers members others
  | _, _ => false

def sameItems : List Setting → List Setting → Bool
  | [], [] => true
  | a :: as, b :: bs => same a b && sameItems as bs
  | _, _ => false

def sameMembers : List (String × Setting) → List (String × Setting) → Bool
  | [], [] => true
  | (k, a) :: as, (l, b) :: bs => k == l && same a b && sameMembers as bs
  | _, _ => false
end

mutual
theorem same_iff (a b : Setting) : same a b = true ↔ a = b := by
  cases a with
  | list items =>
    cases b with
    | list others => rw [same, sameItems_iff items others, list.injEq]
    | _ => simp [same]
  | table members =>
    cases b with
    | table others => rw [same, sameMembers_iff members others, table.injEq]
    | _ => simp [same]
  | _ => cases b <;> simp [same]

theorem sameItems_iff (items others : List Setting) :
    sameItems items others = true ↔ items = others := by
  match items, others with
  | [], [] | [], _ :: _ | _ :: _, [] => simp [sameItems]
  | a :: as, b :: bs =>
    rw [sameItems, Bool.and_eq_true, same_iff a b, sameItems_iff as bs, List.cons.injEq]

theorem sameMembers_iff (members others : List (String × Setting)) :
    sameMembers members others = true ↔ members = others := by
  match members, others with
  | [], [] | [], _ :: _ | _ :: _, [] => simp [sameMembers]
  | (k, a) :: as, (l, b) :: bs =>
    rw [sameMembers, Bool.and_eq_true, Bool.and_eq_true, beq_iff_eq, same_iff a b,
      sameMembers_iff as bs, List.cons.injEq, Prod.mk.injEq]
end

instance : DecidableEq Setting := fun a b => decidable_of_iff _ (same_iff a b)
variable {members : List (String × Setting)} {name key : String} {value : Setting}

theorem find?_cons (name key : String) (value : Setting) (rest : List (String × Setting)) :
    find? ((name, value) :: rest) key = if name = key then some value else find? rest key := by
  by_cases same : name = key <;> simp [find?, same]

theorem mem_of_find? (found : find? members name = some value) : (name, value) ∈ members := by
  obtain ⟨⟨first, second⟩, hit, rfl⟩ := Option.map_eq_some_iff.1 found
  have named : first = name := by simpa using List.find?_some hit
  exact named ▸ List.mem_of_find?_eq_some hit

theorem exists_find?_of_mem (member : (name, value) ∈ members) :
    ∃ found, find? members name = some found := by
  induction members with
  | nil => cases member
  | cons first rest ih =>
    rw [find?_cons]
    by_cases same : first.1 = name
    · exact ⟨first.2, if_pos same⟩
    · rw [if_neg same]
      refine ih ((List.mem_cons.1 member).resolve_left ?_)
      rintro rfl
      exact same rfl

theorem find?_eq_some_of_mem (distinct : (members.map Prod.fst).Nodup)
    (member : (name, value) ∈ members) : find? members name = some value := by
  obtain ⟨found, hit⟩ := exists_find?_of_mem member
  have same : (name, found) = (name, value) :=
    List.inj_on_of_nodup_map distinct (mem_of_find? hit) member rfl
  rw [hit, (Prod.mk.inj same).2]

theorem find?_upsert (name : String) (value : Setting) (members : List (String × Setting))
    (key : String) :
    find? (upsert name value members) key =
      if name = key then some value else find? members key := by
  induction members with
  | nil => exact find?_cons name key value []
  | cons first rest ih =>
    rw [upsert]
    by_cases same : first.1 = name
    · rw [if_pos same, find?_cons, find?_cons, same]
      by_cases found : name = key <;> simp [found]
    · rw [if_neg same, find?_cons, find?_cons, ih]
      by_cases found : first.1 = key
      · rw [if_pos found, if_pos found, if_neg (found ▸ Ne.symm same)]
      · rw [if_neg found, if_neg found]

theorem mem_names_upsert (name : String) (value : Setting) (members : List (String × Setting)) :
    key ∈ (upsert name value members).map Prod.fst ↔ key = name ∨ key ∈ members.map Prod.fst := by
  induction members with
  | nil => simp [upsert]
  | cons first rest ih =>
    rw [upsert]
    by_cases same : first.1 = name
    · rw [if_pos same, List.map_cons, List.map_cons, same]
      simp
    · rw [if_neg same, List.map_cons, List.map_cons, List.mem_cons, List.mem_cons, ih]
      exact or_left_comm

theorem nodup_upsert (name : String) (value : Setting)
    (distinct : (members.map Prod.fst).Nodup) :
    ((upsert name value members).map Prod.fst).Nodup := by
  induction members with
  | nil => exact List.nodup_singleton name
  | cons first rest ih =>
    rw [List.map_cons, List.nodup_cons] at distinct
    rw [upsert]
    by_cases same : first.1 = name
    · rw [if_pos same, List.map_cons, List.nodup_cons]
      exact distinct
    · rw [if_neg same, List.map_cons, List.nodup_cons, mem_names_upsert, not_or]
      exact ⟨⟨same, distinct.1⟩, ih distinct.2⟩

theorem mem_upsert {member : String × Setting} (found : member ∈ upsert name value members) :
    member.2 = value ∨ member ∈ members := by
  induction members with
  | nil => exact .inl (congrArg Prod.snd (List.mem_singleton.1 found))
  | cons first rest ih =>
    rw [upsert] at found
    by_cases same : first.1 = name
    · rw [if_pos same] at found
      rcases List.mem_cons.1 found with rfl | later
      · exact .inl rfl
      · exact .inr (List.mem_cons_of_mem _ later)
    · rw [if_neg same] at found
      rcases List.mem_cons.1 found with rfl | later
      · exact .inr List.mem_cons_self
      · exact (ih later).imp_right (List.mem_cons_of_mem _)

def IsSingle (value : Setting) : Prop := ∀ members, value ≠ .table members

/-- In no table does a name come twice, and what is no table is as it may be. -/
inductive Tidy (may : Setting → Prop) : Setting → Prop where
  | table {members : List (String × Setting)} (distinct : (members.map Prod.fst).Nodup)
    (inner : ∀ member ∈ members, Tidy may member.2) : Tidy may (.table members)
  | other {value : Setting} (single : value.IsSingle) (fits : may value) :
    Tidy may value

namespace Tidy

variable {may : Setting → Prop}

theorem distinct (tidy : Tidy may (.table members)) : (members.map Prod.fst).Nodup := by
  cases tidy with
  | table distinct => exact distinct
  | other single => exact absurd rfl (single members)

theorem inner (tidy : Tidy may (.table members)) : ∀ member ∈ members, Tidy may member.2 := by
  cases tidy with
  | table _ inner => exact inner
  | other single => exact absurd rfl (single members)

theorem of_find? (tidy : Tidy may (.table members)) (found : find? members name = some value) :
    Tidy may value :=
  tidy.inner _ (mem_of_find? found)

theorem mono {also : Setting → Prop} (weaker : ∀ value, may value → also value)
    (tidy : Tidy may value) : Tidy also value := by
  induction tidy with
  | table distinct _ ih => exact .table distinct ih
  | other single fits => exact .other single (weaker _ fits)

theorem upsert (tidy : Tidy may (.table members)) (name : String) (new : Tidy may value) :
    Tidy may (.table (upsert name value members)) := by
  refine .table (nodup_upsert name value tidy.distinct) fun member found => ?_
  rcases mem_upsert found with same | old
  · exact same ▸ new
  · exact tidy.inner member old

theorem empty : Tidy may (.table []) := .table List.nodup_nil (by simp)

theorem resolve (inner : ∀ member ∈ members, Tidy may member.2) :
    Tidy may (.table (resolve members)) := by
  have grown : ∀ known, Tidy may (.table known) → Tidy may (.table
      (members.foldl (fun known member => Setting.upsert member.1 member.2 known) known)) := by
    induction members with
    | nil => exact fun _ tidy => tidy
    | cons first rest ih =>
      obtain ⟨new, others⟩ := List.forall_mem_cons.1 inner
      exact fun known tidy => ih others _ (tidy.upsert first.1 new)
  exact grown [] empty

mutual
theorem overlay {lower : Setting} (upper : Setting) (below : Tidy may lower)
    (above : Tidy may upper) : Tidy may (Layers.overlay lower upper) := by
  cases upper with
  | table members =>
    cases lower with
    | table known => exact overlayMembers members below above.inner
    | _ => exact above
  | _ => exact above

theorem overlayMembers {known : List (String × Setting)} (members : List (String × Setting))
    (below : Tidy may (.table known))
    (inner : ∀ member ∈ members, Tidy may member.2) :
    Tidy may (.table (Layers.overlayMembers known members)) := by
  cases members with
  | nil => exact below
  | cons member rest =>
    obtain ⟨name, value⟩ := member
    obtain ⟨new, others⟩ := List.forall_mem_cons.1 inner
    rw [Layers.overlayMembers]
    refine overlayMembers rest (below.upsert name ?_) others
    cases found : find? known name with
    | none => exact new
    | some old => exact overlay value (below.of_find? found) new
end

end Tidy
end Setting

end Faultline
