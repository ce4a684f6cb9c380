import Faultline.Json.Basic
import Faultline.Text.Lines

/-!
The shape of a value. Its texts are found at any depth, and cutting them leaves all else as it was.
-/

namespace Faultline

theorem Text.length_truncate_le (n : Nat) (s : String) : (truncate n s).length ≤ n := by
  rw [truncate, String.length_ofList]
  exact List.length_take_le n s.toList

theorem Text.truncate_truncate (m n : Nat) (s : String) :
    truncate m (truncate n s) = truncate (min m n) s := by
  unfold truncate
  rw [String.toList_ofList, List.take_take]

theorem Text.truncate_of_length_le {n : Nat} {s : String} (short : s.length ≤ n) :
    truncate n s = s := by
  rw [truncate, List.take_of_length_le short, String.ofList_toList]

namespace Json

mutual
/-- The texts in a value, at any depth. The names of members are not among them. -/
def texts : Json → List String
  | .string s => [s]
  | .array items => textsItems items
  | .object members => textsMembers members
  | _ => []

def textsItems : List Json → List String
  | [] => []
  | item :: rest => item.texts ++ textsItems rest

def textsMembers : List (String × Json) → List String
  | [] => []
  | (_, value) :: rest => value.texts ++ textsMembers rest
end

mutual
/-- The value with each of its texts cut to the first `n` characters. -/
def cut (n : Nat) : Json → Json
  | .string s => .string (Text.truncate n s)
  | .array items => .array (cutItems n items)
  | .object members => .object (cutMembers n members)
  | value => value

def cutItems (n : Nat) : List Json → List Json
  | [] => []
  | item :: rest => item.cut n :: cutItems n rest

def cutMembers (n : Nat) : List (String × Json) → List (String × Json)
  | [] => []
  | (name, value) :: rest => (name, value.cut n) :: cutMembers n rest
end

theorem cutItems_eq_map (n : Nat) (items : List Json) : cutItems n items = items.map (cut n) := by
  induction items with
  | nil => rfl
  | cons item rest ih => rw [cutItems, ih, List.map_cons]

theorem cutMembers_eq_map (n : Nat) (members : List (String × Json)) :
    cutMembers n members = members.map fun member => (member.1, member.2.cut n) := by
  induction members with
  | nil => rfl
  | cons member rest ih => rw [cutMembers, ih, List.map_cons]

mutual
theorem cut_cut (m n : Nat) (value : Json) : (value.cut n).cut m = value.cut (min m n) := by
  cases value with
  | string s => simp only [cut, Text.truncate_truncate]
  | array items => simp only [cut, cutItems_cut]
  | object members => simp only [cut, cutMembers_cut]
  | null | bool | integer | decimal => rfl

theorem cutItems_cut (m n : Nat) (items : List Json) :
    cutItems m (cutItems n items) = cutItems (min m n) items := by
  cases items with
  | nil => rfl
  | cons item rest => simp only [cutItems, cut_cut, cutItems_cut]

theorem cutMembers_cut (m n : Nat) (members : List (String × Json)) :
    cutMembers m (cutMembers n members) = cutMembers (min m n) members := by
  cases members with
  | nil => rfl
  | cons member rest => simp only [cutMembers, cut_cut, cutMembers_cut]
end

mutual
theorem cut_of_short {n : Nat} (value : Json) (short : ∀ text ∈ value.texts, text.length ≤ n) :
    value.cut n = value := by
  cases value with
  | string s => rw [cut, Text.truncate_of_length_le (short s (List.mem_singleton_self s))]
  | array items => rw [cut, cutItems_of_short items short]
  | object members => rw [cut, cutMembers_of_short members short]
  | null | bool | integer | decimal => rfl

theorem cutItems_of_short {n : Nat} (items : List Json)
    (short : ∀ text ∈ textsItems items, text.length ≤ n) : cutItems n items = items := by
  cases items with
  | nil => rfl
  | cons item rest =>
    rw [textsItems, List.forall_mem_append] at short
    rw [cutItems, cut_of_short item short.1, cutItems_of_short rest short.2]

theorem cutMembers_of_short {n : Nat} (members : List (String × Json))
    (short : ∀ text ∈ textsMembers members, text.length ≤ n) : cutMembers n members = members := by
  cases members with
  | nil => rfl
  | cons member rest =>
    rw [textsMembers, List.forall_mem_append] at short
    rw [cutMembers, cut_of_short member.2 short.1, cutMembers_of_short rest short.2]
end

variable (n : Nat)

mutual
theorem nesting_cut (value : Json) : (value.cut n).nesting = value.nesting := by
  cases value with
  | array items => simp only [cut, nesting, nestingItems_cut]
  | object members => simp only [cut, nesting, nestingMembers_cut]
  | null | bool | integer | decimal | string => rfl

theorem nestingItems_cut (items : List Json) :
    nestingItems (cutItems n items) = nestingItems items := by
  cases items with
  | nil => rfl
  | cons item rest => simp only [cutItems, nestingItems, nesting_cut, nestingItems_cut]

theorem nestingMembers_cut (members : List (String × Json)) :
    nestingMembers (cutMembers n members) = nestingMembers members := by
  cases members with
  | nil => rfl
  | cons member rest => simp only [cutMembers, nestingMembers, nesting_cut, nestingMembers_cut]
end

theorem names_cutMembers (members : List (String × Json)) :
    (cutMembers n members).map Prod.fst = members.map Prod.fst := by
  rw [cutMembers_eq_map, List.map_map]
  rfl

mutual
theorem texts_cut (value : Json) :
    (value.cut n).texts = value.texts.map (Text.truncate n) := by
  cases value with
  | string s => rfl
  | array items => simp only [cut, texts, textsItems_cut]
  | object members => simp only [cut, texts, textsMembers_cut]
  | null | bool | integer | decimal => rfl

theorem textsItems_cut (items : List Json) :
    textsItems (cutItems n items) = (textsItems items).map (Text.truncate n) := by
  cases items with
  | nil => rfl
  | cons item rest =>
    simp only [cutItems, textsItems, texts_cut, textsItems_cut, List.map_append]

theorem textsMembers_cut (members : List (String × Json)) :
    textsMembers (cutMembers n members) = (textsMembers members).map (Text.truncate n) := by
  cases members with
  | nil => rfl
  | cons member rest =>
    simp only [cutMembers, textsMembers, texts_cut, textsMembers_cut, List.map_append]
end

end Json
end Faultline
