import Faultline.Decimal.Basic

/-!
JSON values. An object is a list of members in order; `Members` are the members of an object with
distinct names, where a repeated name keeps its first position and takes its last value.
-/

namespace Faultline

inductive Json where
  | null
  | bool (value : Bool)
  | integer (value : Int)
  | decimal (value : Decimal)
  | string (value : String)
  | array (items : List Json)
  | object (members : List (String × Json))
  deriving Repr

namespace Json

instance : Inhabited Json := ⟨.null⟩

mutual
def decideEq : (a b : Json) → Decidable (a = b)
  | .null, .null => .isTrue rfl
  | .bool a, .bool b => decidable_of_iff (a = b) (by simp)
  | .integer a, .integer b => decidable_of_iff (a = b) (by simp)
  | .decimal a, .decimal b => decidable_of_iff (a = b) (by simp)
  | .string a, .string b => decidable_of_iff (a = b) (by simp)
  | .array a, .array b =>
    have := decideEqItems a b
    decidable_of_iff (a = b) (by simp)
  | .object a, .object b =>
    have := decideEqMembers a b
    decidable_of_iff (a = b) (by simp)
  | .null, .bool _ | .null, .integer _ | .null, .decimal _ | .null, .string _ | .null, .array _
  | .null, .object _ | .bool _, .null | .bool _, .integer _ | .bool _, .decimal _
  | .bool _, .string _ | .bool _, .array _ | .bool _, .object _ | .integer _, .null
  | .integer _, .bool _ | .integer _, .decimal _ | .integer _, .string _ | .integer _, .array _
  | .integer _, .object _ | .decimal _, .null | .decimal _, .bool _ | .decimal _, .integer _
  | .decimal _, .string _ | .decimal _, .array _ | .decimal _, .object _ | .string _, .null
  | .string _, .bool _ | .string _, .integer _ | .string _, .decimal _ | .string _, .array _
  | .string _, .object _ | .array _, .null | .array _, .bool _ | .array _, .integer _
  | .array _, .decimal _ | .array _, .string _ | .array _, .object _ | .object _, .null
  | .object _, .bool _ | .object _, .integer _ | .object _, .decimal _ | .object _, .string _
  | .object _, .array _ => .isFalse (by simp)

def decideEqItems : (a b : List Json) → Decidable (a = b)
  | [], [] => .isTrue rfl
  | [], _ :: _ | _ :: _, [] => .isFalse (by simp)
  | x :: xs, y :: ys =>
    have := decideEq x y
    have := decideEqItems xs ys
    decidable_of_iff (x = y ∧ xs = ys) (by simp)

def decideEqMembers : (a b : List (String × Json)) → Decidable (a = b)
  | [], [] => .isTrue rfl
  | [], _ :: _ | _ :: _, [] => .isFalse (by simp)
  | (k, x) :: xs, (l, y) :: ys =>
    have := decideEq x y
    have := decideEqMembers xs ys
    decidable_of_iff ((k = l ∧ x = y) ∧ xs = ys) (by simp)
end

instance : DecidableEq Json := decideEq

mutual
/-- How deep arrays and objects are nested in a value: a scalar has 0, an empty collection 1. -/
def nesting : Json → Nat
  | .array items => nestingItems items + 1
  | .object members => nestingMembers members + 1
  | _ => 0

def nestingItems : List Json → Nat
  | [] => 0
  | item :: rest => max item.nesting (nestingItems rest)

def nestingMembers : List (String × Json) → Nat
  | [] => 0
  | (_, item) :: rest => max item.nesting (nestingMembers rest)
end

def find? (members : List (String × Json)) (key : String) : Option Json :=
  (members.find? fun member => member.1 == key).map (·.2)

/-- Adds a member, or gives the member of that name a new value where it stands. -/
def upsert (key : String) (value : Json) : List (String × Json) → List (String × Json)
  | [] => [(key, value)]
  | (k, v) :: rest => if k = key then (k, value) :: rest else (k, v) :: upsert key value rest

def resolve (members : List (String × Json)) : List (String × Json) :=
  members.foldl (fun known member => upsert member.1 member.2 known) []

mutual
/-- Equality up to the order of members and the sign of zero. -/
def same : Json → Json → Bool
  | .null, .null => true
  | .bool a, .bool b => a == b
  | .integer a, .integer b => a == b
  | .decimal a, .decimal b => a.same b
  | .string a, .string b => a == b
  | .array a, .array b => sameItems a b
  | .object a, .object b => a.length == b.length && sameMembers a b
  | _, _ => false

def sameItems : List Json → List Json → Bool
  | [], [] => true
  | x :: xs, y :: ys => same x y && sameItems xs ys
  | _, _ => false

def sameMembers : List (String × Json) → List (String × Json) → Bool
  | [], _ => true
  | (key, x) :: rest, others =>
    (match find? others key with
      | some y => same x y
      | none => false) && sameMembers rest others
end

def string? : Json → Option String
  | .string s => some s
  | _ => none

def int64? : Json → Option Int
  | .integer n => if -Nat.pow 2 63 ≤ n ∧ n < Nat.pow 2 63 then some n else none
  | _ => none

end Json

/-- Members with distinct names, in order. -/
structure Members where
  entries : List (String × Json)
  distinct : (entries.map Prod.fst).Nodup
  deriving DecidableEq

namespace Members

theorem mem_keys_upsert (key k : String) (value : Json) (entries : List (String × Json)) :
    k ∈ (Json.upsert key value entries).map Prod.fst ↔ k = key ∨ k ∈ entries.map Prod.fst := by
  induction entries with
  | nil => simp [Json.upsert]
  | cons entry rest ih =>
    obtain ⟨l, v⟩ := entry
    by_cases h : l = key
    · subst h; simp [Json.upsert]
    · simp only [Json.upsert, h, if_false, List.map_cons, List.mem_cons, ih]
      constructor
      · rintro (rfl | rfl | h) <;> simp_all
      · rintro (rfl | rfl | h) <;> simp_all

theorem nodup_upsert (key : String) (value : Json) (entries : List (String × Json))
    (h : (entries.map Prod.fst).Nodup) : ((Json.upsert key value entries).map Prod.fst).Nodup := by
  induction entries with
  | nil => simp [Json.upsert]
  | cons entry rest ih =>
    obtain ⟨l, v⟩ := entry
    by_cases hl : l = key
    · subst hl; simpa [Json.upsert] using h
    · simp only [List.map_cons, List.nodup_cons] at h
      simp only [Json.upsert, hl, if_false, List.map_cons, List.nodup_cons]
      refine ⟨fun hm => ?_, ih h.2⟩
      rcases (mem_keys_upsert key l value rest).1 hm with rfl | hm
      · exact hl rfl
      · exact h.1 hm

def empty : Members := ⟨[], .nil⟩

instance : Inhabited Members := ⟨empty⟩

def get? (members : Members) (key : String) : Option Json := Json.find? members.entries key

def insert (members : Members) (key : String) (value : Json) : Members :=
  ⟨Json.upsert key value members.entries, nodup_upsert key value _ members.distinct⟩

def ofList (entries : List (String × Json)) : Members :=
  entries.foldl (fun members entry => members.insert entry.1 entry.2) empty

def same (a b : Members) : Bool := Json.same (.object a.entries) (.object b.entries)

end Members
end Faultline
