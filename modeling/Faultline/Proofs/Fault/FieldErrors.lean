import Mathlib.Data.List.Induction
import Faultline.Fault.AppError
import Faultline.Proofs.Text.Bytes

/-!
Messages gathered by field. Main statement: each field that a message was given for comes once, in
the order of their bytes, with all of its messages in the order in which they were given.
-/

namespace Faultline.FieldErrors

def fields (errors : FieldErrors) : List String := errors.map Prod.fst

def messagesFor (given : List (String × String)) (field : String) : List String :=
  (given.filter (·.1 == field)).map Prod.snd

/-- The fields that messages were given for, in order, with all their messages. -/
structure Gathers (errors : FieldErrors) (given : List (String × String)) : Prop where
  ordered : errors.fields.Pairwise (· < ·)
  named : ∀ field, field ∈ errors.fields ↔ field ∈ given.map Prod.fst
  complete : ∀ entry ∈ errors, entry.2 = messagesFor given entry.1

variable {errors : FieldErrors} {given : List (String × String)} {field message : String}

theorem messagesFor_concat (other : String) :
    messagesFor (given ++ [(field, message)]) other =
      messagesFor given other ++ if field = other then [message] else [] := by
  unfold messagesFor
  rw [List.filter_append, List.map_append]
  by_cases same : field = other <;> simp [same]

theorem messagesFor_eq_nil (absent : field ∉ given.map Prod.fst) :
    messagesFor given field = [] := by
  rw [messagesFor, List.map_eq_nil_iff, List.filter_eq_nil_iff]
  intro entry member same
  exact absent (List.mem_map.2 ⟨entry, member, eq_of_beq same⟩)

/-! ### One message -/

theorem mem_fields_add (other : String) :
    other ∈ (errors.add field message).fields ↔ other = field ∨ other ∈ errors.fields := by
  induction errors with
  | nil => simp [add, fields]
  | cons entry rest ih =>
    obtain ⟨known, messages⟩ := entry
    rw [add]
    split_ifs with same before
    · simp [fields, same]
    · simp [fields]
    · simp only [fields, List.map_cons, List.mem_cons] at ih ⊢
      rw [ih, or_left_comm]

theorem ordered_add (ordered : errors.fields.Pairwise (· < ·)) :
    (errors.add field message).fields.Pairwise (· < ·) := by
  induction errors with
  | nil => exact List.pairwise_singleton _ _
  | cons entry rest ih =>
    obtain ⟨known, messages⟩ := entry
    obtain ⟨first, later⟩ := List.pairwise_cons.1 ordered
    rw [add]
    split_ifs with same before
    · exact ordered
    · refine List.pairwise_cons.2 ⟨?_, ordered⟩
      intro other member
      rcases List.mem_cons.1 member with rfl | member
      · exact before
      · exact before.trans (first other member)
    · refine List.pairwise_cons.2 ⟨?_, ih later⟩
      intro other member
      rcases (mem_fields_add other).1 member with rfl | member
      · exact lt_of_le_of_ne (not_lt.1 before) (Ne.symm same)
      · exact first other member

theorem mem_add (ordered : errors.fields.Pairwise (· < ·)) {entry : String × List String}
    (member : entry ∈ errors.add field message) :
    (∃ known, (field, known) ∈ errors ∧ entry = (field, known ++ [message])) ∨
      (field ∉ errors.fields ∧ entry = (field, [message])) ∨
      (entry.1 ≠ field ∧ entry ∈ errors) := by
  induction errors with
  | nil => exact .inr (.inl ⟨List.not_mem_nil, List.mem_singleton.1 member⟩)
  | cons head rest ih =>
    obtain ⟨known, messages⟩ := head
    obtain ⟨first, later⟩ := List.pairwise_cons.1 ordered
    have apart (other : String × List String) (inside : other ∈ rest) : known < other.1 :=
      first other.1 (List.mem_map_of_mem inside)
    rw [add] at member
    split_ifs at member with same before
    · subst same
      rcases List.mem_cons.1 member with rfl | inside
      · exact .inl ⟨messages, List.mem_cons_self, rfl⟩
      · exact .inr (.inr ⟨(apart entry inside).ne', List.mem_cons_of_mem _ inside⟩)
    -- the fields ascend, so one before the first of them is not there yet
    · have fresh : field ∉ fields ((known, messages) :: rest) := by
        intro named
        rcases List.mem_cons.1 named with equal | named
        · exact same equal
        · exact lt_asymm before (first field named)
      rcases List.mem_cons.1 member with rfl | inside
      · exact .inr (.inl ⟨fresh, rfl⟩)
      · refine .inr (.inr ⟨?_, inside⟩)
        rintro rfl
        exact fresh (List.mem_map_of_mem inside)
    · rcases List.mem_cons.1 member with rfl | inside
      · exact .inr (.inr ⟨Ne.symm same, List.mem_cons_self⟩)
      · rcases ih later inside with ⟨before, old, rfl⟩ | ⟨fresh, rfl⟩ | ⟨other, old⟩
        · exact .inl ⟨before, List.mem_cons_of_mem _ old, rfl⟩
        · exact .inr (.inl ⟨List.not_mem_cons_of_ne_of_not_mem same fresh, rfl⟩)
        · exact .inr (.inr ⟨other, List.mem_cons_of_mem _ old⟩)

theorem Gathers.add (gathers : errors.Gathers given) :
    (errors.add field message).Gathers (given ++ [(field, message)]) where
  ordered := ordered_add gathers.ordered
  named other := by
    rw [mem_fields_add, gathers.named, List.map_append, List.mem_append, List.map_singleton,
      List.mem_singleton, or_comm]
  complete entry member := by
    rcases mem_add gathers.ordered member with ⟨known, old, rfl⟩ | ⟨fresh, rfl⟩ | ⟨other, old⟩
    · rw [messagesFor_concat, if_pos rfl, ← gathers.complete _ old]
    · rw [messagesFor_concat, if_pos rfl,
        messagesFor_eq_nil (mt (gathers.named field).2 fresh), List.nil_append]
    · rw [messagesFor_concat, if_neg (Ne.symm other), List.append_nil, gathers.complete _ old]

/-! ### All messages -/

theorem gathers_ofList (given : List (String × String)) : (ofList given).Gathers given := by
  induction given using List.reverseRecOn with
  | nil => exact ⟨.nil, fun _ => .rfl, fun _ member => nomatch member⟩
  | append_singleton given last ih =>
    rw [ofList, List.foldl_append]
    exact ih.add

example : ofList [("total", "is negative"), ("date", "is past"), ("total", "is odd")] =
    [("date", ["is past"]), ("total", ["is negative", "is odd"])] := by decide +kernel

theorem Gathers.eq_map (gathers : errors.Gathers given) :
    errors = errors.fields.map fun field => (field, messagesFor given field) := by
  rw [fields, List.map_map]
  conv_lhs => rw [← List.map_id errors]
  refine List.map_congr_left fun entry member => ?_
  exact Prod.ext rfl (gathers.complete entry member)

theorem ofList_eq_nil_iff : ofList given = [] ↔ given = [] := by
  have named := (gathers_ofList given).named
  constructor
  · intro empty
    rw [empty] at named
    exact List.map_eq_nil_iff.1 (List.eq_nil_iff_forall_not_mem.2 fun field member =>
      nomatch (named field).2 member)
  · rintro rfl
    rfl

theorem Gathers.ordered_bytes (gathers : errors.Gathers given) :
    errors.fields.Pairwise fun a b => Text.bytes a < Text.bytes b :=
  gathers.ordered.imp Text.bytes_lt

end Faultline.FieldErrors
