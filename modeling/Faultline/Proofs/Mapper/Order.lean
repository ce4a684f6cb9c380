import Mathlib.Data.List.Sort
import Faultline.Mapper.Registry

/-!
The order by priority is a stable sort. What is found from its front, and what stands at its end, is
said here of the registrations in the order in which they were made; and registrations that only
change places with those of another priority or sort are ordered alike.
-/

namespace Faultline.Registration

abbrev Above (a b : Registration) : Prop := b.priority ≤ a.priority

instance : Std.Total Above := ⟨fun a b => Int.le_total b.priority a.priority⟩

instance : IsTrans Registration Above := ⟨fun _ _ _ first second => Int.le_trans second first⟩

theorem insertByPriority_eq_orderedInsert (r : Registration) (l : List Registration) :
    insertByPriority r l = l.orderedInsert Above r := by
  induction l with
  | nil => rfl
  | cons other rest ih => simp only [insertByPriority, List.orderedInsert_cons, ih]

theorem insertByPriority_ne_nil (r : Registration) (l : List Registration) :
    insertByPriority r l ≠ [] := by
  intro empty
  have length := congrArg List.length (insertByPriority_eq_orderedInsert r l ▸ empty)
  rw [List.orderedInsert_length] at length
  simp at length

theorem byPriority_eq_insertionSort (l : List Registration) :
    byPriority l = l.insertionSort Above := by
  unfold byPriority List.insertionSort
  congr 1
  funext r rest
  exact insertByPriority_eq_orderedInsert r rest

theorem byPriority_cons (r : Registration) (l : List Registration) :
    byPriority (r :: l) = insertByPriority r (byPriority l) := rfl

theorem byPriority_perm (l : List Registration) : (byPriority l).Perm l := by
  rw [byPriority_eq_insertionSort]
  exact List.perm_insertionSort Above l

theorem mem_byPriority {r : Registration} {l : List Registration} : r ∈ byPriority l ↔ r ∈ l :=
  (byPriority_perm l).mem_iff

theorem byPriority_eq_nil {l : List Registration} : byPriority l = [] ↔ l = [] := by
  constructor
  · intro empty
    exact (empty ▸ byPriority_perm l).symm.eq_nil
  · rintro rfl
    rfl

theorem byPriority_descends (l : List Registration) : (byPriority l).Pairwise Above := by
  rw [byPriority_eq_insertionSort]
  exact List.pairwise_insertionSort Above l

/-! ### The choice among registrations -/

/-- The registration stands in the list so that `earlier` holds of it and each eligible one before
it, and `later` of it and each eligible one after it. -/
def IsChosen (earlier later : Registration → Registration → Prop)
    (eligible : Registration → Bool) (l : List Registration) (r : Registration) : Prop :=
  ∃ before after, l = before ++ r :: after ∧ eligible r = true ∧
    (∀ s ∈ before, eligible s = true → earlier s r) ∧
    ∀ s ∈ after, eligible s = true → later s r

/-- Of the eligible registrations none has a higher priority, and none before it the same. -/
def IsFirstOfHighest (eligible : Registration → Bool) (l : List Registration) (r : Registration) :
    Prop :=
  IsChosen (fun s r => s.priority < r.priority) (fun s r => s.priority ≤ r.priority) eligible l r

/-- Of the eligible registrations none has a lower priority, and none after it the same. -/
def IsLastOfLowest (eligible : Registration → Bool) (l : List Registration) (r : Registration) :
    Prop :=
  IsChosen (fun s r => r.priority ≤ s.priority) (fun s r => r.priority < s.priority) eligible l r

section Chosen

variable {earlier later : Registration → Registration → Prop} {eligible : Registration → Bool}
  {l : List Registration} {r s : Registration}

theorem IsChosen.mem (chosen : IsChosen earlier later eligible l r) : r ∈ l := by
  obtain ⟨before, after, rfl, -⟩ := chosen
  simp

theorem IsChosen.accepted (chosen : IsChosen earlier later eligible l r) : eligible r = true := by
  obtain ⟨before, after, -, accepted, -⟩ := chosen
  exact accepted

theorem isChosen_cons :
    IsChosen earlier later eligible (r :: l) s ↔
      (r = s ∧ eligible r = true ∧ ∀ t ∈ l, eligible t = true → later t r) ∨
      (IsChosen earlier later eligible l s ∧ (eligible r = true → earlier r s)) := by
  constructor
  · rintro ⟨before, after, shape, accepted, first, second⟩
    cases before with
    | nil =>
      obtain ⟨rfl, rfl⟩ := List.cons.inj shape
      exact .inl ⟨rfl, accepted, second⟩
    | cons head before =>
      obtain ⟨rfl, rfl⟩ := List.cons.inj shape
      exact .inr ⟨⟨before, after, rfl, accepted,
        fun t present => first t (List.mem_cons_of_mem _ present), second⟩,
        first r List.mem_cons_self⟩
  · rintro (⟨rfl, accepted, second⟩ | ⟨⟨before, after, rfl, accepted, first, second⟩, head⟩)
    · exact ⟨[], l, rfl, accepted, by simp, second⟩
    · refine ⟨r :: before, after, rfl, accepted, ?_, second⟩
      intro t present
      rcases List.mem_cons.1 present with rfl | present
      · exact head
      · exact first t present

theorem isChosen_append {m : List Registration} :
    IsChosen earlier later eligible (l ++ m) s ↔
      (IsChosen earlier later eligible l s ∧ ∀ t ∈ m, eligible t = true → later t s) ∨
      (IsChosen earlier later eligible m s ∧ ∀ t ∈ l, eligible t = true → earlier t s) := by
  induction l with
  | nil => simp [IsChosen]
  | cons r rest ih =>
    rw [List.cons_append, isChosen_cons, isChosen_cons, ih]
    simp only [List.forall_mem_append, List.forall_mem_cons]
    constructor
    · rintro (⟨rfl, accepted, second, after⟩ | ⟨⟨chosen, after⟩ | ⟨chosen, before⟩, head⟩)
      · exact .inl ⟨.inl ⟨rfl, accepted, second⟩, after⟩
      · exact .inl ⟨.inr ⟨chosen, head⟩, after⟩
      · exact .inr ⟨chosen, head, before⟩
    · rintro (⟨⟨rfl, accepted, second⟩ | ⟨chosen, head⟩, after⟩ | ⟨chosen, head, before⟩)
      · exact .inl ⟨rfl, accepted, second, after⟩
      · exact .inr ⟨.inl ⟨chosen, after⟩, head⟩
      · exact .inr ⟨.inr ⟨chosen, before⟩, head⟩

theorem isChosen_filter (keep : Registration → Bool) :
    IsChosen earlier later eligible (l.filter keep) s ↔
      IsChosen earlier later (fun t => keep t && eligible t) l s := by
  induction l with
  | nil => simp [IsChosen]
  | cons r rest ih =>
    cases kept : keep r with
    | true =>
      rw [List.filter_cons_of_pos kept, isChosen_cons, isChosen_cons, ih]
      simp only [List.mem_filter, kept, Bool.true_and, Bool.and_eq_true, and_imp]
    | false =>
      rw [List.filter_cons_of_neg (by simp [kept]), isChosen_cons, ih]
      simp [kept]

end Chosen

/-! ### Searching from the front, and the end -/

theorem find?_insertByPriority (accepts : Registration → Bool) (r s : Registration)
    (l : List Registration) (descends : l.Pairwise Above) :
    (insertByPriority r l).find? accepts = some s ↔
      (r = s ∧ accepts r = true ∧ ∀ t ∈ l, accepts t = true → t.priority ≤ r.priority) ∨
      (l.find? accepts = some s ∧ (accepts r = true → r.priority < s.priority)) := by
  induction l with
  | nil => simp [insertByPriority, and_comm]
  | cons other rest ih =>
    obtain ⟨below, descends⟩ := List.pairwise_cons.1 descends
    -- a new registration goes before those of its own priority
    by_cases here : other.priority ≤ r.priority
    · have lower : ∀ t ∈ other :: rest, t.priority ≤ r.priority := by
        intro t present
        rcases List.mem_cons.1 present with rfl | present
        · exact here
        · exact Int.le_trans (below t present) here
      simp only [insertByPriority, if_pos here]
      cases accepted : accepts r with
      | true =>
        rw [List.find?_cons_of_pos accepted, Option.some.injEq]
        refine ⟨fun same => .inl ⟨same, rfl, fun t present _ => lower t present⟩, ?_⟩
        rintro (⟨same, -⟩ | ⟨found, higher⟩)
        · exact same
        · have := lower s (List.mem_of_find?_eq_some found)
          have := higher rfl
          omega
      | false =>
        rw [List.find?_cons_of_neg (by simp [accepted])]
        simp
    · simp only [insertByPriority, if_neg here]
      cases accepted : accepts other with
      | true =>
        rw [List.find?_cons_of_pos accepted, List.find?_cons_of_pos accepted, Option.some.injEq]
        refine ⟨fun same => .inr ⟨same, fun _ => by subst same; omega⟩, ?_⟩
        rintro (⟨-, -, lower⟩ | ⟨same, -⟩)
        · exact absurd (lower other List.mem_cons_self accepted) here
        · exact same
      | false =>
        rw [List.find?_cons_of_neg (by simp [accepted]), ih descends,
          List.find?_cons_of_neg (by simp [accepted])]
        simp [accepted]

theorem find?_byPriority (accepts : Registration → Bool) (l : List Registration)
    (s : Registration) :
    (byPriority l).find? accepts = some s ↔ IsFirstOfHighest accepts l s := by
  unfold IsFirstOfHighest
  induction l with
  | nil => simp [byPriority, IsChosen]
  | cons r rest ih =>
    rw [byPriority_cons, find?_insertByPriority accepts r s _ (byPriority_descends rest), ih,
      isChosen_cons]
    simp only [mem_byPriority]

theorem getLast?_insertByPriority (r s : Registration) (l : List Registration)
    (descends : l.Pairwise Above) :
    (insertByPriority r l).getLast? = some s ↔
      (r = s ∧ ∀ t ∈ l, r.priority < t.priority) ∨
      (l.getLast? = some s ∧ s.priority ≤ r.priority) := by
  induction l with
  | nil => simp [insertByPriority]
  | cons other rest ih =>
    obtain ⟨below, descends⟩ := List.pairwise_cons.1 descends
    by_cases here : other.priority ≤ r.priority
    · simp only [insertByPriority, if_pos here, List.getLast?_cons_cons]
      constructor
      · intro last
        refine .inr ⟨last, ?_⟩
        rcases List.mem_cons.1 (List.mem_of_getLast? last) with rfl | present
        · exact here
        · exact Int.le_trans (below s present) here
      · rintro (⟨-, higher⟩ | ⟨last, -⟩)
        · have := higher other List.mem_cons_self
          omega
        · exact last
    · simp only [insertByPriority, if_neg here]
      -- the first one is not the last, since the new registration comes after it
      have tail : (other :: insertByPriority r rest).getLast? =
          (insertByPriority r rest).getLast? := by
        cases shape : insertByPriority r rest with
        | nil => exact absurd shape (insertByPriority_ne_nil r rest)
        | cons head tail => rw [List.getLast?_cons_cons]
      rw [tail, ih descends]
      have higher : r.priority < other.priority := by omega
      cases rest with
      | nil =>
        simp only [List.getLast?_nil, List.getLast?_singleton, Option.some.injEq, reduceCtorEq,
          false_and, or_false, List.mem_cons, List.not_mem_nil, forall_eq, higher, and_true,
          IsEmpty.forall_iff, implies_true]
        constructor
        · exact .inl
        · rintro (same | ⟨rfl, lower⟩)
          · exact same
          · omega
      | cons next rest => simp [List.getLast?_cons_cons, higher]

theorem getLast?_byPriority (l : List Registration) (s : Registration) :
    (byPriority l).getLast? = some s ↔ IsLastOfLowest (fun _ => true) l s := by
  unfold IsLastOfLowest
  induction l with
  | nil => simp [byPriority, IsChosen]
  | cons r rest ih =>
    rw [byPriority_cons, getLast?_insertByPriority r s _ (byPriority_descends rest), ih,
      isChosen_cons]
    simp [mem_byPriority]

/-! ### Registrations in another order -/

/-- The same registrations, where those of one priority and one sort are in the same order. -/
def Reordered (a b : List Registration) : Prop :=
  ∀ priority isFallback,
    a.filter (fun r => r.priority == priority && r.isFallback == isFallback) =
      b.filter fun r => r.priority == priority && r.isFallback == isFallback

theorem filter_priority_byPriority (priority : Int) (l : List Registration) :
    (byPriority l).filter (·.priority == priority) = l.filter (·.priority == priority) := by
  have level : (l.filter (·.priority == priority)).Pairwise Above := by
    apply List.pairwise_of_forall_mem_list
    intro a ha b hb
    have := beq_iff_eq.1 (List.mem_filter.1 ha).2
    have := beq_iff_eq.1 (List.mem_filter.1 hb).2
    show b.priority ≤ a.priority
    omega
  have kept : (l.filter (·.priority == priority)).Sublist (byPriority l) := by
    rw [byPriority_eq_insertionSort]
    exact List.sublist_insertionSort level List.filter_sublist
  have inside := kept.filter (·.priority == priority)
  rw [List.filter_filter] at inside
  simp only [Bool.and_self] at inside
  exact (inside.eq_of_length ((byPriority_perm l).filter _).length_eq.symm).symm

/-- A list that descends is known by what it holds of each priority. -/
theorem eq_of_descends {a b : List Registration} (first : a.Pairwise Above)
    (second : b.Pairwise Above)
    (same : ∀ priority : Int,
      a.filter (·.priority == priority) = b.filter (·.priority == priority)) :
    a = b := by
  induction a generalizing b with
  | nil =>
    cases b with
    | nil => rfl
    | cons s rest => simpa using same s.priority
  | cons r rest ih =>
    cases b with
    | nil => simpa using same r.priority
    | cons s others =>
      -- each of the two lists begins with its highest priority, and these are the same
      have upper : r.priority ≤ s.priority := by
        have member : r ∈ (s :: others).filter (·.priority == r.priority) := by
          rw [← same]; simp
        rcases List.mem_cons.1 (List.mem_filter.1 member).1 with rfl | later
        · exact Int.le_refl _
        · exact (List.pairwise_cons.1 second).1 r later
      have lower : s.priority ≤ r.priority := by
        have member : s ∈ (r :: rest).filter (·.priority == s.priority) := by
          rw [same]; simp
        rcases List.mem_cons.1 (List.mem_filter.1 member).1 with rfl | later
        · exact Int.le_refl _
        · exact (List.pairwise_cons.1 first).1 s later
      have level : s.priority = r.priority := by omega
      have heads := same r.priority
      rw [List.filter_cons_of_pos (by simp), List.filter_cons_of_pos (by simp [level])] at heads
      obtain ⟨rfl, -⟩ := List.cons.inj heads
      congr 1
      apply ih (List.pairwise_cons.1 first).2 (List.pairwise_cons.1 second).2
      intro priority
      have whole := same priority
      rw [List.filter_cons, List.filter_cons] at whole
      split at whole
      · exact (List.cons.inj whole).2
      · exact whole

theorem byPriority_reordered {a b : List Registration} (reordered : Reordered a b)
    (isFallback : Bool) :
    byPriority (a.filter (·.isFallback == isFallback)) =
      byPriority (b.filter (·.isFallback == isFallback)) := by
  apply eq_of_descends (byPriority_descends _) (byPriority_descends _)
  intro priority
  rw [filter_priority_byPriority, filter_priority_byPriority, List.filter_filter,
    List.filter_filter]
  exact reordered priority isFallback

end Faultline.Registration
