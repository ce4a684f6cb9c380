import Faultline.Http.Headers

/-!
The values of a header after other ones were inserted, and after the fields of one head were taken
over by another.
-/

namespace Faultline.Headers

theorem isReadable_append (s t : String) :
    isReadable (s ++ t) = (isReadable s && isReadable t) := by
  unfold isReadable
  rw [String.toList_append, List.all_append]

variable (headers : Headers) (name value : String)

@[simp] theorem values_insert : (headers.insert name value).values name = [value] := by
  unfold values insert
  rw [List.filter_append, List.filter_filter]
  simp

@[simp] theorem values_insert_of_ne {other : String} (different : other ≠ name) :
    (headers.insert name value).values other = headers.values other := by
  unfold values insert
  rw [List.filter_append, List.filter_filter]
  have kept : ∀ field : String × String,
      (field.1 == other && field.1 != name) = (field.1 == other) := by
    intro field
    by_cases equal : field.1 = other
    · simp [equal, different]
    · simp [equal]
  simp [kept, Ne.symm different]

/-! ### Several fields inserted -/

section

variable {headers}

theorem eq_of_fields {other : Headers} (same : headers.fields = other.fields) :
    headers = other := by
  cases headers
  cases other
  cases same
  rfl

end

def insertAll (headers : Headers) (given : List (String × String)) : Headers :=
  given.foldl (fun headers field => headers.insert field.1 field.2) headers

variable {given again : List (String × String)}

theorem values_insertAll_of_not_mem {other : String} (absent : other ∉ given.map Prod.fst) :
    (headers.insertAll given).values other = headers.values other := by
  induction given generalizing headers with
  | nil => rfl
  | cons field rest ih =>
    rw [List.map_cons, List.mem_cons, not_or] at absent
    exact (ih _ absent.2).trans (values_insert_of_ne headers _ _ absent.1)

theorem fields_insertAll (distinct : (given.map Prod.fst).Nodup) :
    (headers.insertAll given).fields =
      (headers.fields.filter fun field => !(given.map Prod.fst).contains field.1) ++ given := by
  induction given generalizing headers with
  | nil => exact ((List.append_nil _).trans (List.filter_eq_self.2 fun _ _ => rfl)).symm
  | cons field rest ih =>
    rw [List.map_cons, List.nodup_cons] at distinct
    have kept : (rest.map Prod.fst).contains field.1 = false := by
      rw [List.contains_eq_mem]
      exact decide_eq_false distinct.1
    refine (ih _ distinct.2).trans ?_
    simp only [insert, List.filter_append, List.filter_filter, List.filter_cons, kept,
      List.filter_nil, Bool.not_false, if_true, List.append_assoc, List.singleton_append]
    congr 2
    funext other
    rw [List.map_cons, List.contains_cons, Bool.not_or, Bool.and_comm]
    rfl

theorem insertAll_insertAll (names : again.map Prod.fst = given.map Prod.fst)
    (distinct : (given.map Prod.fst).Nodup) :
    (headers.insertAll given).insertAll again = headers.insertAll again := by
  have replaced : (given.filter fun field => !(given.map Prod.fst).contains field.1) = [] := by
    rw [List.filter_eq_nil_iff]
    intro field member
    simp only [List.contains_iff_mem.2 (List.mem_map_of_mem member), Bool.not_true,
      Bool.false_eq_true, not_false_eq_true]
  refine eq_of_fields ?_
  rw [fields_insertAll _ (names ▸ distinct), fields_insertAll _ distinct,
    fields_insertAll _ (names ▸ distinct), names, List.filter_append, replaced,
    List.filter_filter, List.append_nil]
  simp only [Bool.and_self]

/-! ### Fields taken over from another head -/

theorem values_concat (other : String) :
    (⟨headers.fields ++ [(name, value)]⟩ : Headers).values other =
      headers.values other ++ if name = other then [value] else [] := by
  unfold values
  rw [List.filter_append, List.map_append]
  by_cases equal : name = other <;> simp [equal]

theorem values_foldl_concat (more : List String) (other : String) :
    (more.foldl (fun headers value => ⟨headers.fields ++ [(name, value)]⟩) headers).values other =
      headers.values other ++ if name = other then more else [] := by
  induction more generalizing headers with
  | nil => simp
  | cons value more ih =>
    rw [List.foldl_cons, ih, values_concat, List.append_assoc]
    by_cases equal : name = other <;> simp [equal]

@[simp] theorem values_put (entry : Entry) (other : String) :
    (headers.put entry).values other =
      if entry.name = other then entry.values else headers.values other := by
  unfold put
  rw [values_foldl_concat]
  by_cases equal : entry.name = other
  · subst equal
    simp [Entry.values]
  · simp [equal, Ne.symm equal]

theorem values_of_mem_entriesOf {fields : List (String × String)} {entry : Entry}
    (member : entry ∈ entriesOf fields) :
    entry.values = (⟨fields⟩ : Headers).values entry.name := by
  induction fields with
  | nil => cases member
  | cons field rest ih =>
    rw [entriesOf, List.mem_cons, List.mem_filter, bne_iff_ne] at member
    rcases member with rfl | ⟨member, different⟩
    · simp [Entry.values, values]
    · rw [ih member]
      simp [values, Ne.symm different]

theorem mem_names_entriesOf {fields : List (String × String)} :
    name ∈ (entriesOf fields).map Entry.name ↔ name ∈ fields.map Prod.fst := by
  induction fields with
  | nil => exact Iff.rfl
  | cons field rest ih =>
    by_cases equal : name = field.1
    · simp [entriesOf, equal]
    · have kept : name ∈ ((entriesOf rest).filter fun entry => entry.name != field.1).map
          Entry.name ↔ name ∈ (entriesOf rest).map Entry.name := by
        simp only [List.mem_map, List.mem_filter, bne_iff_ne]
        constructor
        · rintro ⟨entry, ⟨member, -⟩, rfl⟩
          exact ⟨entry, member, rfl⟩
        · rintro ⟨entry, member, rfl⟩
          exact ⟨entry, ⟨member, equal⟩, rfl⟩
      rw [entriesOf, List.map_cons, List.mem_cons, kept, ih, List.map_cons, List.mem_cons]

/-- Where several entries of a name agree on its values, putting them gives it these values. -/
theorem values_foldl_put {entries : List Entry} {given : List String}
    (agree : ∀ entry ∈ entries, entry.name = name → entry.values = given) :
    (entries.foldl put headers).values name =
      if name ∈ entries.map Entry.name then given else headers.values name := by
  induction entries generalizing headers with
  | nil => rfl
  | cons entry rest ih =>
    rw [List.foldl_cons, ih _ fun other member => agree other (List.mem_cons_of_mem _ member),
      values_put]
    by_cases equal : entry.name = name
    · simp [equal, agree entry List.mem_cons_self equal]
    · simp [equal, Ne.symm equal]

/-- A head that takes over the fields of another has all their values in order, and keeps its own
of the other names. -/
theorem values_extend (other : Headers) :
    (headers.extend other).values name =
      if name ∈ other.fields.map Prod.fst then other.values name else headers.values name := by
  have agree : ∀ entry ∈ other.entries, entry.name = name → entry.values = other.values name := by
    rintro entry member rfl
    exact values_of_mem_entriesOf member
  unfold extend
  rw [values_foldl_put headers name agree]
  unfold entries
  simp only [mem_names_entriesOf]

@[simp] theorem values_empty_extend (other : Headers) :
    (empty.extend other).values name = other.values name := by
  rw [values_extend]
  split
  next => rfl
  next absent =>
    symm
    show (other.fields.filter fun field => field.1 == name).map Prod.snd = []
    rw [List.map_eq_nil_iff, List.filter_eq_nil_iff]
    intro field member equal
    exact absent (List.mem_map.2 ⟨field, member, beq_iff_eq.1 equal⟩)

end Faultline.Headers
