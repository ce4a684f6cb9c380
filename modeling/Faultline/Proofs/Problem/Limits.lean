import Faultline.Proofs.Journal
import Faultline.Proofs.Json.Members
import Faultline.Proofs.Json.Shape
import Faultline.Proofs.Problem.Members

/-!
What limits leave of extension members. Main statements: the members that stay are those of the
first ones that meet all conditions, in order and with their texts cut, and a validator is asked
once about each of the first ones, as it was given.
-/

namespace Faultline

namespace Limits

section
variable {α β γ : Type} {depth most n k : Nat}

private theorem nested_eq (x : α) (f : α → β) :
    (if depth < most then (if depth + 1 + n ≤ most then some x else none).map f else none) =
      if depth + (n + 1) ≤ most then some (f x) else none := by
  have levels : depth + 1 + n = depth + (n + 1) := by omega
  rw [levels]
  by_cases fits : depth + (n + 1) ≤ most
  · have deeper : depth < most := by omega
    simp only [deeper, fits, if_true, Option.map_some]
  · simp only [fits, if_false, Option.map_none, ite_self]

private theorem both_eq (x : α) (y : β) (f : α → β → γ) :
    ((if depth + n ≤ most then some x else none) >>= fun a =>
        (if depth + k ≤ most then some y else none) >>= fun b => pure (f a b)) =
      if depth + max n k ≤ most then some (f x y) else none := by
  by_cases first : depth + n ≤ most
  · by_cases second : depth + k ≤ most
    · have both : depth + max n k ≤ most := by omega
      simp only [first, second, both, if_true]
      rfl
    · have neither : ¬ depth + max n k ≤ most := by omega
      simp only [first, second, neither, if_true, if_false]
      rfl
  · have neither : ¬ depth + max n k ≤ most := by omega
    simp only [first, neither, if_false]
    rfl

end

variable (limits : Limits)

mutual
theorem fit_eq {depth : Nat} (value : Json) (bound : depth ≤ limits.maxDepth) :
    limits.fit depth value =
      if depth + value.nesting ≤ limits.maxDepth then some (value.cut limits.maxStringLength)
      else none := by
  cases value with
  | array items =>
    rw [fit, Json.nesting, Json.cut, ← nested_eq]
    refine ite_congr rfl (fun deeper => ?_) fun _ => rfl
    rw [fitItems_eq items deeper]
  | object members =>
    rw [fit, Json.nesting, Json.cut, ← nested_eq]
    refine ite_congr rfl (fun deeper => ?_) fun _ => rfl
    rw [fitMembers_eq members deeper]
  | null | bool | integer | decimal | string => exact (if_pos bound).symm

theorem fitItems_eq {depth : Nat} (items : List Json) (bound : depth ≤ limits.maxDepth) :
    limits.fitItems depth items =
      if depth + Json.nestingItems items ≤ limits.maxDepth then
        some (Json.cutItems limits.maxStringLength items)
      else none := by
  cases items with
  | nil => exact (if_pos bound).symm
  | cons item rest =>
    rw [fitItems, fit_eq item bound, fitItems_eq rest bound]
    exact both_eq _ _ List.cons

theorem fitMembers_eq {depth : Nat} (members : List (String × Json))
    (bound : depth ≤ limits.maxDepth) :
    limits.fitMembers depth members =
      if depth + Json.nestingMembers members ≤ limits.maxDepth then
        some (Json.cutMembers limits.maxStringLength members)
      else none := by
  cases members with
  | nil => exact (if_pos bound).symm
  | cons member rest =>
    rw [fitMembers, fit_eq member.2 bound, fitMembers_eq rest bound]
    exact both_eq _ _ fun value rest => (member.1, value) :: rest
end

/-- Whether a member stays if it is among the first ones: the validator accepts it as it was given,
its name is not reserved, and its value is not nested too deep. -/
def accepts (entry : String × Json) : Bool :=
  limits.validator.all (· entry.1 entry.2) && !Problem.isReserved entry.1 &&
    decide (entry.2.nesting ≤ limits.maxDepth)

def shorten (entry : String × Json) : String × Json :=
  (entry.1, entry.2.cut limits.maxStringLength)

theorem keeps?_eq (entry : String × Json) :
    limits.keeps? entry.1 entry.2 =
      if limits.accepts entry then some (limits.shorten entry).2 else none := by
  have fits := limits.fit_eq entry.2 (Nat.zero_le _)
  rw [Nat.zero_add] at fits
  have vetoed : (limits.validator.any fun accepts => !accepts entry.1 entry.2) =
      !limits.validator.all (· entry.1 entry.2) := by
    cases limits.validator <;> rfl
  unfold keeps? accepts
  rw [vetoed, fits]
  cases limits.validator.all (· entry.1 entry.2) with
  | false => rfl
  | true =>
    cases Problem.isReserved entry.1 with
    | true => rfl
    | false =>
      by_cases shallow : entry.2.nesting ≤ limits.maxDepth <;> simp [shallow, shorten]

theorem entries_admitted (extensions : Members) :
    (limits.admitted extensions).entries =
      ((extensions.entries.take limits.maxExtensions).filter limits.accepts).map
        limits.shorten := by
  have member (entry : String × Json) :
      (limits.keeps? entry.1 entry.2).map (entry.1, ·) =
        (Option.guard limits.accepts entry).map limits.shorten := by
    rw [keeps?_eq]
    cases accepted : limits.accepts entry with
    | true => simp [Option.guard, accepted, shorten]
    | false => simp [Option.guard, accepted]
  calc
    _ = (extensions.entries.take limits.maxExtensions).filterMap fun entry =>
        (Option.guard limits.accepts entry).map limits.shorten :=
      congrArg (List.filterMap · _) (funext member)
    _ = _ := by rw [← List.map_filterMap, List.filterMap_eq_filter]

theorem shorten_shorten (entry : String × Json) :
    limits.shorten (limits.shorten entry) = limits.shorten entry := by
  simp only [shorten, Json.cut_cut, Nat.min_self]

variable {limits} in
theorem accepts_shorten (byName : ∀ validator, limits.validator = some validator →
      ∀ key value other, validator key value = validator key other) (entry : String × Json) :
    limits.accepts (limits.shorten entry) = limits.accepts entry := by
  have vetted : limits.validator.all (· entry.1 (limits.shorten entry).2) =
      limits.validator.all (· entry.1 entry.2) := by
    cases given : limits.validator with
    | none => rfl
    | some validator => exact byName validator given _ _ _
  unfold accepts
  rw [show (limits.shorten entry).1 = entry.1 from rfl, vetted, shorten, Json.nesting_cut]

def notes (entry : String × Json) : List Event :=
  if limits.validator.any fun accepts => !accepts entry.1 entry.2 then
    [⟨.debug, "extension vetoed by custom validator", [("key", .text entry.1)]⟩]
  else if Problem.isReserved entry.1 || (limits.fit 0 entry.2).isSome then []
  else [⟨.debug, "extension dropped: unsupported shape",
    [("key", .text entry.1), ("max_depth", .integer limits.maxDepth)]⟩]

/-- A member leaves the question to a validator, and then the notes on it. -/
def traces (entry : String × Json) : List Entry :=
  (if limits.validator.isSome then [.asked entry.1 entry.2] else []) ++
    (limits.notes entry).map .logged

theorem run_judge (entry : String × Json) (supply : Supply) :
    (limits.judge entry.1 entry.2).run supply =
      ⟨limits.keeps? entry.1 entry.2, 0, limits.traces entry⟩ := by
  unfold judge vet keeps? traces notes
  cases limits.validator with
  | none =>
    cases Problem.isReserved entry.1 <;> cases limits.fit 0 entry.2 <;> rfl
  | some accepts =>
    cases verdict : accepts entry.1 entry.2 with
    | false => simp [verdict]
    | true =>
      cases Problem.isReserved entry.1 <;> cases limits.fit 0 entry.2 <;> simp [verdict]

/-- Each member is settled by itself, and what stays of it comes after what stayed before. -/
theorem run_judgeAll (kept : Members) (entries : List (String × Json))
    (distinct : ((kept.entries ++ entries).map Prod.fst).Nodup) (supply : Supply) :
    let outcome := (limits.judgeAll kept entries).run supply
    outcome.value.entries = kept.entries ++ entries.filterMap (fun entry =>
        (limits.keeps? entry.1 entry.2).map (entry.1, ·)) ∧
      outcome.drawn = 0 ∧ outcome.journal = entries.flatMap limits.traces := by
  induction entries generalizing kept supply with
  | nil => exact ⟨(List.append_nil _).symm, rfl, rfl⟩
  | cons entry rest ih =>
    -- the name is not among those kept before, so what stays of the member comes last
    have fresh : entry.1 ∉ kept.entries.map Prod.fst := by
      rw [List.map_append, List.map_cons] at distinct
      intro old
      exact (List.nodup_append.1 distinct).2.2 _ old _ List.mem_cons_self rfl
    have others : ((kept.entries ++ rest).map Prod.fst).Nodup := by
      refine .sublist ?_ distinct
      exact ((List.sublist_cons_self entry rest).append_left kept.entries).map Prod.fst
    have run := limits.run_judge entry supply
    simp only [judgeAll, Recorded.run_bind, run, List.filterMap_cons, List.flatMap_cons]
    cases limits.keeps? entry.1 entry.2 with
    | none =>
      obtain ⟨entries, drawn, journal⟩ := ih kept others fun n => supply (0 + n)
      exact ⟨entries, by rw [drawn], by rw [journal]⟩
    | some value =>
      have inserted : (kept.insert entry.1 value).entries = kept.entries ++ [(entry.1, value)] :=
        Json.upsert_of_not_mem fresh
      have named : (((kept.insert entry.1 value).entries ++ rest).map Prod.fst).Nodup := by
        rw [inserted, List.append_assoc]
        simpa using distinct
      obtain ⟨entries, drawn, journal⟩ := ih _ named fun n => supply (0 + n)
      rw [inserted, List.append_assoc] at entries
      exact ⟨entries, by rw [drawn], by rw [journal]⟩

def trimmed (extensions : Members) : List Event :=
  let dropped := extensions.entries.length - limits.maxExtensions
  if 0 < dropped then
    [⟨.debug, "extensions trimmed",
      [("dropped", .integer dropped), ("limit", .integer limits.maxExtensions)]⟩]
  else []

theorem run_validate (extensions : Members) (supply : Supply) :
    (limits.validate extensions).run supply =
      ⟨limits.admitted extensions, 0,
        (extensions.entries.take limits.maxExtensions).flatMap limits.traces ++
          (limits.trimmed extensions).map .logged⟩ := by
  have distinct : ((Members.empty.entries ++
      extensions.entries.take limits.maxExtensions).map Prod.fst).Nodup :=
    extensions.distinct.sublist ((List.take_sublist _ _).map Prod.fst)
  obtain ⟨entries, drawn, journal⟩ := limits.run_judgeAll .empty _ distinct supply
  have value : ((limits.judgeAll .empty (extensions.entries.take limits.maxExtensions)).run
      supply).value = limits.admitted extensions := Members.ext entries
  unfold validate trimmed
  simp only [Recorded.run_bind, value, drawn, journal]
  split <;> simp

theorem value_validate (extensions : Members) (supply : Supply) :
    ((limits.validate extensions).run supply).value = limits.admitted extensions := by
  rw [run_validate]

theorem questions_traces (entry : String × Json) :
    (limits.traces entry).filterMap Entry.question? =
      if limits.validator.isSome then [entry] else [] := by
  rw [traces, List.filterMap_append, Entry.filterMap_question?_logged]
  cases limits.validator.isSome <;> rfl

theorem events_traces (entry : String × Json) :
    (limits.traces entry).filterMap Entry.event? = limits.notes entry := by
  rw [traces, List.filterMap_append, Entry.filterMap_event?_logged]
  cases limits.validator.isSome <;> rfl

theorem events_validate (extensions : Members) (supply : Supply) :
    ((limits.validate extensions).run supply).events =
      (extensions.entries.take limits.maxExtensions).flatMap limits.notes ++
        limits.trimmed extensions := by
  rw [run_validate, Outcome.events, List.filterMap_append, Entry.filterMap_event?_logged,
    List.filterMap_flatMap]
  simp only [events_traces]

/-- Members that keep to the limits. -/
structure Bound (entries : List (String × Json)) : Prop where
  count : entries.length ≤ limits.maxExtensions
  unreserved : ∀ entry ∈ entries, Problem.isReserved entry.1 = false
  short : ∀ entry ∈ entries, ∀ text ∈ entry.2.texts, text.length ≤ limits.maxStringLength
  shallow : ∀ entry ∈ entries, entry.2.nesting ≤ limits.maxDepth

theorem bound_admitted (extensions : Members) :
    limits.Bound (limits.admitted extensions).entries := by
  have origin : ∀ entry ∈ (limits.admitted extensions).entries,
      ∃ given, limits.accepts given = true ∧ limits.shorten given = entry := by
    intro entry member
    rw [entries_admitted] at member
    obtain ⟨given, stays, shortened⟩ := List.mem_map.1 member
    exact ⟨given, (List.mem_filter.1 stays).2, shortened⟩
  constructor
  · rw [entries_admitted, List.length_map]
    have filtered := List.length_filter_le limits.accepts
      (extensions.entries.take limits.maxExtensions)
    exact Nat.le_trans filtered (List.length_take_le _ _)
  · exact limits.unreserved_admitted extensions
  · intro entry member text inside
    obtain ⟨given, -, rfl⟩ := origin entry member
    simp only [shorten, Json.texts_cut] at inside
    obtain ⟨longer, -, rfl⟩ := List.mem_map.1 inside
    exact Text.length_truncate_le _ _
  · intro entry member
    obtain ⟨given, accepted, rfl⟩ := origin entry member
    simp only [accepts, Bool.and_eq_true, decide_eq_true_eq] at accepted
    simp only [shorten, Json.nesting_cut]
    exact accepted.2

variable {limits} in
theorem isPortable_admitted {extensions : Members}
    (portable : ∀ entry ∈ extensions.entries, Problem.IsPortable entry.2) :
    ∀ entry ∈ (limits.admitted extensions).entries, Problem.IsPortable entry.2 := by
  intro entry stays
  rw [entries_admitted] at stays
  obtain ⟨given, among, rfl⟩ := List.mem_map.1 stays
  obtain ⟨exact, shallow⟩ := portable given (List.mem_of_mem_take (List.mem_filter.1 among).1)
  exact ⟨exact.cut _, (Json.nesting_cut _ given.2).symm ▸ shallow⟩

variable {limits} in
/-- Members that stayed once stay as they are, if cutting their texts changes no verdict. -/
theorem admitted_admitted
    (steady : ∀ entry, limits.accepts (limits.shorten entry) = limits.accepts entry)
    (extensions : Members) :
    limits.admitted (limits.admitted extensions) = limits.admitted extensions := by
  have few : (limits.admitted extensions).entries.length ≤ limits.maxExtensions :=
    (limits.bound_admitted extensions).count
  have same : limits.accepts ∘ limits.shorten = limits.accepts := funext steady
  have cut : limits.shorten ∘ limits.shorten = limits.shorten := funext limits.shorten_shorten
  refine Members.ext ?_
  rw [entries_admitted, List.take_of_length_le few, entries_admitted, List.filter_map, same,
    List.filter_filter, List.map_map, cut]
  simp only [Bool.and_self]

/-- A validator is asked about each of the first members as it was given, in order. -/
theorem questions_validate (extensions : Members) (supply : Supply) :
    ((limits.validate extensions).run supply).questions =
      if limits.validator.isSome then extensions.entries.take limits.maxExtensions else [] := by
  rw [run_validate, Outcome.questions, List.filterMap_append, Entry.filterMap_question?_logged,
    List.append_nil, List.filterMap_flatMap]
  simp only [questions_traces]
  cases limits.validator.isSome <;> simp

theorem draws_validate (extensions : Members) : (limits.validate extensions).Draws 0 := by
  intro supply
  rw [run_validate]

theorem raises_validate (extensions : Members) : (limits.validate extensions).Raises [] := by
  intro supply
  have notes (entry : String × Json) : ∀ event ∈ limits.notes entry, event.isAlarm = false := by
    unfold notes
    split_ifs <;> simp [Event.isAlarm, Level.isWithin, Level.rank]
  have trimmed : ∀ event ∈ limits.trimmed extensions, event.isAlarm = false := by
    unfold trimmed
    dsimp only
    split_ifs <;> simp [Event.isAlarm, Level.isWithin, Level.rank]
  rw [Outcome.alarms, events_validate, List.filter_eq_nil_iff]
  intro event member
  rw [Bool.not_eq_true]
  rcases List.mem_append.1 member with noted | late
  · obtain ⟨entry, -, said⟩ := List.mem_flatMap.1 noted
    exact notes entry event said
  · exact trimmed event late

end Limits
end Faultline
