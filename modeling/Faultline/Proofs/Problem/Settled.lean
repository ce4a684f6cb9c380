import Faultline.Proofs.Problem.Limits

/-!
Limits applied to what they have left. Main statement: limits change nothing about members exactly
if these keep to them and the validator accepts each; what they leave does, unless the validator
looks at more than names.
-/

namespace Faultline.Limits

variable (limits : Limits)

/-- A validator, if there is one, decides by the name of a member alone. -/
def LooksAtNames : Prop :=
  ∀ validator, limits.validator = some validator →
    ∀ key value other, validator key value = validator key other

/-- Members that keep to the limits, each of which the validator accepts. -/
structure Settled (extensions : Members) : Prop where
  bound : limits.Bound extensions.entries
  vetted : ∀ validator, limits.validator = some validator →
    ∀ entry ∈ extensions.entries, validator entry.1 entry.2 = true

variable {limits} {extensions : Members}

theorem accepts_iff {entry : String × Json} : limits.accepts entry = true ↔
    (∀ validator, limits.validator = some validator → validator entry.1 entry.2 = true) ∧
      Problem.isReserved entry.1 = false ∧ entry.2.nesting ≤ limits.maxDepth := by
  unfold accepts
  rw [Bool.and_eq_true, Bool.and_eq_true, Bool.not_eq_true', decide_eq_true_eq, and_assoc]
  cases limits.validator <;> simp

theorem Settled.accepts (settled : limits.Settled extensions) :
    ∀ entry ∈ extensions.entries, limits.accepts entry = true := by
  intro entry member
  apply accepts_iff.2
  exact ⟨fun validator given => settled.vetted validator given entry member,
    settled.bound.unreserved entry member, settled.bound.shallow entry member⟩

theorem Settled.shorten (settled : limits.Settled extensions) :
    ∀ entry ∈ extensions.entries, limits.shorten entry = entry := by
  intro entry member
  rw [Limits.shorten, Json.cut_of_short entry.2 (settled.bound.short entry member)]

theorem Settled.admitted (settled : limits.Settled extensions) :
    limits.admitted extensions = extensions := by
  apply Members.ext
  rw [entries_admitted, List.take_of_length_le settled.bound.count,
    List.filter_eq_self.2 settled.accepts]
  exact (List.map_congr_left settled.shorten).trans (List.map_id _)

theorem accepts_of_admitted (same : limits.admitted extensions = extensions) :
    ∀ entry ∈ extensions.entries, limits.accepts entry = true := by
  have entries := congrArg Members.entries same
  rw [entries_admitted] at entries
  have kept : ((extensions.entries.take limits.maxExtensions).filter limits.accepts).length =
      extensions.entries.length := by
    rw [← List.length_map (f := limits.shorten), entries]
  have sublist := List.filter_sublist (p := limits.accepts)
    (l := extensions.entries.take limits.maxExtensions)
  have all := (sublist.trans (List.take_sublist _ _)).eq_of_length kept
  intro entry member
  rw [← all] at member
  exact (List.mem_filter.1 member).2

theorem admitted_eq_self_iff :
    limits.admitted extensions = extensions ↔ limits.Settled extensions := by
  constructor
  · intro same
    have accepted := accepts_of_admitted same
    refine ⟨same ▸ limits.bound_admitted extensions, ?_⟩
    intro validator given entry member
    exact (accepts_iff.1 (accepted entry member)).1 validator given
  · exact Settled.admitted

theorem LooksAtNames.settled (byName : limits.LooksAtNames) (extensions : Members) :
    limits.Settled (limits.admitted extensions) :=
  admitted_eq_self_iff.1 (admitted_admitted (accepts_shorten byName) extensions)

theorem notes_of_accepts {entry : String × Json} (accepted : limits.accepts entry = true) :
    limits.notes entry = [] := by
  have keeps := limits.keeps?_eq entry
  rw [if_pos accepted, keeps?] at keeps
  unfold notes
  split_ifs at keeps with vetoed reserved
  rw [if_neg vetoed, keeps, Option.isSome_some, Bool.or_true, if_pos rfl]

theorem Settled.events_validate (settled : limits.Settled extensions) (supply : Supply) :
    ((limits.validate extensions).run supply).events = [] := by
  have few := settled.bound.count
  have none : ¬0 < extensions.entries.length - limits.maxExtensions := by omega
  rw [Limits.events_validate, List.take_of_length_le few, trimmed, if_neg none, List.append_nil,
    List.flatMap_eq_nil_iff]
  exact fun entry member => notes_of_accepts (settled.accepts entry member)

/-- Limits leave members as they are exactly if these are settled. Unless the validator looks at
more than names, what limits have left is settled: they drop no other member, cut no other text,
keep the order, and have nothing to note. -/
theorem validate_settles (limits : Limits) :
    (∀ extensions supply, ((limits.validate extensions).run supply).value = extensions ↔
      limits.Settled extensions) ∧
      (limits.LooksAtNames → ∀ extensions supply later,
        let once := ((limits.validate extensions).run supply).value
        let again := (limits.validate once).run later
        limits.Settled once ∧ again.value = once ∧ again.events = []) := by
  refine ⟨fun extensions supply => ?_, fun byName extensions supply later => ?_⟩
  · rw [value_validate]
    exact admitted_eq_self_iff
  · simp only [value_validate]
    have settled := byName.settled extensions
    exact ⟨settled, settled.admitted, settled.events_validate later⟩

theorem validate_settles_vetting :
    let limits : Limits := ⟨4, 4, 1, some fun key _ => key != "internal"⟩
    let extensions : Members := .ofList [
      ("internal", .string "db-01"), ("note", .string "declined"),
      ("traceId", .string "spoofed"), ("tags", .array [.string "payments", .integer 7]),
      ("late", .null)]
    let supply : Supply := fun _ => ⟨.replicate 32 0⟩
    let once := ((limits.validate extensions).run supply).value
    let again := (limits.validate once).run supply
    once.entries = [("note", .string "decl"), ("tags", .array [.string "paym", .integer 7])] ∧
      limits.LooksAtNames ∧ limits.Settled once ∧ again.value = once ∧ again.events = [] := by
  intro limits extensions supply once again
  have byName : limits.LooksAtNames := by
    rintro _ ⟨⟩ key value other
    rfl
  have settles := (validate_settles limits).2 byName extensions supply supply
  exact ⟨by decide +kernel, byName, settles⟩

/-- A validator that looks at texts may refuse one when it is cut. -/
example :
    let limits : Limits := ⟨4, 2, 1, some fun _ value => decide (value ≠ .string "de")⟩
    let once := limits.admitted (.ofList [("note", .string "declined")])
    once.entries = [("note", .string "de")] ∧ (limits.admitted once).entries = [] := by
  decide +kernel

end Faultline.Limits
