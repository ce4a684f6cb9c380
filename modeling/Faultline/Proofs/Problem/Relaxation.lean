import Faultline.Proofs.Problem.Limits

/-!
Two limits of which one leaves more room. Main statement: what the tighter ones keep of members is
kept by the looser ones too, in the same order and with texts that are no shorter, and what they
lose beyond that comes too late or is nested too deep.
-/

namespace Faultline.Limits

/-- The one leaves at least as much room as the other, and asks the same validator. -/
structure Relaxes (looser tighter : Limits) : Prop where
  count : tighter.maxExtensions ≤ looser.maxExtensions
  length : tighter.maxStringLength ≤ looser.maxStringLength
  depth : tighter.maxDepth ≤ looser.maxDepth
  validator : looser.validator = tighter.validator

namespace Relaxes

variable {looser tighter : Limits} (relaxes : looser.Relaxes tighter)
include relaxes

theorem accepts_iff (entry : String × Json) : tighter.accepts entry = true ↔
    looser.accepts entry = true ∧ entry.2.nesting ≤ tighter.maxDepth := by
  have depth := relaxes.depth
  unfold accepts
  rw [relaxes.validator]
  simp only [Bool.and_eq_true, decide_eq_true_eq]
  constructor
  · rintro ⟨free, shallow⟩
    exact ⟨⟨free, by omega⟩, shallow⟩
  · rintro ⟨⟨free, -⟩, shallow⟩
    exact ⟨free, shallow⟩

theorem shorten_shorten (entry : String × Json) :
    tighter.shorten (looser.shorten entry) = tighter.shorten entry := by
  simp only [shorten, Json.cut_cut, Nat.min_eq_left relaxes.length]

end Relaxes

def reaches (limits : Limits) (extensions : Members) (entry : String × Json) : Bool :=
  decide (entry.1 ∈ (extensions.entries.take limits.maxExtensions).map Prod.fst) &&
    decide (entry.2.nesting ≤ limits.maxDepth)

theorem reaches_shorten (tighter looser : Limits) (extensions : Members) (entry : String × Json) :
    tighter.reaches extensions (looser.shorten entry) = tighter.reaches extensions entry := by
  unfold reaches
  rw [shorten, Json.nesting_cut]

namespace Relaxes

variable {looser tighter : Limits} (relaxes : looser.Relaxes tighter) (extensions : Members)
include relaxes

theorem filter_take : (extensions.entries.take looser.maxExtensions).filter (fun entry =>
      tighter.reaches extensions entry && looser.accepts entry) =
    (extensions.entries.take tighter.maxExtensions).filter tighter.accepts := by
  have parts := List.take_append_drop tighter.maxExtensions
    (extensions.entries.take looser.maxExtensions)
  rw [List.take_take, Nat.min_eq_left relaxes.count] at parts
  have distinct : ((extensions.entries.take looser.maxExtensions).map Prod.fst).Nodup :=
    ((List.take_sublist _ _).map Prod.fst).nodup extensions.distinct
  rw [← parts, List.map_append, List.nodup_append] at distinct
  rw [← parts, List.filter_append]
  -- names are distinct, so that no later member is taken for one of the first
  have late : ((extensions.entries.take looser.maxExtensions).drop tighter.maxExtensions).filter
      (fun entry => tighter.reaches extensions entry && looser.accepts entry) = [] := by
    rw [List.filter_eq_nil_iff]
    intro entry member both
    simp only [reaches, Bool.and_eq_true, decide_eq_true_eq] at both
    exact distinct.2.2 _ both.1.1 _ (List.mem_map_of_mem member) rfl
  rw [late, List.append_nil]
  apply List.filter_congr
  intro entry member
  have named : entry.1 ∈ (extensions.entries.take tighter.maxExtensions).map Prod.fst :=
    List.mem_map_of_mem member
  rw [Bool.eq_iff_iff, relaxes.accepts_iff]
  simp only [reaches, named, decide_true, Bool.true_and, Bool.and_eq_true, decide_eq_true_eq]
  exact and_comm

theorem entries_admitted : (tighter.admitted extensions).entries =
    ((looser.admitted extensions).entries.filter (tighter.reaches extensions)).map
      tighter.shorten := by
  have reach : tighter.reaches extensions ∘ looser.shorten = tighter.reaches extensions :=
    funext (reaches_shorten tighter looser extensions)
  have shortened : tighter.shorten ∘ looser.shorten = tighter.shorten :=
    funext relaxes.shorten_shorten
  rw [Limits.entries_admitted, Limits.entries_admitted, List.filter_map, List.map_map, reach,
    shortened, List.filter_filter, relaxes.filter_take extensions]

end Relaxes

/-- What limits keep of members is also kept by limits that leave more room: the names are among
those kept there, in the same order, and the values are those there with their texts cut. What is
lost with the tighter limits is only what comes too late for them or is nested too deep. -/
theorem relaxed_limits_keep {looser tighter : Limits} (relaxes : looser.Relaxes tighter)
    (extensions : Members) (supply later : Supply) :
    let few := ((tighter.validate extensions).run supply).value
    let more := ((looser.validate extensions).run later).value
    (few.entries.map Prod.fst).Sublist (more.entries.map Prod.fst) ∧
      (∀ key value, few.get? key = some value →
        ∃ whole, more.get? key = some whole ∧ value = whole.cut tighter.maxStringLength) ∧
      few.entries = (more.entries.filter (tighter.reaches extensions)).map tighter.shorten := by
  simp only [value_validate]
  have entries := relaxes.entries_admitted extensions
  refine ⟨?_, ?_, entries⟩
  · rw [entries, List.map_map]
    exact List.filter_sublist.map Prod.fst
  · intro key value found
    have member := Json.mem_of_find? found
    rw [entries] at member
    obtain ⟨⟨name, whole⟩, kept, same⟩ := List.mem_map.1 member
    obtain ⟨rfl, rfl⟩ := Prod.mk.inj same
    have named := (looser.admitted extensions).distinct
    exact ⟨whole, Json.find?_eq_some_of_mem named (List.mem_filter.1 kept).1, rfl⟩

theorem relaxed_limits_keep_more :
    let validator : Option (String → Json → Bool) := some fun key _ => key != "internal"
    let tighter : Limits := ⟨4, 4, 1, validator⟩
    let looser : Limits := ⟨5, 6, 2, validator⟩
    let extensions : Members := .ofList [
      ("internal", .string "db-01"), ("note", .string "declined"),
      ("deep", .array [.array [.string "payments"]]), ("tags", .array [.string "payments"]),
      ("late", .null)]
    let supply : Supply := fun _ => ⟨.replicate 32 0⟩
    let few := ((tighter.validate extensions).run supply).value
    let more := ((looser.validate extensions).run supply).value
    looser.Relaxes tighter ∧
      few.entries = [("note", .string "decl"), ("tags", .array [.string "paym"])] ∧
      more.entries = [("note", .string "declin"), ("deep", .array [.array [.string "paymen"]]),
        ("tags", .array [.string "paymen"]), ("late", .null)] ∧
      (few.entries.map Prod.fst).Sublist (more.entries.map Prod.fst) ∧
      ∃ whole, more.get? "note" = some whole ∧ .string "decl" = whole.cut 4 := by
  intro validator tighter looser extensions supply few more
  have relaxes : looser.Relaxes tighter := ⟨by decide, by decide, by decide, rfl⟩
  obtain ⟨names, values, -⟩ := relaxed_limits_keep relaxes extensions supply supply
  exact ⟨relaxes, by decide +kernel, by decide +kernel, names,
    values "note" (.string "decl") (by decide +kernel)⟩

end Faultline.Limits
