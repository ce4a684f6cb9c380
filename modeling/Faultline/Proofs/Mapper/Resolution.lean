import Faultline.Proofs.Mapper.Order

/-!
Which mapper answers a fault, said of the registrations in the order in which they were made. Main
statement: the sorted lists that a registry searches give the same answer as the unsorted
registrations, and the same for every order of them that keeps those of one priority and sort in
place.
-/

namespace Faultline.Registry
open Registration

variable {registrations : List Registration} {registry : Registry}

def acceptsFirst (fault : Fault) (r : Registration) : Bool :=
  !r.isFallback && r.mapper.canHandle fault

def acceptsLast (fault : Fault) (r : Registration) : Bool :=
  r.isFallback && r.mapper.canHandle fault

/-- What a registry says of a fault, in terms of the registrations it was made of. -/
structure Resolves (registry : Registry) (registrations : List Registration) (fault : Fault) :
    Prop where
  /-- An accepting primary mapper answers, and only without one an accepting fallback mapper; of
  either the first of those with the highest priority. -/
  found : ∀ mapper, registry.tryResolve fault = some mapper ↔
    (∃ r, IsFirstOfHighest (acceptsFirst fault) registrations r ∧ r.mapper = mapper) ∨
    ((∀ r ∈ registrations, acceptsFirst fault r = false) ∧
      ∃ r, IsFirstOfHighest (acceptsLast fault) registrations r ∧ r.mapper = mapper)
  /-- There is no answer only if no mapper accepts. -/
  absent : registry.tryResolve fault = none ↔
    ∀ r ∈ registrations, r.mapper.canHandle fault = false
  /-- No fallback comes before an accepting primary. -/
  primaryFirst : (∃ r ∈ registrations, acceptsFirst fault r = true) →
    ∃ r ∈ registrations, acceptsFirst fault r = true ∧ registry.tryResolve fault = some r.mapper
  /-- A mapper is always given: the one found, or else the last fallback of the lowest priority. -/
  resolved : ∀ supply, match registry.tryResolve fault with
    | some mapper => ((registry.resolve fault).run supply).value = mapper
    | none => ∃ r, IsLastOfLowest (·.isFallback) registrations r ∧
        ((registry.resolve fault).run supply).value = r.mapper

theorem lists_of_ofList (made : ofList registrations = .ok registry) :
    registry.primary = byPriority (registrations.filter (!·.isFallback)) ∧
      registry.fallback = byPriority (registrations.filter (·.isFallback)) := by
  simp only [ofList] at made
  split at made
  · cases made
  · cases made
    exact ⟨rfl, rfl⟩

theorem ofList_eq_error_iff :
    ofList registrations = .error .noFallback ↔ ∀ r ∈ registrations, r.isFallback = false := by
  have empty : byPriority (registrations.filter (·.isFallback)) = [] ↔
      ∀ r ∈ registrations, r.isFallback = false := by
    rw [byPriority_eq_nil, List.filter_eq_nil_iff]
    simp only [Bool.not_eq_true]
  rw [← empty]
  simp only [ofList]
  split
  next none => simp [none]
  next some => simp [some]

theorem exists_ofList (present : ∃ r ∈ registrations, r.isFallback = true) :
    ∃ registry, ofList registrations = .ok registry := by
  cases made : ofList registrations with
  | ok registry => exact ⟨registry, rfl⟩
  | error e =>
    obtain ⟨r, member, fallback⟩ := present
    have := ofList_eq_error_iff.1 made r member
    simp [fallback] at this

theorem mem_mappers (made : ofList registrations = .ok registry) {mapper : Mapper} :
    mapper ∈ registry.mappers ↔ ∃ r ∈ registrations, r.mapper = mapper := by
  obtain ⟨primary, fallback⟩ := lists_of_ofList made
  unfold mappers
  rw [primary, fallback]
  simp only [List.mem_map, List.mem_append, mem_byPriority, List.mem_filter]
  constructor
  · rintro ⟨r, ⟨member, -⟩ | ⟨member, -⟩, rfl⟩ <;> exact ⟨r, member, rfl⟩
  · rintro ⟨r, member, rfl⟩
    refine ⟨r, ?_, rfl⟩
    cases sort : r.isFallback with
    | true => exact .inr ⟨member, rfl⟩
    | false => exact .inl ⟨member, rfl⟩

theorem lastResort_mem : registry.lastResort ∈ registry.mappers := by
  apply List.mem_map_of_mem
  exact List.mem_append_right _ (List.getLast_mem registry.fallback_ne_nil)

theorem mapperFor_mem (fault : Fault) : registry.mapperFor fault ∈ registry.mappers := by
  unfold mapperFor
  cases found : registry.tryResolve fault with
  | none => exact lastResort_mem
  | some mapper => exact List.mem_of_find?_eq_some found

theorem value_resolve (fault : Fault) (supply : Supply) :
    ((registry.resolve fault).run supply).value = registry.mapperFor fault := by
  unfold resolve
  cases registry.tryResolve fault <;> rfl

theorem tryResolve_eq_none_iff (made : ofList registrations = .ok registry) (fault : Fault) :
    registry.tryResolve fault = none ↔ ∀ r ∈ registrations, r.mapper.canHandle fault = false := by
  unfold tryResolve
  rw [List.find?_eq_none]
  constructor
  · intro none r member
    simpa using none r.mapper ((mem_mappers made).2 ⟨r, member, rfl⟩)
  · intro none mapper member
    obtain ⟨r, origin, rfl⟩ := (mem_mappers made).1 member
    simp [none r origin]

theorem tryResolve_eq (fault : Fault) :
    registry.tryResolve fault =
      ((registry.primary.find? (·.mapper.canHandle fault)).or
        (registry.fallback.find? (·.mapper.canHandle fault))).map Registration.mapper := by
  unfold tryResolve mappers
  rw [List.find?_map, List.find?_append]
  rfl

theorem find?_primary (made : ofList registrations = .ok registry) (fault : Fault)
    (r : Registration) :
    registry.primary.find? (·.mapper.canHandle fault) = some r ↔
      IsFirstOfHighest (acceptsFirst fault) registrations r := by
  rw [(lists_of_ofList made).1, find?_byPriority]
  exact isChosen_filter _

theorem find?_fallback (made : ofList registrations = .ok registry) (fault : Fault)
    (r : Registration) :
    registry.fallback.find? (·.mapper.canHandle fault) = some r ↔
      IsFirstOfHighest (acceptsLast fault) registrations r := by
  rw [(lists_of_ofList made).2, find?_byPriority]
  exact isChosen_filter _

theorem find?_primary_eq_none (made : ofList registrations = .ok registry) (fault : Fault) :
    registry.primary.find? (·.mapper.canHandle fault) = none ↔
      ∀ r ∈ registrations, acceptsFirst fault r = false := by
  rw [(lists_of_ofList made).1, List.find?_eq_none]
  simp only [mem_byPriority, List.mem_filter, acceptsFirst, Bool.and_eq_false_iff, and_imp,
    Bool.not_eq_true, Bool.not_eq_eq_eq_not, Bool.not_false, Bool.not_true]
  constructor
  · intro none r member
    cases sort : r.isFallback with
    | true => exact .inl rfl
    | false => exact .inr (none r member sort)
  · intro none r member sort
    rcases none r member with fallback | refused
    · simp [sort] at fallback
    · exact refused

theorem lastResort_chosen (made : ofList registrations = .ok registry) :
    ∃ r, IsLastOfLowest (·.isFallback) registrations r ∧ registry.lastResort = r.mapper := by
  refine ⟨registry.fallback.getLast registry.fallback_ne_nil, ?_, rfl⟩
  have last := List.getLast?_eq_some_getLast registry.fallback_ne_nil
  generalize registry.fallback.getLast registry.fallback_ne_nil = r at last
  rw [(lists_of_ofList made).2] at last
  have chosen := (isChosen_filter _).1 ((getLast?_byPriority _ _).1 last)
  simp only [Bool.and_true] at chosen
  exact chosen

theorem resolves_of_ofList (made : ofList registrations = .ok registry) (fault : Fault) :
    registry.Resolves registrations fault := by
  have found : ∀ mapper, registry.tryResolve fault = some mapper ↔
      (∃ r, IsFirstOfHighest (acceptsFirst fault) registrations r ∧ r.mapper = mapper) ∨
      ((∀ r ∈ registrations, acceptsFirst fault r = false) ∧
        ∃ r, IsFirstOfHighest (acceptsLast fault) registrations r ∧ r.mapper = mapper) := by
    intro mapper
    rw [tryResolve_eq, Option.map_eq_some_iff]
    simp only [Option.or_eq_some_iff, find?_primary made, find?_fallback made,
      find?_primary_eq_none made]
    constructor
    · rintro ⟨r, chosen | ⟨none, chosen⟩, rfl⟩
      · exact .inl ⟨r, chosen, rfl⟩
      · exact .inr ⟨none, r, chosen, rfl⟩
    · rintro (⟨r, chosen, rfl⟩ | ⟨none, r, chosen, rfl⟩)
      · exact ⟨r, .inl chosen, rfl⟩
      · exact ⟨r, .inr ⟨none, chosen⟩, rfl⟩
  refine ⟨found, tryResolve_eq_none_iff made fault, ?_, ?_⟩
  · rintro ⟨r, member, accepted⟩
    cases given : registry.tryResolve fault with
    | none =>
      have refused := (tryResolve_eq_none_iff made fault).1 given r member
      simp [acceptsFirst, refused] at accepted
    | some mapper =>
      rcases (found mapper).1 given with ⟨s, chosen, rfl⟩ | ⟨none, -⟩
      · exact ⟨s, chosen.mem, chosen.accepted, rfl⟩
      · simp [none r member] at accepted
  · intro supply
    rw [value_resolve]
    unfold mapperFor
    cases registry.tryResolve fault with
    | none => exact lastResort_chosen made
    | some mapper => rfl

theorem ofList_reordered {a b : List Registration} (reordered : Reordered a b) :
    ofList a = ofList b := by
  have primary := byPriority_reordered reordered false
  have fallback := byPriority_reordered reordered true
  simp only [beq_false, beq_true] at primary fallback
  unfold ofList
  simp only [primary, fallback]

/-- A registry is refused only for want of a fallback mapper. Any other answers every fault by the
registrations as they were made, whatever places those of another priority or sort have. -/
theorem resolution_of_registrations (registrations : List Registration) :
    (ofList registrations = .error .noFallback ↔ ∀ r ∈ registrations, r.isFallback = false) ∧
    ((∃ r ∈ registrations, r.isFallback = true) →
      ∃ registry, ofList registrations = .ok registry ∧
        ∀ fault, registry.Resolves registrations fault) ∧
    ∀ others, Reordered registrations others → ofList others = ofList registrations := by
  refine ⟨ofList_eq_error_iff, ?_, ?_⟩
  · intro present
    obtain ⟨registry, made⟩ := exists_ofList present
    exact ⟨registry, made, resolves_of_ofList made⟩
  · intro others reordered
    exact (ofList_reordered reordered).symm

def tiedTable : List Registration :=
  let use (mapper : BuiltInMapper) := mapper.toMapper ⟨.default, .production, none⟩
  [.fallback (use .appFallback) 7, .primary (use .remoteHttp) (-1), .fallback (use .unexpected) 7,
    .primary (use .unexpected) (-1)]

theorem resolution_of_tiedTable :
    (∃ registry, ofList tiedTable = .ok registry ∧
      registry.tryResolve (.remote none "reset") =
        some (BuiltInMapper.remoteHttp.toMapper ⟨.default, .production, none⟩)) ∧
    ofList (tiedTable.filter (!·.isFallback) ++ tiedTable.filter (·.isFallback)) =
      ofList tiedTable := by
  obtain ⟨-, made, reordered⟩ := resolution_of_registrations tiedTable
  obtain ⟨registry, ok, resolves⟩ := made ⟨_, List.mem_cons_self, rfl⟩
  refine ⟨⟨registry, ok, ?_⟩, reordered _ ?_⟩
  · refine ((resolves (.remote none "reset")).found _).2 (.inl ⟨tiedTable[1], ?_, rfl⟩)
    exact ⟨tiedTable.take 1, tiedTable.drop 2, rfl, rfl, by decide, by decide⟩
  · intro priority isFallback
    rw [List.filter_append, List.filter_filter, List.filter_filter]
    cases isFallback <;> simp [tiedTable, Registration.primary, Registration.fallback,
      List.filter_cons]

end Faultline.Registry
