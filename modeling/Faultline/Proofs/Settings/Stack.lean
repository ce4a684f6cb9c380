import Faultline.Proofs.Settings.Decoding

/-!
The defaults, the layer of a file and those of variables laid over each other. Main statement: each
setting is the one that the last of the variables' layers gives, else the file's, else the default.
-/

namespace Faultline

namespace Settings
open Setting Layers

variable {may : Setting → Prop} {layer : Setting}

/-! Sorting -/

theorem mem_sortedMembers {members : List (String × Setting)} {member : String × Setting}
    (inside : member ∈ sortedMembers members) :
    ∃ original ∈ members, member = (original.1, sorted original.2) := by
  induction members with
  | nil => cases inside
  | cons first rest ih =>
    rcases List.mem_cons.1 ((insertByName_perm _ _).mem_iff.1 inside) with rfl | later
    · exact ⟨first, List.mem_cons_self, rfl⟩
    · obtain ⟨original, there, same⟩ := ih later
      exact ⟨original, List.mem_cons_of_mem _ there, same⟩

theorem tidy_sorted {value : Setting} (tidy : Tidy may value) :
    Tidy (fun _ => True) (sorted value) := by
  induction tidy with
  | table distinct _ ih =>
    refine .table ((names_sortedMembers_perm _).nodup_iff.2 distinct) fun member inside => ?_
    obtain ⟨original, there, rfl⟩ := mem_sortedMembers inside
    exact ih original there
  | @other value single _ =>
    refine .other (fun members same => ?_) trivial
    cases value with
    | table members => exact single members rfl
    | _ => nomatch same

theorem Sectioned.sorted (sectioned : Sectioned layer) : Sectioned (Layers.sorted layer) where
  table := by
    obtain ⟨members, rfl⟩ := sectioned.table
    exact ⟨_, rfl⟩
  sections part listed value held := by
    rw [at?_sorted, Option.map_eq_some_iff] at held
    obtain ⟨original, held, rfl⟩ := held
    obtain ⟨members, rfl⟩ := sectioned.sections part listed original held
    exact ⟨_, rfl⟩

theorem known_sorted_iff : Known (sorted layer) ↔ Known layer := by
  have same (path : List String) : at? (sorted layer) path ≠ none ↔ at? layer path ≠ none := by
    rw [at?_sorted, Ne, Option.map_eq_none_iff]
  constructor
  · exact fun known => ⟨fun name held => known.sections name ((same _).2 held),
      fun part listed name held => known.leaves part listed name ((same _).2 held)⟩
  · exact fun known => ⟨fun name held => known.sections name ((same _).1 held),
      fun part listed name held => known.leaves part listed name ((same _).1 held)⟩

theorem WellTyped.sorted (typed : WellTyped layer) : WellTyped (Layers.sorted layer) := by
  intro part listed leaf typeOf value held
  rw [at?_sorted, Option.map_eq_some_iff] at held
  obtain ⟨original, held, rfl⟩ := held
  obtain ⟨json, admits⟩ := typed part listed leaf typeOf original held
  exact ⟨json, admits.sorted⟩

/-! The defaults -/

def defaults : Setting := .ofJson (encode default)

theorem tidy_defaults : Tidy (fun _ => True) defaults := by
  refine .table (by decide) ?_
  simp only [ofMembers, List.forall_mem_cons]
  refine ⟨?_, ?_, ?_, ?_, ?_, List.forall_mem_nil _⟩
  all_goals
    refine .table (by decide) ?_
    simp only [ofMembers, List.forall_mem_cons, List.not_mem_nil, false_imp_iff, implies_true,
      and_true]
    and_intros
    all_goals exact .other (fun _ => nofun) trivial

theorem defaults_admitted : ∀ part ∈ schema, ∀ leaf ∈ part.2, ∃ json,
    Json.at? (encode default) [part.1, leaf.1] = some json ∧
      at? defaults [part.1, leaf.1] = some (.ofJson json) ∧ leaf.2.Admits (.ofJson json) json := by
  have spelled : ∀ strings, List.Forall₂ IsText (ofItems (strings.map .string)) strings := by
    intro strings
    induction strings with
    | nil => exact .nil
    | cons first _ ih => exact .cons (.text first) ih
  simp only [schema, environmentLeaves, sanitizerLeaves, limitsLeaves, telemetryLeaves,
    loggingLeaves, List.forall_mem_cons, List.not_mem_nil, false_imp_iff, implies_true, and_true]
  refine ⟨⟨?_, ?_⟩, ⟨?_, ?_, ?_, ?_⟩, ⟨?_, ?_, ?_⟩, ⟨?_, ?_⟩, ?_, ?_, ?_, ?_⟩
  · exact ⟨_, rfl, rfl, .text (.text _)⟩
  · exact ⟨_, rfl, rfl, .texts (spelled _)⟩
  · exact ⟨_, rfl, rfl, .text (.text _)⟩
  · exact ⟨_, rfl, rfl, .flag _⟩
  · exact ⟨_, rfl, rfl, .flag _⟩
  · exact ⟨_, rfl, rfl, .texts (spelled _)⟩
  · exact ⟨_, rfl, rfl, .count (by decide) (by decide)⟩
  · exact ⟨_, rfl, rfl, .count (by decide) (by decide)⟩
  · exact ⟨_, rfl, rfl, .count (by decide) (by decide)⟩
  · exact ⟨_, rfl, rfl, .flag _⟩
  · exact ⟨_, rfl, rfl, .named (by decide)⟩
  · exact ⟨_, rfl, rfl, .text (.text _)⟩
  · exact ⟨_, rfl, rfl, .named (by decide)⟩
  · exact ⟨_, rfl, rfl, .flag _⟩
  · exact ⟨_, rfl, rfl, .flag _⟩

theorem defaults_sections : ∀ part ∈ schema, ∃ members,
    at? defaults [part.1] = some (.table members) ∧
      members.map Prod.fst = part.2.map Prod.fst := by
  simp only [schema, List.forall_mem_cons]
  refine ⟨?_, ?_, ?_, ?_, ?_, List.forall_mem_nil _⟩
  all_goals exact ⟨_, rfl, rfl⟩

theorem sectioned_defaults : Sectioned defaults where
  table := ⟨_, rfl⟩
  sections part listed value held := by
    obtain ⟨members, here, -⟩ := defaults_sections part listed
    exact ⟨members, Option.some.inj (held.symm.trans here)⟩

theorem known_defaults : Known defaults where
  sections _ held := mem_names_of_at? held
  leaves part listed name held := by
    obtain ⟨members, here, names⟩ := defaults_sections part listed
    have inner : at? defaults ([part.1] ++ [name]) = at? (.table members) [name] := by
      rw [at?_append, here, Option.bind_some]
    exact names ▸ mem_names_of_at? (inner ▸ held)

/-! Layers over each other -/

variable {layers : List Setting}

theorem Sectioned.isOpen (sectioned : Sectioned layer)
    {part : String × List (String × LeafType)} (listed : part ∈ schema) (name : String) :
    IsOpen layer [part.1, name] := by
  obtain ⟨members, rfl⟩ := sectioned.table
  refine ⟨members, rfl, fun inner found => ?_⟩
  obtain ⟨inner', rfl⟩ := sectioned.sections part listed inner (by rw [at?_cons, found]; rfl)
  exact ⟨inner', rfl, fun _ _ => trivial⟩

theorem Sectioned.isOpen_single (sectioned : Sectioned layer) (name : String) :
    IsOpen layer [name] := by
  obtain ⟨members, rfl⟩ := sectioned.table
  exact ⟨members, rfl, fun _ _ => trivial⟩

theorem sectioned_merged (tidy : ∀ layer ∈ layers, Tidy may layer)
    (sectioned : ∀ layer ∈ layers, Sectioned layer) : Sectioned (merged layers) where
  table := by
    obtain ⟨members, same, -⟩ :=
      isOpen_merged tidy fun layer inside => (sectioned layer inside).isOpen_single ""
    exact ⟨members, same⟩
  sections part listed value held := by
    obtain ⟨members, same, inner⟩ :=
      isOpen_merged tidy fun layer inside => (sectioned layer inside).isOpen listed ""
    rw [same, at?_cons] at held
    obtain ⟨value', found, held⟩ := Option.bind_eq_some_iff.1 held
    cases held
    obtain ⟨members, same, -⟩ := inner _ found
    exact ⟨members, same⟩

theorem known_merged_iff (tidy : ∀ layer ∈ layers, Tidy may layer)
    (sectioned : ∀ layer ∈ layers, Sectioned layer) :
    Known (merged layers) ↔ ∀ layer ∈ layers, Known layer := by
  have single (name : String) := at?_merged_ne_none_iff tidy
    fun layer inside => (sectioned layer inside).isOpen_single name
  have inner {part} (listed : part ∈ schema) (name : String) := at?_merged_ne_none_iff tidy
    fun layer inside => (sectioned layer inside).isOpen listed name
  constructor
  · exact fun known layer inside =>
      ⟨fun name held => known.sections name ((single name).2 ⟨layer, inside, held⟩),
        fun part listed name held =>
          known.leaves part listed name ((inner listed name).2 ⟨layer, inside, held⟩)⟩
  · intro known
    refine ⟨fun name held => ?_, fun part listed name held => ?_⟩
    · obtain ⟨layer, inside, held⟩ := (single name).1 held
      exact (known layer inside).sections name held
    · obtain ⟨layer, inside, held⟩ := (inner listed name).1 held
      exact (known layer inside).leaves part listed name held

def stack (layer : Setting) (parts : List Setting) : Setting :=
  merged [defaults, layer, merged parts]

/-- The layers of a file and of variables are tidy tables of tables, and no variable gives
nothing. -/
structure Layered (layer : Setting) (parts : List Setting) : Prop where
  tidy : Tidy (fun _ => True) layer
  sectioned : Sectioned layer
  tidyParts : ∀ part ∈ parts, Tidy (· ≠ .empty) part
  sectionedParts : ∀ part ∈ parts, Sectioned part

namespace Layered

variable {parts : List Setting} {part : String × List (String × LeafType)}
  {leaf : String × LeafType}

theorem tidy_variables (layered : Layered layer parts) : Tidy (fun _ => True) (merged parts) :=
  (tidy_merged layered.tidyParts).mono fun _ _ => trivial

theorem sectioned_variables (layered : Layered layer parts) : Sectioned (merged parts) :=
  sectioned_merged layered.tidyParts layered.sectionedParts

theorem tidy_layers (layered : Layered layer parts) :
    ∀ one ∈ [defaults, layer, merged parts], Tidy (fun _ => True) one := by
  simp only [List.forall_mem_cons]
  exact ⟨tidy_defaults, layered.tidy, layered.tidy_variables, List.forall_mem_nil _⟩

theorem sectioned_layers (layered : Layered layer parts) :
    ∀ one ∈ [defaults, layer, merged parts], Sectioned one := by
  simp only [List.forall_mem_cons]
  exact ⟨sectioned_defaults, layered.sectioned, layered.sectioned_variables,
    List.forall_mem_nil _⟩

theorem tidy_stack (layered : Layered layer parts) : Tidy (fun _ => True) (stack layer parts) :=
  tidy_merged layered.tidy_layers

theorem sectioned_stack (layered : Layered layer parts) : Sectioned (stack layer parts) :=
  sectioned_merged layered.tidy_layers layered.sectioned_layers

theorem known_stack_iff (layered : Layered layer parts) :
    Known (stack layer parts) ↔ ∀ one ∈ layer :: parts, Known one := by
  rw [stack, known_merged_iff layered.tidy_layers layered.sectioned_layers]
  simp only [List.forall_mem_cons, List.not_mem_nil, false_imp_iff, implies_true, and_true,
    known_merged_iff layered.tidyParts layered.sectionedParts, known_defaults, true_and]

theorem single_of_admits {type : LeafType} {value : Setting} {json : Json}
    (tidy : Tidy (· ≠ .empty) value) (admits : type.Admits value json) : value.IsSingle := by
  cases admits with
  | text spelled => cases spelled <;> nofun
  | tagged known =>
    have empty : Tidy (· ≠ .empty) .empty := tidy.inner _ List.mem_cons_self
    cases empty with
    | other _ fits => exact absurd rfl fits
  | _ => nofun

theorem admits_of_mem (layered : Layered layer parts) (typed : ∀ one ∈ parts, WellTyped one)
    (listed : part ∈ schema) (typeOf : leaf ∈ part.2) {one : Setting} (inside : one ∈ parts)
    {value : Setting} (held : at? one [part.1, leaf.1] = some value) :
    (∃ json, leaf.2.Admits value json) ∧ value.IsSingle := by
  obtain ⟨json, admits⟩ := typed one inside part listed leaf typeOf value held
  exact ⟨⟨json, admits⟩,
    single_of_admits (tidy_at? (layered.tidyParts one inside) held) admits⟩

theorem at?_variables (layered : Layered layer parts) (typed : ∀ one ∈ parts, WellTyped one)
    (listed : part ∈ schema) (typeOf : leaf ∈ part.2) :
    at? (merged parts) [part.1, leaf.1] =
      (parts.filterMap (at? · [part.1, leaf.1])).getLast? :=
  at?_merged layered.tidyParts
    (fun one inside => (layered.sectionedParts one inside).isOpen listed leaf.1)
    (fun _ inside _ held => (layered.admits_of_mem typed listed typeOf inside held).2)

theorem at?_stack (layered : Layered layer parts) (typed : ∀ one ∈ parts, WellTyped one)
    (listed : part ∈ schema) (typeOf : leaf ∈ part.2) :
    at? (stack layer parts) [part.1, leaf.1] =
      (parts.filterMap (at? · [part.1, leaf.1])).getLast?.or
        ((at? layer [part.1, leaf.1]).or (at? defaults [part.1, leaf.1])) := by
  have opens (one : Setting) (inside : one ∈ [defaults, layer, merged parts]) :
      IsOpen one [part.1, leaf.1] :=
    (layered.sectioned_layers one inside).isOpen listed leaf.1
  simp only [List.forall_mem_cons] at opens
  obtain ⟨lowest, middle, highest, -⟩ := opens
  -- only the file may hold a table here, a choice with its name as a member, so of two values that
  -- meet one is single and the upper one counts
  have above : ∀ value ∈ at? (merged parts) [part.1, leaf.1], value.IsSingle := by
    intro value held
    rw [layered.at?_variables typed listed typeOf] at held
    obtain ⟨one, inside, held⟩ := List.mem_filterMap.1 (List.mem_of_getLast? held)
    exact (layered.admits_of_mem typed listed typeOf inside held).2
  have below : ∀ value ∈ at? defaults [part.1, leaf.1], value.IsSingle := by
    intro value held members same
    obtain ⟨json, -, default, admits⟩ := defaults_admitted part listed leaf typeOf
    cases default.symm.trans held
    cases json with
    | object members => exact admits.ne_object members rfl
    | _ => nomatch same
  have whole : stack layer parts = overlay (overlay defaults layer) (merged parts) := rfl
  rw [whole, at?_overlay layered.tidy_variables (isOpen_overlay layered.tidy lowest middle) highest,
    at?_overlay layered.tidy lowest middle, merge_overlay (.inr above),
    merge_overlay (.inl below), layered.at?_variables typed listed typeOf]

end Layered

/-- Where the JSON of a setting comes from: the last variable that gives the setting, else the file,
else the defaults. -/
inductive Decides (layer : Setting) (parts : List Setting) (path : List String) (type : LeafType) :
    Json → Prop where
  | ofVariable {value : Setting} {json : Json}
    (last : (parts.filterMap (at? · path)).getLast? = some value)
    (meant : type.Admits value json) : Decides layer parts path type json
  | ofFile {value : Setting} {json : Json} (unset : ∀ part ∈ parts, at? part path = none)
    (held : at? layer path = some value) (meant : type.Admits value json) :
    Decides layer parts path type json
  | ofDefault {json : Json} (unset : ∀ part ∈ parts, at? part path = none)
    (absent : at? layer path = none)
    (held : Json.at? (encode Settings.default) path = some json) :
    Decides layer parts path type json

namespace Layered

variable {parts : List Setting} {part : String × List (String × LeafType)}
  {leaf : String × LeafType}

theorem exists_decides (layered : Layered layer parts)
    (typed : ∀ one ∈ layer :: parts, WellTyped one) (listed : part ∈ schema)
    (typeOf : leaf ∈ part.2) :
    ∃ value json, at? (stack layer parts) [part.1, leaf.1] = some value ∧
      leaf.2.Admits value json ∧ Decides layer parts [part.1, leaf.1] leaf.2 json := by
  rw [List.forall_mem_cons] at typed
  rw [layered.at?_stack typed.2 listed typeOf]
  cases last : (parts.filterMap (at? · [part.1, leaf.1])).getLast? with
  | some value =>
    obtain ⟨one, inside, held⟩ := List.mem_filterMap.1 (List.mem_of_getLast? last)
    obtain ⟨⟨json, admits⟩, -⟩ := layered.admits_of_mem typed.2 listed typeOf inside held
    exact ⟨value, json, rfl, admits, .ofVariable last admits⟩
  | none =>
    have unset : ∀ one ∈ parts, at? one [part.1, leaf.1] = none := by
      simpa using last
    cases held : at? layer [part.1, leaf.1] with
    | some value =>
      obtain ⟨json, admits⟩ := typed.1 part listed leaf typeOf value held
      exact ⟨value, json, rfl, admits, .ofFile unset held admits⟩
    | none =>
      obtain ⟨json, shown, default, admits⟩ := defaults_admitted part listed leaf typeOf
      exact ⟨_, json, default, admits, .ofDefault unset held shown⟩

theorem decode_reads (layered : Layered layer parts)
    (known : ∀ one ∈ layer :: parts, Known one) (typed : ∀ one ∈ layer :: parts, WellTyped one) :
    ∃ settings, decode .layers (sorted (stack layer parts)) = .ok settings ∧
      ∀ part ∈ schema, ∀ leaf ∈ part.2, ∃ json,
        Json.at? (encode settings) [part.1, leaf.1] = some json ∧
          Decides layer parts [part.1, leaf.1] leaf.2 json := by
  have fits : WellTyped (stack layer parts) := by
    intro part listed leaf typeOf value held
    obtain ⟨_, json, same, admits, -⟩ := layered.exists_decides typed listed typeOf
    cases same.symm.trans held
    exact ⟨json, admits⟩
  have knows : Known (sorted (stack layer parts)) :=
    known_sorted_iff.2 (layered.known_stack_iff.2 known)
  obtain ⟨settings, read, shown⟩ := Settings.decode_reads (tidy_sorted layered.tidy_stack)
    layered.sectioned_stack.sorted knows fits.sorted
  refine ⟨settings, read, fun part listed leaf typeOf => ?_⟩
  obtain ⟨value, json, held, admits, decides⟩ := layered.exists_decides typed listed typeOf
  have there : at? (sorted (stack layer parts)) [part.1, leaf.1] = some (sorted value) := by
    rw [at?_sorted, held, Option.map_some]
  exact ⟨json, shown part listed leaf typeOf _ json there admits.sorted, decides⟩

theorem decode_refuses (layered : Layered layer parts)
    (unknown : ¬∀ one ∈ layer :: parts, Known one) :
    ∃ refusal, decode .layers (sorted (stack layer parts)) = .error refusal := by
  refine Settings.decode_refuses (tidy_sorted layered.tidy_stack)
    layered.sectioned_stack.sorted ?_
  rwa [known_sorted_iff, layered.known_stack_iff]

end Layered

end Settings
end Faultline
