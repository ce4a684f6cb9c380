import Mathlib.Data.List.Nodup
import Faultline.Proofs.Settings.Schema

/-!
Reading the settings off a layer. Main statements: a layer that gives known settings only, with
values of their types, is read, and the settings are as it gives them; and a layer that gives
another one is refused.
-/

namespace Faultline

namespace Settings
open Setting Layers

variable {may : Setting → Prop} {layer : Setting}

def GivesTables (layer : Setting) : Prop :=
  ∀ part ∈ schema, ∀ value, at? layer [part.1] = some value → ∃ members, value = .table members

structure Sectioned (layer : Setting) : Prop where
  table : ∃ members, layer = .table members
  sections : GivesTables layer

/-- The layer names known sections only, and known settings in them. -/
structure Known (layer : Setting) : Prop where
  sections : ∀ name, at? layer [name] ≠ none → name ∈ schema.map Prod.fst
  leaves : ∀ part ∈ schema, ∀ name, at? layer [part.1, name] ≠ none → name ∈ part.2.map Prod.fst

/-- Each setting that the layer gives has a value of its type. -/
def WellTyped (layer : Setting) : Prop :=
  ∀ part ∈ schema, ∀ leaf ∈ part.2, ∀ value, at? layer [part.1, leaf.1] = some value →
    ∃ json, leaf.2.Admits value json

theorem schema_distinct :
    (schema.map Prod.fst).Nodup ∧ ∀ part ∈ schema, (part.2.map Prod.fst).Nodup := by decide

theorem at?_of_mem {members : List (String × Setting)} (tidy : Tidy may (.table members))
    {member : String × Setting} (inside : member ∈ members) (path : List String) :
    at? (.table members) (member.1 :: path) = at? member.2 path := by
  rw [at?_cons, find?_eq_some_of_mem tidy.distinct inside]
  rfl

theorem exists_section {part : String × List (String × LeafType)} (sectioned : Sectioned layer)
    (known : part ∈ schema) {name : String} {value : Setting}
    (found : at? layer [part.1, name] = some value) :
    ∃ members inner, layer = .table members ∧ (part.1, .table inner) ∈ members ∧
      (name, value) ∈ inner := by
  obtain ⟨members, rfl⟩ := sectioned.table
  rw [at?_cons] at found
  obtain ⟨part', here, found⟩ := Option.bind_eq_some_iff.1 found
  obtain ⟨inner, rfl⟩ := sectioned.sections part known part' (by rw [at?_cons, here]; rfl)
  rw [at?_cons] at found
  obtain ⟨value', there, same⟩ := Option.bind_eq_some_iff.1 found
  cases same
  exact ⟨members, inner, rfl, mem_of_find? here, mem_of_find? there⟩

theorem at?_singleton {name first : String} {members : List (String × Setting)}
    {path : List String} {value : Setting}
    (held : at? (.table [(name, .table members)]) (first :: path) = some value) :
    name = first ∧ at? (.table members) path = some value := by
  rw [at?_cons, find?_cons] at held
  by_cases same : name = first
  · rw [if_pos same] at held
    exact ⟨same, held⟩
  · rw [if_neg same] at held
    nomatch held

theorem sectioned_singleton (name : String) (members : List (String × Setting)) :
    Sectioned (.table [(name, .table members)]) where
  table := ⟨_, rfl⟩
  sections _ _ _ held := ⟨members, (Option.some.inj (at?_singleton held).2).symm⟩

theorem fits_singleton {part : String × List (String × LeafType)} (listed : part ∈ schema)
    {members : List (String × Setting)}
    (fits : ∀ member ∈ members, ∃ json, Means part.2 member.1 member.2 json) :
    Known (.table [(part.1, .table members)]) ∧ WellTyped (.table [(part.1, .table members)]) := by
  have meant {name : String} {value : Setting} (held : at? (.table members) [name] = some value) :
      ∃ json, Means part.2 name value json := by
    obtain ⟨inner, here, same⟩ := Option.bind_eq_some_iff.1 held
    cases same
    exact fits _ (mem_of_find? here)
  refine ⟨⟨fun name held => ?_, fun other there name held => ?_⟩,
    fun other there ⟨leaf, type⟩ typeOf value held => ?_⟩
  · obtain ⟨value, held⟩ := Option.ne_none_iff_exists'.1 held
    exact (at?_singleton held).1 ▸ List.mem_map_of_mem listed
  · obtain ⟨value, held⟩ := Option.ne_none_iff_exists'.1 held
    obtain ⟨same, inner⟩ := at?_singleton held
    cases List.inj_on_of_nodup_map schema_distinct.1 listed there same
    obtain ⟨json, type, typeOf, -⟩ := meant inner
    exact List.mem_map_of_mem typeOf
  · obtain ⟨same, inner⟩ := at?_singleton held
    cases List.inj_on_of_nodup_map schema_distinct.1 listed there same
    obtain ⟨json, type, again, admits⟩ := meant inner
    cases List.inj_on_of_nodup_map (schema_distinct.2 _ listed) typeOf again rfl
    exact ⟨json, admits⟩

def MeansSection (name : String) (value : Setting) (json : Json) : Prop :=
  ∃ leaves members, (name, leaves) ∈ schema ∧ value = .table members ∧ Shows leaves members json

theorem exists_means {fields : List (Field Settings)} {members : List (String × Setting)}
    (holds : ∀ part ∈ schema, HoldsSection fields part.1 part.2)
    (tidy : Tidy may (.table members)) (sectioned : Sectioned (.table members))
    (known : Known (.table members)) (typed : WellTyped (.table members))
    {member : String × Setting} (inside : member ∈ members) :
    ∃ json, MeansSection member.1 member.2 json ∧
      Reads fields (Json.members ∘ encode) member.1 member.2 json := by
  obtain ⟨name, value⟩ := member
  have held : at? (.table members) [name] = some value := at?_of_mem tidy inside []
  have named : name ∈ schema.map Prod.fst := known.sections name (by simp [held])
  obtain ⟨⟨name, leaves⟩, listed, rfl⟩ := List.mem_map.1 named
  obtain ⟨inner, rfl⟩ := sectioned.sections _ listed value held
  have tidyInner : Tidy may (.table inner) := tidy.inner _ inside
  have fits : ∀ one ∈ inner, ∃ json, Means leaves one.1 one.2 json := by
    intro one there
    have given : at? (.table members) [name, one.1] = some one.2 :=
      (at?_of_mem tidy inside [one.1]).trans (at?_of_mem tidyInner there [])
    obtain ⟨leaf, typeOf, named⟩ := List.mem_map.1 (known.leaves _ listed one.1 (by simp [given]))
    obtain ⟨json, admits⟩ := typed _ listed leaf typeOf one.2 (named ▸ given)
    exact ⟨json, leaf.2, named ▸ typeOf, admits⟩
  obtain ⟨α, decode, encode, set, here, lawful, follows⟩ := holds _ listed
  obtain ⟨record, read, shown⟩ := follows.reads tidyInner.distinct fits
  exact ⟨_, ⟨leaves, inner, listed, rfl, shown⟩, reads_field here lawful ⟨record, read, rfl⟩⟩

theorem decode_reads (tidy : Tidy may layer) (sectioned : Sectioned layer) (known : Known layer)
    (typed : WellTyped layer) :
    ∃ settings, decode .layers layer = .ok settings ∧
      ∀ part ∈ schema, ∀ leaf ∈ part.2, ∀ value json,
        at? layer [part.1, leaf.1] = some value → leaf.2.Admits value json →
          Json.at? (encode settings) [part.1, leaf.1] = some json := by
  obtain ⟨fields, decodes, -, holds⟩ := exists_sections
  obtain ⟨members, rfl⟩ := sectioned.table
  obtain ⟨settings, read, shown, -⟩ := assignMembers_reads tidy.distinct
    (fun member inside => exists_means holds tidy sectioned known typed inside) .default
  refine ⟨settings, by rw [decodes]; exact read, ?_⟩
  rintro ⟨name, leaves⟩ listed ⟨leaf, type⟩ typeOf value json given admits
  obtain ⟨_, inner, same, inside, there⟩ := exists_section sectioned listed given
  cases same
  obtain ⟨sectionJson, ⟨_, _, again, same, shows⟩, found⟩ := shown _ inside
  cases same
  cases List.inj_on_of_nodup_map schema_distinct.1 listed again rfl
  obtain ⟨leafJson, ⟨type', again, admitted⟩, held⟩ := shows _ there
  cases List.inj_on_of_nodup_map (schema_distinct.2 _ listed) typeOf again rfl
  rw [Json.at?]
  show (Json.find? ((Json.members ∘ encode) settings) name).bind _ = _
  rw [found, Option.bind_some, Json.at?, held, admitted.unique admits]
  rfl

theorem decode_refuses (tidy : Tidy may layer) (sectioned : Sectioned layer)
    (unknown : ¬Known layer) : ∃ refusal, decode .layers layer = .error refusal := by
  obtain ⟨fields, decodes, names, holds⟩ := exists_sections
  obtain ⟨members, rfl⟩ := sectioned.table
  suffices refused : ∃ member ∈ members, Refuses fields member.1 member.2 by
    obtain ⟨member, inside, refuses⟩ := refused
    rw [decodes]
    exact assignMembers_refuses inside refuses .default
  by_contra read
  push Not at read
  refine unknown ⟨fun name held => ?_, fun part listed name held => ?_⟩
  · by_contra absent
    obtain ⟨value, held⟩ := Option.ne_none_iff_exists'.1 held
    rw [at?_cons] at held
    obtain ⟨value, here, -⟩ := Option.bind_eq_some_iff.1 held
    exact read _ (mem_of_find? here) (refuses_unknown (names ▸ absent))
  · by_contra absent
    obtain ⟨value, held⟩ := Option.ne_none_iff_exists'.1 held
    obtain ⟨_, inner, same, inside, there⟩ := exists_section sectioned listed held
    cases same
    obtain ⟨α, decode, encode, set, here, -, follows⟩ := holds _ listed
    exact read _ inside (refuses_field here (follows.refuses there absent))

end Settings
end Faultline
