import Faultline.Proofs.Json.Members
import Faultline.Proofs.Settings.Tables
import Faultline.Settings.Decoding

/-!
Reading a record from a table. A field that reads a value writes it as one member and leaves the
others; so a record that is read has what the table gives, and no table with a value that some
member cannot have, or with a member of another name, is read.
-/

namespace Faultline

namespace Settings

variable {α β : Type} {fields : List (Field α)} {view : α → List (String × Json)}
  {name : String} {value : Setting} {json : Json} {members : List (String × Setting)}

/-- Whatever the record, the field of the name takes the value, and the record then has the JSON
under that name and else what it had. -/
def Reads (fields : List (Field α)) (view : α → List (String × Json)) (name : String)
    (value : Setting) (json : Json) : Prop :=
  ∃ field, fields.find? (·.name == name) = some field ∧ ∀ record, ∃ next,
    field.assign record value = .ok next ∧ view next = Json.upsert name json (view record)

def Refuses (fields : List (Field α)) (name : String) (value : Setting) : Prop :=
  ∀ field, fields.find? (·.name == name) = some field → ∀ record, ∃ refusal,
    field.assign record value = .error refusal

theorem reads_field {decode : Decoder β} {set : α → β → α} {encode : β → Json}
    (here : fields.find? (·.name == name) = some (field name decode set))
    (lawful : ∀ record part, view (set record part) = Json.upsert name (encode part) (view record))
    (read : ∃ part, decode value = .ok part ∧ encode part = json) :
    Reads fields view name value json := by
  obtain ⟨part, decoded, rfl⟩ := read
  have assigned (record : α) :
      (field name decode set).assign record value = .ok (set record part) :=
    congrArg (Except.map (set record)) decoded
  exact ⟨_, here, fun record => ⟨_, assigned record, lawful record part⟩⟩

theorem refuses_field {decode : Decoder β} {set : α → β → α}
    (here : fields.find? (·.name == name) = some (field name decode set))
    (refused : ∃ refusal, decode value = .error refusal) : Refuses fields name value := by
  obtain ⟨refusal, refused⟩ := refused
  intro other found record
  cases here.symm.trans found
  exact ⟨refusal, congrArg (Except.map (set record)) refused⟩

theorem refuses_unknown (unknown : name ∉ fields.map Field.name) : Refuses fields name value := by
  intro field found
  have named : field.name = name := by simpa using List.find?_some found
  exact absurd (List.mem_map.2 ⟨field, List.mem_of_find?_eq_some found, named⟩) unknown

theorem assignMembers_reads {means : String → Setting → Json → Prop}
    (distinct : (members.map Prod.fst).Nodup)
    (reads : ∀ member ∈ members, ∃ json, means member.1 member.2 json ∧
      Reads fields view member.1 member.2 json) (initial : α) :
    ∃ record, assignMembers fields initial members = .ok record ∧
      (∀ member ∈ members, ∃ json, means member.1 member.2 json ∧
        Json.find? (view record) member.1 = some json) ∧
      ∀ name ∉ members.map Prod.fst,
        Json.find? (view record) name = Json.find? (view initial) name := by
  induction members generalizing initial with
  | nil => exact ⟨initial, rfl, List.forall_mem_nil _, fun _ _ => rfl⟩
  | cons member rest ih =>
    rw [List.map_cons, List.nodup_cons] at distinct
    obtain ⟨⟨json, meant, field, here, assigned⟩, others⟩ := List.forall_mem_cons.1 reads
    obtain ⟨next, set, grown⟩ := assigned initial
    obtain ⟨record, read, given, kept⟩ := ih distinct.2 others next
    -- the members that follow have other names, so what this one gives stays
    refine ⟨record, ?_, List.forall_mem_cons.2 ⟨⟨json, meant, ?_⟩, given⟩, fun name absent => ?_⟩
    · rw [assignMembers, here]
      dsimp only
      rw [set]
      exact read
    · rw [kept _ distinct.1, grown, Json.find?_upsert, if_pos rfl]
    · rw [List.map_cons, List.mem_cons, not_or] at absent
      rw [kept _ absent.2, grown, Json.find?_upsert, if_neg (Ne.symm absent.1)]

theorem assignMembers_refuses {member : String × Setting} (inside : member ∈ members)
    (refuses : Refuses fields member.1 member.2) (initial : α) :
    ∃ refusal, assignMembers fields initial members = .error refusal := by
  induction members generalizing initial with
  | nil => cases inside
  | cons first rest ih =>
    rw [assignMembers]
    cases found : fields.find? (·.name == first.1) with
    | none => exact ⟨_, rfl⟩
    | some field =>
      dsimp only
      cases assigned : field.assign initial first.2 with
      | error refusal => exact ⟨_, rfl⟩
      | ok next =>
        rcases List.mem_cons.1 inside with rfl | later
        · obtain ⟨refusal, refused⟩ := refuses field found initial
          exact nomatch assigned.symm.trans refused
        · exact ih later next

end Settings
end Faultline
