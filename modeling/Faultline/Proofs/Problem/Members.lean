import Faultline.Problem.Limits
import Faultline.Problem.Wire
import Faultline.Proofs.Json.Members
import Faultline.Proofs.Json.RoundTrip
import Faultline.Proofs.Text.Trim

/-!
The members of a document. Its own ones have reserved names, each of them once, and the extension
members that limits admit never do.
-/

namespace Faultline

theorem Status.code_inj {a b : Status} : a.code = b.code ↔ a = b := by
  constructor
  · intro same
    cases a
    cases b
    cases same
    rfl
  · rintro rfl
    rfl

namespace Problem

def members (problem : Problem) : List (String × Json) :=
  problem.ownMembers ++ problem.extensions.entries

theorem body_eq (problem : Problem) : problem.body = (Json.object problem.members).compact := rfl

/-- No member has the name of one of a document's own. -/
def Unreserved (extensions : Members) : Prop :=
  ∀ entry ∈ extensions.entries, isReserved entry.1 = false

theorem isBlank_instanceUrn (id : String) : Text.isBlank (instanceUrn id) = false := by
  have label : Text.isBlank "urn:problem:instance:" = false := by decide +kernel
  unfold instanceUrn
  rw [Text.isBlank_append, label, Bool.false_and]

theorem instanceUrn_injective : Function.Injective instanceUrn :=
  fun _ _ same => (String.append_right_inj "urn:problem:instance:").1 same

variable (problem : Problem)

theorem ownNames_sublist : (problem.ownMembers.map Prod.fst).Sublist reserved := by
  unfold ownMembers reserved
  cases problem.detail.isEmpty <;> cases problem.errorId <;> simp

variable {problem}

theorem mem_reserved_of_own {entry : String × Json} (own : entry ∈ problem.ownMembers) :
    isReserved entry.1 = true := by
  rw [isReserved, List.contains_iff_mem]
  exact problem.ownNames_sublist.subset (List.mem_map_of_mem own)

theorem nodup_names (unreserved : Unreserved problem.extensions) :
    (problem.members.map Prod.fst).Nodup := by
  rw [members, List.map_append, List.nodup_append]
  refine ⟨problem.ownNames_sublist.nodup (by decide), problem.extensions.distinct, ?_⟩
  intro name ownName other extensionName equal
  obtain ⟨first, own, rfl⟩ := List.mem_map.1 ownName
  obtain ⟨second, extension, rfl⟩ := List.mem_map.1 extensionName
  have absent := unreserved second extension
  rw [← equal, mem_reserved_of_own own] at absent
  cases absent

variable (problem)

theorem find?_status :
    Json.find? problem.members "status" = some (.integer problem.status.code) := rfl

theorem find?_instance :
    Json.find? problem.members "instance" = some (.string problem.instanceUri) := by
  unfold members ownMembers Json.find?
  cases problem.detail.isEmpty <;> simp

theorem find?_code : Json.find? problem.members "code" = some (.string problem.code) := by
  unfold members ownMembers Json.find?
  cases problem.detail.isEmpty <;> simp

theorem find?_traceId :
    Json.find? problem.members "traceId" = some (.string problem.traceId) := by
  unfold members ownMembers Json.find?
  cases problem.detail.isEmpty <;> simp

theorem find?_errorId {id : String} (given : problem.errorId = some id) :
    Json.find? problem.members "errorId" = some (.string id) := by
  unfold members ownMembers Json.find?
  rw [given]
  cases problem.detail.isEmpty <;> simp

variable {problem} {members : List (String × Json)}

/-- A value that the text of a document can say as an extension member. -/
def IsPortable (value : Json) : Prop := value.IsExact ∧ value.nesting + 1 < Json.nestingLimit

theorem isPortable_own : ∀ entry ∈ problem.ownMembers, IsPortable entry.2 := by
  have bounds := problem.status.valid
  have scalar : 0 + 1 < Json.nestingLimit := by decide
  have text (s : String) : IsPortable (.string s) := ⟨trivial, scalar⟩
  have code : IsPortable (.integer problem.status.code) := by
    refine ⟨⟨?_, ?_⟩, scalar⟩ <;> omega
  unfold ownMembers
  cases problem.detail.isEmpty <;> cases problem.errorId <;> simp [text, code]

theorem isExact_object (distinct : (members.map Prod.fst).Nodup)
    (portable : ∀ member ∈ members, IsPortable member.2) : (Json.object members).IsExact :=
  ⟨distinct, Json.membersAreExact_iff.2 fun member inside => (portable member inside).1⟩

theorem nesting_object_lt (portable : ∀ member ∈ members, IsPortable member.2) :
    (Json.object members).nesting < Json.nestingLimit := by
  have shallow : Json.nestingMembers members < Json.nestingLimit - 1 := by
    rw [Json.nestingMembers_lt_iff (by decide)]
    intro member inside
    have fits := (portable member inside).2
    omega
  show Json.nestingMembers members + 1 < Json.nestingLimit
  omega

theorem parse_object (distinct : (members.map Prod.fst).Nodup)
    (portable : ∀ member ∈ members, IsPortable member.2) :
    Json.parse (Json.object members).compact = .ok (.object members) :=
  Json.parse_compact (isExact_object distinct portable) (nesting_object_lt portable)

theorem isPortable_members (portable : ∀ entry ∈ problem.extensions.entries, IsPortable entry.2) :
    ∀ entry ∈ problem.members, IsPortable entry.2 := by
  intro entry member
  rcases List.mem_append.1 member with own | extension
  · exact isPortable_own entry own
  · exact portable entry extension

theorem parse_body (portable : ∀ entry ∈ problem.extensions.entries, IsPortable entry.2)
    (unreserved : Unreserved problem.extensions) :
    Json.parse problem.body = .ok (.object problem.members) :=
  parse_object (nodup_names unreserved) (isPortable_members portable)

end Problem

namespace Limits

def keeps? (limits : Limits) (key : String) (value : Json) : Option Json :=
  if limits.validator.any fun accepts => !accepts key value then none
  else if Problem.isReserved key then none
  else limits.fit 0 value

def admitted (limits : Limits) (extensions : Members) : Members :=
  extensions.select limits.maxExtensions limits.keeps?

theorem unreserved_of_keeps {limits : Limits} {key : String} {value kept : Json}
    (keeps : limits.keeps? key value = some kept) : Problem.isReserved key = false := by
  unfold keeps? at keeps
  split at keeps
  next => cases keeps
  next =>
    split at keeps
    next => cases keeps
    next free => exact (Bool.not_eq_true _).mp free

theorem unreserved_admitted (limits : Limits) (extensions : Members) :
    Problem.Unreserved (limits.admitted extensions) := by
  intro entry member
  simp only [admitted, Members.select] at member
  obtain ⟨given, -, made⟩ := List.mem_filterMap.1 member
  obtain ⟨value, keeps, rfl⟩ := Option.map_eq_some_iff.1 made
  exact unreserved_of_keeps keeps

end Limits
end Faultline
