import Faultline.Proofs.Problem.Limits
import Faultline.Proofs.Problem.Reached
import Faultline.Proofs.Response.Formatting

/-!
Writing a document and reading it back. A document whose extension members have no reserved names
tells all that its members tell, and there is only one such document, so reading gives it back.
Main statement: this holds for its value and its text, for all documents that operations reach, and
for all that formatting makes.
-/

namespace Faultline

namespace Problem

variable {problem other : Problem} {members : List (String × Json)}

theorem Tells.unique (tells : problem.Tells members) (also : other.Tells members) :
    problem = other := by
  have type := tells.type.symm.trans also.type
  have title := tells.title.symm.trans also.title
  have status := tells.status.symm.trans also.status
  have detail := tells.detail.trans also.detail.symm
  have instanceUri := tells.instanceUri.trans also.instanceUri.symm
  have code := tells.code.trans also.code.symm
  have traceId := tells.traceId.trans also.traceId.symm
  have errorId := tells.errorId.trans also.errorId.symm
  have extensions := Members.ext (tells.extensions.trans also.extensions.symm)
  simp only [Option.some.injEq, Json.string.injEq, Json.integer.injEq, Int.ofNat_inj,
    Status.code_inj] at type title status
  cases problem
  cases other
  rw [mk.injEq]
  exact ⟨type, title, status, detail, instanceUri, code, traceId, errorId, extensions⟩

theorem find?_members (unreserved : Unreserved problem.extensions) {key : String}
    (reserved : isReserved key = true) :
    Json.find? problem.members key = Json.find? problem.ownMembers key := by
  have absent : Json.find? problem.extensions.entries key = none := by
    rw [Json.find?_eq_none_iff]
    intro named
    obtain ⟨entry, member, rfl⟩ := List.mem_map.1 named
    rw [unreserved entry member] at reserved
    cases reserved
  rw [Problem.members, Json.find?_append, absent, Option.or_none]

theorem find?_own_detail : Json.find? problem.ownMembers "detail" =
    if problem.detail.isEmpty then none else some (.string problem.detail) := by
  unfold ownMembers Json.find?
  cases problem.detail.isEmpty <;> cases problem.errorId <;> simp

theorem find?_own_errorId :
    Json.find? problem.ownMembers "errorId" = problem.errorId.map .string := by
  unfold ownMembers Json.find?
  cases problem.detail.isEmpty <;> cases problem.errorId <;> simp

theorem tells_members (unreserved : Unreserved problem.extensions) :
    problem.Tells problem.members where
  type := rfl
  title := rfl
  status := problem.find?_status
  detail := by
    rw [textOf, find?_members unreserved rfl, find?_own_detail]
    split
    next empty => exact String.isEmpty_iff.1 empty
    next => rfl
  instanceUri := by
    rw [textOf, find?_instance]
    rfl
  code := by
    rw [textOf, find?_code]
    rfl
  traceId := by
    rw [textOf, find?_traceId]
    rfl
  errorId := by
    rw [find?_members unreserved rfl, find?_own_errorId]
    cases problem.errorId <;> rfl
  extensions := by
    have own : problem.ownMembers.filter (!isReserved ·.1) = [] := by
      rw [List.filter_eq_nil_iff]
      intro entry member
      simp [mem_reserved_of_own member]
    have others : problem.extensions.entries.filter (!isReserved ·.1) =
        problem.extensions.entries := by
      rw [List.filter_eq_self]
      intro entry member
      simp [unreserved entry member]
    rw [Problem.members, List.filter_append, own, others, List.nil_append]

theorem isDocument_members (unreserved : Unreserved problem.extensions) :
    IsDocument problem.members where
  type := ⟨_, rfl⟩
  title := ⟨_, rfl⟩
  status := by
    have bounds := problem.status.valid
    exact ⟨_, problem.find?_status, by omega, by omega⟩
  texts := by
    intro key member
    simp only [List.mem_cons, List.not_mem_nil, or_false] at member
    rcases member with rfl | rfl | rfl | rfl
    · rw [find?_members unreserved rfl, find?_own_detail]
      split
      next => exact .inl rfl
      next => exact .inr ⟨_, rfl⟩
    · exact .inr ⟨_, problem.find?_instance⟩
    · exact .inr ⟨_, problem.find?_code⟩
    · exact .inr ⟨_, problem.find?_traceId⟩
  errorId := by
    rw [find?_members unreserved rfl, find?_own_errorId]
    cases problem.errorId with
    | none => exact .inl rfl
    | some id => exact .inr (.inr ⟨id, rfl⟩)

theorem decodeMembers_members (unreserved : Unreserved problem.extensions) :
    decodeMembers problem.members = .ok problem := by
  have distinct := nodup_names unreserved
  obtain ⟨read, decoded⟩ := exists_decodeMembers distinct (isDocument_members unreserved)
  have tells := (of_decodeMembers distinct decoded).2
  rw [decoded, tells.unique (tells_members unreserved)]

theorem decode_encode (unreserved : Unreserved problem.extensions) :
    decode problem.encode = .ok problem :=
  decodeMembers_members unreserved

variable (portable : ∀ entry ∈ problem.extensions.entries, IsPortable entry.2)
include portable

theorem read_body (unreserved : Unreserved problem.extensions) :
    read problem.body = .ok problem := by
  have members := isPortable_members portable
  exact read_eq_ok_iff.2 ⟨_, Json.readDocument_compact
    (isExact_object (nodup_names unreserved) members) (nesting_object_lt members),
    decodeMembers_members unreserved⟩

omit portable

/-- A document without reserved names among its extension members is written with distinct names and
read back from its value, and from its text if that can say all extension values. Operations on
documents give no others, and formatting makes such a document of any. -/
theorem document_round_trip :
    (∀ problem : Problem, Unreserved problem.extensions →
      (∃ members, problem.encode = .object members ∧ (members.map Prod.fst).Nodup) ∧
      decode problem.encode = .ok problem ∧
      ((∀ entry ∈ problem.extensions.entries, IsPortable entry.2) →
        Json.parse problem.body = .ok problem.encode ∧ read problem.body = .ok problem)) ∧
    (∀ (admits : Json → Prop) (problem : Problem), Reached admits problem →
      Unreserved problem.extensions ∧ ∀ entry ∈ problem.extensions.entries, admits entry.2) ∧
    ∀ (limits : Limits) (ctx : RequestContext) (problem : Problem) (status : Status)
      (supply : Supply),
      let sent := ((Formatting.format limits ctx problem status).run supply).value.2.1
      Unreserved sent.extensions ∧
      ((∀ entry ∈ problem.extensions.entries, IsPortable entry.2) →
        ∀ entry ∈ sent.extensions.entries, IsPortable entry.2) := by
  refine ⟨?_, ?_, ?_⟩
  · intro problem unreserved
    refine ⟨⟨problem.members, rfl, nodup_names unreserved⟩, decode_encode unreserved, ?_⟩
    intro portable
    exact ⟨parse_body portable unreserved, read_body portable unreserved⟩
  · intro admits problem reached
    have carries := carries_of_reached reached
    exact ⟨fun entry member => (carries entry member).1,
      fun entry member => (carries entry member).2⟩
  · intro limits ctx problem status supply
    rw [Formatting.value_format]
    exact ⟨Formatting.unreserved_finish limits ctx problem _,
      fun portable => Limits.isPortable_admitted portable⟩

def annotated : Problem :=
  (new .unprocessable "Rejected" "")
    |>.withExtension "errors" (.object [("e-mail", .array [.string "is \"required\"\n", .null]),
      ("ratio", .decimal ⟨true, 0, Decimal.digitsOf 2 25⟩)])
    |>.withExtension "note" (.string "\x01 é \\")

theorem document_round_trip_annotated :
    Reached IsPortable annotated ∧ decode annotated.encode = .ok annotated ∧
      Json.parse annotated.body = .ok annotated.encode ∧ read annotated.body = .ok annotated := by
  have ratio : Decimal.IsExact ⟨true, 0, Decimal.digitsOf 2 25⟩ := by
    unfold Decimal.IsExact
    decide +kernel
  have errors : IsPortable (.object [("e-mail", .array [.string "is \"required\"\n", .null]),
      ("ratio", .decimal ⟨true, 0, Decimal.digitsOf 2 25⟩)]) :=
    ⟨⟨by decide, ⟨trivial, trivial, trivial⟩, ratio, trivial⟩, by decide⟩
  have note : IsPortable (.string "\x01 é \\") := ⟨trivial, by decide⟩
  have made : Reached IsPortable annotated :=
    .withExtension (.withExtension (.new _ _ _) _ errors) _ note
  obtain ⟨written, reached, -⟩ := document_round_trip
  obtain ⟨unreserved, portable⟩ := reached IsPortable annotated made
  obtain ⟨-, decoded, texts⟩ := written annotated unreserved
  exact ⟨made, decoded, texts portable⟩

end Problem
end Faultline
