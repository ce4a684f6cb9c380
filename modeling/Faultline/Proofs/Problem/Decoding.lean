import Faultline.Proofs.Problem.Draft

/-!
Reading a document from a value. Main statement: exactly the objects with the members of the format
are read, what is absent is empty, and all other members become extension members in their order, so
that writing what was read gives the canonical form of the value.
-/

namespace Faultline

theorem Except.bind_eq_ok {α β ε : Type} {action : Except ε α} {next : α → Except ε β} {made : β}
    (run : (action >>= next) = .ok made) : ∃ a, action = .ok a ∧ next a = .ok made := by
  cases action with
  | error reason => cases run
  | ok a => exact ⟨a, rfl, run⟩

namespace Problem

def textOf (members : List (String × Json)) (key : String) : String :=
  ((Json.find? members key).bind Json.string?).getD ""

/-- The members are those of the format: a type, a title and a status, which are required, and of
the others of a document's own only texts, where the error id may also be null. -/
structure IsDocument (members : List (String × Json)) : Prop where
  type : ∃ s, Json.find? members "type" = some (.string s)
  title : ∃ s, Json.find? members "title" = some (.string s)
  status : ∃ n : Int, Json.find? members "status" = some (.integer n) ∧ 100 ≤ n ∧ n ≤ 999
  texts : ∀ key ∈ ["detail", "instance", "code", "traceId"],
    Json.find? members key = none ∨ ∃ s, Json.find? members key = some (.string s)
  errorId : Json.find? members "errorId" = none ∨ Json.find? members "errorId" = some .null ∨
    ∃ s, Json.find? members "errorId" = some (.string s)

/-- The document says what the members say: what is absent is empty, and all members that are not a
document's own are extension members. -/
structure Tells (problem : Problem) (members : List (String × Json)) : Prop where
  type : Json.find? members "type" = some (.string problem.typeUri)
  title : Json.find? members "title" = some (.string problem.title)
  status : Json.find? members "status" = some (.integer problem.status.code)
  detail : problem.detail = textOf members "detail"
  instanceUri : problem.instanceUri = textOf members "instance"
  code : problem.code = textOf members "code"
  traceId : problem.traceId = textOf members "traceId"
  errorId : problem.errorId = (Json.find? members "errorId").bind Json.string?
  extensions : problem.extensions.entries = members.filter (!isReserved ·.1)

variable {members : List (String × Json)} {problem : Problem}

theorem IsDocument.fits (document : IsDocument members) {key : String} {value : Json}
    (reserved : isReserved key = true) (found : Json.find? members key = some value) :
    Fits key value := by
  have text (member : key ∈ ["detail", "instance", "code", "traceId"]) :
      ∃ s, value = .string s := by
    rcases document.texts key member with absent | ⟨s, given⟩
    · rw [absent] at found
      cases found
    · exact ⟨s, Option.some.inj (found.symm.trans given)⟩
  rcases isReserved_cases reserved with rfl | rfl | rfl | rfl | rfl | rfl | rfl | rfl
  · obtain ⟨s, given⟩ := document.type
    exact ⟨s, Option.some.inj (found.symm.trans given)⟩
  · obtain ⟨s, given⟩ := document.title
    exact ⟨s, Option.some.inj (found.symm.trans given)⟩
  · obtain ⟨n, given, low, high⟩ := document.status
    exact ⟨n, Option.some.inj (found.symm.trans given), low, high⟩
  · exact text (by decide)
  · exact text (by decide)
  · exact text (by decide)
  · exact text (by decide)
  · rcases document.errorId with absent | null | ⟨s, given⟩
    · rw [absent] at found
      cases found
    · exact .inl (Option.some.inj (found.symm.trans null))
    · exact .inr ⟨s, Option.some.inj (found.symm.trans given)⟩

theorem tells_of_finish {draft : Draft} (made : draft.finish = .ok problem)
    (own : ∀ key, isReserved key = true → draft.own? key = Json.find? members key)
    (others : draft.extensions.entries = members.filter (!isReserved ·.1)) :
    problem.Tells members := by
  have text {key : String} {read : Option String} (reserved : isReserved key = true)
      (given : draft.own? key = read.map .string) : read.getD "" = textOf members key := by
    rw [textOf, ← own key reserved, given]
    cases read <;> rfl
  unfold Draft.finish at made
  split at made
  next => cases made
  next => cases made
  next => cases made
  next typeUri title status hasType hasTitle hasStatus =>
    cases made
    constructor
    · rw [← own "type" rfl]
      exact congrArg (Option.map _) hasType
    · rw [← own "title" rfl]
      exact congrArg (Option.map _) hasTitle
    · rw [← own "status" rfl]
      exact congrArg (Option.map _) hasStatus
    · exact text rfl rfl
    · exact text rfl rfl
    · exact text rfl rfl
    · exact text rfl rfl
    · rw [← own "errorId" rfl]
      show draft.errorId.getD none = (draft.errorId.map errorIdValue).bind Json.string?
      rcases draft.errorId with _ | _ | id <;> rfl
    · exact others

theorem exists_decodeMembers (distinct : (members.map Prod.fst).Nodup)
    (document : IsDocument members) : ∃ problem, decodeMembers members = .ok problem := by
  obtain ⟨draft, accepted⟩ : ∃ draft, Draft.empty.acceptAll members = .ok draft :=
    Draft.exists_acceptAll distinct fun member inside reserved => ⟨Draft.own?_empty,
      document.fits reserved (Json.find?_eq_some_of_mem distinct inside)⟩
  have own (key : String) (reserved : isReserved key = true) :
      draft.own? key = Json.find? members key := by
    rw [(Draft.own?_acceptAll distinct accepted).1 key reserved, Draft.own?_empty, Option.or_none]
  obtain ⟨typeUri, type⟩ := document.type
  obtain ⟨title, named⟩ := document.title
  obtain ⟨n, settled, -⟩ := document.status
  obtain ⟨problem, made⟩ := Draft.exists_finish ((own "type" rfl).trans type)
    ((own "title" rfl).trans named) ((own "status" rfl).trans settled)
  refine ⟨problem, ?_⟩
  unfold decodeMembers
  rw [accepted]
  exact made

theorem of_decodeMembers (distinct : (members.map Prod.fst).Nodup)
    (read : decodeMembers members = .ok problem) :
    IsDocument members ∧ problem.Tells members := by
  obtain ⟨draft, accepted, made⟩ := Except.bind_eq_ok read
  obtain ⟨own, extensions⟩ := Draft.own?_acceptAll distinct accepted
  have own (key : String) (reserved : isReserved key = true) :
      draft.own? key = Json.find? members key := by
    rw [own key reserved, Draft.own?_empty, Option.or_none]
  have others : draft.extensions.entries = members.filter (!isReserved ·.1) := by
    rw [extensions, Members.entries_foldl_insert]
    refine Json.foldl_upsert [] _ ?_
    exact ((List.filter_sublist (l := members)).map Prod.fst).nodup distinct
  have tells := tells_of_finish made own others
  have text (key : String) (reserved : isReserved key = true)
      (kind : ∀ value, Fits key value → ∃ s, value = .string s) :
      Json.find? members key = none ∨ ∃ s, Json.find? members key = some (.string s) := by
    cases found : Json.find? members key with
    | none => exact .inl rfl
    | some value =>
      obtain ⟨s, rfl⟩ := kind value (Draft.fits_of_own? ((own key reserved).trans found))
      exact .inr ⟨s, rfl⟩
  refine ⟨⟨⟨_, tells.type⟩, ⟨_, tells.title⟩, ⟨_, tells.status, ?_, ?_⟩, ?_, ?_⟩, tells⟩
  · have bounds := problem.status.valid
    omega
  · have bounds := problem.status.valid
    omega
  · intro key member
    simp only [List.mem_cons, List.not_mem_nil, or_false] at member
    rcases member with rfl | rfl | rfl | rfl <;> exact text _ rfl fun _ fits => fits
  · cases found : Json.find? members "errorId" with
    | none => exact .inl rfl
    | some value =>
      have fits : Fits "errorId" value := Draft.fits_of_own? ((own "errorId" rfl).trans found)
      rcases fits with rfl | ⟨s, rfl⟩
      · exact .inr (.inl rfl)
      · exact .inr (.inr ⟨s, rfl⟩)

def given (members : List (String × Json)) (key : String) : List (String × Json) :=
  (Json.find? members key).toList.map (key, ·)

/-- The canonical form: the document's own members in fixed order, with those that are always
written, and then the others in the order in which they were given. -/
def canonical (members : List (String × Json)) : List (String × Json) :=
  let text (key : String) := (key, Json.string (textOf members key))
  given members "type" ++ given members "title" ++ given members "status" ++
    (if textOf members "detail" = "" then [] else [text "detail"]) ++
    [text "instance", text "code", text "traceId"] ++
    (given members "errorId").filter (·.2 ≠ .null) ++
    members.filter (!isReserved ·.1)

theorem ownMembers_eq (problem : Problem) :
    problem.ownMembers =
      [("type", .string problem.typeUri), ("title", .string problem.title),
        ("status", .integer problem.status.code)] ++
      (if problem.detail.isEmpty then [] else [("detail", .string problem.detail)]) ++
      [("instance", .string problem.instanceUri), ("code", .string problem.code),
        ("traceId", .string problem.traceId)] ++
      (problem.errorId.map fun id => ("errorId", .string id)).toList := by
  unfold ownMembers
  cases problem.errorId <;> rfl

theorem Tells.encode_eq (tells : problem.Tells members) (document : IsDocument members) :
    problem.encode = .object (canonical members) := by
  have type : given members "type" = [("type", .string problem.typeUri)] := by
    rw [given, tells.type]
    rfl
  have title : given members "title" = [("title", .string problem.title)] := by
    rw [given, tells.title]
    rfl
  have status : given members "status" = [("status", .integer problem.status.code)] := by
    rw [given, tells.status]
    rfl
  have errorId : (given members "errorId").filter (·.2 ≠ .null) =
      (problem.errorId.map fun id => ("errorId", .string id)).toList := by
    rw [tells.errorId, given]
    rcases document.errorId with absent | null | ⟨s, text⟩
    · rw [absent]
      rfl
    · rw [null]
      rfl
    · rw [text]
      rfl
  have own : problem.ownMembers ++ problem.extensions.entries = canonical members := by
    simp only [canonical, type, title, status, errorId, ← tells.detail, ← tells.instanceUri,
      ← tells.code, ← tells.traceId, ← tells.extensions, ownMembers_eq, String.isEmpty_iff]
    rfl
  exact congrArg Json.object own

/-- A value, in which no name is repeated, is read exactly if it is an object with the members of
the format. What was read tells its members, and is written as its canonical form. -/
theorem decode_accepts_format (value : Json)
    (distinct : ∀ members, value = .object members → (members.map Prod.fst).Nodup) :
    ((∃ problem, decode value = .ok problem) ↔
      ∃ members, value = .object members ∧ IsDocument members) ∧
    ∀ problem, decode value = .ok problem →
      ∃ members, value = .object members ∧ problem.Tells members ∧
        problem.encode = .object (canonical members) := by
  cases value with
  | object members =>
    have names := distinct members rfl
    refine ⟨⟨?_, ?_⟩, ?_⟩
    · rintro ⟨problem, read⟩
      exact ⟨members, rfl, (of_decodeMembers names read).1⟩
    · rintro ⟨_, same, document⟩
      cases same
      exact exists_decodeMembers names document
    · intro problem read
      obtain ⟨document, tells⟩ := of_decodeMembers names read
      exact ⟨members, rfl, tells, tells.encode_eq document⟩
  | null | bool | integer | decimal | string | array =>
    refine ⟨⟨?_, ?_⟩, ?_⟩
    · rintro ⟨_, read⟩
      cases read
    · rintro ⟨_, other, -⟩
      cases other
    · intro _ read
      cases read

def shuffled : List (String × Json) :=
  [("retries", .array [.integer 3, .null]), ("status", .integer 404), ("errorId", .null),
    ("title", .string "Gone"), ("type", .string "/errors/gone"), ("detail", .string ""),
    ("category", .string "Lookup")]

theorem decode_accepts_shuffled :
    (shuffled.map Prod.fst).Nodup ∧ ∃ problem, decode (.object shuffled) = .ok problem ∧
      problem.encode = .object [("type", .string "/errors/gone"), ("title", .string "Gone"),
        ("status", .integer 404), ("instance", .string ""), ("code", .string ""),
        ("traceId", .string ""), ("retries", .array [.integer 3, .null]),
        ("category", .string "Lookup")] := by
  have distinct : (shuffled.map Prod.fst).Nodup := by decide
  obtain ⟨accepts, reads⟩ := decode_accepts_format (.object shuffled) (by
    intro members same
    cases same
    exact distinct)
  obtain ⟨problem, read⟩ := accepts.2 ⟨shuffled, rfl, ⟨_, rfl⟩, ⟨_, rfl⟩,
    ⟨404, rfl, by decide, by decide⟩, by simp [shuffled, Json.find?], .inr (.inl rfl)⟩
  obtain ⟨members, same, -, written⟩ := reads problem read
  cases same
  exact ⟨distinct, problem, read, written.trans (by decide +kernel)⟩

end Problem
end Faultline
