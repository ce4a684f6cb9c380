import Faultline.Proofs.Fault.FieldErrors
import Faultline.Proofs.Mapper.Document
import Faultline.Proofs.Pipeline.Choices
import Faultline.Proofs.Pipeline.Extensions

/-!
The messages for fields in the body of a response. Main statement: where the built-in mapper answers
a validation error, the body has every field and every message, in order, unless they are redacted.
-/

namespace Faultline

namespace Json

theorem nestingItems_strings (texts : List String) : nestingItems (texts.map .string) = 0 := by
  induction texts with
  | nil => rfl
  | cons text rest ih => simp only [List.map_cons, nestingItems, nesting, ih, Nat.max_self]

theorem areExact_strings (texts : List String) : AreExact (texts.map .string) := by
  induction texts with
  | nil => trivial
  | cons text rest ih => exact ⟨trivial, ih⟩

theorem nestingMembers_le {members : List (String × Json)} {n : Nat}
    (bound : ∀ member ∈ members, member.2.nesting ≤ n) : nestingMembers members ≤ n := by
  induction members with
  | nil => exact Nat.zero_le n
  | cons member rest ih =>
    obtain ⟨first, later⟩ := List.forall_mem_cons.1 bound
    exact Nat.max_le.2 ⟨first, ih later⟩

end Json

theorem Problem.find?_members_of_not_reserved (problem : Problem) {key : String}
    (free : isReserved key = false) :
    Json.find? problem.members key = Json.find? problem.extensions.entries key := by
  have absent : Json.find? problem.ownMembers key = none := by
    rw [Json.find?_eq_none_iff]
    intro named
    obtain ⟨entry, own, rfl⟩ := List.mem_map.1 named
    rw [mem_reserved_of_own own] at free
    cases free
  rw [members, Json.find?_append, absent, Option.none_or]

namespace FieldErrors

/-- The value has each field that a message was given for once, in the order of their bytes, with
all messages for it in the order in which they were given, each cut to so many characters. -/
def ToldBy (given : List (String × String)) (most : Nat) (value : Json) : Prop :=
  ∃ fields : List String,
    fields.Pairwise (fun a b => Text.bytes a < Text.bytes b) ∧
      (∀ field, field ∈ fields ↔ field ∈ given.map Prod.fst) ∧
      value = .object (fields.map fun field => (field, .array ((messagesFor given field).map
        fun message => .string (Text.truncate most message))))

def toJson (errors : FieldErrors) : Json :=
  .object (errors.map fun entry => (entry.1, .array (entry.2.map .string)))

theorem nesting_toJson_le (errors : FieldErrors) : errors.toJson.nesting ≤ 2 := by
  refine Nat.succ_le_succ (Json.nestingMembers_le fun member inside => ?_)
  obtain ⟨entry, -, rfl⟩ := List.mem_map.1 inside
  exact (congrArg Nat.succ (Json.nestingItems_strings entry.2)).le

theorem isPortable_toJson {errors : FieldErrors} (ordered : errors.fields.Pairwise (· < ·)) :
    Problem.IsPortable errors.toJson := by
  have few : 2 + 1 < Json.nestingLimit := by decide
  refine ⟨⟨?_, Json.membersAreExact_iff.2 fun member inside => ?_⟩,
    Nat.lt_of_le_of_lt (Nat.succ_le_succ errors.nesting_toJson_le) few⟩
  · rw [List.map_map]
    exact ordered.imp fun before => String.ne_of_lt before
  · obtain ⟨entry, -, rfl⟩ := List.mem_map.1 inside
    exact Json.areExact_strings entry.2

theorem toldBy_cut (given : List (String × String)) (most : Nat) :
    ToldBy given most ((ofList given).toJson.cut most) := by
  have gathers := gathers_ofList given
  refine ⟨(ofList given).fields, gathers.ordered_bytes, gathers.named, ?_⟩
  conv_lhs => rw [gathers.eq_map]
  simp only [toJson, Json.cut, Json.cutMembers_eq_map, Json.cutItems_eq_map, List.map_map,
    Function.comp_def]

end FieldErrors

theorem Row.isPortable_fieldMessages (redacted : Bool) {errors : FieldErrors}
    (ordered : errors.fields.Pairwise (· < ·)) :
    ∀ member ∈ fieldMessages redacted errors, Problem.IsPortable member.2 := by
  unfold fieldMessages
  split
  next => exact List.forall_mem_nil _
  next => exact List.forall_mem_singleton.2 (FieldErrors.isPortable_toJson ordered)

namespace Limits

structure HaveRoom (limits : Limits) : Prop where
  unvetted : limits.validator = none
  members : 1 ≤ limits.maxExtensions
  levels : 2 ≤ limits.maxDepth

variable {limits : Limits} {extensions : Members}

theorem HaveRoom.accepts_messages (room : limits.HaveRoom) (errors : FieldErrors) :
    limits.accepts ("errors", errors.toJson) = true := by
  have shallow := errors.nesting_toJson_le.trans room.levels
  have free : Problem.isReserved "errors" = false := rfl
  simp [accepts, room.unvetted, shallow, free]

theorem HaveRoom.admitted_messages (room : limits.HaveRoom) {errors : FieldErrors}
    (entries : extensions.entries = Row.fieldMessages false errors) :
    (limits.admitted extensions).entries =
      if errors.isEmpty then []
      else [("errors", errors.toJson.cut limits.maxStringLength)] := by
  rw [entries_admitted, entries]
  cases given : errors.isEmpty with
  | true => simp [Row.fieldMessages, given]
  | false =>
    have alone : Row.fieldMessages false errors = [("errors", errors.toJson)] := by
      simp [Row.fieldMessages, given, FieldErrors.toJson]
    rw [alone, List.take_of_length_le room.members,
      List.filter_cons_of_pos (room.accepts_messages errors)]
    rfl

open FieldErrors in
theorem HaveRoom.messages_told (room : limits.HaveRoom) {given : List (String × String)}
    (entries : extensions.entries = Row.fieldMessages false (ofList given)) :
    let kept := Json.find? (limits.admitted extensions).entries "errors"
    (kept = none ↔ given = []) ∧
      ∀ value, kept = some value → ToldBy given limits.maxStringLength value := by
  rw [room.admitted_messages entries]
  cases empty : (ofList given).isEmpty with
  | true =>
    have none : given = [] := ofList_eq_nil_iff.1 (List.isEmpty_iff.1 empty)
    exact ⟨⟨fun _ => none, fun _ => rfl⟩, fun _ found => nomatch found⟩
  | false =>
    rw [if_neg Bool.false_ne_true, Json.find?_cons_self]
    constructor
    · refine ⟨fun found => (nomatch found), ?_⟩
      rintro rfl
      cases empty
    · rintro value found
      obtain rfl := Option.some.inj found
      exact toldBy_cut given _

theorem admitted_of_empty (empty : extensions.entries = []) :
    (limits.admitted extensions).entries = [] := by
  rw [entries_admitted, empty, List.take_nil]
  rfl

end Limits

namespace BuiltInMapper

variable (sanitizer : Sanitizer) (ctx : RequestContext) (supply : Supply)

theorem entries_map_validation (message : String) (errors : FieldErrors) :
    let mapped := ((validation.map sanitizer ctx (.app (.validation message errors))).run
      supply).value
    mapped.problem.extensions.entries =
      Row.fieldMessages mapped.sanitization.isRedacted errors := by
  intro mapped
  obtain ⟨earlier, -, value⟩ := Mapper.answers_mapStructured sanitizer ctx
    (.app (.validation message errors)) supply (.validation message errors) .unprocessable
    (ProblemBuilder.adds_fieldMessages errors)
  have made : mapped = _ := value
  rw [made]
  exact Members.entries_ofList ((Row.names_fieldMessages _ _).nodup (List.nodup_singleton _))

end BuiltInMapper

namespace Pipeline

variable (pipeline : Pipeline) (ctx : RequestContext) (fault : Fault) (span : Telemetry.Span)
  (supply : Supply)

theorem sanitization_process :
    ((pipeline.process ctx fault span).run supply).value.2.sanitization =
      ((pipeline.answer ctx fault).run supply).value.sanitization := by
  have settled := pipeline.value_settle ctx fault supply
  dsimp only at settled
  rw [value_process]
  dsimp only
  rw [settled]

end Pipeline

namespace PipelineBuilder
open FieldErrors

theorem Choices.Describes.answer_validation {settings : Settings} {steps : List Step}
    {pipeline : Pipeline} (describes : (Choices.of steps).Describes settings pipeline)
    (kept : Step.withoutDefaults ∉ steps) {message : String} {errors : FieldErrors}
    (unrivalled : ∀ r ∈ (Choices.of steps).added settings,
      Registry.acceptsFirst (.app (.validation message errors)) r = true → r.priority ≤ 900)
    (ctx : RequestContext) :
    pipeline.answer ctx (.app (.validation message errors)) =
      BuiltInMapper.validation.map pipeline.sanitizer ctx (.app (.validation message errors)) := by
  have listed : .primary (BuiltInMapper.validation.toMapper pipeline.sanitizer) 900 ∈
      (Choices.of steps).builtIn settings := by
    rw [describes.sanitizer, Choices.builtIn, if_neg (mt Choices.dropsDefaults_iff.1 kept)]
    exact List.mem_cons_self
  unfold Pipeline.answer
  rw [describes.mapperFor_builtIn listed rfl unrivalled]
  rfl

/-- With the built-in mappers in place, and no other in the way of validation errors, a body has the
messages for every field, unless they are redacted. -/
theorem field_messages_arrive (settings : Settings) (steps : List Step)
    (kept : Step.withoutDefaults ∉ steps) :
    let builder := (new settings).applyAll steps
    ∃ pipeline, (∀ supply, (builder.build.run supply).value = .ok pipeline) ∧
      ∀ message given ctx span supply,
        let fault : Fault := .app (.validation message (.ofList given))
        let sent := ((pipeline.process ctx fault span).run supply).value.2
        let members := sent.problem.members
        let body := ((pipeline.respond ctx fault span).run supply).value.body
        (∀ r ∈ (Choices.of steps).added settings, Registry.acceptsFirst fault r = true →
          r.priority ≤ 900) →
        body = (Json.object members).compact ∧ Json.parse body = .ok (.object members) ∧
          (members.map Prod.fst).Nodup ∧
          sent.sanitization.isRedacted = !builder.sanitizer.allows fault ∧
          (sent.sanitization.isRedacted = true → Json.find? members "errors" = none) ∧
          (sent.sanitization.isRedacted = false → builder.limits.HaveRoom →
            (Json.find? members "errors" = none ↔ given = []) ∧
            ∀ value, Json.find? members "errors" = some value →
              ToldBy given builder.limits.maxStringLength value) := by
  intro builder
  obtain ⟨pipeline, built, describes⟩ := Choices.exists_describes settings steps
    fun lacking => kept lacking.1
  have sanitizer : pipeline.sanitizer = builder.sanitizer := by
    rw [describes.sanitizer, ← sanitizer_choose, ← applyAll_eq_choose]
  have limits : pipeline.limits = builder.limits := by
    rw [describes.limits, ← limits_choose, ← applyAll_eq_choose]
  refine ⟨pipeline, built, ?_⟩
  intro message given ctx span supply fault sent members body unrivalled
  have answer := describes.answer_validation kept unrivalled ctx
  have extensions : sent.problem.extensions = _ :=
    pipeline.extensions_process ctx fault span supply
  have decision : sent.sanitization = _ := pipeline.sanitization_process ctx fault span supply
  have entries := BuiltInMapper.entries_map_validation pipeline.sanitizer ctx supply message
    (.ofList given)
  have judged := BuiltInMapper.decision_map pipeline.sanitizer ctx fault supply .validation
  have found : Json.find? members "errors" =
      Json.find? sent.problem.extensions.entries "errors" :=
    sent.problem.find?_members_of_not_reserved rfl
  dsimp only at entries
  rw [answer, limits] at extensions
  rw [answer] at decision
  rw [← decision] at entries judged
  have unreserved : Problem.Unreserved sent.problem.extensions := by
    rw [extensions]
    exact Limits.unreserved_admitted _ _
  -- lists of texts under field names are what any text of a document can say
  have portable : ∀ entry ∈ sent.problem.extensions.entries, Problem.IsPortable entry.2 := by
    rw [extensions]
    refine Limits.isPortable_admitted ?_
    rw [entries]
    exact Row.isPortable_fieldMessages _ (gathers_ofList given).ordered
  have text : body = sent.problem.body := by
    simp only [body, sent, Pipeline.value_respond, Pipeline.value_process]
  rw [found, extensions, ← sanitizer]
  refine ⟨text, text ▸ Problem.parse_body portable unreserved, Problem.nodup_names unreserved,
    judged.isRedacted, ?_, ?_⟩
  · intro redacted
    rw [redacted] at entries
    rw [Limits.admitted_of_empty entries]
    rfl
  · intro disclosed room
    rw [disclosed] at entries
    exact room.messages_told entries

def lenient : List Step :=
  [.mapper 900 (Mapper.constant "lenient" (fun _ => true) (.new .conflict "Lenient" ""))]

theorem field_messages_arrive_lenient :
    let given := [("total", "is negative"), ("date", "is past"), ("total", "is odd")]
    let fault : Fault := .app (.validation "check the order" (.ofList given))
    ∃ pipeline,
      ((((new .default).applyAll lenient).build).run fun _ => ⟨.replicate 32 5⟩).value =
        .ok pipeline ∧
      let members := ((pipeline.process (.start "7f3a" (by decide) "/orders") fault .disabled).run
        fun _ => ⟨.replicate 32 5⟩).value.2.problem.members
      ∃ value, Json.find? members "errors" = some value ∧ ToldBy given 2048 value := by
  intro given fault
  have unrivalled : ∀ r ∈ (Choices.of lenient).added .default,
      Registry.acceptsFirst fault r = true → r.priority ≤ 900 := by
    intro r added _
    rw [show (Choices.of lenient).added .default = [_] from rfl, List.mem_singleton] at added
    rw [added]
    exact Int.le_refl 900
  obtain ⟨pipeline, built, arrive⟩ := field_messages_arrive .default lenient (by simp [lenient])
  refine ⟨pipeline, built _, ?_⟩
  obtain ⟨-, -, -, redacted, -, told⟩ := arrive "check the order" given
    (.start "7f3a" (by decide) "/orders") .disabled (fun _ => ⟨.replicate 32 5⟩) unrivalled
  obtain ⟨absent, values⟩ := told (redacted.trans (by decide +kernel))
    ⟨rfl, by decide, by decide⟩
  obtain ⟨value, found⟩ := Option.ne_none_iff_exists'.1 (mt absent.1 (List.cons_ne_nil _ _))
  exact ⟨value, found, values value found⟩

end PipelineBuilder
end Faultline
