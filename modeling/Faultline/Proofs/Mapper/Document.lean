import Faultline.Proofs.Mapper.BuiltIn
import Faultline.Proofs.Problem.History

/-!
The documents of the built-in mappers. What a mapper says of a fault is a row: a status, a code, the
detail it prefers and extension members. All built-in mappers make their documents from a row in the
same way, with the last identifier that they draw.
-/

namespace Faultline

namespace ProblemBuilder

theorem run_build (builder : ProblemBuilder)
    (instanceGiven : Text.isBlank builder.problem.instanceUri = false)
    (traceGiven : Text.isBlank builder.problem.traceId = false) (supply : Supply) :
    builder.build.run supply = ⟨builder.problem, 0, []⟩ := by
  rw [run_build_eq, instanceGiven, traceGiven]
  rfl

def Adds (decision : Sanitization) (known added : List (String × Json))
    (extend : ProblemBuilder → Sanitization → ProblemBuilder) : Prop :=
  ∀ builder : ProblemBuilder, builder.problem.extensions = .ofList known →
    extend builder decision = { builder with problem.extensions := .ofList (known ++ added) }

variable {decision : Sanitization} {known : List (String × Json)}

theorem adds_nothing : Adds decision known [] fun builder _ => builder := by
  intro builder same
  rw [List.append_nil, ← same]

theorem adds_withExtension {key : String} (value : Json) (given : Text.isBlank key = false)
    (unreserved : Problem.isReserved key = false) :
    Adds decision known [(key, value)] fun builder _ => builder.withExtension key value := by
  intro builder same
  have insert : Members.ofList (known ++ [(key, value)]) =
      (Members.ofList known).insert key value := by
    simp only [Members.ofList, List.foldl_append, List.foldl_cons, List.foldl_nil]
  rw [insert, ← same]
  dsimp only
  rw [withExtension_eq, given, unreserved]
  rfl

theorem Adds.andThen {first second : List (String × Json)}
    {extend further : ProblemBuilder → Sanitization → ProblemBuilder}
    (adds : Adds decision known first extend)
    (later : Adds decision (known ++ first) second further) :
    Adds decision known (first ++ second) fun builder decision =>
      further (extend builder decision) decision := by
  intro builder same
  dsimp only
  rw [adds builder same, later _ rfl, List.append_assoc]

end ProblemBuilder

/-- What a mapper says of a fault, whatever the request is. -/
structure Row where
  status : Status
  code : ErrorCode
  members : List (String × Json)
  detail : Option String
  sensitive : Bool

namespace Row

def textOr (otherwise : String) (text : Option String) : String :=
  (Text.nonBlank text).getD otherwise

theorem textOr_some (otherwise text : String) :
    textOr otherwise (some text) = if Text.isBlank text then otherwise else text := by
  rw [textOr, Text.nonBlank, Option.filter_some]
  cases Text.isBlank text <;> rfl

/-- The document that starts from a code; what is blank is left out. -/
def document (row : Row) (ctx : RequestContext) (detail : String) (id : Uuid) : Problem where
  typeUri := textOr "about:blank" row.code.typeUri
  title := textOr "" (some row.code.title)
  status := row.status
  detail := textOr "" (some detail)
  instanceUri := Problem.instanceUrn id.hyphenated
  code := textOr "" (some row.code.code)
  traceId := ctx.traceId
  errorId := none
  extensions := .ofList row.members

def mapped (row : Row) (sanitizer : Sanitizer) (ctx : RequestContext) (fault : Fault) (id : Uuid) :
    Mapped :=
  let decision := sanitizer.assess fault row.detail row.sensitive
  ⟨row.status, row.document ctx decision.detail id, decision⟩

/-- The computation answers with the row, and the instance is the last identifier that it draws. -/
def Answers (row : Row) (sanitizer : Sanitizer) (ctx : RequestContext) (fault : Fault)
    (action : Recorded Mapped) (supply : Supply) : Prop :=
  ∃ earlier, (action.run supply).drawn = earlier + 1 ∧
    (action.run supply).value = row.mapped sanitizer ctx fault (supply earlier)

end Row

namespace Mapper

theorem run_start (ctx : RequestContext) (row : Row) (detail : String) (supply : Supply) :
    (start ctx row.code row.status detail).run supply =
      ⟨⟨{ row.document ctx detail (supply 0) with extensions := .empty }, ctx.traceId⟩, 1, []⟩ :=
  rfl

end Mapper

namespace Row

variable {row : Row} {sanitizer : Sanitizer} {ctx : RequestContext} {fault : Fault}

theorem Answers.bind {α : Type} {action : Recorded α} {next : α → Recorded Mapped} {supply : Supply}
    (answers : row.Answers sanitizer ctx fault (next (action.run supply).value)
      fun n => supply ((action.run supply).drawn + n)) :
    row.Answers sanitizer ctx fault (action >>= next) supply := by
  obtain ⟨earlier, drawn, value⟩ := answers
  refine ⟨(action.run supply).drawn + earlier, ?_, value⟩
  rw [Recorded.run_bind]
  exact congrArg _ drawn

/-- The documents of all built-in mappers are made like this. -/
theorem answers_compose {extend : ProblemBuilder → Sanitization → ProblemBuilder}
    (adds : ProblemBuilder.Adds (sanitizer.assess fault row.detail row.sensitive) [] row.members
      extend)
    (supply : Supply) :
    row.Answers sanitizer ctx fault (do
      let decision ← sanitizer.sanitize ctx fault row.detail row.sensitive
      let builder ← Mapper.start ctx row.code row.status decision.detail
      let problem ← (extend builder decision).build
      return ⟨row.status, problem, decision⟩) supply := by
  have built (detail : String) (id : Uuid) (supply : Supply) :
      (extend ⟨{ row.document ctx detail id with extensions := .empty }, ctx.traceId⟩
          (sanitizer.assess fault row.detail row.sensitive)).build.run supply =
        ⟨row.document ctx detail id, 0, []⟩ := by
    rw [adds _ rfl]
    exact ProblemBuilder.run_build ⟨row.document ctx detail id, ctx.traceId⟩
      (Problem.isBlank_instanceUrn _) ctx.traceId_present supply
  refine .bind ?_
  rw [Sanitizer.value_sanitize]
  refine ⟨0, ?_, ?_⟩
  · simp only [Recorded.run_bind, Mapper.run_start, built, Recorded.run_pure]
  · simp only [Recorded.run_bind, Mapper.run_start, built, Recorded.run_pure]
    rfl

/-! ### The rows of the mappers -/

def unexpected (fault : Fault) : Row :=
  ⟨.internalError, .unexpected, [("category", .string "Unhandled")], some fault.display, true⟩

def transience (transient : Bool) : List (String × Json) :=
  if transient then [("transient", .bool true)] else []

def fieldMessages (redacted : Bool) (errors : FieldErrors) : List (String × Json) :=
  if redacted || errors.isEmpty then []
  else [("errors", .object (errors.map fun entry => (entry.1, .array (entry.2.map .string))))]

theorem names_transience (transient : Bool) :
    ((transience transient).map Prod.fst).Sublist ["transient"] := by
  cases transient <;> simp [transience]

theorem fieldMessages_nil (redacted : Bool) : fieldMessages redacted [] = [] := by
  cases redacted <;> rfl

theorem names_fieldMessages (redacted : Bool) (errors : FieldErrors) :
    ((fieldMessages redacted errors).map Prod.fst).Sublist ["errors"] := by
  unfold fieldMessages
  split <;> simp

def AreFree (members : List (String × Json)) : Prop :=
  ∀ member ∈ members, Problem.isReserved member.1 = false

section

variable {members others : List (String × Json)}

theorem AreFree.nil : AreFree [] := fun _ none => absurd none List.not_mem_nil

theorem areFree_singleton (member : String × Json) (free : Problem.isReserved member.1 = false) :
    AreFree [member] := List.forall_mem_singleton.2 free

theorem AreFree.append (first : AreFree members) (second : AreFree others) :
    AreFree (members ++ others) := List.forall_mem_append.2 ⟨first, second⟩

theorem areFree_of_names {name : String} (free : Problem.isReserved name = false)
    (named : (members.map Prod.fst).Sublist [name]) : AreFree members := by
  intro member inside
  have known := named.subset (List.mem_map_of_mem inside)
  rw [List.mem_singleton.1 known, free]

theorem areFree_transience (transient : Bool) : AreFree (transience transient) :=
  areFree_of_names rfl (names_transience transient)

theorem areFree_fieldMessages (redacted : Bool) (errors : FieldErrors) :
    AreFree (fieldMessages redacted errors) :=
  areFree_of_names rfl (names_fieldMessages redacted errors)

theorem AreFree.unreserved (free : AreFree members) : Problem.Unreserved (.ofList members) := by
  intro entry inside
  have named := List.mem_map_of_mem (f := Prod.fst) inside
  rw [Members.names_ofList, List.mem_eraseDups] at named
  obtain ⟨member, given, same⟩ := List.mem_map.1 named
  exact same ▸ free member given

end

def ofError (error : AppError) (defaultStatus : Status) (more : List (String × Json)) : Row :=
  ⟨error.preferredStatus.getD defaultStatus, error.code, transience error.isTransient ++ more,
    error.detail, true⟩

def ofClassification (classification : Classification) (number : Int) : Row :=
  ⟨classification.status, classification.code,
    ("sqlErrorNumber", .integer number) :: transience classification.transient,
    some "A database error occurred.", false⟩

def ofRemote (answer : Option Status) : Row :=
  let code := (answer.map Status.code).getD 0
  ⟨if code = 429 then .tooManyRequests else if code = 408 then .gatewayTimeout else .badGateway,
    .httpRemote, [("upstreamStatus", .integer code)], some "External dependency call failed.",
    false⟩

def timedOut : Row :=
  ⟨.gatewayTimeout, .httpTimeout, [], some "The upstream service did not respond in time.", false⟩

end Row

namespace ProblemBuilder

variable {decision : Sanitization} {known : List (String × Json)}

theorem adds_transience (transient : Bool) :
    Adds decision known (Row.transience transient) fun builder _ =>
      if transient then builder.withExtension "transient" (.bool true) else builder := by
  have given : Text.isBlank "transient" = false := by decide +kernel
  cases transient with
  | true => exact adds_withExtension _ given rfl
  | false => exact adds_nothing

theorem adds_fieldMessages (errors : FieldErrors) :
    Adds decision known (Row.fieldMessages decision.isRedacted errors)
      (BuiltInMapper.extendWithErrors errors) := by
  have given : Text.isBlank "errors" = false := by decide +kernel
  unfold Row.fieldMessages
  intro builder same
  unfold BuiltInMapper.extendWithErrors
  split
  next => exact @adds_nothing decision known builder same
  next => exact @adds_withExtension decision known _ _ given rfl builder same

end ProblemBuilder

namespace Mapper
open ProblemBuilder

variable (sanitizer : Sanitizer) (ctx : RequestContext) (fault : Fault) (supply : Supply)

theorem answers_unexpectedProblem :
    (Row.unexpected fault).Answers sanitizer ctx fault (unexpectedProblem sanitizer ctx fault)
      supply := by
  have given : Text.isBlank "category" = false := by decide +kernel
  exact Row.answers_compose (adds_withExtension (.string "Unhandled") given rfl) supply

theorem answers_mapUnexpected (name : String) :
    (Row.unexpected fault).Answers sanitizer ctx fault (mapUnexpected sanitizer name ctx fault)
      supply :=
  .bind (answers_unexpectedProblem sanitizer ctx fault _)

theorem answers_mapStructured (error : AppError) (defaultStatus : Status)
    {more : List (String × Json)} {extend : ProblemBuilder → Sanitization → ProblemBuilder}
    (adds : Adds (sanitizer.assess fault error.detail true) (Row.transience error.isTransient) more
      extend) :
    (Row.ofError error defaultStatus more).Answers sanitizer ctx fault
      (mapStructured sanitizer ctx fault error defaultStatus extend) supply :=
  Row.answers_compose ((adds_transience error.isTransient).andThen adds) supply

end Mapper

namespace BuiltInMapper
open ProblemBuilder

variable (sanitizer : Sanitizer) (ctx : RequestContext) (fault : Fault) (supply : Supply)

theorem answers_mapDatabase (classifier : Classifier) (number : Int) :
    (Row.ofClassification ((classifier number).run supply).value number).Answers sanitizer ctx fault
      (mapDatabase sanitizer classifier ctx fault number) supply := by
  have given : Text.isBlank "sqlErrorNumber" = false := by decide +kernel
  refine .bind ?_
  exact Row.answers_compose
    ((adds_withExtension (.integer number) given rfl).andThen (adds_transience _)) _

theorem gatewayStatus_eq (answer : Option Status) :
    gatewayStatus answer = (Row.ofRemote answer).status := by
  have known (status : Status) :
      answer = some status ↔ (answer.map Status.code).getD 0 = status.code := by
    cases answer with
    | none =>
      have valid := status.valid
      simp
      omega
    | some other => simp [Status.code_inj]
  simp only [gatewayStatus, known, Row.ofRemote]
  rfl

theorem answers_mapRemote (answer : Option Status) :
    (Row.ofRemote answer).Answers sanitizer ctx fault (mapRemote sanitizer ctx fault answer)
      supply := by
  have given : Text.isBlank "upstreamStatus" = false := by decide +kernel
  unfold mapRemote
  rw [gatewayStatus_eq]
  exact Row.answers_compose (adds_withExtension _ given rfl) supply

theorem answers_mapTimeout :
    Row.timedOut.Answers sanitizer ctx fault (mapTimeout sanitizer ctx fault) supply :=
  Row.answers_compose adds_nothing supply

/-- Whatever the fault, a built-in mapper makes its document from some row. -/
theorem exists_answers (mapper : BuiltInMapper) :
    ∃ row : Row, Row.AreFree row.members ∧
      row.Answers sanitizer ctx fault (mapper.map sanitizer ctx fault) supply := by
  cases handled : mapper.canHandle fault with
  | false =>
    rw [map_of_not_canHandle sanitizer ctx handled]
    exact ⟨_, Row.areFree_singleton _ rfl,
      Mapper.answers_mapUnexpected sanitizer ctx fault supply _⟩
  | true =>
    cases handling_of_canHandle sanitizer ctx handled with
    | error error defaultStatus extend known alone answer =>
      rw [answer]
      -- what is added to the document of an application error are its messages, or nothing
      rcases known with rfl | rfl
      · exact ⟨_, (Row.areFree_transience _).append (Row.areFree_fieldMessages _ _),
          Mapper.answers_mapStructured sanitizer ctx fault supply error _ (adds_fieldMessages _)⟩
      · exact ⟨_, (Row.areFree_transience _).append .nil,
          Mapper.answers_mapStructured sanitizer ctx fault supply error _ adds_nothing⟩
    | database classifier number consults answer =>
      rw [answer]
      exact ⟨_, (Row.areFree_singleton _ rfl).append (Row.areFree_transience _),
        answers_mapDatabase sanitizer ctx fault supply classifier number⟩
    | remote status alone answer =>
      rw [answer]
      exact ⟨_, Row.areFree_singleton _ rfl, answers_mapRemote sanitizer ctx fault supply status⟩
    | timeout alone answer =>
      rw [answer]
      exact ⟨_, .nil, answers_mapTimeout sanitizer ctx fault supply⟩
    | unexpected alone answer =>
      rw [answer]
      exact ⟨_, Row.areFree_singleton _ rfl,
        Mapper.answers_unexpectedProblem sanitizer ctx fault supply⟩

theorem decision_map (mapper : BuiltInMapper) :
    ((mapper.map sanitizer ctx fault).run supply).value.sanitization.IsOf sanitizer fault := by
  obtain ⟨row, -, earlier, -, value⟩ := mapper.exists_answers sanitizer ctx fault supply
  rw [value]
  exact ⟨row.detail, row.sensitive, rfl⟩

end BuiltInMapper
end Faultline
