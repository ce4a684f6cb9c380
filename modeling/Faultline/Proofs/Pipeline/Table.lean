import Faultline.Proofs.Json.Members
import Faultline.Proofs.Mapper.Document
import Faultline.Proofs.Pipeline.Answer
import Faultline.Proofs.Pipeline.Assembly
import Faultline.Proofs.Problem.Limits

/-!
The table of the built-in mappers: for each fault the status, the code and the extension members of
its document. Main statement: a pipeline with no other mappers answers every fault by the table.
-/

namespace Faultline

def AppErrorType.defaultStatus : AppErrorType → Status
  | validation => .unprocessable
  | notFound => .notFound
  | authorization => .forbidden
  | rateLimit => .tooManyRequests
  | domain => .badRequest
  | custom _ => .internalError

/-- The row of a fault, given what error numbers of the database mean and whether details are
redacted. -/
def Fault.row (classify : Int → Classification) (redacted : Bool) : Fault → Row
  | app error =>
    .ofError error error.type.defaultStatus (Row.fieldMessages redacted error.fieldErrors)
  | database number _ => .ofClassification (classify number) number
  | remote answer _ => .ofRemote answer
  | timeout .. => .timedOut
  | unrecognized report => .unexpected (.unrecognized report)

theorem Row.nodup_members (classify : Int → Classification) (redacted : Bool) (fault : Fault) :
    ((fault.row classify redacted).members.map Prod.fst).Nodup := by
  cases fault with
  | app error =>
    show ((transience _ ++ fieldMessages _ _).map Prod.fst).Nodup
    rw [List.map_append]
    exact ((names_transience _).append (names_fieldMessages _ _)).nodup (by decide)
  | database number => exact ((names_transience _).cons_cons "sqlErrorNumber").nodup (by decide)
  | remote | timeout | unrecognized => simp [Fault.row, ofRemote, timedOut, unexpected]

def BuiltInMapper.inCharge (classifier : Classifier) : Fault → BuiltInMapper
  | .app error => match error.type with
    | .validation => .validation
    | .notFound => .structured .notFound "not_found" .notFound
    | .authorization => .structured .authorization "authorization" .forbidden
    | .rateLimit => .structured .rateLimit "rate_limit" .tooManyRequests
    | .domain => .structured .domain "domain" .badRequest
    | .custom _ => .appFallback
  | .database .. => .database classifier
  | .remote .. => .remoteHttp
  | .timeout .. => .remoteTimeout
  | .unrecognized _ => .unexpected

variable {sanitizer : Sanitizer} {classifier : Classifier} {registry : Registry}

theorem Registry.mappers_defaults
    (made : ofList (Registration.defaults sanitizer classifier) = .ok registry) :
    registry.mappers = (Registration.defaults sanitizer classifier).map Registration.mapper := by
  cases made
  rfl

theorem Registry.mapperFor_defaults
    (made : ofList (Registration.defaults sanitizer classifier) = .ok registry) (fault : Fault) :
    registry.mapperFor fault = (BuiltInMapper.inCharge classifier fault).toMapper sanitizer := by
  unfold mapperFor tryResolve
  rw [mappers_defaults made]
  cases fault with
  | app error => cases error <;> rfl
  | database | remote | timeout | unrecognized => rfl

variable (sanitizer classifier) in
open ProblemBuilder in
theorem BuiltInMapper.answers_inCharge (ctx : RequestContext) (fault : Fault) (supply : Supply) :
    (fault.row (fun number => ((classifier number).run supply).value)
        (!sanitizer.allows fault)).Answers sanitizer ctx fault
      ((inCharge classifier fault).map sanitizer ctx fault) supply := by
  cases fault with
  | app error =>
    have plain (error : AppError) (redacted : Bool) (none : error.fieldErrors = []) :
        (Row.ofError error error.type.defaultStatus
            (Row.fieldMessages redacted error.fieldErrors)).Answers sanitizer ctx (.app error)
          (Mapper.mapStructured sanitizer ctx (.app error) error error.type.defaultStatus
            fun builder _ => builder) supply := by
      rw [none, Row.fieldMessages_nil]
      exact Mapper.answers_mapStructured sanitizer ctx _ supply error _ adds_nothing
    cases error with
    | validation message errors =>
      exact Mapper.answers_mapStructured sanitizer ctx _ supply (.validation message errors) _
        (adds_fieldMessages errors)
    | notFound | authorization | rateLimit | domain | custom => exact plain _ _ rfl
  | database number => exact answers_mapDatabase sanitizer ctx _ supply classifier number
  | remote answer => exact answers_mapRemote sanitizer ctx _ supply answer
  | timeout => exact answers_mapTimeout sanitizer ctx _ supply
  | unrecognized => exact Mapper.answers_unexpectedProblem sanitizer ctx _ supply

/-- What became of a fault is what the row says, in the context of the request and within limits. -/
structure Processed.Follows (processed : Processed) (row : Row) (ctx : RequestContext)
    (limits : Limits) : Prop where
  status : processed.status = row.status
  documentStatus : processed.problem.status = row.status
  typeUri : processed.problem.typeUri = Row.textOr "about:blank" row.code.typeUri
  title : processed.problem.title = Row.textOr "" (some row.code.title)
  code : processed.problem.code = Row.textOr "" (some row.code.code)
  detail : processed.problem.detail = Row.textOr "" (some processed.sanitization.detail)
  traceId : processed.problem.traceId = ctx.traceId
  instanceUri : ∃ id : Uuid, processed.problem.instanceUri = Problem.instanceUrn id.hyphenated
  extensions : ∃ given : Members, given.entries = row.members ∧
    ∀ supply, processed.problem.extensions = ((limits.validate given).run supply).value

theorem Row.follows_mapped (row : Row) (distinct : (row.members.map Prod.fst).Nodup)
    (sanitizer : Sanitizer) (ctx : RequestContext) (fault : Fault) (id : Uuid) (limits : Limits)
    (errorId : String) (reference : ErrorReference) :
    let mapped := row.mapped sanitizer ctx fault id
    Processed.Follows ⟨mapped.status, Formatting.finish limits ctx mapped.problem errorId,
      reference, mapped.sanitization⟩ row ctx limits where
  status := rfl
  documentStatus := rfl
  typeUri := rfl
  title := rfl
  code := rfl
  detail := rfl
  traceId := rfl
  instanceUri := by
    refine ⟨id, ?_⟩
    simp only [Formatting.finish, Formatting.identify, mapped, document,
      Problem.isBlank_instanceUrn, Bool.false_eq_true, if_false]
  extensions := ⟨.ofList row.members, Members.entries_ofList distinct,
    fun supply => (limits.value_validate _ supply).symm⟩

namespace PipelineBuilder

/-- Without other mappers every fault is answered by the table. -/
theorem answers_follow_table (settings : Settings) (steps : List Step)
    (keep : ∀ step ∈ steps, step.keepsMappers = true) :
    let builder := (new settings).applyAll steps
    ∃ pipeline, (∀ supply, (builder.build.run supply).value = .ok pipeline) ∧
      ∀ ctx fault span supply,
        let classify (number : Int) := ((builder.classifier number).run supply).value
        let row := fault.row classify (!builder.sanitizer.allows fault)
        let outcome := ((pipeline.process ctx fault span).run supply).value
        outcome.1.response.status = row.status ∧
          outcome.2.sanitization = builder.sanitizer.assess fault row.detail row.sensitive ∧
          outcome.2.Follows row ctx builder.limits := by
  intro builder
  have defaults : builder.DefaultsOnly := (defaultsOnly_new settings).applyAll keep
  obtain ⟨registry, made⟩ := Registry.exists_ofList
    (Registration.exists_fallback_defaults builder.sanitizer builder.classifier)
  have built := value_build (defaults.table_eq ▸ made)
  refine ⟨builder.assemble registry, built, ?_⟩
  intro ctx fault span supply classify row outcome
  have settled := (builder.assemble registry).value_settle ctx fault supply
  have answer : (builder.assemble registry).answer ctx fault =
      (BuiltInMapper.inCharge builder.classifier fault).map builder.sanitizer ctx fault :=
    congrArg (fun mapper => Mapper.map mapper ctx fault) (Registry.mapperFor_defaults made fault)
  obtain ⟨earlier, -, value⟩ :=
    BuiltInMapper.answers_inCharge builder.sanitizer builder.classifier ctx fault supply
  dsimp only at settled
  rw [answer, value] at settled
  have processed : outcome = _ := (builder.assemble registry).value_process ctx fault span supply
  dsimp only at processed
  rw [settled] at processed
  rw [processed]
  refine ⟨rfl, rfl, ?_⟩
  exact row.follows_mapped (Row.nodup_members classify _ fault) _ _ _ _ _ _ _

def patient : List Step :=
  [.validator fun key _ => key != "transient",
    .classifier fun _ => return ⟨.conflict, ⟨" ", "Locked", some ""⟩, true⟩]

theorem answers_follow_table_patient :
    ∃ pipeline, ((((new .default).applyAll patient).build).run fun _ => ⟨.replicate 32 5⟩).value =
        .ok pipeline ∧
      let outcome := ((pipeline.process (.start "7f3a" (by decide) "/orders")
        (.database 1222 "row locked by 51") .disabled).run fun _ => ⟨.replicate 32 5⟩).value
      outcome.1.response.status = .conflict ∧ outcome.2.problem.typeUri = "about:blank" ∧
        outcome.2.problem.title = "Locked" ∧ outcome.2.problem.code = "" ∧
        outcome.2.problem.detail = "A database error occurred." ∧
        outcome.2.problem.extensions.entries = [("sqlErrorNumber", .integer 1222)] := by
  obtain ⟨pipeline, built, table⟩ := answers_follow_table .default patient (by decide)
  obtain ⟨head, decision, follows⟩ := table (.start "7f3a" (by decide) "/orders")
    (.database 1222 "row locked by 51") .disabled fun _ => ⟨.replicate 32 5⟩
  obtain ⟨given, entries, validated⟩ := follows.extensions
  refine ⟨pipeline, built _, head.trans rfl, follows.typeUri.trans ?_, follows.title.trans ?_,
    follows.code.trans ?_, ?_, ?_⟩
  · decide +kernel
  · decide +kernel
  · decide +kernel
  · rw [follows.detail, decision]
    decide +kernel
  · rw [validated fun _ => ⟨.replicate 32 5⟩, Limits.value_validate,
      Limits.entries_admitted, entries]
    decide +kernel

end PipelineBuilder
end Faultline
