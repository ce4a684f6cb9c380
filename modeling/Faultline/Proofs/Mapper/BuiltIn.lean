import Faultline.Mapper.BuiltIn

/-!
What the built-in mappers do with the faults of their kind, and what a decision of the sanitizer
tells. A mapper for one type of application errors goes by `Fault.ofType?`.
-/

namespace Faultline

def AppError.fieldErrors : AppError → FieldErrors
  | validation _ errors => errors
  | _ => []

theorem Fault.ofType?_app (error : AppError) (type : AppErrorType) :
    (Fault.app error).ofType? type = if error.type = type then some error else none := by
  simp [ofType?, app?, Option.filter]

theorem Sanitizer.value_sanitize (sanitizer : Sanitizer) (ctx : RequestContext) (fault : Fault)
    (preferred : Option String) (sensitive : Bool) (supply : Supply) :
    ((sanitizer.sanitize ctx fault preferred sensitive).run supply).value =
      sanitizer.assess fault preferred sensitive := by
  unfold sanitize
  dsimp only
  split <;> rfl

def Sanitization.IsOf (decision : Sanitization) (sanitizer : Sanitizer) (fault : Fault) : Prop :=
  ∃ preferred sensitive, decision = sanitizer.assess fault preferred sensitive

theorem Sanitization.IsOf.isRedacted {decision : Sanitization} {sanitizer : Sanitizer}
    {fault : Fault} (isOf : decision.IsOf sanitizer fault) :
    decision.isRedacted = !sanitizer.allows fault := by
  obtain ⟨preferred, sensitive, rfl⟩ := isOf
  rfl

namespace BuiltInMapper

variable (sanitizer : Sanitizer) (ctx : RequestContext)

theorem map_validation (fault : Fault) :
    validation.map sanitizer ctx fault = match fault.ofType? .validation with
      | some error => Mapper.mapStructured sanitizer ctx fault error .unprocessable
          (extendWithErrors error.fieldErrors)
      | none => Mapper.mapUnexpected sanitizer "validation" ctx fault := by
  cases fault with
  | app error => cases error <;> rfl
  | database | remote | timeout | unrecognized => rfl

theorem map_structured (fault : Fault) (type : AppErrorType) (name : String)
    (defaultStatus : Status) :
    (structured type name defaultStatus).map sanitizer ctx fault = match fault.ofType? type with
      | some error => Mapper.mapStructured sanitizer ctx fault error defaultStatus
          fun builder _ => builder
      | none => Mapper.mapUnexpected sanitizer name ctx fault := by
  cases fault <;> rfl

theorem map_of_not_canHandle {mapper : BuiltInMapper} {fault : Fault}
    (refused : mapper.canHandle fault = false) :
    mapper.map sanitizer ctx fault = Mapper.mapUnexpected sanitizer mapper.name ctx fault := by
  cases mapper with
  | validation =>
    rw [map_validation, Option.isNone_iff_eq_none.1 (Option.isSome_eq_false_iff.1 refused)]
    rfl
  | structured type name defaultStatus =>
    rw [map_structured, Option.isNone_iff_eq_none.1 (Option.isSome_eq_false_iff.1 refused)]
    rfl
  | database | remoteHttp | remoteTimeout | appFallback =>
    -- the fault that the mapper is meant for is not refused, and any other is unhandled
    cases fault <;> first | rfl | cases refused
  | unexpected => cases refused

theorem map_appFallback (error : AppError) :
    appFallback.map sanitizer ctx (.app error) =
      Mapper.mapStructured sanitizer ctx (.app error) error .internalError
        fun builder _ => builder := rfl

def consults : BuiltInMapper → Fault → Option (Recorded Classification)
  | database classifier, .database number _ => some (classifier number)
  | _, _ => none

/-- The ways in which built-in mappers answer faults that they can handle. -/
inductive Handling (mapper : BuiltInMapper) (fault : Fault) : Prop where
  | error (error : AppError) (defaultStatus : Status)
      (extend : ProblemBuilder → Sanitization → ProblemBuilder)
      (known : extend = extendWithErrors error.fieldErrors ∨ extend = fun builder _ => builder)
      (alone : mapper.consults fault = none)
      (answer : mapper.map sanitizer ctx fault =
        Mapper.mapStructured sanitizer ctx fault error defaultStatus extend)
  | database (classifier : Classifier) (number : Int)
      (consults : mapper.consults fault = some (classifier number))
      (answer : mapper.map sanitizer ctx fault = mapDatabase sanitizer classifier ctx fault number)
  | remote (status : Option Status) (alone : mapper.consults fault = none)
      (answer : mapper.map sanitizer ctx fault = mapRemote sanitizer ctx fault status)
  | timeout (alone : mapper.consults fault = none)
      (answer : mapper.map sanitizer ctx fault = mapTimeout sanitizer ctx fault)
  | unexpected (alone : mapper.consults fault = none)
      (answer : mapper.map sanitizer ctx fault = Mapper.unexpectedProblem sanitizer ctx fault)

theorem handling_of_canHandle {mapper : BuiltInMapper} {fault : Fault}
    (handled : mapper.canHandle fault = true) : Handling sanitizer ctx mapper fault := by
  cases mapper with
  | validation =>
    obtain ⟨error, found⟩ := Option.isSome_iff_exists.1 handled
    refine .error error .unprocessable _ (.inl rfl) rfl ?_
    rw [map_validation, found]
  | structured type name defaultStatus =>
    obtain ⟨error, found⟩ := Option.isSome_iff_exists.1 handled
    refine .error error defaultStatus _ (.inr rfl) rfl ?_
    rw [map_structured, found]
  | database classifier =>
    cases fault with
    | database number => exact .database classifier number rfl rfl
    | app | remote | timeout | unrecognized => cases handled
  | remoteHttp =>
    cases fault with
    | remote status => exact .remote status rfl rfl
    | app | database | timeout | unrecognized => cases handled
  | remoteTimeout =>
    cases fault with
    | timeout => exact .timeout rfl rfl
    | app | database | remote | unrecognized => cases handled
  | appFallback =>
    cases fault with
    | app error => exact .error error _ _ (.inr rfl) rfl rfl
    | database | remote | timeout | unrecognized => cases handled
  | unexpected => exact .unexpected rfl rfl

end BuiltInMapper
end Faultline
