import Faultline.Classification
import Faultline.Mapper.Basic

/-! The built-in mappers, each for one family of faults. -/

namespace Faultline

inductive BuiltInMapper where
  | validation
  | structured (type : AppErrorType) (name : String) (defaultStatus : Status)
  | database (classifier : Classifier)
  | remoteHttp
  | remoteTimeout
  | appFallback
  | unexpected

/-- The status for a failed call to another service: what the caller can do about it is kept, and
anything else is a bad gateway. -/
def gatewayStatus (answer : Option Status) : Status :=
  if answer = some .tooManyRequests then .tooManyRequests
  else if answer = some .requestTimeout then .gatewayTimeout
  else .badGateway

namespace BuiltInMapper

def name : BuiltInMapper → String
  | validation => "validation"
  | structured _ name _ => name
  | database _ => "database"
  | remoteHttp => "upstream_http"
  | remoteTimeout => "upstream_timeout"
  | appFallback => "app_fallback"
  | unexpected => "unexpected"

def canHandle : BuiltInMapper → Fault → Bool
  | validation, fault => (fault.ofType? .validation).isSome
  | structured type _ _, fault => (fault.ofType? type).isSome
  | database _, .database .. => true
  | remoteHttp, .remote .. => true
  | remoteTimeout, .timeout .. => true
  | appFallback, .app _ => true
  | unexpected, _ => true
  | _, _ => false

def extendWithErrors (errors : FieldErrors) (builder : ProblemBuilder)
    (sanitization : Sanitization) : ProblemBuilder :=
  if sanitization.isRedacted || errors.isEmpty then builder
  else builder.withExtension "errors"
    (.object (errors.map fun entry => (entry.1, .array (entry.2.map .string))))

def mapDatabase (sanitizer : Sanitizer) (classifier : Classifier) (ctx : RequestContext)
    (fault : Fault) (number : Int) : Recorded Mapped := do
  let classification ← classifier number
  let sanitization ← sanitizer.sanitize ctx fault (some "A database error occurred.") false
  let builder ← Mapper.start ctx classification.code classification.status sanitization.detail
  let builder := builder.withExtension "sqlErrorNumber" (.integer number)
  let builder := if classification.transient then builder.withExtension "transient" (.bool true)
    else builder
  return ⟨classification.status, ← builder.build, sanitization⟩

def mapRemote (sanitizer : Sanitizer) (ctx : RequestContext) (fault : Fault)
    (answer : Option Status) : Recorded Mapped := do
  let status := gatewayStatus answer
  let sanitization ← sanitizer.sanitize ctx fault (some "External dependency call failed.") false
  let builder ← Mapper.start ctx .httpRemote status sanitization.detail
  let code : Nat := (answer.map Status.code).getD 0
  return ⟨status, ← (builder.withExtension "upstreamStatus" (.integer code)).build, sanitization⟩

def mapTimeout (sanitizer : Sanitizer) (ctx : RequestContext) (fault : Fault) :
    Recorded Mapped := do
  let sanitization ← sanitizer.sanitize ctx fault
    (some "The upstream service did not respond in time.") false
  let builder ← Mapper.start ctx .httpTimeout .gatewayTimeout sanitization.detail
  return ⟨.gatewayTimeout, ← builder.build, sanitization⟩

def map (mapper : BuiltInMapper) (sanitizer : Sanitizer) (ctx : RequestContext) (fault : Fault) :
    Recorded Mapped :=
  let unhandled := Mapper.mapUnexpected sanitizer mapper.name ctx fault
  match mapper, fault with
  | validation, .app error => match error with
    | .validation _ errors =>
      Mapper.mapStructured sanitizer ctx fault error .unprocessable (extendWithErrors errors)
    | _ => unhandled
  | structured type _ defaultStatus, fault => match fault.ofType? type with
    | some error =>
      Mapper.mapStructured sanitizer ctx fault error defaultStatus fun builder _ => builder
    | none => unhandled
  | database classifier, .database number _ => mapDatabase sanitizer classifier ctx fault number
  | remoteHttp, .remote status _ => mapRemote sanitizer ctx fault status
  | remoteTimeout, .timeout .. => mapTimeout sanitizer ctx fault
  | appFallback, .app error =>
    Mapper.mapStructured sanitizer ctx fault error .internalError fun builder _ => builder
  | unexpected, fault => Mapper.unexpectedProblem sanitizer ctx fault
  | _, _ => unhandled

def toMapper (mapper : BuiltInMapper) (sanitizer : Sanitizer) : Mapper where
  name := mapper.name
  canHandle := mapper.canHandle
  map := mapper.map sanitizer

end BuiltInMapper
end Faultline
