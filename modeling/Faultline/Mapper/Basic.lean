import Faultline.Problem.Builder
import Faultline.Sanitizer

/-! Mappers turn one family of faults into problem documents. -/

namespace Faultline

structure Mapped where
  status : Status
  problem : Problem
  sanitization : Sanitization
  deriving DecidableEq

/-- A mapper is meant for the faults it can handle, but it answers every fault. -/
structure Mapper where
  name : String
  canHandle : Fault → Bool
  map : RequestContext → Fault → Recorded Mapped

namespace Mapper

def start (ctx : RequestContext) (code : ErrorCode) (status : Status) (detail : String) :
    Recorded ProblemBuilder := do
  let builder := ProblemBuilder.new ctx.traceId
    |>.withType code.typeUri
    |>.withTitle (some code.title)
    |>.withDetail (some detail)
    |>.withStatus status
  let builder ← builder.withInstance none
  return builder.withCode (some code.code) |>.withTraceId none

def unexpectedProblem (sanitizer : Sanitizer) (ctx : RequestContext) (fault : Fault) :
    Recorded Mapped := do
  let sanitization ← sanitizer.sanitize ctx fault (some fault.display) true
  let builder ← start ctx .unexpected .internalError sanitization.detail
  let problem ← (builder.withExtension "category" (.string "Unhandled")).build
  return ⟨.internalError, problem, sanitization⟩

def mapUnexpected (sanitizer : Sanitizer) (name : String) (ctx : RequestContext) (fault : Fault) :
    Recorded Mapped := do
  Recorded.log .warn
    "mapper invoked with a fault it cannot handle; answering with an unexpected-error problem"
    [("mapper", .text name), ("kind", .text fault.kindName)]
  unexpectedProblem sanitizer ctx fault

/-- The document for an application error: the status it prefers or else the default one, its own
detail as far as that may be disclosed, and what `extend` adds. -/
def mapStructured (sanitizer : Sanitizer) (ctx : RequestContext) (fault : Fault) (error : AppError)
    (defaultStatus : Status) (extend : ProblemBuilder → Sanitization → ProblemBuilder) :
    Recorded Mapped := do
  let status := error.preferredStatus.getD defaultStatus
  let sanitization ← sanitizer.sanitize ctx fault error.detail true
  let builder ← start ctx error.code status sanitization.detail
  let builder := if error.isTransient then builder.withExtension "transient" (.bool true)
    else builder
  let problem ← (extend builder sanitization).build
  return ⟨status, problem, sanitization⟩

def forType (type : AppErrorType) (name : String) (defaultStatus : Status)
    (extend : ProblemBuilder → Sanitization → ProblemBuilder) (sanitizer : Sanitizer) : Mapper where
  name := name
  canHandle fault := (fault.ofType? type).isSome
  map ctx fault := match fault.ofType? type with
    | some error => mapStructured sanitizer ctx fault error defaultStatus extend
    | none => mapUnexpected sanitizer name ctx fault

def constant (name : String) (accepts : Fault → Bool) (problem : Problem) (sanitizer : Sanitizer) :
    Mapper where
  name := name
  canHandle := accepts
  map ctx fault := do
    let sanitization ← sanitizer.sanitize ctx fault (some problem.detail) true
    return ⟨problem.status, problem, sanitization⟩

end Mapper
end Faultline
