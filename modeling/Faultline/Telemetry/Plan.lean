import Faultline.Response.Formatting
import Faultline.Sanitizer
import Faultline.Telemetry.Span

/-!
What telemetry records of a failure. The mode `matchResponse` discloses no more than the response;
the mode `operator` records the fault in any case, but not its chain of errors.
-/

namespace Faultline.Telemetry

inductive DisclosureMode where
  | matchResponse
  | operator
  deriving DecidableEq, Repr

structure ErrorReport where
  fault : Fault
  problem : Problem
  status : Status
  sanitization : Sanitization
  reference : ErrorReference

/-- Records a failure, on the caller's span or elsewhere. -/
abbrev Enricher := RequestContext → ErrorReport → Span → Recorded Unit

def Enricher.silent : Enricher := fun _ _ _ => pure ()

structure Planner where
  sanitizer : Sanitizer
  mode : DisclosureMode

/-- Without the fault itself only the sanitized detail is left. -/
def exceptionAttributes (fault : Fault) (sanitization : Sanitization) (redacted : Bool) :
    Attributes :=
  if redacted then .text "exception.message" sanitization.detail
  else
    let stack := if sanitization.includeStackTrace then fault.stackTrace else none
    let summary := fault.typeName ++ ": " ++ fault.display
    .text "exception.type" fault.typeName ++
      .text "exception.message" fault.display ++
      .text? "exception.stacktrace" stack ++
      .text "exception.source" fault.kindName ++
      .text "exception.full" (match stack with
        | some stack => summary ++ "\n" ++ stack
        | none => summary)

def problemAttributes (problem : Problem) (status : Status) : Attributes :=
  .text "problem.type" problem.typeUri ++
    .text "problem.code" problem.code ++
    .text "problem.title" problem.title ++
    .integer "problem.status" status.code ++
    .text "problem.detail" problem.detail ++
    .text "problem.instance" problem.instanceUri ++
    .text "problem.trace_id" problem.traceId ++
    .text? "problem.error_id" problem.errorId ++
    .integer? "problem.sql_error_number" ((problem.extension? "sqlErrorNumber").bind Json.int64?) ++
    .text? "problem.category" ((problem.extension? "category").bind Json.string?) ++
    .integer? "problem.upstream_status" ((problem.extension? "upstreamStatus").bind Json.int64?)

def baseAttributes (environment : Environment) (ctx : RequestContext) (report : ErrorReport) :
    Attributes :=
  .text "problemkit.trace_id" ctx.traceId ++
    .text "http.request.path" ctx.path ++
    .integer "http.response.status_code" report.status.code ++
    .text "problemkit.error.id" report.reference.errorId ++
    .text "problemkit.error.code" report.reference.errorCode ++
    .text "problemkit.problem.type" report.problem.typeUri ++
    .text "problemkit.problem.title" report.problem.title ++
    .text "deployment.environment" environment.name

namespace Planner

def redacts (planner : Planner) (sanitization : Sanitization) : Bool :=
  match planner.mode with
  | .matchResponse => sanitization.isRedacted
  | .operator => false

def plan (planner : Planner) (ctx : RequestContext) (report : ErrorReport) : Enrichment :=
  let exception := exceptionAttributes report.fault report.sanitization
    (planner.redacts report.sanitization)
  let problem := problemAttributes report.problem report.status
  { tags := baseAttributes planner.sanitizer.environment ctx report ++ exception ++ problem
    exception := exception
    problem := problem
    statusDescription := report.reference.errorCode ++ " " ++ report.problem.title }

/-- Records the plan on the caller's span, or on one of its own if that is disabled. -/
def enricher (planner : Planner) : Enricher := fun ctx report span =>
  let enrichment := planner.plan ctx report
  match span with
  | .enabled => Recorded.span ⟨.caller, enrichment⟩
  | .disabled => Recorded.span ⟨.synthetic ctx.traceId report.reference.errorId, enrichment⟩

/-- Where spans keep no attributes, two events tell the message and the code. -/
def loggingEnricher (planner : Planner) : Enricher := fun ctx report _ => do
  let enrichment := planner.plan ctx report
  Recorded.log .error exceptionEvent
    [("exception.message", .text (enrichment.exception.textOf "exception.message"))]
  Recorded.log .error problemEvent
    [("problem.code", .text (enrichment.problem.textOf "problem.code"))]

end Planner

end Faultline.Telemetry
