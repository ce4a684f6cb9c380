import Faultline.Proofs.Telemetry.Attributes
import Faultline.Telemetry.Plan

/-! What a plan tells of the failure it was made for. -/

namespace Faultline.Telemetry
open Attributes

/-- The identifiers and the status stand among the tags and in the problem event. -/
structure TellsOf (enrichment : Enrichment) (errorId traceId : String) (status : Status) :
    Prop where
  taggedTraceId : enrichment.tags.get? "problemkit.trace_id" = some (.text traceId)
  taggedErrorId : enrichment.tags.get? "problemkit.error.id" = some (.text errorId)
  taggedStatus : enrichment.tags.get? "http.response.status_code" = some (.integer status.code)
  problemTraceId : enrichment.problem.get? "problem.trace_id" = some (.text traceId)
  problemErrorId : enrichment.problem.get? "problem.error_id" = some (.text errorId)
  problemStatus : enrichment.problem.get? "problem.status" = some (.integer status.code)

/-- The report is of one failure in one request: its document goes by the same identifiers. -/
structure ErrorReport.IsOf (report : ErrorReport) (ctx : RequestContext) : Prop where
  traceId : report.problem.traceId = ctx.traceId
  errorId : report.problem.errorId = some report.reference.errorId
  plainTraceId : Text.IsPlain ctx.traceId
  plainErrorId : Text.IsPlain report.reference.errorId

theorem Planner.tellsOf_plan (planner : Planner) {ctx : RequestContext} {report : ErrorReport}
    (isOf : report.IsOf ctx) :
    TellsOf (planner.plan ctx report) report.reference.errorId ctx.traceId report.status := by
  have trace (key : String) : get? (text key ctx.traceId) key = some (.text ctx.traceId) :=
    get?_text_self isOf.plainTraceId
  have error (key : String) : get? (text key report.reference.errorId) key =
      some (.text report.reference.errorId) := get?_text_self isOf.plainErrorId
  constructor
  · simp [plan, baseAttributes, trace]
  · simp [plan, baseAttributes, error]
  · simp [plan, baseAttributes]
  · simp [plan, problemAttributes, isOf.traceId, trace]
  · simp [plan, problemAttributes, isOf.errorId, text?, error]
  · simp [plan, problemAttributes]

end Faultline.Telemetry
