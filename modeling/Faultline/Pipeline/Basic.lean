import Faultline.Mapper.Registry
import Faultline.Response.Delivery
import Faultline.Telemetry.Plan

/-!
The error pipeline: a fault is mapped to a problem document, which is formatted, recorded on a span,
logged and sent.
-/

namespace Faultline

structure Pipeline where
  registry : Registry
  limits : Limits
  enricher : Telemetry.Enricher
  sanitizer : Sanitizer

structure Processed where
  status : Status
  problem : Problem
  reference : ErrorReference
  sanitization : Sanitization
  deriving DecidableEq

namespace Pipeline

/-- The event that closes the handling of a fault. Only server errors tell the fault itself. -/
def closing (ctx : RequestContext) (fault : Fault) (mapper : String) (processed : Processed) :
    Recorded Unit :=
  let fields := [("trace_id", .text ctx.traceId), ("path", .text ctx.path),
    ("error_id", .text processed.reference.errorId),
    ("error_code", .text processed.reference.errorCode),
    ("status", .integer processed.status.code),
    ("problem_type", .text processed.problem.typeUri), ("mapper", .text mapper)]
  if processed.status.isServerError then
    Recorded.log .error "request failed" (fields ++ [("error", .text fault.display)])
  else Recorded.log .warn "request rejected" fields

/-- Handles a fault up to the sending. The context comes back with the head of the response. -/
def process (pipeline : Pipeline) (ctx : RequestContext) (fault : Fault) (span : Telemetry.Span) :
    Recorded (RequestContext × Processed) := do
  let mapper ← pipeline.registry.resolve fault
  let mapped ← mapper.map ctx fault
  let (ctx, problem, reference) ←
    Formatting.format pipeline.limits ctx mapped.problem mapped.status
  pipeline.enricher ctx ⟨fault, problem, mapped.status, mapped.sanitization, reference⟩ span
  let processed : Processed := ⟨mapped.status, problem, reference, mapped.sanitization⟩
  closing ctx fault mapper.name processed
  return (ctx, processed)

structure Handled where
  ctx : RequestContext
  processed : Processed
  delivered : Delivery.Delivered

def handle (pipeline : Pipeline) (ctx : RequestContext) (fault : Fault) (span : Telemetry.Span)
    (sink : Delivery.Sink) : Recorded Handled := do
  let (ctx, processed) ← pipeline.process ctx fault span
  let delivered ← Delivery.write ctx processed.problem sink
  return ⟨{ ctx with cancelled := delivered.cancelled }, processed, delivered⟩

/-- Handles a fault and answers with its document, in a response that takes over the head. -/
def respond (pipeline : Pipeline) (ctx : RequestContext) (fault : Fault) (span : Telemetry.Span) :
    Recorded Response := do
  let (ctx, processed) ← pipeline.process ctx fault span
  return ⟨ctx.response.status, Headers.empty.extend ctx.response.headers, processed.problem.body⟩

end Pipeline
end Faultline
