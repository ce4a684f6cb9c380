import Faultline.Telemetry.Attributes

/-! What is recorded of a failure on a span, and on which one. -/

namespace Faultline.Telemetry

structure Enrichment where
  tags : Attributes
  exception : Attributes
  problem : Attributes
  statusDescription : String
  deriving DecidableEq, Repr

def exceptionEvent : String := "exception"

def problemEvent : String := "problem-details"

/-- The span the caller passes in; one that is disabled records nothing. -/
inductive Span where
  | enabled
  | disabled
  deriving DecidableEq, Repr

def syntheticSpanName : String := "errors.enricher"

/-- A failure is recorded on the caller's span, or on one opened and closed for it. -/
inductive SpanTarget where
  | caller
  | synthetic (traceId errorId : String)
  deriving DecidableEq, Repr

def SpanTarget.fields : SpanTarget → Attributes
  | .caller => []
  | .synthetic traceId errorId => [("trace_id", .text traceId), ("error_id", .text errorId)]

structure SpanRecord where
  target : SpanTarget
  enrichment : Enrichment
  deriving DecidableEq, Repr

structure FinishedSpan where
  name : String
  attributes : Attributes
  events : List (String × Attributes)
  failure : Option String
  deriving DecidableEq, Repr

namespace FinishedSpan

def idle (name : String) : FinishedSpan := ⟨name, [], [], none⟩

def record (span : FinishedSpan) (enrichment : Enrichment) : FinishedSpan :=
  { span with
    attributes := span.attributes ++ enrichment.tags
    events := span.events ++
      [(exceptionEvent, enrichment.exception), (problemEvent, enrichment.problem)]
    failure := some enrichment.statusDescription }

/-- The spans opened for the failures among these, and then the caller's span if it is enabled,
which is of the name given. -/
def ofRecords (name : String) (span : Span) (records : List SpanRecord) : List FinishedSpan :=
  let synthetic := records.filterMap fun entry => match entry.target with
    | .caller => none
    | .synthetic .. =>
      some (record ⟨syntheticSpanName, entry.target.fields, [], none⟩ entry.enrichment)
  let recorded := records.filterMap fun entry => match entry.target with
    | .caller => some entry.enrichment
    | .synthetic .. => none
  synthetic ++ match span with
    | .enabled => [recorded.foldl record (idle name)]
    | .disabled => []

end FinishedSpan

end Faultline.Telemetry
