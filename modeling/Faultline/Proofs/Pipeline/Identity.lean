import Faultline.Pipeline.Guard
import Faultline.Proofs.Pipeline.Answer
import Faultline.Proofs.Request.TraceId
import Faultline.Proofs.Telemetry.Plan

/-!
What one failure goes by. Main statement: the headers and the body of a guarded response, the
closing event and the span all give the failure the same error id, trace id and status, whatever
the mappers make of it.
-/

namespace Faultline

structure Event.Closes (event : Event) (error trace : String) (status : Status) : Prop where
  isClosing : event.message =
    if status.isServerError then "request failed" else "request rejected"
  fieldErrorId : event.fields.lookup "error_id" = some (.text error)
  fieldTraceId : event.fields.lookup "trace_id" = some (.text trace)
  fieldStatus : event.fields.lookup "status" = some (.integer status.code)

/-- The response and the closing event agree on the identifiers, and each is given once. -/
structure Outcome.Identifies (outcome : Outcome Response) (error trace : String) : Prop where
  contentType : outcome.value.headers.values Headers.contentType = [Problem.mediaType]
  errorId : outcome.value.headers.values Headers.errorId = [error]
  traceId : outcome.value.headers.values Headers.traceId = [trace]
  body : ∃ members, Formatting.BodyTells outcome.value.body error trace members
  closing : ∃ event, outcome.events.getLast? = some event ∧
    event.Closes error trace outcome.value.status

namespace Pipeline
open Telemetry Formatting

variable (pipeline : Pipeline) (ctx : RequestContext) (fault : Fault) (span : Span)
  (supply : Supply)

theorem closes_closingEvent (mapper : String) (processed : Processed) :
    (closingEvent ctx fault mapper processed).Closes processed.reference.errorId ctx.traceId
      processed.status := by
  constructor
  · rfl
  · simp [closingEvent, List.lookup_cons]
  · simp [closingEvent]
  · simp [closingEvent, List.lookup_cons]

structure Records (record : SpanRecord) (span : Span) (error trace : String) (status : Status) :
    Prop where
  tellsOf : TellsOf record.enrichment error trace status
  target : span = .disabled → record.target = .synthetic trace error

variable {ctx}

theorem records_recordOf (planner : Planner) {report : ErrorReport} (isOf : report.IsOf ctx) :
    Records (planner.recordOf ctx report span) span report.reference.errorId ctx.traceId
      report.status := by
  have tellsOf := planner.tellsOf_plan isOf
  cases span with
  | enabled =>
    refine ⟨tellsOf, ?_⟩
    intro disabled
    cases disabled
  | disabled => exact ⟨tellsOf, fun _ => rfl⟩

/-- One failure goes by one error id, which is made for it, and by the trace id of its request. -/
structure Identified (pipeline : Pipeline) (span : Span) (outcome : Outcome Response)
    (error trace : String) : Prop where
  isErrorId : IsErrorId error
  identifies : outcome.Identifies error trace
  recorded : ∀ planner : Planner, pipeline.enricher = planner.enricher →
    ∃ record, outcome.spans.getLast? = some record ∧
      Records record span error trace outcome.value.status

variable {pipeline span} in
theorem Identified.congr {first second : Outcome Response} {error trace : String}
    (identified : Identified pipeline span first error trace) (value : second.value = first.value)
    (journal : second.journal = first.journal) : Identified pipeline span second error trace := by
  obtain ⟨given, drawn, entries⟩ := first
  obtain ⟨given', drawn', entries'⟩ := second
  cases value
  cases journal
  obtain ⟨isErrorId, ⟨contentType, errorId, traceId, body, closing⟩, recorded⟩ := identified
  exact ⟨isErrorId, ⟨contentType, errorId, traceId, body, closing⟩, recorded⟩

theorem respond_identified (plain : Text.IsPlain ctx.traceId) :
    ∃ error, Identified pipeline span ((pipeline.respond ctx fault span).run supply) error
      ctx.traceId := by
  have settled := pipeline.value_settle ctx fault supply
  dsimp only at settled
  -- of what the mapper did only its answer counts, and how many identifiers it drew
  generalize ((pipeline.answer ctx fault).run supply).drawn = n at settled
  generalize ((pipeline.answer ctx fault).run supply).value = mapped at settled
  have events := pipeline.events_respond ctx fault span supply
  have spans := pipeline.spans_respond ctx fault span supply
  have value := pipeline.value_respond ctx fault span supply
  rw [events_process] at events
  rw [spans_process] at spans
  unfold enriched at spans
  have plainError := isPlain_errorIdOf (supply n)
  have isErrorId := isErrorId_errorIdOf (supply n)
  generalize errorIdOf (supply n) = error at settled plainError isErrorId
  generalize (pipeline.settle ctx fault).run supply = earlier at settled events spans value
  generalize (pipeline.respond ctx fault span).run supply = outcome at events spans value ⊢
  have isOf : (earlier.value.report fault).IsOf earlier.value.ctx := by
    rw [settled]
    exact ⟨rfl, rfl, plain, plainError⟩
  have recorded (planner : Planner) := records_recordOf span planner isOf
  dsimp only at events spans value
  rw [settled] at events value
  rw [← List.append_assoc] at events
  refine ⟨error, isErrorId, ?_, ?_⟩
  · constructor
    · rw [value, Headers.values_empty_extend]
      exact contentType_headFor ctx mapped.status error
    · rw [value, Headers.values_empty_extend]
      exact errorId_headFor ctx mapped.status error
    · rw [value, Headers.values_empty_extend]
      exact traceId_headFor ctx mapped.status error plain.isLegalValue
    · rw [value]
      exact ⟨_, bodyTells_finish pipeline.limits ctx mapped.problem error⟩
    · rw [events, value]
      exact ⟨_, List.getLast?_concat, closes_closingEvent _ fault _ _⟩
  · intro planner chosen
    refine ⟨planner.recordOf earlier.value.ctx (earlier.value.report fault) span, ?_, ?_⟩
    · rw [spans, chosen, planner.run_enricher]
      exact List.getLast?_concat
    · have records := recorded planner
      rw [settled] at records ⊢
      rw [value]
      exact records

variable (ctx) (request : Request)

theorem run_guard_fault :
    let start := (RequestContext.ofRequest request.headers request.path).run supply
    let answer := (pipeline.respond start.value fault span).run fun n => supply (start.drawn + n)
    let outcome := (pipeline.guard request (.fault fault) span).run supply
    outcome.value = answer.value ∧ outcome.journal = answer.journal := by
  have silent := RequestContext.journal_ofRequest request.headers request.path supply
  simp only [guard, Recorded.run_bind, silent, List.nil_append, and_self]

/-- A guarded fault is answered under one error id and one trace id, which is that of the request;
whatever mappers add, no member of the body is given twice. Any other answer is passed on. -/
theorem guard_identified :
    (∀ fault, ∃ error trace,
      trace = (RequestContext.incomingTraceId request.headers).getD (supply 0).hex ∧
      Text.isBlank trace = false ∧
      Identified pipeline span ((pipeline.guard request (.fault fault) span).run supply) error
        trace) ∧
    ∀ response,
      ((pipeline.guard request (.response response) span).run supply).value = response := by
  refine ⟨?_, fun response => rfl⟩
  intro fault
  have plain := RequestContext.isPlain_ofRequest request.headers request.path supply
  have trace := RequestContext.traceId_ofRequest request.headers request.path supply
  obtain ⟨value, journal⟩ := pipeline.run_guard_fault fault span supply request
  obtain ⟨error, identified⟩ := pipeline.respond_identified fault span _ plain
  exact ⟨error, _, trace, plain.isBlank, identified.congr value journal⟩

def forger : Mapper where
  name := "forger"
  canHandle _ := true
  map _ _ := return ⟨.badRequest, { Problem.new .badRequest "Refused" "" with
    traceId := "forged"
    extensions := .ofList [("errorId", .string "forged"), ("traceId", .null)] }, ⟨"", false, true⟩⟩

def forging : Pipeline where
  registry := ⟨[], [.fallback forger 0], List.cons_ne_nil _ _⟩
  limits := .default
  enricher := Planner.enricher ⟨⟨.default, .production, none⟩, .matchResponse⟩
  sanitizer := ⟨.default, .production, none⟩

theorem guard_identified_forging : ∃ error,
    let request : Request := ⟨.ofList [("X-Trace-Id", " 7f3a ")], "/orders"⟩
    let outcome := (forging.guard request (.fault (.remote none "reset")) .disabled).run
      fun _ => ⟨.replicate 32 5⟩
    outcome.Identifies error "7f3a" ∧ ∃ record, outcome.spans.getLast? = some record ∧
      record.target = .synthetic "7f3a" error := by
  obtain ⟨faults, -⟩ := guard_identified forging .disabled (fun _ => ⟨.replicate 32 5⟩)
    ⟨.ofList [("X-Trace-Id", " 7f3a ")], "/orders"⟩
  obtain ⟨error, trace, origin, -, identified⟩ := faults (.remote none "reset")
  have given : trace = "7f3a" := origin.trans (by decide +kernel)
  subst given
  obtain ⟨record, last, records⟩ := identified.recorded _ rfl
  exact ⟨error, identified.identifies, record, last, records.target rfl⟩

end Pipeline
end Faultline
