import Faultline.Pipeline.Basic

/-!
A run of a pipeline falls into two parts. All that is answered is settled first; then the failure is
recorded by the enricher and logged, which changes nothing of the answer.
-/

namespace Faultline.Telemetry

def Planner.recordOf (planner : Planner) (ctx : RequestContext) (report : ErrorReport) :
    Span → SpanRecord
  | .enabled => ⟨.caller, planner.plan ctx report⟩
  | .disabled => ⟨.synthetic ctx.traceId report.reference.errorId, planner.plan ctx report⟩

theorem Planner.run_enricher (planner : Planner) (ctx : RequestContext) (report : ErrorReport)
    (span : Span) (supply : Supply) :
    (planner.enricher ctx report span).run supply =
      ⟨(), 0, [.spanned (planner.recordOf ctx report span)]⟩ := by
  cases span <;> rfl

/-- The enricher draws no identifier, asks nothing and logs nothing. -/
def Enricher.OnlyRecords (enricher : Enricher) : Prop :=
  ∀ ctx report span supply, ∃ records : List SpanRecord,
    (enricher ctx report span).run supply = ⟨(), 0, records.map .spanned⟩

theorem Enricher.onlyRecords_silent : Enricher.silent.OnlyRecords := fun _ _ _ _ => ⟨[], rfl⟩

theorem Planner.onlyRecords_enricher (planner : Planner) : planner.enricher.OnlyRecords :=
  fun ctx report span supply =>
    ⟨[planner.recordOf ctx report span], planner.run_enricher ctx report span supply⟩

end Faultline.Telemetry

namespace Faultline.Pipeline
open Telemetry

def closingEvent (ctx : RequestContext) (fault : Fault) (mapper : String) (processed : Processed) :
    Event where
  level := if processed.status.isServerError then .error else .warn
  message := if processed.status.isServerError then "request failed" else "request rejected"
  fields := [("trace_id", .text ctx.traceId), ("path", .text ctx.path),
    ("error_id", .text processed.reference.errorId),
    ("error_code", .text processed.reference.errorCode),
    ("status", .integer processed.status.code),
    ("problem_type", .text processed.problem.typeUri), ("mapper", .text mapper)] ++
    if processed.status.isServerError then [("error", .text fault.display)] else []

theorem run_closing (ctx : RequestContext) (fault : Fault) (mapper : String)
    (processed : Processed) (supply : Supply) :
    (closing ctx fault mapper processed).run supply =
      ⟨(), 0, [.logged (closingEvent ctx fault mapper processed)]⟩ := by
  unfold closing closingEvent
  cases processed.status.isServerError <;> simp

/-- What a fault has become before anything is recorded or logged of the failure as a whole. -/
structure Settled where
  ctx : RequestContext
  mapper : String
  processed : Processed

namespace Settled

def report (settled : Settled) (fault : Fault) : ErrorReport where
  fault := fault
  problem := settled.processed.problem
  status := settled.processed.status
  sanitization := settled.processed.sanitization
  reference := settled.processed.reference

end Settled

def settle (pipeline : Pipeline) (ctx : RequestContext) (fault : Fault) : Recorded Settled := do
  let mapper ← pipeline.registry.resolve fault
  let mapped ← mapper.map ctx fault
  let (ctx, problem, reference) ←
    Formatting.format pipeline.limits ctx mapped.problem mapped.status
  return ⟨ctx, mapper.name, ⟨mapped.status, problem, reference, mapped.sanitization⟩⟩

variable (pipeline : Pipeline) (ctx : RequestContext) (fault : Fault) (span : Span)

theorem process_eq_settle :
    pipeline.process ctx fault span = do
      let settled ← pipeline.settle ctx fault
      pipeline.enricher settled.ctx (settled.report fault) span
      closing settled.ctx fault settled.mapper settled.processed
      return (settled.ctx, settled.processed) := by
  simp only [process, settle, Settled.report, bind_assoc, pure_bind]

def enriched (supply : Supply) : Outcome Unit :=
  let settled := (pipeline.settle ctx fault).run supply
  (pipeline.enricher settled.value.ctx (settled.value.report fault) span).run
    fun n => supply (settled.drawn + n)

theorem run_process (supply : Supply) :
    (pipeline.process ctx fault span).run supply =
      let settled := (pipeline.settle ctx fault).run supply
      let enriched := pipeline.enriched ctx fault span supply
      ⟨(settled.value.ctx, settled.value.processed), settled.drawn + enriched.drawn,
        settled.journal ++ (enriched.journal ++
          [.logged (closingEvent settled.value.ctx fault settled.value.mapper
            settled.value.processed)])⟩ := by
  simp only [process_eq_settle, enriched, Recorded.run_bind, run_closing, Recorded.run_pure,
    Nat.add_zero, List.append_nil]

theorem value_process (supply : Supply) :
    ((pipeline.process ctx fault span).run supply).value =
      let settled := ((pipeline.settle ctx fault).run supply).value
      (settled.ctx, settled.processed) := by
  rw [run_process]

theorem events_process (supply : Supply) :
    ((pipeline.process ctx fault span).run supply).events =
      let settled := (pipeline.settle ctx fault).run supply
      settled.events ++ ((pipeline.enriched ctx fault span supply).events ++
        [closingEvent settled.value.ctx fault settled.value.mapper settled.value.processed]) := by
  rw [run_process]
  simp [Outcome.events, Entry.event?]

theorem questions_process (supply : Supply) :
    ((pipeline.process ctx fault span).run supply).questions =
      ((pipeline.settle ctx fault).run supply).questions ++
        (pipeline.enriched ctx fault span supply).questions := by
  rw [run_process]
  simp [Outcome.questions, Entry.question?]

theorem spans_process (supply : Supply) :
    ((pipeline.process ctx fault span).run supply).spans =
      ((pipeline.settle ctx fault).run supply).spans ++
        (pipeline.enriched ctx fault span supply).spans := by
  rw [run_process]
  simp [Outcome.spans, Entry.span?]

variable {pipeline} in
/-- An enricher that only records makes no difference but to the spans. -/
theorem process_of_onlyRecords (only : pipeline.enricher.OnlyRecords) (supply : Supply) :
    let settled := (pipeline.settle ctx fault).run supply
    let outcome := (pipeline.process ctx fault span).run supply
    outcome.drawn = settled.drawn ∧ outcome.questions = settled.questions ∧
      outcome.events = settled.events ++ [closingEvent settled.value.ctx fault settled.value.mapper
        settled.value.processed] := by
  intro settled outcome
  obtain ⟨records, enriched⟩ : ∃ records : List SpanRecord,
      pipeline.enriched ctx fault span supply = ⟨(), 0, records.map .spanned⟩ := only _ _ _ _
  refine ⟨?_, ?_, ?_⟩
  · simp only [outcome, settled, run_process, enriched, Nat.add_zero]
  · simp only [outcome, settled, questions_process, enriched]
    simp [Outcome.questions, Entry.question?, Function.comp_def]
  · simp only [outcome, settled, events_process, enriched]
    simp [Outcome.events, Entry.event?, Function.comp_def]

theorem value_respond (supply : Supply) :
    ((pipeline.respond ctx fault span).run supply).value =
      let settled := ((pipeline.settle ctx fault).run supply).value
      ⟨settled.ctx.response.status, Headers.empty.extend settled.ctx.response.headers,
        settled.processed.problem.body⟩ := by
  simp only [respond, Recorded.run_bind, Recorded.run_pure, run_process]

theorem journal_respond (supply : Supply) :
    ((pipeline.respond ctx fault span).run supply).journal =
      ((pipeline.process ctx fault span).run supply).journal := by
  simp only [respond, Recorded.run_bind, Recorded.run_pure, List.append_nil]

theorem events_respond (supply : Supply) :
    ((pipeline.respond ctx fault span).run supply).events =
      ((pipeline.process ctx fault span).run supply).events := by
  rw [Outcome.events, journal_respond, Outcome.events]

theorem spans_respond (supply : Supply) :
    ((pipeline.respond ctx fault span).run supply).spans =
      ((pipeline.process ctx fault span).run supply).spans := by
  rw [Outcome.spans, journal_respond, Outcome.spans]

end Faultline.Pipeline
