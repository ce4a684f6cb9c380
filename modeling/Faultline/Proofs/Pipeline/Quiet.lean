import Faultline.Proofs.Mapper.Alarms
import Faultline.Proofs.Pipeline.Assembly
import Faultline.Proofs.Pipeline.Process

/-!
Pipelines that raise no alarms but those of handling a failure. Main statement: a pipeline is such a
one if no mapper, classifier or enricher that it was given raises any.
-/

namespace Faultline

namespace Telemetry

def Enricher.IsSilent (enricher : Enricher) : Prop :=
  ∀ ctx report span, (enricher ctx report span).Raises []

theorem Enricher.OnlyRecords.isSilent {enricher : Enricher} (only : enricher.OnlyRecords) :
    enricher.IsSilent := by
  intro ctx report span supply
  obtain ⟨records, run⟩ := only ctx report span supply
  rw [run]
  simp [Outcome.alarms, Outcome.events, Entry.event?, Function.comp_def]

theorem Planner.raises_loggingEnricher (planner : Planner) (ctx : RequestContext)
    (report : ErrorReport) (span : Span) :
    let plan := planner.plan ctx report
    (planner.loggingEnricher ctx report span).Raises
      [⟨.error, exceptionEvent,
          [("exception.message", .text (plan.exception.textOf "exception.message"))]⟩,
        ⟨.error, problemEvent, [("problem.code", .text (plan.problem.textOf "problem.code"))]⟩] :=
  fun _ => rfl

end Telemetry

namespace Pipeline

/-- Nothing that the pipeline is made of raises an alarm, except that a mapper is misplaced. -/
structure IsQuiet (pipeline : Pipeline) : Prop where
  mappers : ∀ mapper ∈ pipeline.registry.mappers, mapper.IsQuiet
  enricher : pipeline.enricher.IsSilent

end Pipeline

namespace PipelineBuilder

def Step.IsQuiet : Step → Prop
  | mapper _ make | fallbackMapper _ make => ∀ sanitizer, (make sanitizer).IsQuiet
  | registration given => given.mapper.IsQuiet
  | classifier given => given.IsSilent
  | enricher given => given.IsSilent
  | withoutDefaults | predicate _ | validator _ => True

structure IsQuiet (builder : PipelineBuilder) : Prop where
  classifier : builder.classifier.IsSilent
  enricher : ∀ enricher, builder.enricher = some enricher → enricher.IsSilent
  registrations : ∀ make ∈ builder.registrations, ∀ sanitizer, (make sanitizer).mapper.IsQuiet

variable {builder : PipelineBuilder}

theorem isQuiet_new (settings : Settings) : (new settings).IsQuiet where
  classifier := Classification.isSilent_sqlServer
  enricher _ given := by cases given
  registrations _ member := by cases member

theorem IsQuiet.register (quiet : builder.IsQuiet) {make : Sanitizer → Registration}
    (added : ∀ sanitizer, (make sanitizer).mapper.IsQuiet) : (builder.register make).IsQuiet where
  classifier := quiet.classifier
  enricher := quiet.enricher
  registrations := by
    simp only [PipelineBuilder.register, List.mem_append, List.mem_singleton]
    rintro other (member | rfl)
    · exact quiet.registrations other member
    · exact added

theorem IsQuiet.apply (quiet : builder.IsQuiet) {step : Step} (given : step.IsQuiet) :
    (builder.apply step).IsQuiet := by
  cases step with
  | mapper | fallbackMapper => exact quiet.register given
  | registration => exact quiet.register fun _ => given
  | classifier => exact ⟨given, quiet.enricher, quiet.registrations⟩
  | enricher =>
    refine ⟨quiet.classifier, ?_, quiet.registrations⟩
    rintro _ ⟨⟩
    exact given
  | withoutDefaults | predicate | validator =>
    exact ⟨quiet.classifier, quiet.enricher, quiet.registrations⟩

theorem IsQuiet.applyAll (quiet : builder.IsQuiet) {steps : List Step}
    (given : ∀ step ∈ steps, step.IsQuiet) : (builder.applyAll steps).IsQuiet := by
  induction steps generalizing builder with
  | nil => exact quiet
  | cons step rest ih =>
    obtain ⟨first, others⟩ := List.forall_mem_cons.1 given
    exact ih (quiet.apply first) others

theorem IsQuiet.chosenEnricher (quiet : builder.IsQuiet) : builder.chosenEnricher.IsSilent := by
  unfold PipelineBuilder.chosenEnricher
  cases chosen : builder.enricher with
  | some enricher => exact quiet.enricher enricher chosen
  | none =>
    dsimp only
    split
    next => exact (Telemetry.Planner.onlyRecords_enricher _).isSilent
    next => exact Telemetry.Enricher.onlyRecords_silent.isSilent

theorem isQuiet_of_mem_defaults {sanitizer : Sanitizer} {classifier : Classifier}
    (silent : classifier.IsSilent) {r : Registration}
    (member : r ∈ Registration.defaults sanitizer classifier) : r.mapper.IsQuiet := by
  obtain ⟨origin, made, own⟩ := Registration.mem_defaults member
  refine .inr ⟨origin, sanitizer, made, ?_⟩
  cases origin with
  | database given =>
    obtain rfl := own given rfl
    exact silent
  | validation | structured | remoteHttp | remoteTimeout | appFallback | unexpected =>
    exact trivial

theorem IsQuiet.assemble (quiet : builder.IsQuiet) {registry : Registry}
    (made : Registry.ofList builder.table = .ok registry) :
    (builder.assemble registry).IsQuiet where
  mappers := by
    intro mapper member
    obtain ⟨r, listed, rfl⟩ := (Registry.mem_mappers made).1 member
    rcases List.mem_append.1 listed with builtIn | added
    · split at builtIn
      next => exact isQuiet_of_mem_defaults quiet.classifier builtIn
      next => cases builtIn
    · obtain ⟨make, given, rfl⟩ := List.mem_map.1 added
      exact quiet.registrations make given _
  enricher := quiet.chosenEnricher

theorem isQuiet_of_build {settings : Settings} {steps : List Step}
    (given : ∀ step ∈ steps, step.IsQuiet) {supply : Supply} {pipeline : Pipeline}
    (built : (((new settings).applyAll steps).build.run supply).value = .ok pipeline) :
    pipeline.IsQuiet := by
  rw [value_build_eq] at built
  cases made : Registry.ofList ((new settings).applyAll steps).table with
  | error e =>
    rw [made] at built
    cases built
  | ok registry =>
    rw [made] at built
    cases built
    exact ((isQuiet_new settings).applyAll given).assemble made

end PipelineBuilder

end Faultline
