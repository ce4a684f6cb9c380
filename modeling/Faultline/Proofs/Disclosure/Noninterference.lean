import Faultline.Proofs.Disclosure.Indistinct
import Faultline.Proofs.Mapper.Document
import Faultline.Proofs.Pipeline.Assembly
import Faultline.Proofs.Pipeline.Process

/-!
What a pipeline with the built-in mappers gives away. Main statements: redacted faults of one shape
give the same answer, events and spans, whatever their texts; and the errors behind a fault show
nowhere but on spans, and there only along with stack traces.
-/

namespace Faultline

theorem Recorded.bind_congr {α β : Type} {action : Recorded α} {next other : α → Recorded β}
    (agree : ∀ supply, next (action.run supply).value = other (action.run supply).value) :
    (action >>= next) = (action >>= other) := by
  ext supply
  simp only [run_bind, agree]

def Event.without (name : String) (event : Event) : Event :=
  { event with fields := event.fields.filter (·.1 != name) }

namespace Registry

variable {registry : Registry} {sanitizer : Sanitizer} {a b : Fault}
  (builtIns : ∀ mapper ∈ registry.mappers, ∃ builtIn : BuiltInMapper,
    mapper = builtIn.toMapper sanitizer)
  (same : sanitizer.Indistinct a b)

include builtIns same

theorem tryResolve_indistinct : registry.tryResolve a = registry.tryResolve b := by
  unfold tryResolve
  rw [← List.head?_filter, ← List.head?_filter]
  refine congrArg List.head? (List.filter_congr fun mapper member => ?_)
  obtain ⟨builtIn, rfl⟩ := builtIns mapper member
  exact BuiltInMapper.canHandle_eq same builtIn

theorem mapperFor_indistinct : registry.mapperFor a = registry.mapperFor b := by
  unfold mapperFor
  rw [tryResolve_indistinct builtIns same]

theorem resolve_indistinct : registry.resolve a = registry.resolve b := by
  unfold resolve
  rw [tryResolve_indistinct builtIns same, mapperFor_indistinct builtIns same, same.shape.kindName]

end Registry

namespace Pipeline

variable {pipeline : Pipeline} {a b : Fault} (builtIns : pipeline.UsesBuiltIns)

include builtIns in
theorem settle_indistinct (same : pipeline.sanitizer.Indistinct a b) (ctx : RequestContext) :
    pipeline.settle ctx a = pipeline.settle ctx b := by
  unfold settle
  rw [Registry.resolve_indistinct builtIns same]
  apply Recorded.bind_congr
  intro supply
  rw [Registry.value_resolve]
  obtain ⟨builtIn, mapper⟩ := builtIns _ (Registry.mapperFor_mem b)
  rw [mapper]
  have map : (builtIn.toMapper pipeline.sanitizer).map ctx a =
      (builtIn.toMapper pipeline.sanitizer).map ctx b := BuiltInMapper.map_eq same builtIn ctx
  rw [map]

include builtIns in
theorem decision_settle (ctx : RequestContext) (fault : Fault) (supply : Supply) :
    ((pipeline.settle ctx fault).run supply).value.processed.sanitization.IsOf
      pipeline.sanitizer fault := by
  obtain ⟨builtIn, mapper⟩ := builtIns _ (Registry.mapperFor_mem fault)
  unfold settle
  simp only [Recorded.run_bind, Recorded.run_pure, Registry.value_resolve]
  rw [mapper]
  exact builtIn.decision_map pipeline.sanitizer ctx fault _

/-- Two runs that give a client the same. -/
structure SameAnswer (pipeline : Pipeline) (ctx : RequestContext) (span : Telemetry.Span)
    (supply : Supply) (a b : Fault) : Prop where
  processed : ((pipeline.process ctx a span).run supply).value =
    ((pipeline.process ctx b span).run supply).value
  response : ((pipeline.respond ctx a span).run supply).value =
    ((pipeline.respond ctx b span).run supply).value

/-- Two outcomes that took as many identifiers and asked a validator the same. -/
structure SameDemands {α : Type} (first second : Outcome α) : Prop where
  drawn : first.drawn = second.drawn
  questions : first.questions = second.questions

variable {ctx : RequestContext} {span : Telemetry.Span} {supply : Supply}

theorem sameAnswer_of_settle (settled : pipeline.settle ctx a = pipeline.settle ctx b) :
    pipeline.SameAnswer ctx span supply a b where
  processed := by rw [value_process, value_process, settled]
  response := by rw [value_respond, value_respond, settled]

theorem sameDemands_of_settle (settled : pipeline.settle ctx a = pipeline.settle ctx b)
    (only : pipeline.enricher.OnlyRecords) :
    SameDemands ((pipeline.process ctx a span).run supply)
      ((pipeline.process ctx b span).run supply) := by
  obtain ⟨drawn, questions, -⟩ := process_of_onlyRecords ctx a span only supply
  obtain ⟨drawn', questions', -⟩ := process_of_onlyRecords ctx b span only supply
  rw [← settled] at drawn' questions'
  exact ⟨drawn.trans drawn'.symm, questions.trans questions'.symm⟩

theorem events_of_onlyRecords (only : pipeline.enricher.OnlyRecords) :
    ((pipeline.process ctx a span).run supply).events =
      let settled := (pipeline.settle ctx a).run supply
      settled.events ++ [closingEvent settled.value.ctx a settled.value.mapper
        settled.value.processed] :=
  (process_of_onlyRecords ctx a span only supply).2.2

theorem closingEvent_without (ctx : RequestContext) (mapper : String) (processed : Processed) :
    (closingEvent ctx a mapper processed).without "error" =
      (closingEvent ctx b mapper processed).without "error" := by
  unfold Event.without closingEvent
  cases processed.status.isServerError <;> simp

theorem closingEvent_of_not_serverError (mapper : String) {processed : Processed}
    (rejection : processed.status.isServerError = false) :
    closingEvent ctx a mapper processed = closingEvent ctx b mapper processed := by
  simp only [closingEvent, rejection, Bool.false_eq_true, if_false]

theorem closingEvent_of_display (mapper : String) (processed : Processed)
    (display : a.display = b.display) :
    closingEvent ctx a mapper processed = closingEvent ctx b mapper processed := by
  simp only [closingEvent, display]

/-- The same events up to the closing one, and that one the same but for the fault's message. -/
structure SameEvents (first second : List Event) : Prop where
  earlier : first.dropLast = second.dropLast
  closing : first.getLast?.map (·.without "error") = second.getLast?.map (·.without "error")

theorem sameEvents_of_settle (settled : pipeline.settle ctx a = pipeline.settle ctx b)
    (only : pipeline.enricher.OnlyRecords) :
    SameEvents ((pipeline.process ctx a span).run supply).events
      ((pipeline.process ctx b span).run supply).events := by
  rw [events_of_onlyRecords only, events_of_onlyRecords only, settled]
  constructor
  · rw [List.dropLast_concat, List.dropLast_concat]
  · rw [List.getLast?_concat, List.getLast?_concat, Option.map_some, Option.map_some,
      closingEvent_without]

theorem spans_of_settle (settled : pipeline.settle ctx a = pipeline.settle ctx b)
    (alike : let value := ((pipeline.settle ctx a).run supply).value
      pipeline.enricher value.ctx (value.report a) =
        pipeline.enricher value.ctx (value.report b)) :
    ((pipeline.process ctx a span).run supply).spans =
      ((pipeline.process ctx b span).run supply).spans := by
  dsimp only at alike
  rw [spans_process, spans_process, enriched, enriched, ← settled, alike]

end Pipeline

namespace Telemetry

variable {a b : Fault}

theorem exceptionAttributes_redacted (a b : Fault) (decision : Sanitization) :
    exceptionAttributes a decision true = exceptionAttributes b decision true := by
  simp only [exceptionAttributes, if_true]

theorem exceptionAttributes_withoutStack (shape : a.SameShape b) (display : a.display = b.display)
    {decision : Sanitization} (withoutStack : decision.includeStackTrace = false)
    (redacted : Bool) :
    exceptionAttributes a decision redacted = exceptionAttributes b decision redacted := by
  have typeName : a.typeName = b.typeName := by
    cases shape with
    | app same => exact same.kind
    | database | remote | timeout | unrecognized => rfl
  unfold exceptionAttributes
  simp only [withoutStack, typeName, display, shape.kindName, Bool.false_eq_true, if_false]

theorem plan_congr (planner : Planner) {settled : Pipeline.Settled}
    (exception : let decision := settled.processed.sanitization
      exceptionAttributes a decision (planner.redacts decision) =
        exceptionAttributes b decision (planner.redacts decision)) :
    planner.plan settled.ctx (settled.report a) = planner.plan settled.ctx (settled.report b) := by
  dsimp only at exception
  simp only [Planner.plan, baseAttributes, Pipeline.Settled.report, exception]

end Telemetry

namespace PipelineBuilder
open Telemetry

variable {builder : PipelineBuilder} {registry : Registry} {a b : Fault}

theorem chosenEnricher_congr (chosen : builder.enricher = none) {settled : Pipeline.Settled}
    (exception : builder.settings.telemetry.enabled = true →
      let planner : Planner := ⟨builder.sanitizer, builder.settings.telemetry.mode⟩
      let decision := settled.processed.sanitization
      exceptionAttributes a decision (planner.redacts decision) =
        exceptionAttributes b decision (planner.redacts decision)) :
    builder.chosenEnricher settled.ctx (settled.report a) =
      builder.chosenEnricher settled.ctx (settled.report b) := by
  unfold chosenEnricher
  rw [chosen]
  cases on : builder.settings.telemetry.enabled with
  | false => rfl
  | true =>
    have planned := plan_congr _ (exception on)
    funext span
    simp only [if_true, Planner.enricher, planned]
    rfl

theorem onlyRecords_chosenEnricher
    (given : ∀ enricher, builder.enricher = some enricher → enricher.OnlyRecords) :
    builder.chosenEnricher.OnlyRecords := by
  unfold chosenEnricher
  cases chosen : builder.enricher with
  | some enricher => exact given enricher chosen
  | none =>
    dsimp only
    split
    next => exact Planner.onlyRecords_enricher _
    next => exact Enricher.onlyRecords_silent

theorem chosenEnricher_of_withholds (builtIns : (builder.assemble registry).UsesBuiltIns)
    (chosen : builder.enricher = none)
    (matching : builder.settings.telemetry.enabled = true →
      builder.settings.telemetry.mode = .matchResponse)
    (withholds : builder.sanitizer.Withholds a) (ctx : RequestContext) (supply : Supply) :
    let value := (((builder.assemble registry).settle ctx a).run supply).value
    builder.chosenEnricher value.ctx (value.report a) =
      builder.chosenEnricher value.ctx (value.report b) := by
  have refused : (builder.assemble registry).sanitizer.allows a = false := withholds.allows
  have decision := (Pipeline.decision_settle builtIns ctx a supply).isRedacted
  rw [refused] at decision
  generalize (((builder.assemble registry).settle ctx a).run supply).value = value at decision ⊢
  refine chosenEnricher_congr chosen fun on => ?_
  have redacts : (Planner.mk builder.sanitizer builder.settings.telemetry.mode).redacts
      value.processed.sanitization = true := by
    rw [matching on]
    exact decision
  dsimp only
  rw [redacts]
  exact exceptionAttributes_redacted a b _

/-- Redacted faults of one shape get the same answer. Unless an enricher is given that does more
than record, they also give the same events but for the message that the closing event of a server
error tells. If the settings choose the enricher, and it is to match the response, the same is
recorded on spans. -/
theorem redacted_noninterference (settings : Settings) (steps : List Step)
    (keep : ∀ step ∈ steps, step.keepsMappers = true) :
    let builder := (new settings).applyAll steps
    ∃ pipeline, (∀ supply, (builder.build.run supply).value = .ok pipeline) ∧
      ∀ ctx span supply a b, a.SameShape b → builder.sanitizer.Withholds a →
        builder.sanitizer.Withholds b →
        let first := (pipeline.process ctx a span).run supply
        let second := (pipeline.process ctx b span).run supply
        pipeline.SameAnswer ctx span supply a b ∧
        ((∀ enricher, builder.enricher = some enricher → enricher.OnlyRecords) →
          Pipeline.SameDemands first second ∧ Pipeline.SameEvents first.events second.events ∧
          (first.value.2.status.isServerError = false → first.events = second.events)) ∧
        (builder.enricher = none →
          (settings.telemetry.enabled = true → settings.telemetry.mode = .matchResponse) →
          first.spans = second.spans) := by
  intro builder
  have defaults : builder.DefaultsOnly := (defaultsOnly_new settings).applyAll keep
  have kept : builder.settings = settings := settings_applyAll steps
  obtain ⟨registry, built, builtIns⟩ := defaults.exists_build
  refine ⟨builder.assemble registry, built, ?_⟩
  intro ctx span supply a b shape refused refused' first second
  have same := Sanitizer.indistinct_of_withholds shape refused refused'
  -- the two runs are the same up to where the enricher and the closing event see the fault
  have settled := Pipeline.settle_indistinct builtIns same ctx
  refine ⟨Pipeline.sameAnswer_of_settle settled, ?_, ?_⟩
  · intro given
    have only : (builder.assemble registry).enricher.OnlyRecords :=
      onlyRecords_chosenEnricher given
    refine ⟨Pipeline.sameDemands_of_settle settled only,
      Pipeline.sameEvents_of_settle settled only, ?_⟩
    intro rejection
    simp only [first, second, Pipeline.value_process, Pipeline.events_of_onlyRecords only]
      at rejection ⊢
    rw [Pipeline.closingEvent_of_not_serverError _ rejection, settled]
  · intro chosen matching
    rw [← kept] at matching
    exact Pipeline.spans_of_settle settled
      (chosenEnricher_of_withholds builtIns chosen matching refused ctx supply)

def declined (detail cause : String) : Fault :=
  .app (.custom ⟨"PaymentDeclined", ⟨"PAYMENT_DECLINED", "Payment declined", none⟩, some detail,
    true, some ⟨402, by decide⟩, "payment", detail, [cause]⟩)

def checkout : RequestContext := .start "4bf92f3577b34da6a3ce929d0e0e4736" (by decide) "/checkout"

def repeatedDigits : Supply := fun n =>
  ⟨.replicate 32 ⟨n % 16, Nat.mod_lt n (by decide)⟩⟩

def cautious : List Step :=
  [.predicate fun _ => false, .validator fun key _ => key != "transient"]

theorem redacted_noninterference_declined :
    ∃ pipeline,
      ((((new .default).applyAll cautious).build).run repeatedDigits).value = .ok pipeline ∧
      let first := (pipeline.process checkout (declined "card 4929" "vault sealed") .enabled).run
        repeatedDigits
      let second := (pipeline.process checkout (declined "card 5105" "issuer down") .enabled).run
        repeatedDigits
      first.value = second.value ∧ first.events = second.events ∧ first.spans = second.spans := by
  obtain ⟨pipeline, built, alike⟩ := redacted_noninterference .default cautious (by decide)
  have shape :
      (declined "card 4929" "vault sealed").SameShape (declined "card 5105" "issuer down") :=
    .app ⟨rfl, rfl, rfl, rfl, rfl⟩
  have withholds (detail cause : String) :
      ((new .default).applyAll cautious).sanitizer.Withholds (declined detail cause) := by
    refine ⟨by decide, ?_, fun _ given => by cases given; rfl⟩
    show ∀ safe ∈ SanitizerSettings.default.safeKinds, Text.sameIgnoringCase safe "payment" = false
    decide
  have rejection : ((pipeline.process checkout (declined "card 4929" "vault sealed") .enabled).run
      repeatedDigits).value.2.status.isServerError = false := by
    have made : pipeline = ((new .default).applyAll cautious).assemble _ :=
      Except.ok.inj ((built repeatedDigits).symm.trans (value_build rfl repeatedDigits))
    rw [made]
    rfl
  obtain ⟨answer, journal, spans⟩ := alike checkout .enabled repeatedDigits _ _ shape
    (withholds _ _) (withholds _ _)
  obtain ⟨-, -, events⟩ := journal fun _ given => by cases given
  exact ⟨pipeline, built _, answer.processed, events rejection, spans rfl fun _ => rfl⟩

/-- The errors behind a fault change nothing of the answer, whatever may be disclosed, and nothing
of the events unless an enricher is given that does more than record. If the settings choose the
enricher, they show on spans only along with stack traces. -/
theorem causes_noninterference (settings : Settings) (steps : List Step)
    (keep : ∀ step ∈ steps, step.keepsMappers = true) :
    let builder := (new settings).applyAll steps
    ∃ pipeline, (∀ supply, (builder.build.run supply).value = .ok pipeline) ∧
      ∀ ctx span supply a b, a.SameShape b → a.SameText b →
        (∀ accepts, builder.predicate = some accepts → accepts a = accepts b) →
        let first := (pipeline.process ctx a span).run supply
        let second := (pipeline.process ctx b span).run supply
        pipeline.SameAnswer ctx span supply a b ∧
        ((∀ enricher, builder.enricher = some enricher → enricher.OnlyRecords) →
          Pipeline.SameDemands first second ∧ first.events = second.events) ∧
        (builder.enricher = none → first.value.2.sanitization.includeStackTrace = false →
          first.spans = second.spans) := by
  intro builder
  have defaults : builder.DefaultsOnly := (defaultsOnly_new settings).applyAll keep
  obtain ⟨registry, built, builtIns⟩ := defaults.exists_build
  refine ⟨builder.assemble registry, built, ?_⟩
  intro ctx span supply a b shape text agrees first second
  have same : builder.sanitizer.Indistinct a b :=
    Sanitizer.indistinct_of_sameText shape text agrees
  have settled := Pipeline.settle_indistinct builtIns same ctx
  refine ⟨Pipeline.sameAnswer_of_settle settled, ?_, ?_⟩
  · intro given
    have only : (builder.assemble registry).enricher.OnlyRecords :=
      onlyRecords_chosenEnricher given
    refine ⟨Pipeline.sameDemands_of_settle settled only, ?_⟩
    simp only [first, second, Pipeline.events_of_onlyRecords only, settled]
    rw [Pipeline.closingEvent_of_display _ _ text.display]
  · intro chosen withoutStack
    simp only [first, Pipeline.value_process] at withoutStack
    refine Pipeline.spans_of_settle settled (chosenEnricher_congr chosen fun _ => ?_)
    exact exceptionAttributes_withoutStack shape text.display withoutStack _

def verbose : Settings :=
  { Settings.default with
    environment := { EnvironmentSettings.default with name := "local" }
    sanitizer := { SanitizerSettings.default with includeStackTraceInDevelopment := false } }

def fullDisk : Report := ⟨"save failed", ["disk full"], none⟩

def tracedSave : Report := ⟨"save failed", [], some "0: save"⟩

theorem causes_noninterference_verbose :
    ∃ pipeline, (((new verbose).build).run repeatedDigits).value = .ok pipeline ∧
      let first := pipeline.process checkout (.unrecognized fullDisk) .enabled
      let second := pipeline.process checkout (.unrecognized tracedSave) .enabled
      (first.run repeatedDigits).value = (second.run repeatedDigits).value ∧
        (first.run repeatedDigits).events = (second.run repeatedDigits).events ∧
        (first.run repeatedDigits).spans = (second.run repeatedDigits).spans := by
  obtain ⟨pipeline, built, alike⟩ := causes_noninterference verbose [] (by decide)
  have withoutStack : ((pipeline.process checkout (.unrecognized fullDisk) .enabled).run
      repeatedDigits).value.2.sanitization.includeStackTrace = false := by
    have made : pipeline = (new verbose).assemble _ :=
      Except.ok.inj ((built repeatedDigits).symm.trans (value_build rfl repeatedDigits))
    rw [made]
    rfl
  obtain ⟨answer, journal, spans⟩ := alike checkout .enabled repeatedDigits _ _
    (.unrecognized fullDisk tracedSave) ⟨rfl, rfl, rfl⟩
    (fun _ given => by cases given)
  obtain ⟨-, events⟩ := journal fun _ given => by cases given
  exact ⟨pipeline, built _, answer.processed, events, spans rfl withoutStack⟩

end PipelineBuilder
end Faultline
