import Faultline.Proofs.Pipeline.Answer
import Faultline.Proofs.Pipeline.Choices
import Faultline.Proofs.Pipeline.Quiet

/-!
The alarms of one handled failure. Main statement: which warnings and errors a pipeline raises, in
which order and with nothing else, and that with the built-in mappers some mapper accepts every
fault.
-/

namespace Faultline

/-- The event if the condition holds, and otherwise nothing. -/
inductive EventIf (condition : Prop) (event : Event) : List Event → Prop where
  | raised (met : condition) : EventIf condition event [event]
  | spared (unmet : ¬condition) : EventIf condition event []

theorem EventIf.eq_singleton {condition : Prop} {event : Event} {alarms : List Event}
    (eventIf : EventIf condition event alarms) (met : condition) : alarms = [event] := by
  cases eventIf with
  | raised => rfl
  | spared unmet => exact absurd met unmet

theorem EventIf.eq_nil {condition : Prop} {event : Event} {alarms : List Event}
    (eventIf : EventIf condition event alarms) (unmet : ¬condition) : alarms = [] := by
  cases eventIf with
  | raised met => exact absurd met unmet
  | spared => rfl

theorem eventIf_false (given : Bool) (event : Event) :
    EventIf (given = false) event (if given then [] else [event]) := by
  cases given with
  | true => exact .spared Bool.noConfusion
  | false => exact .raised rfl

namespace Registry

variable (registry : Registry) (fault : Fault)

def Refuses : Prop := ∀ mapper ∈ registry.mappers, mapper.canHandle fault = false

def unresolved : Event :=
  ⟨.error, "no registered mapper accepts this fault; using lowest-priority fallback",
    [("kind", .text fault.kindName), ("mapper", .text registry.lastResort.name)]⟩

theorem tryResolve_eq_none_iff_refuses :
    registry.tryResolve fault = none ↔ registry.Refuses fault := by
  unfold tryResolve Refuses
  simp only [List.find?_eq_none, Bool.not_eq_true]

variable {registry fault}

theorem mapperFor_of_refuses (refuses : registry.Refuses fault) :
    registry.mapperFor fault = registry.lastResort := by
  rw [mapperFor, (registry.tryResolve_eq_none_iff_refuses fault).2 refuses, Option.getD_none]

theorem canHandle_mapperFor_iff :
    (registry.mapperFor fault).canHandle fault = false ↔ registry.Refuses fault := by
  constructor
  · intro refused
    rw [← tryResolve_eq_none_iff_refuses]
    cases found : registry.tryResolve fault with
    | none => rfl
    | some mapper =>
      have accepts : mapper.canHandle fault = true :=
        List.find?_some (p := fun mapper : Mapper => mapper.canHandle fault) found
      rw [mapperFor, found, Option.getD_some, accepts] at refused
      cases refused
  · intro refuses
    exact refuses _ (registry.mapperFor_mem fault)

theorem eventIf_resolve (supply : Supply) :
    EventIf (registry.Refuses fault) (registry.unresolved fault)
      ((registry.resolve fault).run supply).alarms := by
  rw [← tryResolve_eq_none_iff_refuses]
  unfold resolve
  cases registry.tryResolve fault with
  | none => exact .raised rfl
  | some mapper => exact .spared (Option.some_ne_none mapper)

end Registry

/-- Nothing is raised but by the classifier that the mapper consults. -/
def Mapper.OnlyConsults (mapper : Mapper) (fault : Fault) (supply : Supply)
    (alarms : List Event) : Prop :=
  alarms = [] ∨ ∃ (origin : BuiltInMapper) (sanitizer : Sanitizer),
    mapper = origin.toMapper sanitizer ∧ alarms = origin.consulted fault supply

theorem Mapper.onlyConsults_of_canHandle {mapper : Mapper} {fault : Fault}
    (known : mapper.IsBuiltIn ∨ mapper.IsSilent) (handled : mapper.canHandle fault = true)
    (ctx : RequestContext) (supply : Supply) :
    mapper.OnlyConsults fault supply ((mapper.map ctx fault).run supply).alarms := by
  rcases known with ⟨origin, sanitizer, rfl⟩ | silent
  · exact .inr ⟨origin, sanitizer, rfl, BuiltInMapper.alarms_of_canHandle handled supply⟩
  · exact .inl (silent ctx fault supply)

/-- Of known mappers only a built-in one warns, if it is the last resort for a fault that no mapper
accepts. -/
theorem Registry.eventIf_of_refuses {registry : Registry} {fault : Fault}
    (known : ∀ mapper ∈ registry.mappers, mapper.IsBuiltIn ∨ mapper.IsSilent)
    (refuses : registry.Refuses fault) (ctx : RequestContext) (supply : Supply) :
    EventIf (registry.Refuses fault ∧ registry.lastResort.IsBuiltIn)
      (Mapper.misplaced registry.lastResort.name fault)
      (((registry.mapperFor fault).map ctx fault).run supply).alarms := by
  have refused := refuses _ registry.lastResort_mem
  rw [mapperFor_of_refuses refuses]
  by_cases builtIn : registry.lastResort.IsBuiltIn
  · have both : registry.Refuses fault ∧ registry.lastResort.IsBuiltIn := ⟨refuses, builtIn⟩
    obtain ⟨origin, sanitizer, same⟩ := builtIn
    have warned : ((registry.lastResort.map ctx fault).run supply).alarms =
        [Mapper.misplaced registry.lastResort.name fault] := by
      rw [same] at refused ⊢
      exact BuiltInMapper.alarms_of_not_canHandle refused supply
    exact warned ▸ .raised both
  · have silent := (known _ registry.lastResort_mem).resolve_left builtIn
    exact silent ctx fault supply ▸ .spared fun both => builtIn both.2

theorem Registry.canHandle_of_not_refuses {registry : Registry} {fault : Fault}
    (accepted : ¬registry.Refuses fault) : (registry.mapperFor fault).canHandle fault = true := by
  rw [← Bool.not_eq_false, canHandle_mapperFor_iff]
  exact accepted

theorem Registry.alarms_mapperFor {registry : Registry}
    (known : ∀ mapper ∈ registry.mappers, mapper.IsBuiltIn ∨ mapper.IsSilent)
    (ctx : RequestContext) (fault : Fault) (supply : Supply) :
    ∃ misplaced consulted,
      (((registry.mapperFor fault).map ctx fault).run supply).alarms = misplaced ++ consulted ∧
        EventIf (registry.Refuses fault ∧ registry.lastResort.IsBuiltIn)
          (Mapper.misplaced registry.lastResort.name fault) misplaced ∧
        (registry.mapperFor fault).OnlyConsults fault supply consulted := by
  by_cases refuses : registry.Refuses fault
  · exact ⟨_, [], (List.append_nil _).symm, eventIf_of_refuses known refuses ctx supply, .inl rfl⟩
  · exact ⟨[], _, rfl, .spared fun both => refuses both.1, Mapper.onlyConsults_of_canHandle
      (known _ (registry.mapperFor_mem fault)) (canHandle_of_not_refuses refuses) ctx supply⟩

theorem Registry.eventIf_mapperFor {registry : Registry}
    (quiet : ∀ mapper ∈ registry.mappers, mapper.IsQuiet)
    (ctx : RequestContext) (fault : Fault) (supply : Supply) :
    EventIf (registry.Refuses fault ∧ registry.lastResort.IsBuiltIn)
      (Mapper.misplaced registry.lastResort.name fault)
      (((registry.mapperFor fault).map ctx fault).run supply).alarms := by
  by_cases refuses : registry.Refuses fault
  · exact eventIf_of_refuses (fun mapper member => (quiet mapper member).known) refuses ctx supply
  · rw [(quiet _ (registry.mapperFor_mem fault)).alarms_of_canHandle
      (canHandle_of_not_refuses refuses)]
    exact .spared fun both => refuses both.1

theorem PipelineBuilder.Choices.Describes.not_refuses {choices : PipelineBuilder.Choices}
    {settings : Settings} {pipeline : Pipeline} (describes : choices.Describes settings pipeline)
    (kept : choices.dropsDefaults = false) (fault : Fault) :
    ¬pipeline.registry.Refuses fault := by
  intro refuses
  let last := BuiltInMapper.unexpected.toMapper (choices.sanitizer settings)
  have member : last ∈ pipeline.registry.mappers := by
    rw [Registry.mem_mappers describes.registry]
    refine ⟨.fallback last 0, List.mem_append_left _ ?_, rfl⟩
    simp [Choices.builtIn, kept, Registration.defaults, last]
  exact Bool.noConfusion (refuses last member)

namespace Pipeline

def closingFields (ctx : RequestContext) (mapper : String) (sent : Processed) :
    List (String × FieldValue) :=
  [("trace_id", .text ctx.traceId), ("path", .text ctx.path),
    ("error_id", .text sent.reference.errorId), ("error_code", .text sent.reference.errorCode),
    ("status", .integer sent.status.code), ("problem_type", .text sent.problem.typeUri),
    ("mapper", .text mapper)]

/-- The event closes the handling of the fault. Only the failure of a server tells the fault. -/
inductive ClosesWith (ctx : RequestContext) (fault : Fault) (mapper : String) (sent : Processed) :
    Event → Prop where
  | failed (server : 500 ≤ sent.status.code ∧ sent.status.code ≤ 599) :
    ClosesWith ctx fault mapper sent
      ⟨.error, "request failed",
        closingFields ctx mapper sent ++ [("error", .text fault.display)]⟩
  | rejected (other : ¬(500 ≤ sent.status.code ∧ sent.status.code ≤ 599)) :
    ClosesWith ctx fault mapper sent ⟨.warn, "request rejected", closingFields ctx mapper sent⟩

/-- What each of the alarms depends on. Those of the mapper in charge and of the enricher are their
own affair. -/
structure Accounts (pipeline : Pipeline) (ctx : RequestContext) (fault : Fault)
    (span : Telemetry.Span) (supply : Supply) (sent : Processed)
    (unresolved own omitted recorded : List Event) (closing : Event) : Prop where
  unresolved : EventIf (pipeline.registry.Refuses fault) (pipeline.registry.unresolved fault)
    unresolved
  own : own = ((pipeline.answer ctx fault).run supply).alarms
  omitted : EventIf (Headers.isLegalValue ctx.traceId = false)
    (Formatting.omitted sent.reference.errorId) omitted
  recorded : recorded = (pipeline.enriched ctx fault span supply).alarms
  closing : ClosesWith ctx fault (pipeline.registry.mapperFor fault).name sent closing

variable (pipeline : Pipeline) (ctx : RequestContext) (fault : Fault) (span : Telemetry.Span)
  (supply : Supply)

theorem closesWith_closingEvent (mapper : String) (sent : Processed) :
    ClosesWith ctx fault mapper sent (closingEvent ctx fault mapper sent) := by
  have range : sent.status.isServerError = true ↔
      500 ≤ sent.status.code ∧ sent.status.code ≤ 599 := by
    simp only [Status.isServerError, Bool.and_eq_true, decide_eq_true_eq]
  by_cases server : sent.status.isServerError = true
  · simp only [closingEvent, if_pos server]
    exact .failed (range.1 server)
  · simp only [closingEvent, if_neg server, List.append_nil]
    exact .rejected (mt range.2 server)

theorem isAlarm_closingEvent (mapper : String) (sent : Processed) :
    (closingEvent ctx fault mapper sent).isAlarm = true := by
  unfold closingEvent
  cases sent.status.isServerError <;> rfl

theorem alarms_settle :
    let answer := (pipeline.answer ctx fault).run supply
    ((pipeline.settle ctx fault).run supply).alarms =
      ((pipeline.registry.resolve fault).run supply).alarms ++ answer.alarms ++
        if Headers.isLegalValue ctx.traceId then []
        else [Formatting.omitted (Formatting.errorIdOf (supply answer.drawn))] := by
  have resolved : ((pipeline.registry.resolve fault).run supply).value =
      pipeline.registry.mapperFor fault := Registry.value_resolve fault supply
  have drawn := pipeline.registry.drawn_resolve fault supply
  unfold settle answer
  simp only [Recorded.alarms_bind, resolved, drawn, Nat.zero_add, Formatting.alarms_format,
    Recorded.raises_pure _ _, List.append_nil, List.append_assoc, Nat.add_zero]

theorem alarms_process :
    let outcome := (pipeline.process ctx fault span).run supply
    let sent := outcome.value.2
    outcome.alarms =
      ((pipeline.registry.resolve fault).run supply).alarms ++
        ((pipeline.answer ctx fault).run supply).alarms ++
        (if Headers.isLegalValue ctx.traceId then []
          else [Formatting.omitted sent.reference.errorId]) ++
        (pipeline.enriched ctx fault span supply).alarms ++
        [closingEvent ctx fault (pipeline.registry.mapperFor fault).name sent] := by
  have settled := pipeline.value_settle ctx fault supply
  have alarms := pipeline.alarms_settle ctx fault supply
  dsimp only at settled alarms ⊢
  rw [Outcome.alarms, events_process, value_process, List.filter_append, List.filter_append,
    List.filter_cons_of_pos (isAlarm_closingEvent _ _ _ _), ← List.append_assoc]
  dsimp only
  rw [← Outcome.alarms, alarms, settled]
  rfl

theorem accounts_process :
    let outcome := (pipeline.process ctx fault span).run supply
    ∃ unresolved own omitted recorded closing,
      outcome.alarms = unresolved ++ own ++ omitted ++ recorded ++ [closing] ∧
        pipeline.Accounts ctx fault span supply outcome.value.2 unresolved own omitted recorded
          closing :=
  ⟨_, _, _, _, _, pipeline.alarms_process ctx fault span supply, Registry.eventIf_resolve supply,
    rfl, eventIf_false _ _, rfl, closesWith_closingEvent ctx fault _ _⟩

open PipelineBuilder in
/-- The alarms of a handled failure, in order: that no mapper accepts the fault, those of the mapper
in charge, that the trace id is left out, those of the enricher, and the closing one. Where mappers
are known, the one in charge only warns that it is misplaced, and where the pipeline is quiet that
is all. With the built-in mappers no mapper is misplaced: some mapper accepts each fault, whatever
others are added. A pipeline is quiet unless it was given what is not. -/
theorem alarms_of_failure :
    (∀ (pipeline : Pipeline) ctx fault span supply,
      let outcome := (pipeline.process ctx fault span).run supply
      let registry := pipeline.registry
      let last := registry.lastResort
      let warning := Mapper.misplaced last.name fault
      ∃ unresolved own omitted recorded closing,
        outcome.alarms = unresolved ++ own ++ omitted ++ recorded ++ [closing] ∧
          pipeline.Accounts ctx fault span supply outcome.value.2 unresolved own omitted recorded
            closing ∧
          ((∀ mapper ∈ registry.mappers, mapper.IsBuiltIn ∨ mapper.IsSilent) →
            ∃ misplaced consulted, own = misplaced ++ consulted ∧
              EventIf (registry.Refuses fault ∧ last.IsBuiltIn) warning misplaced ∧
              (registry.mapperFor fault).OnlyConsults fault supply consulted) ∧
          (pipeline.IsQuiet → recorded = [] ∧
            EventIf (registry.Refuses fault ∧ last.IsBuiltIn) warning own)) ∧
    ∀ settings steps,
      let build := ((new settings).applyAll steps).build
      ((∀ step ∈ steps, step.IsQuiet) →
        ∀ supply pipeline, (build.run supply).value = .ok pipeline → pipeline.IsQuiet) ∧
      (Step.withoutDefaults ∉ steps →
        ∃ pipeline : Pipeline, (∀ supply, (build.run supply).value = .ok pipeline) ∧
          ∀ ctx fault span supply,
            let outcome := (pipeline.process ctx fault span).run supply
            let asked := pipeline.registry.mapperFor fault
            ∃ own omitted recorded closing,
              outcome.alarms = own ++ omitted ++ recorded ++ [closing] ∧
                pipeline.Accounts ctx fault span supply outcome.value.2 [] own omitted recorded
                  closing ∧
                (asked.IsBuiltIn ∨ asked.IsSilent → asked.OnlyConsults fault supply own) ∧
                (pipeline.IsQuiet → own = [] ∧ recorded = [])) := by
  have silent {pipeline : Pipeline} (quiet : pipeline.IsQuiet) (ctx fault span supply) :
      (pipeline.enriched ctx fault span supply).alarms = [] := quiet.enricher _ _ _ _
  constructor
  · intro pipeline ctx fault span supply outcome registry last warning
    obtain ⟨unresolved, own, omitted, recorded, closing, alarms, accounts⟩ :=
      pipeline.accounts_process ctx fault span supply
    refine ⟨unresolved, own, omitted, recorded, closing, alarms, accounts, fun known => ?_,
      fun quiet => ⟨?_, ?_⟩⟩
    · rw [accounts.own]
      exact Registry.alarms_mapperFor known ctx fault supply
    · rw [accounts.recorded]
      exact silent quiet ctx fault span supply
    · rw [accounts.own]
      exact Registry.eventIf_mapperFor quiet.mappers ctx fault supply
  · intro settings steps build
    refine ⟨fun given supply pipeline built => isQuiet_of_build given built, fun kept => ?_⟩
    obtain ⟨pipeline, built, describes⟩ := Choices.exists_describes settings steps
      fun lacking => kept lacking.1
    refine ⟨pipeline, built, ?_⟩
    intro ctx fault span supply outcome asked
    -- the last built-in mapper accepts every fault
    have accepted : ¬pipeline.registry.Refuses fault := by
      refine describes.not_refuses ?_ fault
      rw [← Bool.not_eq_true, Choices.dropsDefaults_iff]
      exact kept
    have handled : asked.canHandle fault = true := Registry.canHandle_of_not_refuses accepted
    obtain ⟨unresolved, own, omitted, recorded, closing, alarms, accounts⟩ :=
      pipeline.accounts_process ctx fault span supply
    obtain rfl : unresolved = [] := accounts.unresolved.eq_nil accepted
    refine ⟨own, omitted, recorded, closing, alarms, accounts, fun known => ?_,
      fun quiet => ⟨?_, ?_⟩⟩
    · rw [accounts.own]
      exact Mapper.onlyConsults_of_canHandle known handled ctx supply
    · rw [accounts.own]
      exact (Registry.eventIf_mapperFor quiet.mappers ctx fault supply).eq_nil
        fun both => accepted both.1
    · rw [accounts.recorded]
      exact silent quiet ctx fault span supply

def narrow : Pipeline where
  registry := ⟨[], [.fallback (BuiltInMapper.validation.toMapper ⟨.default, .production, none⟩) 0],
    List.cons_ne_nil _ _⟩
  limits := .default
  enricher := .silent
  sanitizer := ⟨.default, .production, none⟩

theorem alarms_of_failure_narrow :
    let ctx : RequestContext := .start "7f3a\n9c" (by decide) "/stock"
    let outcome := (narrow.process ctx (.timeout "GET /stock" ⟨2, 0⟩) .disabled).run
      fun _ => ⟨.replicate 32 5⟩
    outcome.alarms.map (fun event => (event.level, event.message)) =
      [(.error, "no registered mapper accepts this fault; using lowest-priority fallback"),
        (.warn,
          "mapper invoked with a fault it cannot handle; answering with an unexpected-error problem"),
        (.warn, "trace id is not a valid header value; x-trace-id omitted"),
        (.error, "request failed")] := by
  intro ctx outcome
  obtain ⟨unresolved, own, omitted, recorded, closing, alarms, accounts, -, quiet⟩ :=
    alarms_of_failure.1 narrow ctx (.timeout "GET /stock" ⟨2, 0⟩) .disabled
      fun _ => ⟨.replicate 32 5⟩
  have builtIn : narrow.registry.lastResort.IsBuiltIn := ⟨.validation, _, rfl⟩
  have single {mapper : Mapper} (member : mapper ∈ narrow.registry.mappers) :
      mapper = narrow.registry.lastResort := List.mem_singleton.1 member
  have refuses : narrow.registry.Refuses (.timeout "GET /stock" ⟨2, 0⟩) := by
    intro mapper member
    rw [single member]
    rfl
  obtain ⟨none, second⟩ := quiet {
    mappers := fun mapper member => .inr ⟨.validation, _, single member, trivial⟩
    enricher := Telemetry.Enricher.onlyRecords_silent.isSilent }
  have third := accounts.omitted.eq_singleton (by decide +kernel)
  have last := accounts.closing
  show List.map _ (Outcome.alarms _) = _
  rw [alarms, none, accounts.unresolved.eq_singleton refuses,
    second.eq_singleton ⟨refuses, builtIn⟩, third]
  cases last with
  | rejected other => exact absurd (by decide +kernel) other
  | failed => rfl

end Pipeline
end Faultline
