import Faultline.Proofs.Pipeline.Assembly

/-!
What a sequence of calls on a pipeline builder comes to: the mappers in the order in which they were
added, and of each setting the last value given. Main statement: nothing else of the calls counts
for the pipeline, and in it a built-in mapper gives way to a mapper of higher priority only.
-/

namespace Faultline

/-- A fault is accepted by one of the built-in primary mappers at most. -/
theorem Registration.defaults_disjoint {sanitizer : Sanitizer} {classifier : Classifier}
    {fault : Fault} {r s : Registration} (first : r ∈ defaults sanitizer classifier)
    (accepted : Registry.acceptsFirst fault r = true) (second : s ∈ defaults sanitizer classifier)
    (alike : Registry.acceptsFirst fault s = true) : r = s := by
  have single :
      ((defaults sanitizer classifier).filter (Registry.acceptsFirst fault)).length ≤ 1 := by
    cases fault with
    | app error => cases error <;> exact Nat.le_of_ble_eq_true rfl
    | database | remote | timeout | unrecognized => exact Nat.le_of_ble_eq_true rfl
  have here := List.mem_filter.2 ⟨first, accepted⟩
  have there := List.mem_filter.2 ⟨second, alike⟩
  match shape : (defaults sanitizer classifier).filter (Registry.acceptsFirst fault) with
  | [] => simp [shape] at here
  | [only] =>
    rw [shape, List.mem_singleton] at here there
    rw [here, there]
  | _ :: _ :: _ => simp [shape] at single

namespace PipelineBuilder

namespace Step

def registration? : Step → Option (Sanitizer → Registration)
  | mapper priority make => some fun sanitizer => .primary (make sanitizer) priority
  | fallbackMapper priority make => some fun sanitizer => .fallback (make sanitizer) priority
  | registration given => some fun _ => given
  | _ => none

def addsFallback : Step → Bool
  | fallbackMapper .. => true
  | registration given => given.isFallback
  | _ => false

def dropsDefaults : Step → Bool
  | withoutDefaults => true
  | _ => false

def classifier? : Step → Option Classifier
  | classifier given => some given
  | _ => none

def predicate? : Step → Option (Fault → Bool)
  | predicate given => some given
  | _ => none

def validator? : Step → Option (String → Json → Bool)
  | validator given => some given
  | _ => none

def enricher? : Step → Option Telemetry.Enricher
  | enricher given => some given
  | _ => none

theorem addsFallback_iff (step : Step) (sanitizer : Sanitizer) :
    step.addsFallback = true ↔
      ∃ make, step.registration? = some make ∧ (make sanitizer).isFallback = true := by
  cases step <;> simp [addsFallback, registration?, Registration.primary, Registration.fallback]

end Step

def lastGiven {α : Type} (given? : Step → Option α) (steps : List Step) : Option α :=
  (steps.filterMap given?).getLast?

theorem lastGiven_cons {α : Type} (given? : Step → Option α) (step : Step) (rest : List Step) :
    lastGiven given? (step :: rest) = (lastGiven given? rest).or (given? step) := by
  unfold lastGiven
  rw [List.filterMap_cons]
  cases given? step with
  | none => simp
  | some value =>
    rw [List.getLast?_cons]
    cases (rest.filterMap given?).getLast? <;> rfl

/-- What a sequence of calls comes to. -/
structure Choices where
  dropsDefaults : Bool
  classifier : Option Classifier
  predicate : Option (Fault → Bool)
  validator : Option (String → Json → Bool)
  enricher : Option Telemetry.Enricher
  registrations : List (Sanitizer → Registration)

namespace Choices

def of (steps : List Step) : Choices where
  dropsDefaults := steps.any Step.dropsDefaults
  classifier := lastGiven Step.classifier? steps
  predicate := lastGiven Step.predicate? steps
  validator := lastGiven Step.validator? steps
  enricher := lastGiven Step.enricher? steps
  registrations := steps.filterMap Step.registration?

variable (settings : Settings) (choices : Choices)

def sanitizer : Sanitizer :=
  ⟨settings.sanitizer, .ofSettings settings.environment, choices.predicate⟩

def builtIn : List Registration :=
  if choices.dropsDefaults then []
  else Registration.defaults (choices.sanitizer settings)
    (choices.classifier.getD Classification.sqlServer)

def added : List Registration :=
  choices.registrations.map fun make => make (choices.sanitizer settings)

def enricherOr : Telemetry.Enricher :=
  choices.enricher.getD
    (if settings.telemetry.enabled then
      Telemetry.Planner.enricher ⟨choices.sanitizer settings, settings.telemetry.mode⟩
    else Telemetry.Enricher.silent)

end Choices

def choose (builder : PipelineBuilder) (choices : Choices) : PipelineBuilder where
  settings := builder.settings
  includeDefaults := builder.includeDefaults && !choices.dropsDefaults
  classifier := choices.classifier.getD builder.classifier
  predicate := choices.predicate.or builder.predicate
  validator := choices.validator.or builder.validator
  enricher := choices.enricher.or builder.enricher
  registrations := builder.registrations ++ choices.registrations

theorem choose_cons (builder : PipelineBuilder) (step : Step) (rest : List Step) :
    builder.choose (.of (step :: rest)) = (builder.apply step).choose (.of rest) := by
  cases step <;>
    simp [choose, Choices.of, lastGiven_cons, apply, register, Step.registration?,
      Step.dropsDefaults, Step.classifier?, Step.predicate?, Step.validator?, Step.enricher?,
      List.filterMap_cons]

theorem applyAll_eq_choose (builder : PipelineBuilder) (steps : List Step) :
    builder.applyAll steps = builder.choose (.of steps) := by
  induction steps generalizing builder with
  | nil => simp [applyAll, choose, Choices.of, lastGiven]
  | cons step rest ih =>
    rw [choose_cons]
    exact ih (builder.apply step)

section New

variable (settings : Settings) (choices : Choices)

theorem sanitizer_choose :
    ((new settings).choose choices).sanitizer = choices.sanitizer settings := by
  simp [PipelineBuilder.sanitizer, choose, new, Choices.sanitizer]

theorem table_choose :
    ((new settings).choose choices).table = choices.builtIn settings ++ choices.added settings := by
  unfold table Choices.builtIn Choices.added
  rw [sanitizer_choose]
  cases dropped : choices.dropsDefaults <;> simp [choose, new, dropped]

theorem limits_choose :
    ((new settings).choose choices).limits = settings.limits.withValidator choices.validator := by
  simp [PipelineBuilder.limits, choose, new]

theorem chosenEnricher_choose :
    ((new settings).choose choices).chosenEnricher = choices.enricherOr settings := by
  unfold chosenEnricher Choices.enricherOr
  rw [sanitizer_choose]
  cases given : choices.enricher <;> simp [choose, new, given]

end New

theorem Choices.dropsDefaults_iff {steps : List Step} :
    (of steps).dropsDefaults = true ↔ Step.withoutDefaults ∈ steps := by
  simp only [of, List.any_eq_true]
  constructor
  · rintro ⟨step, member, drops⟩
    cases step with
    | withoutDefaults => exact member
    | _ => cases drops
  · exact fun member => ⟨_, member, rfl⟩

theorem Choices.lacksFallback_iff (settings : Settings) (steps : List Step) :
    (∀ r ∈ (of steps).builtIn settings ++ (of steps).added settings, r.isFallback = false) ↔
      Step.withoutDefaults ∈ steps ∧ ∀ step ∈ steps, step.addsFallback = false := by
  have customs : (∀ r ∈ (of steps).added settings, r.isFallback = false) ↔
      ∀ step ∈ steps, step.addsFallback = false := by
    simp only [added, of, List.forall_mem_map, List.mem_filterMap, ← Bool.not_eq_true,
      Step.addsFallback_iff _ ((of steps).sanitizer settings)]
    constructor
    · rintro none step member ⟨make, adds, fallback⟩
      exact none make ⟨step, member, adds⟩ fallback
    · rintro none make ⟨step, member, adds⟩ fallback
      exact none step member ⟨make, adds, fallback⟩
  rw [List.forall_mem_append, customs, ← dropsDefaults_iff, builtIn]
  cases (of steps).dropsDefaults with
  | true => simp
  | false =>
    obtain ⟨r, member, fallback⟩ := Registration.exists_fallback_defaults
      ((of steps).sanitizer settings) ((of steps).classifier.getD Classification.sqlServer)
    simp only [Bool.false_eq_true, if_false, false_and, iff_false]
    rintro ⟨none, -⟩
    exact absurd (none r member) (by simp [fallback])

/-- The pipeline has the mappers, the limits and the enricher of these choices, all under the one
sanitizer. -/
structure Choices.Describes (choices : Choices) (settings : Settings) (pipeline : Pipeline) :
    Prop where
  sanitizer : pipeline.sanitizer = choices.sanitizer settings
  registry : Registry.ofList (choices.builtIn settings ++ choices.added settings) =
    .ok pipeline.registry
  limits : pipeline.limits = settings.limits.withValidator choices.validator
  enricher : pipeline.enricher = choices.enricherOr settings
  /-- A built-in primary mapper answers what it accepts, except to one of higher priority. -/
  outranked : ∀ fault, ∀ r ∈ choices.builtIn settings, Registry.acceptsFirst fault r = true →
    pipeline.registry.tryResolve fault = some r.mapper ∨
      ∃ s ∈ choices.added settings, Registry.acceptsFirst fault s = true ∧
        r.priority < s.priority ∧ pipeline.registry.tryResolve fault = some s.mapper

theorem Choices.Describes.mapperFor_builtIn {choices : Choices} {settings : Settings}
    {pipeline : Pipeline} (describes : choices.Describes settings pipeline) {fault : Fault}
    {r : Registration} (member : r ∈ choices.builtIn settings)
    (accepted : Registry.acceptsFirst fault r = true)
    (unrivalled : ∀ s ∈ choices.added settings, Registry.acceptsFirst fault s = true →
      s.priority ≤ r.priority) : pipeline.registry.mapperFor fault = r.mapper := by
  unfold Registry.mapperFor
  rcases describes.outranked fault r member accepted with
    answers | ⟨s, added, accepts, higher, -⟩
  · rw [answers, Option.getD_some]
  · exact absurd (unrivalled s added accepts) (Int.not_le.2 higher)

open Registry Registration in
theorem Choices.tryResolve_builtIn {settings : Settings} {choices : Choices} {registry : Registry}
    (made : ofList (choices.builtIn settings ++ choices.added settings) = .ok registry)
    {fault : Fault} {r : Registration} (member : r ∈ choices.builtIn settings)
    (accepted : acceptsFirst fault r = true) :
    registry.tryResolve fault = some r.mapper ∨
      ∃ s ∈ choices.added settings, acceptsFirst fault s = true ∧
        r.priority < s.priority ∧ registry.tryResolve fault = some s.mapper := by
  obtain ⟨s, chosen⟩ : ∃ s, IsFirstOfHighest (acceptsFirst fault)
      (choices.builtIn settings ++ choices.added settings) s := by
    have listed := List.mem_append_left (choices.added settings) member
    cases found : registry.primary.find? (·.mapper.canHandle fault) with
    | some s => exact ⟨s, (find?_primary made fault s).1 found⟩
    | none =>
      have refused := (find?_primary_eq_none made fault).1 found r listed
      rw [accepted] at refused
      cases refused
  have answers := ((resolves_of_ofList made fault).found _).2 (.inl ⟨s, chosen, rfl⟩)
  rcases isChosen_append.1 chosen with ⟨inside, -⟩ | ⟨inside, higher⟩
  -- the one chosen is built in, and then the only one of these that accepts the fault, or added
  · have same : s = r := by
      unfold builtIn at member inside
      split at member
      next => cases member
      next kept =>
        rw [if_neg kept] at inside
        exact defaults_disjoint inside.mem inside.accepted member accepted
    exact .inl (same ▸ answers)
  · exact .inr ⟨s, inside.mem, inside.accepted, higher r member accepted, answers⟩

section Calls

variable (settings : Settings) (steps : List Step)

theorem value_build_applyAll (supply : Supply) :
    let choices := Choices.of steps
    ((((new settings).applyAll steps).build).run supply).value =
      (Registry.ofList (choices.builtIn settings ++ choices.added settings)).map
        ((new settings).choose choices).assemble := by
  intro choices
  rw [value_build_eq, applyAll_eq_choose, table_choose]

theorem Choices.describes_assemble (choices : Choices) {registry : Registry}
    (made : Registry.ofList (choices.builtIn settings ++ choices.added settings) = .ok registry) :
    choices.Describes settings (((new settings).choose choices).assemble registry) where
  sanitizer := sanitizer_choose settings choices
  registry := made
  limits := limits_choose settings choices
  enricher := chosenEnricher_choose settings choices
  outranked _ _ member accepted := tryResolve_builtIn made member accepted

theorem Choices.exists_describes
    (usable : ¬(Step.withoutDefaults ∈ steps ∧ ∀ step ∈ steps, step.addsFallback = false)) :
    ∃ pipeline,
      (∀ supply, (((new settings).applyAll steps).build.run supply).value = .ok pipeline) ∧
        (of steps).Describes settings pipeline := by
  cases made : Registry.ofList ((of steps).builtIn settings ++ (of steps).added settings) with
  | error e =>
    cases e
    exact absurd ((lacksFallback_iff settings steps).1 (Registry.ofList_eq_error_iff.1 made)) usable
  | ok registry =>
    refine ⟨_, fun supply => ?_, (of steps).describes_assemble settings made⟩
    rw [value_build_applyAll, made]
    rfl

theorem build_congr {steps others : List Step} (same : Choices.of others = Choices.of steps) :
    ((new settings).applyAll others).build = ((new settings).applyAll steps).build := by
  rw [applyAll_eq_choose, applyAll_eq_choose, same]

end Calls

/-- A pipeline is refused only for want of a fallback mapper. Any other is described by what the
calls come to, so calls that come to the same make pipelines that treat every fault alike, down to
the identifiers and the journal. -/
theorem build_of_choices (settings : Settings) (steps : List Step) :
    let choices := Choices.of steps
    let build := ((new settings).applyAll steps).build
    let lacking := Step.withoutDefaults ∈ steps ∧ ∀ step ∈ steps, step.addsFallback = false
    (∀ supply, (build.run supply).value = .error .noFallback ↔ lacking) ∧
    (¬lacking → ∃ pipeline, (∀ supply, (build.run supply).value = .ok pipeline) ∧
      choices.Describes settings pipeline) ∧
    ∀ others, Choices.of others = choices →
      let rebuild := ((new settings).applyAll others).build
      rebuild = build ∧ ∀ first second pipeline other,
        (build.run first).value = .ok pipeline → (rebuild.run second).value = .ok other →
        ∀ ctx fault span, other.process ctx fault span = pipeline.process ctx fault span := by
  intro choices build lacking
  have refused : Registry.ofList (choices.builtIn settings ++ choices.added settings) =
      .error .noFallback ↔ lacking :=
    Registry.ofList_eq_error_iff.trans (Choices.lacksFallback_iff settings steps)
  have value (supply : Supply) : (build.run supply).value = _ :=
    value_build_applyAll settings steps supply
  refine ⟨?_, ?_, ?_⟩
  · intro supply
    rw [value, ← refused]
    cases Registry.ofList (choices.builtIn settings ++ choices.added settings) <;>
      simp [Except.map]
  · exact Choices.exists_describes settings steps
  · intro others same rebuild
    have rebuilt : rebuild = build := build_congr settings same
    refine ⟨rebuilt, ?_⟩
    intro first second pipeline other here there ctx fault span
    rw [rebuilt, value, ← value first, here] at there
    cases there
    rfl

def maintenance : Step :=
  .mapper 450 (Mapper.constant "maintenance" (fun _ => true) (.new .conflict "Maintenance" ""))

theorem build_of_choices_maintenance :
    let redact := Step.predicate fun _ => false
    let first := ((new .default).applyAll [maintenance, redact]).build
    let last := ((new .default).applyAll [.predicate fun _ => true, redact, maintenance]).build
    let none := ((new .default).applyAll [maintenance, .withoutDefaults]).build
    ∀ supply, (none.run supply).value = .error .noFallback ∧
      ∃ pipeline other, (first.run supply).value = .ok pipeline ∧
        (last.run supply).value = .ok other ∧
        (∀ ctx fault span, other.process ctx fault span = pipeline.process ctx fault span) ∧
        pipeline.registry.tryResolve (.database 1205 "deadlock") =
          some ((BuiltInMapper.database Classification.sqlServer).toMapper pipeline.sanitizer) := by
  intro redact first last none supply
  obtain ⟨error, -⟩ := build_of_choices .default [maintenance, .withoutDefaults]
  obtain ⟨-, made, same⟩ := build_of_choices .default [maintenance, redact]
  obtain ⟨-, remade, -⟩ :=
    build_of_choices .default [.predicate fun _ => true, redact, maintenance]
  obtain ⟨pipeline, built, describes⟩ := made (by simp [maintenance, redact])
  obtain ⟨other, rebuilt, -⟩ := remade (by simp [maintenance, redact])
  obtain ⟨-, alike⟩ := same [.predicate fun _ => true, redact, maintenance] rfl
  refine ⟨(error supply).2 (by simp [maintenance, Step.addsFallback]), pipeline, other,
    built supply, rebuilt supply,
    alike supply supply pipeline other (built supply) (rebuilt supply), ?_⟩
  have member : Registration.primary
      ((BuiltInMapper.database Classification.sqlServer).toMapper pipeline.sanitizer) 450 ∈
        (Choices.of [maintenance, redact]).builtIn .default := by
    rw [describes.sanitizer]
    exact List.mem_of_getElem? (i := 5) rfl
  rcases describes.outranked (.database 1205 "deadlock") _ member rfl with
    answers | ⟨s, added, -, higher, -⟩
  · exact answers
  · rw [show (Choices.of [maintenance, redact]).added .default = [_] from rfl,
      List.mem_singleton] at added
    subst added
    exact absurd higher (Int.lt_irrefl 450)

end PipelineBuilder
end Faultline
