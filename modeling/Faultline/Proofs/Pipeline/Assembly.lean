import Faultline.Pipeline.Assembly
import Faultline.Proofs.Mapper.Resolution

/-!
What the calls on a pipeline builder leave as it was, and the pipelines that use the built-in
mappers only.
-/

namespace Faultline

theorem Registration.mem_defaults {sanitizer : Sanitizer} {classifier : Classifier}
    {r : Registration} (member : r ∈ defaults sanitizer classifier) :
    ∃ builtIn : BuiltInMapper, r.mapper = builtIn.toMapper sanitizer ∧
      ∀ own, builtIn = .database own → own = classifier := by
  simp only [defaults, List.mem_cons, List.not_mem_nil, or_false] at member
  rcases member with rfl | rfl | rfl | rfl | rfl | rfl | rfl | rfl | rfl | rfl <;>
    exact ⟨_, rfl, fun _ same => by cases same <;> rfl⟩

theorem Registration.exists_fallback_defaults (sanitizer : Sanitizer) (classifier : Classifier) :
    ∃ r ∈ defaults sanitizer classifier, r.isFallback = true :=
  ⟨.fallback (BuiltInMapper.unexpected.toMapper sanitizer) 0, by simp [defaults], rfl⟩

def Pipeline.UsesBuiltIns (pipeline : Pipeline) : Prop :=
  ∀ mapper ∈ pipeline.registry.mappers,
    ∃ builtIn : BuiltInMapper, mapper = builtIn.toMapper pipeline.sanitizer

namespace PipelineBuilder

def Step.keepsMappers : Step → Bool
  | .mapper .. | .fallbackMapper .. | .registration _ | .withoutDefaults => false
  | .classifier _ | .predicate _ | .validator _ | .enricher _ => true

variable {builder : PipelineBuilder}

structure DefaultsOnly (builder : PipelineBuilder) : Prop where
  includeDefaults : builder.includeDefaults = true
  registrations : builder.registrations = []

theorem defaultsOnly_new (settings : Settings) : (new settings).DefaultsOnly := ⟨rfl, rfl⟩

theorem DefaultsOnly.apply (defaults : builder.DefaultsOnly) {step : Step}
    (keeps : step.keepsMappers = true) : (builder.apply step).DefaultsOnly := by
  cases step with
  | classifier | predicate | validator | enricher =>
    exact ⟨defaults.includeDefaults, defaults.registrations⟩
  | mapper | fallbackMapper | registration | withoutDefaults => cases keeps

theorem DefaultsOnly.applyAll (defaults : builder.DefaultsOnly) {steps : List Step}
    (keep : ∀ step ∈ steps, step.keepsMappers = true) : (builder.applyAll steps).DefaultsOnly := by
  induction steps generalizing builder with
  | nil => exact defaults
  | cons step rest ih =>
    exact ih (defaults.apply (keep step List.mem_cons_self))
      fun later member => keep later (List.mem_cons_of_mem _ member)

theorem settings_apply (step : Step) : (builder.apply step).settings = builder.settings := by
  cases step <;> rfl

theorem settings_applyAll (steps : List Step) :
    (builder.applyAll steps).settings = builder.settings := by
  induction steps generalizing builder with
  | nil => rfl
  | cons step rest ih => exact ih.trans (settings_apply step)

def assemble (builder : PipelineBuilder) (registry : Registry) : Pipeline :=
  ⟨registry, builder.limits, builder.chosenEnricher, builder.sanitizer⟩

theorem value_build_eq (supply : Supply) :
    (builder.build.run supply).value = (Registry.ofList builder.table).map builder.assemble := by
  unfold build Registry.build
  cases Registry.ofList builder.table with
  | error e => simp only [pure_bind, Recorded.run_pure, Except.map]
  | ok registry =>
    simp only [bind_assoc, pure_bind, Recorded.run_bind, Recorded.run_pure, Except.map, assemble]

theorem value_build {registry : Registry} (made : Registry.ofList builder.table = .ok registry)
    (supply : Supply) : (builder.build.run supply).value = .ok (builder.assemble registry) := by
  rw [value_build_eq, made]
  rfl

theorem DefaultsOnly.table_eq (defaults : builder.DefaultsOnly) :
    builder.table = Registration.defaults builder.sanitizer builder.classifier := by
  simp [PipelineBuilder.table, defaults.includeDefaults, defaults.registrations]

theorem DefaultsOnly.exists_build (defaults : builder.DefaultsOnly) :
    ∃ registry, (∀ supply, (builder.build.run supply).value = .ok (builder.assemble registry)) ∧
      (builder.assemble registry).UsesBuiltIns := by
  obtain ⟨registry, made⟩ := Registry.exists_ofList
    (Registration.exists_fallback_defaults builder.sanitizer builder.classifier)
  refine ⟨registry, value_build (defaults.table_eq ▸ made), ?_⟩
  intro mapper member
  obtain ⟨r, origin, rfl⟩ := (Registry.mem_mappers made).1 member
  obtain ⟨builtIn, mapper, -⟩ := Registration.mem_defaults origin
  exact ⟨builtIn, mapper⟩

end PipelineBuilder
end Faultline
