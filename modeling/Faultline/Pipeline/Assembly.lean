import Faultline.Pipeline.Basic
import Faultline.Settings.Basic

/-!
Assembling a pipeline from settings and customizations. Mappers are made when all is known, so each
has the final sanitizer, whenever it was added.
-/

namespace Faultline

structure PipelineBuilder where
  settings : Settings
  includeDefaults : Bool
  classifier : Classifier
  predicate : Option (Fault → Bool)
  validator : Option (String → Json → Bool)
  enricher : Option Telemetry.Enricher
  registrations : List (Sanitizer → Registration)

namespace PipelineBuilder

inductive Step where
  | mapper (priority : Int) (make : Sanitizer → Mapper)
  | fallbackMapper (priority : Int) (make : Sanitizer → Mapper)
  | registration (registration : Registration)
  | withoutDefaults
  | classifier (classifier : Classifier)
  | predicate (predicate : Fault → Bool)
  | validator (validator : String → Json → Bool)
  | enricher (enricher : Telemetry.Enricher)

def new (settings : Settings) : PipelineBuilder where
  settings := settings
  includeDefaults := true
  classifier := Classification.sqlServer
  predicate := none
  validator := none
  enricher := none
  registrations := []

def register (builder : PipelineBuilder) (make : Sanitizer → Registration) : PipelineBuilder :=
  { builder with registrations := builder.registrations ++ [make] }

/-- Mappers are added to those there are; of all else the last one given counts. -/
def apply (builder : PipelineBuilder) : Step → PipelineBuilder
  | .mapper priority make => builder.register fun sanitizer => .primary (make sanitizer) priority
  | .fallbackMapper priority make =>
    builder.register fun sanitizer => .fallback (make sanitizer) priority
  | .registration registration => builder.register fun _ => registration
  | .withoutDefaults => { builder with includeDefaults := false }
  | .classifier classifier => { builder with classifier := classifier }
  | .predicate predicate => { builder with predicate := some predicate }
  | .validator validator => { builder with validator := some validator }
  | .enricher enricher => { builder with enricher := some enricher }

def applyAll (builder : PipelineBuilder) (steps : List Step) : PipelineBuilder :=
  steps.foldl apply builder

/-- The sanitizer that the mappers and telemetry share. -/
def sanitizer (builder : PipelineBuilder) : Sanitizer :=
  ⟨builder.settings.sanitizer, .ofSettings builder.settings.environment, builder.predicate⟩

/-- The built-in mappers, unless they are left out, and then those that were added. -/
def table (builder : PipelineBuilder) : List Registration :=
  (if builder.includeDefaults then Registration.defaults builder.sanitizer builder.classifier
    else []) ++ builder.registrations.map fun make => make builder.sanitizer

def limits (builder : PipelineBuilder) : Limits :=
  builder.settings.limits.withValidator builder.validator

def chosenEnricher (builder : PipelineBuilder) : Telemetry.Enricher :=
  match builder.enricher with
  | some enricher => enricher
  | none =>
    if builder.settings.telemetry.enabled then
      Telemetry.Planner.enricher ⟨builder.sanitizer, builder.settings.telemetry.mode⟩
    else Telemetry.Enricher.silent

def build (builder : PipelineBuilder) : Recorded (Except RegistryError Pipeline) := do
  match ← Registry.build builder.table with
  | .error e => return .error e
  | .ok registry =>
    let sanitizer := builder.sanitizer
    Recorded.log .info "error pipeline ready"
      [("environment", .text sanitizer.environment.name),
        ("developer", .flag sanitizer.environment.developer),
        ("mappers", .integer (registry.primary.length + registry.fallback.length : Nat))]
    return .ok ⟨registry, builder.limits, builder.chosenEnricher, sanitizer⟩

end PipelineBuilder
end Faultline
