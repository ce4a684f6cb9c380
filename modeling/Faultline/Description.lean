import Faultline.Pipeline.Assembly
import Faultline.Text.Numeral
import Faultline.Text.Quoted

/-!
Descriptions of the parts of a pipeline for operators. Of functions they say no more than whether
there is one.
-/

namespace Faultline

open Text (flag numeral quoted quotedList record)

def Limits.describe (limits : Limits) : String :=
  record "ExtensionValidationOptions" [("max_extensions", numeral limits.maxExtensions),
    ("max_string_length", numeral limits.maxStringLength), ("max_depth", numeral limits.maxDepth),
    ("custom_validator", flag limits.validator.isSome)] false

def Limits.describeFormatter (limits : Limits) : String :=
  record "ProblemFormatter" [("options", limits.describe)] false

def EnvironmentSettings.describe (settings : EnvironmentSettings) : String :=
  record "EnvironmentConfig" [("name", quoted settings.name),
    ("developer_environments", quotedList settings.developerEnvironments)] false

def Environment.describe (environment : Environment) : String :=
  record "HostEnvironment" [("name", quoted environment.name),
    ("developer", flag environment.developer)] false

def SanitizerSettings.describe (settings : SanitizerSettings) : String :=
  record "SanitizerConfig" [("redacted_detail", quoted settings.redactedDetail),
    ("include_stack_trace_in_development", flag settings.includeStackTraceInDevelopment),
    ("augment_detail_in_development", flag settings.augmentDetailInDevelopment),
    ("safe_kinds", quotedList settings.safeKinds)] false

def Sanitizer.describe (sanitizer : Sanitizer) : String :=
  record "Sanitizer" [("config", sanitizer.settings.describe),
    ("environment", sanitizer.environment.describe),
    ("predicate", flag sanitizer.predicate.isSome)] false

namespace Registration

def describe (registration : Registration) : String :=
  record "MapperRegistration" [("mapper", quoted registration.mapper.name),
    ("priority", numeral registration.priority),
    ("is_fallback", flag registration.isFallback)] false

def describeAll (registrations : List Registration) : String :=
  Text.bracketed (registrations.map describe)

end Registration

def Registry.describe (registry : Registry) : String :=
  record "MapperRegistry" [("primary", Registration.describeAll registry.primary),
    ("fallback", Registration.describeAll registry.fallback)] true

def Pipeline.describe (pipeline : Pipeline) : String :=
  record "ErrorPipeline" [("registry", pipeline.registry.describe),
    ("formatter", pipeline.limits.describeFormatter),
    ("sanitizer", pipeline.sanitizer.describe)] true

def Telemetry.DisclosureMode.describe : Telemetry.DisclosureMode → String
  | matchResponse => "MatchResponse"
  | operator => "Operator"

def TelemetrySettings.describe (settings : TelemetrySettings) : String :=
  record "EnricherConfig" [("enabled", flag settings.enabled),
    ("disclosure", settings.mode.describe)] false

def LogFormat.describe : LogFormat → String
  | compact => "Compact"
  | pretty => "Pretty"
  | json => "Json"

def LoggingSettings.describe (settings : LoggingSettings) : String :=
  record "LoggingConfig" [("level", quoted settings.level), ("format", settings.format.describe),
    ("ansi", flag settings.ansi), ("with_target", flag settings.withTarget)] false

def Settings.describe (settings : Settings) : String :=
  record "ErrorHandlingConfig" [("environment", settings.environment.describe),
    ("sanitizer", settings.sanitizer.describe), ("extensions", settings.limits.describe),
    ("telemetry", settings.telemetry.describe), ("logging", settings.logging.describe)] false

def PipelineBuilder.describe (builder : PipelineBuilder) : String :=
  record "ErrorPipelineBuilder" [("config", builder.settings.describe),
    ("include_defaults", flag builder.includeDefaults),
    ("custom_mappers", numeral builder.registrations.length)] true

end Faultline
