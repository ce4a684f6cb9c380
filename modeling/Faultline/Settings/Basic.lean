import Faultline.Environment
import Faultline.Problem.Limits
import Faultline.Sanitizer
import Faultline.Telemetry.Plan

/-! The settings of an error pipeline, and their defaults. -/

namespace Faultline

structure TelemetrySettings where
  enabled : Bool
  mode : Telemetry.DisclosureMode
  deriving DecidableEq, Repr

instance : Inhabited TelemetrySettings := ⟨⟨true, .matchResponse⟩⟩

inductive LogFormat where
  | compact
  | pretty
  | json
  deriving DecidableEq, Repr

structure LoggingSettings where
  level : String
  format : LogFormat
  ansi : Bool
  withTarget : Bool
  deriving DecidableEq, Repr

instance : Inhabited LoggingSettings := ⟨⟨"info", .compact, false, true⟩⟩

structure Settings where
  environment : EnvironmentSettings
  sanitizer : SanitizerSettings
  limits : Limits
  telemetry : TelemetrySettings
  logging : LoggingSettings

namespace Settings

def default : Settings := ⟨Inhabited.default, Inhabited.default, .default, Inhabited.default,
  Inhabited.default⟩

instance : Inhabited Settings := ⟨default⟩

end Settings
end Faultline
