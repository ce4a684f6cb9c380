import Faultline.Environment
import Faultline.Fault.Basic
import Faultline.Request.Context
import Faultline.Text.Lines

/-!
What may be disclosed of a fault. The details are redacted unless the environment is a developer's,
the kind of the fault is listed as safe, or a predicate allows it.
-/

namespace Faultline

structure SanitizerSettings where
  redactedDetail : String
  includeStackTraceInDevelopment : Bool
  augmentDetailInDevelopment : Bool
  safeKinds : List String
  deriving DecidableEq, Repr

namespace SanitizerSettings

def default : SanitizerSettings where
  redactedDetail := "An unexpected error occurred."
  includeStackTraceInDevelopment := true
  augmentDetailInDevelopment := true
  safeKinds := ["validation", "not_found", "authorization", "rate_limit", "domain"]

instance : Inhabited SanitizerSettings := ⟨default⟩

end SanitizerSettings

structure Sanitization where
  detail : String
  includeStackTrace : Bool
  isRedacted : Bool
  deriving DecidableEq, Repr

structure Sanitizer where
  settings : SanitizerSettings
  environment : Environment
  predicate : Option (Fault → Bool)

namespace Sanitizer

def allows (sanitizer : Sanitizer) (fault : Fault) : Bool :=
  sanitizer.environment.developer ||
    sanitizer.settings.safeKinds.any (Text.sameIgnoringCase · fault.kindName) ||
    sanitizer.predicate.any (· fault)

def messageOf (fault : Fault) : String :=
  if Text.isBlank fault.display then "An error was raised." else fault.display

/-- The preferred text, or the message. In developer environments both, unless the one holds the
other, and the kind of the fault. -/
def augment (sanitizer : Sanitizer) (preferred : Option String) (fault : Fault) : String :=
  let message := messageOf fault
  if sanitizer.environment.developer && sanitizer.settings.augmentDetailInDevelopment then
    let base := match preferred with
      | some text => if Text.contains text message then text else text ++ " | " ++ message
      | none => message
    base ++ " (source: " ++ fault.kindName ++ ")"
  else preferred.getD message

/-- The detail to send. A preferred text that is sensitive needs permission as the message does. -/
def detail (sanitizer : Sanitizer) (fault : Fault) (preferred : Option String) (sensitive : Bool) :
    String :=
  match Text.nonBlank preferred with
  | some text =>
    if !sensitive || sanitizer.allows fault then sanitizer.augment (some text) fault
    else sanitizer.settings.redactedDetail
  | none =>
    if sanitizer.allows fault then sanitizer.augment none fault
    else sanitizer.settings.redactedDetail

def assess (sanitizer : Sanitizer) (fault : Fault) (preferred : Option String) (sensitive : Bool) :
    Sanitization where
  detail := sanitizer.detail fault preferred sensitive
  includeStackTrace := sanitizer.allows fault && sanitizer.environment.developer &&
    sanitizer.settings.includeStackTraceInDevelopment
  isRedacted := !sanitizer.allows fault

def sanitize (sanitizer : Sanitizer) (ctx : RequestContext) (fault : Fault)
    (preferred : Option String) (sensitive : Bool) : Recorded Sanitization := do
  let sanitization := sanitizer.assess fault preferred sensitive
  if sanitization.isRedacted then
    Recorded.log .trace "fault details redacted"
      [("trace_id", .text ctx.traceId), ("kind", .text fault.kindName)]
  return sanitization

end Sanitizer
end Faultline
