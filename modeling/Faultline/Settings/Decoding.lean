import Faultline.Json.Mismatch
import Faultline.Settings.Basic
import Faultline.Settings.Setting

/-!
Reading settings. A record is a table, whose unknown members are refused and whose absent ones have
their defaults, or a list of its members in order. Values come from one document or from layers that
were merged, which differ in a few rules.
-/

namespace Faultline

/-- Merged layers ignore surplus items of a list, and take a choice in their own way. -/
inductive SettingsSource where
  | document
  | layers
  deriving DecidableEq, Repr

structure Refusal where
  path : List String
  cause : Mismatch Setting

namespace Refusal

def within (name : String) (refusal : Refusal) : Refusal :=
  { refusal with path := name :: refusal.path }

def describeInteger (form : IntegerForm) (n : Int) : String :=
  let number := Mismatch.ticked (Text.numeral n)
  match form with
  | .unsigned => "unsigned int " ++ number
  | .signed => "signed int " ++ number
  | .wide => "integer " ++ number ++ if n < 0 then " as i128" else " as u128"

def describe : Setting → String
  | .empty => "unit"
  | .flag b => "bool " ++ Text.flag b
  | .integer form n => describeInteger form n
  | .floating x => "float " ++ Mismatch.ticked x.text
  | .character c => "string " ++ Text.quoted (.ofList [c])
  | .text s => "string " ++ Text.quoted s
  | .list _ => "sequence"
  | .table _ => "map"

def kind (refusal : Refusal) : String :=
  let choice (names : List String) := Mismatch.ticked (Mismatch.oneOf names)
  match refusal.cause with
  | .invalidType found expected =>
    "invalid type: found " ++ describe found ++ ", expected " ++ expected
  | .invalidValue found expected =>
    "invalid value " ++ describe found ++ ", expected " ++ expected
  | .unknownField name known =>
    "unknown field: found " ++ Mismatch.ticked name ++ ", expected " ++ choice known
  | .unknownVariant name known =>
    "unknown variant: found " ++ Mismatch.ticked name ++ ", expected " ++ choice known
  | cause => cause.message describe

def describeInDocument : Setting → String
  | .empty => "null"
  | .flag b => "boolean " ++ Mismatch.ticked (Text.flag b)
  | .integer _ n => "integer " ++ Mismatch.ticked (Text.numeral n)
  | .floating (.finite d) => "floating point " ++ Mismatch.ticked (.ofList d.jsonText)
  | .floating x => "floating point " ++ Mismatch.ticked x.text
  | value => describe value

def message (refusal : Refusal) : String := refusal.cause.message describeInDocument

end Refusal

namespace Settings

abbrev Decoder (α : Type) := Setting → Except Refusal α

def refuse {α : Type} (cause : Mismatch Setting) : Except Refusal α := .error ⟨[], cause⟩

def text : Decoder String
  | .text s => .ok s
  | .character c => .ok (.ofList [c])
  | value => refuse (.invalidType value "a string")

def flag : Decoder Bool
  | .flag b => .ok b
  | value => refuse (.invalidType value "a boolean")

def count : Decoder Nat
  | .integer .wide n => refuse (.invalidType (.integer .wide n) "usize")
  | .integer form n =>
    if 0 ≤ n ∧ n < Nat.pow 2 64 then .ok n.toNat
    else refuse (.invalidValue (.integer form n) "usize")
  | value => refuse (.invalidType value "usize")

def itemsFrom {α : Type} (decode : Decoder α) : Nat → List Setting → Except Refusal (List α)
  | _, [] => .ok []
  | position, item :: rest => do
    let first ← (decode item).mapError (.within (Text.numeral position))
    return first :: (← itemsFrom decode (position + 1) rest)

def texts : Decoder (List String)
  | .list items => itemsFrom text 0 items
  | value => refuse (.invalidType value "a sequence")

/-- One of a few names, or a table with one of them as the name of a member without a value. -/
def choice {α : Type} (source : SettingsSource) (type : String) (variants : List (String × α)) :
    Decoder α
  | .text name => pick name
  | .table members => match source, members with
    | .document, [(name, value)] => pickWith name value
    | .document, _ => refuse (.invalidValue (.table members) "map with a single key")
    | .layers, [] => refuse (.invalidType (.table []) "enum")
    | .layers, (name, value) :: _ => (pickWith name value).mapError (.within name)
  | value => match source with
    | .document => refuse (.invalidType value "string or map")
    | .layers => refuse (.invalidType value ("enum " ++ type))
where
  pick (name : String) : Except Refusal α :=
    match variants.lookup name with
    | some variant => .ok variant
    | none => refuse (.unknownVariant name (variants.map (·.1)))
  pickWith (name : String) (value : Setting) : Except Refusal α := do
    let variant ← pick name
    match value with
    | .empty => return variant
    | value => refuse (.invalidType value "unit")

structure Field (α : Type) where
  name : String
  assign : α → Setting → Except Refusal α

def field {α β : Type} (name : String) (decode : Decoder β) (set : α → β → α) : Field α :=
  ⟨name, fun record value => (decode value).map (set record)⟩

def assignMembers {α : Type} (fields : List (Field α)) (record : α) :
    List (String × Setting) → Except Refusal α
  | [] => .ok record
  | (name, value) :: rest => do
    let next ← Except.mapError (.within name) <| match fields.find? (·.name == name) with
      | some field => field.assign record value
      | none => refuse (.unknownField name (fields.map (·.name)))
    assignMembers fields next rest

def assignItems {α : Type} (record : α) : Nat → List (Field α) → List Setting → Except Refusal α
  | position, field :: fields, item :: items => do
    let next ← (field.assign record item).mapError (.within (Text.numeral position))
    assignItems next (position + 1) fields items
  | _, _, _ => .ok record

def record {α : Type} (source : SettingsSource) (type : String) (fields : List (Field α))
    (initial : α) : Decoder α
  | .table members => assignMembers fields initial members
  | .list items => do
    let result ← assignItems initial 0 fields items
    if source = .document ∧ fields.length < items.length then
      refuse (.invalidLength items.length "fewer elements in array")
    else return result
  | value => refuse (.invalidType value ("struct " ++ type))

def decodeEnvironment (source : SettingsSource) : Decoder EnvironmentSettings :=
  record source "EnvironmentConfig" [
    field "name" text ({ · with name := · }),
    field "developer_environments" texts ({ · with developerEnvironments := · })] .default

def decodeSanitizer (source : SettingsSource) : Decoder SanitizerSettings :=
  record source "SanitizerConfig" [
    field "redacted_detail" text ({ · with redactedDetail := · }),
    field "include_stack_trace_in_development" flag
      ({ · with includeStackTraceInDevelopment := · }),
    field "augment_detail_in_development" flag ({ · with augmentDetailInDevelopment := · }),
    field "safe_kinds" texts ({ · with safeKinds := · })] .default

def decodeLimits (source : SettingsSource) : Decoder Limits :=
  record source "ExtensionValidationOptions" [
    field "max_extensions" count ({ · with maxExtensions := · }),
    field "max_string_length" count ({ · with maxStringLength := · }),
    field "max_depth" count ({ · with maxDepth := · })] .default

def disclosureModes : List (String × Telemetry.DisclosureMode) :=
  [("match_response", .matchResponse), ("operator", .operator)]

def decodeMode (source : SettingsSource) : Decoder Telemetry.DisclosureMode :=
  choice source "TelemetryDisclosure" disclosureModes

def decodeTelemetry (source : SettingsSource) : Decoder TelemetrySettings :=
  record source "EnricherConfig" [
    field "enabled" flag ({ · with enabled := · }),
    field "disclosure" (decodeMode source) ({ · with mode := · })] Inhabited.default

def logFormats : List (String × LogFormat) :=
  [("compact", .compact), ("pretty", .pretty), ("json", .json)]

def decodeLogging (source : SettingsSource) : Decoder LoggingSettings :=
  record source "LoggingConfig" [
    field "level" text ({ · with level := · }),
    field "format" (choice source "LogFormat" logFormats) ({ · with format := · }),
    field "ansi" flag ({ · with ansi := · }),
    field "with_target" flag ({ · with withTarget := · })] Inhabited.default

def decode (source : SettingsSource) : Decoder Settings :=
  record source "ErrorHandlingConfig" [
    field "environment" (decodeEnvironment source) ({ · with environment := · }),
    field "sanitizer" (decodeSanitizer source) ({ · with sanitizer := · }),
    field "extensions" (decodeLimits source) ({ · with limits := · }),
    field "telemetry" (decodeTelemetry source) ({ · with telemetry := · }),
    field "logging" (decodeLogging source) ({ · with logging := · })] .default

def encodeTexts (texts : List String) : Json := .array (texts.map .string)

def encodeEnvironment (settings : EnvironmentSettings) : Json := .object [
  ("name", .string settings.name),
  ("developer_environments", encodeTexts settings.developerEnvironments)]

def encodeSanitizer (settings : SanitizerSettings) : Json := .object [
  ("redacted_detail", .string settings.redactedDetail),
  ("include_stack_trace_in_development", .bool settings.includeStackTraceInDevelopment),
  ("augment_detail_in_development", .bool settings.augmentDetailInDevelopment),
  ("safe_kinds", encodeTexts settings.safeKinds)]

def encodeLimits (limits : Limits) : Json := .object [
  ("max_extensions", .integer limits.maxExtensions),
  ("max_string_length", .integer limits.maxStringLength),
  ("max_depth", .integer limits.maxDepth)]

def encodeMode : Telemetry.DisclosureMode → Json
  | .matchResponse => .string "match_response"
  | .operator => .string "operator"

def encodeTelemetry (settings : TelemetrySettings) : Json := .object [
  ("enabled", .bool settings.enabled),
  ("disclosure", encodeMode settings.mode)]

def encodeFormat : LogFormat → Json
  | .compact => .string "compact"
  | .pretty => .string "pretty"
  | .json => .string "json"

def encodeLogging (settings : LoggingSettings) : Json := .object [
  ("level", .string settings.level),
  ("format", encodeFormat settings.format),
  ("ansi", .bool settings.ansi),
  ("with_target", .bool settings.withTarget)]

def encode (settings : Settings) : Json := .object [
  ("environment", encodeEnvironment settings.environment),
  ("sanitizer", encodeSanitizer settings.sanitizer),
  ("extensions", encodeLimits settings.limits),
  ("telemetry", encodeTelemetry settings.telemetry),
  ("logging", encodeLogging settings.logging)]

end Settings
end Faultline
