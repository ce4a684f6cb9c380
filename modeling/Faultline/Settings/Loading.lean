import Faultline.Journal
import Faultline.Settings.Decoding
import Faultline.Settings.Layers
import Faultline.Settings.Variables

/-!
Loading the settings of a pipeline: the defaults, over them a file, and over that the environment
variables. What a file holds is up to its reader.
-/

namespace Faultline

inductive SettingsFile where
  | absent
  | missing (path : String)
  | found (path text : String)
  deriving DecidableEq, Repr

inductive LayerError where
  | unreadable
  | refused (refusal : Refusal)

def LayerError.report : LayerError → List String × String
  | unreadable => ([], "message")
  | refused refusal => (refusal.path, refusal.kind)

inductive LoadError where
  | missingFile (path : String)
  | invalid (errors : List LayerError)

def LoadError.missingFileMessage (path : String) : String :=
  "configuration file not found: " ++ path

namespace SettingsFile

/-- What the text of a file is read as, if it can be read. -/
abbrev Reader := String → Option Setting

def path? : SettingsFile → Option String
  | absent => none
  | missing path | found path _ => some path

/-- The layers that a file adds; one that cannot be read is none. -/
def layers (read : Reader) : SettingsFile → Except LoadError (List (Option Setting))
  | absent => .ok []
  | missing path => .error (.missingFile path)
  | found _ text => .ok [read text]

end SettingsFile

namespace Settings

def layerError? : Option Setting → Option LayerError
  | none => some .unreadable
  | some (.table _) => none
  | some layer => some (.refused ⟨[], .invalidType layer "map"⟩)

/-- Of several errors the first and the last are told. -/
def outermost : List LayerError → List LayerError
  | first :: second :: rest => [first, (second :: rest).getLast (by simp)]
  | errors => errors

def ofLayers (layers : List (Option Setting)) : Except LoadError Settings :=
  match layers.filterMap layerError? with
  | [] => (decode .layers (Layers.sorted (Layers.merged (layers.filterMap id)))).mapError
      fun refusal => .invalid [.refused refusal]
  | errors => .error (.invalid (outermost errors))

def layersOf (read : SettingsFile.Reader) (file : SettingsFile) (given : List (String × String)) :
    Except LoadError (List (Option Setting)) := do
  return some (.ofJson (encode default)) :: (← file.layers read) ++ [some (Variables.layer given)]

def loadWith (read : SettingsFile.Reader) (file : SettingsFile) (given : List (String × String))
    (further : List Setting) : Except LoadError Settings := do
  ofLayers ((← layersOf read file given) ++ further.map some)

def pathText : Option String → String
  | some path => "Some(" ++ Text.quoted path ++ ")"
  | none => "None"

def load (read : SettingsFile.Reader) (file : SettingsFile) (given : List (String × String)) :
    Recorded (Except LoadError Settings) := do
  match loadWith read file given [] with
  | .error e => return .error e
  | .ok settings =>
    Recorded.log .debug "error-handling configuration loaded"
      [("environment", .text settings.environment.name), ("file", .text (pathText file.path?))]
    return .ok settings

end Settings
end Faultline
