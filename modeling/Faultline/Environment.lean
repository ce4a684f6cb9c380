import Faultline.Text.Ascii

/-! Deployment environments. In a developer's environment raw failure details may be disclosed. -/

namespace Faultline

structure EnvironmentSettings where
  name : String
  developerEnvironments : List String
  deriving DecidableEq, Repr

namespace EnvironmentSettings

def default : EnvironmentSettings := ⟨"production", ["development", "local", "demo"]⟩

instance : Inhabited EnvironmentSettings := ⟨default⟩

end EnvironmentSettings

structure Environment where
  name : String
  developer : Bool
  deriving DecidableEq, Repr

namespace Environment

/-- The case of ASCII letters in names does not count. -/
def ofSettings (settings : EnvironmentSettings) : Environment :=
  ⟨settings.name, settings.developerEnvironments.any (Text.sameIgnoringCase · settings.name)⟩

def named (name : String) : Environment :=
  ofSettings { EnvironmentSettings.default with name := name }

def production : Environment := named "production"

def development : Environment := named "development"

instance : Inhabited Environment := ⟨production⟩

end Environment
end Faultline
