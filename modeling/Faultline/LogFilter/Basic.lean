import Faultline.LogFilter.Directive
import Faultline.Settings.Basic

/-!
Log filters: lists of directives. The directives are kept by how specific they are, and a later one
replaces its equal.
-/

namespace Faultline

/-- The directives that need no spans, and those that need them. -/
structure LogFilter where
  static : List Directive
  dynamic : List Directive
  deriving DecidableEq, Repr

namespace LogFilter

def ofDirectives (directives : List Directive) : LogFilter :=
  let dynamic := directives.filter Directive.isDynamic
  let static := directives.filter (!·.isDynamic) ++ dynamic.filter Directive.isStatic
  ⟨Directive.table static, Directive.table dynamic⟩

def parse? (text : String) : Option LogFilter :=
  let pieces := (Text.splitOn ',' text.toList).filter (!·.isEmpty)
  (pieces.mapM Directive.parse?).map ofDirectives

def text (filter : LogFilter) : String :=
  Text.joinWith "," ((filter.static ++ filter.dynamic).map Directive.text)

/-- The directives to use: those given, unless they are blank, or those of the settings. -/
def directives (settings : LoggingSettings) (given : Option String) : String :=
  (Text.nonBlank given).getD settings.level

def ofSettings (settings : LoggingSettings) (given : Option String) : Except String LogFilter :=
  let chosen := directives settings given
  match parse? chosen with
  | some filter => .ok filter
  | none => .error chosen

end LogFilter

inductive LoggingError where
  | invalidFilter (directives : String)
  | alreadyStarted
  deriving DecidableEq, Repr

/-- Starts logging, unless it was started already; the filter is looked at first. -/
def LoggingSettings.start (settings : LoggingSettings) (given : Option String) (started : Bool) :
    Except LoggingError LogFilter := do
  let filter ← (LogFilter.ofSettings settings given).mapError .invalidFilter
  if started then throw .alreadyStarted
  return filter

end Faultline
