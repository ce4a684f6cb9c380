import Faultline.Journal
import Faultline.Problem.Basic
import Faultline.Text.Blank

/-!
Building problem documents for a request. A blank argument never replaces a value, and a finished
document always has an instance and a trace id.
-/

namespace Faultline

structure ProblemBuilder where
  problem : Problem
  requestTraceId : String
  deriving DecidableEq

namespace ProblemBuilder

def freshInstance : Recorded String := do
  return Problem.instanceUrn (← Recorded.fresh).hyphenated

def ofProblem (problem : Problem) (requestTraceId : String) : ProblemBuilder :=
  ⟨problem, requestTraceId⟩

def new (requestTraceId : String) : ProblemBuilder :=
  ofProblem (.new .internalError "" "") requestTraceId

inductive Step where
  | type (uri : Option String)
  | title (text : Option String)
  | detail (text : Option String)
  | status (status : Status)
  | instance (uri : Option String)
  | code (code : Option String)
  | traceId (id : Option String)
  | extension (key : String) (value : Json)

def withType (builder : ProblemBuilder) (uri : Option String) : ProblemBuilder :=
  { builder with
    problem.typeUri := (Text.nonBlank uri).getD builder.problem.typeUri }

def withTitle (builder : ProblemBuilder) (text : Option String) : ProblemBuilder :=
  { builder with
    problem.title := (Text.nonBlank text).getD builder.problem.title }

def withDetail (builder : ProblemBuilder) (text : Option String) : ProblemBuilder :=
  { builder with
    problem.detail := (Text.nonBlank text).getD builder.problem.detail }

def withStatus (builder : ProblemBuilder) (status : Status) : ProblemBuilder :=
  { builder with problem.status := status }

/-- A blank instance is replaced by a fresh one. -/
def withInstance (builder : ProblemBuilder) (uri : Option String) : Recorded ProblemBuilder :=
  match Text.nonBlank uri with
  | some uri => return { builder with problem.instanceUri := uri }
  | none => return { builder with problem.instanceUri := ← freshInstance }

def withCode (builder : ProblemBuilder) (code : Option String) : ProblemBuilder :=
  { builder with
    problem.code := (Text.nonBlank code).getD builder.problem.code }

def withTraceId (builder : ProblemBuilder) (id : Option String) : ProblemBuilder :=
  { builder with problem.traceId := (Text.nonBlank id).getD builder.requestTraceId }

/-- Adds an extension member; one with a blank or reserved name is ignored. -/
def withExtension (builder : ProblemBuilder) (key : String) (value : Json) : ProblemBuilder :=
  if Text.isBlank key then builder
  else { builder with problem := builder.problem.withExtension key value }

def apply (builder : ProblemBuilder) : Step → Recorded ProblemBuilder
  | .type uri => return builder.withType uri
  | .title text => return builder.withTitle text
  | .detail text => return builder.withDetail text
  | .status status => return builder.withStatus status
  | .instance uri => builder.withInstance uri
  | .code code => return builder.withCode code
  | .traceId id => return builder.withTraceId id
  | .extension key value => return builder.withExtension key value

def applyAll (builder : ProblemBuilder) : List Step → Recorded ProblemBuilder
  | [] => return builder
  | step :: rest => do (← builder.apply step).applyAll rest

def build (builder : ProblemBuilder) : Recorded Problem := do
  let problem := builder.problem
  let instanceUri ← if Text.isBlank problem.instanceUri then freshInstance
    else pure problem.instanceUri
  return { problem with
    instanceUri := instanceUri
    traceId := if Text.isBlank problem.traceId then builder.requestTraceId else problem.traceId }

end ProblemBuilder
end Faultline
