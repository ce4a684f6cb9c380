import Faultline.Pipeline.Basic

/-!
Guarding a request handler: a fault that the handler answers with is replaced by the pipeline's
response, and any other answer is passed on.
-/

namespace Faultline

structure Request where
  headers : Headers
  path : String
  deriving DecidableEq, Repr

inductive Answer where
  | response (response : Response)
  | fault (fault : Fault)

namespace Answer

def ofProblem (problem : Problem) : Response :=
  ⟨problem.status, Headers.empty.append Headers.contentType Problem.mediaType, problem.body⟩

def unguarded : Answer → Response
  | .response given => given
  | .fault _ => ⟨.internalError, .empty, ""⟩

end Answer

namespace Pipeline

/-- The context is made from the request, before the handler answers. -/
def guard (pipeline : Pipeline) (request : Request) (answer : Answer) (span : Telemetry.Span) :
    Recorded Response := do
  let ctx ← RequestContext.ofRequest request.headers request.path
  match answer with
  | .response response => return response
  | .fault fault => pipeline.respond ctx fault span

end Pipeline
end Faultline
