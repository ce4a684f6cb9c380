import Faultline.ErrorCode
import Faultline.Problem.Limits
import Faultline.Problem.Wire
import Faultline.Request.Context

/-!
The last touches to a problem document before it is sent: an error id of its own, the trace id of
the request, the response head that goes with it, and the limits on its extension members.
-/

namespace Faultline

structure ErrorReference where
  errorId : String
  errorCode : String
  deriving DecidableEq, Repr

namespace Formatting

def errorIdOf (id : Uuid) : String := "err-" ++ id.hex

def identify (ctx : RequestContext) (problem : Problem) (errorId : String) : Problem :=
  { problem with
    errorId := some errorId
    traceId := ctx.traceId
    instanceUri := if Text.isBlank problem.instanceUri then Problem.instanceUrn errorId
      else problem.instanceUri }

/-- The head of the response. A trace id that cannot be a header value is left out. -/
def headFor (ctx : RequestContext) (status : Status) (errorId : String) : ResponseHead :=
  let headers := ctx.response.headers
    |>.insert Headers.contentType Problem.mediaType
    |>.insert Headers.errorId errorId
  ⟨status, if Headers.isLegalValue ctx.traceId then headers.insert Headers.traceId ctx.traceId
    else headers⟩

def errorCodeOf (problem : Problem) : String :=
  if Text.isBlank problem.code then ErrorCode.unknownCode else problem.code

/-- The context with the head of the response, the finished document, and what the failure goes
by. -/
def format (limits : Limits) (ctx : RequestContext) (problem : Problem) (status : Status) :
    Recorded (RequestContext × Problem × ErrorReference) := do
  let errorId := errorIdOf (← Recorded.fresh)
  if !Headers.isLegalValue ctx.traceId then
    Recorded.log .warn "trace id is not a valid header value; x-trace-id omitted"
      [("error_id", .text errorId)]
  let identified := identify ctx problem errorId
  let extensions ← limits.validate identified.extensions
  return ({ ctx with response := headFor ctx status errorId },
    { identified with extensions := extensions }, ⟨errorId, errorCodeOf problem⟩)

end Formatting
end Faultline
