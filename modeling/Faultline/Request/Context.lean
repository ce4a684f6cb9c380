import Faultline.Http.Headers
import Faultline.Journal
import Faultline.Request.Traceparent

/-!
What is known of a request: its trace id, which is never blank, its path, the head of the response
so far, and whether it was cancelled.
-/

namespace Faultline

structure RequestContext where
  traceId : String
  traceId_present : Text.isBlank traceId = false
  path : String
  response : ResponseHead
  cancelled : Bool
  deriving DecidableEq

namespace RequestContext

def start (traceId : String) (present : Text.isBlank traceId = false) (path : String) :
    RequestContext :=
  ⟨traceId, present, path, .initial, false⟩

def new (traceId path : String) : Recorded RequestContext :=
  if present : Text.isBlank traceId = false then return start traceId present path
  else do
    let id ← Recorded.fresh
    return start id.hex id.isBlank_hex path

/-- The first value of a header, trimmed, if it can be read and is not blank. -/
def headerText (headers : Headers) (name : String) : Option String :=
  ((headers.get? name).filter Headers.isReadable).map Text.trim |>.filter (!·.isEmpty)

def incomingTraceId (headers : Headers) : Option String :=
  (headerText headers Headers.traceparent).bind Traceparent.traceId?
    |>.or (headerText headers Headers.traceId)
    |>.or (headerText headers Headers.requestId)

def ofRequest (headers : Headers) (path : String) : Recorded RequestContext :=
  new ((incomingTraceId headers).getD "") path

end RequestContext
end Faultline
