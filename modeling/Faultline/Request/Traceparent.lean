import Faultline.Text.Ascii
import Faultline.Text.Blank
import Faultline.Text.Lines

/-! The trace id in a `traceparent` header: version 00, the id, a span id and flags. -/

namespace Faultline.Traceparent

def isTraceId (id : List Char) : Bool :=
  id.length == 32 && id.all Text.isHexDigit && id.any (· != '0')

/-- Only the version and the trace id are looked at; what follows may have any number of parts. -/
def traceId? (value : String) : Option String :=
  match Text.splitOn '-' (Text.trimChars value.toList) with
  | version :: id :: _ :: _ :: _ =>
    if version = ['0', '0'] ∧ isTraceId id then some (.ofList (id.map Text.lowerChar)) else none
  | _ => none

end Faultline.Traceparent
