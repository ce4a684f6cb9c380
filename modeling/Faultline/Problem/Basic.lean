import Faultline.Json.Basic
import Faultline.Status

/-!
Problem documents for HTTP interfaces (RFC 7807): the members every document has, and extension
members, which never go by the name of one of those when they are added one by one.
-/

namespace Faultline

structure Problem where
  typeUri : String
  title : String
  status : Status
  detail : String
  instanceUri : String
  code : String
  traceId : String
  errorId : Option String
  extensions : Members
  deriving DecidableEq

namespace Problem

def mediaType : String := "application/problem+json"

def reserved : List String :=
  ["type", "title", "status", "detail", "instance", "code", "traceId", "errorId"]

def isReserved (key : String) : Bool := reserved.contains key

def instanceUrn (id : String) : String := "urn:problem:instance:" ++ id

def new (status : Status) (title detail : String) : Problem where
  typeUri := "about:blank"
  title := title
  status := status
  detail := detail
  instanceUri := ""
  code := ""
  traceId := ""
  errorId := none
  extensions := .empty

def withType (problem : Problem) (uri : String) : Problem := { problem with typeUri := uri }

def withInstance (problem : Problem) (uri : String) : Problem := { problem with instanceUri := uri }

def withCode (problem : Problem) (code : String) : Problem := { problem with code := code }

def withTraceId (problem : Problem) (id : String) : Problem := { problem with traceId := id }

/-- Adds an extension member; one with a reserved name is ignored. -/
def withExtension (problem : Problem) (key : String) (value : Json) : Problem :=
  if isReserved key then problem
  else { problem with extensions := problem.extensions.insert key value }

def extension? (problem : Problem) (key : String) : Option Json := problem.extensions.get? key

def same (a b : Problem) : Bool :=
  a.typeUri == b.typeUri && a.title == b.title && a.status == b.status && a.detail == b.detail &&
    a.instanceUri == b.instanceUri && a.code == b.code && a.traceId == b.traceId &&
    a.errorId == b.errorId && a.extensions.same b.extensions

end Problem
end Faultline
