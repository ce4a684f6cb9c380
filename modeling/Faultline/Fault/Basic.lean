import Faultline.Fault.AppError
import Faultline.Text.Numeral

/-! The failures a pipeline accepts, and how they are told to operators. -/

namespace Faultline

/-- A span of time; a second has 10^9 nanoseconds. -/
structure Duration where
  seconds : Nat
  nanoseconds : Nat
  deriving DecidableEq, Repr

def Duration.milliseconds (d : Duration) : Nat :=
  d.seconds * 1000 + d.nanoseconds / 1000000

/-- An error of unknown type: its message, those of the errors behind it, nearest first, and the
backtrace if one was captured where it arose. -/
structure Report where
  message : String
  causes : List String
  backtrace : Option String
  deriving DecidableEq, Repr

/-- A context becomes the message, and what was the message becomes the first cause. -/
def Report.withContext (report : Report) (context : String) : Report :=
  { report with message := context, causes := report.message :: report.causes }

inductive Fault where
  | app (error : AppError)
  | database (number : Int) (message : String)
  | remote (status : Option Status) (message : String)
  | timeout (operation : String) (budget : Duration)
  | unrecognized (report : Report)
  deriving DecidableEq, Repr

namespace Fault

def display : Fault → String
  | app error => error.message
  | database number message => "database error " ++ Text.numeral number ++ ": " ++ message
  | remote _ message => "upstream request failed: " ++ message
  | timeout operation budget =>
    operation ++ " timed out after " ++ Text.numeral budget.milliseconds ++ "ms"
  | unrecognized report => report.message

def kindName : Fault → String
  | app error => error.kind
  | database .. => "database"
  | remote .. => "upstream_http"
  | timeout .. => "upstream_timeout"
  | unrecognized _ => "unrecognized"

def typeName : Fault → String
  | app error => error.kind
  | database .. => "problemkit::fault::DatabaseError"
  | remote .. => "problemkit::fault::UpstreamError"
  | timeout .. => "problemkit::fault::TimeoutError"
  | unrecognized _ => "anyhow::Error"

def app? : Fault → Option AppError
  | app error => some error
  | _ => none

def ofType? (fault : Fault) (type : AppErrorType) : Option AppError :=
  fault.app?.filter fun error => error.type == type

def causes : Fault → List String
  | app error => error.causes
  | unrecognized report => report.causes
  | _ => []

def backtrace? : Fault → Option String
  | unrecognized report => report.backtrace
  | _ => none

def causeLine (cause : String) : String := "caused by: " ++ cause

def followCauses (lines : List String) : (chain : List String) → List String
  | [] => lines
  | cause :: behind => followCauses (lines ++ [causeLine cause]) behind

/-- The chain of errors, one to a line. Only a fault of unknown type is itself the first of them,
and only it may have a backtrace, which comes last. -/
def stackTrace (fault : Fault) : Option String :=
  let own := match fault with
    | unrecognized _ => [fault.display]
    | _ => []
  let lines := followCauses own fault.causes ++ fault.backtrace?.toList
  if lines.isEmpty then none else some ("\n".intercalate lines)

end Fault
end Faultline
