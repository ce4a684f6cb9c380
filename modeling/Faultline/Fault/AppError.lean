import Faultline.ErrorCode
import Faultline.Status

/-!
Application errors: the built-in kinds, and those an application defines itself. Each has an error
code, and says what a caller may be told, whether a retry may help and which status it prefers.
-/

namespace Faultline

/-- The messages for each field, by field in increasing order. -/
abbrev FieldErrors := List (String × List String)

def FieldErrors.add (field message : String) : FieldErrors → FieldErrors
  | [] => [(field, [message])]
  | (known, messages) :: rest =>
    if field = known then (known, messages ++ [message]) :: rest
    else if field < known then (field, [message]) :: (known, messages) :: rest
    else (known, messages) :: FieldErrors.add field message rest

def FieldErrors.ofList (messages : List (String × String)) : FieldErrors :=
  messages.foldl (fun errors entry => FieldErrors.add entry.1 entry.2 errors) []

structure CustomError where
  typeName : String
  code : ErrorCode
  detail : Option String
  transient : Bool
  preferredStatus : Option Status
  kind : String
  message : String
  causes : List String
  deriving DecidableEq, Repr

/-- A custom error that says nothing but its code and message goes by the name of its type. -/
def CustomError.plain (typeName : String) (code : ErrorCode) (message : String) : CustomError :=
  ⟨typeName, code, none, false, none, typeName, message, []⟩

inductive AppError where
  | validation (message : String) (errors : FieldErrors)
  | notFound (message : String)
  | authorization (message : String) (forbidden : Bool)
  | rateLimit (message : String)
  | domain (code : ErrorCode) (message : String) (transient : Bool) (status : Option Status)
  | custom (error : CustomError)
  deriving DecidableEq, Repr

inductive AppErrorType where
  | validation
  | notFound
  | authorization
  | rateLimit
  | domain
  | custom (typeName : String)
  deriving DecidableEq, Repr

namespace AppError

def type : AppError → AppErrorType
  | validation .. => .validation
  | notFound .. => .notFound
  | authorization .. => .authorization
  | rateLimit .. => .rateLimit
  | domain .. => .domain
  | custom error => .custom error.typeName

def message : AppError → String
  | validation message _ | notFound message | authorization message _ | rateLimit message
  | domain _ message _ _ => message
  | custom error => error.message

def code : AppError → ErrorCode
  | validation .. => .validation
  | notFound .. => .notFound
  | authorization .. => .authorization
  | rateLimit .. => .rateLimit
  | domain code .. => code
  | custom error => error.code

/-- What a caller may be told; the message, for the built-in kinds. -/
def detail : AppError → Option String
  | custom error => error.detail
  | error => some error.message

def isTransient : AppError → Bool
  | rateLimit _ => true
  | domain _ _ transient _ => transient
  | custom error => error.transient
  | _ => false

def preferredStatus : AppError → Option Status
  | validation .. => some .unprocessable
  | notFound .. => some .notFound
  | authorization _ forbidden => some (if forbidden then .forbidden else .unauthorized)
  | rateLimit .. => some .tooManyRequests
  | domain _ _ _ status => status
  | custom error => error.preferredStatus

def kind : AppError → String
  | validation .. => "validation"
  | notFound .. => "not_found"
  | authorization .. => "authorization"
  | rateLimit .. => "rate_limit"
  | domain .. => "domain"
  | custom error => error.kind

/-- The messages of the errors behind this one, nearest first. -/
def causes : AppError → List String
  | custom error => error.causes
  | _ => []

end AppError
end Faultline
