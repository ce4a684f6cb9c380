/-! Error codes, and the catalog of those that the built-in faults and mappers use. -/

namespace Faultline

structure ErrorCode where
  code : String
  title : String
  typeUri : Option String
  deriving DecidableEq, Repr

namespace ErrorCode

def validation : ErrorCode := ⟨"VALIDATION", "Validation failed", some "/errors/validation"⟩
def notFound : ErrorCode := ⟨"NOT_FOUND", "Resource not found", some "/errors/not-found"⟩
def authorization : ErrorCode := ⟨"AUTH", "Unauthorized/Forbidden", some "/errors/auth"⟩
def rateLimit : ErrorCode := ⟨"RATE_LIMIT", "Too Many Requests", some "/errors/rate-limit"⟩

def sqlDeadlock : ErrorCode :=
  ⟨"INFRA-SQL-DEADLOCK", "SQL Deadlock", some "/errors/infra/sql/deadlock"⟩
def sqlTimeout : ErrorCode := ⟨"INFRA-SQL-TIMEOUT", "SQL Timeout", some "/errors/infra/sql/timeout"⟩
def sqlLockTimeout : ErrorCode :=
  ⟨"INFRA-SQL-LOCK-TIMEOUT", "SQL lock request timed out", some "/errors/infra/sql/lock-timeout"⟩
def sqlDuplicateKey : ErrorCode :=
  ⟨"INFRA-SQL-DUPKEY", "Duplicate key", some "/errors/infra/sql/duplicate"⟩
def sqlConstraint : ErrorCode :=
  ⟨"INFRA-SQL-CONSTRAINT", "Constraint violation", some "/errors/infra/sql/constraint"⟩
def sqlTruncation : ErrorCode :=
  ⟨"INFRA-SQL-TRUNCATION", "Value too long for column", some "/errors/infra/sql/truncation"⟩
def sqlAuth : ErrorCode := ⟨"INFRA-SQL-AUTH", "SQL login failed", some "/errors/infra/sql/auth"⟩
def sqlUnavailable : ErrorCode :=
  ⟨"INFRA-SQL-DBUNAVAILABLE", "Cannot open database", some "/errors/infra/sql/unavailable"⟩
def sqlThrottled : ErrorCode :=
  ⟨"INFRA-SQL-THROTTLED", "Database is throttling requests", some "/errors/infra/sql/throttled"⟩
def sqlUnknown : ErrorCode := ⟨"INFRA-SQL-UNKNOWN", "SQL Error", some "/errors/infra/sql/unknown"⟩

def httpRemote : ErrorCode :=
  ⟨"INFRA-HTTP-UPSTREAM", "Upstream HTTP error", some "/errors/http/upstream"⟩
def httpTimeout : ErrorCode :=
  ⟨"INFRA-HTTP-TIMEOUT", "External request timed out", some "/errors/http/timeout"⟩

def unexpected : ErrorCode := ⟨"UNEXPECTED_ERROR", "Unexpected error", some "/errors/unexpected"⟩

/-- What is reported for a problem without a code. -/
def unknownCode : String := "UNKNOWN_ERROR"

def catalog : List (String × ErrorCode) := [
  ("VALIDATION", validation), ("NOT_FOUND", notFound), ("AUTHORIZATION", authorization),
  ("RATE_LIMIT", rateLimit), ("SQL_DEADLOCK", sqlDeadlock), ("SQL_TIMEOUT", sqlTimeout),
  ("SQL_LOCK_TIMEOUT", sqlLockTimeout), ("SQL_DUPLICATE_KEY", sqlDuplicateKey),
  ("SQL_CONSTRAINT", sqlConstraint), ("SQL_TRUNCATION", sqlTruncation), ("SQL_AUTH", sqlAuth),
  ("SQL_UNAVAILABLE", sqlUnavailable), ("SQL_THROTTLED", sqlThrottled),
  ("SQL_UNKNOWN", sqlUnknown), ("HTTP_UPSTREAM", httpRemote), ("HTTP_TIMEOUT", httpTimeout),
  ("UNEXPECTED", unexpected)]

def named? (name : String) : Option ErrorCode := catalog.lookup name

end ErrorCode
end Faultline
