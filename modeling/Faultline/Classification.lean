import Faultline.ErrorCode
import Faultline.Journal
import Faultline.Status

/-! What the error numbers of a database mean to an application. -/

namespace Faultline

structure Classification where
  status : Status
  code : ErrorCode
  transient : Bool
  deriving DecidableEq, Repr

abbrev Classifier := Int → Recorded Classification

namespace Classification

def sqlServer? : Int → Option Classification
  | 1205 => some ⟨.conflict, .sqlDeadlock, true⟩
  | -2 => some ⟨.gatewayTimeout, .sqlTimeout, true⟩
  | 1222 => some ⟨.gatewayTimeout, .sqlLockTimeout, true⟩
  | 2627 | 2601 => some ⟨.conflict, .sqlDuplicateKey, false⟩
  | 547 | 515 => some ⟨.unprocessable, .sqlConstraint, false⟩
  | 8152 | 2628 => some ⟨.unprocessable, .sqlTruncation, false⟩
  | 18456 => some ⟨.unavailable, .sqlAuth, true⟩
  | 4060 | 40613 => some ⟨.unavailable, .sqlUnavailable, true⟩
  | 40501 | 10928 | 10929 => some ⟨.unavailable, .sqlThrottled, true⟩
  | _ => none

/-- An error number that is not known is noted, and taken for an internal error. -/
def sqlServer : Classifier := fun number =>
  match sqlServer? number with
  | some classification => return classification
  | none => do
    Recorded.log .debug "unclassified SQL error number" [("sql_error_number", .integer number)]
    return ⟨.internalError, .sqlUnknown, false⟩

/-- Answers from a table, and as for SQL Server where the table has no row. -/
def ofTable (rows : List (Int × Classification)) : Classifier := fun number =>
  match rows.lookup number with
  | some classification => return classification
  | none => sqlServer number

end Classification
end Faultline
