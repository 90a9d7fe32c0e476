/-! Errors returned across application boundaries. -/

namespace Pipa

inductive AppErrorCode where
  | validation | connection | authentication | permission | timeout | query | storage | notFound | canceled | internal
deriving DecidableEq, Repr

structure AppError where
  code : AppErrorCode
  message : String
  technicalDetails : Option String
  retryable : Bool
deriving DecidableEq, Repr

end Pipa
