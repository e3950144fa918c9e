/-!
# Refused requests

Why a request gets an error for an answer, in either direction.
-/

namespace SailNav

/-- Why a request is refused. -/
inductive Refusal where
  | notInitialized
  | invalidRequest
  | unknownMethod
  | invalidParams
  deriving DecidableEq, Repr, Inhabited

namespace Refusal

/-- The number of the error. -/
def code : Refusal → Int
  | notInitialized => -32002
  | invalidRequest => -32600
  | unknownMethod => -32601
  | invalidParams => -32602

/-- The text of the error. -/
def message : Refusal → String
  | notInitialized => "Server not initialized"
  | invalidRequest => "Invalid request"
  | unknownMethod => "Method not found"
  | invalidParams => "invalid params"

/-- The sort of errors that the number stands for. -/
def sort : Refusal → String
  | notInitialized => "Server error"
  | invalidRequest => "Invalid request"
  | unknownMethod => "Method not found"
  | invalidParams => "Invalid params"

/-- The error as it is logged. -/
def text (r : Refusal) : String := r.sort ++ ": " ++ r.message

end Refusal

end SailNav
