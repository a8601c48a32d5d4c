/-!
# Refused requests

Why a request is refused, with the number and the wording that the editor is given.
-/

namespace AsmDiagnostics.Message

/-- Why a request is refused. -/
inductive Fault where
  /-- The body is not JSON. -/
  | notJson (reason : String)
  | invalidRequest
  | methodNotFound (method : String)
  | invalidParams (reason : String)
  | notInitialized
  deriving DecidableEq, Repr

namespace Fault

def code : Fault → Int
  | .notJson _ => -32700
  | .invalidRequest => -32600
  | .methodNotFound _ => -32601
  | .invalidParams _ => -32602
  | .notInitialized => -32002

def message : Fault → String
  | .notJson reason => "Parse error: " ++ reason
  | .invalidRequest => "Invalid request"
  | .methodNotFound method => "Method not found: " ++ method
  | .invalidParams reason => "Invalid params: " ++ reason
  | .notInitialized => "Server not initialized"

end Fault

end AsmDiagnostics.Message
