import AsmDiagnostics.Json.Basic

/-!
# Messages from the editor

A message with a method is a request when it has an id and a notification when it has none. A
message with an id but no method is a response when it carries a result or an error. Any other value
is no message.
-/

namespace AsmDiagnostics.Message

inductive Incoming where
  | request (id : Json) (method : String) (params? : Option Json)
  | notification (method : String) (params? : Option Json)
  | response (id : Json)
  deriving Repr

namespace Incoming

def hasOutcome (value : Json) : Bool :=
  (value.get? "result").isSome || (value.get? "error").isSome

def method? (value : Json) : Option String := (value.get? "method").bind Json.text?

def ofJson? (value : Json) : Option Incoming :=
  match value.get? "id", method? value with
  | some id, some method => some (.request id method (value.get? "params"))
  | none, some method => some (.notification method (value.get? "params"))
  | some id, none => if hasOutcome value then some (.response id) else none
  | none, none => none

end Incoming

def idOf (value : Json) : Json := Json.ofOption (value.get? "id")

end AsmDiagnostics.Message
