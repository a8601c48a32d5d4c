import AsmDiagnostics.Json.Reader
import AsmDiagnostics.Message.Incoming
import AsmDiagnostics.Message.Outgoing

/-!
# Which frames are answered

The id under which a frame is to be answered, read off its body alone, and what makes a message an
answer: it carries the id, and either a result or an error.  All other messages to the editor carry
no id.
-/

namespace AsmDiagnostics.Message

/-- The id under which a frame is to be answered; a frame without JSON in it is answered with null.
-/
def due? (body : List UInt8) : Option Json :=
  match Json.parse body with
  | .error _ => some .null
  | .ok value =>
      match Incoming.ofJson? value with
      | none => some (idOf value)
      | some (.request id _ _) => some id
      | some (.notification _ _) => none
      | some (.response _) => none

def isGarbled (body : List UInt8) : Bool :=
  match Json.parse body with
  | .error _ => true
  | .ok value => (Incoming.ofJson? value).isNone

/-- A frame that ends the session. -/
def isExit (body : List UInt8) : Bool :=
  match Json.parse body with
  | .error _ => false
  | .ok value =>
      match Incoming.ofJson? value with
      | some (.notification method _) => decide (method = "exit")
      | _ => false

/-- A notification after which documents are looked at again. -/
def isStirring (method : String) : Bool :=
  decide (method ∈ ["textDocument/didOpen", "textDocument/didChange",
    "workspace/didChangeWatchedFiles"])

/-- A frame after which documents are looked at again. -/
def stirs (body : List UInt8) : Bool :=
  match Json.parse body with
  | .error _ => false
  | .ok value =>
      match Incoming.ofJson? value with
      | some (.notification method _) => isStirring method
      | _ => false

/-- A message that shows diagnostics for a document. -/
def isPublication (message : Json) : Bool :=
  (message.get? "method").any fun method => method.text? == some "textDocument/publishDiagnostics"

def isRefusal (message : Json) : Bool := (message.get? "error").isSome

/-- An answer under an id: it has either a result or an error. -/
structure IsAnswer (id message : Json) : Prop where
  own : message.get? "id" = some id
  outcome : (message.get? "result").isSome = !isRefusal message
  unasked : message.get? "method" = none

/-- Something the editor is told without asking. -/
structure IsNotice (message : Json) : Prop where
  nameless : message.get? "id" = none
  named : (message.get? "method").isSome

theorem get?_triple (key : String) (first second third : String × Json) :
    (Json.object [first, second, third]).get? key =
      if key = third.1 then some third.2
      else if key = second.1 then some second.2
      else if key = first.1 then some first.2
      else none := by
  change Json.lookup key (Json.insertMember third.1 third.2 (Json.insertMember second.1 second.2
    (Json.insertMember first.1 first.2 []))) = _
  have inserted (name : String) (value : Json) (members : List (String × Json)) :
      Json.lookup key (Json.insertMember name value members) =
        if key = name then some value else Json.lookup key members := by
    split
    · rename_i same
      rw [same]
      exact Json.lookup_insertMember_self name value members
    · rename_i other
      exact Json.lookup_insertMember_other other value members
  rw [inserted, inserted, inserted]
  rfl

theorem answer_isAnswer (id result : Json) : IsAnswer id (answer id result) := by
  constructor <;> simp [answer, version, isRefusal, get?_triple]

theorem refusal_isAnswer (id : Json) (fault : Fault) : IsAnswer id (refusal id fault) := by
  constructor <;> simp [refusal, version, isRefusal, get?_triple]

theorem refusal_isRefusal (id : Json) (fault : Fault) : isRefusal (refusal id fault) = true := by
  simp [refusal, version, isRefusal, get?_triple]

theorem answer_not_refusal (id result : Json) : isRefusal (answer id result) = false := by
  simp [answer, version, isRefusal, get?_triple]

theorem reply_isAnswer (id : Json) (outcome : Except Fault Json) :
    IsAnswer id (reply id outcome) := by
  cases outcome with
  | ok result => exact answer_isAnswer id result
  | error fault => exact refusal_isAnswer id fault

theorem notification_isNotice (method : String) (params : Json) :
    IsNotice (notification method params) := by
  constructor <;> simp [notification, version, get?_triple]

theorem publishDiagnostics_isNotice (uri : Uri) (diagnostics : List Diagnostic) :
    IsNotice (publishDiagnostics uri diagnostics) :=
  notification_isNotice _ _

theorem logError_isNotice (text : String) : IsNotice (logError text) := notification_isNotice _ _

theorem answer_not_publication {id message : Json} (form : IsAnswer id message) :
    isPublication message = false := by
  simp [isPublication, form.unasked]

theorem logError_not_publication (text : String) : isPublication (logError text) = false := by
  simp [isPublication, logError, notification, version, get?_triple, Json.text?]

end AsmDiagnostics.Message
