import AsmDiagnostics.Diagnostic
import AsmDiagnostics.Message.Fault
import AsmDiagnostics.Uri.Basic

/-!
# Messages to the editor

Answers to requests, each with a result or an error and never both, and notifications.
-/

namespace AsmDiagnostics.Message

def version : String × Json := ("jsonrpc", .str "2.0")

def answer (id result : Json) : Json := Json.object [version, ("id", id), ("result", result)]

def refusal (id : Json) (fault : Fault) : Json :=
  Json.object
    [version, ("id", id),
      ("error", Json.object [("code", .int fault.code), ("message", .str fault.message)])]

def reply (id : Json) : Except Fault Json → Json
  | .ok result => answer id result
  | .error fault => refusal id fault

/-- Something the editor is told without asking. -/
def notification (method : String) (params : Json) : Json :=
  Json.object [version, ("method", .str method), ("params", params)]

/-- The number by which a server says that it takes documents as a whole. -/
def fullSync : Nat := 1

def errorKind : Nat := 1

def welcome : Json :=
  Json.object
    [("capabilities", Json.object
        [("textDocumentSync", .nat fullSync),
          ("diagnosticProvider", Json.object
            [("interFileDependencies", .bool true), ("workspaceDiagnostics", .bool false)])]),
      ("serverInfo", Json.object
        [("name", .str "rgbds-language-server"), ("version", .str "0.1.0")])]

def fullReport (diagnostics : List Diagnostic) : Json :=
  Json.object [("kind", .str "full"), ("items", Diagnostic.listValue diagnostics)]

def publishDiagnostics (uri : Uri) (diagnostics : List Diagnostic) : Json :=
  notification "textDocument/publishDiagnostics"
    (Json.object [("uri", .str uri.text), ("diagnostics", Diagnostic.listValue diagnostics)])

def logError (message : String) : Json :=
  notification "window/logMessage"
    (Json.object [("type", .nat errorKind), ("message", .str message)])

end AsmDiagnostics.Message
