import AsmDiagnostics.Documents
import AsmDiagnostics.Json.Decode
import AsmDiagnostics.Message.Fault

/-!
# Parameters of messages

The records that the parameters of requests and notifications are decoded into. A message without
parameters counts as one with null.
-/

namespace AsmDiagnostics.Message

def uri : Json.Decoder Uri
  | .str s =>
      match Uri.parse s with
      | .ok result => .ok result
      | .error fault => .error (.invalidText fault.message s)
  | found => .error (.invalidType found "a string representing an URL")

def record {α : Type} (name : String) (fields : Json.Fields α) : Json.Decoder α :=
  Json.record name fields false

def decodeParams {α : Type} (decoder : Json.Decoder α) (params? : Option Json) :
    Except Fault α :=
  match decoder (Json.ofOption params?) with
  | .ok params => .ok params
  | .error fault => .error (.invalidParams fault.message)

/-- Where the editor says that the workspace is. -/
structure InitializeParams where
  rootUri? : Option Uri
  rootPath? : Option String
  folders? : Option (List Uri)
  deriving DecidableEq, Repr

namespace InitializeParams

def folder : Json.Decoder Uri := record "WorkspaceFolder" (Json.required "uri" uri)

def decode : Json.Decoder InitializeParams :=
  record "InitializeParams"
    (((Json.defaulted "rootUri" (Json.optional uri) none).and
      ((Json.defaulted "rootPath" (Json.optional Json.string) none).and
        (Json.defaulted "workspaceFolders" (Json.optional (Json.list folder)) none))).map
      fun r => ⟨r.1, r.2.1, r.2.2⟩)

/-- The root of the workspace: the root URI, else the first folder, else the path. -/
def root? (p : InitializeParams) : Option Path :=
  (p.rootUri?.bind Uri.filePath?).or
    (((p.folders?.bind List.head?).bind Uri.filePath?).or
      ((p.rootPath?.filter fun path => path ≠ "").map Path.ofString))

end InitializeParams

structure OpenParams where
  uri : Uri
  version : Int
  text : String
  deriving DecidableEq, Repr

def OpenParams.decode : Json.Decoder OpenParams :=
  record "DidOpenParams"
    (Json.required "textDocument"
      (record "TextDocumentItem"
        (((Json.required "uri" Message.uri).and
          ((Json.required "version" Json.signed32).and (Json.required "text" Json.string))).map
          fun r => ⟨r.1, r.2.1, r.2.2⟩)))

def position : Json.Decoder Position :=
  record "LspPosition"
    (((Json.required "line" Json.word32).and (Json.required "character" Json.word32)).map
      fun r => ⟨r.1, r.2⟩)

def range : Json.Decoder Range :=
  record "LspRange"
    (((Json.required "start" position).and (Json.required "end" position)).map
      fun r => ⟨r.1, r.2⟩)

def edit : Json.Decoder Edit :=
  record "ContentChange"
    (((Json.defaulted "range" (Json.optional range) none).and
      (Json.required "text" Json.string)).map fun r => ⟨r.1, r.2⟩)

def edits : Json.Decoder (List Edit) := Json.list edit

structure ChangeParams where
  uri : Uri
  version : Int
  edits : List Edit
  deriving DecidableEq, Repr

def ChangeParams.decode : Json.Decoder ChangeParams :=
  record "DidChangeParams"
    (((Json.required "textDocument"
        (record "VersionedTextDocumentIdentifier"
          ((Json.required "uri" Message.uri).and (Json.required "version" Json.signed32)))).and
      (Json.required "contentChanges" Message.edits)).map
      fun r => ⟨r.1.1, r.1.2, r.2⟩)

def documentParams : Json.Decoder Uri :=
  record "TextDocumentParams"
    (Json.required "textDocument"
      (record "TextDocumentIdentifier" (Json.required "uri" uri)))

def changedFiles : Json.Decoder (List Uri) :=
  record "DidChangeWatchedFilesParams"
    (Json.defaulted "changes" (Json.list (record "FileEvent" (Json.required "uri" uri))) [])

end AsmDiagnostics.Message
