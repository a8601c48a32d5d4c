import AsmDiagnostics.Json.Reader
import AsmDiagnostics.Message.Incoming
import AsmDiagnostics.Message.Outgoing
import AsmDiagnostics.Message.Params
import AsmDiagnostics.Pipeline.Basic

/-!
# Sessions

A session answers the messages of one editor. It is made without a pipeline; the first request to
initialize that can be understood makes one for the editor's workspace. After a request to shut down
every request is refused, and the notification `exit` ends the session.

Taking a message is immediate: all that lasts longer is left on the agenda of the pipeline.
-/

namespace AsmDiagnostics

/-- A session with an editor; questions to its pipeline have the id of their request for a ticket. -/
structure Session where
  settings : Settings
  documents : Documents
  pipeline? : Option (Pipeline Json)
  shutdownRequested : Bool

/-- What comes of a message: the answer to it, if it has one at once, whether the session ends, and
what it becomes. -/
structure Turn where
  answer? : Option Json
  ends : Bool
  session : Session

namespace Session

def start (settings : Settings) : Session := ⟨settings, Documents.none, none, false⟩

def silent (s : Session) : Turn := ⟨none, false, s⟩

def replying (s : Session) (id : Json) (outcome : Except Message.Fault Json) : Turn :=
  ⟨some (Message.reply id outcome), false, s⟩

def withPipeline (s : Session) (f : Pipeline Json → Pipeline Json) : Session :=
  { s with pipeline? := s.pipeline?.map f }

def pipelineFor (settings : Settings) (root? : Option Path) : Pipeline Json :=
  Pipeline.start (root?.map fun root => Workspace.ofRoot root settings) settings.debounceMillis

def takeInitialize (s : Session) (id : Json) (params? : Option Json) : Turn :=
  if s.pipeline?.isSome then s.replying id (.error .invalidRequest)
  else
    match Message.decodeParams Message.InitializeParams.decode params? with
    | .error fault => s.replying id (.error fault)
    | .ok params =>
        { s with pipeline? := some (pipelineFor s.settings params.root?) }.replying id
          (.ok Message.welcome)

/-- The editor asks for the diagnostics of a document. A document that is not open has none; for any
other the answer comes when its run is over. -/
def takeQuestion (s : Session) (id : Json) (params? : Option Json) : Turn :=
  match Message.decodeParams Message.documentParams params? with
  | .error fault => s.replying id (.error fault)
  | .ok uri =>
      if s.documents.contains uri then (s.withPipeline fun p => p.pull uri id).silent
      else s.replying id (.ok (Message.fullReport []))

def takeShutdown (s : Session) (id : Json) : Turn :=
  { s.withPipeline Pipeline.shutdown with shutdownRequested := true }.replying id (.ok .null)

def takeRequest (s : Session) (id : Json) (method : String) (params? : Option Json) : Turn :=
  if method = "initialize" then s.takeInitialize id params?
  else if s.pipeline?.isNone then s.replying id (.error .notInitialized)
  else if s.shutdownRequested then s.replying id (.error .invalidRequest)
  else if method = "shutdown" then s.takeShutdown id
  else if method = "textDocument/diagnostic" then s.takeQuestion id params?
  else s.replying id (.error (.methodNotFound method))

def opened (s : Session) (p : Message.OpenParams) : Session :=
  { s with documents := s.documents.openAt p.uri p.version p.text }.withPipeline
    fun pipeline => pipeline.change p.uri p.version

/-- A document is edited; nothing happens to one that is not open. -/
def changed (s : Session) (p : Message.ChangeParams) : Session :=
  match s.documents.change? p.uri p.version p.edits with
  | none => s
  | some documents =>
      { s with documents := documents }.withPipeline fun pipeline => pipeline.change p.uri p.version

def closed (s : Session) (uri : Uri) : Session :=
  { s with documents := s.documents.close uri }.withPipeline fun pipeline => pipeline.close uri

/-- Files have changed on the disk. A document may depend on files that it never names, so every
open document is looked at again. -/
def filesChanged (s : Session) : Session :=
  s.withPipeline fun pipeline =>
    s.documents.entries.foldl (fun p entry => p.change entry.1 entry.2.version) pipeline

def afterNotification (s : Session) (method : String) (params? : Option Json) : Session :=
  if method = "textDocument/didOpen" then
    (Message.decodeParams Message.OpenParams.decode params?).toOption.elim s s.opened
  else if method = "textDocument/didChange" then
    (Message.decodeParams Message.ChangeParams.decode params?).toOption.elim s s.changed
  else if method = "textDocument/didClose" then
    (Message.decodeParams Message.documentParams params?).toOption.elim s s.closed
  else if method = "workspace/didChangeWatchedFiles" then
    (Message.decodeParams Message.changedFiles params?).toOption.elim s fun _ => s.filesChanged
  else s

def takeMessage (s : Session) : Message.Incoming → Turn
  | .request id method params? => s.takeRequest id method params?
  | .notification method params? =>
      if method = "exit" then ⟨none, true, s⟩ else (s.afterNotification method params?).silent
  | .response _ => s.silent

def take (s : Session) (body : List UInt8) : Turn :=
  match Json.parse body with
  | .error fault => s.replying .null (.error (.notJson fault.message))
  | .ok value =>
      match Message.Incoming.ofJson? value with
      | none => s.replying (Message.idOf value) (.error .invalidRequest)
      | some message => s.takeMessage message

def messageOf? (event : Event Json) : Option Json :=
  match event.deed with
  | .clear => some (Message.publishDiagnostics event.run.uri [])
  | .build _ => none
  | .complain message => some (Message.logError message)
  | .deliver diagnostics =>
      match event.run.trigger with
      | .push => some (Message.publishDiagnostics event.run.uri diagnostics)
      | .pull id => some (Message.answer id (Message.fullReport diagnostics))

end Session

end AsmDiagnostics
