import AsmDiagnostics.Session

/-!
# What a session makes of a frame

A notification that can be understood is a notice: a document was opened, changed or closed, or
files have changed.  Notices, the first introduction, questions and the request to shut down are all
that changes a session; any other frame leaves it as it is.
-/

namespace AsmDiagnostics

open Message

def Message.Incoming.ofBody? (body : List UInt8) : Option Incoming :=
  (Json.parse body).toOption.bind ofJson?

/-- Something that the editor tells and that concerns documents. -/
inductive Notice where
  | opened (params : OpenParams)
  | changed (params : ChangeParams)
  | closed (uri : Uri)
  | filesChanged
  deriving DecidableEq, Repr

namespace Notice

/-- The notice that a notification stands for, if it can be understood. -/
def ofNotification? (method : String) (params? : Option Json) : Option Notice :=
  if method = "textDocument/didOpen" then
    (decodeParams OpenParams.decode params?).toOption.map opened
  else if method = "textDocument/didChange" then
    (decodeParams ChangeParams.decode params?).toOption.map changed
  else if method = "textDocument/didClose" then
    (decodeParams documentParams params?).toOption.map closed
  else if method = "workspace/didChangeWatchedFiles" then
    (decodeParams changedFiles params?).toOption.map fun _ => filesChanged
  else none

def ofBody? (body : List UInt8) : Option Notice :=
  match Incoming.ofBody? body with
  | some (.notification method params?) => ofNotification? method params?
  | _ => none

end Notice

namespace Documents

def heed (d : Documents) : Notice → Documents
  | .opened params => d.openAt params.uri params.version params.text
  | .changed params => (d.change? params.uri params.version params.edits).getD d
  | .closed uri => d.close uri
  | .filesChanged => d

end Documents

namespace Session

def heed (s : Session) : Notice → Session
  | .opened params => s.opened params
  | .changed params => s.changed params
  | .closed uri => s.closed uri
  | .filesChanged => s.filesChanged

theorem heed_documents (s : Session) (notice : Notice) :
    (s.heed notice).documents = s.documents.heed notice := by
  cases notice with
  | opened params => rfl
  | changed params =>
      simp only [heed, changed, Documents.heed]
      cases s.documents.change? params.uri params.version params.edits with
      | none => rfl
      | some documents => rfl
  | closed uri => rfl
  | filesChanged => rfl

theorem heed_shutdownRequested (s : Session) (notice : Notice) :
    (s.heed notice).shutdownRequested = s.shutdownRequested := by
  cases notice with
  | changed params =>
      simp only [heed, changed]
      cases s.documents.change? params.uri params.version params.edits with
      | none => rfl
      | some documents => rfl
  | _ => rfl

/-- A notification that is no notice is passed over. -/
theorem afterNotification_eq (s : Session) (method : String) (params? : Option Json) :
    s.afterNotification method params? =
      (Notice.ofNotification? method params?).elim s s.heed := by
  have heeded {α : Type} (params : Except Fault α) (notice : α → Notice) :
      params.toOption.elim s (fun a => s.heed (notice a)) =
        (params.toOption.map notice).elim s s.heed := by
    cases params with
    | error fault => rfl
    | ok a => rfl
  unfold afterNotification Notice.ofNotification?
  split
  · exact heeded _ Notice.opened
  · split
    · exact heeded _ Notice.changed
    · split
      · exact heeded _ Notice.closed
      · split
        · exact heeded _ fun _ => Notice.filesChanged
        · rfl

theorem take_request {s : Session} {body : List UInt8} {id : Json} {method : String}
    {params? : Option Json} (request : Incoming.ofBody? body = some (.request id method params?)) :
    s.take body = s.takeRequest id method params? := by
  obtain ⟨value, parsed, read⟩ := Option.bind_eq_some_iff.mp request
  have whole : Json.parse body = .ok value := by
    cases given : Json.parse body with
    | error fault => simp [given, Except.toOption] at parsed
    | ok other =>
        rw [given] at parsed
        exact congrArg _ (Option.some.inj parsed)
  simp [take, whole, read, takeMessage]

/-- All that is not a request is heeded if it is a notice, and is passed over otherwise. -/
theorem take_other {s : Session} {body : List UInt8}
    (other : ∀ id method params?, Incoming.ofBody? body ≠ some (.request id method params?)) :
    (s.take body).session = (Notice.ofBody? body).elim s s.heed := by
  unfold take Notice.ofBody?
  unfold Incoming.ofBody? at other ⊢
  cases parsed : Json.parse body with
  | error fault => rfl
  | ok value =>
      simp only [parsed, Except.toOption, Option.bind_some] at other ⊢
      cases message : Incoming.ofJson? value with
      | none => rfl
      | some incoming =>
          cases incoming with
          | request id method params? => exact absurd message (other id method params?)
          | notification method params? =>
              simp only [takeMessage]
              split
              · rename_i exit
                rw [exit]
                rfl
              · exact afterNotification_eq s method params?
          | response id => rfl

/-- What a frame does to a session. -/
inductive Made (s : Session) (body : List UInt8) : Session → Prop where
  /-- Nothing. -/
  | nothing (unheard : Notice.ofBody? body = none) : Made s body s
  | heeded {notice : Notice} (heard : Notice.ofBody? body = some notice) :
      Made s body (s.heed notice)
  /-- The first introduction that can be understood. -/
  | introduced {id : Json} {params? : Option Json} {params : InitializeParams}
      (request : Incoming.ofBody? body = some (.request id "initialize" params?))
      (understood : decodeParams InitializeParams.decode params? = .ok params)
      (new : s.pipeline? = none) :
      Made s body { s with pipeline? := some (pipelineFor s.settings params.root?) }
  | asked (unheard : Notice.ofBody? body = none) (running : s.shutdownRequested = false)
      {uri : Uri} (isOpen : s.documents.contains uri) (id : Json) :
      Made s body (s.withPipeline fun p => p.pull uri id)
  | shut (unheard : Notice.ofBody? body = none) (ready : s.pipeline?.isSome)
      (running : s.shutdownRequested = false) :
      Made s body { s.withPipeline Pipeline.shutdown with shutdownRequested := true }

theorem takeRequest_made (s : Session) {body : List UInt8} {id : Json} {method : String}
    {params? : Option Json} (request : Incoming.ofBody? body = some (.request id method params?)) :
    Made s body (s.takeRequest id method params?).session := by
  have unheard : Notice.ofBody? body = none := by
    unfold Notice.ofBody?
    rw [request]
  unfold takeRequest
  split
  · rename_i introduction
    subst introduction
    unfold takeInitialize
    split
    · exact .nothing unheard
    · rename_i new
      split
      · exact .nothing unheard
      · rename_i params understood
        exact .introduced request understood (Option.not_isSome_iff_eq_none.mp new)
  · split
    · exact .nothing unheard
    · rename_i ready
      split
      · exact .nothing unheard
      · rename_i running
        have running := Bool.eq_false_iff.mpr running
        split
        · exact .shut unheard (by simpa [Option.isSome_iff_ne_none] using ready) running
        · split
          · unfold takeQuestion
            split
            · exact .nothing unheard
            · split
              · rename_i uri decoded isOpen
                exact .asked unheard running isOpen id
              · exact .nothing unheard
          · exact .nothing unheard

theorem take_made (s : Session) (body : List UInt8) : Made s body (s.take body).session := by
  by_cases request : ∃ id method params?,
      Incoming.ofBody? body = some (.request id method params?)
  · obtain ⟨id, method, params?, request⟩ := request
    rw [take_request request]
    exact takeRequest_made s request
  · rw [take_other fun id method params? same => request ⟨id, method, params?, same⟩]
    cases heard : Notice.ofBody? body with
    | none => exact .nothing heard
    | some notice => exact .heeded heard

end Session

end AsmDiagnostics
