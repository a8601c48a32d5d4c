import AsmDiagnostics.Proofs.Session.Notices
import AsmDiagnostics.Proofs.Session.Taking

/-!
# Frames that a session refuses

A frame without a message in it, a response, a request that is answered with an error, a question
about a document that is not open, a notification that cannot be understood, and a change of a
document that is not open: the session rebuffs each of these and stays as it is, so all frames
behind are taken as if that one were not there.
-/

namespace AsmDiagnostics

open Message

/-- The parameters of a notification do not decode. -/
inductive Notice.Garbled (params? : Option Json) : String → Prop where
  | opened {fault : Fault} (failed : decodeParams OpenParams.decode params? = .error fault) :
      Garbled params? "textDocument/didOpen"
  | changed {fault : Fault} (failed : decodeParams ChangeParams.decode params? = .error fault) :
      Garbled params? "textDocument/didChange"
  | closed {fault : Fault} (failed : decodeParams documentParams params? = .error fault) :
      Garbled params? "textDocument/didClose"
  | filesChanged {fault : Fault} (failed : decodeParams changedFiles params? = .error fault) :
      Garbled params? "workspace/didChangeWatchedFiles"

namespace Notice

def methods : List String :=
  ["exit", "textDocument/didOpen", "textDocument/didChange", "textDocument/didClose",
    "workspace/didChangeWatchedFiles"]

variable {method : String} {params? : Option Json}

theorem ofNotification?_garbled (garbled : Garbled params? method) :
    ofNotification? method params? = none := by
  cases garbled <;> rename_i fault failed <;>
    simp [ofNotification?, failed, Except.toOption]

theorem Garbled.ne_exit (garbled : Garbled params? method) : method ≠ "exit" := by
  cases garbled <;> simp

theorem ofNotification?_unknown (unknown : method ∉ methods) :
    ofNotification? method params? = none := by
  simp only [methods, List.mem_cons, List.not_mem_nil, or_false, not_or] at unknown
  obtain ⟨-, opened, changed, closed, filesChanged⟩ := unknown
  simp [ofNotification?, opened, changed, closed, filesChanged]

theorem exists_of_ofBody? {body : List UInt8} {notice : Notice} (h : ofBody? body = some notice) :
    ∃ method params?, Incoming.ofBody? body = some (.notification method params?) ∧
      ofNotification? method params? = some notice := by
  unfold ofBody? at h
  split at h
  · rename_i method params? message
    exact ⟨method, params?, message, h⟩
  · cases h

end Notice

namespace Session

/-- The session refuses a frame. -/
inductive Refuses (s : Session) (body : List UInt8) : Prop where
  /-- The frame holds no JSON, or JSON that is no message. -/
  | garbled (nothing : Incoming.ofBody? body = none)
  | response {id : Json} (message : Incoming.ofBody? body = some (.response id))
  /-- A request is answered with an error. -/
  | fault {id : Json} {method : String} {params? : Option Json} {reply : Json}
      (message : Incoming.ofBody? body = some (.request id method params?))
      (answered : (s.take body).answer? = some reply) (error : isRefusal reply = true)
  /-- The diagnostics of a document are asked for that is not open. -/
  | unopened {id : Json} {params? : Option Json} {uri : Uri}
      (message : Incoming.ofBody? body = some (.request id "textDocument/diagnostic" params?))
      (understood : decodeParams documentParams params? = .ok uri)
      (closed : s.documents.contains uri = false)
  | unknown {method : String} {params? : Option Json}
      (message : Incoming.ofBody? body = some (.notification method params?))
      (unknown : method ∉ Notice.methods)
  | unreadable {method : String} {params? : Option Json}
      (message : Incoming.ofBody? body = some (.notification method params?))
      (garbled : Notice.Garbled params? method)
  /-- A document is changed that is not open. -/
  | unheld {params : ChangeParams} (notice : Notice.ofBody? body = some (.changed params))
      (closed : s.documents.contains params.uri = false)

/-- The reply to a frame that is refused: an error or an empty report under the id of the frame, and
nothing if the frame is a notification or a response. -/
inductive Rebuff (body : List UInt8) : Option Json → Prop where
  | error {id : Json} (due : due? body = some id) (fault : Fault) : Rebuff body (some (refusal id fault))
  | empty {id : Json} {params? : Option Json}
      (question : Incoming.ofBody? body = some (.request id "textDocument/diagnostic" params?)) :
      Rebuff body (some (answer id (fullReport [])))
  | nothing (undue : due? body = none) : Rebuff body none

variable {s : Session} {body : List UInt8} {id : Json} {method : String} {params? : Option Json}

theorem parse_of_ofBody? {message : Incoming} (read : Incoming.ofBody? body = some message) :
    ∃ value, Json.parse body = .ok value ∧ Incoming.ofJson? value = some message := by
  obtain ⟨value, parsed, holds⟩ := Option.bind_eq_some_iff.mp read
  cases given : Json.parse body with
  | error fault => simp [given, Except.toOption] at parsed
  | ok other =>
      rw [given] at parsed
      exact ⟨value, congrArg _ (Option.some.inj parsed), holds⟩

theorem due?_request (request : Incoming.ofBody? body = some (.request id method params?)) :
    due? body = some id := by
  obtain ⟨value, parsed, read⟩ := parse_of_ofBody? request
  simp [due?, parsed, read]

theorem take_notification
    (notice : Incoming.ofBody? body = some (.notification method params?)) (goes : method ≠ "exit") :
    due? body = none ∧
      s.take body = ((Notice.ofNotification? method params?).elim s s.heed).silent := by
  obtain ⟨value, parsed, read⟩ := parse_of_ofBody? notice
  exact ⟨by simp [due?, parsed, read],
    by simp [take, parsed, read, takeMessage, goes, afterNotification_eq]⟩

/-- A request that is answered with an error changes nothing. -/
theorem takeRequest_refusal {reply : Json}
    (answered : (s.takeRequest id method params?).answer? = some reply)
    (error : isRefusal reply = true) :
    ∃ fault, s.takeRequest id method params? = s.replying id (.error fault) := by
  have granted {t : Session} {result : Json}
      (given : (t.replying id (.ok result)).answer? = some reply) : False := by
    obtain rfl := Option.some.inj given
    simp [reply, isRefusal, answer, version, get?_triple] at error
  unfold takeRequest at answered ⊢
  split at answered
  · rename_i introduction
    rw [if_pos introduction]
    unfold takeInitialize at answered ⊢
    split at answered
    · rename_i again
      exact ⟨_, if_pos again⟩
    · rename_i first
      rw [if_neg first]
      split at answered
      · exact ⟨_, rfl⟩
      · exact (granted answered).elim
  · rename_i other
    rw [if_neg other]
    split at answered
    · rename_i early
      exact ⟨_, if_pos early⟩
    · rename_i ready
      rw [if_neg ready]
      split at answered
      · rename_i late
        exact ⟨_, if_pos late⟩
      · rename_i running
        rw [if_neg running]
        split at answered
        · exact (granted answered).elim
        · rename_i stays
          rw [if_neg stays]
          split at answered
          · rename_i question
            rw [if_pos question]
            unfold takeQuestion at answered ⊢
            split at answered
            · exact ⟨_, rfl⟩
            · split at answered
              · cases answered
              · exact (granted answered).elim
          · rename_i unknown
            exact ⟨_, if_neg unknown⟩

/-- A question about a document that is not open is refused, or there is nothing to report. -/
theorem takeRequest_unopened {uri : Uri} (understood : decodeParams documentParams params? = .ok uri)
    (closed : s.documents.contains uri = false) :
    (∃ fault, s.takeRequest id "textDocument/diagnostic" params? = s.replying id (.error fault)) ∨
      s.takeRequest id "textDocument/diagnostic" params? = s.replying id (.ok (fullReport [])) := by
  unfold takeRequest
  rw [if_neg (by simp)]
  split
  · exact .inl ⟨_, rfl⟩
  · split
    · exact .inl ⟨_, rfl⟩
    · simp [takeQuestion, understood, closed]

/-- A session stays as it is when it refuses a frame, and goes on. -/
theorem take_refused (refused : s.Refuses body) :
    ∃ reply?, Rebuff body reply? ∧ s.take body = ⟨reply?, false, s⟩ := by
  have passed {method : String} {params? : Option Json}
      (message : Incoming.ofBody? body = some (.notification method params?))
      (goes : method ≠ "exit") (same : (Notice.ofNotification? method params?).elim s s.heed = s) :
      ∃ reply?, Rebuff body reply? ∧ s.take body = ⟨reply?, false, s⟩ := by
    obtain ⟨undue, taken⟩ := take_notification (s := s) message goes
    exact ⟨none, .nothing undue, by rw [taken, same]; rfl⟩
  cases refused with
  | garbled nothing =>
      cases parsed : Json.parse body with
      | error fault =>
          have due : due? body = some .null := by simp [due?, parsed]
          exact ⟨_, .error due _, by simp only [take, parsed]; rfl⟩
      | ok value =>
          have read : Incoming.ofJson? value = none := by
            simpa [Incoming.ofBody?, parsed, Except.toOption] using nothing
          have due : due? body = some (idOf value) := by simp [due?, parsed, read]
          exact ⟨_, .error due _, by simp only [take, parsed, read]; rfl⟩
  | response message =>
      obtain ⟨value, parsed, read⟩ := parse_of_ofBody? message
      exact ⟨none, .nothing (by simp [due?, parsed, read]),
        by simp only [take, parsed, read]; rfl⟩
  | fault message answered error =>
      rw [take_request message] at answered ⊢
      obtain ⟨fault, taken⟩ := takeRequest_refusal answered error
      exact ⟨_, .error (due?_request message) fault, taken⟩
  | unopened message understood closed =>
      rw [take_request message]
      rcases takeRequest_unopened understood closed with ⟨fault, taken⟩ | taken
      · exact ⟨_, .error (due?_request message) fault, taken⟩
      · exact ⟨_, .empty message, taken⟩
  | unknown message unknown =>
      refine passed message (fun exit => unknown (exit ▸ List.mem_cons_self)) ?_
      rw [Notice.ofNotification?_unknown unknown]
      rfl
  | unreadable message garbled =>
      refine passed message garbled.ne_exit ?_
      rw [Notice.ofNotification?_garbled garbled]
      rfl
  | @unheld params notice closed =>
      obtain ⟨method, params?, message, read⟩ := Notice.exists_of_ofBody? notice
      have goes : method ≠ "exit" := by
        rintro rfl
        simp [Notice.ofNotification?] at read
      refine passed message goes ?_
      rw [read]
      have absent : s.documents.get? params.uri = none := by
        simpa [Documents.contains] using closed
      simp [heed, changed, Documents.change?, absent]

/-- The frames behind one that is refused are taken as if it were not there. -/
theorem exchanges_refused {reply? : Option Json} (taken : s.take body = ⟨reply?, false, s⟩)
    (later : List (List UInt8)) :
    s.afterAll (body :: later) = s.afterAll later ∧
      s.exchanges (body :: later) =
        (reply?.toList.map fun reply => (body, reply)) ++ s.exchanges later := by
  simp [afterAll, exchanges, taken]

end Session

end AsmDiagnostics
