import AsmDiagnostics.Proofs.Pipeline.Flights
import AsmDiagnostics.Proofs.Session.Notices
import AsmDiagnostics.Proofs.Session.Taking

/-!
# The phases of a session

A session is uninitialized until it grants a first introduction, runs until it grants a request to
shut down, and then refuses all requests.  What a request comes to follows from the phase, the
method, and whether its parameters can be understood.
-/

namespace AsmDiagnostics

open Message

/-- What a request comes to. -/
inductive Verdict where
  | granted (result : Json)
  /-- All diagnostics of a document. -/
  | report
  | refused (code : Int)

/-- The answers under an id that carry out a verdict. -/
inductive Verdict.Allows (id : Json) : Verdict → Json → Prop where
  | granted (result : Json) : Allows id (.granted result) (answer id result)
  | report (diagnostics : List Diagnostic) : Allows id .report (answer id (fullReport diagnostics))
  | refused (fault : Fault) : Allows id (.refused fault.code) (refusal id fault)

inductive Phase where
  | uninitialized
  | running
  | shutDown
  deriving DecidableEq, Repr

namespace Phase

def request (phase : Phase) (method : String) (params? : Option Json) : Verdict × Phase :=
  match phase with
  | uninitialized =>
      if method = "initialize" then
        if (decodeParams InitializeParams.decode params?).isOk then (.granted welcome, running)
        else (.refused (-32602), uninitialized)
      else (.refused (-32002), uninitialized)
  | running =>
      if method = "initialize" then (.refused (-32600), running)
      else if method = "shutdown" then (.granted .null, shutDown)
      else if method = "textDocument/diagnostic" then
        if (decodeParams documentParams params?).isOk then (.report, running)
        else (.refused (-32602), running)
      else (.refused (-32601), running)
  | shutDown => (.refused (-32600), shutDown)

def after (phase : Phase) (body : List UInt8) : Phase :=
  match Incoming.ofBody? body with
  | some (.request _ method params?) => (phase.request method params?).2
  | _ => phase

def afterAll (phase : Phase) (bodies : List (List UInt8)) : Phase := bodies.foldl after phase

theorem afterAll_snoc (phase : Phase) (bodies : List (List UInt8)) (body : List UInt8) :
    phase.afterAll (bodies ++ [body]) = (phase.afterAll bodies).after body := by
  simp [afterAll]

/-- The phase moves on when a first introduction or a request to shut down is granted. -/
inductive Moves (body : List UInt8) : Phase → Phase → Prop where
  | introduced {id : Json} {params? : Option Json}
      (request : Incoming.ofBody? body = some (.request id "initialize" params?))
      (understood : (decodeParams InitializeParams.decode params?).isOk = true) :
      Moves body uninitialized running
  | dismissed {id : Json} {params? : Option Json}
      (request : Incoming.ofBody? body = some (.request id "shutdown" params?)) :
      Moves body running shutDown

theorem moves_of_ne {phase : Phase} {body : List UInt8} (moved : phase.after body ≠ phase) :
    Moves body phase (phase.after body) := by
  unfold after at moved ⊢
  split at moved
  · rename_i id method params? request
    cases phase with
    | uninitialized =>
        simp only [Phase.request] at moved ⊢
        split at moved
        · rename_i introduction
          subst introduction
          split at moved
          · rename_i understood
            rw [if_pos rfl, if_pos understood]
            exact .introduced request understood
          · exact absurd rfl moved
        · exact absurd rfl moved
    | running =>
        simp only [Phase.request] at moved ⊢
        split at moved
        · exact absurd rfl moved
        · rename_i other
          split at moved
          · rename_i dismissal
            subst dismissal
            rw [if_neg other, if_pos rfl]
            exact .dismissed request
          · split at moved
            · split at moved
              · exact absurd rfl moved
              · exact absurd rfl moved
            · exact absurd rfl moved
    | shutDown => exact absurd rfl moved
  · exact absurd rfl moved

end Phase

namespace Session

def phase (s : Session) : Phase :=
  if s.pipeline?.isNone then .uninitialized
  else if s.shutdownRequested then .shutDown
  else .running

theorem phase_bare (s : Session) : s.bare.phase = s.phase := by
  unfold phase
  rw [bare_isNone]
  rfl

theorem phase_withPipeline (s : Session) (f : Pipeline Json → Pipeline Json) :
    (s.withPipeline f).phase = s.phase := by
  rw [← phase_bare, withPipeline_bare, phase_bare]

theorem phase_heed (s : Session) (notice : Notice) : (s.heed notice).phase = s.phase := by
  cases notice with
  | opened params => exact phase_withPipeline _ _
  | changed params =>
      simp only [heed, changed]
      split
      · rfl
      · exact phase_withPipeline _ _
  | closed uri => exact phase_withPipeline _ _
  | filesChanged => exact phase_withPipeline _ _

/-- A session that was asked to shut down has been introduced before. -/
def Orderly (s : Session) : Prop := s.shutdownRequested = true → s.pipeline?.isSome

theorem phase_eq_uninitialized_iff (s : Session) : s.phase = .uninitialized ↔ s.pipeline? = none := by
  unfold phase
  split
  · rename_i new
    simpa using new
  · rename_i known
    split <;> simpa using known

theorem phase_eq_running_iff (s : Session) :
    s.phase = .running ↔ s.pipeline?.isSome ∧ s.shutdownRequested = false := by
  unfold phase
  cases s.pipeline? with
  | none => simp
  | some p => cases s.shutdownRequested <;> simp

theorem phase_eq_shutDown_iff (s : Session) :
    s.phase = .shutDown ↔ s.pipeline?.isSome ∧ s.shutdownRequested = true := by
  unfold phase
  cases s.pipeline? with
  | none => simp
  | some p => cases s.shutdownRequested <;> simp

/-! ## Requests -/

/-- How a request is judged: it is answered at once, or it is a question for the pipeline. -/
inductive Judged (s : Session) (id : Json) (method : String) (params? : Option Json)
    (judgement : Verdict × Phase) (turn : Turn) : Prop where
  | answered {answer : Json} (given : turn.answer? = some answer)
      (allowed : judgement.1.Allows id answer) (phase : turn.session.phase = judgement.2)
  | asked (silent : turn.answer? = none) (report : judgement.1 = .report)
      (asks : s.asks method params? = true) (phase : turn.session.phase = judgement.2)

section Requests

variable {s : Session} {id : Json} {method : String} {params? : Option Json}

theorem code_of_decodeParams {α : Type} {decoder : Json.Decoder α} {fault : Fault}
    (failed : decodeParams decoder params? = .error fault) : fault.code = -32602 := by
  unfold decodeParams at failed
  split at failed
  · exact nomatch failed
  · rw [← Except.error.inj failed]
    rfl

theorem takeInitialize_judged (orderly : s.Orderly) (new : s.pipeline? = none) :
    Judged s id "initialize" params? (Phase.uninitialized.request "initialize" params?)
      (s.takeInitialize id params?) := by
  have running : s.shutdownRequested = false := by
    cases asked : s.shutdownRequested with
    | false => rfl
    | true => simpa [new] using orderly asked
  simp only [takeInitialize, new, Option.isSome_none, Phase.request, if_true]
  cases decoded : decodeParams InitializeParams.decode params? with
  | error fault =>
      exact .answered rfl (code_of_decodeParams decoded ▸ .refused fault)
        ((phase_eq_uninitialized_iff s).mpr new)
  | ok params =>
      exact .answered rfl (.granted welcome) ((phase_eq_running_iff _).mpr ⟨rfl, running⟩)

theorem takeQuestion_judged (running : s.phase = .running) :
    Judged s id "textDocument/diagnostic" params?
      (Phase.running.request "textDocument/diagnostic" params?) (s.takeQuestion id params?) := by
  obtain ⟨ready, goes⟩ := (phase_eq_running_iff s).mp running
  have judgement : Phase.running.request "textDocument/diagnostic" params? =
      if (decodeParams documentParams params?).isOk then (.report, .running)
      else (.refused (-32602), .running) := by
    simp [Phase.request]
  rw [judgement]
  unfold takeQuestion
  cases decoded : decodeParams documentParams params? with
  | error fault => exact .answered rfl (code_of_decodeParams decoded ▸ .refused fault) running
  | ok uri =>
      have understood : (Except.ok uri : Except Fault Uri).isOk = true := rfl
      dsimp only
      rw [if_pos understood]
      split
      · rename_i isOpen
        refine .asked rfl rfl ?_ ((phase_withPipeline _ _).trans running)
        simp [asks, ready, goes, decoded, Except.toOption, isOpen]
      · exact .answered rfl (.report []) running

/-- A request is judged by the phase. -/
theorem takeRequest_judged (orderly : s.Orderly) :
    Judged s id method params? (s.phase.request method params?)
      (s.takeRequest id method params?) := by
  unfold takeRequest
  cases phase : s.phase with
  | uninitialized =>
      have new := (phase_eq_uninitialized_iff s).mp phase
      split
      · rename_i first
        rw [first]
        exact takeInitialize_judged orderly new
      · rename_i other
        rw [if_pos (by rw [new]; rfl)]
        simp only [Phase.request, if_neg other]
        exact .answered rfl (.refused .notInitialized) phase
  | running =>
      obtain ⟨ready, goes⟩ := (phase_eq_running_iff s).mp phase
      split
      · rename_i again
        simp only [takeInitialize, ready, Phase.request, again, if_true]
        exact .answered rfl (.refused .invalidRequest) phase
      · rename_i other
        rw [if_neg (by simpa using Option.isSome_iff_ne_none.mp ready),
          if_neg (Bool.eq_false_iff.mp goes)]
        split
        · rename_i dismissal
          simp only [Phase.request, dismissal]
          refine .answered rfl (.granted .null) ((phase_eq_shutDown_iff _).mpr ⟨?_, rfl⟩)
          exact (withPipeline_isSome _ _).trans ready
        · rename_i stays
          split
          · rename_i question
            rw [question]
            exact takeQuestion_judged phase
          · rename_i unknown
            simp only [Phase.request, if_neg other, if_neg stays, if_neg unknown]
            exact .answered rfl (.refused (.methodNotFound method)) phase
  | shutDown =>
      obtain ⟨ready, dismissed⟩ := (phase_eq_shutDown_iff s).mp phase
      simp only [Phase.request]
      split
      · simp only [takeInitialize, ready]
        exact .answered rfl (.refused .invalidRequest) phase
      · rw [if_neg (by simpa using Option.isSome_iff_ne_none.mp ready)]
        exact .answered rfl (.refused .invalidRequest) phase

end Requests

/-! ## Frames -/

theorem take_orderly {s : Session} (h : s.Orderly) (body : List UInt8) :
    (s.take body).session.Orderly := by
  intro asked
  generalize later : (s.take body).session = t at asked ⊢
  have made : Made s body t := later ▸ take_made s body
  cases made with
  | nothing unheard => exact h asked
  | heeded heard =>
      rw [heed_isSome]
      exact h ((heed_shutdownRequested s _).symm.trans asked)
  | introduced request understood new => rfl
  | asked unheard running isOpen id => exact nomatch running.symm.trans asked
  | shut unheard ready running => exact (withPipeline_isSome _ _).trans ready

theorem afterAll_orderly (settings : Settings) (bodies : List (List UInt8)) :
    ((start settings).afterAll bodies).Orderly := by
  have first : (start settings).Orderly := nofun
  unfold afterAll
  generalize start settings = s at first
  induction bodies generalizing s with
  | nil => exact first
  | cons body bodies ih => exact ih _ (take_orderly first body)

/-- No frame but a request changes the phase, and a request does as it is judged. -/
theorem take_phase {s : Session} (h : s.Orderly) (body : List UInt8) :
    (s.take body).session.phase = s.phase.after body := by
  by_cases request : ∃ id method params?,
      Incoming.ofBody? body = some (.request id method params?)
  · obtain ⟨id, method, params?, request⟩ := request
    have judged : Judged s id method params? (s.phase.request method params?)
        (s.takeRequest id method params?) := takeRequest_judged h
    simp only [take_request request, Phase.after, request]
    cases judged with
    | answered given allowed phase => exact phase
    | asked silent report asks phase => exact phase
  · have other : ∀ id method params?, Incoming.ofBody? body ≠ some (.request id method params?) :=
      fun id method params? same => request ⟨id, method, params?, same⟩
    have stays : s.phase.after body = s.phase := by
      unfold Phase.after
      split
      · rename_i same
        exact absurd same (other _ _ _)
      · rfl
    rw [take_other other, stays]
    cases Notice.ofBody? body with
    | none => rfl
    | some notice => exact phase_heed s notice

theorem afterAll_phase (settings : Settings) (bodies : List (List UInt8)) :
    ((start settings).afterAll bodies).phase = Phase.uninitialized.afterAll bodies := by
  have first : (start settings).Orderly := nofun
  have new : (start settings).phase = .uninitialized := rfl
  unfold afterAll Phase.afterAll
  rw [← new]
  generalize start settings = s at first
  induction bodies generalizing s with
  | nil => rfl
  | cons body bodies ih =>
      rw [List.foldl_cons, List.foldl_cons, ih _ (take_orderly first body), take_phase first]

/-! ## The workspace -/

/-- The workspace of the pipeline, if there is one; a pipeline may have none. -/
def workspace? (s : Session) : Option (Option Workspace) := s.pipeline?.map Pipeline.workspace?

def introduction? (settings : Settings) (body : List UInt8) : Option (Option Workspace) :=
  match Incoming.ofBody? body with
  | some (.request _ method params?) =>
      if method = "initialize" then
        (decodeParams InitializeParams.decode params?).toOption.map fun params =>
          params.root?.map fun root => Workspace.ofRoot root settings
      else none
  | _ => none

theorem workspace?_withPipeline (s : Session) {f : Pipeline Json → Pipeline Json}
    (keeps : ∀ p, (f p).workspace? = p.workspace?) :
    (s.withPipeline f).workspace? = s.workspace? := by
  unfold workspace? withPipeline
  rw [Option.map_map]
  exact congrArg (fun g => s.pipeline?.map g) (funext keeps)

theorem workspace?_heed (s : Session) (notice : Notice) :
    (s.heed notice).workspace? = s.workspace? := by
  cases notice with
  | opened params => exact workspace?_withPipeline _ fun p => rfl
  | changed params =>
      simp only [heed, changed]
      split
      · rfl
      · exact workspace?_withPipeline _ fun p => rfl
  | closed uri => exact workspace?_withPipeline _ fun p => p.abortPush_workspace? uri
  | filesChanged =>
      refine workspace?_withPipeline _ fun p => ?_
      generalize s.documents.entries = entries
      induction entries generalizing p with
      | nil => rfl
      | cons entry entries ih => exact ih (p.change entry.1 entry.2.version)

theorem introduction?_of_understood {settings : Settings} {body : List UInt8} {id : Json}
    {params? : Option Json} {params : InitializeParams}
    (request : Incoming.ofBody? body = some (.request id "initialize" params?))
    (understood : decodeParams InitializeParams.decode params? = .ok params) :
    introduction? settings body =
      some (params.root?.map fun root => Workspace.ofRoot root settings) := by
  simp [introduction?, request, understood, Except.toOption]

/-- A frame that is no introduction, or comes after one, leaves the workspace as it is. -/
theorem workspace?_of_made {s later : Session} {body : List UInt8} (made : Made s body later)
    (again : s.pipeline? = none → introduction? s.settings body = none) :
    later.workspace? = s.workspace? := by
  cases made with
  | nothing unheard => rfl
  | heeded heard => exact workspace?_heed s _
  | introduced request understood new =>
      exact nomatch (again new).symm.trans (introduction?_of_understood request understood)
  | asked unheard running isOpen id => exact workspace?_withPipeline _ fun p => rfl
  | shut unheard ready running =>
      exact workspace?_withPipeline s fun p => p.shutdown_workspace?

/-- The workspace is that of the first introduction, and stays so. -/
theorem take_workspace? (s : Session) (body : List UInt8) :
    (s.take body).session.workspace? = s.workspace?.or (introduction? s.settings body) := by
  have stays := workspace?_of_made (take_made s body)
  cases known : s.pipeline? with
  | some p =>
      have chosen : s.workspace? = some p.workspace? := by simp [workspace?, known]
      have still := stays fun new => absurd (known.symm.trans new) (Option.some_ne_none p)
      rw [still, chosen, Option.some_or]
  | none =>
      have new : s.workspace? = none := by simp [workspace?, known]
      rw [new, Option.none_or]
      cases introduction : introduction? s.settings body with
      | none => exact (stays fun _ => introduction).trans new
      | some workspace =>
          unfold introduction? at introduction
          split at introduction
          · rename_i id method params? request
            split at introduction
            · rename_i first
              subst first
              obtain ⟨params, decoded, rfl⟩ := Option.map_eq_some_iff.mp introduction
              have understood : decodeParams InitializeParams.decode params? = .ok params := by
                cases given : decodeParams InitializeParams.decode params? with
                | error fault => simp [given, Except.toOption] at decoded
                | ok other =>
                    rw [given] at decoded
                    exact congrArg _ (Option.some.inj decoded)
              simp only [take_request request, takeRequest, takeInitialize, known, understood]
              rfl
            · cases introduction
          · cases introduction

theorem take_settings (s : Session) (body : List UInt8) :
    (s.take body).session.settings = s.settings := by
  have made := take_made s body
  generalize (s.take body).session = later at made
  cases made with
  | @heeded notice heard =>
      cases notice with
      | changed params =>
          simp only [heed, changed]
          split <;> rfl
      | _ => rfl
  | _ => rfl

theorem afterAll_settings (s : Session) (bodies : List (List UInt8)) :
    (s.afterAll bodies).settings = s.settings := by
  induction bodies generalizing s with
  | nil => rfl
  | cons body bodies ih => exact (ih _).trans (take_settings s body)

end Session

end AsmDiagnostics
