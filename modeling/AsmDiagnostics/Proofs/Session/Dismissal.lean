import AsmDiagnostics.Proofs.Session.Phase

/-!
# When a session is asked to shut down

A session has been asked to shut down when a request to shut down has come behind an introduction
that was granted. Requests that come too early and notifications of the same name do not count.
-/

namespace AsmDiagnostics

open Message

namespace Phase

theorem afterAll_cons (phase : Phase) (body : List UInt8) (bodies : List (List UInt8)) :
    phase.afterAll (body :: bodies) = (phase.after body).afterAll bodies := rfl

theorem Moves.after_eq {body : List UInt8} {phase next : Phase} (h : Moves body phase next) :
    phase.after body = next := by
  cases h with
  | introduced request understood => simp [after, request, Phase.request, understood]
  | dismissed request => simp [after, request, Phase.request]

/-- A phase that is left is left by one of the frames. -/
theorem exists_move {phase : Phase} {bodies : List (List UInt8)}
    (moved : phase.afterAll bodies ≠ phase) :
    ∃ before body later, bodies = before ++ body :: later ∧ phase.afterAll before = phase ∧
      Moves body phase (phase.after body) := by
  induction bodies with
  | nil => exact absurd rfl moved
  | cons body bodies ih =>
      by_cases stays : phase.after body = phase
      · have later : phase.afterAll bodies ≠ phase := by
          rw [afterAll_cons, stays] at moved
          exact moved
        obtain ⟨before, mover, rest, rfl, still, moves⟩ := ih later
        refine ⟨body :: before, mover, rest, rfl, ?_, moves⟩
        rw [afterAll_cons, stays, still]
      · exact ⟨[], body, bodies, rfl, rfl, moves_of_ne stays⟩

theorem shutDown_after (body : List UInt8) : shutDown.after body = shutDown := by
  unfold after
  split <;> rfl

/-- Nobody who has been introduced becomes a stranger again. -/
theorem after_ne_uninitialized {phase : Phase} (known : phase ≠ uninitialized)
    (body : List UInt8) : phase.after body ≠ uninitialized := by
  intro stranger
  have left : phase.after body ≠ phase := by
    rw [stranger]
    exact known.symm
  have moves := moves_of_ne left
  rw [stranger] at moves
  cases moves

theorem after_shutdown {phase : Phase} (known : phase ≠ uninitialized) {body : List UInt8}
    {id : Json} {params? : Option Json}
    (request : Incoming.ofBody? body = some (.request id "shutdown" params?)) :
    phase.after body = shutDown := by
  cases phase with
  | uninitialized => exact absurd rfl known
  | running => simp [after, request, Phase.request]
  | shutDown => exact shutDown_after body

theorem afterAll_append (phase : Phase) (bodies later : List (List UInt8)) :
    phase.afterAll (bodies ++ later) = (phase.afterAll bodies).afterAll later :=
  List.foldl_append

theorem afterAll_ne_uninitialized {phase : Phase} (known : phase ≠ uninitialized)
    (bodies : List (List UInt8)) : phase.afterAll bodies ≠ uninitialized := by
  induction bodies generalizing phase with
  | nil => exact known
  | cons body bodies ih => exact ih (after_ne_uninitialized known body)

theorem shutDown_afterAll (bodies : List (List UInt8)) : shutDown.afterAll bodies = shutDown := by
  induction bodies with
  | nil => rfl
  | cons body bodies ih => exact (congrArg (afterAll · bodies) (shutDown_after body)).trans ih

end Phase

namespace Session

/-- The frame is a request to initialize, and it is answered with a result. -/
def Grants (s : Session) (body : List UInt8) : Prop :=
  ∃ id params? result, Incoming.ofBody? body = some (.request id "initialize" params?) ∧
    (s.take body).answer? = some (answer id result)

/-- Among the frames is a request to shut down behind an introduction that was granted. -/
def Dismissed (settings : Settings) (bodies : List (List UInt8)) : Prop :=
  ∃ before introduction between request later id params?,
    bodies = before ++ introduction :: (between ++ request :: later) ∧
      ((start settings).afterAll before).Grants introduction ∧
      Incoming.ofBody? request = some (.request id "shutdown" params?)

theorem grants_iff {s : Session} {body : List UInt8} :
    s.Grants body ↔ s.phase = .uninitialized ∧ Phase.Moves body .uninitialized .running := by
  rw [phase_eq_uninitialized_iff]
  constructor
  · rintro ⟨id, params?, result, request, answered⟩
    have granted : ∀ fault, (s.takeInitialize id params?).answer? ≠ some (refusal id fault) := by
      intro fault refused
      have given : (s.takeInitialize id params?).answer? = some (answer id result) := by
        rw [take_request request] at answered
        exact answered
      have same := Option.some.inj (given.symm.trans refused)
      exact Bool.false_ne_true ((answer_not_refusal id result).symm.trans
        (same ▸ refusal_isRefusal id fault))
    cases known : s.pipeline? with
    | some p => exact absurd (by simp [takeInitialize, known, replying, reply]) (granted .invalidRequest)
    | none =>
        cases decoded : decodeParams InitializeParams.decode params? with
        | error fault =>
            exact absurd (by simp [takeInitialize, known, decoded, replying, reply]) (granted fault)
        | ok params => exact ⟨rfl, .introduced request (by rw [decoded]; rfl)⟩
  · rintro ⟨new, moves⟩
    cases moves with
    | @introduced id params? request understood =>
        refine ⟨id, params?, welcome, request, ?_⟩
        cases decoded : decodeParams InitializeParams.decode params? with
        | error fault =>
            rw [decoded] at understood
            cases understood
        | ok params =>
            simp [take_request request, takeRequest, takeInitialize, new, decoded, replying, reply]

/-- The session of the frames has been asked to shut down just in this case. -/
theorem dismissed_iff {settings : Settings} {bodies : List (List UInt8)} :
    Dismissed settings bodies ↔ Phase.uninitialized.afterAll bodies = .shutDown := by
  constructor
  · rintro ⟨before, introduction, between, request, later, id, params?, rfl, granted, asked⟩
    obtain ⟨new, moves⟩ := grants_iff.mp granted
    rw [afterAll_phase] at new
    have known : Phase.running.afterAll between ≠ .uninitialized :=
      Phase.afterAll_ne_uninitialized (by decide) between
    rw [Phase.afterAll_append, new, Phase.afterAll_cons, moves.after_eq, Phase.afterAll_append,
      Phase.afterAll_cons, Phase.after_shutdown known asked, Phase.shutDown_afterAll]
  · intro asked
    have stranger : Phase.uninitialized.afterAll bodies ≠ .uninitialized := by
      rw [asked]
      nofun
    obtain ⟨before, introduction, rest, rfl, new, moves⟩ := Phase.exists_move stranger
    have running : Phase.uninitialized.after introduction = .running := by
      generalize Phase.uninitialized.after introduction = next at moves
      cases moves
      rfl
    rw [running] at moves
    rw [Phase.afterAll_append, new, Phase.afterAll_cons, running] at asked
    have goes : Phase.running.afterAll rest ≠ .running := by
      rw [asked]
      nofun
    obtain ⟨between, request, later, rfl, -, dismissal⟩ := Phase.exists_move goes
    generalize Phase.running.after request = next at dismissal
    cases dismissal with
    | dismissed named =>
        refine ⟨before, introduction, between, request, later, _, _, rfl, ?_, named⟩
        rw [grants_iff, afterAll_phase]
        exact ⟨new, moves⟩

/-- Whether it was asked to shut down is what the session knows. -/
theorem shutdownRequested_iff {settings : Settings} {bodies : List (List UInt8)} {s : Session}
    (same : s.bare = ((start settings).afterAll bodies).bare) :
    s.shutdownRequested = true ↔ Dismissed settings bodies := by
  have asked : s.shutdownRequested = ((start settings).afterAll bodies).shutdownRequested := by
    change s.bare.shutdownRequested = _
    rw [same]
    rfl
  rw [dismissed_iff, ← afterAll_phase settings bodies, phase_eq_shutDown_iff, asked]
  exact ⟨fun known => ⟨afterAll_orderly settings bodies known, known⟩, And.right⟩

end Session

end AsmDiagnostics
