import AsmDiagnostics.Proofs.Server.Answered
import AsmDiagnostics.Proofs.Server.Replies
import AsmDiagnostics.Proofs.Session.Phase

/-!
# The life cycle of a session

Whatever turns are taken, and in whatever order, the phase of a session is determined by the frames
that have been read, and so is the answer to every request among them.  The workspace is the one that
the first introduction names.
-/

namespace AsmDiagnostics

namespace Pipeline

variable {τ ω : Type} (p : Pipeline τ)

theorem launch_workspace? (outside : Outside ω) (world : ω) (run : Run τ) (workspace : Workspace)
    (document : DocumentRef) :
    (p.launch outside world run workspace document).pipeline.workspace? = p.workspace? := by
  unfold launch
  dsimp only
  split <;> rfl

end Pipeline

namespace Server

open Message

variable {ω : Type} {outside : Outside ω} {settings : Settings} {input : List UInt8}
  {hand next : Hand} {s after : Server ω} {bodies : List (List UInt8)}

/-! ## Steps -/

theorem enlist_workspace? (s : Server ω) :
    s.enlist.session.workspace? = s.session.workspace? := by
  unfold enlist
  split
  · rfl
  · rename_i p same
    simp [withPipeline, Session.workspace?, same]

theorem Work.workspace? (work : Work outside hand s next after) :
    after.session.workspace? = s.session.workspace? := by
  have becomes {p other : Pipeline Json} (same : s.session.pipeline? = some p)
      (kept : other.workspace? = p.workspace?) :
      (s.withPipeline other).session.workspace? = s.session.workspace? := by
    simp [withPipeline, Session.workspace?, same, kept]
  cases work with
  | place wanted => rw [putPromised, wakeWriter_session]
  | wake same => exact (enlist_workspace? _).trans (becomes same (Pipeline.wake_workspace? _ _ _))
  | ask same => exact becomes same (Pipeline.begin_workspace? _ _ _)
  | launch same long => exact becomes same (Pipeline.launch_workspace? _ _ _ _ _ _)
  | build same short => exact becomes same (Pipeline.launch_workspace? _ _ _ _ _ _)
  | keepBack same superseded => exact becomes same rfl
  | deliver same current => exact becomes same rfl
  | post room =>
      obtain ⟨-, rfl⟩ := send?_eq_some room
      rw [wakeWriter_session]
  | _ => rfl

/-- The frames that have been read stay so, and more may be read behind them. -/
theorem Step.reads (step : Step outside hand s next after)
    (h : Frame.Reads s.isClosed input bodies s.unread) :
    ∃ more, Frame.Reads after.isClosed input (bodies ++ more) after.unread := by
  have still (unread : after.unread = s.unread) (isClosed : after.isClosed = s.isClosed) :
      ∃ more, Frame.Reads after.isClosed input (bodies ++ more) after.unread :=
    ⟨[], by rwa [unread, isClosed, List.append_nil]⟩
  have taken {body rest : List UInt8} (first : Frame.next s.isClosed s.unread = .frame body rest)
      (session : Session) : Frame.Reads (s.afterFrame session rest).isClosed input (bodies ++ [body])
        (s.afterFrame session rest).unread := by
    rw [afterFrame_unread, show (s.afterFrame session rest).isClosed = s.isClosed from
      enlist_isClosed _]
    exact h.snoc first
  cases step with
  | work w => exact still w.untouched.1 w.untouched.2.1
  | write => exact still (write_unread s) (write_isClosed s)
  | exit open? first ends => exact ⟨_, taken first _⟩
  | pass open? first goes silent => exact ⟨_, taken first _⟩
  | answer open? first goes replies => exact ⟨_, taken first _⟩
  | _ => exact still rfl rfl

/-- What the frames that have been read make of the messages and of the workspace. -/
structure Course (settings : Settings) (input : List UInt8) (hand : Hand) (s : Server ω)
    (bodies : List (List UInt8)) : Prop where
  reads : Frame.Reads s.isClosed input bodies s.unread
  replies : Replies ((Session.start settings).answers bodies) hand s
  workspace : s.session.workspace? = bodies.findSome? (Session.introduction? settings)

namespace Course

theorem same (h : Course settings input hand s bodies) (unread : after.unread = s.unread)
    (isClosed : after.isClosed = s.isClosed)
    (workspace : after.session.workspace? = s.session.workspace?)
    (replies : Replies ((Session.start settings).answers bodies) next after) :
    Course settings input next after bodies := by
  refine ⟨?_, replies, workspace.trans h.workspace⟩
  rw [unread, isClosed]
  exact h.reads

theorem closing (h : Course settings input hand s bodies) (busy : hand ≠ .free) (ending : Ending) :
    Course settings input (.send .close .nothing) (s.closingWith ending) bodies :=
  h.same rfl rfl (Session.workspace?_withPipeline s.session fun p => p.shutdown_workspace?)
    (h.replies.closing busy ending)

/-- One more frame is read. -/
theorem frame (h : Course settings input (.go .read) s bodies)
    (account : Account settings input (.go .read) s bodies) (reading : Reading (.go .read) s)
    {body rest : List UInt8} (first : Frame.next s.isClosed s.unread = .frame body rest)
    (own : next.entry? = (s.session.take body).answer?.map fun answer => (.message answer, .read)) :
    Course settings input next (s.afterFrame (s.session.take body).session rest)
      (bodies ++ [body]) := by
  have own? : s.session.settings = settings :=
    (congrArg Session.settings account.session).trans (Session.afterAll_settings _ _)
  obtain ⟨answer, -⟩ := account.taken body
  refine ⟨?_, ?_, ?_⟩
  · rw [afterFrame_unread, show (s.afterFrame (s.session.take body).session rest).isClosed =
      s.isClosed from enlist_isClosed _]
    exact h.reads.snoc first
  · rw [Session.answers_snoc, ← answer]
    exact h.replies.frame reading _ rest _ own
  · rw [List.findSome?_append, ← h.workspace]
    refine (enlist_workspace? _).trans ((Session.take_workspace? s.session body).trans ?_)
    rw [own?, List.findSome?_cons]
    cases Session.introduction? settings body <;> rfl

theorem step (h : Course settings input hand s bodies)
    (account : Account settings input hand s bodies) (lawful : Lawful hand s)
    (reading : Reading hand s) (step : Step outside hand s next after) :
    ∃ bodies, Course settings input next after bodies := by
  have still : Replies ((Session.start settings).answers bodies) .free s :=
    h.replies.same nofun rfl fun _ _ sends => sends.any
  cases step with
  | work w =>
      obtain ⟨unread, isClosed, -⟩ := w.untouched
      exact ⟨bodies, h.same unread isClosed w.workspace?
        (h.replies.work (reading.work lawful w) w)⟩
  | write =>
      refine ⟨bodies, h.same (write_unread s) (write_isClosed s) (by rw [write_session]) ?_⟩
      exact h.replies.write lawful reading
  | stay past => exact ⟨bodies, h.same rfl rfl rfl still⟩
  | pause open? part => exact ⟨bodies, h.same rfl rfl rfl still⟩
  | stop open? ends => exact ⟨bodies, h.closing nofun _⟩
  | @exit _ body rest open? first ends =>
      have silent := Session.take_silent_of_ends ends
      have taken : Course settings input (.go .read) _ (bodies ++ [body]) :=
        h.frame account reading first (by rw [silent]; rfl)
      exact ⟨_, taken.closing nofun _⟩
  | pass open? first goes silent =>
      exact ⟨_, h.frame account reading first (by rw [silent]; rfl)⟩
  | answer open? first goes replies =>
      exact ⟨_, h.frame account reading first (by rw [replies]; rfl)⟩

end Course

def accounted (settings : Settings) : Condition ω :=
  Condition.and orderly fun input hand s => ∃ bodies, Account settings input hand s bodies

namespace Course

variable (h : Course settings input .free s bodies)

include h

/-- Of the answers given at once, those that are written cost as much as all that is written. -/
theorem written (account : Account settings input .free s bodies) : ∃ sent later : List Json,
    (Session.start settings).answers bodies = sent ++ later ∧ sent.Sublist s.outbox ∧
      (∀ w : Rates, totalCost w.message s.outbox + totalCost w.message later ≤ w.server s) ∧
      ∀ cost, IsFree cost → totalCost cost s.outbox ≤ totalCost cost sent := by
  obtain ⟨sent, ready, last, all, written, behind, ends, weigh⟩ := account.written
  refine ⟨sent, ready ++ last, all, written, weigh, fun cost free => ?_⟩
  have near := totalCost_sublist cost behind
  have less : totalCost cost s.destined ≤ totalCost cost (sent ++ ready) := by
    rcases ends with rfl | ⟨message, rfl, waits⟩
    · have whole := h.replies.weighs cost free
      rwa [all, List.append_nil] at whole
    · obtain ⟨given, same, less⟩ := h.replies.waits message waits
      rw [all, ← List.append_assoc] at same
      exact (List.append_inj_left' same rfl) ▸ less cost free
  rw [destined, totalCost_append, totalCost_append] at less
  omega

omit h in
/-- A report that is written answers a question. -/
theorem asked {questions others unanswered : List Json}
    (perm : (idsOf others ++ unanswered).Perm questions) (told : ∀ message ∈ others, IsTold message) :
    ∀ message ∈ others, IsNotice message ∨
      ∃ id ∈ questions, ∃ diagnostics, message = answer id (fullReport diagnostics) := by
  intro message member
  refine (told message member).imp id ?_
  rintro ⟨id, diagnostics, same⟩
  refine ⟨id, perm.subset (List.mem_append_left _ ?_), diagnostics, same⟩
  exact List.mem_filterMap.mpr ⟨message, member, same ▸ (answer_isAnswer id _).own⟩

end Course

namespace Editor

end Editor

end Server

end AsmDiagnostics
