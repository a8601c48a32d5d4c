import AsmDiagnostics.Proofs.Pipeline.Flights
import Mathlib.Data.List.Perm.Basic
import AsmDiagnostics.Proofs.Server.Mail

/-!
# What is on its way

Everything in a server that leads to an answer is weighed: letters, those who wait, jobs, tasks on
the agenda, and what is in hand.  The sum stays the same in all work.  It grows when a frame is
taken, by the weight of the id under which the frame is to be answered.  With other rates the same
sum counts the turns of the reader that are to come, or the last letters.
-/

namespace AsmDiagnostics

/-- A thing at a place, and the things at the others. -/
theorem eraseIdx_perm {α : Type} {all : List α} {place : Nat} {a : α} (h : all[place]? = some a) :
    (a :: all.eraseIdx place).Perm all := by
  obtain ⟨inside, rfl⟩ := List.getElem?_eq_some_iff.mp h
  exact List.getElem_cons_eraseIdx_perm inside

theorem totalCost_eraseIdx {α : Type} (cost : α → Nat) {all : List α} {place : Nat} {a : α}
    (h : all[place]? = some a) :
    totalCost cost all = cost a + totalCost cost (all.eraseIdx place) :=
  totalCost_perm cost (eraseIdx_perm h).symm

namespace Server

open Message

/-- What things weigh: an answer under an id, a turn of the reader, and the last letter. -/
structure Rates where
  id : Json → Nat
  reader : Nat
  close : Nat

namespace Rates

variable (w : Rates)

/-- What an answer to an id weighs, if there is to be one. -/
def due (id? : Option Json) : Nat := id?.elim 0 w.id

def message (message : Json) : Nat := w.due (message.get? "id")

def letter : Letter → Nat
  | .message content => w.message content
  | .close => w.close

def run (run : Run Json) : Nat :=
  match run.trigger with
  | .push => 0
  | .pull id => w.id id

def task : Task Json → Nat
  | .wake .. => 0
  | .ask _ id => w.id id
  | .start run => w.run run
  | .finish run _ _ => w.run run

def sequel : Sequel → Nat
  | .read => w.reader
  | .resume pause => w.run pause.run
  | .nothing => 0

def entry (entry : Letter × Sequel) : Nat := w.letter entry.1 + w.sequel entry.2

def job : Job → Nat
  | .read => w.reader
  | .write => 0
  | .task task => w.task task
  | .place letter sequel => w.entry (letter, sequel)

def hand : Hand → Nat
  | .job job => w.job job
  | .start run => w.run run
  | .finished run _ _ => w.run run
  | .send letter sequel => w.entry (letter, sequel)
  | .go sequel => w.sequel sequel
  | .free => 0

def agenda (agenda : Agenda (Task Json)) : Nat := totalCost (fun entry => w.task entry.action) agenda

def session (s : Session) : Nat := s.pipeline?.elim 0 fun p => w.agenda p.agenda

variable {ω : Type}

def server (s : Server ω) : Nat :=
  totalCost w.message s.outbox + totalCost w.letter s.mailbox.letters + totalCost w.job s.jobs +
    totalCost w.entry s.mailbox.waiting + w.session s.session

def tally (hand : Hand) (s : Server ω) : Nat := w.hand hand + w.server s

end Rates

variable (w : Rates)

/-! ## Pipelines -/

section Agendas

variable (p : Pipeline Json) (uri : Uri)

theorem run_superseded {run : Run Json} (h : p.isSuperseded run = true) : w.run run = 0 := by
  obtain ⟨uri, generation, trigger⟩ := run
  cases trigger with
  | push => rfl
  | pull id => simp [Pipeline.isSuperseded, Trigger.isPush] at h

theorem task_isPushOf {task : Task Json} {generation : Nat} (h : task.isPushOf uri generation = true) :
    w.task task = 0 := by
  cases task with
  | wake uri generation => rfl
  | ask uri id => simp [Task.isPushOf] at h
  | start run =>
      obtain ⟨other, number, trigger⟩ := run
      cases trigger with
      | push => rfl
      | pull id => simp [Task.isPushOf] at h
  | finish run document result =>
      obtain ⟨other, number, trigger⟩ := run
      cases trigger with
      | push => rfl
      | pull id => simp [Task.isPushOf] at h

theorem agenda_abortPush : w.agenda (p.abortPush uri).agenda = w.agenda p.agenda := by
  unfold Pipeline.abortPush
  split
  · rename_i generation current
    refine totalCost_filter _ fun entry _ dropped => ?_
    rw [Bool.not_eq_false'] at dropped
    exact task_isPushOf w uri dropped
  · rfl

theorem agenda_begin (trigger : Trigger Json) :
    w.agenda (p.begin uri trigger).2.agenda = w.agenda p.agenda :=
  agenda_abortPush w p uri

theorem agenda_plan (delay : Nat) (task : Task Json) :
    w.agenda (p.plan delay task).agenda = w.task task + w.agenda p.agenda :=
  totalCost_perm _ (Agenda.perm_add _ task p.agenda)

theorem agenda_change (version : Int) : w.agenda (p.change uri version).agenda = w.agenda p.agenda :=
  (agenda_plan w _ p.window _).trans (Nat.zero_add _)

theorem agenda_close : w.agenda (p.close uri).agenda = w.agenda p.agenda :=
  agenda_abortPush w p uri

theorem agenda_shutdown : w.agenda p.shutdown.agenda = w.agenda p.agenda := by
  have kept (flights : List Flight) (p : Pipeline Json) :
      w.agenda (flights.foldl (fun rest flight => rest.abortPush flight.uri) p).agenda =
        w.agenda p.agenda := by
    induction flights generalizing p with
    | nil => rfl
    | cons flight flights ih => exact (ih _).trans (agenda_abortPush w p flight.uri)
  exact kept p.inFlight.flights p

theorem agenda_push : w.agenda (p.push uri).agenda = w.agenda p.agenda :=
  (agenda_plan w (p.begin uri .push).2 0 _).trans
    ((Nat.zero_add _).trans (agenda_abortPush w p uri))

theorem agenda_wake (generation : Nat) :
    w.agenda (p.wake uri generation).agenda = w.agenda p.agenda := by
  unfold Pipeline.wake
  split
  · exact agenda_push w _ uri
  · rfl

theorem agenda_pull (id : Json) : w.agenda (p.pull uri id).agenda = w.id id + w.agenda p.agenda :=
  agenda_plan w p 0 _

end Agendas

/-! ## Sessions -/

section Sessions

variable (s : Session)

/-- A session keeps its weight when its pipeline does. -/
theorem session_withPipeline {f : Pipeline Json → Pipeline Json}
    (same : ∀ p, w.agenda (f p).agenda = w.agenda p.agenda) :
    w.session (s.withPipeline f) = w.session s := by
  unfold Rates.session Session.withPipeline
  cases s.pipeline? with
  | none => rfl
  | some p => exact same p

theorem session_filesChanged : w.session s.filesChanged = w.session s := by
  refine session_withPipeline w s fun p => ?_
  generalize s.documents.entries = entries
  induction entries generalizing p with
  | nil => rfl
  | cons entry entries ih => exact (ih _).trans (agenda_change w p _ _)

theorem session_afterNotification (method : String) (params? : Option Json) :
    w.session (s.afterNotification method params?) = w.session s := by
  have understood {α : Type} (params : Except Fault α) (f : α → Session)
      (same : ∀ a, w.session (f a) = w.session s) :
      w.session (params.toOption.elim s f) = w.session s := by
    cases params with
    | error fault => rfl
    | ok a => exact same a
  unfold Session.afterNotification
  split
  · exact understood _ _ fun params => session_withPipeline w _ fun p => agenda_change w p _ _
  · split
    · refine understood _ _ fun params => ?_
      unfold Session.changed
      split
      · rfl
      · exact session_withPipeline w _ fun p => agenda_change w p _ _
    · split
      · exact understood _ _ fun uri => session_withPipeline w _ fun p => agenda_close w p uri
      · split
        · exact understood _ _ fun _ => session_filesChanged w s
        · rfl

theorem session_takeInitialize (id : Json) (params? : Option Json) :
    w.session (s.takeInitialize id params?).session = w.session s := by
  unfold Session.takeInitialize
  split
  · rfl
  · rename_i fresh
    split
    · rfl
    · have none := Option.not_isSome_iff_eq_none.mp fresh
      simp only [Session.replying, Rates.session, none]
      rfl

theorem session_takeQuestion (id : Json) {params? : Option Json}
    (ready : s.pipeline?.isSome) (running : s.shutdownRequested = false) :
    w.session (s.takeQuestion id params?).session =
      w.due (if s.asks "textDocument/diagnostic" params? then some id else none) + w.session s := by
  have asks : s.asks "textDocument/diagnostic" params? =
      (decodeParams documentParams params?).toOption.any s.documents.contains := by
    simp [Session.asks, ready, running]
  unfold Session.takeQuestion
  split
  · rename_i failed
    simp [asks, failed, Except.toOption, Rates.due, Session.replying]
  · rename_i uri decoded
    split
    · rename_i isOpen
      obtain ⟨p, same⟩ := Option.isSome_iff_exists.mp ready
      have pulled := agenda_pull w p uri id
      simp [asks, decoded, Except.toOption, isOpen, Rates.due, Session.silent, Rates.session,
        Session.withPipeline, same, pulled]
    · rename_i unknown
      have closed := Bool.eq_false_iff.mpr unknown
      simp [asks, decoded, Except.toOption, closed, Rates.due, Session.replying]

theorem session_takeRequest (id : Json) (method : String) (params? : Option Json) :
    w.session (s.takeRequest id method params?).session =
      w.due (if s.asks method params? then some id else none) + w.session s := by
  have other {session : Session} (no : s.asks method params? = false)
      (same : w.session session = w.session s) :
      w.session session = w.due (if s.asks method params? then some id else none) + w.session s := by
    rw [no, same]
    exact (Nat.zero_add _).symm
  unfold Session.takeRequest
  split
  · rename_i first
    exact other (by simp [Session.asks, first]) (session_takeInitialize w s id params?)
  · split
    · rename_i early
      exact other (by simp [Session.asks, Option.isNone_iff_eq_none.mp early]) rfl
    · rename_i ready
      split
      · rename_i late
        exact other (by simp [Session.asks, late]) rfl
      · rename_i running
        split
        · rename_i shutdown
          exact other (by simp [Session.asks, shutdown])
            (session_withPipeline w s fun p => agenda_shutdown w p)
        · split
          · rename_i diagnostic
            rw [diagnostic]
            exact session_takeQuestion w s id
              (by simpa [Option.isSome_iff_ne_none] using ready) (Bool.eq_false_iff.mpr running)
          · rename_i unknown
            exact other (by simp [Session.asks, unknown]) rfl

/-- A frame that is a question adds what its answer weighs. -/
theorem session_take (body : List UInt8) :
    w.session (s.take body).session = w.due (s.question? body) + w.session s := by
  have nothing : w.session s = w.due none + w.session s := (Nat.zero_add _).symm
  unfold Session.take
  cases parsed : Json.parse body with
  | error fault =>
      rw [show s.question? body = none by simp [Session.question?, parsed]]
      exact nothing
  | ok value =>
      dsimp only
      cases read : Incoming.ofJson? value with
      | none =>
          rw [show s.question? body = none by simp [Session.question?, parsed, read]]
          exact nothing
      | some message =>
          cases message with
          | request id method params? =>
              rw [show s.question? body = if s.asks method params? then some id else none by
                simp [Session.question?, parsed, read]]
              exact session_takeRequest w s id method params?
          | notification method params? =>
              rw [show s.question? body = none by simp [Session.question?, parsed, read]]
              dsimp only [Session.takeMessage]
              split
              · exact nothing
              · exact (session_afterNotification w s method params?).trans nothing
          | response id =>
              rw [show s.question? body = none by simp [Session.question?, parsed, read]]
              exact nothing

end Sessions

/-! ## Turns -/

section Turns

variable {ω : Type} {outside : Outside ω} {s : Server ω} {hand next : Hand}

theorem server_enlist (s : Server ω) : w.server s.enlist = w.server s := by
  unfold enlist
  split
  · rfl
  · rename_i p same
    have jobs := totalCost_map w.job (fun entry : Planned (Task Json) => Job.task entry.action)
      (p.agenda.takeWhile fun entry => entry.due ≤ p.now)
    have agenda := totalCost_append (fun entry : Planned (Task Json) => w.task entry.action)
      (p.agenda.takeWhile fun entry => entry.due ≤ p.now)
      (p.agenda.dropWhile fun entry => entry.due ≤ p.now)
    rw [List.takeWhile_append_dropWhile] at agenda
    simp only [Rates.server, Rates.session, Rates.agenda, withPipeline, same, Option.elim_some,
      totalCost_append, jobs, agenda, Rates.job]
    omega

theorem server_ask (s : Server ω) (job : Job) : w.server (s.ask job) = w.job job + w.server s := by
  simp only [Rates.server, ask, totalCost_append, totalCost]
  omega

theorem server_wakeWriter (s : Server ω) : w.server s.wakeWriter = w.server s := by
  unfold wakeWriter
  split
  · exact (server_ask w _ .write).trans (Nat.zero_add _)
  · rfl

/-- A letter that is not wanted any more leads to no answer. -/
theorem entry_stale {letter : Letter} {sequel : Sequel} (stale : s.isStale sequel = true)
    (fits : Fits letter sequel) : w.entry (letter, sequel) = 0 := by
  have notice {message : Json} (form : IsNotice message) : w.message message = 0 := by
    simp [Rates.message, form.nameless, Rates.due]
  cases fits with
  | answer form => exact nomatch stale
  | notice form =>
      obtain ⟨p, -, superseded⟩ := (Option.any_eq_true _ _).mp stale
      simp [Rates.entry, Rates.letter, notice form, Rates.sequel, run_superseded w p superseded]
  | report form => exact nomatch stale
  | close => exact nomatch stale

theorem server_freePlaces (h : Lawful hand s) (count : Nat) :
    w.server (s.freePlaces count) = w.server s := by
  have line : totalCost w.entry (s.mailbox.line fun sequel => !s.isStale sequel) =
      totalCost w.entry s.mailbox.waiting := by
    refine totalCost_filter _ fun entry member dropped => ?_
    rw [Bool.not_eq_false'] at dropped
    exact entry_stale w dropped (h.line entry member)
  have parted := totalCost_append w.entry
    ((s.mailbox.line fun sequel => !s.isStale sequel).take count)
    ((s.mailbox.line fun sequel => !s.isStale sequel).drop count)
  rw [List.take_append_drop, line] at parted
  have served : totalCost w.job (((s.mailbox.line fun sequel => !s.isStale sequel).take count).map
      fun entry => Job.place entry.1 entry.2) =
        totalCost w.entry ((s.mailbox.line fun sequel => !s.isStale sequel).take count) :=
    totalCost_map _ _ _
  simp only [Rates.server, freePlaces, Mailbox.free, totalCost_append, served, parted]
  omega

theorem takeFirst_cost (count : Nat) (letters : List Letter) :
    totalCost w.message (Mailbox.takeFirst count letters).1 +
        totalCost w.letter (Mailbox.takeFirst count letters).2.1 +
        (bif (Mailbox.takeFirst count letters).2.2 then w.close else 0) =
      totalCost w.letter letters := by
  have written (contents : List Json) :
      totalCost w.letter (contents.map .message) = totalCost w.message contents :=
    totalCost_map _ _ _
  have taken := Mailbox.takeFirst_taken count letters
  generalize Mailbox.takeFirst count letters = parts at taken ⊢
  cases taken with
  | messages contents rest =>
      rw [totalCost_append, written]
      rfl
  | last contents rest =>
      simp only [totalCost_append, written, totalCost, Rates.letter, cond_true]
      omega

theorem server_write (h : Lawful hand s) :
    w.server s.write + (bif s.takesLast then w.close else 0) = w.server s := by
  have taken := takeFirst_cost w s.writer.lettersInTurn s.mailbox.letters
  have written : w.server { s with
      outbox := s.outbox ++ (Mailbox.takeFirst s.writer.lettersInTurn s.mailbox.letters).1
      mailbox := { s.mailbox with
        letters := (Mailbox.takeFirst s.writer.lettersInTurn s.mailbox.letters).2.1 }
      writer := s.writer.after
        (Mailbox.takeFirst s.writer.lettersInTurn s.mailbox.letters).1.length } +
      (bif s.takesLast then w.close else 0) = w.server s := by
    simp only [Rates.server, totalCost_append, takesLast]
    omega
  unfold write
  dsimp only
  split
  · exact written
  · exact (congrArg (· + _) (server_freePlaces w (h.taken _ _) _)).trans written

theorem message_notice {message : Json} (form : IsNotice message) : w.message message = 0 := by
  simp [Rates.message, form.nameless, Rates.due]

theorem message_answer {id message : Json} (form : IsAnswer id message) :
    w.message message = w.id id := by
  simp [Rates.message, form.own, Rates.due]

theorem message_report (run : Run Json) (diagnostics : List Diagnostic) :
    w.message (report run diagnostics) = w.run run := by
  unfold report Rates.run
  cases run.trigger with
  | push => exact message_notice w (publishDiagnostics_isNotice _ _)
  | pull id => exact message_answer w (answer_isAnswer id _)

theorem server_withPipeline {p after : Pipeline Json} (same : s.session.pipeline? = some p)
    (kept : w.agenda after.agenda = w.agenda p.agenda) :
    w.server (s.withPipeline after) = w.server s := by
  simp [Rates.server, withPipeline, Rates.session, same, kept]

theorem server_flown {p : Pipeline Json} (same : s.session.pipeline? = some p)
    (flights : InFlight) : w.server (s.withPipeline { p with inFlight := flights }) = w.server s :=
  server_withPipeline w same rfl

theorem server_posted (letter : Letter) (room : Nat) :
    w.server { s with mailbox := { s.mailbox with
      letters := s.mailbox.letters ++ [letter], room := room } }.wakeWriter =
      w.letter letter + w.server s := by
  rw [server_wakeWriter]
  simp only [Rates.server, totalCost_append, totalCost]
  omega

theorem server_afterLaunch {p : Pipeline Json} {launched : Launch Json ω}
    (same : s.session.pipeline? = some p) {more : Nat}
    (grows : w.agenda launched.pipeline.agenda = more + w.agenda p.agenda) :
    w.server (s.afterLaunch launched) = more + w.server s := by
  simp only [Rates.server, afterLaunch, withPipeline, Rates.session, same, Option.elim_some, grows]
  omega

theorem agenda_launch (p : Pipeline Json) (world : ω) (run : Run Json) (workspace : Workspace)
    (document : DocumentRef) :
    w.agenda (p.launch outside world run workspace document).pipeline.agenda =
      (if (p.launch outside world run workspace document).result?.isNone then w.run run else 0) +
        w.agenda p.agenda := by
  unfold Pipeline.launch
  dsimp only
  split
  · exact (Nat.zero_add _).symm
  · exact agenda_plan w p _ _

/-- Nothing gets lost in any work, and nothing is added. -/
theorem tally_work (h : Lawful hand s) {after : Server ω} (work : Work outside hand s next after) :
    w.tally next after = w.tally hand s := by
  unfold Rates.tally
  cases work with
  | lost works none => exact absurd works (h.idle none).1
  | place wanted =>
      unfold putPromised Mailbox.put
      rw [server_posted]
      simp only [Rates.hand, Rates.job, Rates.entry]
      omega
  | unwanted stale =>
      rw [server_freePlaces w h]
      have free := entry_stale w stale (h.held _ _ rfl)
      simp only [Rates.hand, Rates.job, free]
  | wake same =>
      rw [server_enlist, server_withPipeline w same (agenda_wake w _ _ _)]
      rfl
  | ask same =>
      rw [server_withPipeline w same (agenda_begin w _ _ _)]
      rfl
  | start same current => rfl
  | finish same current => rfl
  | giveUp same superseded own =>
      have free := run_superseded w _ superseded
      rcases own with rfl | ⟨document, result, rfl⟩
      · simp [Rates.hand, Rates.job, Rates.task, free]
      · simp [Rates.hand, Rates.job, Rates.task, free]
  | unfounded same nothing => rfl
  | clear same found =>
      simp only [Rates.hand, Rates.entry, Rates.letter, Rates.sequel,
        message_notice w (publishDiagnostics_isNotice _ _), Pause.run_build, Nat.zero_add]
  | launch same long =>
      rw [server_afterLaunch w same (agenda_launch w _ _ _ _ _), long]
      simp [Rates.hand, Rates.sequel]
  | build same short =>
      rw [server_afterLaunch w same (agenda_launch w _ _ _ _ _), short]
      simp [Rates.hand, Rates.sequel]
  | succeed same sound => rfl
  | complain same failed =>
      simp only [Rates.hand, Rates.entry, Rates.letter, Rates.sequel,
        message_notice w (logError_isNotice _), Pause.run_deliver, Nat.zero_add]
  | keepBack same superseded =>
      rw [server_flown w same]
      simp [Rates.hand, Rates.sequel, run_superseded w _ superseded]
  | deliver same current =>
      rw [server_flown w same]
      simp [Rates.hand, Rates.entry, Rates.letter, Rates.sequel, message_report]
  | rest => rfl
  | post room =>
      obtain ⟨-, rfl⟩ := send?_eq_some room
      rw [server_posted]
      simp only [Rates.hand, Rates.entry]
      omega
  | await full =>
      simp only [Rates.hand, Rates.server, awaitPlace, Mailbox.await, totalCost_append, totalCost]
      omega
  | read => rfl

/-! ## Frames and the end -/

theorem server_afterFrame (s : Server ω) (body rest : List UInt8) :
    w.server (s.afterFrame (s.session.take body).session rest) =
      w.due (s.session.question? body) + w.server s := by
  have taken := session_take w s.session body
  unfold afterFrame
  rw [server_enlist]
  simp only [Rates.server, taken]
  omega

theorem server_closingWith (s : Server ω) (ending : Ending) :
    w.server (s.closingWith ending) = w.server s := by
  simp only [Rates.server, closingWith, session_withPipeline w s.session (agenda_shutdown w)]

/-- The answer to a frame, or what it adds as a question, weighs what is due for it. -/
theorem due_take (s : Session) (body : List UInt8) :
    w.due (due? body) = (s.take body).answer?.elim 0 w.message + w.due (s.question? body) := by
  cases Session.take_meets s body with
  | answered id answer due answer? form garbled unasked =>
      rw [due, answer?, unasked]
      exact (message_answer w form).symm
  | asked id due question silent =>
      rw [due, question, silent]
      exact (Nat.zero_add _).symm
  | passed due unasked silent =>
      rw [due, unasked, silent]
      rfl

/-! ## Moves -/

theorem tally_turn {place : Nat} {job : Job} (found : s.jobs[place]? = some job) :
    w.tally (.job job) (s.without place) = w.tally .free s := by
  have parted := totalCost_eraseIdx w.job found
  simp only [Rates.tally, Rates.hand, Rates.server, without, parted]
  omega

theorem server_wakeReader (s : Server ω) :
    w.server s.wakeReader = (bif s.readerWaits then 0 else w.reader) + w.server s := by
  unfold wakeReader
  cases s.readerWaits with
  | true => exact (Nat.zero_add _).symm
  | false => exact server_ask w s .read

theorem server_rested (s : Server ω) : w.server s.rested = w.server s :=
  (server_ask w _ .write).trans (Nat.zero_add _)

theorem server_withTime (s : Server ω) (time : Nat) : w.server (s.withTime time) = w.server s := by
  have same := session_withPipeline w s.session
    (f := fun pipeline => { pipeline with now := time }) fun _ => rfl
  simp only [Rates.server, withTime, same]

theorem server_clock (s : Server ω) (time : Nat) : w.server (s.withTime time).enlist = w.server s := by
  rw [server_enlist]
  exact server_withTime w s time

end Turns

end Server

end AsmDiagnostics
