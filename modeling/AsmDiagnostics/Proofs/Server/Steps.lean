import AsmDiagnostics.Server.Clock

/-!
# The steps of a turn

Whoever has the turn does one thing after another: a run clears what is shown, launches its build,
tells of a fault and delivers; the reader takes a frame and sends the answer; every letter finds room
in the mailbox or waits, and then its sender goes on.  `Step` lists these things, and every turn is
made of them.  What each of them keeps, a turn keeps.
-/

namespace AsmDiagnostics.Server

variable {ω : Type}

/-- What is to be done next in a turn. -/
inductive Hand where
  | job (job : Job)
  | start (run : Run Json)
  /-- The build of a run is over. -/
  | finished (run : Run Json) (document : DocumentRef) (result : Build.Result)
  | send (letter : Letter) (sequel : Sequel)
  | go (sequel : Sequel)
  /-- The turn is over. -/
  | free

def Runs : Sequel → Prop
  | .resume _ => True
  | .read => False
  | .nothing => False

def Works : Job → Prop
  | .task _ => True
  | .place _ sequel => Runs sequel
  | .read => False
  | .write => False

/-- The pipeline has the turn. -/
def Hand.Works : Hand → Prop
  | .job asked => Server.Works asked
  | .start _ => True
  | .finished .. => True
  | .send _ sequel => Runs sequel
  | .go sequel => Runs sequel
  | .free => False

def report (run : Run Json) (diagnostics : List Diagnostic) : Json :=
  match run.trigger with
  | .push => Message.publishDiagnostics run.uri diagnostics
  | .pull id => Message.answer id (Message.fullReport diagnostics)

def closingWith (s : Server ω) (ending : Ending) : Server ω :=
  { s with session := s.session.withPipeline Pipeline.shutdown, closing? := some ending }

def afterLaunch (s : Server ω) (launched : Launch Json ω) : Server ω :=
  { s with world := launched.world }.withPipeline launched.pipeline

/-- How the reading ends, if there is no frame any more behind those that were read. -/
def inputEnding? (s : Server ω) : Option Ending :=
  match Frame.next s.isClosed s.unread with
  | .finished => some (.ok s.session.shutdownRequested)
  | .broken fault => some (.error fault)
  | _ => none

/-- One thing that is done in a turn, other than that letters are written and frames are taken: what
is to be done after it, and the server then. -/
inductive Work (outside : Outside ω) : Hand → Server ω → Hand → Server ω → Prop where
  /-- Without a pipeline there is nothing to do. -/
  | lost {s : Server ω} {hand : Hand} (works : hand.Works)
      (none : s.session.pipeline? = none) : Work outside hand s .free s
  /-- A letter is put into its place. -/
  | place {s : Server ω} {letter : Letter} {sequel : Sequel} (wanted : s.isStale sequel = false) :
      Work outside (.job (.place letter sequel)) s (.go sequel) (s.putPromised letter)
  /-- A letter that is not wanted any more gives its place back. -/
  | unwanted {s : Server ω} {letter : Letter} {sequel : Sequel} (stale : s.isStale sequel = true) :
      Work outside (.job (.place letter sequel)) s .free (s.freePlaces 1)
  | wake {s : Server ω} {p : Pipeline Json} {uri : Uri} {generation : Nat}
      (same : s.session.pipeline? = some p) :
      Work outside (.job (.task (.wake uri generation))) s .free
        (s.withPipeline (p.wake uri generation)).enlist
  | ask {s : Server ω} {p : Pipeline Json} {uri : Uri} {id : Json}
      (same : s.session.pipeline? = some p) :
      Work outside (.job (.task (.ask uri id))) s (.start (p.begin uri (.pull id)).1)
        (s.withPipeline (p.begin uri (.pull id)).2)
  | start {s : Server ω} {p : Pipeline Json} {run : Run Json}
      (same : s.session.pipeline? = some p) (current : p.isSuperseded run = false) :
      Work outside (.job (.task (.start run))) s (.start run) s
  | finish {s : Server ω} {p : Pipeline Json} {run : Run Json} {document : DocumentRef}
      {result : Build.Result} (same : s.session.pipeline? = some p)
      (current : p.isSuperseded run = false) :
      Work outside (.job (.task (.finish run document result))) s (.finished run document result) s
  /-- A run that has been superseded does nothing more. -/
  | giveUp {s : Server ω} {p : Pipeline Json} {run : Run Json} {task : Task Json}
      (same : s.session.pipeline? = some p) (superseded : p.isSuperseded run = true)
      (own : task = .start run ∨ ∃ document result, task = .finish run document result) :
      Work outside (.job (.task task)) s .free s
  /-- There is nothing to build. -/
  | unfounded {s : Server ω} {p : Pipeline Json} {run : Run Json}
      (same : s.session.pipeline? = some p) (nothing : p.document? run.uri = none) :
      Work outside (.start run) s (.go (.resume (.deliver run []))) s
  | clear {s : Server ω} {p : Pipeline Json} {run : Run Json} {workspace : Workspace}
      {document : DocumentRef} (same : s.session.pipeline? = some p)
      (found : p.document? run.uri = some (workspace, document)) :
      Work outside (.start run) s
        (.send (.message (Message.publishDiagnostics run.uri []))
          (.resume (.build run workspace document))) s
  /-- A build starts that takes its time. -/
  | launch {s : Server ω} {p : Pipeline Json} {run : Run Json} {workspace : Workspace}
      {document : DocumentRef} (same : s.session.pipeline? = some p)
      (long : (p.launch outside s.world run workspace document).result? = none) :
      Work outside (.go (.resume (.build run workspace document))) s .free
        (s.afterLaunch (p.launch outside s.world run workspace document))
  /-- A build that takes no time. -/
  | build {s : Server ω} {p : Pipeline Json} {run : Run Json} {workspace : Workspace}
      {document : DocumentRef} {result : Build.Result} (same : s.session.pipeline? = some p)
      (short : (p.launch outside s.world run workspace document).result? = some result) :
      Work outside (.go (.resume (.build run workspace document))) s (.finished run document result)
        (s.afterLaunch (p.launch outside s.world run workspace document))
  | succeed {s : Server ω} {p : Pipeline Json} {run : Run Json} {document : DocumentRef}
      {result : Build.Result} (same : s.session.pipeline? = some p) (sound : result.fault? = none) :
      Work outside (.finished run document result) s
        (.go (.resume (.deliver run (document.diagnostics result.output)))) s
  | complain {s : Server ω} {p : Pipeline Json} {run : Run Json} {document : DocumentRef}
      {result : Build.Result} {fault : Build.StepFault} (same : s.session.pipeline? = some p)
      (failed : result.fault? = some fault) :
      Work outside (.finished run document result) s
        (.send (.message (Message.logError (Pipeline.complaint document fault)))
          (.resume (.deliver run (document.diagnostics result.output)))) s
  /-- A push that has been superseded keeps its diagnostics back. -/
  | keepBack {s : Server ω} {p : Pipeline Json} {run : Run Json} {diagnostics : List Diagnostic}
      (same : s.session.pipeline? = some p) (superseded : p.isSuperseded run = true) :
      Work outside (.go (.resume (.deliver run diagnostics))) s .free
        (s.withPipeline { p with inFlight := p.inFlight.finish run.uri run.generation })
  | deliver {s : Server ω} {p : Pipeline Json} {run : Run Json} {diagnostics : List Diagnostic}
      (same : s.session.pipeline? = some p) (current : p.isSuperseded run = false) :
      Work outside (.go (.resume (.deliver run diagnostics))) s
        (.send (.message (report run diagnostics)) .nothing)
        (s.withPipeline { p with inFlight := p.inFlight.finish run.uri run.generation })
  | rest (s : Server ω) : Work outside (.go .nothing) s .free s
  /-- A letter finds room. -/
  | post {s sent : Server ω} {letter : Letter} {sequel : Sequel}
      (room : s.send? letter = some sent) : Work outside (.send letter sequel) s (.go sequel) sent
  /-- A letter waits for a place. -/
  | await {s : Server ω} {letter : Letter} {sequel : Sequel} (full : s.send? letter = none) :
      Work outside (.send letter sequel) s .free (s.awaitPlace letter sequel)
  | read (s : Server ω) : Work outside (.job .read) s (.go .read) s

/-- One thing that is done in a turn. -/
inductive Step (outside : Outside ω) : Hand → Server ω → Hand → Server ω → Prop where
  | work {hand next : Hand} {s after : Server ω} (h : Work outside hand s next after) :
      Step outside hand s next after
  | write (s : Server ω) : Step outside (.job .write) s .free s.write
  /-- Nothing is read after the end. -/
  | stay {s : Server ω} (past : s.closing?.isSome) : Step outside (.go .read) s .free s
  /-- There is no whole frame. -/
  | pause {s : Server ω} (reading : s.closing? = none)
      (part : Frame.next s.isClosed s.unread = .incomplete) : Step outside (.go .read) s .free s
  | stop {s : Server ω} {ending : Ending} (reading : s.closing? = none)
      (ends : s.inputEnding? = some ending) :
      Step outside (.go .read) s (.send .close .nothing) (s.closingWith ending)
  | exit {s : Server ω} {body rest : List UInt8} (reading : s.closing? = none)
      (frame : Frame.next s.isClosed s.unread = .frame body rest)
      (ends : (s.session.take body).ends = true) :
      Step outside (.go .read) s (.send .close .nothing)
        ((s.afterFrame (s.session.take body).session rest).closingWith
          (.ok (s.session.take body).session.shutdownRequested))
  | pass {s : Server ω} {body rest : List UInt8} (reading : s.closing? = none)
      (frame : Frame.next s.isClosed s.unread = .frame body rest)
      (goes : (s.session.take body).ends = false)
      (silent : (s.session.take body).answer? = none) :
      Step outside (.go .read) s (.go .read) (s.afterFrame (s.session.take body).session rest)
  | answer {s : Server ω} {body rest : List UInt8} {answer : Json} (reading : s.closing? = none)
      (frame : Frame.next s.isClosed s.unread = .frame body rest)
      (goes : (s.session.take body).ends = false)
      (replies : (s.session.take body).answer? = some answer) :
      Step outside (.go .read) s (.send (.message answer) .read)
        (s.afterFrame (s.session.take body).session rest)

/-- Some things that are done one after another. -/
inductive Steps (outside : Outside ω) : Hand → Server ω → Hand → Server ω → Prop where
  | refl (hand : Hand) (s : Server ω) : Steps outside hand s hand s
  | head {hand next last : Hand} {s middle after : Server ω} (first : Step outside hand s next middle)
      (others : Steps outside next middle last after) : Steps outside hand s last after

variable {outside : Outside ω}

theorem Step.once {hand next : Hand} {s after : Server ω} (h : Step outside hand s next after) :
    Steps outside hand s next after :=
  .head h (.refl next after)

theorem Work.once {hand next : Hand} {s after : Server ω} (h : Work outside hand s next after) :
    Steps outside hand s next after :=
  (Step.work h).once

theorem Steps.next {hand next last : Hand} {s middle after : Server ω}
    (first : Work outside hand s next middle) (others : Steps outside next middle last after) :
    Steps outside hand s last after :=
  .head (.work first) others

/-- What every step keeps is kept. -/
theorem Steps.keeps {Keeps : Hand → Server ω → Prop}
    (step : ∀ {hand next s after}, Step outside hand s next after → Keeps hand s → Keeps next after)
    {hand last : Hand} {s after : Server ω} (h : Steps outside hand s last after)
    (kept : Keeps hand s) : Keeps last after := by
  induction h with
  | refl hand s => exact kept
  | head first others ih => exact ih (step first kept)

/-! ## Every turn is made of steps -/

theorem sendThen_steps (s : Server ω) (letter : Letter) (sequel : Sequel)
    {goOn : Server ω → Server ω} (h : ∀ sent, Steps outside (.go sequel) sent .free (goOn sent)) :
    Steps outside (.send letter sequel) s .free (s.sendThen letter sequel goOn) := by
  unfold sendThen
  split
  · rename_i sent room
    exact .next (.post room) (h sent)
  · rename_i full
    exact (Work.await full).once

theorem walk_silent {s : Server ω} {leg : Leg Json ω} {goOn : Server ω → Pause Json → Server ω}
    (silent : leg.events.findSome? Session.messageOf? = none) :
    s.walk leg goOn = leg.pause?.elim (s.afterLeg leg) (goOn (s.afterLeg leg)) := by
  rw [walk, silent]

theorem walk_telling {s : Server ω} {leg : Leg Json ω} {goOn : Server ω → Pause Json → Server ω}
    (message : Json) (told : leg.events.findSome? Session.messageOf? = some message) :
    s.walk leg goOn = (s.afterLeg leg).sendThen (.message message)
      (leg.pause?.elim .nothing .resume) fun sent => leg.pause?.elim sent (goOn sent) := by
  rw [walk, told]

section Legs

variable {s : Server ω} {p : Pipeline Json} {goOn : Server ω → Pause Json → Server ω}

theorem withPipeline_same (same : s.session.pipeline? = some p) : s.withPipeline p = s := by
  obtain ⟨⟨_, _, _, _⟩, _⟩ := s
  obtain rfl := same
  rfl

theorem messageOf?_deliver (p : Pipeline Json) (run : Run Json) (diagnostics : List Diagnostic) :
    Session.messageOf? (p.eventOf run (.deliver diagnostics)) = some (report run diagnostics) := by
  unfold Session.messageOf? report Pipeline.eventOf
  cases run.trigger <;> rfl

theorem endLeg_steps (same : s.session.pipeline? = some p) (run : Run Json)
    (diagnostics : List Diagnostic) :
    Steps outside (.go (.resume (.deliver run diagnostics))) s .free
      (s.walk (p.endLeg s.world run diagnostics) goOn) := by
  unfold Pipeline.endLeg Pipeline.deliver
  by_cases superseded : p.isSuperseded run = true
  · rw [if_pos superseded, walk_silent rfl]
    exact (Work.keepBack same superseded).once
  · rw [if_neg superseded, walk_telling (report run diagnostics)]
    · exact .next (.deliver same (Bool.eq_false_iff.mpr superseded))
        (sendThen_steps _ _ _ fun sent => (Work.rest sent).once)
    · simp [Leg.events, Happening.event?, messageOf?_deliver]

theorem finishLeg_steps (same : s.session.pipeline? = some p) (run : Run Json)
    (document : DocumentRef) (result : Build.Result)
    (goes : ∀ sent diagnostics, Steps outside (.go (.resume (.deliver run diagnostics))) sent .free
      (goOn sent (.deliver run diagnostics))) :
    Steps outside (.finished run document result) s .free
      (s.walk (p.finishLeg s.world run document result) goOn) := by
  cases faulty : result.fault? with
  | none =>
      simp only [Pipeline.finishLeg, faulty]
      exact .next (.succeed same faulty) (endLeg_steps same run _)
  | some fault =>
      simp only [Pipeline.finishLeg, faulty]
      rw [walk_telling (Message.logError (Pipeline.complaint document fault))]
      · rw [afterLeg, withPipeline_same same]
        exact .next (.complain same faulty) (sendThen_steps _ _ _ fun sent => goes sent _)
      · simp [Leg.events, Happening.event?, Pipeline.complain, faulty, Session.messageOf?,
          Pipeline.eventOf]

theorem startLeg_steps (same : s.session.pipeline? = some p) (run : Run Json)
    (goes : ∀ sent workspace document,
      Steps outside (.go (.resume (.build run workspace document))) sent .free
        (goOn sent (.build run workspace document))) :
    Steps outside (.start run) s .free (s.walk (p.startLeg s.world run) goOn) := by
  cases found : p.document? run.uri with
  | none =>
      simp only [Pipeline.startLeg, found]
      exact .next (.unfounded same found) (endLeg_steps same run [])
  | some pair =>
      obtain ⟨workspace, document⟩ := pair
      simp only [Pipeline.startLeg, found]
      rw [walk_telling (Message.publishDiagnostics run.uri []) rfl, afterLeg,
        withPipeline_same same]
      exact .next (.clear same found) (sendThen_steps _ _ _ fun sent => goes sent workspace document)

/-- What happens before a leg and is not told leaves no trace in the server. -/
theorem walk_after {leg : Leg Json ω} {before : List (Happening Json)}
    (silent : (before.filterMap Happening.event?).findSome? Session.messageOf? = none) :
    s.walk (leg.after before) goOn = s.walk leg goOn := by
  simp only [walk, Leg.after, Leg.events, List.filterMap_append, List.findSome?_append, silent,
    Option.none_or]
  rfl

theorem buildLeg_steps (same : s.session.pipeline? = some p) (run : Run Json)
    (workspace : Workspace) (document : DocumentRef)
    (goes : ∀ sent diagnostics, Steps outside (.go (.resume (.deliver run diagnostics))) sent .free
      (goOn sent (.deliver run diagnostics))) :
    Steps outside (.go (.resume (.build run workspace document))) s .free
      (s.walk (p.buildLeg outside s.world run workspace document) goOn) := by
  have silent : Session.messageOf? (p.launch outside s.world run workspace document).event = none := by
    unfold Pipeline.launch
    dsimp only
    split <;> rfl
  cases lasts : (p.launch outside s.world run workspace document).result? with
  | none =>
      simp only [Pipeline.buildLeg, lasts]
      rw [walk_silent (by simp [Leg.events, Happening.event?, silent])]
      exact (Work.launch same lasts).once
  | some result =>
      simp only [Pipeline.buildLeg, lasts]
      rw [walk_after (by simp [Happening.event?, silent])]
      exact .next (.build same lasts)
        (finishLeg_steps (s := s.afterLaunch (p.launch outside s.world run workspace document)) rfl
          run document result goes)

end Legs

theorem deliver_steps (goOn : Server ω → Pause Json → Server ω) (s : Server ω) (run : Run Json)
    (diagnostics : List Diagnostic) :
    Steps outside (.go (.resume (.deliver run diagnostics))) s .free
      (s.resumeThen outside goOn (.deliver run diagnostics)) := by
  unfold resumeThen
  split
  · rename_i none
    exact Work.once (.lost trivial none)
  · rename_i p same
    exact endLeg_steps same run diagnostics

theorem resume_steps (s : Server ω) (pause : Pause Json) :
    Steps outside (.go (.resume pause)) s .free (s.resume outside pause) := by
  cases pause with
  | deliver run diagnostics => exact deliver_steps _ s run diagnostics
  | build run workspace document =>
      unfold resume resumeThen
      split
      · rename_i none
        exact Work.once (.lost trivial none)
      · rename_i p same
        exact buildLeg_steps same run workspace document fun sent diagnostics =>
          deliver_steps _ sent run diagnostics

theorem performTask_steps (s : Server ω) (task : Task Json) :
    Steps outside (.job (.task task)) s .free (s.performTask outside task) := by
  unfold performTask
  split
  · rename_i none
    exact Work.once (.lost trivial none)
  · rename_i p same
    have starts {s : Server ω} {p : Pipeline Json} (same : s.session.pipeline? = some p)
        (run : Run Json) : Steps outside (.start run) s .free
          (s.walk (p.startLeg s.world run) (resume outside)) :=
      startLeg_steps same run fun sent _ _ => resume_steps sent _
    split
    · rename_i superseded
      cases task with
      | wake uri generation => cases superseded
      | ask uri id => cases superseded
      | start run => exact (Work.giveUp same superseded (.inl rfl)).once
      | finish run document result =>
          exact (Work.giveUp same superseded (.inr ⟨document, result, rfl⟩)).once
    · rename_i current
      cases task with
      | wake uri generation =>
          have woken : s.walk (p.legOf s.world (.wake uri generation)) (resume outside) =
              s.withPipeline (p.wake uri generation) := by
            refine walk_silent ?_
            simp only [Pipeline.legOf, Leg.events]
            split <;> rfl
          simp only [woken]
          exact (Work.wake same).once
      | ask uri id =>
          simp only [Pipeline.legOf]
          rw [walk_after rfl]
          exact .next (.ask same) (starts (s := s.withPipeline (p.begin uri (.pull id)).2) rfl _)
      | start run => exact .next (.start same (Bool.eq_false_iff.mpr current)) (starts same run)
      | finish run document result =>
          exact .next (.finish same (Bool.eq_false_iff.mpr current))
            (finishLeg_steps same run document result fun sent _ => resume_steps sent _)

theorem finish_steps (s : Server ω) (ending : Ending) :
    Steps outside (.send .close .nothing) (s.closingWith ending) .free (s.finish ending) :=
  sendThen_steps _ _ _ fun sent => (Work.rest sent).once

theorem enlist_closing? (s : Server ω) : s.enlist.closing? = s.closing? := by
  unfold enlist
  split <;> rfl

theorem wakeWriter_closing? (s : Server ω) : s.wakeWriter.closing? = s.closing? := by
  unfold wakeWriter
  split <;> rfl

theorem send?_closing? {s sent : Server ω} {letter : Letter} (h : s.send? letter = some sent) :
    sent.closing? = s.closing? := by
  obtain ⟨mailbox, -, rfl⟩ := Option.map_eq_some_iff.mp h
  exact wakeWriter_closing? _

theorem readFrames_steps (s : Server ω) (reading : s.closing? = none) :
    Steps outside (.go .read) s .free s.readFrames := by
  fun_induction readFrames s with
  | case1 s part => exact (Step.pause reading part).once
  | case2 s past =>
      exact .head (.stop reading (by simp [inputEnding?, past])) (finish_steps s _)
  | case3 s fault past =>
      exact .head (.stop reading (by simp [inputEnding?, past])) (finish_steps s _)
  | case4 s body rest frame turn next ends =>
      exact .head (.exit reading frame ends) (finish_steps _ _)
  | case5 s body rest frame turn next goes silent ih =>
      exact .head (.pass reading frame (Bool.eq_false_iff.mpr goes) silent)
        (ih ((enlist_closing? _).trans reading))
  | case6 s body rest frame turn next goes answer replies sent room ih =>
      refine .head (.answer reading frame (Bool.eq_false_iff.mpr goes) replies)
        (.next (.post room) (ih ?_))
      exact (send?_closing? room).trans ((enlist_closing? _).trans reading)
  | case7 s body rest frame turn next goes answer replies full =>
      exact .head (.answer reading frame (Bool.eq_false_iff.mpr goes) replies)
        (Work.await full).once

theorem read_steps (s : Server ω) : Steps outside (.go .read) s .free s.read := by
  unfold read
  split
  · rename_i past
    exact (Step.stay past).once
  · rename_i reading
    exact readFrames_steps s (Option.not_isSome_iff_eq_none.mp reading)

/-- A turn is made of steps. -/
theorem perform_steps (s : Server ω) (job : Job) :
    Steps outside (.job job) s .free (s.perform outside job) := by
  cases job with
  | read => exact .next (.read s) (read_steps s)
  | write => exact (Step.write s).once
  | task task => exact performTask_steps s task
  | place letter sequel =>
      change Steps outside _ s .free
        (if s.isStale sequel then s.freePlaces 1 else (s.putPromised letter).pursue outside sequel)
      split
      · rename_i stale
        exact (Work.unwanted stale).once
      · rename_i wanted
        refine .next (.place (Bool.eq_false_iff.mpr wanted)) ?_
        cases sequel with
        | read => exact read_steps _
        | resume pause => exact resume_steps _ pause
        | nothing => exact (Work.rest _).once

end AsmDiagnostics.Server
