import AsmDiagnostics.Proofs.Server.Answered

/-!
# After a shutdown

A request to shut down drops all timers and supersedes all pushes.  If no question is left that has
still to begin its build, and no publication waits for a place in the mailbox, then nothing is built
and nothing is published any more, as long as the editor does not open or change a document or tell
of changed files: those notifications hold back a new push as before.
-/

namespace AsmDiagnostics

/-- The task leads to no build once all pushes are superseded. -/
def Task.isSpent : Task Json → Bool
  | .wake .. => true
  | .ask .. => false
  | .start run => run.trigger.isPush
  | .finish .. => true

namespace Pipeline

/-- No timer is to fire, no push is current, and no task leads to a build. -/
structure Silent (p : Pipeline Json) : Prop where
  pending : p.debouncer.pending = []
  flights : p.inFlight.flights = []
  spent : ∀ entry ∈ p.agenda, entry.action.isSpent = true

namespace Silent

variable {p : Pipeline Json}

theorem fresh (settings : Settings) (root? : Option Path) :
    (Session.pipelineFor settings root?).Silent :=
  ⟨rfl, rfl, fun _ member => nomatch member⟩

theorem notDue (h : p.Silent) (uri : Uri) (generation : Nat) :
    p.debouncer.due? uri generation = none := by
  simp [Debouncer.due?, Debouncer.find?, h.pending]

theorem superseded (h : p.Silent) {run : Run Json} (push : run.trigger.isPush = true) :
    p.isSuperseded run = true := by
  simp [isSuperseded, push, InFlight.isCurrent, InFlight.current?, h.flights]

theorem shutdown (spent : ∀ entry ∈ p.agenda, entry.action.isSpent = true) : p.shutdown.Silent :=
  ⟨rfl, rfl, fun entry member => spent entry (p.shutdown_sublist.subset member)⟩

theorem close (h : p.Silent) (uri : Uri) : (p.close uri).Silent := by
  refine ⟨?_, ?_, fun entry member => h.spent entry ((p.abortPush_sublist uri).subset member)⟩
  · simp [Pipeline.close, Debouncer.cancel, h.pending]
  · simp [Pipeline.close, InFlight.drop, h.flights]

theorem wake (h : p.Silent) (uri : Uri) (generation : Nat) : (p.wake uri generation).Silent := by
  unfold Pipeline.wake
  rw [h.notDue uri generation, Debouncer.wake_of_stale (h.notDue uri generation)]
  exact h

theorem landed (h : p.Silent) (uri : Uri) (generation : Nat) :
    Silent { p with inFlight := p.inFlight.finish uri generation } := by
  refine ⟨h.pending, ?_, h.spent⟩
  unfold InFlight.finish
  split
  · simp [InFlight.drop, h.flights]
  · exact h.flights

end Silent

end Pipeline

namespace Server

open Message

variable {ω : Type} {outside : Outside ω}

def publishes (letter : Letter) : Bool := letter.content?.any isPublication

/-- A letter and what its sender does next lead to no build and no publication once all pushes are
superseded. -/
def isSpentEntry : Letter × Sequel → Bool
  | (_, .resume (.build run _ _)) => run.trigger.isPush
  | (letter, _) => !publishes letter

def isSpentJob : Job → Bool
  | .task task => task.isSpent
  | .place letter sequel => isSpentEntry (letter, sequel)
  | .read => true
  | .write => true

def builds : Sequel → Bool
  | .resume (.build ..) => true
  | _ => false

def Hand.isSpent : Hand → Bool
  | .job asked => isSpentJob asked
  | .start _ => false
  | .finished .. => true
  | .send letter sequel => !builds sequel && !publishes letter
  | .go sequel => !builds sequel
  | .free => true

/-- Nothing is left of what was asked for before that leads to a build once all pushes are
superseded, and no publication waits for a place. -/
structure Settled (s : Server ω) : Prop where
  agenda : s.session.Has fun p => ∀ entry ∈ p.agenda, entry.action.isSpent = true
  jobs : ∀ job ∈ s.jobs, isSpentJob job = true
  waiting : ∀ entry ∈ s.mailbox.waiting, isSpentEntry entry = true

/-- The publications that are written or on their way in the mailbox. -/
def publications (s : Server ω) : List Json :=
  (s.outbox ++ s.mailbox.letters.filterMap Letter.content?).filter isPublication

/-- The server has been asked to shut down, and nothing leads to a build or a publication. -/
structure Hushed (hand : Hand) (s : Server ω) : Prop where
  shut : s.session.shutdownRequested = true
  ready : s.session.pipeline?.isSome
  silent : s.session.Has Pipeline.Silent
  jobs : ∀ job ∈ s.jobs, isSpentJob job = true
  waiting : ∀ entry ∈ s.mailbox.waiting, isSpentEntry entry = true
  hand : hand.isSpent = true

variable {hand next : Hand} {s after : Server ω}

namespace Hushed

/-- Something else is in hand, and the session has another pipeline. -/
theorem onward (h : Hushed hand s) (session : Session) (world : ω)
    (shut : session.shutdownRequested = true) (ready : session.pipeline?.isSome)
    (silent : session.Has Pipeline.Silent) (spent : next.isSpent = true) :
    Hushed next { s with session := session, world := world } :=
  ⟨shut, ready, silent, h.jobs, h.waiting, spent⟩

theorem becomes (h : Hushed hand s) {p : Pipeline Json} (silent : p.Silent)
    (spent : next.isSpent = true) : Hushed next (s.withPipeline p) := by
  refine h.onward _ s.world h.shut rfl (fun other same => ?_) spent
  obtain rfl := Option.some.inj same
  exact silent

theorem same (h : Hushed hand s) (spent : next.isSpent = true) : Hushed next s :=
  ⟨h.shut, h.ready, h.silent, h.jobs, h.waiting, spent⟩

/-- Those who ask for a turn lead to nothing either. -/
theorem asked (h : Hushed hand s) {jobs : List Job} (spent : ∀ job ∈ jobs, isSpentJob job = true) :
    Hushed hand { s with jobs := s.jobs ++ jobs } := by
  refine ⟨h.shut, h.ready, h.silent, fun job member => ?_, h.waiting, h.hand⟩
  rcases List.mem_append.mp member with old | new
  · exact h.jobs job old
  · exact spent job new

theorem enlist (h : Hushed hand s) : Hushed hand s.enlist := by
  unfold Server.enlist
  split
  · exact h
  · rename_i p same
    have silent := h.silent p same
    have rest : Hushed hand (s.withPipeline
        { p with agenda := p.agenda.dropWhile fun entry => decide (entry.due ≤ p.now) }) :=
      h.becomes ⟨silent.pending, silent.flights, fun entry member =>
        silent.spent entry ((List.dropWhile_sublist _).subset member)⟩ h.hand
    refine rest.asked fun job member => ?_
    obtain ⟨entry, due, rfl⟩ := List.mem_map.mp member
    exact silent.spent entry ((List.takeWhile_sublist _).subset due)

theorem wakeWriter (h : Hushed hand s) : Hushed hand s.wakeWriter := by
  unfold Server.wakeWriter
  split
  · have same : Hushed hand { s with writer := { s.writer with isIdle := false } } :=
      ⟨h.shut, h.ready, h.silent, h.jobs, h.waiting, h.hand⟩
    exact same.asked fun job member => by rw [List.mem_singleton.mp member]; rfl
  · exact h

theorem wakeReader (h : Hushed hand s) : Hushed hand s.wakeReader := by
  unfold Server.wakeReader
  split
  · exact h
  · exact h.asked fun job member => by rw [List.mem_singleton.mp member]; rfl

theorem posted (h : Hushed hand s) (letters : List Letter) (room : Nat)
    (spent : next.isSpent = true) : Hushed next { s with mailbox := { s.mailbox with
      letters := letters, room := room } }.wakeWriter :=
  Hushed.wakeWriter ⟨h.shut, h.ready, h.silent, h.jobs, h.waiting, spent⟩

theorem freePlaces (h : Hushed hand s) (count : Nat) : Hushed .free (s.freePlaces count) := by
  have inside {entry : Letter × Sequel}
      (member : entry ∈ s.mailbox.line fun sequel => !s.isStale sequel) :
      isSpentEntry entry = true :=
    h.waiting entry (List.mem_filter.mp member).1
  refine ⟨h.shut, h.ready, h.silent, fun job member => ?_, fun entry member => ?_, rfl⟩
  · rcases List.mem_append.mp member with old | new
    · exact h.jobs job old
    · obtain ⟨entry, served, rfl⟩ := List.mem_map.mp new
      exact inside (List.mem_of_mem_take served)
  · exact inside (List.mem_of_mem_drop member)

/-- A letter that is put into its place is no publication, and no build follows it. -/
theorem placed (h : Hushed hand s) {letter : Letter} {sequel : Sequel}
    (wanted : s.isStale sequel = false) (spent : isSpentEntry (letter, sequel) = true) :
    builds sequel = false ∧ publishes letter = false := by
  cases sequel with
  | resume pause =>
      cases pause with
      | build run workspace document =>
          obtain ⟨p, same⟩ := Option.isSome_iff_exists.mp h.ready
          have stale := (h.silent p same).superseded spent
          simp [isStale, Pause.run, same, stale] at wanted
      | deliver run diagnostics => simpa [builds, isSpentEntry] using spent
  | read => simpa [builds, isSpentEntry] using spent
  | nothing => simpa [builds, isSpentEntry] using spent

/-- A place in the mailbox is asked for with what was to be sent. -/
theorem isSpentEntry_of_send {letter : Letter} {sequel : Sequel}
    (spent : (Hand.send letter sequel).isSpent = true) :
    isSpentEntry (letter, sequel) = true := by
  simp only [Hand.isSpent, Bool.and_eq_true, Bool.not_eq_true'] at spent
  cases sequel with
  | resume pause =>
      cases pause with
      | build run workspace document => exact nomatch spent.1
      | deliver run diagnostics => simp [isSpentEntry, spent.2]
  | _ => simp [isSpentEntry, spent.2]

theorem publications_posted {letter : Letter} (silent : publishes letter = false) (room : Nat) :
    (Server.wakeWriter { s with mailbox := { s.mailbox with
      letters := s.mailbox.letters ++ [letter], room := room } }).publications =
        s.publications := by
  unfold publications
  rw [wakeWriter_outbox, wakeWriter_mailbox]
  cases letter with
  | close => simp [Letter.content?]
  | message content =>
      have other : isPublication content = false := by simpa [publishes, Letter.content?] using silent
      simp [Letter.content?, other]

/-- Only the result of a push is published. -/
theorem report_not_publishes {run : Run Json} (pulled : ¬ run.trigger.isPush = true)
    (diagnostics : List Diagnostic) :
    publishes (.message (report run diagnostics)) = false := by
  unfold report
  cases kind : run.trigger with
  | push => exact absurd (by rw [kind]; rfl) pulled
  | pull id => exact answer_not_publication (answer_isAnswer id _)

/-- All work keeps it, and adds no publication. -/
theorem work (h : Hushed hand s) (work : Work outside hand s next after) :
    Hushed next after ∧ after.publications = s.publications := by
  cases work with
  | lost works none => exact ⟨h.same rfl, rfl⟩
  | place wanted =>
      obtain ⟨last, silent⟩ := h.placed wanted h.hand
      exact ⟨h.posted _ _ (by simp [Hand.isSpent, last]), publications_posted silent _⟩
  | unwanted stale => exact ⟨h.freePlaces 1, rfl⟩
  | @wake _ p uri generation same =>
      refine ⟨Hushed.enlist (h.becomes ((h.silent p same).wake uri generation) rfl), ?_⟩
      unfold publications
      rw [enlist_outbox, enlist_mailbox]
      rfl
  | ask same => exact nomatch h.hand
  | @start _ p run same current =>
      have superseded : p.isSuperseded run = true := (h.silent p same).superseded h.hand
      exact nomatch superseded.symm.trans current
  | finish same current => exact ⟨h.same rfl, rfl⟩
  | giveUp same superseded own => exact ⟨h.same rfl, rfl⟩
  | unfounded same nothing => exact nomatch h.hand
  | clear same found => exact nomatch h.hand
  | launch same long => exact nomatch h.hand
  | build same short => exact nomatch h.hand
  | succeed same sound => exact ⟨h.same rfl, rfl⟩
  | complain same failed =>
      refine ⟨h.same ?_, rfl⟩
      simp [Hand.isSpent, builds, publishes, Letter.content?, logError_not_publication]
  | @keepBack _ p run diagnostics same superseded =>
      exact ⟨h.becomes ((h.silent p same).landed _ _) rfl, rfl⟩
  | @deliver _ p run diagnostics same current =>
      have pulled : ¬ run.trigger.isPush = true := fun push =>
        nomatch ((h.silent p same).superseded push).symm.trans current
      refine ⟨h.becomes ((h.silent p same).landed _ _) ?_, rfl⟩
      simp [Hand.isSpent, builds, report_not_publishes pulled diagnostics]
  | rest => exact ⟨h.same rfl, rfl⟩
  | post room =>
      obtain ⟨-, rfl⟩ := send?_eq_some room
      have spent := h.hand
      simp only [Hand.isSpent, Bool.and_eq_true, Bool.not_eq_true'] at spent
      exact ⟨h.posted _ _ (by simp [Hand.isSpent, spent.1]), publications_posted spent.2 _⟩
  | await full =>
      refine ⟨⟨h.shut, h.ready, h.silent, h.jobs, fun entry member => ?_, rfl⟩, rfl⟩
      rcases List.mem_append.mp member with old | new
      · exact h.waiting entry old
      · rw [List.mem_singleton.mp new]
        exact isSpentEntry_of_send h.hand
  | read => exact ⟨h.same rfl, rfl⟩

/-- Letters are written. -/
theorem write (h : Hushed (.job .write) s) : Hushed .free s.write := by
  have written (outbox : List Json) (letters : List Letter) (writer : Writer) :
      Hushed .free { s with
        outbox := outbox, mailbox := { s.mailbox with letters := letters }, writer := writer } :=
    ⟨h.shut, h.ready, h.silent, h.jobs, h.waiting, rfl⟩
  unfold Server.write
  dsimp only
  split
  · exact ⟨h.shut, h.ready, h.silent, h.jobs, h.waiting, rfl⟩
  · exact (written _ _ _).freePlaces _

/-- A frame is taken that stirs nothing. -/
theorem afterFrame (h : Hushed (.go .read) s) {body : List UInt8} (calm : stirs body = false)
    (rest : List UInt8) (spent : next.isSpent = true) :
    Hushed next (s.afterFrame (s.session.take body).session rest) := by
  refine Hushed.enlist ⟨?_, Session.take_isSome h.ready body, ?_, h.jobs, h.waiting, spent⟩
  · rcases Session.take_shut s.session body with same | ⟨id, shutdown⟩
    · exact same.trans h.shut
    · change (s.session.take body).session.shutdownRequested = true
      rw [shutdown]
      rfl
  · refine h.silent.taken Pipeline.Silent.fresh (fun stirred => ?_) (fun p uri silent => silent.close uri)
      (fun p silent => .shutdown silent.spent) fun running => ?_
    · exact nomatch calm.symm.trans stirred
    · exact nomatch h.shut.symm.trans running

theorem closingWith (h : Hushed hand s) (ending : Ending) :
    Hushed (.send .close .nothing) (s.closingWith ending) := by
  refine ⟨h.shut, ?_, h.silent.withPipeline fun p silent => .shutdown silent.spent, h.jobs, h.waiting,
    rfl⟩
  exact (Session.withPipeline_isSome _ _).trans h.ready

end Hushed

/-- An accepted request to shut down hushes a server that is settled. -/
theorem Settled.shutdown (h : s.Settled) {body : List UInt8}
    (running : s.session.shutdownRequested = false)
    (accepted : (s.session.take body).session.shutdownRequested = true)
    (ready : s.session.pipeline?.isSome) (rest : List UInt8) (spent : next.isSpent = true) :
    Hushed next (s.afterFrame (s.session.take body).session rest) := by
  rcases Session.take_shut s.session body with same | ⟨id, shutdown⟩
  · exact nomatch (accepted.symm.trans same).trans running
  · refine Hushed.enlist ⟨accepted, Session.take_isSome ready body, ?_, h.jobs, h.waiting, spent⟩
    change (s.session.take body).session.Has Pipeline.Silent
    rw [shutdown]
    exact h.agenda.withPipeline fun p spent => Pipeline.Silent.shutdown spent

namespace Settled

/-- A server where nobody asks for a turn is settled. -/
theorem atRest {settings : Settings} {input : List UInt8} (h : Sound settings input .free s)
    (goes : s.ending? = none) (rest : s.next?.isNone) : s.Settled := by
  obtain ⟨-, jobs, waiting, -, -⟩ := (h.housed goes).rest h.reading goes rest
  refine ⟨fun p same entry member => ?_, fun job member => ?_, fun entry member => ?_⟩
  · have delayed := (h.punctual goes p same).isDelayed member
    cases kind : entry.action with
    | wake uri generation => rfl
    | ask uri id => simp [kind, Task.isDelayed] at delayed
    | start run => simp [kind, Task.isDelayed] at delayed
    | finish run document result => rfl
  · simp [jobs] at member
  · simp [waiting] at member

theorem hear (h : s.Settled) (bytes : List UInt8) : (s.hear bytes).Settled := by
  unfold Server.hear wakeReader
  split
  · exact ⟨h.agenda, h.jobs, h.waiting⟩
  · refine ⟨h.agenda, fun job member => ?_, h.waiting⟩
    rcases List.mem_append.mp member with old | new
    · exact h.jobs job old
    · rw [List.mem_singleton.mp new]
      rfl

theorem without (h : s.Settled) (place : Nat) : (s.without place).Settled :=
  ⟨h.agenda, fun job member => h.jobs job (List.mem_of_mem_eraseIdx member), h.waiting⟩

end Settled

theorem takeFirst_contents (count : Nat) (letters : List Letter) :
    (Mailbox.takeFirst count letters).1 ++
        (Mailbox.takeFirst count letters).2.1.filterMap Letter.content? =
      letters.filterMap Letter.content? := by
  have contentsOf (contents : List Json) :
      (contents.map Letter.message).filterMap Letter.content? = contents := by
    rw [List.filterMap_map]
    exact List.filterMap_some
  have taken := Mailbox.takeFirst_taken count letters
  generalize Mailbox.takeFirst count letters = parts at taken ⊢
  cases taken with
  | messages contents rest => rw [List.filterMap_append, contentsOf]
  | last contents rest =>
      rw [List.filterMap_append, contentsOf]
      rfl

theorem write_publications (s : Server ω) : s.write.publications = s.publications := by
  unfold publications
  rw [write_outbox, write_letters, List.append_assoc, takeFirst_contents]

theorem afterFrame_publications (s : Server ω) (session : Session) (rest : List UInt8) :
    (s.afterFrame session rest).publications = s.publications := by
  unfold publications afterFrame
  rw [enlist_outbox, enlist_mailbox]

/-- The frames that have been read behind the request to shut down, and what holds as long as none
of them stirs anything. -/
def Quiet (early : List UInt8) (request : List UInt8) (shown : List Json) : Condition ω :=
  fun input hand s => ∃ others,
    Frame.Reads s.isClosed (early ++ input) (request :: others) s.unread ∧
      ((∀ body ∈ others, stirs body = false) → Hushed hand s ∧ s.publications = shown)

namespace Quiet

variable {early request input : List UInt8} {shown : List Json}

/-- Something happens that reads no frame. -/
theorem same (h : Quiet early request shown input hand s) (unread : after.unread = s.unread)
    (isClosed : after.isClosed = s.isClosed)
    (keeps : Hushed hand s → Hushed next after ∧ after.publications = s.publications) :
    Quiet early request shown input next after := by
  obtain ⟨others, reads, quiet⟩ := h
  refine ⟨others, by rw [unread, isClosed]; exact reads, fun calm => ?_⟩
  obtain ⟨hushed, same⟩ := quiet calm
  obtain ⟨kept, silent⟩ := keeps hushed
  exact ⟨kept, silent.trans same⟩

/-- One more frame is read. -/
theorem frame (h : Quiet early request shown input (.go .read) s) {body rest : List UInt8}
    (first : Frame.next s.isClosed s.unread = .frame body rest) (spent : next.isSpent = true) :
    Quiet early request shown input next (s.afterFrame (s.session.take body).session rest) := by
  obtain ⟨others, reads, quiet⟩ := h
  have isClosed : (s.afterFrame (s.session.take body).session rest).isClosed = s.isClosed :=
    enlist_isClosed _
  refine ⟨others ++ [body], ?_, fun calm => ?_⟩
  · rw [isClosed, afterFrame_unread]
    exact reads.snoc first
  · obtain ⟨hushed, same⟩ := quiet fun other member => calm other (List.mem_append_left _ member)
    have still : stirs body = false := calm body (List.mem_append_right _ List.mem_cons_self)
    exact ⟨hushed.afterFrame still rest spent, (afterFrame_publications s _ rest).trans same⟩

theorem closingWith (h : Quiet early request shown input hand s) (ending : Ending) :
    Quiet early request shown input (.send .close .nothing) (s.closingWith ending) :=
  h.same rfl rfl fun hushed => ⟨hushed.closingWith ending, rfl⟩

theorem step (h : Quiet early request shown input hand s) (first : Step outside hand s next after) :
    Quiet early request shown input next after := by
  have resting (s : Server ω) (h : Quiet early request shown input (.go .read) s) :
      Quiet early request shown input .free s :=
    h.same rfl rfl fun hushed => ⟨hushed.same rfl, rfl⟩
  cases first with
  | work w =>
      obtain ⟨unread, isClosed, -, -, -⟩ := w.untouched
      exact h.same unread isClosed fun hushed => hushed.work w
  | write =>
      exact h.same (write_unread s) (write_isClosed s) fun hushed =>
        ⟨hushed.write, write_publications s⟩
  | stay past => exact resting s h
  | pause reading part => exact resting s h
  | stop reading ends => exact h.closingWith _
  | @exit _ body rest reading frame ends =>
      have taken : Quiet early request shown input (.go .read)
          (s.afterFrame (s.session.take body).session rest) := h.frame frame rfl
      exact taken.closingWith _
  | pass reading frame goes silent => exact h.frame frame rfl
  | answer reading frame goes replies =>
      refine h.frame frame ?_
      obtain ⟨id, -, form, -⟩ := Session.take_answer replies
      simp [Hand.isSpent, builds, publishes, Letter.content?, answer_not_publication form]

/-- The reader is told that something has come in. -/
theorem told (h : Quiet early request shown input .free s) :
    Quiet early request shown input .free s.wakeReader := by
  refine h.same (wakeReader_unread s) (wakeReader_isClosed s) fun hushed => ⟨hushed.wakeReader, ?_⟩
  unfold wakeReader
  split <;> rfl

end Quiet

theorem quiet_kept (early request : List UInt8) (shown : List Json) :
    Kept outside .any (Quiet (ω := ω) early request shown) where
  step _ h first := h.step first
  turn {input s place job} _ h _ found := by
    refine h.same rfl rfl fun hushed => ⟨?_, rfl⟩
    refine ⟨hushed.shut, hushed.ready, hushed.silent, fun other member => ?_, hushed.waiting, ?_⟩
    · exact hushed.jobs other (List.mem_of_mem_eraseIdx member)
    · exact hushed.jobs job (List.mem_of_getElem? found)
  hear {input s} _ h _ isOpen bytes := by
    obtain ⟨others, reads, quiet⟩ := h
    refine Quiet.told ⟨others, ?_, fun calm => ?_⟩
    · rw [← List.append_assoc]
      exact reads.heard isOpen bytes
    · obtain ⟨hushed, same⟩ := quiet calm
      exact ⟨⟨hushed.shut, hushed.ready, hushed.silent, hushed.jobs, hushed.waiting, rfl⟩, same⟩
  hangUp {input s} _ h _ := by
    obtain ⟨others, reads, quiet⟩ := h
    refine Quiet.told ⟨others, reads.atEnd, fun calm => ?_⟩
    obtain ⟨hushed, same⟩ := quiet calm
    exact ⟨⟨hushed.shut, hushed.ready, hushed.silent, hushed.jobs, hushed.waiting, rfl⟩, same⟩
  rest {input s} _ h _ _ := by
    refine h.same rfl rfl fun hushed => ⟨?_, rfl⟩
    have same : Hushed .free { s with writer := { s.writer with isResting := false } } :=
      ⟨hushed.shut, hushed.ready, hushed.silent, hushed.jobs, hushed.waiting, rfl⟩
    exact same.asked fun job member => by rw [List.mem_singleton.mp member]; rfl
  clock {input s} _ h _ time := by
    have timed : Quiet early request shown input .free (s.withTime time) :=
      h.same rfl rfl fun hushed => ⟨⟨hushed.shut, (Session.withPipeline_isSome _ _).trans hushed.ready,
        hushed.silent.withPipeline fun p silent => ⟨silent.pending, silent.flights, silent.spent⟩,
        hushed.jobs, hushed.waiting, rfl⟩, rfl⟩
    refine timed.same (enlist_unread _) (enlist_isClosed _) fun hushed => ⟨hushed.enlist, ?_⟩
    unfold publications
    rw [enlist_outbox, enlist_mailbox]
  late {input s} _ h _ time :=
    h.same rfl rfl fun hushed => ⟨⟨hushed.shut, (Session.withPipeline_isSome _ _).trans hushed.ready,
      hushed.silent.withPipeline fun p silent => ⟨silent.pending, silent.flights, silent.spent⟩,
      hushed.jobs, hushed.waiting, rfl⟩, rfl⟩
  count _ h _ := h.same rfl rfl fun hushed =>
    ⟨⟨hushed.shut, hushed.ready, hushed.silent, hushed.jobs, hushed.waiting, rfl⟩, rfl⟩
  alter _ h _ := h.same rfl rfl fun hushed =>
    ⟨⟨hushed.shut, hushed.ready, hushed.silent, hushed.jobs, hushed.waiting, rfl⟩, rfl⟩

/-! ## Builds -/

def Hand.isIdle : Hand → Bool
  | .send _ .read => true
  | .send _ .nothing => true
  | .go .read => true
  | .go .nothing => true
  | .free => true
  | _ => false

theorem enlist_world (s : Server ω) : s.enlist.world = s.world := by
  unfold enlist
  split <;> rfl

theorem wakeWriter_world (s : Server ω) : s.wakeWriter.world = s.world := by
  unfold wakeWriter
  split <;> rfl

theorem write_world (s : Server ω) : s.write.world = s.world := by
  unfold write
  dsimp only
  split <;> rfl

theorem Work.world (work : Work outside hand s next after)
    (other : ∀ run workspace document, hand ≠ .go (.resume (.build run workspace document))) :
    after.world = s.world := by
  cases work with
  | place wanted => exact wakeWriter_world _
  | wake same => exact enlist_world _
  | launch same long => exact absurd rfl (other _ _ _)
  | build same short => exact absurd rfl (other _ _ _)
  | post room =>
      obtain ⟨-, rfl⟩ := send?_eq_some room
      exact wakeWriter_world _
  | _ => rfl

theorem Work.idle (work : Work outside hand s next after) (idle : hand.isIdle = true) :
    next.isIdle = true := by
  cases work with
  | lost works none => rfl
  | rest => rfl
  | @post _ _ letter sequel room =>
      cases sequel with
      | resume pause => exact nomatch idle
      | read => rfl
      | nothing => rfl
  | await full => rfl
  | _ => exact nomatch idle

/-- No step of a turn builds anything when all pushes are superseded and no question is left. -/
theorem Step.idle (step : Step outside hand s next after)
    (h : Hushed hand s ∨ hand.isIdle = true) :
    after.world = s.world ∧ (Hushed next after ∨ next.isIdle = true) := by
  cases step with
  | work w =>
      refine ⟨w.world fun run workspace document same => ?_, ?_⟩
      · subst same
        rcases h with hushed | idle
        · exact nomatch hushed.hand
        · exact nomatch idle
      · exact h.imp (fun hushed => (hushed.work w).1) w.idle
  | write => exact ⟨write_world s, .inr rfl⟩
  | stay past => exact ⟨rfl, .inr rfl⟩
  | pause reading part => exact ⟨rfl, .inr rfl⟩
  | stop reading ends => exact ⟨rfl, .inr rfl⟩
  | exit reading frame ends => exact ⟨enlist_world _, .inr rfl⟩
  | pass reading frame goes silent => exact ⟨enlist_world _, .inr rfl⟩
  | answer reading frame goes replies => exact ⟨enlist_world _, .inr rfl⟩

theorem Steps.idle (steps : Steps outside hand s next after)
    (h : Hushed hand s ∨ hand.isIdle = true) : after.world = s.world := by
  induction steps with
  | refl hand s => rfl
  | head first others ih =>
      obtain ⟨same, idle⟩ := first.idle h
      exact (ih idle).trans same

/-- A turn of a hushed server builds nothing. -/
theorem Hushed.turn (h : Hushed .free s) (place : Nat) :
    (s.move outside (.turn place)).world = s.world := by
  simp only [move, unlessEnded]
  split
  · rfl
  · split
    · rfl
    · rename_i job found
      have spent : Hushed (.job job) (s.without place) :=
        ⟨h.shut, h.ready, h.silent, fun other member => h.jobs other (List.mem_of_mem_eraseIdx member),
          h.waiting, h.jobs job (List.mem_of_getElem? found)⟩
      have steps : Steps outside (.job job) (s.without place) .free
          ((s.without place).perform outside job) := perform_steps _ job
      exact steps.idle (.inl spent)

/-- From the moment at which a settled server accepts a request to shut down, nothing is published
and nothing is built any more, unless a frame comes in that opens or changes a document or tells of
changed files. -/
theorem quiet_after_shutdown {s middle : Server ω} {request rest : List UInt8}
    (reading : s.closing? = none) (frame : Frame.next s.isClosed s.unread = .frame request rest)
    (ready : s.session.pipeline?.isSome) (running : s.session.shutdownRequested = false)
    (accepted : (s.session.take request).session.shutdownRequested = true) (settled : s.Settled)
    (turn : Steps outside (.go .read) s .free middle) (moves : List (Move ω)) :
    let later := middle.play outside moves
    (∃ id, (s.session.take request).answer? = some (answer id .null)) ∧
      middle.world = s.world ∧
      ∃ others, Frame.Reads later.isClosed (s.unread ++ middle.input outside moves)
          (request :: others) later.unread ∧
        ((∀ body ∈ others, stirs body = false) → later.publications = s.publications ∧
          ∀ place, (later.move outside (.turn place)).world = later.world) := by
  intro later
  have shutdown : ∃ id, s.session.take request = s.session.takeShutdown id := by
    rcases Session.take_shut s.session request with same | shutdown
    · simp [same, running] at accepted
    · exact shutdown
  obtain ⟨id, shutdown⟩ := shutdown
  have quiet : Quiet s.unread request s.publications [] .free middle := by
    cases turn with
    | head first others =>
        refine others.keeps (fun step kept => Quiet.step kept step) ?_
        cases first with
        | work w => cases w with | lost works none => exact False.elim works
        | stay past => simp [reading] at past
        | pause _ part => simp [frame] at part
        | stop _ ends => simp [inputEnding?, frame] at ends
        | exit _ same ends =>
            obtain ⟨rfl, rfl⟩ := Frame.Next.frame.inj (frame.symm.trans same)
            rw [shutdown] at ends
            cases ends
        | pass _ same goes silent =>
            obtain ⟨rfl, rfl⟩ := Frame.Next.frame.inj (frame.symm.trans same)
            rw [shutdown] at silent
            cases silent
        | answer _ same goes replies =>
            obtain ⟨rfl, rfl⟩ := Frame.Next.frame.inj (frame.symm.trans same)
            obtain ⟨id, -, form, -⟩ := Session.take_answer replies
            refine ⟨[], ?_, fun _ => ⟨settled.shutdown running accepted ready rest ?_,
              afterFrame_publications s _ rest⟩⟩
            · rw [List.append_nil, afterFrame_unread,
                show (s.afterFrame (s.session.take request).session rest).isClosed = s.isClosed from
                  enlist_isClosed _]
              exact .frame frame (.none rest)
            · simp [Hand.isSpent, builds, publishes, Letter.content?, answer_not_publication form]
  refine ⟨⟨id, by rw [shutdown]; rfl⟩, turn.idle (.inr rfl), ?_⟩
  obtain ⟨others, reads, silent⟩ := (quiet_kept s.unread request s.publications).play quiet moves
  refine ⟨others, reads, fun calm => ?_⟩
  obtain ⟨hushed, same⟩ := silent calm
  exact ⟨same, hushed.turn⟩

namespace Editor

/-- The document is open, and its build is still to begin when the request to shut down comes in. -/
def morning : List (Move Nat) :=
  [.hear (Frame.write introduction ++ Frame.write opening), .turn 0, .turn 0]

/-- The reader has the turn in which it finds the request to shut down. -/
def dismissed : Server Nat :=
  (((start .default 0).play toolless morning).hear (Frame.write farewell)).without 0

/-- The editor still asks for the diagnostics of the document, and time passes. -/
def evening : List (Move Nat) :=
  [.hear (Frame.write question), .clock 1000, .turn 0, .turn 0, .turn 0, .turn 0]

/-- The document is opened again, and time passes. -/
def reopening : List (Move Nat) :=
  [.turn 0, .hear (Frame.write opening), .turn 0, .clock 1000, .turn 0, .turn 0, .turn 0]

/-- The editor asks for the diagnostics of the document and shuts down, all at once. -/
def hurry : List (Move Nat) :=
  [.hear (Frame.write question ++ Frame.write farewell), .turn 0]

end Editor

/-- The document that has been opened before is not built, and the question is refused. -/
theorem change_dropped_by_shutdown :
    let later := Editor.dismissed.read.play Editor.toolless Editor.evening
    later.publications = [] ∧ later.world = 0 ∧ later.outbox.length = 3 ∧
      ∀ place, (later.move Editor.toolless (.turn place)).world = later.world := by
  intro later
  have calm : ((start .default 0).play Editor.toolless Editor.morning).ending? = none ∧
      ((start .default 0).play Editor.toolless Editor.morning).next?.isNone := by
    decide +kernel
  have settled : Editor.dismissed.Settled :=
    ((Settled.atRest (sound_play Editor.toolless .default 0 Editor.morning) calm.1 calm.2).hear
      _).without 0
  obtain ⟨reading, unread, ready, running, accepted, before⟩ :
      Editor.dismissed.closing? = none ∧
        Editor.dismissed.unread = [Editor.farewell].flatMap Frame.write ∧
        Editor.dismissed.session.pipeline?.isSome ∧
        Editor.dismissed.session.shutdownRequested = false ∧
        (Editor.dismissed.session.take Editor.farewell).session.shutdownRequested = true ∧
        Editor.dismissed.publications = [] := by
    decide +kernel
  have frame : Frame.next Editor.dismissed.isClosed Editor.dismissed.unread =
      .frame Editor.farewell [] := by
    rw [unread]
    exact Frame.next_write_append _ (by decide +kernel) []
  obtain ⟨-, -, others, reads, quiet⟩ := quiet_after_shutdown reading frame ready running accepted
    settled (read_steps Editor.dismissed : Steps Editor.toolless (.go .read) _ .free _) Editor.evening
  obtain ⟨input, world, outbox⟩ : Editor.dismissed.unread ++
        Editor.dismissed.read.input Editor.toolless Editor.evening =
          [Editor.farewell, Editor.question].flatMap Frame.write ∧
      later.world = 0 ∧ later.outbox.length = 3 := by
    decide +kernel
  have front := reads.written (by decide +kernel) input
  have still : ∀ body ∈ others, stirs body = false := by
    intro body member
    have same := (List.cons_prefix_cons.mp front).2.subset member
    rw [List.mem_singleton.mp same]
    decide +kernel
  obtain ⟨same, idle⟩ := quiet still
  exact ⟨same.trans before, world, outbox, idle⟩

/-- A document that is opened after the shutdown is built and its diagnostics are published; and a
question that has been asked just before leads to a publication and a build after it. -/
theorem builds_after_shutdown :
    (let accepted := Editor.dismissed.read
      let later := accepted.play Editor.toolless Editor.reopening
      accepted.session.shutdownRequested ∧ accepted.publications = [] ∧ accepted.world = 0 ∧
        later.publications.length = 2 ∧ later.world = 1) ∧
      (let accepted := ((start .default 0).play Editor.toolless Editor.morning).play
        Editor.toolless Editor.hurry
      let later := accepted.play Editor.toolless [.turn 0, .turn 0]
      accepted.session.shutdownRequested ∧ accepted.publications = [] ∧ accepted.world = 0 ∧
        later.publications.length = 1 ∧ later.world = 1) := by
  decide +kernel

end Server

end AsmDiagnostics
