import AsmDiagnostics.Proofs.Server.Background
import AsmDiagnostics.Proofs.Server.Quiet

/-!
# A server and its open documents

At every moment of every story, between turns and within them, all background work is for open
documents and has their versions.  Nothing is built or shown for a document that is closed until a
frame opens it again, and when files have changed all open documents are looked at again.
-/

namespace AsmDiagnostics.Server

open Message

variable {ω : Type} {outside : Outside ω} {settings : Settings} {hand next : Hand}
  {s after : Server ω}

/-! ## Moments -/

/-- A moment of a story: nobody has a turn, or some steps of a turn have been made. -/
inductive Moment (outside : Outside ω) (s : Server ω) : Hand → Server ω → Prop where
  | between : Moment outside s .free s
  | within {place : Nat} {job : Job} {hand : Hand} {after : Server ω} (goes : s.ending? = none)
      (found : s.jobs[place]? = some job)
      (steps : Steps outside (.job job) (s.without place) hand after) : Moment outside s hand after

/-- A moment comes after another one, and some bytes have come in between: it lies in the same turn,
or the turn ends and the story goes on. -/
inductive Reaches (outside : Outside ω) (hand : Hand) (s : Server ω) :
    List UInt8 → Hand → Server ω → Prop where
  | within {next : Hand} {after : Server ω} (steps : Steps outside hand s next after) :
      Reaches outside hand s [] next after
  | beyond {next : Hand} {middle after : Server ω} (turn : Steps outside hand s .free middle)
      (moves : List (Move ω)) (moment : Moment outside (middle.play outside moves) next after) :
      Reaches outside hand s (middle.input outside moves) next after

/-- What is kept holds at all moments that come after. -/
theorem Kept.reaches {keeps : Condition ω} (h : Kept outside .any keeps) {input more : List UInt8}
    (kept : keeps input hand s) (reaches : Reaches outside hand s more next after) :
    keeps (input ++ more) next after := by
  have steps {input : List UInt8} {first last : Hand} {s after : Server ω}
      (steps : Steps outside first s last after) (kept : keeps input first s) :
      keeps input last after :=
    steps.keeps (fun step kept => h.step trivial kept step) kept
  cases reaches with
  | within turn =>
      rw [List.append_nil]
      exact steps turn kept
  | beyond turn moves moment =>
      have played := h.play (steps turn kept) moves
      cases moment with
      | between => exact played
      | within goes found others => exact steps others (h.turn trivial played goes found)

/-! ## What is sent -/

/-- All that has been sent: what is written, and what lies in the mailbox. -/
def sent (s : Server ω) : List Json := s.outbox ++ s.mailbox.letters.filterMap Letter.content?

theorem enlist_sent (s : Server ω) : s.enlist.sent = s.sent := by
  unfold sent
  rw [enlist_outbox, enlist_mailbox]

theorem wakeWriter_sent (s : Server ω) : s.wakeWriter.sent = s.sent := by
  unfold sent
  rw [wakeWriter_outbox, wakeWriter_mailbox]

theorem write_sent (s : Server ω) : s.write.sent = s.sent := by
  unfold sent
  rw [write_outbox, write_letters, List.append_assoc, takeFirst_contents]

/-- What some work sends comes out of the hand. -/
theorem Work.sent (work : Work outside hand s next after) : after.sent = s.sent ∨
    ∃ message sequel, hand.entry? = some (.message message, sequel) ∧
      after.sent = s.sent ++ [message] := by
  have posted {letter : Letter} {sequel : Sequel} {room : Nat}
      (own : hand.entry? = some (letter, sequel)) (is : after = { s with mailbox := { s.mailbox with
        letters := s.mailbox.letters ++ [letter], room := room } }.wakeWriter) :
      after.sent = s.sent ∨ ∃ message sequel, hand.entry? = some (.message message, sequel) ∧
        after.sent = s.sent ++ [message] := by
    rw [is, wakeWriter_sent]
    cases letter with
    | close => exact .inl (by simp [Server.sent, Letter.content?])
    | message content =>
        exact .inr ⟨content, sequel, own, by simp [Server.sent, Letter.content?]⟩
  cases work with
  | place wanted => exact posted rfl rfl
  | wake same => exact .inl (enlist_sent _)
  | post room => exact posted rfl (send?_eq_some room).2
  | _ => exact .inl rfl

/-- Nothing is on its way into a mailbox that has had room for everything. -/
theorem not_sending_of_room {letter : Letter} {sequel : Sequel} (idle : hand.entry? = none)
    (promised : .place letter sequel ∉ s.jobs) (waiting : s.mailbox.waiting = []) :
    ¬ Sending letter sequel hand s := by
  rintro (own | asked | waits)
  · cases idle.symm.trans own
  · exact promised asked
  · rw [waiting] at waits
    cases waits

/-! ## A document that is closed -/

/-- The document is closed, and nothing has been sent since, or is on its way, that shows something
for it. -/
structure Withdrawn (uri : Uri) (given : List Json) (hand : Hand) (s : Server ω) : Prop where
  closed : s.session.documents.contains uri = false
  sending : ∀ message sequel, Sending (.message message) sequel hand s → Spares uri message
  later : ∃ more, s.sent = given ++ more ∧ ∀ message ∈ more, Spares uri message

namespace Withdrawn

variable {uri : Uri} {given : List Json}

theorem same (h : Withdrawn uri given hand s)
    (documents : after.session.documents = s.session.documents) (sent : after.sent = s.sent)
    (sending : ∀ letter sequel, Sending letter sequel next after → Sending letter sequel hand s) :
    Withdrawn uri given next after :=
  ⟨documents ▸ h.closed, fun message sequel sends => h.sending message sequel (sending _ _ sends),
    sent ▸ h.later⟩

theorem work (h : Withdrawn uri given hand s) (background : Background settings hand s)
    (work : Work outside hand s next after) : Withdrawn uri given next after := by
  refine ⟨work.documents ▸ h.closed, fun message sequel sends => ?_, ?_⟩
  · rcases work.sending sends with before | ⟨new, -⟩
    · exact h.sending message sequel before
    · exact work.spares background.grounded new h.closed
  · obtain ⟨more, all, spared⟩ := h.later
    rcases work.sent with same | ⟨message, sequel, own, longer⟩
    · exact ⟨more, same.trans all, spared⟩
    · refine ⟨more ++ [message], by rw [longer, all, List.append_assoc], fun other member => ?_⟩
      rcases List.mem_append.mp member with old | new
      · exact spared other old
      · exact List.mem_singleton.mp new ▸ h.sending message sequel (.inl own)

/-- A frame is taken that does not open the document. -/
theorem afterFrame (h : Withdrawn uri given hand s) {body : List UInt8}
    (calm : Notice.opens uri body = false) (rest : List UInt8)
    (silent : ∀ message sequel, next.entry? = some (.message message, sequel) →
      isPublication message = false) :
    Withdrawn uri given next (s.afterFrame (s.session.take body).session rest) := by
  refine ⟨?_, fun message sequel sends => ?_, ?_⟩
  · exact (enlist_documents _).symm ▸ (Session.take_made s.session body).closed h.closed calm
  · rcases sends with mine | elsewhere
    · exact .silent (silent message sequel mine)
    · have taken : Sending (.message message) sequel .free
          { s with session := (s.session.take body).session, unread := rest } :=
        enlist_sending (.inr elsewhere)
      have still : Sending (.message message) sequel .free s := taken
      exact h.sending message sequel still.any
  · exact (enlist_sent _).symm ▸ h.later

theorem closingWith (h : Withdrawn uri given hand s) (ending : Ending) :
    Withdrawn uri given (.send .close .nothing) (s.closingWith ending) := by
  refine ⟨h.closed, fun message sequel sends => ?_, h.later⟩
  exact h.sending message sequel (.inr (sends.resolve_left fun own => by cases own))

end Withdrawn

/-- The frames that have been read since, and what holds as long as none of them opens the
document. -/
def Since (uri : Uri) (early : List UInt8) (given : List Json) : Condition ω :=
  fun input hand s => ∃ others, Frame.Reads s.isClosed (early ++ input) others s.unread ∧
    ((∀ body ∈ others, Notice.opens uri body = false) → Withdrawn uri given hand s)

namespace Since

variable {uri : Uri} {early input : List UInt8} {given : List Json}

/-- Something happens that reads no frame. -/
theorem same (h : Since uri early given input hand s) (unread : after.unread = s.unread)
    (isClosed : after.isClosed = s.isClosed)
    (keeps : Withdrawn uri given hand s → Withdrawn uri given next after) :
    Since uri early given input next after := by
  obtain ⟨others, reads, withdrawn⟩ := h
  exact ⟨others, by rw [unread, isClosed]; exact reads, fun calm => keeps (withdrawn calm)⟩

/-- One more frame is read. -/
theorem frame (h : Since uri early given input hand s) {body rest : List UInt8}
    (first : Frame.next s.isClosed s.unread = .frame body rest)
    (silent : ∀ message sequel, next.entry? = some (.message message, sequel) →
      isPublication message = false) :
    Since uri early given input next (s.afterFrame (s.session.take body).session rest) := by
  obtain ⟨others, reads, withdrawn⟩ := h
  have isClosed : (s.afterFrame (s.session.take body).session rest).isClosed = s.isClosed :=
    enlist_isClosed _
  refine ⟨others ++ [body], ?_, fun calm => ?_⟩
  · rw [isClosed, afterFrame_unread]
    exact reads.snoc first
  · rw [List.forall_mem_append, List.forall_mem_singleton] at calm
    exact (withdrawn calm.1).afterFrame calm.2 rest silent

theorem step (h : Since uri early given input hand s) (background : Background settings hand s)
    (step : Step outside hand s next after) : Since uri early given input next after := by
  have rested (h : Since uri early given input (.go .read) s) :
      Since uri early given input .free s :=
    h.same rfl rfl fun withdrawn => withdrawn.same rfl rfl fun _ _ sends => sends.any
  cases step with
  | work work =>
      obtain ⟨unread, isClosed, -⟩ := work.untouched
      exact h.same unread isClosed fun withdrawn => withdrawn.work background work
  | write =>
      refine h.same (write_unread s) (write_isClosed s) fun withdrawn => ?_
      exact withdrawn.same (by rw [write_session]) (write_sent s) fun _ _ sends =>
        (write_sending sends).any
  | stay past => exact rested h
  | pause reading part => exact rested h
  | stop reading ends => exact h.same rfl rfl fun withdrawn => withdrawn.closingWith _
  | @exit _ body rest reading first ends =>
      have taken : Since uri early given input (.go .read)
          (s.afterFrame (s.session.take body).session rest) :=
        h.frame first fun _ _ own => by cases own
      exact taken.same rfl rfl fun withdrawn => withdrawn.closingWith _
  | pass reading first goes silent => exact h.frame first fun _ _ own => by cases own
  | answer reading first goes replies =>
      refine h.frame first fun message sequel own => ?_
      obtain ⟨id, -, form, -⟩ := Session.take_answer replies
      obtain ⟨same, -⟩ := Prod.mk.inj (Option.some.inj own)
      exact Letter.message.inj same ▸ answer_not_publication form

theorem wakeReader (h : Since uri early given input .free s) :
    Since uri early given input .free s.wakeReader := by
  refine h.same (wakeReader_unread s) (wakeReader_isClosed s) fun withdrawn => ?_
  unfold Server.wakeReader
  split
  · exact withdrawn
  · exact withdrawn.same rfl rfl fun letter sequel sends => ask_sending (.inl rfl) sends

end Since

/-- A document that is closed stays withdrawn until it is opened again. -/
theorem since_kept (settings : Settings) (uri : Uri) (early : List UInt8) (given : List Json) :
    Kept outside (attended (ω := ω) settings) (Since uri early given) where
  step known h first := h.step known.2 first
  turn _ h _ found := h.same rfl rfl fun withdrawn =>
    withdrawn.same rfl rfl fun _ _ sends => sending_turn found sends
  hear _ h _ isOpen bytes := by
    obtain ⟨others, reads, withdrawn⟩ := h
    refine Since.wakeReader ⟨others, ?_, fun calm => ?_⟩
    · rw [← List.append_assoc]
      exact reads.heard isOpen bytes
    · exact (withdrawn calm).same rfl rfl fun _ _ => id
  hangUp _ h _ := by
    obtain ⟨others, reads, withdrawn⟩ := h
    exact Since.wakeReader ⟨others, reads.atEnd, fun calm =>
      (withdrawn calm).same rfl rfl fun _ _ => id⟩
  rest _ h _ _ := h.same rfl rfl fun withdrawn =>
    withdrawn.same rfl rfl fun _ _ sends => ask_sending (.inr rfl) sends
  clock {input s} _ h _ time := by
    refine h.same (enlist_unread _) (enlist_isClosed _) fun withdrawn => ?_
    exact withdrawn.same (enlist_documents _) (enlist_sent (s.withTime time)) fun _ _ sends =>
      (enlist_sending sends : Sending _ _ .free (s.withTime time))
  late _ h _ _ := h.same rfl rfl fun withdrawn => withdrawn.same rfl rfl fun _ _ => id
  count _ h _ := h.same rfl rfl fun withdrawn => withdrawn.same rfl rfl fun _ _ => id
  alter _ h _ := h.same rfl rfl fun withdrawn => withdrawn.same rfl rfl fun _ _ => id

/-! ## Main result -/

/-- All background work is for open documents, and current. -/
structure Current (hand : Hand) (s : Server ω) : Prop where
  /-- An event that is held back is for an open document and carries its version. -/
  pending : s.session.Has fun p => p.Tracks s.session.documents
  /-- A flight is that of a run on its way, which is for an open document if it is a push. -/
  flights : s.session.Has fun p => ∀ flight ∈ p.inFlight.flights, ∃ run, run.flight = flight ∧
    Bears (.run run) hand s ∧ (run.trigger = .push → s.session.documents.contains run.uri)
  /-- Every push on its way that is not superseded is for an open document. -/
  pushes : s.session.Has fun p => ∀ run, Bears (.run run) hand s → run.trigger = .push →
    p.isSuperseded run = false → s.session.documents.contains run.uri
  /-- A build that starts for a push is for an open document. -/
  builds : ∀ run workspace document, hand = .go (.resume (.build run workspace document)) →
    run.trigger = .push → s.session.documents.contains run.uri
  /-- A message that is sent shows nothing for a document that is closed. -/
  shows : ∀ message sequel, hand = .send (.message message) sequel →
    ∀ uri, s.session.documents.contains uri = false → Spares uri message

/-- The documents for which events are held back are the open ones; each event has the version of its
document and the whole window before it, and no timer of it is about to fire. -/
structure Restarted (window : Nat) (s : Server ω) (d : Documents) (p : Pipeline Json) : Prop where
  window : p.window = window
  exactly : ∀ uri, p.debouncer.isPending uri = d.contains uri
  tracks : p.Tracks d
  waits : ∀ event ∈ p.debouncer.pending, p.HasFullWindow event ∧
    .task (.wake event.key event.generation) ∉ s.jobs

namespace Background

variable (h : Background settings hand s)

include h

theorem current (lawful : Lawful hand s) : Current hand s where
  pending p same := (h.grounded p same).tracks
  flights p same flight member := by
    have grounded := h.grounded p same
    obtain ⟨run, rfl, bears⟩ := grounded.manned flight member
    exact ⟨run, rfl, bears, fun push => (grounded.known _ bears).2 push member⟩
  pushes p same run bears push current := by
    have flies : p.inFlight.isCurrent run.uri run.generation = true := by
      simpa [Pipeline.isSuperseded, push, Trigger.isPush] using current
    refine ((h.grounded p same).known _ bears).2 push ?_
    exact InFlight.mem_flights_of_current? ((InFlight.isCurrent_iff _ _ _).mp flies)
  builds run workspace document own push := by
    cases same : s.session.pipeline? with
    | none => exact absurd (own ▸ trivial) (lawful.idle same).1
    | some p => exact (h.grounded p same).isOpen (own ▸ rfl) push
  shows := h.shows

/-- When files have changed, all open documents are looked at again. -/
theorem restarted {body : List UInt8} (heard : Notice.ofBody? body = some .filesChanged) :
    (s.session.take body).session.Has
      (Restarted settings.debounceMillis s (s.session.take body).session.documents) := by
  rw [show (s.session.take body).session = s.session.filesChanged from Session.take_heard heard]
  intro q same
  obtain ⟨p, found, -⟩ := Option.map_eq_some_iff.mp same
  have grounded := h.grounded p found
  have stamped : p.Stamped := fun entry member uri generation timer =>
    grounded.known (.wake uri generation)
      (.inr (.inr (.inr ⟨p, found, entry, member, by rw [timer]; rfl⟩)))
  obtain ⟨r, becomes, still, tracks, exactly, waits⟩ :=
    Session.filesChanged_restarts h.ordered grounded.tracks stamped found
  obtain rfl := Option.some.inj (becomes.symm.trans same)
  refine ⟨still.trans grounded.window, exactly, tracks, fun event member =>
    ⟨(waits event member).1, fun asked => ?_⟩⟩
  have known : event.generation ≤ p.debouncer.lastGeneration :=
    grounded.known (.wake event.key event.generation) (.inr (.inl ⟨_, asked, rfl⟩))
  exact absurd (waits event member).2 (Nat.not_lt_of_le known)

end Background

/-- At every moment of every story all background work is for open documents and current.  When
files have changed, the open documents are exactly those that are looked at again, each after the
whole window.  A document is closed when the editor says so, and from then on no push builds it and
nothing is shown for it until a frame opens it again, provided that no message from before that shows
something for it still waits for its place. -/
theorem background_for_open_documents (outside : Outside ω) (settings : Settings) (world : ω)
    {input : List UInt8} {hand : Hand} {s : Server ω}
    (reached : Reaches outside .free (start settings world) input hand s) :
    Current hand s ∧
      (∀ body, Notice.ofBody? body = some .filesChanged →
        let later := (s.session.take body).session
        later.Has (Restarted settings.debounceMillis s later.documents)) ∧
      (∀ body uri, Notice.ofBody? body = some (.closed uri) →
        (s.session.take body).session.documents.contains uri = false) ∧
      ∀ uri, s.session.documents.contains uri = false →
        (∀ message sequel, Sending (.message message) sequel hand s → Spares uri message) →
        ∀ more next after, Reaches outside hand s more next after →
          ∃ others, Frame.Reads after.isClosed (s.unread ++ more) others after.unread ∧
            ((∀ body ∈ others, Notice.opens uri body = false) →
              after.session.documents.contains uri = false ∧
                (∀ run workspace document, next = .go (.resume (.build run workspace document)) →
                  run.trigger = .push → run.uri ≠ uri) ∧
                ∃ shown, after.sent = s.sent ++ shown ∧ ∀ message ∈ shown, Spares uri message) := by
  have known : Kept outside .any (attended (ω := ω) settings) := attended_kept settings
  obtain ⟨lawful, background⟩ := known.reaches (start_attended settings world) reached
  refine ⟨background.current lawful, fun body heard => background.restarted heard,
    fun body uri heard => ?_, fun uri closed spared more next after reaches => ?_⟩
  · rw [Session.take_heard heard, Session.heed_documents, Documents.heed, Documents.contains_close]
    simp
  · have since : Since uri s.unread s.sent [] hand s :=
      ⟨[], by rw [List.append_nil]; exact .none _,
        fun _ => ⟨closed, spared, [], by simp, List.forall_mem_nil _⟩⟩
    have kept := known.and (since_kept settings uri s.unread s.sent)
    obtain ⟨⟨lawful, background⟩, others, reads, withdrawn⟩ :=
      kept.reaches ⟨⟨lawful, background⟩, since⟩ reaches
    refine ⟨others, reads, fun calm => ⟨(withdrawn calm).closed, ?_, (withdrawn calm).later⟩⟩
    rintro run workspace document own push rfl
    have isOpen := (background.current lawful).builds run workspace document own push
    rw [(withdrawn calm).closed] at isOpen
    cases isOpen

/-! ### A document that is closed, and one that is built too early -/

namespace Editor

def changedFiles : List UInt8 :=
  notice "workspace/didChangeWatchedFiles" (Json.object [("changes", .arr [])])

def leaving : List UInt8 :=
  notice "textDocument/didClose" (Json.object [("textDocument", Json.object [("uri", document)])])

/-- The document is opened, and then files change. -/
def stirring : List (Move Nat) :=
  [.hear (Frame.write introduction ++ Frame.write opening ++ Frame.write changedFiles), .turn 0,
    .turn 0]

def closing : List (Move Nat) := [.hear (Frame.write leaving), .turn 0]

/-- So much time passes, and all those that ask have a turn. -/
def wait (millis : Nat) : List (Move Nat) := [.clock millis, .turn 0, .turn 0, .turn 0]

/-- A window of sixty years. -/
def patient : Settings := { Settings.default with debounceMillis := 2 * Agenda.longestWait }

end Editor

/-- The document that is closed in time is neither built nor shown; without that it is built. -/
theorem closed_document_left_alone :
    let s := (start .default 0).play Editor.toolless (Editor.stirring ++ Editor.closing)
    let later := s.play Editor.toolless (Editor.wait 1000)
    let left := (start .default 0).play Editor.toolless (Editor.stirring ++ Editor.wait 1000)
    s.session.documents.contains Sample.uri = false ∧
      (∃ shown, later.sent = s.sent ++ shown ∧ ∀ message ∈ shown, Spares Sample.uri message) ∧
      later.world = 0 ∧ left.world = 1 := by
  intro s later left
  have reached : Reaches Editor.toolless .free (start .default 0) _ .free s :=
    .beyond (.refl _ _) (Editor.stirring ++ Editor.closing) .between
  obtain ⟨closed, jobs, waiting, unread, world, built⟩ :
      s.session.documents.contains Sample.uri = false ∧ s.jobs.isEmpty ∧
        s.mailbox.waiting.isEmpty ∧ s.unread ++ s.input Editor.toolless (Editor.wait 1000) = [] ∧
        later.world = 0 ∧ left.world = 1 := by
    decide +kernel
  have nobody : ∀ message sequel, Sending (.message message) sequel .free s →
      Spares Sample.uri message := fun message sequel sends =>
    absurd sends (not_sending_of_room rfl (by simp [List.isEmpty_iff.mp jobs])
      (List.isEmpty_iff.mp waiting))
  obtain ⟨-, -, -, quiet⟩ := background_for_open_documents Editor.toolless .default 0 reached
  obtain ⟨others, reads, withdrawn⟩ := quiet Sample.uri closed nobody _ .free later
    (.beyond (.refl _ _) (Editor.wait 1000) .between)
  have front : others <+: [] := reads.written nofun unread
  have none : others = [] := List.prefix_nil.mp front
  obtain ⟨-, -, spared⟩ := withdrawn fun body member => by rw [none] at member; cases member
  exact ⟨closed, spared, world, built⟩

/-- A timer that starts anew when files have changed does not have the whole of a window of sixty
years before it, and the document is built before the window is over. -/
theorem restarted_timer_cut_short :
    let s := (start Editor.patient 0).play Editor.toolless Editor.stirring
    let later := s.play Editor.toolless (Editor.wait Agenda.longestWait)
    Notice.ofBody? Editor.changedFiles = some .filesChanged ∧
      (s.session.pipeline?.any fun p => p.debouncer.isPending Sample.uri &&
        p.agenda.all fun entry =>
          decide (entry.due < p.now + Editor.patient.debounceMillis)) = true ∧
      later.world = 1 ∧ (later.session.pipeline?.any fun p =>
        decide (p.now < Editor.patient.debounceMillis)) = true := by
  decide +kernel

end AsmDiagnostics.Server
