import AsmDiagnostics.Proofs.Message.Answers
import AsmDiagnostics.Proofs.Server.Story
import AsmDiagnostics.Proofs.Session.Taking

/-!
# The messages of a server

Every message to the editor is an answer under an id or a notice without one, wherever it is on its
way; what a sender does next tells which of them it sends.  Nothing of a pipeline is on its way
before there is one.
-/

namespace AsmDiagnostics

/-- What is taken out of a mailbox was in it, and so was what is left. -/
theorem Mailbox.takeFirst_mem (count : Nat) (letters : List Letter) :
    (∀ message ∈ (takeFirst count letters).1, .message message ∈ letters) ∧
      ∀ message, .message message ∈ (takeFirst count letters).2.1 → .message message ∈ letters := by
  have taken := takeFirst_taken count letters
  generalize takeFirst count letters = parts at taken ⊢
  cases taken with
  | messages contents rest =>
      exact ⟨fun message member => List.mem_append_left _ (List.mem_map_of_mem member),
        fun message member => List.mem_append_right _ member⟩
  | last contents rest =>
      exact ⟨fun message member => List.mem_append_left _ (List.mem_map_of_mem member),
        fun message member => List.mem_append_right _ (List.mem_cons_of_mem _ member)⟩

namespace Server

open Message

variable {ω : Type} {outside : Outside ω}

/-- An answer under an id, or a notice. -/
def Proper (message : Json) : Prop := IsNotice message ∨ ∃ id, IsAnswer id message

inductive Fits : Letter → Sequel → Prop where
  | answer {id message : Json} (form : IsAnswer id message) : Fits (.message message) .read
  | notice {message : Json} {pause : Pause Json} (form : IsNotice message) :
      Fits (.message message) (.resume pause)
  | report {message : Json} (form : Proper message) : Fits (.message message) .nothing
  | close : Fits .close .nothing

theorem Fits.proper {message : Json} {sequel : Sequel} (h : Fits (.message message) sequel) :
    Proper message := by
  cases h with
  | answer form => exact .inr ⟨_, form⟩
  | notice form => exact .inl form
  | report form => exact form

theorem report_proper (run : Run Json) (diagnostics : List Diagnostic) :
    Proper (report run diagnostics) := by
  unfold report
  cases run.trigger with
  | push => exact .inl (publishDiagnostics_isNotice _ _)
  | pull id => exact .inr ⟨id, answer_isAnswer id _⟩

/-- The letter that is to be sent, and what its sender does next. -/
def Hand.entry? : Hand → Option (Letter × Sequel)
  | .job (.place letter sequel) => some (letter, sequel)
  | .send letter sequel => some (letter, sequel)
  | _ => none

/-! ## Parts that an operation leaves alone -/

section Parts

variable (s : Server ω)

theorem enlist_mailbox : s.enlist.mailbox = s.mailbox := by
  unfold enlist
  split <;> rfl

theorem enlist_outbox : s.enlist.outbox = s.outbox := by
  unfold enlist
  split <;> rfl

theorem enlist_writer : s.enlist.writer = s.writer := by
  unfold enlist
  split <;> rfl

theorem enlist_isClosed : s.enlist.isClosed = s.isClosed := by
  unfold enlist
  split <;> rfl

theorem enlist_ending? : s.enlist.ending? = s.ending? := by
  unfold enlist
  split <;> rfl

theorem enlist_isSome : s.enlist.session.pipeline?.isSome = s.session.pipeline?.isSome := by
  unfold enlist
  split
  · rfl
  · rename_i pipeline same
    simp [withPipeline, same]

theorem afterFrame_closing? (session : Session) (rest : List UInt8) :
    (s.afterFrame session rest).closing? = s.closing? :=
  enlist_closing? _

theorem afterFrame_ending? (session : Session) (rest : List UInt8) :
    (s.afterFrame session rest).ending? = s.ending? :=
  enlist_ending? _

/-- Only tasks are enlisted, and only those of a pipeline. -/
theorem enlist_jobs :
    ∃ tasks : List (Task Json), s.enlist.jobs = s.jobs ++ tasks.map Job.task ∧
      (s.session.pipeline? = none → tasks = []) := by
  unfold enlist
  split
  · exact ⟨[], by simp, fun _ => rfl⟩
  · rename_i pipeline same
    refine ⟨(pipeline.agenda.takeWhile fun entry => entry.due ≤ pipeline.now).map Planned.action,
      by rw [List.map_map]; rfl, ?_⟩
    intro none
    rw [same] at none
    exact nomatch none

theorem wakeWriter_mailbox : s.wakeWriter.mailbox = s.mailbox := by
  unfold wakeWriter
  split <;> rfl

theorem wakeWriter_session : s.wakeWriter.session = s.session := by
  unfold wakeWriter
  split <;> rfl

theorem wakeWriter_outbox : s.wakeWriter.outbox = s.outbox := by
  unfold wakeWriter
  split <;> rfl

theorem wakeWriter_isClosed : s.wakeWriter.isClosed = s.isClosed := by
  unfold wakeWriter
  split <;> rfl

theorem wakeWriter_ending? : s.wakeWriter.ending? = s.ending? := by
  unfold wakeWriter
  split <;> rfl

theorem wakeWriter_jobs : s.wakeWriter.jobs = s.jobs ∨ s.wakeWriter.jobs = s.jobs ++ [.write] := by
  unfold wakeWriter
  split
  · exact .inr rfl
  · exact .inl rfl

theorem wakeReader_unread : s.wakeReader.unread = s.unread := by
  unfold wakeReader
  split <;> rfl

theorem wakeReader_isClosed : s.wakeReader.isClosed = s.isClosed := by
  unfold wakeReader
  split <;> rfl

theorem wakeReader_session : s.wakeReader.session = s.session := by
  unfold wakeReader
  split <;> rfl

theorem wakeReader_closing? : s.wakeReader.closing? = s.closing? := by
  unfold wakeReader
  split <;> rfl

theorem wakeReader_ending? : s.wakeReader.ending? = s.ending? := by
  unfold wakeReader
  split <;> rfl

end Parts

section Write

variable (s : Server ω)

def takesLast : Bool := (Mailbox.takeFirst s.writer.lettersInTurn s.mailbox.letters).2.2

theorem write_unread : s.write.unread = s.unread := by
  unfold write
  dsimp only
  split <;> rfl

theorem write_isClosed : s.write.isClosed = s.isClosed := by
  unfold write
  dsimp only
  split <;> rfl

theorem write_session : s.write.session = s.session := by
  unfold write
  dsimp only
  split <;> rfl

theorem write_closing? : s.write.closing? = s.closing? := by
  unfold write
  dsimp only
  split <;> rfl

theorem write_ending? : s.write.ending? = if s.takesLast then s.closing? else s.ending? := by
  unfold write takesLast
  dsimp only
  split <;> rfl

theorem write_outbox : s.write.outbox =
    s.outbox ++ (Mailbox.takeFirst s.writer.lettersInTurn s.mailbox.letters).1 := by
  unfold write
  dsimp only
  split <;> rfl

theorem write_letters : s.write.mailbox.letters =
    (Mailbox.takeFirst s.writer.lettersInTurn s.mailbox.letters).2.1 := by
  unfold write
  dsimp only
  split <;> rfl

end Write

theorem send?_eq_some {s sent : Server ω} {letter : Letter} (h : s.send? letter = some sent) :
    0 < s.mailbox.room ∧
      sent = { s with mailbox := { s.mailbox with
        letters := s.mailbox.letters ++ [letter], room := s.mailbox.room - 1 } }.wakeWriter := by
  obtain ⟨mailbox, offered, rfl⟩ := Option.map_eq_some_iff.mp h
  unfold Mailbox.offer? at offered
  split at offered
  · exact nomatch offered
  · rename_i some
    obtain rfl := Option.some.inj offered
    exact ⟨Nat.pos_of_ne_zero some, rfl⟩

theorem send?_eq_none {s : Server ω} {letter : Letter} (h : s.send? letter = none) :
    s.mailbox.room = 0 := by
  unfold send? Mailbox.offer? at h
  split at h
  · assumption
  · exact nomatch h

/-- What no work touches: what has come in and gone out, and how the session ends. -/
theorem Work.untouched {hand next : Hand} {s after : Server ω}
    (work : Work outside hand s next after) :
    after.unread = s.unread ∧ after.isClosed = s.isClosed ∧ after.outbox = s.outbox ∧
      after.closing? = s.closing? ∧ after.ending? = s.ending? := by
  have woken (s : Server ω) : s.wakeWriter.unread = s.unread ∧ s.wakeWriter.isClosed = s.isClosed ∧
      s.wakeWriter.outbox = s.outbox ∧ s.wakeWriter.closing? = s.closing? ∧
        s.wakeWriter.ending? = s.ending? :=
    ⟨wakeWriter_unread s, wakeWriter_isClosed s, wakeWriter_outbox s, wakeWriter_closing? s,
      wakeWriter_ending? s⟩
  cases work with
  | place wanted => exact woken _
  | wake same =>
      exact ⟨enlist_unread _, enlist_isClosed _, enlist_outbox _, enlist_closing? _,
        enlist_ending? _⟩
  | post room =>
      obtain ⟨-, rfl⟩ := send?_eq_some room
      exact woken _
  | _ => exact ⟨rfl, rfl, rfl, rfl, rfl⟩

/-! ## Proper messages -/

structure Lawful (hand : Hand) (s : Server ω) : Prop where
  written : ∀ message ∈ s.outbox, Proper message
  letters : ∀ message, .message message ∈ s.mailbox.letters → Proper message
  line : ∀ entry ∈ s.mailbox.waiting, Fits entry.1 entry.2
  places : ∀ letter sequel, .place letter sequel ∈ s.jobs → Fits letter sequel
  held : ∀ letter sequel, hand.entry? = some (letter, sequel) → Fits letter sequel
  idle : s.session.pipeline? = none →
    ¬ hand.Works ∧ (∀ job ∈ s.jobs, ¬ Works job) ∧ ∀ entry ∈ s.mailbox.waiting, ¬ Runs entry.2

namespace Lawful

variable {hand next : Hand} {s : Server ω}

/-- A turn goes on while there is a pipeline. -/
theorem onward (h : Lawful hand s) (session : Session) (world : ω)
    (ready : session.pipeline?.isSome)
    (fits : ∀ letter sequel, next.entry? = some (letter, sequel) → Fits letter sequel) :
    Lawful next { s with session := session, world := world } where
  written := h.written
  letters := h.letters
  line := h.line
  places := h.places
  held := fits
  idle none := by
    rw [show session.pipeline? = .none from none] at ready
    exact nomatch ready

theorem enlist (h : Lawful hand s) : Lawful hand s.enlist := by
  obtain ⟨tasks, jobs, without⟩ := enlist_jobs s
  refine ⟨?_, ?_, ?_, ?_, h.held, ?_⟩
  · rw [enlist_outbox]
    exact h.written
  · rw [enlist_mailbox]
    exact h.letters
  · rw [enlist_mailbox]
    exact h.line
  · intro letter sequel member
    rw [jobs] at member
    rcases List.mem_append.mp member with old | new
    · exact h.places letter sequel old
    · obtain ⟨task, -, other⟩ := List.mem_map.mp new
      exact nomatch other
  · intro none
    have before : s.session.pipeline? = .none := by
      have same := enlist_isSome s
      rw [none] at same
      exact Option.not_isSome_iff_eq_none.mp (by simp [← same])
    rw [jobs, without before, List.map_nil, List.append_nil, enlist_mailbox]
    exact h.idle before

/-- The reader or the writer asks for a turn. -/
theorem asked (h : Lawful hand s) {job : Job} (plain : job = .read ∨ job = .write) :
    Lawful hand (s.ask job) := by
  have alone {other : Job} (member : other ∈ [job]) : other = .read ∨ other = .write :=
    List.mem_singleton.mp member ▸ plain
  refine ⟨h.written, h.letters, h.line, ?_, h.held, ?_⟩
  · intro letter sequel member
    rcases List.mem_append.mp member with old | new
    · exact h.places letter sequel old
    · rcases alone new with other | other <;> exact nomatch other
  · intro none
    obtain ⟨free, jobs, waiting⟩ := h.idle none
    refine ⟨free, ?_, waiting⟩
    intro other member
    rcases List.mem_append.mp member with old | new
    · exact jobs other old
    · rcases alone new with rfl | rfl <;> exact id

theorem wakeWriter (h : Lawful hand s) : Lawful hand s.wakeWriter := by
  unfold Server.wakeWriter
  split
  · have same : Lawful hand { s with writer := { s.writer with isIdle := false } } :=
      ⟨h.written, h.letters, h.line, h.places, h.held, h.idle⟩
    exact same.asked (.inr rfl)
  · exact h

theorem wakeReader (h : Lawful hand s) : Lawful hand s.wakeReader := by
  unfold Server.wakeReader
  split
  · exact h
  · exact h.asked (.inl rfl)

/-- The letter in hand comes into the mailbox. -/
theorem posted (h : Lawful hand s) {letter : Letter} {sequel : Sequel} (room : Nat)
    (own : hand.entry? = some (letter, sequel)) (works : ¬ hand.Works → ¬ Runs sequel) :
    Lawful (.go sequel) { s with mailbox := { s.mailbox with
      letters := s.mailbox.letters ++ [letter], room := room } }.wakeWriter := by
  refine Lawful.wakeWriter ⟨h.written, ?_, h.line, h.places, ?_, ?_⟩
  · intro message member
    rcases List.mem_append.mp member with old | new
    · exact h.letters message old
    · have same := List.mem_singleton.mp new
      exact (same ▸ h.held letter sequel own).proper
  · intro letter sequel none
    exact nomatch none
  · intro none
    obtain ⟨free, rest⟩ := h.idle none
    exact ⟨works free, rest⟩

theorem awaiting (h : Lawful hand s) {letter : Letter} {sequel : Sequel}
    (own : hand.entry? = some (letter, sequel)) (works : ¬ hand.Works → ¬ Runs sequel) :
    Lawful .free (s.awaitPlace letter sequel) := by
  refine ⟨h.written, h.letters, ?_, h.places, (fun _ _ none => nomatch none), ?_⟩
  · intro entry member
    rcases List.mem_append.mp member with old | new
    · exact h.line entry old
    · rw [List.mem_singleton.mp new]
      exact h.held letter sequel own
  · intro none
    obtain ⟨free, jobs, waiting⟩ := h.idle none
    refine ⟨id, jobs, ?_⟩
    intro entry member
    rcases List.mem_append.mp member with old | new
    · exact waiting entry old
    · rw [List.mem_singleton.mp new]
      exact works free

/-- Places become free. -/
theorem freePlaces (h : Lawful hand s) (count : Nat) : Lawful .free (s.freePlaces count) := by
  have inside (entry : Letter × Sequel)
      (member : entry ∈ s.mailbox.line fun sequel => !s.isStale sequel) :
      entry ∈ s.mailbox.waiting := (List.mem_filter.mp member).1
  have job (other : Job) (member : other ∈ (s.freePlaces count).jobs) :
      other ∈ s.jobs ∨ ∃ entry ∈ s.mailbox.waiting, Job.place entry.1 entry.2 = other := by
    rcases List.mem_append.mp member with old | new
    · exact .inl old
    · obtain ⟨entry, served, same⟩ := List.mem_map.mp new
      exact .inr ⟨entry, inside entry (List.mem_of_mem_take served), same⟩
  refine ⟨h.written, h.letters, ?_, ?_, (fun _ _ none => nomatch none), ?_⟩
  · intro entry member
    exact h.line entry (inside entry (List.mem_of_mem_drop member))
  · intro letter sequel member
    rcases job _ member with old | ⟨entry, waits, same⟩
    · exact h.places letter sequel old
    · obtain ⟨rfl, rfl⟩ := Job.place.inj same
      exact h.line entry waits
  · intro none
    obtain ⟨-, jobs, waiting⟩ := h.idle none
    refine ⟨id, ?_, fun entry member => waiting entry (inside entry (List.mem_of_mem_drop member))⟩
    intro other member
    rcases job other member with old | ⟨entry, waits, rfl⟩
    · exact jobs other old
    · exact waiting entry waits

/-- The first letters are written. -/
theorem taken (h : Lawful hand s) (count : Nat) (writer : Writer) : Lawful .free { s with
    outbox := s.outbox ++ (Mailbox.takeFirst count s.mailbox.letters).1
    mailbox := { s.mailbox with letters := (Mailbox.takeFirst count s.mailbox.letters).2.1 }
    writer := writer } := by
  have parted := Mailbox.takeFirst_mem count s.mailbox.letters
  refine ⟨?_, ?_, h.line, h.places, (fun _ _ none => nomatch none), ?_⟩
  · intro message member
    rcases List.mem_append.mp member with old | new
    · exact h.written message old
    · exact h.letters message (parted.1 message new)
  · exact fun message member => h.letters message (parted.2 message member)
  · exact fun none => ⟨id, (h.idle none).2⟩

theorem write (h : Lawful hand s) : Lawful .free s.write := by
  have written := h.taken s.writer.lettersInTurn (s.writer.after
    (Mailbox.takeFirst s.writer.lettersInTurn s.mailbox.letters).1.length)
  unfold Server.write
  dsimp only
  split
  · exact ⟨written.written, written.letters, written.line, written.places, written.held,
      written.idle⟩
  · exact written.freePlaces _

theorem work (h : Lawful hand s) {after : Server ω} (w : Work outside hand s next after) :
    Lawful next after := by
  have onward {p : Pipeline Json} (same : s.session.pipeline? = some p) {next : Hand}
      (fits : ∀ letter sequel, next.entry? = some (letter, sequel) → Fits letter sequel) :
      Lawful next s := h.onward s.session s.world (by simp [same]) fits
  have noEntry {next : Hand} (none : next.entry? = none) (letter : Letter) (sequel : Sequel)
      (own : next.entry? = some (letter, sequel)) : Fits letter sequel := nomatch none.symm.trans own
  cases w with
  | lost works none => exact absurd works (h.idle none).1
  | place wanted => exact h.posted _ rfl id
  | unwanted stale => exact h.freePlaces 1
  | wake same => exact (h.onward _ s.world rfl (noEntry rfl)).enlist
  | ask same => exact h.onward _ s.world rfl (noEntry rfl)
  | start same current => exact onward same (noEntry rfl)
  | finish same current => exact onward same (noEntry rfl)
  | giveUp same superseded own => exact onward same (noEntry rfl)
  | unfounded same nothing => exact onward same (noEntry rfl)
  | clear same found =>
      refine onward same fun letter sequel own => ?_
      obtain ⟨rfl, rfl⟩ := Prod.mk.inj (Option.some.inj own)
      exact .notice (publishDiagnostics_isNotice _ _)
  | launch same long => exact h.onward _ _ rfl (noEntry rfl)
  | build same short => exact h.onward _ _ rfl (noEntry rfl)
  | succeed same sound => exact onward same (noEntry rfl)
  | complain same failed =>
      refine onward same fun letter sequel own => ?_
      obtain ⟨rfl, rfl⟩ := Prod.mk.inj (Option.some.inj own)
      exact .notice (logError_isNotice _)
  | keepBack same superseded => exact h.onward _ s.world rfl (noEntry rfl)
  | deliver same current =>
      refine h.onward _ s.world rfl fun letter sequel own => ?_
      obtain ⟨rfl, rfl⟩ := Prod.mk.inj (Option.some.inj own)
      exact .report (report_proper _ _)
  | rest => exact ⟨h.written, h.letters, h.line, h.places, noEntry rfl, fun none => ⟨id, (h.idle none).2⟩⟩
  | post room =>
      obtain ⟨-, rfl⟩ := send?_eq_some room
      exact h.posted _ rfl id
  | await full => exact h.awaiting rfl id
  | read => exact ⟨h.written, h.letters, h.line, h.places, noEntry rfl, h.idle⟩

/-- The reader takes a frame. -/
theorem afterFrame (h : Lawful hand s) (body rest : List UInt8)
    (fits : ∀ letter sequel, next.entry? = some (letter, sequel) → Fits letter sequel)
    (idle : ¬ next.Works) : Lawful next (s.afterFrame (s.session.take body).session rest) := by
  refine Lawful.enlist ⟨h.written, h.letters, h.line, h.places, fits, fun none => ⟨idle, ?_⟩⟩
  refine (h.idle (Option.not_isSome_iff_eq_none.mp fun ready => ?_)).2
  have still := Session.take_isSome ready body
  rw [show (s.session.take body).session.pipeline? = .none from none] at still
  exact nomatch still

/-- The reading ends. -/
theorem closing (h : Lawful hand s) (ending : Ending) :
    Lawful (.send .close .nothing) (s.closingWith ending) := by
  refine ⟨h.written, h.letters, h.line, h.places, ?_, fun none => ⟨id, (h.idle ?_).2⟩⟩
  · intro letter sequel own
    obtain ⟨rfl, rfl⟩ := Prod.mk.inj (Option.some.inj own)
    exact .close
  · exact Option.map_eq_none_iff.mp none

theorem step (h : Lawful hand s) {after : Server ω} (first : Step outside hand s next after) :
    Lawful next after := by
  have noEntry {next : Hand} (none : next.entry? = none) (letter : Letter) (sequel : Sequel)
      (own : next.entry? = some (letter, sequel)) : Fits letter sequel := nomatch none.symm.trans own
  have free : Lawful .free s :=
    ⟨h.written, h.letters, h.line, h.places, noEntry rfl, fun none => ⟨id, (h.idle none).2⟩⟩
  cases first with
  | work w => exact h.work w
  | write => exact h.write
  | stay past => exact free
  | pause reading part => exact free
  | stop reading ends => exact h.closing _
  | @exit _ body rest reading frame ends =>
      have taken : Lawful .free (s.afterFrame (s.session.take body).session rest) :=
        h.afterFrame body rest (noEntry rfl) id
      exact taken.closing _
  | pass reading frame goes silent => exact h.afterFrame _ _ (noEntry rfl) id
  | answer reading frame goes replies =>
      refine h.afterFrame _ _ (fun letter sequel own => ?_) id
      obtain ⟨rfl, rfl⟩ := Prod.mk.inj (Option.some.inj own)
      obtain ⟨id, -, form, -⟩ := Session.take_answer replies
      exact .answer form

end Lawful

/-- All messages of a server are proper at all times. -/
theorem lawful_kept : Kept outside .any fun _ hand (s : Server ω) => Lawful hand s where
  step _ h first := h.step first
  turn {input s place job} _ h goes found := by
    have asked : job ∈ s.jobs := List.mem_of_getElem? found
    refine ⟨h.written, h.letters, h.line, ?_, ?_, fun none => ?_⟩
    · exact fun letter sequel member => h.places letter sequel (List.mem_of_mem_eraseIdx member)
    · intro letter sequel own
      cases job with
      | place other next =>
          obtain ⟨rfl, rfl⟩ := Prod.mk.inj (Option.some.inj own)
          exact h.places other next asked
      | _ => exact nomatch own
    · obtain ⟨-, jobs, waiting⟩ := h.idle none
      exact ⟨jobs job asked, fun other member => jobs other (List.mem_of_mem_eraseIdx member),
        waiting⟩
  hear _ h goes isOpen bytes :=
    Lawful.wakeReader ⟨h.written, h.letters, h.line, h.places, h.held, h.idle⟩
  hangUp _ h goes := Lawful.wakeReader ⟨h.written, h.letters, h.line, h.places, h.held, h.idle⟩
  rest {input s} _ h goes resting := by
    have same : Lawful .free { s with writer := { s.writer with isResting := false } } :=
      ⟨h.written, h.letters, h.line, h.places, h.held, h.idle⟩
    exact same.asked (.inr rfl)
  clock _ h goes time := Lawful.enlist ⟨h.written, h.letters, h.line, h.places, h.held, fun none =>
    h.idle (Option.map_eq_none_iff.mp none)⟩
  late _ h past time := ⟨h.written, h.letters, h.line, h.places, h.held, fun none =>
    h.idle (Option.map_eq_none_iff.mp none)⟩
  count _ h turns := ⟨h.written, h.letters, h.line, h.places, h.held, h.idle⟩
  alter _ h world := ⟨h.written, h.letters, h.line, h.places, h.held, h.idle⟩

end Server

end AsmDiagnostics
