import AsmDiagnostics.Frame
import AsmDiagnostics.Mailbox
import AsmDiagnostics.Pipeline.Legs
import AsmDiagnostics.Session

/-!
# Servers

A server carries on a session over a stream of frames. Its parts take turns: the reader takes one
whole frame after another, the runs of the pipeline go from one thing that they tell to the next, and
the writer takes letters out of the mailbox. A part that has a turn keeps it until it has nothing
more to do or waits for a place in the mailbox, and the others have their turns in the order in
which they asked for them.

The writer takes a limited number of letters in one turn, and then lets all others go first who
have asked already.

The end of the input, a fault in the frames and the notification `exit` end the reading, and the
last letter is sent; the server has ended when the writer takes it.
-/

namespace AsmDiagnostics

/-- How a server ended: by a fault in the frames, or properly, and then whether it had been asked to
shut down. -/
abbrev Ending := Except Frame.Fault Bool

/-- What the sender of a letter does when the letter has found a place. -/
inductive Sequel where
  /-- The reader goes on. -/
  | read
  /-- A run goes on after its pause. -/
  | resume (pause : Pause Json)
  | nothing

inductive Job where
  | read
  | write
  | task (task : Task Json)
  /-- A letter is put into the place that was promised to it, and its sender goes on. -/
  | place (letter : Letter) (sequel : Sequel)

structure Writer where
  /-- It found no letter, and waits until one comes. -/
  isIdle : Bool
  /-- It has taken as many letters as it may, and lets the others go first. -/
  isResting : Bool
  /-- The part of its last letter that is not written yet, in steps of writing. -/
  owed : Nat

namespace Writer

def stepsInTurn : Nat := 128

def stepsForLetter : Nat := 3

def idle : Writer := ⟨true, false, 0⟩

def lettersInTurn (w : Writer) : Nat :=
  max 1 ((stepsInTurn - w.owed + (stepsForLetter - 1)) / stepsForLetter)

def after (w : Writer) (letters : Nat) : Writer :=
  if letters = w.lettersInTurn then
    ⟨false, true, w.owed + stepsForLetter * letters - stepsInTurn⟩
  else idle

end Writer

/-- A server in a world where builds happen. -/
structure Server (ω : Type) where
  session : Session
  world : ω
  /-- Bytes that were received and not yet read. -/
  unread : List UInt8
  /-- No more bytes will come. -/
  isClosed : Bool
  mailbox : Mailbox Sequel
  /-- Those who have asked for a turn, in their order. -/
  jobs : List Job
  /-- The turns since the server last looked whether the writer has rested enough. -/
  turns : Nat
  writer : Writer
  /-- Messages that were written and that the editor has not taken yet. -/
  outbox : List Json
  /-- How the server will have ended; there is nothing more to read. -/
  closing? : Option Ending
  ending? : Option Ending

namespace Server

variable {ω : Type}

def start (settings : Settings) (world : ω) : Server ω where
  session := Session.start settings
  world := world
  unread := []
  isClosed := false
  mailbox := Mailbox.empty
  jobs := []
  turns := 0
  writer := Writer.idle
  outbox := []
  closing? := none
  ending? := none

def hasEnded (s : Server ω) : Bool := s.ending?.isSome

def withPipeline (s : Server ω) (pipeline : Pipeline Json) : Server ω :=
  { s with session := { s.session with pipeline? := some pipeline } }

def ask (s : Server ω) (job : Job) : Server ω := { s with jobs := s.jobs ++ [job] }

/-- Lets those tasks of the pipeline ask for a turn that are due. -/
def enlist (s : Server ω) : Server ω :=
  match s.session.pipeline? with
  | none => s
  | some pipeline =>
      let isDue := fun entry : Planned (Task Json) => decide (entry.due ≤ pipeline.now)
      let due := pipeline.agenda.takeWhile isDue
      let rest := s.withPipeline { pipeline with agenda := pipeline.agenda.dropWhile isDue }
      { rest with jobs := rest.jobs ++ due.map fun entry => .task entry.action }

def isStale (s : Server ω) : Sequel → Bool
  | .resume pause => s.session.pipeline?.any fun pipeline => pipeline.isSuperseded pause.run
  | .read => false
  | .nothing => false

/-- Places in the mailbox become free, and those in line whose letters get one ask for a turn. -/
def freePlaces (s : Server ω) (count : Nat) : Server ω :=
  let (served, mailbox) := s.mailbox.free (fun sequel => !s.isStale sequel) count
  { s with
    mailbox := mailbox
    jobs := s.jobs ++ served.map fun entry => .place entry.1 entry.2 }

def wakeWriter (s : Server ω) : Server ω :=
  if s.writer.isIdle then { s with writer := { s.writer with isIdle := false } }.ask .write else s

def send? (s : Server ω) (letter : Letter) : Option (Server ω) :=
  (s.mailbox.offer? letter).map fun mailbox => { s with mailbox := mailbox }.wakeWriter

def putPromised (s : Server ω) (letter : Letter) : Server ω :=
  { s with mailbox := s.mailbox.put letter }.wakeWriter

def awaitPlace (s : Server ω) (letter : Letter) (sequel : Sequel) : Server ω :=
  { s with mailbox := s.mailbox.await letter sequel }

def sendThen (s : Server ω) (letter : Letter) (sequel : Sequel) (goOn : Server ω → Server ω) :
    Server ω :=
  match s.send? letter with
  | some sent => goOn sent
  | none => s.awaitPlace letter sequel

/-- The reading ends: the session is over, and the last letter is sent. -/
def finish (s : Server ω) (ending : Ending) : Server ω :=
  { s with
    session := s.session.withPipeline Pipeline.shutdown
    closing? := some ending }.sendThen .close .nothing id

/-! ## Runs -/

def afterLeg (s : Server ω) (leg : Leg Json ω) : Server ω :=
  { s with world := leg.world }.withPipeline leg.pipeline

/-- A leg is gone, and the editor is told of it.  The run goes on from its pause, at once if there is
room for the letter. -/
def walk (s : Server ω) (leg : Leg Json ω) (goOn : Server ω → Pause Json → Server ω) : Server ω :=
  let onward := fun s => leg.pause?.elim s (goOn s)
  match leg.events.findSome? Session.messageOf? with
  | none => onward (s.afterLeg leg)
  | some message =>
      (s.afterLeg leg).sendThen (.message message) (leg.pause?.elim .nothing .resume) onward

def resumeThen (outside : Outside ω) (goOn : Server ω → Pause Json → Server ω) (s : Server ω)
    (pause : Pause Json) : Server ω :=
  match s.session.pipeline? with
  | none => s
  | some pipeline => s.walk (pipeline.goOn outside s.world pause) goOn

def resume (outside : Outside ω) : Server ω → Pause Json → Server ω :=
  resumeThen outside (resumeThen outside fun s _ => s)

/-- Performs a task of the pipeline, unless its run has been superseded. -/
def performTask (outside : Outside ω) (s : Server ω) (task : Task Json) : Server ω :=
  match s.session.pipeline? with
  | none => s
  | some pipeline =>
      if task.run?.any pipeline.isSuperseded then s
      else
        let after := s.walk (pipeline.legOf s.world task) (resume outside)
        match task with
        | .wake .. => after.enlist
        | _ => after

/-! ## The reader and the writer -/

def afterFrame (s : Server ω) (session : Session) (rest : List UInt8) : Server ω :=
  { s with session := session, unread := rest }.enlist

theorem enlist_unread (s : Server ω) : s.enlist.unread = s.unread := by
  unfold enlist
  split <;> rfl

theorem afterFrame_unread (s : Server ω) (session : Session) (rest : List UInt8) :
    (s.afterFrame session rest).unread = rest :=
  enlist_unread _

theorem wakeWriter_unread (s : Server ω) : s.wakeWriter.unread = s.unread := by
  unfold wakeWriter
  split <;> rfl

theorem send?_unread {s sent : Server ω} {letter : Letter} (h : s.send? letter = some sent) :
    sent.unread = s.unread := by
  obtain ⟨mailbox, _, rfl⟩ := Option.map_eq_some_iff.mp h
  exact wakeWriter_unread _

/-- The reader takes one frame after another, until there is no whole frame left or no place for an
answer. -/
def readFrames (s : Server ω) : Server ω :=
  match _h : Frame.next s.isClosed s.unread with
  | .incomplete => s
  | .finished => s.finish (.ok s.session.shutdownRequested)
  | .broken fault => s.finish (.error fault)
  | .frame body rest =>
      let turn := s.session.take body
      let next := s.afterFrame turn.session rest
      if turn.ends then next.finish (.ok turn.session.shutdownRequested)
      else
        match turn.answer? with
        | none => readFrames next
        | some answer =>
            match _h' : next.send? (.message answer) with
            | some sent => readFrames sent
            | none => next.awaitPlace (.message answer) .read
termination_by s.unread.length
decreasing_by
  · rw [afterFrame_unread]
    exact Frame.next_rest_length _h
  · rw [send?_unread _h', afterFrame_unread]
    exact Frame.next_rest_length _h

def read (s : Server ω) : Server ω := if s.closing?.isSome then s else s.readFrames

def write (s : Server ω) : Server ω :=
  let taken := Mailbox.takeFirst s.writer.lettersInTurn s.mailbox.letters
  let count := taken.1.length
  let after := { s with
    outbox := s.outbox ++ taken.1
    mailbox := { s.mailbox with letters := taken.2.1 }
    writer := s.writer.after count }
  if taken.2.2 then { after with ending? := s.closing? } else after.freePlaces count

/-! ## Turns -/

/-- The sender of a letter that has found a place goes on. -/
def pursue (outside : Outside ω) (s : Server ω) : Sequel → Server ω
  | .read => s.read
  | .resume pause => s.resume outside pause
  | .nothing => s

def perform (outside : Outside ω) (s : Server ω) : Job → Server ω
  | .read => s.read
  | .write => s.write
  | .task task => s.performTask outside task
  | .place letter sequel =>
      if s.isStale sequel then s.freePlaces 1 else (s.putPromised letter).pursue outside sequel

/-- The writer has rested enough, and asks for a turn again. -/
def afterRest (s : Server ω) : Server ω :=
  if s.writer.isResting then
    { s with turns := 0, writer := { s.writer with isResting := false } }.ask .write
  else { s with turns := 0 }

def longestRest : Nat := 61

def counted (s : Server ω) : Server ω := { s with turns := s.turns + 1 }

def turn (outside : Outside ω) (s : Server ω) (job : Job) : Server ω :=
  let after := s.counted.perform outside job
  if longestRest ≤ after.turns then after.afterRest else after

def next? (s : Server ω) : Option (Job × Server ω) :=
  if s.hasEnded then none
  else
    match s.jobs with
    | job :: others => some (job, { s with jobs := others })
    | [] =>
        if s.writer.isResting then
          some (.write, { s with turns := 0, writer := { s.writer with isResting := false } })
        else none

end Server

end AsmDiagnostics
