import AsmDiagnostics.Machine.Files
import AsmDiagnostics.Text.Octet

/-!
# Machines at work

A machine has a clock, files, and streams of bytes. The clock counts microseconds and goes no
further than just behind the deadline: what is not done by then is never done. What a job in the
background does to the files is done as the clock reaches the time of it.
-/

namespace AsmDiagnostics

/-- Bytes that were written to a stream, as characters, when, and by which job. -/
structure Machine.Chunk where
  time : Nat
  stream : Nat
  job : Nat
  text : List Char
  deriving DecidableEq, Repr

/-- What is left to be read on a stream: texts with the times at which they are there, and the time
at which the stream is known to be over. It is a file when one may read less than one has taken. -/
structure Machine.Input where
  texts : List (Nat × List Char)
  finish : Nat
  isFile : Bool
  deriving DecidableEq, Repr

structure Machine.Change where
  time : Nat
  job : Nat
  place : Machine.Place
  /-- What stands there from then on. -/
  standing? : Option Machine.Entry

structure Machine.Sent where
  time : Nat
  process : Nat
  signal : Nat
  deriving DecidableEq, Repr

/-- A process in the background: who started it, how and when it ends, and the streams that it may
write on until then. -/
structure Machine.Job where
  process : Nat
  parent : Nat
  status : Nat
  /-- The signal that it dies of. -/
  signal? : Option Nat
  finish : Nat
  streams : List Nat
  deriving DecidableEq, Repr

structure Machine where
  clock : Nat
  deadline : Nat
  files : Machine.Files
  /-- What was written, the latest first. -/
  written : List Machine.Chunk
  inputs : List (Nat × Machine.Input)
  nextStream : Nat
  nextProcess : Nat
  /-- The changes to come, by their times. -/
  changes : List Machine.Change
  /-- The changes that the job at hand makes. -/
  recorded : List Machine.Change
  /-- The signals that nobody has noticed yet. -/
  sent : List Machine.Sent
  /-- The latest first. -/
  jobs : List Machine.Job

namespace Machine

def ofFiles (files : Files) (deadline firstStream firstProcess : Nat) : Machine where
  clock := 0
  deadline := deadline
  files := files
  written := []
  inputs := []
  nextStream := firstStream
  nextProcess := firstProcess
  changes := []
  recorded := []
  sent := []
  jobs := []

def isOver (m : Machine) : Bool := decide (m.deadline < m.clock)

def Change.apply (change : Change) (files : Files) : Files :=
  match change.standing? with
  | some entry => files.put change.place entry
  | none => files.remove change.place

def catchUp (m : Machine) : Machine :=
  if m.changes.isEmpty then m
  else
    let due := m.changes.filter fun change => decide (change.time ≤ m.clock)
    { m with
      files := due.foldl (fun files change => change.apply files) m.files
      changes := m.changes.filter fun change => decide (m.clock < change.time) }

def waitUntil (m : Machine) (time : Nat) : Machine :=
  { m with clock := max m.clock (min time (m.deadline + 1)) }.catchUp

def spend (m : Machine) (micros : Nat) : Machine := m.waitUntil (m.clock + micros)

def exhausted (m : Machine) : Machine := m.waitUntil (m.deadline + 1)

def withInput (m : Machine) (input : Input) : Nat × Machine :=
  (m.nextStream,
    { m with inputs := (m.nextStream, input) :: m.inputs, nextStream := m.nextStream + 1 })

def inputOf (m : Machine) (stream : Nat) : Input :=
  ((m.inputs.find? fun entry => entry.1 = stream).map Prod.snd).getD ⟨[], 0, false⟩

def leaveInput (m : Machine) (stream : Nat) (rest : Input) : Machine :=
  { m with inputs := (stream, rest) :: m.inputs.filter fun entry => entry.1 ≠ stream }

/-- A line at the front of an input, whether it has its newline, the time at which it is there, and
the rest. -/
def Input.line (input : Input) : List Char × Bool × Nat × Input :=
  let (line, isWhole, time, rest) := go input.finish input.texts
  (line, isWhole, time, { input with texts := rest })
where
  /-- The line at the front of texts. -/
  go (finish : Nat) : List (Nat × List Char) → List Char × Bool × Nat × List (Nat × List Char)
    | [] => ([], false, finish, [])
    | (time, text) :: rest =>
        let front := text.takeWhile (· != '\n')
        let behind := text.drop front.length
        if behind.isEmpty then
          let (more, isWhole, last, after) := go finish rest
          (front ++ more, isWhole, last, after)
        else
          (front, true, time,
            if behind.length = 1 then rest else (time, behind.drop 1) :: rest)

def differences (old new : Files) : List (Place × Option Entry) :=
  let gone := old.entries.filterMap fun (place, _) =>
    if (new.get? place).isSome then none else some (place, none)
  let changed := new.entries.filterMap fun (place, entry) =>
    if old.get? place = some entry then none else some (place, some entry)
  gone ++ changed

/-- The files with a change that a job makes now; with no job, its number is zero. -/
def withFiles (m : Machine) (job : Nat) (files : Files) : Machine :=
  if job = 0 then { m with files := files }
  else
    let changes := (differences m.files files).map fun (place, standing?) =>
      ({ time := m.clock, job := job, place := place, standing? := standing? } : Change)
    { m with files := files, recorded := m.recorded ++ changes }

/-- The machine from which a job has gone on to another state: what the job does is still to come,
and belongs to the job at hand too. -/
def afterJob (m done : Machine) (job : Job) : Machine :=
  { done with
    clock := m.clock
    files := m.files
    changes := (m.changes ++ done.recorded).mergeSort fun a b => decide (a.time ≤ b.time)
    recorded := m.recorded ++ done.recorded
    jobs := job :: done.jobs }.catchUp

def runningJob? (m : Machine) (process : Nat) : Option Job :=
  m.jobs.find? fun job => job.process = process && decide (m.clock < job.finish)

def freeTime (m : Machine) (stream : Nat) : Nat :=
  (m.jobs.filter fun job => job.streams.contains stream).foldl (fun t job => max t job.finish) 0

def endJob (m : Machine) (process signal : Nat) : Machine :=
  { m with
    written := m.written.filter fun chunk =>
      chunk.job ≠ process || decide (chunk.time ≤ m.clock)
    changes := m.changes.filter fun change => change.job ≠ process
    sent := m.sent.filter fun sent => decide (sent.time ≤ m.clock) || sent.process ≠ process
    jobs := m.jobs.map fun job =>
      if job.process = process then
        { job with status := 128 + signal, signal? := some signal, finish := m.clock }
      else job }

def backTo (m : Machine) (time : Nat) : Machine := { m with clock := min m.clock time }

def takeSignal? (m : Machine) (process : Nat) : Option (Sent × Machine) :=
  let own := m.sent.filter fun sent => sent.process = process && decide (sent.time ≤ m.clock)
  match own.mergeSort fun a b => decide (a.time ≤ b.time) with
  | [] => none
  | first :: _ => some (first, { m with sent := m.sent.filter (· != first) })

end Machine

end AsmDiagnostics
