import AsmDiagnostics.Agenda
import AsmDiagnostics.Build.Result
import AsmDiagnostics.Debouncer
import AsmDiagnostics.Pipeline.InFlight

/-!
# Keeping diagnostics current

Two things start a run for a document. A change, held back until the document rests, *pushes* its
result to the editor; a question *pulls* the result as its answer. A run clears what the editor
shows for the document, builds, and delivers the diagnostics of the output. A push delivers only
while its run is current, and a newer run takes the remaining work of an older push off the agenda;
a pull always answers.

The operations here say what the editor's events do to the pipeline, and what the parts of a run do
to it.  They do not depend on the order in which tasks happen to be performed.
-/

namespace AsmDiagnostics

/-- What started a run; a question has a ticket to answer on. -/
inductive Trigger (τ : Type) where
  | push
  | pull (ticket : τ)
  deriving DecidableEq, Repr

def Trigger.isPush {τ : Type} : Trigger τ → Bool
  | .push => true
  | .pull _ => false

structure Run (τ : Type) where
  uri : Uri
  generation : Nat
  trigger : Trigger τ
  deriving DecidableEq, Repr

/-- What a run does that can be seen outside. -/
inductive Deed where
  /-- Nothing is to be shown for the document until the result is there. -/
  | clear
  /-- A build starts. -/
  | build (command : Build.Command)
  /-- The editor is told about a fault of the tools. -/
  | complain (message : String)
  /-- The result is there: it is to be shown for the document, or it answers a question. -/
  | deliver (diagnostics : List Diagnostic)
  deriving DecidableEq, Repr

/-- A deed of a run, and when it happened. -/
structure Event (τ : Type) where
  time : Nat
  run : Run τ
  deed : Deed
  deriving DecidableEq, Repr

/-- Work that waits on the agenda. -/
inductive Task (τ : Type) where
  /-- A timer of the debouncer wakes up. -/
  | wake (uri : Uri) (generation : Nat)
  /-- A question gets its run. -/
  | ask (uri : Uri) (ticket : τ)
  /-- A run starts. -/
  | start (run : Run τ)
  /-- The build of a run is over. -/
  | finish (run : Run τ) (document : DocumentRef) (result : Build.Result)
  deriving DecidableEq, Repr

/-- The outside world as far as a pipeline meets it: which paths exist, and what a build comes to,
how many milliseconds it takes, and the world after it. -/
structure Outside (ω : Type) where
  pathExists : ω → Path → Bool
  build : ω → Build.Command → Build.Result × Nat × ω

/-- A pipeline: timers, runs in flight, and the work that waits. Without a workspace there is
nothing to build. -/
structure Pipeline (τ : Type) where
  workspace? : Option Workspace
  /-- Milliseconds without a change before a push starts. -/
  window : Nat
  /-- Milliseconds since the pipeline was made. -/
  now : Nat
  debouncer : Debouncer Uri Int
  inFlight : InFlight
  agenda : Agenda (Task τ)

/-- A build that has started: its event, what it leaves behind, and its result if it took no
time. -/
structure Launch (τ ω : Type) where
  event : Event τ
  world : ω
  pipeline : Pipeline τ
  result? : Option Build.Result

namespace Task

variable {τ : Type}

def run? : Task τ → Option (Run τ)
  | .start run => some run
  | .finish run _ _ => some run
  | _ => none

def isPushOf (uri : Uri) (generation : Nat) : Task τ → Bool
  | .start ⟨other, number, .push⟩ => decide (other = uri ∧ number = generation)
  | .finish ⟨other, number, .push⟩ _ _ => decide (other = uri ∧ number = generation)
  | _ => false

/-- An upper bound of the tasks that follow from a task, itself included. -/
def weight : Task τ → Nat
  | .wake .. => 3
  | .ask .. => 2
  | .start .. => 2
  | .finish .. => 1

end Task

namespace Pipeline

variable {τ ω : Type}

def start (workspace? : Option Workspace) (window : Nat) : Pipeline τ where
  workspace? := workspace?
  window := window
  now := 0
  debouncer := Debouncer.empty
  inFlight := InFlight.empty
  agenda := []

def plan (p : Pipeline τ) (delay : Nat) (task : Task τ) : Pipeline τ :=
  { p with agenda := p.agenda.add (Agenda.after p.now delay) task }

/-- Takes the work of the current run of a document off the agenda if that run is a push. -/
def abortPush (p : Pipeline τ) (uri : Uri) : Pipeline τ :=
  match p.inFlight.current? uri with
  | some generation =>
      { p with agenda := p.agenda.filter fun entry => !entry.action.isPushOf uri generation }
  | none => p

def begin (p : Pipeline τ) (uri : Uri) (trigger : Trigger τ) : Run τ × Pipeline τ :=
  let rest := p.abortPush uri
  (⟨uri, p.inFlight.nextGeneration, trigger⟩, { rest with inFlight := p.inFlight.begin uri })

/-- A document was opened or edited: a push is held back until the document rests. -/
def change (p : Pipeline τ) (uri : Uri) (version : Int) : Pipeline τ :=
  let held := { p with debouncer := p.debouncer.schedule uri version }
  held.plan p.window (.wake uri p.debouncer.nextGeneration)

/-- A document was closed: its timer and the work of its push are forgotten. -/
def close (p : Pipeline τ) (uri : Uri) : Pipeline τ :=
  let rest := p.abortPush uri
  { rest with debouncer := p.debouncer.cancel uri, inFlight := p.inFlight.drop uri }

/-- The session ends: no timer fires, and no push that has begun goes on. -/
def shutdown (p : Pipeline τ) : Pipeline τ :=
  { p.inFlight.flights.foldl (fun rest flight => rest.abortPush flight.uri) p with
    debouncer := p.debouncer.cancelAll
    inFlight := p.inFlight.dropAll }

/-- A push begins, and its run starts at the next opportunity. -/
def push (p : Pipeline τ) (uri : Uri) : Pipeline τ :=
  let (run, rest) := p.begin uri .push
  rest.plan 0 (.start run)

/-- A question is asked; its run begins at the next opportunity. -/
def pull (p : Pipeline τ) (uri : Uri) (ticket : τ) : Pipeline τ := p.plan 0 (.ask uri ticket)

def document? (p : Pipeline τ) (uri : Uri) : Option (Workspace × DocumentRef) :=
  p.workspace?.bind fun workspace =>
    (workspace.document? uri).map fun document => (workspace, document)

def eventOf (p : Pipeline τ) (run : Run τ) (deed : Deed) : Event τ := ⟨p.now, run, deed⟩

/-- A newer run, a close or a shutdown has come in the way of a push. -/
def isSuperseded (p : Pipeline τ) (run : Run τ) : Bool :=
  run.trigger.isPush && !p.inFlight.isCurrent run.uri run.generation

/-- A run ends with its diagnostics. A push that has been superseded keeps them to itself. -/
def deliver (p : Pipeline τ) (run : Run τ) (diagnostics : List Diagnostic) :
    List (Event τ) × Pipeline τ :=
  let rest := { p with inFlight := p.inFlight.finish run.uri run.generation }
  if p.isSuperseded run then ([], rest) else ([p.eventOf run (.deliver diagnostics)], rest)

def complaint (document : DocumentRef) (fault : Build.StepFault) : String :=
  "Error running build for " ++ document.relative.display ++ ": " ++ fault.message

def complain (p : Pipeline τ) (run : Run τ) (document : DocumentRef) (result : Build.Result) :
    List (Event τ) :=
  result.fault?.toList.map fun fault => p.eventOf run (.complain (complaint document fault))

/-- The build of a run starts. Its command is chosen by what exists at that moment. -/
def launch (outside : Outside ω) (world : ω) (p : Pipeline τ) (run : Run τ)
    (workspace : Workspace) (document : DocumentRef) : Launch τ ω :=
  let command := Build.Command.select workspace (outside.pathExists world) document
  let (result, delay, after) := outside.build world command
  let event := p.eventOf run (.build command)
  if delay = 0 then ⟨event, after, p, some result⟩
  else ⟨event, after, p.plan delay (.finish run document result), none⟩

/-- A timer of the debouncer wakes up: a document that rests is pushed. -/
def wake (p : Pipeline τ) (uri : Uri) (generation : Nat) : Pipeline τ :=
  let woken := { p with debouncer := p.debouncer.wake uri generation }
  if (p.debouncer.due? uri generation).isSome then woken.push uri else woken

def inFlightCount (p : Pipeline τ) : Nat := p.inFlight.count

end Pipeline

end AsmDiagnostics
