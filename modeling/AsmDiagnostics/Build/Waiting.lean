import AsmDiagnostics.Build.Result

/-!
# Waiting for the steps of a build

A step is started and waited for until it ends or its time is up; then it is killed, and what it has
printed by then is its output. Each step has the whole limit to itself.

How the process of a step goes on is an argument here, told by the time since its start.
-/

namespace AsmDiagnostics.Build

inductive Ending where
  | exited (succeeded : Bool)
  /-- Waiting for it fails. -/
  | lost
  deriving DecidableEq, Repr

/-- How a process goes on when it is left to itself. -/
structure Course (World : Type) where
  /-- Nanoseconds until it ends; none if it never does. -/
  duration? : Option Nat
  ending : Ending
  /-- What it has printed by a time. -/
  stdout : Nat → List UInt8
  /-- What it has complained about by a time. -/
  stderr : Nat → List UInt8
  /-- The outside world at a time. -/
  world : Nat → World

inductive Launch (World : Type) where
  | missing
  | unspawnable (workingDir : Path)
  | started (course : Course World)

/-- The outside world, and how many nanoseconds the steps of builds were waited for. -/
structure Timed (World : Type) where
  world : World
  elapsed : Nat

variable {World : Type}

namespace Course

def outlasts (limit : Number.Duration) (c : Course World) : Bool :=
  match c.duration? with
  | some duration => decide (limit.nanos < duration)
  | none => true

def waiting (limit : Number.Duration) (c : Course World) : Nat :=
  match c.duration? with
  | some duration => min duration limit.nanos
  | none => limit.nanos

def outcome (limit : Number.Duration) (program : String) (c : Course World) : StepOutcome :=
  let time := c.waiting limit
  let (succeeded, fault?) :=
    if c.outlasts limit then (false, some (StepFault.timedOut program limit))
    else
      match c.ending with
      | .exited succeeded => (succeeded, none)
      | .lost => (false, some (.wait program))
  ⟨succeeded, c.stdout time, c.stderr time, fault?⟩

end Course

namespace Launch

def waiting (limit : Number.Duration) : Launch World → Nat
  | .missing => 0
  | .unspawnable _ => 0
  | .started course => course.waiting limit

def outcome (limit : Number.Duration) (program : String) : Launch World → StepOutcome
  | .missing => .failed (.toolNotFound program)
  | .unspawnable workingDir => .failed (.spawn program workingDir)
  | .started course => course.outcome limit program

def after (limit : Number.Duration) (world : World) : Launch World → World
  | .missing => world
  | .unspawnable _ => world
  | .started course => course.world (course.waiting limit)

end Launch

def waitFor (launch : World → Step → Launch World) (limit : Number.Duration) (now : Timed World)
    (step : Step) : StepOutcome × Timed World :=
  let launched := launch now.world step
  (launched.outcome limit step.program,
    ⟨launched.after limit now.world, now.elapsed + launched.waiting limit⟩)

end AsmDiagnostics.Build
