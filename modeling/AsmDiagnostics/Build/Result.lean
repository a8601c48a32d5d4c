import AsmDiagnostics.Build.Command
import AsmDiagnostics.Number.Duration

/-!
# Running a build

The steps of a build run in order until one does not succeed. The output of all steps that ran is
kept: first everything they printed, then a newline, then everything they complained about.

What a step does is an argument here, a function from the state of the outside world to the step's
outcome and the state after it.
-/

namespace AsmDiagnostics.Build

/-- Why a step could not be run to its end. -/
inductive StepFault where
  | toolNotFound (program : String)
  | spawn (program : String) (workingDir : Path)
  | wait (program : String)
  | timedOut (program : String) (limit : Number.Duration)
  deriving DecidableEq, Repr

def StepFault.message : StepFault → String
  | .toolNotFound program => program ++ " not found in PATH"
  | .spawn program workingDir =>
      "failed to spawn " ++ program ++ " in " ++ workingDir.display
  | .wait program => "failed waiting for " ++ program
  | .timedOut program limit => program ++ " timed out after " ++ limit.text

structure StepOutcome where
  succeeded : Bool
  stdout : List UInt8
  stderr : List UInt8
  fault? : Option StepFault
  deriving DecidableEq, Repr

def StepOutcome.failed (fault : StepFault) : StepOutcome := ⟨false, [], [], some fault⟩

structure Result where
  succeeded : Bool
  output : String
  fault? : Option StepFault
  deriving DecidableEq, Repr

def Result.nothing : Result := ⟨false, "", none⟩

def outcomes {World : Type} (runStep : World → Step → StepOutcome × World) :
    World → List Step → List StepOutcome × World
  | world, [] => ([], world)
  | world, step :: rest =>
      let (outcome, world) := runStep world step
      if outcome.succeeded then
        let (others, world) := outcomes runStep world rest
        (outcome :: others, world)
      else ([outcome], world)

def combinedOutput (all : List StepOutcome) : String :=
  Text.lossy (all.flatMap StepOutcome.stdout) ++ "\n" ++ Text.lossy (all.flatMap StepOutcome.stderr)

def Result.ofOutcomes (all : List StepOutcome) : Result where
  succeeded := all.all StepOutcome.succeeded
  output := combinedOutput all
  fault? := all.getLast?.bind StepOutcome.fault?

def Command.run {World : Type} (runStep : World → Step → StepOutcome × World) (world : World)
    (c : Command) : Result × World :=
  let (all, world) := outcomes runStep world c.steps
  (Result.ofOutcomes all, world)

end AsmDiagnostics.Build
