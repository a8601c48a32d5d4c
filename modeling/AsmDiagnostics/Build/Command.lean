import AsmDiagnostics.Workspace

/-!
# Build commands

Which programs a build runs, chosen for a document of a workspace: the project's own commands when
its descriptor exists, and otherwise the assembler on the document with its object thrown away.
-/

namespace AsmDiagnostics.Build

structure Step where
  program : String
  args : List (List UInt8)
  deriving DecidableEq, Repr

/-- The steps of a build and the folder that they run in. -/
structure Command where
  mode : BuildMode
  workingDir : Path
  steps : List Step
  deriving DecidableEq, Repr

namespace Step

def ofSpec (spec : CommandSpec) : Step := ⟨spec.command, spec.args.map Text.bytesOf⟩

def display (s : Step) : String := " ".intercalate (s.program :: s.args.map Text.lossy)

end Step

namespace Command

def nullDevice : String := "/dev/null"

def stepsFor (settings : Settings) (document : DocumentRef) : BuildMode → List Step
  | .project => settings.projectBuild.map Step.ofSpec
  | .singleFile =>
      let step := Step.ofSpec settings.assembler
      [⟨step.program, step.args ++
        [Text.bytesOf "-o", Text.bytesOf nullDevice, document.absolute.bytes]⟩]

def select (workspace : Workspace) (pathExists : Path → Bool) (document : DocumentRef) :
    Command :=
  let mode := workspace.buildMode pathExists
  ⟨mode, workspace.root, stepsFor workspace.settings document mode⟩

def display (c : Command) : String := " && ".intercalate (c.steps.map Step.display)

end Command

end AsmDiagnostics.Build
