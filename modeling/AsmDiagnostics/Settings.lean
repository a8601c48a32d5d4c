import AsmDiagnostics.Json.Decode

/-!
# Settings

What a user may choose: how long to wait after an edit, which file marks a project, the commands of
a project build, the assembler for a document on its own, and the time limit of a build. Anything
that is left out keeps its default.
-/

namespace AsmDiagnostics

/-- A program with its leading arguments. -/
structure CommandSpec where
  command : String
  args : List String
  deriving DecidableEq, Repr

structure Settings where
  /-- Milliseconds without an edit before a build starts. -/
  debounceMillis : Nat
  /-- The file below the workspace root that marks a project. -/
  buildDescriptor : String
  /-- The commands of a project build, in order. -/
  projectBuild : List CommandSpec
  /-- The command for a document on its own. -/
  assembler : CommandSpec
  /-- The time limit in seconds. -/
  timeoutSeconds : Nat
  deriving DecidableEq, Repr

namespace Settings

def default : Settings where
  debounceMillis := 500
  buildDescriptor := "Makefile"
  projectBuild := [⟨"make", ["clean", "-s"]⟩, ⟨"make", ["-s"]⟩]
  assembler := ⟨"rgbasm", ["-Weverything"]⟩
  timeoutSeconds := 120

def decodeCommand (surplus : Bool) : Json.Decoder CommandSpec :=
  Json.record "CommandSpec"
    (((Json.required "command" Json.string).and
      (Json.defaulted "args" (Json.list Json.string) [])).map fun r => ⟨r.1, r.2⟩)
    surplus

/-- Decodes settings; with `surplus` an array may be longer than the record it stands for. -/
def decode (surplus : Bool) : Json.Decoder Settings :=
  Json.record "ServerSettings"
    (((Json.defaulted "debounce_ms" Json.word64 default.debounceMillis).and
      ((Json.defaulted "build_descriptor" Json.string default.buildDescriptor).and
        ((Json.defaulted "project_build" (Json.list (decodeCommand surplus))
            default.projectBuild).and
          ((Json.defaulted "assembler" (decodeCommand surplus) default.assembler).and
            (Json.defaulted "timeout_secs" Json.word64 default.timeoutSeconds))))).map
      fun r => ⟨r.1, r.2.1, r.2.2.1, r.2.2.2.1, r.2.2.2.2⟩)
    surplus

def timeLimitSeconds (s : Settings) : Nat := max s.timeoutSeconds 1

end Settings

end AsmDiagnostics
