import AsmDiagnostics.Machine.Process
import AsmDiagnostics.Program.Basic

/-!
# The program on a machine

Builds run on a machine with its own files and programs, each step as long as the settings allow.
-/

namespace AsmDiagnostics.Program

def run (e : Environment) (folder : Machine.Place) (files : Machine.Files) (input : List UInt8) :
    Result :=
  runIn (fun settings => Machine.outside settings.timeLimitSeconds) e folder files input

end AsmDiagnostics.Program
