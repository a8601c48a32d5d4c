import AsmDiagnostics.Config
import AsmDiagnostics.Machine.Files
import AsmDiagnostics.Server.Clock

/-!
# The program

A run of the program: it opens its log, looks for its settings, and serves one editor on its
standard input and output. Its exit status tells whether the session ended the way editors expect.
-/

namespace AsmDiagnostics.Program

def logFile (folder : Path) : Path :=
  (folder.join (Path.ofString "logs")).join (Path.ofString "server.log")

def logCandidates (e : Environment) : List Path :=
  (e.dataFolder?.toList.map fun folder =>
      logFile (folder.join (Path.ofString Config.programName))) ++
    [logFile (Path.ofString ("." ++ Config.programName))]

def openLog (folder : Machine.Place) (files : Machine.Files) (log : Path) :
    Machine.Files × Bool :=
  let above : Path := ⟨Path.joinPieces (Path.pieces log.bytes).dropLast⟩
  match files.makeFolders folder above with
  | (made, none) => (made, false)
  | (made, some _) =>
      match made.target? folder log with
      | none => (made, false)
      | some place =>
          match made.get? place with
          | some .folder => (made, false)
          | some _ => (made, true)
          | none => (made.put place (.file [] false), true)

def withLog (folder : Machine.Place) (files : Machine.Files) : List Path → Machine.Files
  | [] => files
  | log :: others =>
      let (files, isOpen) := openLog folder files log
      if isOpen then files else withLog folder files others

def exitStatus : Option Ending → Nat
  | some (.ok true) => 0
  | _ => 1

def framesOf (messages : List Json) : List UInt8 := messages.flatMap Frame.ofMessage

structure Result where
  status : Nat
  stdout : List UInt8
  files : Machine.Files

def runIn (outside : Settings → Outside Machine.Files) (e : Environment) (folder : Machine.Place)
    (files : Machine.Files) (input : List UInt8) : Result :=
  let files := withLog folder files (logCandidates e)
  let settings := Config.settingsFor e (files.at? folder)
  let server := Server.run (outside settings) settings files input
  ⟨exitStatus server.ending?, framesOf server.outbox, server.world⟩

end AsmDiagnostics.Program
