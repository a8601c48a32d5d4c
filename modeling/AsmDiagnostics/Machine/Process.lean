import AsmDiagnostics.Build.Waiting
import AsmDiagnostics.Machine.Shell.Run
import AsmDiagnostics.Pipeline.Basic

/-!
# Builds on a machine

How the step of a build runs on a machine. Its program is looked for among the machine's own, or by
its path from the folder of the build; then it needs a folder to run in, arguments without null
bytes and, for a script, an interpreter. It is followed until it ends or until its time is up, and
whatever it has left running goes with it.
-/

namespace AsmDiagnostics.Machine

def maxInterpreters : Nat := 5

/-- What stands at a place can be started; a script names an interpreter that can. -/
def canStart (files : Files) (folder : Place) : Nat → Place → Bool
  | 0, _ => false
  | bound + 1, place =>
      match files.get? place with
      | some (.program _) => true
      | some (.file content true) =>
          match Shell.interpreter? (Text.ofOctets content) with
          | none => false
          | some (path, _) =>
              match files.resolve? folder ⟨Text.octets path⟩ with
              | none => false
              | some next => canStart files folder bound next
      | _ => false

def outputOf (written : List Chunk) (stream time : Nat) : List UInt8 :=
  let own := written.reverse.filter fun chunk => chunk.stream = stream && chunk.time ≤ time
  (own.mergeSort fun a b => decide (a.time ≤ b.time)).flatMap fun chunk => Text.octets chunk.text

def printStream : Nat := 1

def complaintStream : Nat := 2

def Shell.ofProcess (files : Files) (folder : Place) (limit : Nat) (name : List Char)
    (arguments : List (List Char)) : Shell where
  machine := Machine.ofFiles files limit (complaintStream + 1) (firstProcess + 1)
  process := firstProcess
  root := firstProcess
  parent := firstProcess - 1
  job := 0
  folder := folder
  bindings :=
    [⟨"PATH".toList, some Shell.usualFolders, true, false⟩,
      ⟨"HOME".toList, some "/root".toList, true, false⟩]
  name := name
  arguments := arguments
  status := 0
  inserted := 0
  channels := [(0, .null), (1, .output printStream), (2, .output complaintStream)]
  flow := .running
  options := []
  loops := 0
  saved := []
  functions := []
  traps := []
  pending := []
  aliases := []
  documents := []
  nextDocument := 0
  line := 0
  context? := none
  lastJob? := none
  known := []
  optionIndex := 1
  optionPlace := 0
  mask := 18
  leaving? := none
  lastWait := 0

/-- A depth of calls that no process exceeds before its time is up, unless it nests that deep. -/
def depthWithin (limit : Nat) : Nat := limit + 1000000

/-- The process that the program at a place is started in, followed for so many microseconds: if it
goes on any longer, its end is put just behind them. -/
def processOf (files : Files) (folder place : Place) (limit : Nat) (name : List Char)
    (arguments : List (List Char)) : Build.Course Files :=
  let process := (Shell.ofProcess files folder limit name arguments).spend startCost
  let done := (process.start (depthWithin limit) place name).notice
  let machine := done.machine
  { duration? := some (machine.clock * 1000)
    ending := .exited (done.exitStatus == 0)
    stdout := fun time => outputOf machine.written printStream (time / 1000)
    stderr := fun time => outputOf machine.written complaintStream (time / 1000)
    world := fun _ => machine.files }

/-- The path of a program: as it is when it is absolute, from the folder without the dots in it when
it has several components, and among the machine's own programs otherwise. -/
def programPath (workingDir : Path) (program : String) : Path :=
  let name := Path.ofString program
  if name.components.length ≤ 1 then (Files.pathOf Shell.programFolder).join name
  else if name.isAbsolute then name
  else workingDir.join (Path.ofComponents (name.components.filter (· != .here)))

def programAt? (files : Files) (workingDir : Path) (program : String) : Option (Path × Place) :=
  let path := programPath workingDir program
  match files.resolve? [] path with
  | none => none
  | some place =>
      if (files.get? place).any Shell.isStartable then some (path, place) else none

def microsOf (limit : Number.Duration) : Nat := limit.nanos / 1000

def launch (limit : Number.Duration) (workingDir : Path) (files : Files) (step : Build.Step) :
    Build.Launch Files :=
  match programAt? files workingDir step.program with
  | none => .missing
  | some (path, place) =>
      let folder? := (files.resolve? [] workingDir).filter files.isFolder
      match folder? with
      | none => .unspawnable workingDir
      | some folder =>
          if step.args.any (fun arg => arg.contains 0) ||
              !canStart files folder (maxInterpreters + 1) place then
            .unspawnable workingDir
          else
            .started (processOf files folder place (microsOf limit) (Text.ofOctets path.bytes)
              (step.args.map Text.ofOctets))

/-- A machine with files, and how long its builds were waited for. -/
abbrev Site := Build.Timed Files

def Site.runBuild (limit : Number.Duration) (site : Site) (command : Build.Command) :
    Build.Result × Site :=
  command.run (Build.waitFor (launch limit command.workingDir) limit) site

def outside (limitSeconds : Nat) : Outside Files where
  pathExists files path := files.pathExists [] path
  build files command :=
    let (result, site) := Site.runBuild (Number.Duration.ofSeconds limitSeconds) ⟨files, 0⟩ command
    (result, site.elapsed / 1000000, site.world)

def commonFolders : List String :=
  ["usr", "usr/bin", "usr/lib", "usr/share", "bin", "dev", "etc", "home", "lib", "opt", "proc",
    "root", "tmp", "var"]

def bareFiles : Files :=
  let place := fun text : String => Files.placeOf (Path.ofString text)
  let folders := commonFolders.map fun name => (place name, Entry.folder)
  let programs := programNames.flatMap fun name =>
    [(place ("usr/bin/" ++ name), Entry.program name), (place ("bin/" ++ name), Entry.program name)]
  ⟨folders ++ programs ++
    [(place "dev/null", Entry.nullDevice), (place "dev/zero", Entry.zeroDevice)]⟩

end AsmDiagnostics.Machine
