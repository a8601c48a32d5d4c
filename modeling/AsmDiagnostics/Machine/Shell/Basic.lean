import AsmDiagnostics.Machine.Clock
import AsmDiagnostics.Machine.Numeral
import AsmDiagnostics.Machine.Script
import AsmDiagnostics.Machine.Signal
import AsmDiagnostics.Text.Digit

/-!
# Shells

A shell is a process that works on a machine with a folder, variables and channels of its own. A
program that is no script is such a process too; it has no use for most of what a shell has.
-/

namespace AsmDiagnostics.Machine

/-- The time that a command of the shell itself takes, in microseconds. -/
def ownCost : Nat := 10

def startCost : Nat := 500

inductive Channel where
  | output (stream : Nat)
  | input (stream : Nat)
  | file (place : Place)
  | null
  deriving DecidableEq, Repr

inductive Flow where
  | running
  | exiting
  /-- Something went wrong that ends the shell, or the command at hand. -/
  | failing
  /-- The function at hand is over. -/
  | returning
  | breaking (levels : Nat)
  | continuing (levels : Nat)
  /-- A signal has come. -/
  | dying (signal : Nat)
  deriving DecidableEq, Repr

/-- A variable of a shell; programs see the exported ones that have a value. -/
structure Variable where
  name : List Char
  value? : Option (List Char)
  isExported : Bool
  isReadOnly : Bool
  deriving DecidableEq, Repr

structure Shell where
  machine : Machine
  /-- The number of the process. -/
  process : Nat
  /-- The number of the process that started the script. -/
  root : Nat
  parent : Nat
  /-- The job in the background that it belongs to; zero when there is none. -/
  job : Nat
  folder : Place
  bindings : List Variable
  /-- The name that it was called by. -/
  name : List Char
  arguments : List (List Char)
  status : Nat
  /-- The status of the last script whose output was put into the command at hand. -/
  inserted : Nat
  channels : List (Nat × Channel)
  flow : Flow
  /-- The letters of the options that are set. -/
  options : List Char
  /-- The number of loops around the command at hand. -/
  loops : Nat
  /-- What the variables of the functions at hand were before. -/
  saved : List (List (List Char × Option Variable))
  /-- The scripts that have a name. -/
  functions : List (List Char × Script)
  /-- What is done on a signal, or at the end of the shell. -/
  traps : List (Nat × List Char)
  /-- The signals that have come and ask for something. -/
  pending : List Nat
  aliases : List (List Char × List Char)
  /-- The documents of the scripts that were read. -/
  documents : List (Nat × List Piece)
  nextDocument : Nat
  /-- The line of the command at hand. -/
  line : Nat
  /-- The command of the shell itself that is at work. -/
  context? : Option (List Char)
  /-- The last process that was left running. -/
  lastJob? : Option Nat
  /-- The programs whose place is known. -/
  known : List (List Char)
  /-- The number of the argument that is searched for options next. -/
  optionIndex : Nat
  /-- How much of the argument before it has been searched; nothing is left of it when it is zero. -/
  optionPlace : Nat
  mask : Nat
  /-- The status before the trap at hand. -/
  leaving? : Option Nat
  /-- The last time at which the shell learned which processes are over. -/
  lastWait : Nat

def firstProcess : Nat := 4242

namespace Shell

def isRunning (sh : Shell) : Bool := sh.flow == .running && !sh.machine.isOver

def has (sh : Shell) (option : Char) : Bool := sh.options.contains option

def withStatus (sh : Shell) (status : Nat) : Shell := { sh with status := status }

def spend (sh : Shell) (micros : Nat) : Shell := { sh with machine := sh.machine.spend micros }

def exhausted (sh : Shell) : Shell := { sh with machine := sh.machine.exhausted }

def channel? (sh : Shell) (number : Nat) : Option Channel :=
  (sh.channels.find? fun entry => entry.1 = number).map Prod.snd

def withChannel (sh : Shell) (number : Nat) (channel? : Option Channel) : Shell :=
  let others := sh.channels.filter fun entry => entry.1 ≠ number
  { sh with channels := (channel?.toList.map fun channel => (number, channel)) ++ others }

def withFiles (sh : Shell) (files : Files) : Shell :=
  { sh with machine := sh.machine.withFiles sh.job files }

def isWritable (sh : Shell) (number : Nat) : Bool :=
  match sh.channel? number with
  | none => false
  | some (.input _) => false
  | _ => true

/-- Writes on a channel; what is written on a closed channel is lost, and that is a failure. -/
def write (sh : Shell) (number : Nat) (text : List Char) : Shell :=
  if text.isEmpty then sh
  else
    match sh.channel? number with
    | some (.output stream) =>
        let chunk : Chunk := ⟨sh.machine.clock, stream, sh.job, text⟩
        { sh with machine := { sh.machine with written := chunk :: sh.machine.written } }
    | some (.file place) =>
        sh.withFiles (sh.machine.files.appendAt place (Text.octets text))
    | some .null => sh
    | _ => sh.withStatus 1

def print (sh : Shell) (text : List Char) : Shell := sh.write 1 text

def printLine (sh : Shell) (text : List Char) : Shell := sh.print (text ++ ['\n'])

/-- Prints a line on the channel for complaints; that it cannot be printed is no failure. -/
def complain (sh : Shell) (text : List Char) : Shell :=
  (sh.write 2 (text ++ ['\n'])).withStatus sh.status

/-- The front of a complaint of the shell: its name, the line, and its own command at work. -/
def place (sh : Shell) : List Char :=
  sh.name ++ ": ".toList ++ Text.decimal sh.line ++ ": ".toList ++
    (sh.context?.map fun name => name ++ ": ".toList).getD []

def fault (sh : Shell) (text : List Char) (status : Nat) : Shell :=
  (sh.complain (sh.place ++ text)).withStatus status

/-- Tells about a fault that ends the shell, or the command at hand. -/
def fail (sh : Shell) (text : List Char) : Shell := { sh.fault text 2 with flow := .failing }

def readAll (sh : Shell) (number : Nat) : List Char × Shell :=
  match sh.channel? number with
  | some (.input stream) =>
      let input := sh.machine.inputOf stream
      let rest := { input with texts := [] }
      let machine := (sh.machine.leaveInput stream rest).waitUntil input.finish
      (input.texts.flatMap Prod.snd, { sh with machine := machine })
  | _ => ([], sh)

/-- Reads a line, which takes until it is there, and says whether it has its newline. -/
def readLine (sh : Shell) (number : Nat) : List Char × Bool × Shell :=
  match sh.channel? number with
  | some (.input stream) =>
      let (line, isWhole, time, rest) := (sh.machine.inputOf stream).line
      let machine := (sh.machine.leaveInput stream rest).waitUntil time
      (line, isWhole, { sh with machine := machine })
  | _ => ([], false, sh)

def readsFile (sh : Shell) (number : Nat) : Bool :=
  match sh.channel? number with
  | some (.input stream) => (sh.machine.inputOf stream).isFile
  | _ => false

def putBack (sh : Shell) (number : Nat) (text : List Char) : Shell :=
  match sh.channel? number with
  | some (.input stream) =>
      let input := sh.machine.inputOf stream
      let texts := if text.isEmpty then input.texts else (0, text) :: input.texts
      { sh with machine := sh.machine.leaveInput stream { input with texts := texts } }
  | _ => sh

def openText (sh : Shell) (number : Nat) (text : List Char) (isFile : Bool) : Shell :=
  let texts := if text.isEmpty then [] else [(0, text)]
  let (stream, machine) := sh.machine.withInput ⟨texts, 0, isFile⟩
  { sh with machine := machine }.withChannel number (some (.input stream))

def binding? (sh : Shell) (name : List Char) : Option Variable :=
  sh.bindings.find? fun v => v.name = name

def valueOf? (sh : Shell) (name : List Char) : Option (List Char) :=
  (sh.binding? name).bind Variable.value?

def isReadOnly (sh : Shell) (name : List Char) : Bool :=
  (sh.binding? name).any Variable.isReadOnly

def putVariable (sh : Shell) (name : List Char) (binding? : Option Variable) : Shell :=
  let others := sh.bindings.filter fun v => v.name ≠ name
  { sh with bindings := binding?.toList ++ others }

def setVariable (sh : Shell) (name value : List Char) : Shell :=
  let old := (sh.binding? name).getD ⟨name, none, false, false⟩
  let sh :=
    if name = "OPTIND".toList then
      { sh with optionIndex := max 1 (Numeral.decimalValue value), optionPlace := 0 }
    else sh
  let isExported := old.isExported || sh.has 'a'
  sh.putVariable name (some { old with value? := some value, isExported := isExported })

def assignVariable (sh : Shell) (name value : List Char) : Shell :=
  if sh.isReadOnly name then sh.fail (name ++ ": is read only".toList)
  else sh.setVariable name value

def exportVariable (sh : Shell) (name : List Char) : Shell :=
  let old := (sh.binding? name).getD ⟨name, none, false, false⟩
  sh.putVariable name (some { old with isExported := true })

def separators (sh : Shell) : List Char := (sh.valueOf? "IFS".toList).getD [' ', '\t', '\n']

def joined (sh : Shell) (texts : List (List Char)) : List Char :=
  (sh.separators.take 1).intercalate texts

def optionLetters : List Char := "ubaCEVvxsnmiIfe".toList

def parameter? (sh : Shell) (name : List Char) : Option (List Char) :=
  match name with
  | ['?'] => some (Text.decimal sh.status)
  | ['$'] => some (Text.decimal sh.root)
  | ['#'] => some (Text.decimal sh.arguments.length)
  | ['!'] => sh.lastJob?.map Text.decimal
  | ['-'] => some (optionLetters.filter sh.options.contains)
  | ['@'] => if sh.arguments.isEmpty then none else some (sh.joined sh.arguments)
  | ['*'] => if sh.arguments.isEmpty then none else some (sh.joined sh.arguments)
  | _ =>
      if name.all Char.isDigit then
        match name.foldl (fun n c => 10 * n + (c.toNat - '0'.toNat)) 0 with
        | 0 => some sh.name
        | n + 1 => sh.arguments[n]?
      else sh.valueOf? name

def resolve? (sh : Shell) (path : List Char) : Option Place :=
  sh.machine.files.resolve? sh.folder ⟨Text.octets path⟩

def target? (sh : Shell) (path : List Char) : Option Place :=
  sh.machine.files.target? sh.folder ⟨Text.octets path⟩

def standing? (sh : Shell) (path : List Char) : Option Entry :=
  (sh.resolve? path).bind sh.machine.files.get?

def pathText (place : Place) : List Char := Text.ofOctets (Files.pathOf place).bytes

def exitStatus (sh : Shell) : Nat :=
  match sh.flow with
  | .dying signal => Signal.status signal
  | _ => sh.status % 256

def mourn (sh child : Shell) : Shell :=
  match child.flow with
  | .dying signal =>
      match Signal.epitaph? signal with
      | some text => sh.complain text
      | none => sh
  | _ => sh

/-- The shell after another process on the same machine has ended; only its status and what it did
to the machine remain. -/
def afterChild (sh child : Shell) : Shell :=
  let after := { sh with machine := child.machine, lastWait := child.machine.clock }
  (after.mourn child).withStatus child.exitStatus

def fork (sh : Shell) : Shell :=
  let machine := sh.machine
  { sh with
    machine := { machine with nextProcess := machine.nextProcess + 1 }
    process := machine.nextProcess
    parent := sh.process }

/-- A shell at the start of its own work; it still takes no notice of what it took no notice of. -/
def fresh (sh : Shell) : Shell :=
  { sh with
    flow := .running
    traps := sh.traps.filter fun entry => entry.2.isEmpty
    pending := [] }

/-- A process that a program runs in: it knows the exported variables only. -/
def forProgram (sh : Shell) (name : List Char) (arguments : List (List Char)) : Shell :=
  let fresh := sh.fresh
  { fresh with
    root := sh.process
    bindings := (sh.bindings.filter fun v => v.isExported && v.value?.isSome).map fun v =>
      { v with isReadOnly := false }
    name := name
    arguments := arguments
    options := []
    loops := 0
    saved := []
    functions := []
    aliases := []
    documents := []
    line := 0
    context? := none
    lastJob? := none
    known := []
    optionIndex := 1
    optionPlace := 0
    leaving? := none
    lastWait := 0 }

end Shell

end AsmDiagnostics.Machine
