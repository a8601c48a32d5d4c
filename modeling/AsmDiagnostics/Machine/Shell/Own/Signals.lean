import AsmDiagnostics.Machine.Shell.Own.Basic

/-!
# Signals between processes

A signal does what a process has asked for, or what signals do by themselves. A process learns of
the signals of others as it goes on; the commands of the shell send signals, say what is done about
them, and wait for the processes that were left running.
-/

namespace AsmDiagnostics.Machine.Shell

def trap? (sh : Shell) (signal : Nat) : Option (List Char) :=
  if Signal.isSure signal then none
  else (sh.traps.find? fun entry => entry.1 = signal).map Prod.snd

def ignores (sh : Shell) (signal : Nat) : Bool :=
  match sh.trap? signal with
  | some action => action.isEmpty
  | none => Signal.isHarmless signal

def receive (sh : Shell) (signal : Nat) : Shell :=
  if sh.ignores signal then sh
  else if (sh.trap? signal).isSome then
    { sh with
      pending := (signal :: sh.pending.filter (· != signal)).mergeSort fun a b => decide (a ≤ b) }
  else if Signal.stops signal then sh.exhausted
  else { sh with flow := .dying signal }

/-- Takes in the signals that others have sent up to now. A process that dies of one has died as it
came. -/
def notice (sh : Shell) : Shell :=
  if sh.machine.sent.isEmpty then sh else go sh.machine.sent.length sh
where
  /-- Takes in so many signals at most. -/
  go : Nat → Shell → Shell
    | 0, sh => sh
    | bound + 1, sh =>
        match sh.machine.takeSignal? sh.process with
        | none => sh
        | some (sent, machine) =>
            let received := { sh with machine := machine }.receive sent.signal
            match received.flow with
            | .dying _ => { received with machine := machine.backTo sent.time }
            | _ => go bound received

def ownJobs (sh : Shell) : List Job :=
  (sh.machine.jobs.filter fun job => job.parent = sh.process).reverse

def waitFor (sh : Shell) (time : Nat) : Shell × Option Nat :=
  let coming := sh.machine.sent.filter fun sent =>
    sent.process = sh.process && decide (sent.time ≤ time) && !sh.ignores sent.signal
  match coming.mergeSort fun a b => decide (a.time ≤ b.time) with
  | [] => ({ sh with machine := sh.machine.waitUntil time }, none)
  | first :: _ => ({ sh with machine := sh.machine.waitUntil first.time }, some first.signal)

def mournJob (sh : Shell) (job : Job) : Shell :=
  match job.signal?.bind Signal.epitaph? with
  | some text => sh.complain text
  | none => sh

def namedJob? (sh : Shell) (word : List Char) : Option Job :=
  match word with
  | '%' :: number =>
      let jobs := sh.ownJobs
      if number.isEmpty || number == ['%'] || number == ['+'] then jobs.getLast?
      else if number.all Char.isDigit && 0 < Numeral.decimalValue number then
        jobs[Numeral.decimalValue number - 1]?
      else none
  | _ => sh.ownJobs.find? fun job => job.process = Numeral.decimalValue word

def isJobNumber (word : List Char) : Bool := word.head? == some '%'

def await : Own := fun sh arguments =>
  sh.withLetters "" arguments fun _ words =>
    let sh := sh.withStatus 0
    if words.isEmpty then
      let finish := (sh.ownJobs.map Job.finish).foldl max 0
      match sh.waitFor finish with
      | (done, none) => { done with lastWait := done.machine.clock }
      | (done, some signal) => done.withStatus (Signal.status signal)
    else words.foldl step sh
where
  /-- Waits for one of them. -/
  step (sh : Shell) (word : List Char) : Shell :=
    if !sh.isRunning then sh
    else
      match sh.namedJob? word with
      | some job =>
          match sh.waitFor job.finish with
          | (done, none) =>
              let after := { done with lastWait := done.machine.clock }
              if job.finish ≤ sh.lastWait then after.withStatus job.status
              else (after.mournJob job).withStatus job.status
          | (done, some signal) => done.withStatus (Signal.status signal)
      | none =>
          if isJobNumber word then sh.fail ("No such job: ".toList ++ word)
          else sh.withNumber word fun _ => sh.withStatus 127

def listJobs : Own := fun sh arguments =>
  sh.withLetters "lp" arguments fun _ _ =>
    let jobs := sh.ownJobs
    let number := fun n : Nat => jobs.length - n
    let state := fun job : Job =>
      if sh.machine.clock < job.finish then "Running".toList
      else
        match job.signal?.bind Signal.epitaph? with
        | some text => text
        | none =>
            if job.status = 0 then "Done".toList
            else "Done(".toList ++ Text.decimal job.status ++ [')']
    let isOver := fun job : Job => decide (job.finish ≤ sh.machine.clock)
    let lines := jobs.reverse.zipIdx.map fun (job, i) =>
      let others := ((jobs.reverse.take i).filter fun other => !isOver other).length
      let sign := if others = 0 then '+' else if others = 1 then '-' else ' '
      let text := state job
      '[' :: Text.decimal (number i) ++ [']', ' ', sign, ' '] ++ text ++
        List.replicate (27 - text.length) ' ' ++ ['\n']
    let machine := sh.machine
    let isKept := fun job : Job => job.parent ≠ sh.process || !isOver job
    ({ sh with machine := { machine with jobs := machine.jobs.filter isKept } }.withStatus 0).print
      lines.flatten

def isAlive (sh : Shell) (process : Nat) : Bool :=
  [1, firstProcess, sh.process, sh.root, sh.parent].contains process ||
    (sh.machine.runningJob? process).isSome

def send (sh : Shell) (signal process : Nat) : Shell :=
  if signal = 0 ∨ process = 1 then sh
  else if process = sh.process then sh.receive signal
  else
    match sh.machine.runningJob? process with
    | some _ =>
        if Signal.isHarmless signal || Signal.stops signal then sh
        else { sh with machine := sh.machine.endJob process signal }
    | none =>
        let machine := sh.machine
        let sent : Sent := ⟨machine.clock, process, signal⟩
        { sh with machine := { machine with sent := machine.sent ++ [sent] } }

def killUsage : List Char :=
  "Usage: kill [-s sigspec | -signum | -sigspec] [pid | job]... or\nkill -l [exitstatus]".toList

/-- What `kill` is asked for: a signal, or a list of them. -/
inductive KillRequest where
  | send (signal : Nat) (words : List (List Char))
  | list (words : List (List Char))
  | refused (text : List Char)

def killRequest (arguments : List (List Char)) : KillRequest :=
  match arguments with
  | ('-' :: name) :: rest =>
      match Signal.ofText? name with
      | some signal => .send signal rest
      | none => options 15 false arguments
  | _ => .send 15 arguments
where
  /-- Reads options of single letters. -/
  options (signal : Nat) (isList : Bool) : List (List Char) → KillRequest
    | ['-', '-'] :: rest => finish signal isList rest
    | ['-', 'l'] :: rest => options signal true rest
    | [['-', 's']] => .refused "No arg for -s option".toList
    | ['-', 's'] :: name :: rest => named name isList rest
    | ('-' :: 's' :: name) :: rest => named name isList rest
    | ('-' :: 'l' :: c :: _) :: _ => .refused ("Illegal option -".toList ++ [c])
    | ('-' :: c :: _) :: _ => .refused ("Illegal option -".toList ++ [c])
    | rest => finish signal isList rest
  /-- Reads the name of a signal, and the options behind it. -/
  named (name : List Char) (isList : Bool) (rest : List (List Char)) : KillRequest :=
    match Signal.ofText? name with
    | some signal => finish signal isList (if rest.head? == some ['-', '-'] then rest.drop 1 else
        rest)
    | none => .refused ("invalid signal number or name: ".toList ++ name)
  /-- The request when the options are over. -/
  finish (signal : Nat) (isList : Bool) (rest : List (List Char)) : KillRequest :=
    if isList then .list rest else .send signal rest

/-- Sends signals, or tells their names. -/
def kill : Own := fun sh arguments =>
  if arguments.isEmpty then sh.fail killUsage
  else
    match killRequest arguments with
    | .refused text => sh.fail text
    | .list [] =>
        (sh.withStatus 0).print ("0\n".toList ++
          (List.range Signal.greatest).flatMap fun n => Signal.name (n + 1) ++ ['\n'])
    | .list (word :: _) =>
        sh.withNumber word fun n =>
          let signal := if 128 < n then n - 128 else n
          if 0 < signal ∧ signal ≤ Signal.greatest then
            (sh.withStatus 0).printLine (Signal.name signal)
          else sh.fail ("invalid signal number or exit status: ".toList ++ word)
    | .send _ [] => sh.fail killUsage
    | .send signal words => (sh.withStatus 0).forEach words (step signal)
where
  /-- Tells that nobody is there. -/
  nobody (sh : Shell) : Shell :=
    (sh.complain (sh.place ++ "No such process\n".toList)).withStatus 1
  /-- Sends the signal to one of the processes. -/
  step (signal : Nat) (sh : Shell) (word : List Char) : Shell :=
    match word with
    | '%' :: _ =>
        match sh.namedJob? word with
        | some _ => nobody sh
        | none => sh.fail ("No such job: ".toList ++ word)
    | '-' :: digits =>
        sh.withNumber digits fun process =>
          if process = firstProcess then toGroup signal sh else nobody sh
    | _ =>
        sh.withNumber word fun process =>
          if process = 0 then toGroup signal sh
          else if sh.isAlive process then sh.send signal process
          else nobody sh
  /-- Sends the signal to all processes. -/
  toGroup (signal : Nat) (sh : Shell) : Shell :=
    let jobs := sh.machine.jobs.filter fun job => decide (sh.machine.clock < job.finish)
    let others := (jobs.map Job.process ++ [firstProcess, sh.root, sh.parent]).filter fun process =>
      process != sh.process && process != 0
    (others.foldl (fun sh process => sh.send signal process) sh).send signal sh.process

/-- Says what is done on signals, or lists what is done. -/
def setTraps : Own := fun sh arguments =>
  sh.withLetters "" arguments fun _ words =>
    let sh := sh.withStatus 0
    match words with
    | [] =>
        let all := sh.traps.mergeSort fun a b => decide (a.1 ≤ b.1)
        sh.print (all.flatMap fun (signal, action) =>
          "trap -- ".toList ++ inScriptQuotes action ++ ' ' :: Signal.name signal ++ ['\n'])
    | first :: rest =>
        let isNumber := !first.isEmpty && first.all Char.isDigit && (Signal.ofText? first).isSome
        if rest.isEmpty || isNumber then set none sh words
        else set (if first = ['-'] then none else some first) sh rest
where
  /-- Says what is done on signals that words name. -/
  set (action? : Option (List Char)) (sh : Shell) : List (List Char) → Shell
    | [] => sh
    | word :: rest =>
        match Signal.ofText? word with
        | none => (sh.complain ("trap: ".toList ++ word ++ ": bad trap".toList)).withStatus 1
        | some signal =>
            let others := sh.traps.filter fun entry => entry.1 ≠ signal
            let added := action?.toList.map fun action => (signal, action)
            set action? { sh with traps := added ++ others } rest

end AsmDiagnostics.Machine.Shell
