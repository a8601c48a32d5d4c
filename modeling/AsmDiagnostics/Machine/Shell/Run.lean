import AsmDiagnostics.Machine.Arithmetic
import AsmDiagnostics.Machine.Script.Reader
import AsmDiagnostics.Machine.Shell.Own.Table
import AsmDiagnostics.Machine.Shell.Redirect
import AsmDiagnostics.Machine.Tool.Batch
import AsmDiagnostics.Machine.Tool.Find
import AsmDiagnostics.Machine.Tool.Starting
import AsmDiagnostics.Machine.Tool.Table

/-!
# Running scripts

What a shell does with a script. Every call goes one step down from a bound on the depth; a loop
that uses it up counts as one that does not end before the deadline. A subshell, a part of a pipe, a
program and a job in the background are processes that work on the same machine and leave nothing
else behind. A job runs at once, on a clock of its own.
-/

namespace AsmDiagnostics.Machine

structure Manner where
  /-- Its failure is looked at, so that the shell goes on after it. -/
  isTested : Bool
  /-- The process has nothing to do behind it. -/
  isLast : Bool

namespace Manner

def plain : Manner := ⟨false, false⟩

def tested : Manner := ⟨true, false⟩

def inner (m : Manner) : Manner := { m with isLast := false }

end Manner

def Mark.whole (marks : List Mark) : List Char :=
  marks.filterMap fun m => if m = .gap then some ' ' else m.char?

namespace Shell

def checked (m : Manner) (sh : Shell) : Shell :=
  if sh.has 'e' && !m.isTested && sh.status != 0 && sh.isRunning then { sh with flow := .exiting }
  else sh

def hasTraps (sh : Shell) : Bool := sh.traps.any fun entry => !entry.2.isEmpty

def after (m : Manner) (sh child : Shell) : Shell :=
  if m.isLast && !sh.hasTraps then
    let flow :=
      match child.flow with
      | .dying signal => Flow.dying signal
      | _ => .exiting
    { sh with machine := child.machine, status := child.exitStatus, flow := flow }
  else sh.afterChild child

def withoutNewlines (text : List Char) : List Char :=
  ((text.filter (· != '\x00')).reverse.dropWhile (· == '\n')).reverse

def takeWritten (machine : Machine) (stream : Nat) : List (Nat × List Char) × Machine :=
  let own := machine.written.reverse.filter fun chunk => chunk.stream = stream
  let sorted := own.mergeSort fun a b => decide (a.time ≤ b.time)
  (sorted.map fun chunk => (chunk.time, chunk.text),
    { machine with written := machine.written.filter fun chunk => chunk.stream ≠ stream })

def writingTo (child : Shell) : Nat × Shell :=
  let machine := child.machine
  let stream := machine.nextStream
  (stream,
    { child with machine := { machine with nextStream := stream + 1 } }.withChannel 1
      (some (.output stream)))

def nameOf : Assignment → List Char
  | .mk name _ => name

def channelOf : Redirection → Nat
  | .file channel _ _ => channel
  | .document channel _ => channel

def redirectionsOf : Script → List Redirection
  | .simple _ _ _ redirections => redirections
  | .subshell _ _ redirections => redirections
  | .redirected _ _ redirections => redirections
  | _ => []

/-- The streams that a job holds on to: those of its channels that it does not lead elsewhere. -/
def streamsHeld (sh : Shell) (body : Script) : List Nat :=
  let moved := (redirectionsOf body).map channelOf
  sh.channels.filterMap fun (number, channel) =>
    match channel with
    | .output stream => if moved.contains number then none else some stream
    | _ => none

/-- The marks of a parameter; the arguments stay fields of their own. -/
def marksOf (sh : Shell) (quoted : Bool) (name : List Char) : List Mark :=
  let apart := fun (anchored : Bool) =>
    [Mark.gap].intercalate (sh.arguments.map fun argument =>
      (if anchored then [Mark.anchor] else []) ++ Mark.ofText quoted argument)
  match name with
  | ['@'] => apart quoted
  | ['*'] => if quoted then Mark.ofText true (sh.joined sh.arguments) else apart false
  | _ => Mark.ofText quoted ((sh.parameter? name).getD [])

def demanding (sh : Shell) (name : List Char) : Shell :=
  if sh.has 'u' && name != ['@'] && name != ['*'] && (sh.parameter? name).isNone then
    sh.fail (name ++ ": parameter not set".toList)
  else sh

/-- The value of an arithmetic expression, and the shell with the variables that it sets. -/
def calculated (sh : Shell) (text : List Char) : List Char × Shell :=
  let view : Arithmetic.View := ⟨fun name => (sh.valueOf? name).getD [], sh.isReadOnly⟩
  match Arithmetic.evaluate view text with
  | .ok (n, assigned) =>
      (Numeral.text n,
        assigned.reverse.foldl (fun sh (name, n) => sh.assignVariable name (Numeral.text n)) sh)
  | .error fault => ([], sh.fail (fault.text text))

inductive Turn where
  | next (sh : Shell)
  | over (sh : Shell)

def turn (sh : Shell) : Turn :=
  match sh.flow with
  | .breaking (levels + 2) => .over { sh with flow := .breaking (levels + 1) }
  | .breaking _ => .over { sh with flow := .running }
  | .continuing (levels + 2) => .over { sh with flow := .continuing (levels + 1) }
  | .continuing _ => .next { sh with flow := .running }
  | .running => if sh.machine.isOver then .over sh else .next sh
  | _ => .over sh

/-- The file that a script is read from by its name: a path, or a file in one of the folders where
programs are looked for. -/
def scriptAt? (sh : Shell) (name : List Char) : Option (List Char × List UInt8) :=
  let paths := if name.contains '/' then [name] else
    sh.programFolders.map fun folder => if folder.isEmpty then name else inFolder folder name
  paths.findSome? fun path =>
    match (sh.resolve? path).map sh.machine.files.get? with
    | some (some (.file content _)) => some (path, content)
    | some (some .nullDevice) => some (path, [])
    | _ => none

def declares (name : List Char) : Bool :=
  ["export", "readonly", "local", "alias"].contains (String.ofList name)

/-- The marks of a field that is an assignment: a tilde may stand at the front of its value. -/
def expandDeclared (sh : Shell) (marks : List Mark) : List Mark :=
  let front := marks.takeWhile (· != .plain '=')
  let value := marks.drop (front.length + 1)
  front ++ .plain '=' :: sh.expandTildes (value.length + 1) value

def asShell (sh : Shell) : Shell :=
  let set := fun (sh : Shell) (name : String) (value : List Char) =>
    sh.putVariable name.toList (some ⟨name.toList, some value, false, false⟩)
  let own := [("OPTIND", ['1']), ("IFS", [' ', '\t', '\n']), ("PS1", "# ".toList),
    ("PS2", "> ".toList), ("PS4", "+ ".toList), ("PPID", Text.decimal sh.parent)]
  let sh := own.foldl (fun sh (name, value) => set sh name value) sh
  let sh := if (sh.valueOf? "PATH".toList).isSome then sh else set sh "PATH" usualFolders
  let sh := (sh.setVariable "PWD".toList (pathText sh.folder)).exportVariable "PWD".toList
  { sh with root := sh.process, optionIndex := 1, optionPlace := 0 }

structure ShellRequest where
  /-- The text of a script is given. -/
  isText : Bool
  operands : List (List Char)

def shellRequest (bound : Nat) (sh : Shell) (isText : Bool) (words : List (List Char)) :
    Shell × Option ShellRequest :=
  match bound with
  | 0 => (sh, none)
  | bound + 1 =>
      match words with
      | [] => (sh, some ⟨isText, []⟩)
      | ['-'] :: rest => (sh, some ⟨isText, rest⟩)
      | ['-', '-'] :: rest => (sh, some ⟨isText, rest⟩)
      | (sign :: c :: letters) :: rest =>
          if sign = '-' ∨ sign = '+' then
            let all := c :: letters
            let isSet := sign = '-'
            match all.find? fun c => !(isOption c || "clo".toList.contains c) with
            | some unknown => (sh.fail ("Illegal option ".toList ++ [sign, unknown]), none)
            | none =>
                let set := (all.filter isOption).foldl (fun sh c => sh.withOption isSet c) sh
                let isText := isText || (isSet && all.contains 'c')
                if !all.contains 'o' then shellRequest bound set isText rest
                else
                  match rest with
                  | [] => (set.listOptions isSet, some ⟨isText, []⟩)
                  | name :: others =>
                      match optionNames.find? fun entry => entry.1.toList == name with
                      | some (_, letter?) =>
                          let done := letter?.toList.foldl (fun sh c => sh.withOption isSet c) set
                          shellRequest bound done isText others
                      | none =>
                          (sh.fail ("Illegal option ".toList ++ [sign, 'o', ' '] ++ name), none)
          else (sh, some ⟨isText, words⟩)
      | _ => (sh, some ⟨isText, words⟩)

mutual

def expand : Nat → Shell → List Piece → List Mark × Shell
  | 0, sh, _ => ([], sh.exhausted)
  | _ + 1, sh, [] => ([], sh)
  | bound + 1, sh, piece :: rest =>
      let (first, sh) := expandPiece bound sh piece
      if sh.flow != .running then (first, sh)
      else
        let (others, sh) := expand bound sh rest
        (first ++ others, sh)

def expandPiece : Nat → Shell → Piece → List Mark × Shell
  | 0, sh, _ => ([], sh.exhausted)
  | bound + 1, sh, piece =>
      match piece with
      | .literal true text => (if text.isEmpty then [.anchor] else text.map .kept, sh)
      | .literal false text => (text.map .plain, sh)
      | .parameter quoted name => (sh.marksOf quoted name, sh.demanding name)
      | .length quoted name =>
          let n := ((sh.parameter? name).getD []).length
          (Mark.ofText quoted (Text.decimal n), sh.demanding name)
      | .modified quoted name modifier word => modified bound sh quoted name modifier word
      | .meaningless => ([], sh.fail "Bad substitution".toList)
      | .output quoted script =>
          let (text, after) := captured bound sh script
          (Mark.ofText quoted (withoutNewlines text), after)
      | .arithmetic quoted pieces =>
          let (marks, sh) := expand bound sh pieces
          if sh.flow != .running then ([], sh)
          else
            let (text, sh) := sh.calculated (Mark.whole marks)
            (Mark.ofText quoted text, sh)

def modified : Nat → Shell → Bool → List Char → Modifier → List Piece → List Mark × Shell
  | 0, sh, _, _, _, _ => ([], sh.exhausted)
  | bound + 1, sh, quoted, name, modifier, word =>
      let value? := sh.parameter? name
      let value := sh.marksOf quoted name
      let isSet := fun emptyCounts => value?.isSome && !(emptyCounts && value? == some [])
      match modifier with
      | .substitute emptyCounts whenUnset =>
          if isSet emptyCounts == whenUnset then (if whenUnset then value else [], sh)
          else
            let (marks, sh) := expand bound sh word
            (marks.map Mark.softened, sh)
      | .assign emptyCounts =>
          if isSet emptyCounts then (value, sh)
          else if !Reader.isName name then ([], sh.fail (name ++ ": bad variable name".toList))
          else
            let (marks, sh) := expand bound sh word
            if sh.flow != .running then ([], sh)
            else (Mark.ofText quoted (Mark.whole marks), sh.assignVariable name (Mark.whole marks))
      | .demand emptyCounts =>
          if isSet emptyCounts then (value, sh)
          else
            let (marks, sh) := expand bound sh word
            let usual := "parameter not set" ++ (if emptyCounts then " or null" else "")
            let text := if word.isEmpty then usual.toList else Mark.whole marks
            ([], if sh.flow != .running then sh else sh.fail (name ++ ": ".toList ++ text))
      | .trim atEnd longest =>
          let (marks, sh) := expand bound (sh.demanding name) word
          let text := Pattern.trimmed (Mark.pattern marks) atEnd longest (value?.getD [])
          (Mark.ofText quoted text, sh)

def captured : Nat → Shell → Script → List Char × Shell
  | 0, sh, _ => ([], sh.exhausted)
  | bound + 1, sh, script =>
      let (stream, child) := (sh.spend startCost).fork.fresh.writingTo
      let done := finished bound false child script
      let machine := done.machine.waitUntil (done.machine.freeTime stream)
      let (texts, machine) := takeWritten machine stream
      let after := { sh with machine := machine }.mourn done
      (texts.flatMap Prod.snd, { after with inserted := done.exitStatus }.notice)

def finished : Nat → Bool → Shell → Script → Shell
  | 0, _, sh, _ => sh.exhausted
  | bound + 1, isTested, sh, script =>
      let done := perform bound ⟨isTested, true⟩ sh script
      leave bound done

/-- Expands words to fields. Once the name of the command is known, it is known too whether it
declares variables; assignments stay fields then. -/
def expandAll : Nat → Shell → Option Bool → List (List Piece) → List (List Char) × Shell
  | 0, sh, _, _ => ([], sh.exhausted)
  | _ + 1, sh, _, [] => ([], sh)
  | bound + 1, sh, declaring?, word :: rest =>
      let (marks, sh) := expand bound sh word
      if sh.flow != .running then ([], sh)
      else
        let own :=
          if declaring? = some true && (Reader.assignmentOf? word).isSome then
            [Mark.whole (sh.expandDeclared marks)]
          else sh.fieldsOf (sh.expandTilde false marks)
        let known? :=
          match declaring?, own with
          | none, name :: _ => if name = "command".toList then none else some (declares name)
          | _, _ => declaring?
        let (others, after) := expandAll bound sh known? rest
        (own ++ others, after)

/-- Carries out assignments, which belong to a command when they are exported. -/
def assign : Nat → Shell → Bool → List Assignment → Shell
  | 0, sh, _, _ => sh.exhausted
  | _ + 1, sh, _, [] => sh
  | bound + 1, sh, isExported, .mk name word :: rest =>
      let (marks, sh) := expand bound sh word
      if sh.flow != .running then sh
      else
        let value := Mark.whole (sh.expandTildes (marks.length + 1) marks)
        let set := sh.assignVariable name value
        if set.flow != .running then set
        else assign bound (if isExported then set.exportVariable name else set) isExported rest

def redirect : Nat → Shell → List Redirection → Except Shell Shell
  | 0, sh, _ => .error sh.exhausted
  | _ + 1, sh, [] => .ok sh
  | bound + 1, sh, redirection :: rest =>
      match redirection with
      | .document channel number =>
          let pieces := ((sh.documents.find? fun entry => entry.1 = number).map Prod.snd).getD []
          let (marks, sh) := expand bound sh pieces
          if sh.flow != .running then .error sh
          else redirect bound (sh.openText channel (Mark.whole marks) false) rest
      | .file channel kind target =>
          let (marks, sh) := expand bound sh target
          if sh.flow != .running then .error sh
          else
            match sh.redirectTo channel kind (Mark.whole (sh.expandTilde false marks)) with
            | .ok after => redirect bound after rest
            | .error after => .error after

def perform : Nat → Manner → Shell → Script → Shell
  | 0, _, sh, _ => sh.exhausted
  | bound + 1, m, sh, script =>
      if !sh.isRunning then sh
      else if sh.has 'n' then sh
      else
        match script with
        | .nothing => sh
        | .simple line assignments words redirections =>
            let done := simple bound m { sh with line := line } assignments words redirections
            checked m (answerSignals bound done.notice)
        | .sequence first second => perform bound m (perform bound m.inner sh first) second
        | .both first second =>
            let tested := perform bound .tested sh first
            if tested.isRunning && tested.status = 0 then perform bound m tested second else tested
        | .either first second =>
            let tested := perform bound .tested sh first
            if tested.isRunning && tested.status != 0 then perform bound m tested second
            else tested
        | .negated body =>
            let tested := perform bound .tested sh body
            if tested.isRunning then tested.withStatus (if tested.status = 0 then 1 else 0)
            else tested
        | .pipe parts =>
            let done := pipe bound m sh sh.machine.clock none parts
            checked m (answerSignals bound done.notice)
        | .background body => answerSignals bound (background bound sh body).notice
        | .conditional test body otherwise =>
            let tested := perform bound .tested sh test
            if !tested.isRunning then tested
            else if tested.status = 0 then perform bound m tested body
            else perform bound m (tested.withStatus 0) otherwise
        | .loop wanted test body => loop bound m.inner sh wanted test body 0
        | .each line name words? body =>
            let sh := { sh with line := line }
            let (fields, sh) :=
              match words? with
              | some words => expandAll bound sh (some false) words
              | none => (sh.arguments, sh)
            if sh.isRunning then each bound m.inner (sh.withStatus 0) name fields body else sh
        | .choice line word cases =>
            let (marks, sh) := expand bound { sh with line := line } word
            if sh.isRunning then
              choose bound m (sh.withStatus 0) (Mark.whole (sh.expandTilde false marks)) cases
            else sh
        | .function _ name body =>
            let others := sh.functions.filter fun entry => entry.1 != name
            { sh with functions := (name, body) :: others }.withStatus 0
        | .subshell line body redirections =>
            let child := { (sh.spend startCost).fork.fresh with line := line }
            let done :=
              match redirect bound child redirections with
              | .error failed => { failed with flow := .failing }
              | .ok inner => perform bound ⟨m.isTested, true⟩ inner body
            checked m (answerSignals bound (after m sh (leave bound done)).notice)
        | .redirected line body redirections =>
            match redirect bound { sh with line := line } redirections with
            | .error failed => checked m { failed with channels := sh.channels }
            | .ok inner => { perform bound m.inner inner body with channels := sh.channels }

def simple : Nat → Manner → Shell → List Assignment → List (List Piece) → List Redirection → Shell
  | 0, _, sh, _, _, _ => sh.exhausted
  | bound + 1, m, sh, assignments, words, redirections =>
      let sh := { sh.spend ownCost with inserted := 0 }
      let (fields, sh) := expandAll bound sh none words
      if !sh.isRunning then sh
      else
        let isPlain := fields.head?.all isSpecial
        let isLasting := fields.head? == some "exec".toList && fields.length ≤ 1
        match redirect bound sh redirections with
        | .error failed =>
            let isFatal := fields.head?.any isSpecial || failed.flow != .running
            { failed with
              channels := sh.channels
              flow := if isFatal && failed.flow == .running then .failing else failed.flow }
        | .ok inner =>
            let isExported := !isPlain || fields.head? == some "exec".toList
            let set := assign bound inner isExported assignments
            let shown := if set.flow == .running && set.has 'x' then
              traced bound set assignments fields else set
            if shown.flow != .running then { shown with channels := sh.channels }
            else if fields.isEmpty then
              { shown with channels := sh.channels }.withStatus shown.inserted
            else
              let done := command bound m shown false fields
              let kept := if isPlain then done else
                (assignments.map nameOf).foldl
                  (fun done name => done.putVariable name (inner.binding? name)) done
              if isLasting && kept.status = 0 then kept else { kept with channels := sh.channels }

def traced : Nat → Shell → List Assignment → List (List Char) → Shell
  | 0, sh, _, _ => sh.exhausted
  | _ + 1, sh, assignments, fields =>
      let set := assignments.map fun entry =>
        nameOf entry ++ '=' :: ((sh.valueOf? (nameOf entry)).getD [])
      let front := (sh.valueOf? "PS4".toList).getD []
      sh.complain (front ++ [' '].intercalate (set ++ fields))

/-- Performs the parts of a pipe from a time on; the first of them reads a stream, if there is
one. -/
def pipe : Nat → Manner → Shell → Nat → Option Nat → List Script → Shell
  | 0, _, sh, _, _, _ => sh.exhausted
  | _ + 1, _, sh, _, _, [] => sh
  | bound + 1, m, sh, start, input?, part :: rest =>
      let machine := sh.machine
      let child := { sh with machine := { machine with clock := start, written := [] } }
      let child := (child.spend startCost).fork.fresh
      let child := match input? with
        | some stream => child.withChannel 0 (some (.input stream))
        | none => child
      match rest with
      | [] =>
          let done := finished bound m.isTested child part
          let written := done.machine.written ++ machine.written
          let after := { sh with machine := { done.machine with written := written } }
          (after.mourn done).withStatus done.exitStatus
      | _ =>
          let (stream, child) := child.writingTo
          let done := finished bound m.isTested child part
          let (texts, own) := takeWritten done.machine stream
          let finish := max own.clock (own.freeTime stream)
          let (source, next) := { own with written := machine.written }.withInput
            ⟨texts, finish, false⟩
          let after := pipe bound m { sh with machine := next } start (some source) rest
          let last := after.machine.clock
          let stop := match texts.find? fun (time, _) => decide (last < time) with
            | some (time, _) => min time own.clock
            | none => own.clock
          let kept := own.written.filter fun chunk => decide (chunk.time ≤ stop)
          let machine := after.machine
          let joined := { machine with clock := max last stop, written := kept ++ machine.written }
          let whole := { after with machine := joined.catchUp }
          if stop < own.clock then whole else (whole.mourn done).withStatus after.status

def background : Nat → Shell → Script → Shell
  | 0, sh, _ => sh.exhausted
  | bound + 1, sh, body =>
      let machine := sh.machine
      let forked := { sh with machine := { machine with recorded := [] } }.fork.fresh
      let child := { forked with job := forked.process }.withChannel 0 (some .null)
      let done := finished bound false (child.spend startCost) body
      let signal? :=
        match done.flow with
        | .dying signal => some signal
        | _ => none
      let job : Job :=
        ⟨child.process, sh.process, done.exitStatus, signal?, done.machine.clock,
          child.streamsHeld body⟩
      { sh with
        machine := machine.afterJob done.machine job
        lastJob? := some child.process }.withStatus 0

def loop : Nat → Manner → Shell → Bool → Script → Script → Nat → Shell
  | 0, _, sh, _, _, _, _ => sh.exhausted
  | bound + 1, m, sh, wanted, test, body, last =>
      let tested := perform bound .tested { sh.spend ownCost with loops := sh.loops + 1 } test
      match turn tested with
      | .over tested => { tested with loops := sh.loops }
      | .next tested =>
          if (tested.status == 0) != wanted then { tested with loops := sh.loops }.withStatus last
          else
            let after := perform bound m tested body
            match turn after with
            | .over after => { after with loops := sh.loops }
            | .next after => loop bound m { after with loops := sh.loops } wanted test body
                after.status

def each : Nat → Manner → Shell → List Char → List (List Char) → Script → Shell
  | 0, _, sh, _, _, _ => sh.exhausted
  | _ + 1, _, sh, _, [], _ => sh
  | bound + 1, m, sh, name, field :: rest, body =>
      let set := sh.assignVariable name field
      if set.flow != .running then set
      else
        let after := perform bound m { set with loops := sh.loops + 1 } body
        match turn after with
        | .over after => { after with loops := sh.loops }
        | .next after => each bound m { after with loops := sh.loops } name rest body

def choose : Nat → Manner → Shell → List Char → List Case → Shell
  | 0, _, sh, _, _ => sh.exhausted
  | _ + 1, _, sh, _, [] => sh
  | bound + 1, m, sh, text, .mk patterns body :: rest =>
      let (fitting, sh) := fitsAny bound sh text patterns
      if !sh.isRunning then sh
      else if fitting then perform bound m sh body
      else choose bound m sh text rest

def fitsAny : Nat → Shell → List Char → List (List Piece) → Bool × Shell
  | 0, sh, _, _ => (false, sh.exhausted)
  | _ + 1, sh, _, [] => (false, sh)
  | bound + 1, sh, text, word :: rest =>
      let (marks, sh) := expand bound sh word
      if Pattern.fits (Mark.pattern (sh.expandTilde false marks)) text then (true, sh)
      else if sh.flow != .running then (false, sh)
      else fitsAny bound sh text rest

/-- Performs a command that is given by its fields; scripts with names do not count when it is
`isBare`. -/
def command : Nat → Manner → Shell → Bool → List (List Char) → Shell
  | 0, _, sh, _, _ => sh.exhausted
  | _ + 1, _, sh, _, [] => sh
  | bound + 1, m, sh, isBare, name :: arguments =>
      if !sh.isRunning then sh
      else
        match if isBare then none else sh.function? name with
        | some body => call bound m sh body arguments
        | none =>
            if name = "command".toList then byName bound m sh arguments
            else if isOwn name then
              let outer := sh.context?
              let done := own bound m { sh with context? := some name } (String.ofList name)
                arguments
              let isKept := done.flow == .failing && (isBare || !isSpecial name)
              { done with
                context? := outer
                flow := if isKept then .running else done.flow }
            else external bound m sh name arguments

/-- Performs a command whose name stands for no script, or tells what names stand for. -/
def byName : Nat → Manner → Shell → List (List Char) → Shell
  | 0, _, sh, _ => sh.exhausted
  | bound + 1, m, sh, arguments =>
      match leadingLetters "pvV".toList arguments with
      | .error c =>
          let refused := { sh with context? := some "command".toList }.fail
            ("Illegal option -".toList ++ [c])
          { refused with context? := sh.context?, flow := .running }
      | .ok (letters, words) =>
          match words with
          | [] => sh.withStatus 0
          | name :: _ =>
              if letters.contains 'v' then (sh.withStatus 0).locate name
              else if letters.contains 'V' then (sh.withStatus 0).describe name
              else command bound m sh true words

def call : Nat → Manner → Shell → Script → List (List Char) → Shell
  | 0, _, sh, _, _ => sh.exhausted
  | bound + 1, m, sh, body, arguments =>
      let inner := { sh with
        arguments := arguments
        loops := 0
        saved := [] :: sh.saved
        optionIndex := 1
        optionPlace := 0 }
      let done := (perform bound m.inner inner body).restoreVariables
      { done with
        arguments := sh.arguments
        loops := sh.loops
        optionIndex := sh.optionIndex
        optionPlace := sh.optionPlace
        flow := if done.flow == .returning then .running else done.flow }

def own : Nat → Manner → Shell → String → List (List Char) → Shell
  | 0, _, sh, _, _ => sh.exhausted
  | bound + 1, m, sh, name, arguments =>
      match name with
      | "eval" => runText bound m.inner sh ([' '].intercalate arguments)
      | "." => readScript bound m sh arguments
      | "exec" =>
          let words := if arguments.head? == some ['-', '-'] then arguments.drop 1 else arguments
          match words with
          | [] => sh.withStatus 0
          | program :: rest =>
              let done := external bound ⟨m.isTested, true⟩ { sh with traps := [] } program rest
              { done with flow := if done.flow == .running then .exiting else done.flow }
      | _ =>
          match own? name with
          | some run => run sh arguments
          | none => sh.withStatus 0

def readScript : Nat → Manner → Shell → List (List Char) → Shell
  | 0, _, sh, _ => sh.exhausted
  | bound + 1, m, sh, arguments =>
      match if arguments.head? == some ['-', '-'] then arguments.drop 1 else arguments with
      | [] => sh.withStatus 0
      | name :: _ =>
          match sh.scriptAt? name with
          | some (path, content) =>
              let inner := { sh with context? := some path }
              let done := runText bound m.inner inner (Text.ofOctets content)
              { done with flow := if done.flow == .returning then .running else done.flow }
          | none =>
              if name.contains '/' then
                sh.fail ("cannot open ".toList ++ name ++ ": No such file".toList)
              else sh.fail (name ++ ": not found".toList)

def answerSignals : Nat → Shell → Shell
  | 0, sh => sh.exhausted
  | bound + 1, sh =>
      match sh.pending with
      | [] => sh
      | signal :: rest =>
          if !sh.isRunning then sh
          else
            let inner := { sh with
              pending := rest
              leaving? := some (sh.leaving?.getD sh.status) }
            let done := runText bound .plain inner ((sh.trap? signal).getD [])
            let done := { done with leaving? := sh.leaving? }
            if done.flow == .running then answerSignals bound (done.withStatus sh.status)
            else done

def leave : Nat → Shell → Shell
  | 0, sh => sh.exhausted
  | bound + 1, sh =>
      match sh.flow, sh.trap? 0 with
      | .dying _, _ => sh
      | _, none => sh
      | _, some action =>
          if sh.machine.isOver then sh
          else
            let others := sh.traps.filter fun entry => entry.1 ≠ 0
            let done := runText bound .plain
              { sh with
                flow := .running, traps := others, pending := [], context? := none
                leaving? := some sh.status } action
            match done.flow with
            | .dying _ => done
            | .exiting => done
            | .failing => done
            | _ => done.withStatus sh.status

def external : Nat → Manner → Shell → List Char → List (List Char) → Shell
  | 0, _, sh, _, _ => sh.exhausted
  | bound + 1, m, sh, name, arguments =>
      match sh.search name with
      | .nowhere => (sh.spend startCost).fault (name ++ ": not found".toList) 127
      | .denied => (sh.spend startCost).fault (name ++ ": Permission denied".toList) 126
      | .unfit => sh.fault (name ++ ": Permission denied".toList) 127
      | .program path place =>
          let known := if name.contains '/' || m.isLast then sh.known else
            name :: sh.known.filter (· != name)
          let sh := { sh.spend startCost with known := known }
          if !sh.isRunning then sh
          else
            let forked := if m.isLast && !sh.hasTraps then sh else sh.fork
            let child := forked.forProgram name arguments
            (after m sh (start bound child place path)).notice

/-- Runs the program at a place in a process made for it; `path` is where it was found. -/
def start : Nat → Shell → Place → List Char → Shell
  | 0, sh, _, _ => sh.exhausted
  | bound + 1, sh, place, path =>
      match sh.machine.files.get? place with
      | some (.program name) =>
          match tool? name with
          | some run => run sh sh.arguments
          | none => startOther bound sh name
      | some (.file content _) =>
          let text := Text.ofOctets content
          match interpreter? text with
          | none => leave bound (runText bound .plain { sh.asShell with name := path } text)
          | some (interpreter, options) =>
              let found :=
                if interpreter.contains '/' then interpreter else '.' :: '/' :: interpreter
              match sh.foundAt found with
              | .program _ found =>
                  let inner := { sh with
                    name := interpreter
                    arguments := options ++ path :: sh.arguments }
                  start bound inner found interpreter
              | .denied => sh.fault (path ++ ": Permission denied".toList) 126
              | .unfit => sh.fault (path ++ ": not found".toList) 127
              | .nowhere => sh.fault (path ++ ": not found".toList) 127
      | _ => sh.withStatus 126

def startOther : Nat → Shell → String → Shell
  | 0, sh, _ => sh.exhausted
  | bound + 1, sh, name =>
      match name with
      | "sh" => shell bound sh.asShell
      | "dash" => shell bound sh.asShell
      | "bash" => shell bound sh.asShell
      | "timeout" =>
          match timeoutRequest sh.arguments with
          | .ok request => limited bound sh request
          | .error text? => sh.refused text? 125
      | "xargs" => batches bound sh
      | "find" => finding bound sh
      | _ =>
          match preparation name sh with
          | (prepared, none) => prepared
          | (prepared, some words) => become bound prepared (launchFault name) words

/-- Goes on as another program; when it cannot be started, something is told. -/
def become : Nat → Shell → (List Char → List Char) → List (List Char) → Shell
  | 0, sh, _, _ => sh.exhausted
  | _ + 1, sh, _, [] => sh
  | bound + 1, sh, fault, name :: arguments =>
      match sh.search name with
      | .program path place => start bound (sh.forProgram name arguments) place path
      | .denied => (sh.say (fault name ++ ": Permission denied".toList)).withStatus 126
      | .unfit => (sh.say (fault name ++ ": No such file or directory".toList)).withStatus 127
      | .nowhere => (sh.say (fault name ++ ": No such file or directory".toList)).withStatus 127

def limited : Nat → Shell → TimeoutRequest → Shell
  | 0, sh, _ => sh.exhausted
  | bound + 1, sh, request =>
      let machine := sh.machine
      let last := machine.clock + request.micros
      if request.micros = 0 ∨ machine.deadline ≤ last then
        let done := become bound sh.fork (launchFault "timeout") request.words
        { sh with machine := done.machine, status := done.exitStatus }
      else
        let child := { sh with machine := { machine with deadline := last } }.fork
        let done := become bound child (launchFault "timeout") request.words
        let own := done.machine
        if own.isOver then
          let written := own.written.filter fun chunk => chunk.time ≤ last
          let whole := { own with deadline := machine.deadline, clock := last, written := written }
          let after := { sh with machine := whole }
          if request.signal = 9 then { after with flow := .dying 9 }
          else after.withStatus (if request.keepsStatus then Signal.status request.signal else 124)
        else
          let whole := { own with deadline := machine.deadline }
          { sh with machine := whole, status := done.exitStatus }

def batches : Nat → Shell → Shell
  | 0, sh => sh.exhausted
  | bound + 1, sh =>
      match (Given.ofLeading Batch.kinds sh.arguments).bind Batch.request with
      | .error text => sh.misused text 1
      | .ok request =>
          let (text?, sh) := match request.path? with
            | some path => sh.sourceOrSay path
            | none =>
                let (text, rest) := sh.readAll 0
                (some text, rest)
          let (commands, fault?) := request.commands (text?.getD [])
          let sh := { sh with status := 0 }.withChannel 0 (some .null)
          let told := match fault? with
            | some fault => sh.say fault.text
            | none => sh
          let done := batch bound told request.isLoud commands
          if fault?.isSome && done.status = 0 then done.withStatus 1 else done

/-- Runs commands one after another, as long as nothing puts an end to it. -/
def batch : Nat → Shell → Bool → List (List (List Char)) → Shell
  | 0, sh, _, _ => sh.exhausted
  | _ + 1, sh, _, [] => sh
  | bound + 1, sh, isLoud, words :: rest =>
      let sh := if isLoud then sh.complain ([' '].intercalate words) else sh
      let name := words.headD []
      match sh.search name with
      | .denied => (sh.say (name ++ ": Permission denied".toList)).withStatus 126
      | .unfit => (sh.say (name ++ ": No such file or directory".toList)).withStatus 127
      | .nowhere => (sh.say (name ++ ": No such file or directory".toList)).withStatus 127
      | .program _ _ =>
          let done := become bound (sh.spend startCost).fork id words
          let after := { sh with machine := done.machine }.notice
          if !after.isRunning then after
          else
            match done.flow with
            | .dying signal =>
                (after.say (name ++ ": terminated by signal ".toList ++
                  Text.decimal signal)).withStatus 125
            | _ =>
                if done.exitStatus = 255 then
                  (after.say (name ++ ": exited with status 255; aborting".toList)).withStatus 124
                else
                  let next := if done.exitStatus = 0 then after else after.withStatus 123
                  batch bound next isLoud rest

/-- Runs a command for files, and says whether it has succeeded. -/
def runFor : Nat → Shell → List (List Char) → Bool × Shell
  | 0, sh, _ => (false, sh.exhausted)
  | bound + 1, sh, words =>
      let done := become bound { sh.spend startCost with status := 0 }.fork inQuotes words
      ((done.exitStatus == 0 && done.flow != .failing),
        { sh with machine := done.machine }.notice)

def runForMany : Nat → Shell → List (List (List Char)) → Shell
  | 0, sh, _ => sh.exhausted
  | _ + 1, sh, [] => sh
  | bound + 1, sh, words :: rest =>
      let (succeeds, after) := runFor bound sh words
      runForMany bound (if succeeds then after else after.withStatus 1) rest

def finding : Nat → Shell → Shell
  | 0, sh => sh.exhausted
  | bound + 1, sh =>
      match Find.request sh.arguments with
      | .error fault => (sh.say fault.text).withStatus 1
      | .ok request =>
          let done := findFrom bound ⟨sh.withStatus 0, false, false, []⟩ request request.paths
          runForMany bound done.shell (done.commands request.test)

def findFrom : Nat → Find.Progress → Find.Request → List (List Char) → Find.Progress
  | 0, p, _, _ => { p with shell := p.shell.exhausted }
  | _ + 1, p, _, [] => p
  | bound + 1, p, request, path :: rest =>
      if p.isOver then p
      else
        match p.shell.resolve? path with
        | none =>
            let told := p.shell.sayFailed (inQuotes path ++ ": ".toList ++
              (p.shell.problem path).toList)
            findFrom bound { p with shell := told } request rest
        | some place => findFrom bound (visit bound p request ⟨path, place, 0, path⟩) request rest

def visit : Nat → Find.Progress → Find.Request → Find.Visit → Find.Progress
  | 0, p, _, _ => { p with shell := p.shell.exhausted }
  | bound + 1, p, request, v =>
      let options := request.options
      let isFolder := p.shell.machine.files.isFolder v.place
      let isWithin := options.most?.all fun most => v.depth < most
      let names := if isFolder && isWithin then p.shell.sortedNames v.place else []
      if p.isOver || !p.shell.isRunning then p
      else if options.isDeep then
        let below := visitAll bound p request v names
        if v.depth < options.least || below.isOver then below
        else (attempt bound below v request.test).2
      else
        let tried :=
          if v.depth < options.least then p
          else (attempt bound { p with isPruned := false } v request.test).2
        if tried.isPruned then { tried with isPruned := false }
        else visitAll bound tried request v names

def visitAll : Nat → Find.Progress → Find.Request → Find.Visit → List (List Char) → Find.Progress
  | 0, p, _, _, _ => { p with shell := p.shell.exhausted }
  | _ + 1, p, _, _, [] => p
  | bound + 1, p, request, v, name :: rest =>
      let inner : Find.Visit :=
        ⟨inFolder v.path name, v.place ++ [Text.octets name], v.depth + 1, v.origin⟩
      visitAll bound (visit bound p request inner) request v rest

def attempt : Nat → Find.Progress → Find.Visit → Find.Test → Bool × Find.Progress
  | 0, p, _, _ => (false, { p with shell := p.shell.exhausted })
  | bound + 1, p, v, test =>
      if p.isOver then (false, p)
      else
        let sh := p.shell
        match test with
        | .negated inner =>
            let (holds, p) := attempt bound p v inner
            (!holds, p)
        | .both first second =>
            let (holds, p) := attempt bound p v first
            if holds then attempt bound p v second else (false, p)
        | .either first second =>
            let (holds, p) := attempt bound p v first
            if holds then (true, p) else attempt bound p v second
        | .list first second =>
            let (_, p) := attempt bound p v first
            attempt bound p v second
        | .print finish => (true, { p with shell := sh.output (v.path ++ [finish]) })
        | .printf format =>
            (true, { p with shell := sh.output (Find.formatted sh.machine.files v format) })
        | .prune => (true, { p with isPruned := true })
        | .quit => (true, { p with isOver := true })
        | .delete =>
            let files := sh.machine.files
            if v.path = ['.'] then (true, p)
            else if files.isFolder v.place && !(files.namesIn v.place).isEmpty then
              (false, { p with
                shell := sh.sayFailed ("cannot delete ".toList ++ inQuotes v.path ++
                  ": Directory not empty".toList) })
            else (true, { p with shell := sh.withFiles (files.remove v.place) })
        | .run words =>
            let mark := "\x7b\x7d".toList
            let (succeeds, after) := runFor bound sh (words.map fun word =>
              Batch.replaced (word.length + 1) mark v.path word)
            (succeeds, { p with shell := after })
        | .runMany number _ => (true, { p with collected := (number, v.path) :: p.collected })
        | _ => (test.holds sh.machine.files v, p)

def shell : Nat → Shell → Shell
  | 0, sh => sh.exhausted
  | bound + 1, sh =>
      match shellRequest (sh.arguments.length + 1) sh false sh.arguments with
      | (refused, none) => refused
      | (sh, some request) =>
          match request.isText, request.operands with
          | true, [] => sh.fail "-c requires an argument".toList
          | true, text :: others =>
              let inner := { sh with name := others.headD sh.name, arguments := others.drop 1 }
              leave bound (runText bound ⟨false, true⟩ inner text)
          | false, path :: rest =>
              if sh.has 's' then
                let (text, after) := { sh with arguments := path :: rest }.readAll 0
                leave bound (runText bound .plain after text)
              else
                match (sh.resolve? path).map sh.machine.files.contentAt? with
                | some (some content) =>
                    let inner := { sh with name := path, arguments := rest }
                    leave bound (runText bound .plain inner (Text.ofOctets content))
                | some none => sh
                | none => sh.fail ("cannot open ".toList ++ path ++ ": No such file".toList)
          | false, [] =>
              let (text, rest) := sh.readAll 0
              leave bound (runText bound .plain rest text)

/-- Runs the text of a script; one without any commands succeeds. -/
def runText : Nat → Manner → Shell → List Char → Shell
  | 0, _, sh, _ => sh.exhausted
  | bound + 1, m, sh, text => runLines bound m sh false (Source.ofText text)

def runLines : Nat → Manner → Shell → Bool → Source → Shell
  | 0, _, sh, _, _ => sh.exhausted
  | bound + 1, m, sh, hasRun, text =>
      let text := { text with
        aliases := sh.aliases
        documents := sh.documents
        nextDocument := sh.nextDocument }
      match text.nextLine with
      | .error (line, fault) =>
          { sh with line := line }.fail (("Syntax error: " ++ fault.message).toList)
      | .ok (.finish, _) => if hasRun then sh else sh.withStatus 0
      | .ok (.commands script? isLast, rest) =>
          let sh := { sh with documents := rest.documents, nextDocument := rest.nextDocument }
          match script? with
          | none => runLines bound m sh hasRun rest
          | some script =>
              let done := perform bound ⟨m.isTested, m.isLast && isLast⟩ sh script
              if !done.isRunning || isLast then done else runLines bound m done true rest

end

end Shell

end AsmDiagnostics.Machine
