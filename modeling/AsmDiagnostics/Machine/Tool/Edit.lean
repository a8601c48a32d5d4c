import AsmDiagnostics.Machine.Tool.Copying
import AsmDiagnostics.Machine.Tool.Edit.Script

/-!
# Editing streams

The program that carries out an editing script on every line of its input. A cycle reads a line into
the pattern space, carries the commands out, prints what the space then holds, and then what was put
behind it.
-/

namespace AsmDiagnostics.Machine.Edit

inductive RangeState where
  | waiting
  /-- The range goes on; it may end at a line that is known. -/
  | active (last? : Option Nat)
  | closed
  deriving DecidableEq, Repr

inductive Addition where
  | text (s : List Char)
  | file (path : List Char)

structure State where
  shell : Shell
  space : List Char
  hold : List Char
  lineNumber : Nat
  /-- The line in the pattern space has its newline. -/
  isWhole : Bool
  /-- What is in the hold space has its newline. -/
  holdIsWhole : Bool
  /-- What was printed last has no newline at its end. -/
  lacksNewline : Bool
  /-- The lines to come, each with the name of its file. -/
  input : List (List Char × List Char)
  /-- The name of the file at hand. -/
  name : List Char
  /-- Something was replaced since the last line was read. -/
  hasReplaced : Bool
  ranges : List (Nat × RangeState)
  /-- What is printed at the end of the cycle, the latest first. -/
  additions : List Addition
  /-- What is printed, the latest first. -/
  printed : List (List Char)
  lastRegex? : Option Regex
  /-- How many lines of other files were read. -/
  linesRead : List (List Char × Nat)
  quit? : Option Nat
  fault? : Option (List Char)

structure Manner where
  isQuiet : Bool
  /-- What ends a line. -/
  newline : Char
  width : Nat

namespace State

def emit (m : Manner) (st : State) (text : List Char) : State :=
  let text := if st.lacksNewline then m.newline :: text else text
  { st with printed := text :: st.printed, lacksNewline := false }

/-- Prints the pattern space, with a newline if its line has one. -/
def emitSpace (m : Manner) (st : State) : State :=
  let done := st.emit m (st.space ++ (if st.isWhole then [m.newline] else []))
  { done with lacksNewline := !st.isWhole }

def emitLine (m : Manner) (st : State) (text : List Char) : State := st.emit m (text ++ [m.newline])

def writeTo (m : Manner) (st : State) (path text : List Char) : State :=
  if path = "/dev/stdout".toList then st.emit m text
  else
    match st.shell.writeFile path text true with
    | .ok done => { st with shell := done }
    | .error _ => st

def emitAdditions (m : Manner) (st : State) : State :=
  let done := st.additions.reverse.foldl
    (fun st addition =>
      match addition with
      | .text text => st.emit m text
      | .file path =>
          match st.shell.source path with
          | (.ok text, rest) => { st with shell := rest }.emit m text
          | _ => st)
    st
  { done with additions := [] }

def readNext? (m : Manner) (st : State) : Option (List Char × State) :=
  match st.input with
  | [] => none
  | (name, line) :: rest =>
      let isWhole := line.getLast? == some m.newline
      some (if isWhole then line.dropLast else line,
        { st with
          input := rest
          name := name
          isWhole := isWhole
          lineNumber := st.lineNumber + 1 })

def isLast (st : State) : Bool := st.input.isEmpty

def subject (st : State) (matcher : Matcher) : Regex.Subject :=
  ⟨st.space.toArray, matcher.ignoresCase, matcher.hasLines⟩

def regexOf (st : State) (matcher : Matcher) : Option Regex × State :=
  match matcher.regex? with
  | some regex => (some regex, { st with lastRegex? := some regex })
  | none =>
      match st.lastRegex? with
      | some regex => (some regex, st)
      | none => (none, { st with fault? := some Fault.noRegex.text })

def isAt (st : State) : Address → Bool × State
  | .line n => (st.lineNumber == n, st)
  | .stride first step =>
      (decide (first ≤ st.lineNumber) && (st.lineNumber - first) % step == 0, st)
  | .last => (st.isLast, st)
  | .fitting matcher =>
      match st.regexOf matcher with
      | (some regex, st) => ((regex.search? (st.subject matcher) 0).isSome, st)
      | (none, st) => (false, st)

def rangeOf (st : State) (place : Nat) (c : Command) : RangeState :=
  ((st.ranges.find? fun entry => entry.1 = place).map Prod.snd).getD
    (if c.fromStart then .active none else .waiting)

def withRange (st : State) (place : Nat) (range : RangeState) : State :=
  { st with ranges := (place, range) :: st.ranges.filter fun entry => entry.1 ≠ place }

def continues (st : State) (place : Nat) (finish : RangeEnd) (last? : Option Nat) : Bool × State :=
  match last?, finish with
  | some last, _ =>
      let st := if last ≤ st.lineNumber then st.withRange place .closed else st
      (decide (st.lineNumber ≤ last), st)
  | none, .at address =>
      let (ends, st) := st.isAt address
      (true, if ends then st.withRange place .closed else st)
  | none, _ => (true, st)

def begins (st : State) (place : Nat) (finish : RangeEnd) : State :=
  let n := st.lineNumber
  let last? : Option Nat :=
    match finish with
    | .at (.line m) => some m
    | .further count => some (n + count)
    | .multiple m => some (if m = 0 then n else (n / m + 1) * m)
    | .at _ => none
  match last? with
  | some last =>
      st.withRange place (if last ≤ n then .closed else .active (some last))
  | none => st.withRange place (.active none)

def selects (st : State) (place : Nat) (c : Command) : Bool × State :=
  let (isSelected, st) :=
    match c.first?, c.finish? with
    | none, _ => (true, st)
    | some first, none => st.isAt first
    | some first, some finish =>
        match st.rangeOf place c with
        | .active last? => st.continues place finish last?
        | _ =>
            let (starts, st) := st.isAt first
            if starts then (true, st.begins place finish) else (false, st)
  (isSelected != c.isNegated, st)

end State

def recased (once? mode? : Option Capitals) (text : List Char) : List Char :=
  let all := match mode? with
    | some .upper => text.map Char.toUpper
    | some .lower => text.map Char.toLower
    | _ => text
  match once?, all with
  | some .nextUpper, c :: rest => c.toUpper :: rest
  | some .nextLower, c :: rest => c.toLower :: rest
  | _, _ => all

def replaced (parts : List Replacement) (groupText : Nat → List Char) : List Char :=
  (parts.foldl
    (fun (state : Option Capitals × Option Capitals × List (List Char)) part =>
      let (once?, mode?, done) := state
      let add := fun text : List Char =>
        (if text.isEmpty then once? else none, mode?, recased once? mode? text :: done)
      match part with
      | .text text => add text
      | .group n => add (groupText n)
      | .capitals .unchanged => (none, none, done)
      | .capitals .nextUpper => (some .nextUpper, mode?, done)
      | .capitals .nextLower => (some .nextLower, mode?, done)
      | .capitals mode => (once?, some mode, done))
    (none, none, [])).2.2.reverse.flatten

/-- The pattern space with texts replaced from a position on; `count` is the number of those before
that fit. -/
def substituted (s : Substitution) (regex : Regex) (subject : Regex.Subject) :
    Nat → Nat → Nat → Bool → List Char × Bool
  | 0, position, _, _ => (subject.slice position subject.text.size, false)
  | bound + 1, position, count, afterText =>
      match regex.search? subject position with
      | none => (subject.slice position subject.text.size, false)
      | some found =>
          let skipped := subject.slice position found.first
          if found.first = found.last && afterText && found.first = position then
            match subject.char? position with
            | none => ([], false)
            | some c =>
                let (rest, done) := substituted s regex subject bound (position + 1) count false
                (c :: rest, done)
          else
            let count := count + 1
            let isReplaced := decide (s.first ≤ count)
            let text := if isReplaced then replaced s.replacement (found.text subject)
              else subject.slice found.first found.last
            if isReplaced && !s.isGlobal then
              (skipped ++ text ++ subject.slice found.last subject.text.size, true)
            else if found.first = found.last then
              match subject.char? found.last with
              | none => (skipped ++ text, isReplaced)
              | some c =>
                  let (rest, done) :=
                    substituted s regex subject bound (found.last + 1) count false
                  (skipped ++ text ++ c :: rest, isReplaced || done)
            else
              let (rest, done) := substituted s regex subject bound found.last count true
              (skipped ++ text ++ rest, isReplaced || done)

def spelledCharacter (c : Char) : List Char :=
  match c with
  | '\\' => ['\\', '\\']
  | '\x07' => ['\\', 'a']
  | '\x08' => ['\\', 'b']
  | '\x0c' => ['\\', 'f']
  | '\n' => ['\\', 'n']
  | '\r' => ['\\', 'r']
  | '\t' => ['\\', 't']
  | '\x0b' => ['\\', 'v']
  | _ =>
      if 32 ≤ c.toNat ∧ c.toNat < 127 then [c]
      else
        let digits := Nat.toDigits 8 c.toNat
        '\\' :: List.replicate (3 - digits.length) '0' ++ digits

def spelledLine (width : Nat) (text : List Char) : List Char :=
  let (_, done) := text.foldl
    (fun (state : Nat × List (List Char)) c =>
      let (column, done) := state
      let shown := spelledCharacter c
      if 1 < width ∧ width - 1 < column + shown.length then
        (shown.length, shown :: ['\\', '\n'] :: done)
      else (column + shown.length, shown :: done))
    (0, [])
  done.reverse.flatten ++ ['$']

inductive Going where
  | to (place : Nat)
  /-- The end of the script is reached. -/
  | finish
  /-- A new cycle begins without anything printed. -/
  | nextCycle
  /-- A new cycle begins with what is in the pattern space. -/
  | again
  | stop

def Program.goTo (p : Program) (label : List Char) : Going :=
  if label.isEmpty then .finish
  else
    match p.labels.find? fun entry => entry.1 == label with
    | some (_, place) => .to place
    | none => .finish

def act (m : Manner) (p : Program) (place : Nat) (c : Command) (st : State) : State × Going :=
  let on := Going.to (place + 1)
  match c.action with
  | .block _ => (st, on)
  | .nothing => (st, on)
  | .number => (st.emit m (Text.decimal st.lineNumber ++ ['\n']), on)
  | .append text => ({ st with additions := .text text :: st.additions }, on)
  | .insert text => (st.emit m text, on)
  | .change text =>
      let isOver := c.isNegated || c.finish?.isNone ||
        (match st.rangeOf place c with | .active _ => false | _ => true)
      (if isOver then st.emit m text else st, .nextCycle)
  | .branch label => (st, p.goTo label)
  | .branchAfter whenReplaced label =>
      if st.hasReplaced = whenReplaced then ({ st with hasReplaced := false }, p.goTo label)
      else ({ st with hasReplaced := false }, on)
  | .delete => (st, .nextCycle)
  | .deleteLine =>
      match st.space.dropWhile (· != '\n') with
      | [] => (st, .nextCycle)
      | _ :: rest => ({ st with space := rest }, .again)
  | .getHold => ({ st with space := st.hold, isWhole := st.holdIsWhole }, on)
  | .addHold => ({ st with space := st.space ++ '\n' :: st.hold, isWhole := st.holdIsWhole }, on)
  | .putHold => ({ st with hold := st.space, holdIsWhole := st.isWhole }, on)
  | .extendHold => ({ st with hold := st.hold ++ '\n' :: st.space, holdIsWhole := st.isWhole }, on)
  | .exchange =>
      ({ st with
          space := st.hold
          isWhole := st.holdIsWhole
          hold := st.space
          holdIsWhole := st.isWhole }, on)
  | .spell width? => (st.emit m (spelledLine (width?.getD m.width) st.space ++ ['\n']), on)
  | .next =>
      if st.isLast then
        ((if m.isQuiet then st else st.emitSpace m).emitAdditions m, .stop)
      else
        let st := (if m.isQuiet then st else st.emitSpace m).emitAdditions m
        match st.readNext? m with
        | some (line, st) => ({ st with space := line }, on)
        | none => (st, .stop)
  | .join =>
      let st := st.emitAdditions m
      match st.readNext? m with
      | some (line, st) => ({ st with space := st.space ++ m.newline :: line }, on)
      | none => (if m.isQuiet then st else st.emitSpace m, .stop)
  | .print => (st.emitSpace m, on)
  | .printLine => (st.emitLine m (st.space.takeWhile (· != '\n')), on)
  | .quit status prints =>
      let st := if prints then (if m.isQuiet then st else st.emitSpace m).emitAdditions m else st
      ({ st with quit? := some status }, .stop)
  | .readFile path => ({ st with additions := .file path :: st.additions }, on)
  | .readLine path =>
      let count := ((st.linesRead.find? fun entry => entry.1 == path).map Prod.snd).getD 0
      match (st.shell.source path).1 with
      | .ok text =>
          match (bareLinesOf text)[count]? with
          | some line =>
              ({ st with
                  additions := .text (line ++ ['\n']) :: st.additions
                  linesRead := (path, count + 1) ::
                    st.linesRead.filter fun entry => entry.1 != path }, on)
          | none => (st, on)
      | .error _ => (st, on)
  | .write path => (st.writeTo m path (st.space ++ ['\n']), on)
  | .writeLine path => (st.writeTo m path (st.space.takeWhile (· != '\n') ++ ['\n']), on)
  | .substitute s =>
      match st.regexOf s.matcher with
      | (none, st) => (st, .stop)
      | (some regex, st) =>
          let subject := st.subject s.matcher
          let (text, done) := substituted s regex subject (subject.text.size + 2) 0 0 false
          if done then
            let st := { st with space := text, hasReplaced := true }
            let st := if s.prints then st.emitSpace m else st
            (match s.file? with
              | some path => st.writeTo m path (st.space ++ ['\n'])
              | none => st, on)
          else (st, on)
  | .translate pairs =>
      ({ st with
          space := st.space.map fun c =>
            ((pairs.find? fun pair => pair.1 == c).map Prod.snd).getD c }, on)
  | .name => (st.emit m ((if st.name = [] then ['-'] else st.name) ++ ['\n']), on)
  | .clear => ({ st with space := [] }, on)

def run (m : Manner) (p : Program) : Nat → Nat → State → State
  | 0, _, st => { st with shell := st.shell.exhausted }
  | bound + 1, place, st =>
      let begin := fun (st : State) =>
        match st.readNext? m with
        | some (line, st) => run m p bound 0 { st with space := line, hasReplaced := false }
        | none => st
      let finish := fun (st : State) =>
        begin ((if m.isQuiet then st else st.emitSpace m).emitAdditions m)
      match p.commands[place]? with
      | none => finish st
      | some c =>
          let (isSelected, st) := st.selects place c
          if st.fault?.isSome then st
          else if !isSelected then
            match c.action with
            | .block last => run m p bound last st
            | _ => run m p bound (place + 1) st
          else
            let (st, going) := act m p place c st
            match going with
            | .to next => run m p bound next st
            | .finish => finish st
            | .nextCycle => begin (st.emitAdditions m)
            | .again => run m p bound 0 (st.emitAdditions m)
            | .stop => st

def maxSteps : Nat := 3000000

def edit (m : Manner) (p : Program) (st : State) : State :=
  match st.readNext? m with
  | some (line, st) => run m p maxSteps 0 { st with space := line }
  | none => st

def Program.paths (p : Program) : List (List Char) :=
  p.commands.toList.filterMap fun command =>
    match command.action with
    | .write path => some path
    | .writeLine path => some path
    | .substitute s => s.file?
    | _ => none

inductive Refusal where
  | fault (text : List Char)
  /-- A branch goes to a label that is nowhere. -/
  | missingLabel (label : List Char)

/-- A text ends with a backslash that takes away the meaning of what follows. -/
def isOpen (text : List Char) : Bool :=
  (text.reverse.takeWhile (· == '\\')).length % 2 == 1

/-- A text of a script, with how a fault in it is told: by a number of characters, and by a number
of lines. -/
structure Part where
  text : List Char
  place : Nat → Nat → List Char

/-- A part ends in the middle of a command, and the next part goes on with it. -/
def Part.isUnfinished (isExtended : Bool) (part : Part) : Bool :=
  isOpen part.text &&
    match (takeCommands (part.text.length + 1) ⟨[], [], []⟩).run ⟨part.text, isExtended⟩ with
    | .ok _ => true
    | .error _ => false

def joinedParts (isExtended : Bool) (parts : List Part) : List Part :=
  (parts.foldl
    (fun done part =>
      match done with
      | last :: others =>
          if last.isUnfinished isExtended then
            { last with text := last.text ++ '\n' :: part.text } :: others
          else part :: done
      | [] => [part])
    []).reverse

def programOf (isExtended : Bool) (parts : List Part) : Except Refusal Program := do
  let draft ← (joinedParts isExtended parts).foldlM
    (fun draft part =>
      match (takeCommands (part.text.length + 1) draft).run ⟨part.text, isExtended⟩ with
      | .ok (draft, _) => .ok draft
      | .error (left, fault) =>
          let front := part.text.take (part.text.length - left)
          .error (.fault (part.place front.length (front.count '\n' + 1) ++ fault.text)))
    ⟨[], [], []⟩
  match draft.blocks, draft.missingLabel? with
  | _ :: _, _ => .error (.fault ("-e expression #1, char 0: ".toList ++ Fault.unmatched.text))
  | [], some label => .error (.missingLabel label)
  | [], none => .ok ⟨draft.commands.toArray, draft.labels⟩

end AsmDiagnostics.Machine.Edit

namespace AsmDiagnostics.Machine.Shell

open Edit in
def sed : Tool := fun sh arguments =>
  let kinds := OptionKind.flags "nErsuzb" ++ OptionKind.values "efl" ++
    [⟨'i', "in-place", .sometimes⟩, ⟨'n', "quiet", .never⟩, ⟨'n', "silent", .never⟩,
      ⟨'e', "expression", .always⟩, ⟨'f', "file", .always⟩, ⟨'E', "regexp-extended", .never⟩,
      ⟨'s', "separate", .never⟩, ⟨'z', "null-data", .never⟩, ⟨'u', "unbuffered", .never⟩,
      ⟨'l', "line-length", .always⟩, ⟨'p', "posix", .never⟩]
  match Given.ofArguments kinds arguments with
  | .error text => (sh.say text).withStatus 1
  | .ok g =>
      let sh := sh.withStatus 0
      let isStated := g.has 'e' || g.has 'f'
      let stated := g.options.filter fun option => option.1 == 'e' || option.1 == 'f'
      let stated := if isStated then stated else (g.operands.take 1).map fun text => ('e', some text)
      let operands := if isStated then g.operands else g.operands.drop 1
      if stated.isEmpty then
        (sh.complain
          "Usage: sed [OPTION]... \x7bscript-only-if-no-other-script\x7d [input-file]...".toList).withStatus 1
      else
        let parts : Except Refusal (List Part) :=
          stated.zipIdx.mapM fun ((letter, argument?), i) =>
            let argument := argument?.getD []
            let number := ((stated.take (i + 1)).filter fun option => option.1 == 'e').length
            if letter = 'e' then
              .ok ⟨argument, fun characters _ =>
                "-e expression #".toList ++ Text.decimal number ++ ", char ".toList ++
                  Text.decimal characters ++ ": ".toList⟩
            else
              match (sh.source argument).1 with
              | .ok text =>
                  .ok ⟨text, fun _ line =>
                    "file ".toList ++ argument ++ " line ".toList ++ Text.decimal line ++
                      ": ".toList⟩
              | .error reason =>
                  .error (.fault
                    ("couldn't open file ".toList ++ argument ++ ": ".toList ++ reason.toList))
        match parts.bind (programOf (g.has 'E' || g.has 'r')) with
        | .error (.fault text) => sh.sayFailed text
        | .error (.missingLabel label) =>
            (sh.say ("can't find label for jump to \x60".toList ++ label ++ ['\''])).withStatus 4
        | .ok program =>
            let isQuiet := g.has 'n' || stated.head?.any fun option =>
              let text := option.2.getD []
              text == ['#', 'n'] || ['#', 'n', '\n'].isPrefixOf text
            let manner : Manner :=
              ⟨isQuiet, if g.has 'z' then '\x00' else '\n',
                ((g.argument? 'l').bind count?).getD 70⟩
            let sh := program.paths.eraseDups.foldl
              (fun sh path =>
                match sh.writeFile path [] false with
                | .ok done => done
                | .error _ => sh)
              sh
            if g.has 'i' && operands.isEmpty then (sh.say "no input files".toList).withStatus 4
            else run sh g manner program (orInput operands)
where
  /-- The lines of a text. -/
  linesBy (newline : Char) (text : List Char) : List (List Char) :=
    if newline = '\n' then linesOf text
    else
      let parts := splitAll (· == newline) text
      (parts.dropLast.map (· ++ [newline])) ++ (parts.getLast?.toList.filter fun part => !part.isEmpty)
  /-- Edits files, each on its own or all as one. -/
  run (sh : Shell) (g : Given) (m : Manner) (program : Program) (paths : List (List Char)) : Shell :=
    let isInPlace := g.has 'i'
    let isSeparate := isInPlace || g.has 's'
    let start : State :=
      { shell := sh
        space := []
        hold := []
        lineNumber := 0
        isWhole := true
        holdIsWhole := true
        lacksNewline := false
        input := []
        name := []
        hasReplaced := false
        ranges := []
        additions := []
        printed := []
        lastRegex? := none
        linesRead := []
        quit? := none
        fault? := none }
    let read := fun (st : State) (path : List Char) =>
      match st.shell.source path with
      | (.ok text, rest) =>
          let lines := (linesBy m.newline text).map fun line => (path, line)
          ({ st with shell := rest }, some lines)
      | (.error "Is a directory", rest) =>
          let told := if isInPlace then
              rest.say ("couldn't edit ".toList ++ path ++ ": not a regular file".toList)
            else rest.say ("read error on ".toList ++ path ++ ": Is a directory".toList)
          ({ st with shell := told.withStatus 4 }, none)
      | (.error reason, rest) =>
          let told := rest.say ("can't read ".toList ++ path ++ ": ".toList ++ reason.toList)
          ({ st with shell := told.withStatus 2 }, none)
    let finish := fun (st : State) =>
      let text := st.printed.reverse.flatten
      { st with shell := st.shell.output text, printed := [] }
    let ended := if isSeparate then
        paths.foldl
          (fun st path =>
            if st.quit?.isSome || st.fault?.isSome then st
            else
              match read st path with
              | (st, none) => st
              | (st, some lines) =>
                  let done := edit m program { st with input := lines, lineNumber := 0, ranges := [] }
                  if isInPlace then
                    let rest := if done.quit?.isSome then done.input.flatMap Prod.snd else []
                    let text := done.printed.reverse.flatten ++ rest
                    let backup := ((g.options.find? fun option => option.1 == 'i').bind Prod.snd)
                    let saved := match backup with
                      | some ending =>
                          match done.shell.writeFile (path ++ ending) (lines.flatMap Prod.snd) false with
                          | .ok sh => sh
                          | .error _ => done.shell
                      | none => done.shell
                    match saved.writeFile path text false with
                    | .ok sh => { done with shell := sh, printed := [] }
                    | .error _ => { done with shell := saved, printed := [] }
                  else finish done)
          start
      else
        let (st, lines) := paths.foldl
          (fun (state : State × List (List Char × List Char)) path =>
            match read state.1 path with
            | (st, some lines) =>
                let before := state.2
                let joined := match before.getLast?, lines with
                  | some (name, last), _ :: _ =>
                      if last.getLast? == some m.newline then before
                      else before.dropLast ++ [(name, last ++ [m.newline])]
                  | _, _ => before
                (st, joined ++ lines)
            | (st, none) => (st, state.2))
          (start, [])
        finish (edit m program { st with input := lines })
    match ended.fault? with
    | some text =>
        ended.shell.sayFailed ("-e expression #1, char 0: ".toList ++ text)
    | none =>
        match ended.quit? with
        | some status => if status = 0 then ended.shell else ended.shell.withStatus status
        | none => ended.shell

end AsmDiagnostics.Machine.Shell
