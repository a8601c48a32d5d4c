import AsmDiagnostics.Machine.Regex.Reader
import AsmDiagnostics.Machine.Tool.Basic

/-!
# Editing scripts

The commands of the stream editor and how they are written. The commands of a script stand in one
row; a block and a branch go on at a place in it.
-/

namespace AsmDiagnostics.Machine.Edit

/-- A regular expression of a script; an empty one stands for the last that was used. -/
structure Matcher where
  regex? : Option Regex
  ignoresCase : Bool
  hasLines : Bool
  deriving Repr

inductive Address where
  | line (n : Nat)
  /-- The first line and all that are a multiple of a stride behind it. -/
  | stride (first step : Nat)
  | last
  | fitting (m : Matcher)
  deriving Repr

inductive RangeEnd where
  | at (a : Address)
  /-- So many lines further. -/
  | further (count : Nat)
  /-- At a multiple of a number. -/
  | multiple (n : Nat)
  deriving Repr

inductive Capitals where
  | upper
  | lower
  | nextUpper
  | nextLower
  | unchanged
  deriving DecidableEq, Repr

inductive Replacement where
  | text (s : List Char)
  /-- What a group has fitted, or the whole. -/
  | group (n : Nat)
  | capitals (c : Capitals)
  deriving Repr

/-- What becomes of texts that an expression fits. -/
structure Substitution where
  matcher : Matcher
  replacement : List Replacement
  /-- The number of the first text that is replaced. -/
  first : Nat
  isGlobal : Bool
  prints : Bool
  file? : Option (List Char)
  deriving Repr

inductive Action where
  /-- Goes on behind the block when the line is not one of its lines. -/
  | block (finish : Nat)
  | nothing
  | number
  | append (text : List Char)
  | insert (text : List Char)
  | change (text : List Char)
  | branch (label : List Char)
  /-- Branches when something was replaced since the last line was read, or when nothing was. -/
  | branchAfter (whenReplaced : Bool) (label : List Char)
  | delete
  | deleteLine
  | getHold
  | addHold
  | putHold
  | extendHold
  | exchange
  | spell (width? : Option Nat)
  | next
  | join
  | print
  | printLine
  | quit (status : Nat) (prints : Bool)
  | readFile (path : List Char)
  | readLine (path : List Char)
  | write (path : List Char)
  | writeLine (path : List Char)
  | substitute (s : Substitution)
  | translate (pairs : List (Char × Char))
  | name
  | clear
  deriving Repr

structure Command where
  first? : Option Address
  finish? : Option RangeEnd
  /-- The range begins before the first line. -/
  fromStart : Bool
  isNegated : Bool
  action : Action
  deriving Repr

inductive Fault where
  | unknownCommand (c : Char)
  | unterminated (what : String)
  | missingCommand
  | unexpected (c : Char)
  | unmatched
  | unknownOption
  | several (what : String)
  | zeroNumber
  | extraCharacters
  | missingLabel
  | addressedLabel
  | missingText
  | missingFile
  | severalNegations
  | oneAddress
  | lineZero
  | relativeFirst
  | differentLengths
  | badReference (n : Nat)
  | noRegex
  | badRegex (fault : Regex.Fault)
  deriving Repr

def Fault.text : Fault → List Char
  | .unknownCommand c => "unknown command: \x60".toList ++ [c, '\'']
  | .unterminated what => ("unterminated " ++ what).toList
  | .missingCommand => "missing command".toList
  | .unexpected c => "unexpected \x60".toList ++ [c, '\'']
  | .unmatched => "unmatched \x60\x7b'".toList
  | .unknownOption => "unknown option to \x60s'".toList
  | .several what => ("multiple " ++ what ++ " options to \x60s' command").toList
  | .zeroNumber => "number option to \x60s' command may not be zero".toList
  | .extraCharacters => "extra characters after command".toList
  | .missingLabel => "\":\" lacks a label".toList
  | .addressedLabel => ": doesn't want any addresses".toList
  | .missingText => "expected \\ after \x60a', \x60c' or \x60i'".toList
  | .missingFile => "missing filename in r/R/w/W commands".toList
  | .severalNegations => "multiple \x60!'s".toList
  | .oneAddress => "command only uses one address".toList
  | .lineZero => "invalid usage of line address 0".toList
  | .relativeFirst => "invalid usage of +N or ~N as first address".toList
  | .differentLengths => "strings for \x60y' command are different lengths".toList
  | .badReference n =>
      "invalid reference \\".toList ++ Text.decimal n ++ " on \x60s' command's RHS".toList
  | .noRegex => "no previous regular expression".toList
  | .badRegex fault => fault.text.toList

structure Source where
  text : List Char
  isExtended : Bool

/-- A step of reading; a fault comes with the number of characters that are left. -/
abbrev Reading := StateT Source (Except (Nat × Fault))

def fail {α : Type} (fault : Fault) : Reading α := do throw ((← get).text.length, fault)

def peek? : Reading (Option Char) := do return (← get).text.head?

def take? : Reading (Option Char) :=
  modifyGet fun s => (s.text.head?, { s with text := s.text.drop 1 })

def takeAll (p : Char → Bool) : Reading (List Char) :=
  modifyGet fun s => (s.text.takeWhile p, { s with text := s.text.dropWhile p })

def isSpace (c : Char) : Bool := c == ' ' || c == '\t' || c == '\r' || c == '\x0b' || c == '\x0c'

def isAnySpace (c : Char) : Bool := isSpace c || c == '\n'

def takeNumber : Reading Nat := do return Numeral.decimalValue (← takeAll Char.isDigit)

/-- The length of the set behind an opening bracket, with its closing one; a bracket at the front
belongs to it, and so do classes in brackets of their own. -/
def setLength? (s : List Char) : Option Nat :=
  let front := if s.head? == some '^' then 1 else 0
  let start := if (s.drop front).head? == some ']' then front + 1 else front
  (go (s.length + 1) (s.drop start)).map (start + ·)
where
  /-- The length of what is left of the set. -/
  go : Nat → List Char → Option Nat
    | 0, _ => none
    | _ + 1, [] => none
    | _ + 1, ']' :: _ => some 1
    | bound + 1, '[' :: c :: rest =>
        if c = ':' ∨ c = '.' ∨ c = '=' then
          let name := rest.takeWhile (· != c)
          if ([c, ']'] : List Char).isPrefixOf (rest.drop name.length) then
            (go bound (rest.drop (name.length + 2))).map (· + (name.length + 4))
          else none
        else (go bound (c :: rest)).map (· + 1)
    | bound + 1, c :: rest => if c = '\n' then none else (go bound rest).map (· + 1)

/-- A text up to a delimiter, with a backslash in front of the delimiter taken away, and what is
behind it. In an expression `\n` is a newline, and a set has no delimiters in it. -/
def delimited (delimiter : Char) (isRegex : Bool) : Nat → List Char → Option (List Char × List Char)
  | 0, _ => none
  | _ + 1, [] => none
  | bound + 1, '\\' :: c :: rest =>
      (delimited delimiter isRegex bound rest).map fun (text, after) =>
        if c = 'n' ∧ isRegex ∧ delimiter ≠ 'n' then ('\n' :: text, after)
        else if c = '\n' then (c :: text, after)
        else if c = delimiter ∧ (isRegex ∨ c ≠ '&') then (c :: text, after)
        else ('\\' :: c :: text, after)
  | bound + 1, c :: rest =>
      if c = delimiter then some ([], rest)
      else if c = '\n' then none
      else if c = '[' ∧ isRegex then
        (setLength? rest).bind fun n =>
          (delimited delimiter isRegex bound (rest.drop n)).map fun (text, after) =>
            (c :: rest.take n ++ text, after)
      else (delimited delimiter isRegex bound rest).map fun (text, after) => (c :: text, after)

def brokenLength : List Char → Nat
  | [] => 0
  | '\\' :: _ :: rest => brokenLength rest + 2
  | c :: rest => if c = '\n' then 0 else brokenLength rest + 1

def takeDelimited (delimiter : Char) (isRegex : Bool) (what : String) : Reading (List Char) := do
  let s ← get
  match delimited delimiter isRegex (s.text.length + 1) s.text with
  | some (text, rest) =>
      set { s with text := rest }
      return text
  | none =>
      set { s with text := s.text.drop (brokenLength s.text) }
      fail (.unterminated what)

/-- The character that is given by its number behind a backslash, or by the key that is pressed with
it, and what is behind it. -/
def coded? : List Char → Option (Char × List Char)
  | 'x' :: rest => number 16 2 rest
  | 'o' :: rest => number 8 3 rest
  | 'd' :: rest => number 10 3 rest
  | 'c' :: c :: rest => some (Char.ofNat (c.toUpper.toNat ^^^ 64), rest)
  | _ => none
where
  /-- The character of a number with so many digits at most. -/
  number (base most : Nat) (s : List Char) : Option (Char × List Char) :=
    let digits := (s.take most).takeWhile fun c => (Numeral.digit? base c).isSome
    if digits.isEmpty then none
    else some (Char.ofNat (Numeral.valueOf base digits % 256), s.drop digits.length)

def decoded : Nat → List Char → List Char
  | 0, s => s
  | _ + 1, [] => []
  | bound + 1, '\\' :: rest =>
      match coded? rest, rest with
      | some (c, after), _ => c :: decoded bound after
      | none, c :: after => '\\' :: c :: decoded bound after
      | none, [] => ['\\']
  | bound + 1, c :: rest => c :: decoded bound rest

def matcherOf (text : List Char) (ignoresCase hasLines : Bool) : Reading (Matcher × Nat) := do
  if text.isEmpty then return (⟨none, ignoresCase, hasLines⟩, 9)
  else
    match Regex.ofText ⟨(← get).isExtended, true, false⟩ (decoded (text.length + 1) text) with
    | .ok (regex, groups) => return (⟨some regex, ignoresCase, hasLines⟩, groups)
    | .error fault => fail (.badRegex fault)

def takeModes : Reading (Bool × Bool) := do
  let letters ← takeAll fun c => c == 'I' || c == 'M'
  return (letters.contains 'I', letters.contains 'M')

def takeAddress? : Reading (Option Address) := do
  match ← peek? with
  | some '$' =>
      let _ ← take?
      return some .last
  | some '/' =>
      let _ ← take?
      let text ← takeDelimited '/' true "address regex"
      let (ignoresCase, hasLines) ← takeModes
      return some (.fitting (← matcherOf text ignoresCase hasLines).1)
  | some '\\' =>
      let _ ← take?
      let delimiter := (← take?).getD '/'
      let text ← takeDelimited delimiter true "address regex"
      let (ignoresCase, hasLines) ← takeModes
      return some (.fitting (← matcherOf text ignoresCase hasLines).1)
  | some c =>
      if c.isDigit then
        let n ← takeNumber
        let _ ← takeAll isSpace
        if (← peek?) = some '~' then
          let _ ← take?
          let _ ← takeAll isSpace
          let step ← takeNumber
          return some (if step = 0 then .line n else .stride n step)
        else return some (.line n)
      else return none
  | none => return none

def takeEnd? : Reading (Option RangeEnd) := do
  match ← peek? with
  | some '+' =>
      let _ ← take?
      return some (.further (← takeNumber))
  | some '~' =>
      let _ ← take?
      return some (.multiple (← takeNumber))
  | _ => return (← takeAddress?).map .at

/-- Takes the end of a command: a newline, a semicolon, or what ends it and stays. -/
def takeFinish : Reading Unit := do
  let _ ← takeAll isSpace
  match ← peek? with
  | none => return
  | some '\x7d' => return
  | some '#' => return
  | some c =>
      let _ ← take?
      if c = '\n' ∨ c = ';' then return else fail .extraCharacters

def takeLabel : Reading (List Char) := do
  let _ ← takeAll isSpace
  takeAll fun c => !isAnySpace c && c != ';' && c != '\x7d'

def takeFile : Reading (List Char) := do
  let _ ← takeAll isSpace
  let path ← takeAll (· != '\n')
  let _ ← take?
  if path.isEmpty then fail .missingFile else return path

def textUpToEnd : List Char → List Char × List Char
  | [] => ([], [])
  | '\n' :: rest => ([], rest)
  | '\\' :: c :: rest =>
      let (text, after) := textUpToEnd rest
      ((Regex.introduced? c).getD c :: text, after)
  | c :: rest =>
      let (text, after) := textUpToEnd rest
      (c :: text, after)

def takeText : Reading (List Char) := do
  let _ ← takeAll isSpace
  match ← peek? with
  | none => fail .missingText
  | some '\\' =>
      let _ ← take?
      let s ← get
      let blanks := s.text.takeWhile isSpace
      match s.text.drop blanks.length with
      | [] => set { s with text := [] }
      | '\n' :: rest => set { s with text := rest }
      | _ => pure ()
      modifyGet fun s =>
        let (text, rest) := textUpToEnd s.text
        (if s.text.isEmpty then [] else text ++ ['\n'], { s with text := rest })
  | some '\n' => fail .missingText
  | _ =>
      modifyGet fun s =>
        let (text, rest) := textUpToEnd s.text
        (text ++ ['\n'], { s with text := rest })

def withCharacter (c : Char) : List Replacement → List Replacement
  | .text s :: rest => .text (c :: s) :: rest
  | rest => .text [c] :: rest

def replacementOf : Nat → List Char → List Replacement
  | 0, _ => []
  | _ + 1, [] => []
  | bound + 1, '&' :: rest => .group 0 :: replacementOf bound rest
  | bound + 1, '\\' :: c :: rest =>
      let others := replacementOf bound rest
      if c.isDigit then .group (c.toNat - '0'.toNat) :: others
      else
        match c with
        | 'U' => .capitals .upper :: others
        | 'L' => .capitals .lower :: others
        | 'u' => .capitals .nextUpper :: others
        | 'l' => .capitals .nextLower :: others
        | 'E' => .capitals .unchanged :: others
        | _ =>
            match coded? (c :: rest) with
            | some (d, after) => withCharacter d (replacementOf bound after)
            | none => withCharacter ((Regex.introduced? c).getD c) others
  | bound + 1, c :: rest => withCharacter c (replacementOf bound rest)

def greatestGroup (parts : List Replacement) : Nat :=
  parts.foldl
    (fun n part =>
      match part with
      | .group m => max n m
      | _ => n)
    0

structure SubstitutionOptions where
  number? : Option Nat
  isGlobal : Bool
  prints : Bool
  ignoresCase : Bool
  hasLines : Bool
  file? : Option (List Char)

def takeOptions : Nat → SubstitutionOptions → Reading SubstitutionOptions
  | 0, options => return options
  | bound + 1, options => do
      match ← peek? with
      | none => return options
      | some '\x7d' => return options
      | some '#' => return options
      | some c =>
          let _ ← take?
          if c = '\n' ∨ c = ';' then return options
          else if isSpace c then takeOptions bound options
          else if c = 'i' ∨ c = 'I' then takeOptions bound { options with ignoresCase := true }
          else if c = 'm' ∨ c = 'M' then takeOptions bound { options with hasLines := true }
          else if c = 'p' then
            if options.prints then fail (.several "\x60p'")
            else takeOptions bound { options with prints := true }
          else if c = 'g' then
            if options.isGlobal then fail (.several "\x60g'")
            else takeOptions bound { options with isGlobal := true }
          else if c = 'w' then return { options with file? := some (← takeFile) }
          else if c.isDigit then
            if options.number?.isSome then fail (.several "number")
            else
              let more ← takeAll Char.isDigit
              let n := Numeral.decimalValue (c :: more)
              if n = 0 then fail .zeroNumber
              else takeOptions bound { options with number? := some n }
          else fail .unknownOption

def takeSubstitution : Reading Action := do
  let what := "\x60s' command"
  match ← take? with
  | none => fail (.unterminated what)
  | some delimiter =>
      let pattern ← takeDelimited delimiter true what
      let text ← takeDelimited delimiter false what
      let replacement := replacementOf (text.length + 1) text
      let length := (← get).text.length
      let options ← takeOptions (length + 1) ⟨none, false, false, false, false, none⟩
      let (matcher, groups) ← matcherOf pattern options.ignoresCase options.hasLines
      let greatest := greatestGroup replacement
      if groups < greatest then fail (.badReference greatest)
      else
        return .substitute
          ⟨matcher, replacement, options.number?.getD 1, options.isGlobal, options.prints,
            options.file?⟩

def exchanged (delimiter : Char) : List Char → List Char
  | '\\' :: c :: rest =>
      if c = '\\' ∨ c = delimiter then c :: exchanged delimiter rest
      else
        match Regex.introduced? c with
        | some d => d :: exchanged delimiter rest
        | none => '\\' :: c :: exchanged delimiter rest
  | c :: rest => c :: exchanged delimiter rest
  | [] => []

def takeTranslation : Reading Action := do
  let what := "\x60y' command"
  match ← take? with
  | none => fail (.unterminated what)
  | some delimiter =>
      let old := exchanged delimiter (← takeDelimited delimiter false what)
      let new := exchanged delimiter (← takeDelimited delimiter false what)
      if old.length ≠ new.length then fail .differentLengths
      else
        takeFinish
        return .translate (old.zip new)

def takeNumber? : Reading (Option Nat) := do
  let _ ← takeAll isSpace
  let digits ← takeAll Char.isDigit
  takeFinish
  return if digits.isEmpty then none else some (Numeral.decimalValue digits)

/-- Takes what a command does; blocks are closed later. -/
def takeAction (c : Char) (addresses : Nat) : Reading Action := do
  let plain := fun action : Action => do
    takeFinish
    return action
  let single := fun (rest : Reading Action) =>
    if 1 < addresses then fail .oneAddress else rest
  match c with
  | '\x7b' => return .block 0
  | '=' => plain .number
  | 'a' => return .append (← takeText)
  | 'i' => return .insert (← takeText)
  | 'c' => return .change (← takeText)
  | ':' =>
      if 0 < addresses then fail .addressedLabel
      else
        let label ← takeLabel
        if label.isEmpty then fail .missingLabel else return .nothing
  | 'b' =>
      let label ← takeLabel
      return .branch label
  | 't' =>
      let label ← takeLabel
      return .branchAfter true label
  | 'T' =>
      let label ← takeLabel
      return .branchAfter false label
  | 'd' => plain .delete
  | 'D' => plain .deleteLine
  | 'g' => plain .getHold
  | 'G' => plain .addHold
  | 'h' => plain .putHold
  | 'H' => plain .extendHold
  | 'x' => plain .exchange
  | 'l' => return .spell (← takeNumber?)
  | 'n' => plain .next
  | 'N' => plain .join
  | 'p' => plain .print
  | 'P' => plain .printLine
  | 'q' => single do return .quit ((← takeNumber?).getD 0) true
  | 'Q' => single do return .quit ((← takeNumber?).getD 0) false
  | 'r' => return .readFile (← takeFile)
  | 'R' => return .readLine (← takeFile)
  | 'w' => return .write (← takeFile)
  | 'W' => return .writeLine (← takeFile)
  | 's' => takeSubstitution
  | 'y' => takeTranslation
  | 'F' => plain .name
  | 'z' => plain .clear
  | 'v' =>
      let _ ← takeLabel
      plain .nothing
  | _ => fail (.unknownCommand c)

/-- A script under construction: its commands, the blocks that are open, and the labels. -/
structure Draft where
  commands : List Command
  /-- The places of the open blocks, the innermost first. -/
  blocks : List Nat
  labels : List (List Char × Nat)

def Draft.add (d : Draft) (command : Command) : Draft :=
  { d with commands := d.commands ++ [command] }

def Draft.close (d : Draft) (place : Nat) (rest : List Nat) : Draft :=
  let finish := d.commands.length
  { d with
    blocks := rest
    commands := d.commands.zipIdx.map fun (command, i) =>
      if i = place then { command with action := .block finish } else command }

def takeCommands : Nat → Draft → Reading Draft
  | 0, draft => return draft
  | bound + 1, draft => do
      let _ ← takeAll fun c => isAnySpace c || c == ';'
      match ← peek? with
      | none => return draft
      | some '#' =>
          let _ ← takeAll (· != '\n')
          takeCommands bound draft
      | some _ =>
          let first? ← takeAddress?
          let _ ← takeAll isSpace
          let hasEnd := first?.isSome && (← peek?) == some ','
          let finish? ←
            if hasEnd then do
              let _ ← take?
              let _ ← takeAll isSpace
              let found ← takeEnd?
              if found.isNone then
                let _ ← take?
                fail (.unexpected ',')
              let _ ← takeAll isSpace
              pure found
            else pure none
          let isZero := match first? with | some (.line 0) => true | _ => false
          let endsAtRegex := match finish? with | some (.at (.fitting _)) => true | _ => false
          if isZero && !endsAtRegex then
            let _ ← take?
            fail .lineZero
          let isNegated := (← peek?) == some '!'
          if isNegated then
            let _ ← take?
            let _ ← takeAll isSpace
            if (← peek?) = some '!' then
              let _ ← take?
              fail .severalNegations
          match ← take? with
          | none => fail .missingCommand
          | some '\x7d' =>
              match draft.blocks with
              | [] => fail (.unexpected '\x7d')
              | place :: rest =>
                  if first?.isSome then fail (.unexpected '\x7d')
                  takeFinish
                  takeCommands bound (draft.close place rest)
          | some c =>
              if (c = '+' ∨ c = '~') ∧ first?.isNone then fail .relativeFirst
              if c = '\n' ∨ c = ';' then fail .missingCommand
              let label? ← if c = ':' then do
                  let s ← get
                  let name := ((s.text.dropWhile isSpace).takeWhile fun d =>
                    !isAnySpace d && d != ';')
                  pure (some name)
                else pure none
              let addresses := first?.toList.length + finish?.toList.length
              let action ← takeAction c addresses
              let place := draft.commands.length
              let next := draft.add ⟨first?, finish?, isZero, isNegated, action⟩
              let blocks := if c = '\x7b' then place :: draft.blocks else draft.blocks
              let labels := (label?.toList.map fun name => (name, place)) ++ draft.labels
              takeCommands bound { next with blocks := blocks, labels := labels }

/-- A whole script: its commands and its labels. -/
structure Program where
  commands : Array Command
  labels : List (List Char × Nat)

def Action.label? : Action → Option (List Char)
  | .branch label => some label
  | .branchAfter _ label => some label
  | _ => none

def Draft.missingLabel? (d : Draft) : Option (List Char) :=
  (d.commands.filterMap fun command => command.action.label?).find? fun label =>
    !label.isEmpty && !d.labels.any fun entry => entry.1 == label

end AsmDiagnostics.Machine.Edit
