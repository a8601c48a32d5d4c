import AsmDiagnostics.Machine.Condition
import AsmDiagnostics.Machine.Mode
import AsmDiagnostics.Machine.Printing
import AsmDiagnostics.Machine.Shell.Lookup
import AsmDiagnostics.Machine.Shell.Own.Signals
import AsmDiagnostics.Machine.Shell.Own.Variables

/-!
# The table of own commands

What a shell does itself for a name, as far as it needs no other script for that.
-/

namespace AsmDiagnostics.Machine.Shell

def outputOwn (sh : Shell) (text : List Char) : Shell :=
  if text.isEmpty || sh.isWritable 1 then (sh.withStatus 0).print text
  else
    (sh.complain (sh.place ++ (sh.context?.getD []) ++ ": I/O error".toList)).withStatus 1

/-- Ends the script at hand in some way, with the status that an argument asks for; the shell ends
with the status before the trap at hand when there is none. -/
def endWith (flow : Flow) : Own := fun sh words =>
  match words with
  | [] =>
      { sh with
        flow := flow
        status := if flow == .exiting then sh.leaving?.getD sh.status else sh.status }
  | text :: _ => sh.withNumber text fun n => { sh.withStatus n with flow := flow }

def leaveLoop (flow : Nat → Flow) : Own := fun sh words =>
  let run := fun n : Nat =>
    if sh.loops = 0 then sh.withStatus 0
    else { sh.withStatus 0 with flow := flow (min n sh.loops) }
  match words with
  | [] => run 1
  | text :: _ =>
      if wholeNumber? text = some 0 then sh.fail ("Illegal number: ".toList ++ text)
      else sh.withNumber text run

def enter (sh : Shell) (place : Place) : Shell :=
  let put := fun (sh : Shell) (name : String) (value : List Char) =>
    (sh.setVariable name.toList value).exportVariable name.toList
  put (put { sh with folder := place } "OLDPWD" (pathText sh.folder)) "PWD" (pathText place)

def changeFolder : Own := fun sh arguments =>
  sh.withLetters "LP" arguments fun _ words =>
    let sh := sh.withStatus 0
    let back := words.head? == some ['-']
    let path :=
      match words with
      | [] => (sh.valueOf? "HOME".toList).getD []
      | ['-'] :: _ => (sh.valueOf? "OLDPWD".toList).getD []
      | path :: _ => path
    let path := if path.isEmpty then ['.'] else path
    match (sh.resolve? path).filter sh.machine.files.isFolder with
    | none => sh.fail ("can't cd to ".toList ++ path)
    | some place =>
        let done := sh.enter place
        if back then done.printLine (pathText place) else done

def printFolder : Own := fun sh arguments =>
  sh.withLetters "LP" arguments fun _ _ => (sh.withStatus 0).printLine (pathText sh.folder)

def setMask : Own := fun sh arguments =>
  sh.withLetters "S" arguments fun letters words =>
    let sh := sh.withStatus 0
    match words with
    | [] =>
        sh.printLine
          (if letters.isEmpty then Mode.octalText 4 sh.mask
          else Mode.symbolicText (Mode.full - (sh.mask &&& Mode.full)))
    | word :: _ =>
        let isNumber := word.head?.any Char.isDigit
        let given := Mode.full - (sh.mask &&& Mode.full)
        match Mode.ofText? 0 given word with
        | some mode => { sh with mask := if isNumber then mode else Mode.full - mode }
        | none =>
            sh.fail ((if isNumber then "Illegal number: " else "Illegal mode: ").toList ++ word)

def tellLimit : Own := fun sh words =>
  let isOption := fun word : List Char => word.head? == some '-'
  if (words.filter fun word => !isOption word).isEmpty then
    (sh.withStatus 0).printLine "unlimited".toList
  else sh.withStatus 0

inductive OptionSearch where
  | over
  /-- An option with its argument. -/
  | option (c : Char) (argument : List Char)
  | unknown (c : Char)
  | missing (c : Char)

/-- Looks for the next option among arguments, from a place on, and says where the search goes on:
at which argument, and behind how much of the one before. -/
def searchOption (kinds : List Char) (words : List (List Char)) (index place : Nat) :
    OptionSearch × Nat × Nat :=
  let current := if place = 0 then [] else ((words[index - 2]?).getD []).drop place
  match current with
  | c :: more => letter c more index place
  | [] =>
      match words[index - 1]? with
      | some ['-', '-'] => (.over, index + 1, 0)
      | some ('-' :: c :: more) => letter c more (index + 1) 1
      | _ => (.over, index, 0)
where
  /-- Takes an option with what is behind it in its argument. -/
  letter (c : Char) (more : List Char) (index place : Nat) : OptionSearch × Nat × Nat :=
    let behind := if more.isEmpty then 0 else place + 1
    match (if c = ':' then [] else kinds.dropWhile (· != c)) with
    | [] => (.unknown c, index, behind)
    | _ :: ':' :: _ =>
        if !more.isEmpty then (.option c more, index, 0)
        else
          match words[index - 1]? with
          | some argument => (.option c argument, index + 1, 0)
          | none => (.missing c, index, 0)
    | _ => (.option c [], index, behind)

def takeOption : Own := fun sh words =>
  match words with
  | kinds :: name :: rest =>
      let arguments := if rest.isEmpty then sh.arguments else rest
      let (found, index, place) := searchOption kinds arguments sh.optionIndex sh.optionPlace
      let isQuiet := kinds.head? == some ':'
      let put := fun (sh : Shell) (c : Char) (status : Nat) =>
        let done := sh.setVariable "OPTIND".toList (Text.decimal index)
        let done := { done with optionIndex := index, optionPlace := place }
        done.withName name
          (let set := done.assignVariable name [c]
          if set.isRunning then set.withStatus status else set)
      let argument := fun value : List Char => sh.setVariable "OPTARG".toList value
      let noArgument := sh.putVariable "OPTARG".toList none
      let told := fun (text : String) (c : Char) (ending : String) =>
        noArgument.complain (text.toList ++ c :: ending.toList)
      match found with
      | .over => put sh '?' 1
      | .option c value => put (argument value) c 0
      | .unknown c => put (if isQuiet then argument [c] else told "Illegal option -" c "") '?' 0
      | .missing c =>
          if isQuiet then put (argument [c]) ':' 0 else put (told "No arg for -" c " option") '?' 0
  | _ => sh.fail "Usage: getopts optstring var [arg...]".toList

def echoOwn : Own := fun sh words => sh.outputOwn (Printing.echoed true words)

def printOwn : Own := fun sh arguments =>
  sh.withLetters "" arguments fun _ words =>
    match words with
    | [] => sh.fail "usage: printf format [arg ...]".toList
    | format :: rest =>
        let printed := Printing.formatted true format rest
        let told := printed.faults.foldl
          (fun sh fault => sh.complain (sh.place ++ fault.text true)) sh
        let done := told.outputOwn printed.text
        if printed.faults.any Printing.Fault.isFatal then
          { done.withStatus 2 with flow := .failing }
        else if printed.faults.isEmpty then done
        else done.withStatus 1

def decideOwn : Own := fun sh words =>
  match Condition.holds ⟨sh.machine.files, sh.folder⟩ words with
  | .ok outcome => sh.withStatus (if outcome then 0 else 1)
  | .error fault => sh.fail fault.text

def decideBracketed : Own := fun sh words =>
  if words.getLast? == some [']'] then decideOwn sh words.dropLast
  else sh.fail "missing ]".toList

def resume : Own := fun sh words =>
  match words with
  | [] => sh.fail "No current job".toList
  | word :: _ =>
      if (sh.namedJob? word).isSome then
        sh.fail ("job ".toList ++ word ++ " not created under job control".toList)
      else sh.fail ("No such job: ".toList ++ word)

def own? (name : String) : Option Own :=
  match name with
  | ":" => some fun sh _ => sh.withStatus 0
  | "true" => some fun sh _ => sh.withStatus 0
  | "false" => some fun sh _ => sh.withStatus 1
  | "exit" => some (endWith .exiting)
  | "return" => some (endWith .returning)
  | "break" => some (leaveLoop .breaking)
  | "continue" => some (leaveLoop .continuing)
  | "cd" => some changeFolder
  | "chdir" => some changeFolder
  | "pwd" => some printFolder
  | "shift" => some shift
  | "set" => some setOptions
  | "export" => some exportVariables
  | "readonly" => some protectVariables
  | "local" => some keepVariables
  | "unset" => some forget
  | "read" => some readVariables
  | "getopts" => some takeOption
  | "trap" => some setTraps
  | "kill" => some kill
  | "wait" => some await
  | "jobs" => some listJobs
  | "fg" => some resume
  | "bg" => some resume
  | "umask" => some setMask
  | "ulimit" => some tellLimit
  | "times" => some fun sh _ =>
      (sh.withStatus 0).print "0m0.000000s 0m0.000000s\n0m0.000000s 0m0.000000s\n".toList
  | "type" => some describeAll
  | "hash" => some remember
  | "alias" => some nameTexts
  | "unalias" => some forgetTexts
  | "echo" => some echoOwn
  | "printf" => some printOwn
  | "test" => some decideOwn
  | "[" => some decideBracketed
  | _ => none

end AsmDiagnostics.Machine.Shell
