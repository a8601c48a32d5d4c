import AsmDiagnostics.Machine.Script.Source
import AsmDiagnostics.Machine.Shell.Own.Signals
import AsmDiagnostics.Machine.Shell.Own.Table
import AsmDiagnostics.Machine.Tool.Counting

/-!
# Starting other programs

Programs that change something about their process and then go on as another program, or that limit
the time of one.
-/

namespace AsmDiagnostics.Machine.Shell

/-- Tells what is wrong, if there is anything to tell, and where to learn more. -/
def refused (sh : Shell) (text? : Option (List Char)) (status : Nat) : Shell :=
  match text? with
  | some text => sh.misused text status
  | none => sh.advise status

def launchFault (program : String) (name : List Char) : List Char :=
  match program with
  | "env" => inQuotes name
  | "nice" => inQuotes name
  | "setsid" => "failed to execute ".toList ++ name
  | _ => "failed to run command ".toList ++ inQuotes name

def blankWords (text : List Char) : List (List Char) :=
  (splitAll (fun c => c == ' ' || c == '\t') text).filter fun word => !word.isEmpty

def prepareEnvironment (sh : Shell) : Shell × Option (List (List Char)) :=
  let kinds := OptionKind.flags "i0v" ++ OptionKind.values "uCS" ++
    [⟨'i', "ignore-environment", .never⟩, ⟨'0', "null", .never⟩, ⟨'u', "unset", .always⟩,
      ⟨'C', "chdir", .always⟩, ⟨'S', "split-string", .always⟩]
  match Given.ofLeading kinds sh.arguments with
  | .error text => (sh.misused text 125, none)
  | .ok g =>
      let dash := g.operands.head? == some ['-']
      let words := (g.arguments 'S').flatMap blankWords ++
        (if dash then g.operands.drop 1 else g.operands)
      let sh := if g.has 'i' || dash then { sh with bindings := [] } else sh
      let sh := (g.arguments 'u').foldl (fun sh name => sh.putVariable name none) sh
      let isSetting := fun word : List Char => word.contains '='
      let set := (words.takeWhile isSetting).foldl
        (fun sh word =>
          let (name, value?) := bindingOf word
          (sh.setVariable name (value?.getD [])).exportVariable name)
        sh
      let rest := words.dropWhile isSetting
      let moved? := match g.argument? 'C' with
        | none => some set
        | some path =>
            ((set.resolve? path).filter set.machine.files.isFolder).map fun place =>
              { set with folder := place }
      match moved?, rest with
      | none, _ =>
          let path := (g.argument? 'C').getD []
          (((set.say ("cannot change directory to ".toList ++ inQuotes path ++ ": ".toList ++
            (set.problem path).toList))).withStatus 125, none)
      | some moved, [] =>
          let finish := if g.has '0' then '\x00' else '\n'
          let all := moved.bindings.reverse.filter fun v => v.isExported && v.value?.isSome
          (moved.withStatus 0 |>.output (all.flatMap fun v =>
            v.name ++ '=' :: v.value?.getD [] ++ [finish]), none)
      | some moved, _ => (moved, some rest)

def misuseStatus (program : String) : Nat :=
  if program = "setsid" ∨ program = "kill" then 1 else 125

def prepareOther (program : String) (letters values : String) (sh : Shell) :
    Shell × Option (List (List Char)) :=
  let kinds := OptionKind.flags letters ++ OptionKind.values values ++
    [⟨'w', "wait", .never⟩, ⟨'n', "adjustment", .always⟩, ⟨'o', "output", .always⟩,
      ⟨'e', "error", .always⟩, ⟨'i', "input", .always⟩]
  let isNumber := fun word : List Char =>
    program == "nice" && word.head? == some '-' && (word[1]?).any Char.isDigit
  let arguments := sh.arguments.dropWhile isNumber
  match Given.ofLeading kinds arguments with
  | .error text => (sh.misused text (misuseStatus program), none)
  | .ok g =>
      match g.operands with
      | [] =>
          if program = "nice" then (sh.withStatus 0 |>.output ['0', '\n'], none)
          else
            let text := if program = "setsid" then "no command specified" else "missing operand"
            (sh.misused text.toList (misuseStatus program), none)
      | words =>
          if program = "stdbuf" ∧ g.options.isEmpty then
            (sh.misused "you must specify a buffering mode option".toList 125, none)
          else
            match (g.argument? 'n').filter fun text => (Numeral.ofText? false text).isNone with
            | some text =>
                ((sh.say ("invalid adjustment ".toList ++ inQuotes text)).withStatus 125, none)
            | none => (sh, some words)

def killHelp : List Char :=
  ("\nUsage:\n kill [options] <pid> [...]\n\nOptions:\n" ++
    " <pid> [...]            send signal to every <pid> listed\n" ++
    " -<signal>, -s, --signal <signal>\n" ++
    "                        specify the <signal> to be sent\n" ++
    " -q, --queue <value>    integer value to be sent with the signal\n" ++
    " -l, --list=[<signal>]  list all signal names, or convert one to a name\n" ++
    " -L, --table            list all signal names in a nice table\n\n" ++
    " -h, --help     display this help and exit\n" ++
    " -V, --version  output version information and exit\n\n" ++
    "For more details see kill(1).").toList

def killAsProgram : Tool := fun sh arguments =>
  match killRequest arguments with
  | .send signal words =>
      if words.isEmpty then (sh.complain killHelp).withStatus 1
      else
        words.foldl
          (fun sh word =>
            match wholeNumber? word with
            | none => sh.sayFailed ("failed to parse argument: ".toList ++ inQuotes word)
            | some process =>
                if sh.isAlive process then sh.send signal process
                else sh.sayFailed ('(' :: word ++ "): No such process".toList))
          (sh.withStatus 0)
  | _ => (sh.complain killHelp).withStatus 1

def preparation (program : String) (sh : Shell) : Shell × Option (List (List Char)) :=
  match program with
  | "env" => prepareEnvironment sh
  | "nohup" => prepareOther program "" "" sh
  | "setsid" => prepareOther program "cfw" "" sh
  | "nice" => prepareOther program "" "n" sh
  | "stdbuf" => prepareOther program "" "ioe" sh
  | "kill" => (killAsProgram sh sh.arguments, none)
  | _ => (sh.withStatus 127, none)

structure TimeoutRequest where
  micros : Nat
  signal : Nat
  /-- The status is that of the program even when its time is up. -/
  keepsStatus : Bool
  words : List (List Char)

def timeoutRequest (arguments : List (List Char)) : Except (Option (List Char)) TimeoutRequest :=
  let kinds := OptionKind.flags "vfp" ++ OptionKind.values "ks" ++
    [⟨'s', "signal", .always⟩, ⟨'k', "kill-after", .always⟩, ⟨'p', "preserve-status", .never⟩,
      ⟨'f', "foreground", .never⟩, ⟨'v', "verbose", .never⟩]
  match Given.ofLeading kinds arguments with
  | .error text => .error (some text)
  | .ok g =>
      let name := (g.argument? 's').getD "TERM".toList
      let bare := if "SIG".toList.isPrefixOf (name.map Char.toUpper) then name.drop 3 else name
      let badTime := fun text : List Char =>
        Except.error (some ("invalid time interval ".toList ++ inQuotes text))
      match Signal.ofText? bare, (g.argument? 'k').filter fun text => (duration? text).isNone with
      | none, _ => .error (some (inQuotes name ++ ": invalid signal".toList))
      | _, some text => badTime text
      | some signal, none =>
          match g.operands with
          | time :: first :: rest =>
              match duration? time with
              | some micros => .ok ⟨micros, signal, g.has 'p', first :: rest⟩
              | none => badTime time
          | _ => .error none

end AsmDiagnostics.Machine.Shell
