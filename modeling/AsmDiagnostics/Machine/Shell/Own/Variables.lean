import AsmDiagnostics.Machine.Shell.Own.Basic
import AsmDiagnostics.Machine.Shell.Expansion

/-!
# Own commands for variables

The commands of the shell that set, list and forget variables, arguments and options.
-/

namespace AsmDiagnostics.Machine.Shell

def bindingLine (front : List Char) (v : Variable) : List Char :=
  front ++ v.name ++
    (match v.value? with
      | some value => '=' :: inScriptQuotes value
      | none => []) ++ ['\n']

def listBindings (sh : Shell) (front : List Char) (p : Variable → Bool) : Shell :=
  let all := (sh.bindings.filter p).mergeSort fun a b => Text.precedes a.name b.name
  (sh.withStatus 0).print (all.flatMap (bindingLine front))

def declare (sh : Shell) (front : String) (p : Variable → Bool) (mark : Variable → Variable)
    (arguments : List (List Char)) : Shell :=
  sh.withLetters "p" arguments fun letters words =>
    if words.isEmpty || !letters.isEmpty then sh.listBindings front.toList p
    else
      (sh.withStatus 0).forEach words fun sh word =>
        let (name, value?) := bindingOf word
        sh.withName name
          (let done :=
            match value? with
            | some value => sh.assignVariable name value
            | none => sh
          if done.isRunning then
            done.putVariable name (some (mark ((done.binding? name).getD ⟨name, none, false, false⟩)))
          else done)

def exportVariables : Own := fun sh =>
  sh.declare "export " Variable.isExported fun v => { v with isExported := true }

def protectVariables : Own := fun sh =>
  sh.declare "readonly " Variable.isReadOnly fun v => { v with isReadOnly := true }

/-- Keeps what variables are before the function at hand changes them; a dash stands for the
options. -/
def keepVariables : Own := fun sh words =>
  match sh.saved with
  | [] => sh.fail "not in a function".toList
  | kept :: others =>
      let names := (words.map fun word => (bindingOf word).1).filter fun name =>
        !kept.any fun entry => entry.1 == name
      let options : Variable := ⟨['-'], some sh.options, false, false⟩
      let added := names.map fun name =>
        (name, if name = ['-'] then some options else sh.binding? name)
      let sh := { sh with saved := (added ++ kept) :: others }
      (sh.withStatus 0).forEach (words.filter (· != ['-'])) fun sh word =>
        let (name, value?) := bindingOf word
        sh.withName name
          (match value? with
          | some value => sh.assignVariable name value
          | none => sh)

def restoreVariables (sh : Shell) : Shell :=
  match sh.saved with
  | [] => sh
  | kept :: others =>
      kept.foldl
        (fun sh (name, binding?) =>
          if name = ['-'] then { sh with options := (binding?.bind Variable.value?).getD [] }
          else sh.putVariable name binding?)
        { sh with saved := others }

def forget : Own := fun sh arguments =>
  sh.withLetters "fv" arguments fun letters names =>
    (sh.withStatus 0).forEach names fun sh name =>
      if letters.getLast? == some 'f' then
        { sh with functions := sh.functions.filter fun entry => entry.1 != name }
      else
        sh.withName name
          (if sh.isReadOnly name then sh.fail (name ++ ": is read only".toList)
          else sh.putVariable name none)

def shift : Own := fun sh words =>
  let run := fun n : Nat =>
    if sh.arguments.length < n then sh.fail "can't shift that many".toList
    else { sh with arguments := sh.arguments.drop n, optionIndex := 1, optionPlace := 0 }.withStatus 0
  match words with
  | [] => run 1
  | text :: _ => sh.withNumber text run

def optionNames : List (String × Option Char) :=
  [("errexit", some 'e'), ("noglob", some 'f'), ("ignoreeof", some 'I'), ("interactive", some 'i'),
    ("monitor", some 'm'), ("noexec", some 'n'), ("stdin", some 's'), ("xtrace", some 'x'),
    ("verbose", some 'v'), ("vi", some 'V'), ("emacs", some 'E'), ("noclobber", some 'C'),
    ("allexport", some 'a'), ("notify", some 'b'), ("nounset", some 'u'), ("privileged", some 'p'),
    ("nolog", none), ("debug", none)]

def isOption (c : Char) : Bool := optionNames.any fun entry => entry.2 == some c

def withOption (sh : Shell) (isSet : Bool) (c : Char) : Shell :=
  let others := sh.options.filter (· != c)
  { sh with options := if isSet then c :: others else others }

def listOptions (sh : Shell) (inWords : Bool) : Shell :=
  let isSet := fun letter? : Option Char => letter?.any sh.has
  let lines := optionNames.map fun (name, letter?) =>
    if inWords then
      name.toList ++ List.replicate (16 - name.length) ' ' ++
        (if isSet letter? then "on\n".toList else "off\n".toList)
    else
      (if isSet letter? then "set -o ".toList else "set +o ".toList) ++ name.toList ++ ['\n']
  sh.print ((if inWords then "Current option settings\n".toList else []) ++ lines.flatten)

/-- Sets options as words say, and gives the words behind them, or none when the arguments stay as
they are. -/
def takeOptions : Nat → Shell → List (List Char) → Shell × Option (List (List Char))
  | 0, sh, _ => (sh, none)
  | _ + 1, sh, [] => (sh, none)
  | bound + 1, sh, word :: rest =>
      match word with
      | ['-', '-'] => (sh, some rest)
      | ['-'] => ((sh.withOption false 'x').withOption false 'v', if rest.isEmpty then none else
          some rest)
      | '-' :: letters => run bound sh true letters rest
      | '+' :: letters => run bound sh false letters rest
      | _ => (sh, some (word :: rest))
where
  /-- Sets the options of letters, one of which may stand for a name that follows. -/
  run (bound : Nat) (sh : Shell) (isSet : Bool) (letters : List Char) (rest : List (List Char)) :
      Shell × Option (List (List Char)) :=
    let refused := fun text : List Char => (sh.fail ("Illegal option ".toList ++ text), none)
    let sign := if isSet then '-' else '+'
    match letters.find? fun c => c != 'o' && !isOption c with
    | some c => refused [sign, c]
    | none =>
        let done := (letters.filter isOption).foldl (fun sh c => sh.withOption isSet c) sh
        if !letters.contains 'o' then takeOptions bound done rest
        else
          match rest with
          | [] => (done.listOptions isSet, none)
          | name :: others =>
              match optionNames.find? fun entry => entry.1.toList == name with
              | some (_, some c) => takeOptions bound (done.withOption isSet c) others
              | some (_, none) => takeOptions bound done others
              | none => refused ([sign, 'o', ' '] ++ name)

def setOptions : Own := fun sh words =>
  if words.isEmpty then sh.listBindings [] fun v => v.value?.isSome
  else
    match takeOptions (words.length + 1) (sh.withStatus 0) words with
    | (done, some arguments) => { done with arguments := arguments, optionIndex := 1, optionPlace := 0 }
    | (done, none) => done

/-- How far a line goes that is read into variables, as marks that may separate fields, and whether
its newline was found. -/
def readMarks (isRaw : Bool) : Nat → Shell → List Mark × Bool × Shell
  | 0, sh => ([], false, sh)
  | bound + 1, sh =>
      let (line, isWhole, rest) := sh.readLine 0
      if isRaw then (Mark.ofText false line, isWhole, rest)
      else
        let (marks, goesOn) := unescaped line
        if goesOn && isWhole then
          let (more, isWhole, last) := readMarks isRaw bound rest
          (marks ++ more, isWhole, last)
        else (marks, isWhole, rest)
where
  /-- The marks of a line, where a backslash takes away the meaning of what follows it, and that of
  the newline too. -/
  unescaped : List Char → List Mark × Bool
    | [] => ([], false)
    | ['\\'] => ([], true)
    | '\\' :: c :: rest => (.kept c :: (unescaped rest).1, (unescaped rest).2)
    | c :: rest => (.soft c :: (unescaped rest).1, (unescaped rest).2)

def withoutLastBlanks (separators : List Char) (marks : List Mark) : List Mark :=
  (marks.reverse.dropWhile fun m => m.separation separators = .blank).reverse

def fieldsFor (separators : List Char) : Nat → List Mark → List (List Char)
  | 0, _ => []
  | 1, marks =>
      let bare := marks.dropWhile fun m => m.separation separators = .blank
      match Mark.fields separators bare with
      | [] => [[]]
      | [field] => [Mark.textOf field]
      | _ => [Mark.textOf (withoutLastBlanks separators bare)]
  | count + 2, marks =>
      let bare := marks.dropWhile fun m => m.separation separators = .blank
      let field := bare.takeWhile fun m => m.separation separators = .none
      let rest := bare.drop field.length
      let behind := rest.dropWhile fun m => m.separation separators = .blank
      let after :=
        match behind with
        | m :: more => if m.separation separators = .sign then more else behind
        | [] => []
      Mark.textOf field :: fieldsFor separators (count + 1) after

/-- The options in front of the names that a line is read into, of which only `r` means anything, and
the names. -/
def readOptions : List (List Char) → Except (List Char) (Bool × List (List Char))
  | ['-', '-'] :: rest => .ok (false, rest)
  | [['-', 'p']] => .error "No arg for -p option".toList
  | ['-', 'p'] :: _ :: rest => readOptions rest
  | ('-' :: c :: more) :: rest =>
      match (c :: more).find? (· != 'r') with
      | some 'p' => readOptions rest
      | some unknown => .error ("Illegal option -".toList ++ [unknown])
      | none => (readOptions rest).map fun (_, names) => (true, names)
  | rest => .ok (false, rest)

/-- Reads a line into variables: a field for each, and the rest for the last. -/
def readVariables : Own := fun sh words =>
  match readOptions words with
  | .error text => sh.fail text
  | .ok (isRaw, names) =>
      if names.isEmpty then sh.fail "arg count".toList
      else
        let (marks, isWhole, rest) := readMarks isRaw 100000 sh
        let fields := fieldsFor rest.separators names.length marks
        let set := fun (sh : Shell) (name, field) =>
          if sh.isRunning then sh.withName name (sh.assignVariable name field) else sh
        let done := (names.zip fields).foldl set rest
        if done.isRunning then done.withStatus (if isWhole then 0 else 1) else done

end AsmDiagnostics.Machine.Shell
