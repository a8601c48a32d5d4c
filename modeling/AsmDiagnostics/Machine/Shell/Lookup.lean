import AsmDiagnostics.Machine.Script.Source
import AsmDiagnostics.Machine.Shell.Own.Basic

/-!
# Finding programs

A name without a slash is looked for in the folders of a list, one after another; any other name is
a path. A file is started by the interpreter that its first line names.
-/

namespace AsmDiagnostics.Machine

inductive Found where
  | program (path : List Char) (place : Place)
  /-- Something is there that may not be started. -/
  | denied
  /-- Nothing is there but folders, or the name is empty. -/
  | unfit
  | nowhere

namespace Shell

def isStartable : Entry → Bool
  | .program _ => true
  | .file _ executable => executable
  | _ => false

def programFolder : Place := [Text.octets "usr".toList, Text.octets "bin".toList]

def usualFolders : List Char := "/usr/local/sbin:/usr/local/bin:/usr/sbin:/usr/bin:/sbin:/bin".toList

def programFolders (sh : Shell) : List (List Char) :=
  ((sh.valueOf? "PATH".toList).getD usualFolders).foldr
    (fun c parts =>
      match c, parts with
      | ':', _ => [] :: parts
      | _, [] => [[c]]
      | _, first :: others => (c :: first) :: others)
    [[]]

def foundAt (sh : Shell) (path : List Char) : Found :=
  match sh.resolve? path with
  | none => .nowhere
  | some place =>
      match sh.machine.files.get? place with
      | none => .nowhere
      | some entry => if isStartable entry then .program path place else .denied

def searchIn (sh : Shell) (name : List Char) (folders : List (List Char)) : Found :=
  let paths := folders.map fun folder => if folder.isEmpty then name else folder ++ '/' :: name
  let all := paths.map sh.foundAt
  let isProgram := fun found : Found =>
    match found with
    | .program _ _ => true
    | _ => false
  match all.find? isProgram with
  | some found => found
  | none =>
      let entries := paths.filterMap sh.standing?
      if entries.any (· != .folder) then .denied
      else if entries.isEmpty then .nowhere
      else .unfit

/-- Looks for a program: by its path when the name has a slash in it. -/
def search (sh : Shell) (name : List Char) : Found :=
  if name.contains '/' then sh.foundAt name
  else if name.isEmpty then .unfit
  else sh.searchIn name sh.programFolders

def frontSize : Nat := 256

def endsPart (c : Char) : Bool := c == ' ' || c == '\t' || c == '\x00'

/-- The path and the argument of an interpreter in a text without blanks at its end. -/
def interpreterOf? (text : List Char) : Option (List Char × List (List Char)) :=
  let isBlank := fun c : Char => c == ' ' || c == '\t'
  match text.dropWhile isBlank with
  | [] => none
  | start =>
      let rest := start.dropWhile fun c => !endsPart c
      let argument := rest.dropWhile isBlank
      some (start.takeWhile fun c => !endsPart c,
        if rest.head?.any isBlank then [argument.takeWhile (· != '\x00')] else [])

/-- The path and the argument of the interpreter that a file names in its first line. When the line
is longer than the front of the file, the path at least must end there. -/
def interpreter? (content : List Char) : Option (List Char × List (List Char)) :=
  let isBlank := fun c : Char => c == ' ' || c == '\t'
  let trimmed := fun text : List Char => (text.reverse.dropWhile isBlank).reverse
  match content.take frontSize ++ List.replicate (frontSize - content.length) '\x00' with
  | '#' :: '!' :: front =>
      let line := front.takeWhile fun c => c != '\n' && c != '\x00'
      if (front.drop line.length).head? == some '\n' then interpreterOf? (trimmed line)
      else if (front.dropWhile isBlank).any endsPart then interpreterOf? (trimmed front.dropLast)
      else none
  | _ => none

def specialNames : List String :=
  [".", ":", "break", "continue", "eval", "exec", "exit", "export", "local", "readonly", "return",
    "set", "shift", "times", "trap", "unset"]

def regularNames : List String :=
  ["[", "alias", "bg", "cd", "chdir", "command", "echo", "false", "fg", "getopts", "hash", "jobs",
    "kill", "printf", "pwd", "read", "test", "true", "type", "ulimit", "umask", "unalias", "wait"]

def isOwn (name : List Char) : Bool :=
  specialNames.contains (String.ofList name) || regularNames.contains (String.ofList name)

def isSpecial (name : List Char) : Bool := specialNames.contains (String.ofList name)

def function? (sh : Shell) (name : List Char) : Option Script :=
  (sh.functions.find? fun entry => entry.1 == name).map Prod.snd

def alias? (sh : Shell) (name : List Char) : Option (List Char) :=
  (sh.aliases.find? fun entry => entry.1 == name).map Prod.snd

def aliasLine (name text : List Char) : List Char := name ++ '=' :: inScriptQuotes text

def programPath? (sh : Shell) (name : List Char) : Option (List Char) :=
  match sh.search name with
  | .program path _ => some path
  | _ => none

def describe (sh : Shell) (name : List Char) : Shell :=
  let told := fun text : String => sh.printLine (name ++ text.toList)
  if Reader.keywords.contains (String.ofList name) then told " is a shell keyword"
  else
    match sh.alias? name with
    | some text => sh.printLine (name ++ " is an alias for ".toList ++ text)
    | none =>
        if isSpecial name then told " is a special shell builtin"
        else if (sh.function? name).isSome then told " is a shell function"
        else if isOwn name then told " is a shell builtin"
        else
          match sh.programPath? name with
          | some path =>
              let relation := if sh.known.contains name then " is a tracked alias for " else " is "
              sh.printLine (name ++ relation.toList ++ path)
          | none => (told ": not found").withStatus 127

def locate (sh : Shell) (name : List Char) : Shell :=
  if Reader.keywords.contains (String.ofList name) then sh.printLine name
  else
    match sh.alias? name with
    | some text => sh.printLine ("alias ".toList ++ aliasLine name text)
    | none =>
        if (sh.function? name).isSome || isOwn name then sh.printLine name
        else
          match sh.programPath? name with
          | some path => sh.printLine path
          | none => sh.withStatus 127

def describeAll : Own := fun sh names => names.foldl describe (sh.withStatus 0)

/-- Finds programs by their names, forgets all of them, or lists them. -/
def remember : Own := fun sh arguments =>
  sh.withLetters "rv" arguments fun letters names =>
    let sh := sh.withStatus 0
    if letters.contains 'r' then { sh with known := [] }
    else if names.isEmpty then
      (sh.known.mergeSort Text.precedes).foldl
        (fun sh name => sh.printLine ((sh.programPath? name).getD name)) sh
    else
      names.foldl
        (fun sh name =>
          if isOwn name || (sh.function? name).isSome then sh
          else
            match sh.programPath? name with
            | some _ => { sh with known := name :: sh.known.filter (· != name) }
            | none => (sh.complain (sh.place ++ name ++ ": not found".toList)).withStatus 1)
        sh

def nameTexts : Own := fun sh words =>
  let sh := sh.withStatus 0
  if words.isEmpty then
    sh.print (sh.aliases.flatMap fun (name, text) => aliasLine name text ++ ['\n'])
  else
    words.foldl
      (fun sh word =>
        let name := word.take 1 ++ (word.drop 1).takeWhile (· != '=')
        if name.length < word.length then
          { sh with
            aliases := (name, word.drop (name.length + 1)) ::
              sh.aliases.filter fun entry => entry.1 != name }
        else
          match sh.alias? word with
          | some text => sh.printLine (aliasLine word text)
          | none =>
              (sh.complain ("alias: ".toList ++ word ++ " not found".toList)).withStatus 1)
      sh

def forgetTexts : Own := fun sh arguments =>
  sh.withLetters "a" arguments fun letters names =>
    let sh := sh.withStatus 0
    if !letters.isEmpty then { sh with aliases := [] }
    else
      names.foldl
        (fun sh name =>
          if (sh.alias? name).isSome then
            { sh with aliases := sh.aliases.filter fun entry => entry.1 != name }
          else
            (sh.complain ("unalias: ".toList ++ name ++ " not found".toList)).withStatus 1)
        sh

end Shell

end AsmDiagnostics.Machine
