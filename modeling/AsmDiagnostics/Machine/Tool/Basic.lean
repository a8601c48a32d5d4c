import AsmDiagnostics.Machine.Shell.Basic
import AsmDiagnostics.Machine.Tool.Options

/-!
# Tools

What programs have in common: they complain in their own name, tell how they are used, and read
files or their input. A program takes the shell of its process, and leaves its output and its status
there.
-/

namespace AsmDiagnostics.Machine

abbrev Tool := Shell → List (List Char) → Shell

def inQuotes (text : List Char) : List Char := '\'' :: text ++ ['\'']

def linesOf (text : List Char) : List (List Char) :=
  let (last, before) := text.foldl
    (fun (current, done) c =>
      if c = '\n' then ([], ('\n' :: current).reverse :: done) else (c :: current, done))
    ([], [])
  before.reverse ++ (if last.isEmpty then [] else [last.reverse])

def bareLine (text : List Char) : List Char :=
  if text.getLast? == some '\n' then text.dropLast else text

def bareLinesOf (text : List Char) : List (List Char) := (linesOf text).map bareLine

def splitAll (p : Char → Bool) (text : List Char) : List (List Char) :=
  let (last, before) := text.foldl
    (fun (current, done) c =>
      if p c then ([], current.reverse :: done) else (c :: current, done))
    ([], [])
  before.reverse ++ [last.reverse]

namespace Shell

def say (sh : Shell) (text : List Char) : Shell := sh.complain (sh.name ++ ": ".toList ++ text)

def sayFailed (sh : Shell) (text : List Char) : Shell := (sh.say text).withStatus 1

def advise (sh : Shell) (status : Nat) : Shell :=
  (sh.complain ("Try '".toList ++ sh.name ++ " --help' for more information.".toList)).withStatus
    status

def misused (sh : Shell) (text : List Char) (status : Nat) : Shell := (sh.say text).advise status

def withGiven (sh : Shell) (given : Except (List Char) Given) (status : Nat)
    (run : Shell → Given → Shell) : Shell :=
  match given with
  | .ok g => run (sh.withStatus 0) g
  | .error text => sh.misused text status

def problem (sh : Shell) (path : List Char) : String :=
  sh.machine.files.problem sh.folder ⟨Text.octets path⟩

def channelOf? (path : List Char) : Option Nat :=
  match String.ofList path with
  | "/dev/stdin" => some 0
  | "/dev/stdout" => some 1
  | "/dev/stderr" => some 2
  | "/proc/self/fd/0" => some 0
  | "/proc/self/fd/1" => some 1
  | "/proc/self/fd/2" => some 2
  | _ =>
      if "/dev/fd/".toList.isPrefixOf path && path.length == 9 then
        path.getLast?.bind Text.digitValue?
      else none

def source (sh : Shell) (path : List Char) : Except String (List Char) × Shell :=
  match if path = ['-'] then some 0 else channelOf? path with
  | some number =>
      match sh.channel? number with
      | none =>
          (.error (if path = ['-'] then "Bad file descriptor" else "No such file or directory"), sh)
      | some (.file place) =>
          if sh.machine.files.isFolder place then (.error "Is a directory", sh)
          else (.ok [], sh)
      | some _ =>
          let (text, rest) := sh.readAll number
          (.ok text, rest)
  | none =>
      match sh.resolve? path with
      | none => (.error (sh.problem path), sh)
      | some place =>
          match sh.machine.files.contentAt? place with
          | some content => (.ok (Text.ofOctets content), sh)
          | none => (.error "Is a directory", sh)

/-- The text of a file or of the input; what is wrong is told. -/
def sourceOrSay (sh : Shell) (path : List Char) : Option (List Char) × Shell :=
  match sh.source path with
  | (.ok text, rest) => (some text, rest)
  | (.error reason, rest) =>
      (none, rest.sayFailed (path ++ ": ".toList ++ reason.toList))

def orInput (paths : List (List Char)) : List (List Char) :=
  if paths.isEmpty then [['-']] else paths

def withSources (sh : Shell) (paths : List (List Char))
    (use : Shell → List Char → List Char → Shell) : Shell :=
  (orInput paths).foldl
    (fun sh path =>
      match sh.sourceOrSay path with
      | (some text, rest) => use rest path text
      | (none, rest) => rest)
    sh

def sources (sh : Shell) (paths : List (List Char)) : List Char × Shell :=
  (orInput paths).foldl
    (fun (text, sh) path =>
      match sh.sourceOrSay path with
      | (some more, rest) => (text ++ more, rest)
      | (none, rest) => (text, rest))
    ([], sh)

/-- Prints a text; that it cannot be printed is told and is a failure. -/
def output (sh : Shell) (text : List Char) : Shell :=
  if text.isEmpty || sh.isWritable 1 then sh.print text
  else sh.sayFailed "write error: Bad file descriptor".toList

/-- Writes a file anew, if there may be one, or tells why not. -/
def writeFile (sh : Shell) (path text : List Char) (atEnd : Bool) : Except String Shell :=
  match channelOf? path with
  | some number => .ok (sh.write number text)
  | none =>
      match sh.resolve? path with
      | some place =>
          match sh.machine.files.get? place with
          | some .folder => .error "Is a directory"
          | some (.program _) => .error "Text file busy"
          | some (.file old _) =>
              let content := (if atEnd then old else []) ++ Text.octets text
              .ok (sh.withFiles ((sh.machine.files.writeAt? place content).getD sh.machine.files))
          | _ => .ok sh
      | none =>
          match sh.target? path with
          | some place =>
              .ok (sh.withFiles (sh.machine.files.put place (.file (Text.octets text) false)))
          | none => .error (sh.problem path)

end Shell

end AsmDiagnostics.Machine
