import AsmDiagnostics.Machine.Shell.Own.Basic
import AsmDiagnostics.Machine.Tool.Basic

/-!
# Redirections

What a redirection does to the channels of a shell, given the text of its target.
-/

namespace AsmDiagnostics.Machine.Shell

def redirectionStatus : Nat := 2

def cannotCreate (sh : Shell) (path : List Char) (reason : String) : Shell :=
  sh.fault ("cannot create ".toList ++ path ++ ": ".toList ++ reason.toList) redirectionStatus

/-- Opens a file for writing; `isAnew` says that its old content is dropped, and `isKept` that there
must be none. -/
def openForWriting (sh : Shell) (number : Nat) (isAnew isKept : Bool) (path : List Char) :
    Except Shell Shell :=
  match channelOf? path with
  | some other =>
      match sh.channel? other with
      | some channel => .ok (sh.withChannel number (some channel))
      | none => .error (sh.cannotCreate path "No such device or address")
  | none =>
      let files := sh.machine.files
      match (sh.resolve? path).or (sh.target? path) with
      | none =>
          let reason := sh.problem path
          let isMissing := reason == "No such file or directory" || reason == "Not a directory"
          .error (sh.cannotCreate path (if isMissing then "Directory nonexistent" else reason))
      | some place =>
          match files.get? place with
          | some .folder => .error (sh.cannotCreate path "Is a directory")
          | some .nullDevice => .ok (sh.withChannel number (some .null))
          | some .zeroDevice => .ok (sh.withChannel number (some .null))
          | some (.program _) => .error (sh.cannotCreate path "Text file busy")
          | some (.file _ _) =>
              if isKept then .error (sh.cannotCreate path "File exists")
              else
                let files := if isAnew then (files.writeAt? place []).getD files else files
                .ok ((sh.withFiles files).withChannel number (some (.file place)))
          | none =>
              .ok ((sh.withFiles (files.put place (.file [] false))).withChannel number
                (some (.file place)))

def openForReading (sh : Shell) (number : Nat) (path : List Char) : Except Shell Shell :=
  match channelOf? path with
  | some other =>
      match sh.channel? other with
      | some channel => .ok (sh.withChannel number (some channel))
      | none => .error (sh.fault ("cannot open ".toList ++ path ++ ": No such file".toList)
          redirectionStatus)
  | none =>
      match sh.resolve? path with
      | some place =>
          match sh.machine.files.contentAt? place with
          | some content => .ok (sh.openText number (Text.ofOctets content) true)
          | none => .ok (sh.withChannel number (some (.file place)))
      | none =>
          let reason := sh.problem path
          let isMissing := reason == "No such file or directory" || reason == "Not a directory"
          .error (sh.fault ("cannot open ".toList ++ path ++ ": ".toList ++
            (if isMissing then "No such file" else reason).toList) redirectionStatus)

def redirectTo (sh : Shell) (number : Nat) (kind : RedirectionKind) (text : List Char) :
    Except Shell Shell :=
  match kind with
  | .write => sh.openForWriting number true (sh.has 'C') text
  | .overwrite => sh.openForWriting number true false text
  | .append => sh.openForWriting number false false text
  | .read => sh.openForReading number text
  | .both =>
      if (sh.resolve? text).isSome then sh.openForReading number text
      else sh.openForWriting number false false text
  | .duplicate =>
      if text = ['-'] then .ok (sh.withChannel number none)
      else if text.isEmpty || !text.all Char.isDigit then
        .error (sh.fail "Syntax error: Bad fd number".toList)
      else
        match sh.channel? (Numeral.decimalValue text) with
        | some channel => .ok (sh.withChannel number (some channel))
        | none => .error (sh.fault (text ++ ": Bad file descriptor".toList) redirectionStatus)

end AsmDiagnostics.Machine.Shell
