import AsmDiagnostics.Machine.Numeral
import AsmDiagnostics.Machine.Script.Source
import AsmDiagnostics.Machine.Shell.Basic

/-!
# Commands of the shell itself

What the commands that a shell performs itself have in common. They read options of single letters
in front of their arguments, and a fault in these ends the command.
-/

namespace AsmDiagnostics.Machine

abbrev Own := Shell → List (List Char) → Shell

/-- The options of single letters in front of arguments, and the rest; a letter that is no option is
a fault. -/
def leadingLetters (letters : List Char) :
    List (List Char) → Except Char (List Char × List (List Char))
  | ['-', '-'] :: rest => .ok ([], rest)
  | ('-' :: c :: more) :: rest =>
      match (c :: more).find? fun c => !letters.contains c with
      | some unknown => .error unknown
      | none => (leadingLetters letters rest).map fun (given, last) => (c :: more ++ given, last)
  | rest => .ok ([], rest)

/-- A text in single quotes, so that a script means it; single quotes in it stand between double
ones. -/
def inScriptQuotes (s : List Char) : List Char :=
  go (s.length + 1) s
where
  /-- The quoted form of what is left. -/
  go : Nat → List Char → List Char
    | 0, _ => []
    | bound + 1, s =>
        let front := s.takeWhile (· != '\'')
        let rest := s.drop front.length
        let quotes := rest.takeWhile (· == '\'')
        let after := rest.drop quotes.length
        '\'' :: front ++ ['\''] ++
          (if quotes.isEmpty then [] else '"' :: quotes ++ ['"'] ++ if after.isEmpty then [] else
            go bound after)

namespace Shell

def withLetters (sh : Shell) (letters : String) (arguments : List (List Char))
    (run : List Char → List (List Char) → Shell) : Shell :=
  match leadingLetters letters.toList arguments with
  | .ok (given, rest) => run given rest
  | .error c => sh.fail ("Illegal option -".toList ++ [c])

def wholeNumber? (text : List Char) : Option Nat :=
  let n := Numeral.decimalValue text
  if !text.isEmpty && text.all Char.isDigit && decide (n ≤ 2147483647) then some n else none

def withNumber (sh : Shell) (text : List Char) (run : Nat → Shell) : Shell :=
  match wholeNumber? text with
  | some n => run n
  | none => sh.fail ("Illegal number: ".toList ++ text)

def bindingOf (word : List Char) : List Char × Option (List Char) :=
  let name := word.takeWhile (· != '=')
  (name, if name.length < word.length then some (word.drop (name.length + 1)) else none)

def withName (sh : Shell) (name : List Char) (run : Shell) : Shell :=
  if Reader.isName name then run else sh.fail (name ++ ": bad variable name".toList)

def forEach (sh : Shell) (texts : List (List Char)) (step : Shell → List Char → Shell) : Shell :=
  texts.foldl (fun sh text => if sh.isRunning then step sh text else sh) sh

end Shell

end AsmDiagnostics.Machine
