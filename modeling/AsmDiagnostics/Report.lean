import AsmDiagnostics.Diagnostic
import AsmDiagnostics.Path.Fold
import AsmDiagnostics.Text.Digit
import AsmDiagnostics.Text.Line

/-!
# Reports in the output of a build

The assembler prints a report as `<severity>: <file>(<line>): <message>`, or with the message on the
next line, indented by at least four blanks. Anything else in the output is noise.

A line is a report if some part of it has that form. The first severity word behind which the form
can be completed is taken, and the file ends at the first parenthesised number with a colon behind
it. The number may consist of digits of any script, but only a plain number of 32 bits counts;
otherwise the line is no report at all.
-/

namespace AsmDiagnostics

structure ReportParts where
  severity : Severity
  file : List Char
  digits : List Char
  rest : List Char
  deriving DecidableEq, Repr

/-- A report of the assembler; its line counts from one. -/
structure Report where
  severity : Severity
  file : List Char
  line : Nat
  message : List Char
  deriving DecidableEq, Repr

namespace Report

def afterWord : List Char → List Char → Option (List Char)
  | [], s => some s
  | _ :: _, [] => none
  | a :: word, b :: s => if a = b then afterWord word s else none

def severityWord? (s : List Char) : Option (Severity × List Char) :=
  match afterWord "error:".toList s with
  | some rest => some (.error, rest)
  | none => (afterWord "warning:".toList s).map fun rest => (.warning, rest)

/-- A parenthesised number with its colon at the front: the digits and the text behind. -/
def location? : List Char → Option (List Char × List Char)
  | '(' :: s =>
      let digits := s.takeWhile Text.isDecimalDigit
      if digits.isEmpty then none
      else (afterWord "):".toList (s.dropWhile Text.isDecimalDigit)).map fun rest => (digits, rest)
  | _ => none

/-- The text before the first parenthesised number with a colon, the digits, and the text behind. -/
def splitLocation? : List Char → Option (List Char × List Char × List Char)
  | [] => none
  | c :: s =>
      match location? (c :: s) with
      | some (digits, rest) => some ([], digits, rest)
      | none => (splitLocation? s).map fun found => (c :: found.1, found.2)

def atFront? (s : List Char) : Option ReportParts :=
  match severityWord? s with
  | none => none
  | some (severity, rest) =>
      (splitLocation? (Text.trimStart rest)).map fun found =>
        ⟨severity, found.1, found.2.1, found.2.2⟩

def find? : List Char → Option ReportParts
  | [] => none
  | c :: s =>
      match atFront? (c :: s) with
      | some parts => some parts
      | none => find? s

def ofLine? (line : List Char) : Option Report :=
  match find? line with
  | none => none
  | some parts =>
      match Text.readDigits Text.maxWord32 0 parts.digits with
      | .error _ => none
      | .ok number => some ⟨parts.severity, parts.file, number, Text.trim parts.rest⟩

/-- The fewest blanks before a message on a line of its own. -/
def indent : Nat := 4

def continuation? (line : List Char) : Option (List Char) :=
  if indent ≤ (line.takeWhile Text.isBlank).length then some (Text.trim line) else none

/-- The reports of lines that are not blank. A report without a message takes the next line as its
message if that line is indented. -/
def ofLines : List (List Char) → List Report
  | [] => []
  | line :: rest =>
      match ofLine? line with
      | none => ofLines rest
      | some report =>
          if report.message.isEmpty then
            match rest with
            | [] => [report]
            | next :: others =>
                match continuation? next with
                | some message => { report with message := message } :: ofLines others
                | none => report :: ofLines (next :: others)
          else report :: ofLines rest
termination_by lines => lines.length

def solidLines (output : List Char) : List (List Char) :=
  (Text.lines output).filter fun line => !Text.allBlank line

def ofOutput (output : List Char) : List Report := ofLines (solidLines output)

def path (r : Report) : Path := Path.reported r.file

def diagnostic (r : Report) : Diagnostic :=
  ⟨r.severity, UInt32.ofNat (r.line - 1), Diagnostic.shownMessage r.severity r.message⟩

def concerns (accepts : Path → Bool) (r : Report) : Bool :=
  !r.path.bytes.isEmpty && accepts r.path

theorem concerns_eq_true_iff (accepts : Path → Bool) (r : Report) :
    r.concerns accepts = true ↔
      (Path.reported r.file).bytes ≠ [] ∧ accepts (Path.reported r.file) = true := by
  simp [concerns, path]

def diagnosticsFor (accepts : Path → Bool) (output : List Char) : List Diagnostic :=
  ((ofOutput output).filter (concerns accepts)).map diagnostic

def diagnosticsAt (relative : Path) (output : String) : List Diagnostic :=
  diagnosticsFor relative.endsWith output.toList

theorem ofLines_nil : ofLines [] = [] := by simp [ofLines]

theorem ofLines_noise {line : List Char} (h : ofLine? line = none) (rest : List (List Char)) :
    ofLines (line :: rest) = ofLines rest := by
  rw [ofLines]
  simp [h]

end Report

end AsmDiagnostics
