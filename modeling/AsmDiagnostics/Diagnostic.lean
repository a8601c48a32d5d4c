import AsmDiagnostics.Json.Basic
import AsmDiagnostics.Text.Blank

/-!
# Diagnostics

An error or a warning on a line of a document, as an editor shows it. The assembler reports whole
lines only, so a diagnostic covers its line from the first column to a column past any real one.
-/

namespace AsmDiagnostics

inductive Severity where
  | error
  | warning
  deriving DecidableEq, Repr

namespace Severity

def label : Severity → String
  | .error => "error"
  | .warning => "warning"

def code : Severity → Nat
  | .error => 1
  | .warning => 2

def ofKeyword? (keyword : String) : Option Severity :=
  if keyword = "error" then some .error
  else if keyword = "warning" then some .warning
  else none

theorem ofKeyword?_label (s : Severity) : ofKeyword? s.label = some s := by
  cases s <;> decide

end Severity

/-- A place in a text: a line and a column, both from zero. -/
structure Position where
  line : UInt32
  character : UInt32
  deriving DecidableEq, Repr

/-- A stretch of text between two places. -/
structure Range where
  start : Position
  stop : Position
  deriving DecidableEq, Repr

namespace Range

def lineEnd : UInt32 := 999

def wholeLine (line : UInt32) : Range := ⟨⟨line, 0⟩, ⟨line, lineEnd⟩⟩

end Range

/-- An error or a warning on a line of a document. -/
structure Diagnostic where
  severity : Severity
  line : UInt32
  message : String
  deriving DecidableEq, Repr

namespace Diagnostic

def source : String := "rgbasm"

def unknownMessage (severity : Severity) : String :=
  "Unknown " ++ severity.label ++ " reported by " ++ source ++ "."

/-- A message without blanks around it, or the message that stands for a blank one. -/
def shownMessage (severity : Severity) (message : List Char) : String :=
  if (Text.trim message).isEmpty then unknownMessage severity
  else String.ofList (Text.trim message)

def wholeLine (severity : Severity) (line : UInt32) (message : String) : Diagnostic :=
  ⟨severity, line, shownMessage severity message.toList⟩

def range (d : Diagnostic) : Range := Range.wholeLine d.line

def positionValue (p : Position) : Json :=
  Json.object [("line", .nat p.line.toNat), ("character", .nat p.character.toNat)]

def rangeValue (r : Range) : Json :=
  Json.object [("start", positionValue r.start), ("end", positionValue r.stop)]

def value (d : Diagnostic) : Json :=
  Json.object
    [("range", rangeValue d.range), ("severity", .nat d.severity.code), ("source", .str source),
      ("message", .str d.message)]

def listValue (ds : List Diagnostic) : Json := .arr (ds.map value)

end Diagnostic

end AsmDiagnostics
