/-!
# Lines

A text is cut into lines at newlines. One carriage return directly before a newline belongs to the
line's end; a text that ends in a newline has no further empty line, and a last line without a
newline keeps all its characters.
-/

namespace AsmDiagnostics.Text

def splitNewlines : List Char → List (List Char)
  | [] => [[]]
  | c :: rest =>
      if c = '\n' then [] :: splitNewlines rest
      else
        match splitNewlines rest with
        | [] => [[c]]
        | piece :: pieces => (c :: piece) :: pieces

def dropReturn (line : List Char) : List Char :=
  if line.getLast? = some '\r' then line.dropLast else line

/-- The pieces of a cut text as lines: every piece but the last was ended by a newline, and the
last one counts only if it is not empty. -/
def finishLines : List (List Char) → List (List Char)
  | [] => []
  | [last] => if last.isEmpty then [] else [last]
  | piece :: pieces => dropReturn piece :: finishLines pieces

def lines (s : List Char) : List (List Char) := finishLines (splitNewlines s)

theorem splitNewlines_ne_nil (s : List Char) : splitNewlines s ≠ [] := by
  cases s with
  | nil => simp [splitNewlines]
  | cons c rest =>
      unfold splitNewlines
      split
      · simp
      · split <;> simp

theorem splitNewlines_newline (s : List Char) :
    splitNewlines ('\n' :: s) = [] :: splitNewlines s := by
  simp [splitNewlines]

end AsmDiagnostics.Text
