import AsmDiagnostics.Text.Composite
import AsmDiagnostics.Text.Mark

/-!
# The composed form of texts

Texts that look alike may be written in different ways: a letter with its marks is one character or
several, and marks of different classes come in any order. The composed form is the same for all of
them. It takes every character apart, sorts the marks behind each letter by their classes, and puts
together what can be.
-/

namespace AsmDiagnostics.Text

/-- A code point that is drawn onto what precedes it, and may change places with its neighbours. -/
def isMovable (code : Nat) : Bool := markClass code != 0

/-- Sorts every run of marks by their classes; marks of one class keep their order. -/
def sortMarks : List Nat → List Nat
  | [] => []
  | code :: rest =>
      if isMovable code then
        ((code :: rest.takeWhile isMovable).mergeSort
          fun a b => decide (markClass a ≤ markClass b)) ++ sortMarks (rest.dropWhile isMovable)
      else code :: sortMarks rest
termination_by codes => codes.length
decreasing_by
  · exact Nat.lt_succ_of_le (List.dropWhile_sublist isMovable).length_le
  · exact Nat.lt_succ_self _

/-- Puts characters together with the letter before them. The marks since that letter are in
reverse; a mark between them that is not of a lower class keeps a character from the letter. -/
def putTogether : Option Nat → List Nat → List Nat → List Nat
  | letter, marks, [] => letter.toList ++ marks.reverse
  | none, _, code :: rest =>
      if markClass code = 0 then putTogether (some code) [] rest
      else code :: putTogether none [] rest
  | some letter, marks, code :: rest =>
      let isFree :=
        match marks with
        | [] => true
        | last :: _ => decide (markClass last < markClass code)
      match if isFree then join? letter code else none with
      | some both => putTogether (some both) marks rest
      | none =>
          if markClass code = 0 then letter :: marks.reverse ++ putTogether (some code) [] rest
          else putTogether (some letter) (code :: marks) rest

def composeCodes (codes : List Nat) : List Nat :=
  putTogether none [] (sortMarks (codes.flatMap expand))

end AsmDiagnostics.Text
