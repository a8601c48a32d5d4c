import AsmDiagnostics.Proofs.Text.Blank
import AsmDiagnostics.Text.Line

/-!
# Lines of a printed text

A text that was printed line by line has these lines, up to one carriage return at the end of each.
Such a carriage return makes no difference once a text is trimmed.
-/

namespace AsmDiagnostics.Text

/-! ## Cutting -/

theorem splitNewlines_of_single {line : List Char} (single : '\n' ∉ line) :
    splitNewlines line = [line] := by
  induction line with
  | nil => rfl
  | cons c line ih =>
      rw [List.mem_cons, not_or] at single
      rw [splitNewlines, if_neg (Ne.symm single.1), ih single.2]

/-- Texts with a newline between them are cut apart. -/
theorem splitNewlines_glue (s t : List Char) :
    splitNewlines (s ++ '\n' :: t) = splitNewlines s ++ splitNewlines t := by
  induction s with
  | nil => exact splitNewlines_newline t
  | cons c s ih =>
      rw [List.cons_append, splitNewlines, splitNewlines, ih]
      split
      · rfl
      · cases cut : splitNewlines s with
        | nil => exact absurd cut (splitNewlines_ne_nil s)
        | cons piece pieces => rfl

theorem splitNewlines_append {line : List Char} (single : '\n' ∉ line) (rest : List Char) :
    splitNewlines (line ++ '\n' :: rest) = line :: splitNewlines rest := by
  rw [splitNewlines_glue, splitNewlines_of_single single, List.singleton_append]

theorem single_of_mem_splitNewlines {s line : List Char} (member : line ∈ splitNewlines s) :
    '\n' ∉ line := by
  induction s generalizing line with
  | nil =>
      obtain rfl := List.mem_singleton.mp member
      exact List.not_mem_nil
  | cons c rest ih =>
      by_cases cut : c = '\n'
      · rw [cut, splitNewlines_newline] at member
        rcases List.mem_cons.mp member with rfl | later
        · exact List.not_mem_nil
        · exact ih later
      · cases split : splitNewlines rest with
        | nil => exact absurd split (splitNewlines_ne_nil rest)
        | cons first others =>
            rw [split] at ih
            simp only [splitNewlines, if_neg cut, split] at member
            rcases List.mem_cons.mp member with rfl | later
            · rw [List.mem_cons, not_or]
              exact ⟨Ne.symm cut, ih List.mem_cons_self⟩
            · exact ih (List.mem_cons_of_mem _ later)

/-- Lines with newlines between them are cut into these lines. -/
theorem splitNewlines_intercalate {first : List Char} {others : List (List Char)}
    (single : ∀ line ∈ first :: others, '\n' ∉ line) :
    splitNewlines (['\n'].intercalate (first :: others)) = first :: others := by
  induction others generalizing first with
  | nil =>
      rw [List.intercalate_singleton]
      exact splitNewlines_of_single (single first List.mem_cons_self)
  | cons second others ih =>
      rw [List.forall_mem_cons] at single
      rw [List.intercalate_cons_cons, List.append_assoc, List.singleton_append,
        splitNewlines_append single.1, ih single.2]

theorem finishLines_cons (line : List Char) {pieces : List (List Char)} (some : pieces ≠ []) :
    finishLines (line :: pieces) = dropReturn line :: finishLines pieces := by
  cases pieces with
  | nil => exact absurd rfl some
  | cons piece pieces => rfl

theorem lines_append {line : List Char} (single : '\n' ∉ line) (rest : List Char) :
    lines (line ++ '\n' :: rest) = dropReturn line :: lines rest := by
  unfold lines
  rw [splitNewlines_append single, finishLines_cons line (splitNewlines_ne_nil rest)]

/-- The lines of a text that was printed line by line. -/
theorem lines_flatMap {printed : List (List Char)} (single : ∀ line ∈ printed, '\n' ∉ line) :
    lines (printed.flatMap fun line => line ++ ['\n']) = printed.map dropReturn := by
  induction printed with
  | nil => rfl
  | cons line printed ih =>
      rw [List.forall_mem_cons] at single
      rw [List.flatMap_cons, List.append_assoc, List.singleton_append, lines_append single.1,
        ih single.2, List.map_cons]

/-! ## Carriage returns -/

theorem dropReturn_append (front : List Char) {back : List Char} (some : back ≠ []) :
    dropReturn (front ++ back) = front ++ dropReturn back := by
  unfold dropReturn
  rw [List.getLast?_append_of_ne_nil front some, List.dropLast_append_of_ne_nil some]
  split <;> rfl

/-- A line ends in a carriage return that is dropped, or stays as it is. -/
theorem dropReturn_cases (line : List Char) :
    dropReturn line = line ∨ line = dropReturn line ++ ['\r'] := by
  unfold dropReturn
  split
  · rename_i last
    exact .inr (List.dropLast_append_getLast? '\r' last).symm
  · exact .inl rfl

theorem allBlank_dropReturn (line : List Char) : allBlank (dropReturn line) = allBlank line := by
  rcases dropReturn_cases line with same | cut
  · rw [same]
  · conv_rhs => rw [cut]
    simp [allBlank, isBlank_return]

theorem trim_dropReturn (line : List Char) : trim (dropReturn line) = trim line := by
  rcases dropReturn_cases line with same | cut
  · rw [same]
  · conv_rhs => rw [cut]
    exact (trim_append_trailing _ (show allBlank ['\r'] = true by decide)).symm

theorem trimEnd_dropReturn (line : List Char) : trimEnd (dropReturn line) = trimEnd line := by
  rcases dropReturn_cases line with same | cut
  · rw [same]
  · conv_rhs => rw [cut]
    exact (trimEnd_append_blanks (show allBlank ['\r'] = true by decide) _).symm

end AsmDiagnostics.Text
