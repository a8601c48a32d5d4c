import Mathlib.Data.List.DropRight
import AsmDiagnostics.Text.Blank

/-!
# Trimming

What trimming leaves of a text: nothing if it was blank, and otherwise a text with no blank at its
two ends.  Blanks in front of a text or behind it make no difference.
-/

namespace AsmDiagnostics.Text

theorem trimEnd_eq (s : List Char) : trimEnd s = s.rdropWhile isBlank := rfl

theorem allBlank_iff {s : List Char} : allBlank s = true ↔ ∀ c ∈ s, isBlank c = true :=
  List.all_eq_true

theorem trimStart_append_blanks {blanks : List Char} (h : allBlank blanks = true)
    (s : List Char) : trimStart (blanks ++ s) = trimStart s :=
  List.dropWhile_append_of_pos (allBlank_iff.mp h)

theorem takeWhile_append_blanks {blanks : List Char} (h : allBlank blanks = true)
    (s : List Char) : (blanks ++ s).takeWhile isBlank = blanks ++ s.takeWhile isBlank :=
  List.takeWhile_append_of_pos (allBlank_iff.mp h)

/-- A text is its leading blanks and what trimming its start leaves. -/
theorem blanks_append_trimStart (s : List Char) :
    s.takeWhile isBlank ++ trimStart s = s := List.takeWhile_append_dropWhile

theorem allBlank_takeWhile (s : List Char) : allBlank (s.takeWhile isBlank) = true :=
  List.all_takeWhile

/-- Blanks in front of a character that is none are leading blanks of the whole text. -/
theorem trimStart_append_solid {c : Char} (h : isBlank c = false) (s rest : List Char) :
    trimStart (s ++ c :: rest) = trimStart s ++ c :: rest := by
  unfold trimStart
  rw [List.dropWhile_append]
  split
  · rename_i blank
    rw [List.isEmpty_iff] at blank
    rw [blank, List.dropWhile_cons_of_neg (by simp [h]), List.nil_append]
  · rfl

/-- Behind blanks that are all the leading blanks of a text, the text goes on as it is. -/
theorem trimStart_of_all_blanks {blanks s : List Char} (h : allBlank blanks = true)
    (all : ((blanks ++ s).takeWhile isBlank).length ≤ blanks.length) :
    trimStart (blanks ++ s) = s := by
  rw [takeWhile_append_blanks h, List.length_append] at all
  have none : s.takeWhile isBlank = [] := List.length_eq_zero_iff.mp (by omega)
  have parts := blanks_append_trimStart s
  rw [none, List.nil_append] at parts
  rw [trimStart_append_blanks h, parts]

theorem trimEnd_eq_nil_iff {s : List Char} : trimEnd s = [] ↔ allBlank s = true := by
  rw [trimEnd_eq, List.rdropWhile_eq_nil_iff, allBlank_iff]

theorem allBlank_trimStart (s : List Char) : allBlank (trimStart s) = allBlank s := by
  have parts := congrArg allBlank (blanks_append_trimStart s)
  have front := allBlank_takeWhile s
  unfold allBlank at parts front ⊢
  rw [List.all_append, front, Bool.true_and] at parts
  exact parts

theorem trim_eq_nil_iff {s : List Char} : trim s = [] ↔ allBlank s = true := by
  rw [trim, trimEnd_eq_nil_iff, allBlank_trimStart]

theorem trim_append_blanks {blanks : List Char} (h : allBlank blanks = true) (s : List Char) :
    trim (blanks ++ s) = trim s := by
  unfold trim
  rw [trimStart_append_blanks h]

theorem trimEnd_append_blanks {blanks : List Char} (h : allBlank blanks = true) (s : List Char) :
    trimEnd (s ++ blanks) = trimEnd s := by
  have back : ∀ c ∈ blanks.reverse, isBlank c = true := fun c member =>
    allBlank_iff.mp h c (List.mem_reverse.mp member)
  unfold trimEnd
  rw [List.reverse_append, List.dropWhile_append_of_pos back]

/-- A text is what trimming its end leaves, and blanks. -/
theorem trimEnd_append_trailing (s : List Char) :
    ∃ blanks, allBlank blanks = true ∧ s = trimEnd s ++ blanks := by
  refine ⟨(s.reverse.takeWhile isBlank).reverse, ?_, ?_⟩
  · unfold allBlank
    rw [List.all_reverse]
    exact List.all_takeWhile
  · unfold trimEnd
    rw [← List.reverse_append, List.takeWhile_append_dropWhile, List.reverse_reverse]

theorem allBlank_trimEnd (s : List Char) : allBlank (trimEnd s) = allBlank s := by
  obtain ⟨blanks, blank, whole⟩ := trimEnd_append_trailing s
  conv_rhs => rw [whole]
  unfold allBlank at blank ⊢
  rw [List.all_append, blank, Bool.and_true]

theorem trim_append_trailing (s : List Char) {blanks : List Char} (h : allBlank blanks = true) :
    trim (s ++ blanks) = trim s := by
  unfold trim trimStart
  rw [List.dropWhile_append]
  split
  · rename_i blank
    rw [List.isEmpty_iff] at blank
    rw [blank, show blanks.dropWhile isBlank = [] from trimStart_of_allBlank h]
  · exact trimEnd_append_blanks h _

theorem trim_trimStart (s : List Char) : trim (trimStart s) = trim s := by
  conv_rhs => rw [← blanks_append_trimStart s]
  exact (trim_append_blanks (allBlank_takeWhile s) _).symm

theorem trim_trimEnd (s : List Char) : trim (trimEnd s) = trim s := by
  obtain ⟨blanks, blank, whole⟩ := trimEnd_append_trailing s
  conv_rhs => rw [whole]
  exact (trim_append_trailing _ blank).symm

/-- Trimming the end does not go beyond a character that is no blank. -/
theorem trimEnd_append_solid {c : Char} (h : isBlank c = false) (s rest : List Char) :
    trimEnd (s ++ c :: rest) = s ++ c :: trimEnd rest := by
  have kept := trimStart_append_solid h rest.reverse s.reverse
  unfold trimStart at kept
  unfold trimEnd
  simp [kept]

/-- What trimming leaves has no blank at its front. -/
theorem trimStart_trimEnd_trimStart (s : List Char) :
    trimStart (trimEnd (trimStart s)) = trimEnd (trimStart s) := by
  rcases blank : trimEnd (trimStart s) with _ | ⟨c, rest⟩
  · rfl
  · obtain ⟨others, whole⟩ : trimEnd (trimStart s) <+: trimStart s :=
      List.rdropWhile_prefix isBlank (trimStart s)
    rw [blank, List.cons_append] at whole
    have solid : isBlank c = false := by
      have first := List.head_dropWhile_not isBlank (l := s)
        (show s.dropWhile isBlank ≠ [] by
          rw [show s.dropWhile isBlank = trimStart s from rfl, ← whole]
          exact List.cons_ne_nil _ _)
      simpa [show s.dropWhile isBlank = c :: (rest ++ others) from whole.symm] using first
    exact trimStart_cons_solid solid rest

theorem trim_trim (s : List Char) : trim (trim s) = trim s := by
  calc
    trim (trim s) = trimEnd (trimStart (trimEnd (trimStart s))) := rfl
    _ = trimEnd (trimEnd (trimStart s)) := by rw [trimStart_trimEnd_trimStart]
    _ = trim s := List.rdropWhile_idempotent isBlank (trimStart s)

end AsmDiagnostics.Text
