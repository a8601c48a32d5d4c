import AsmDiagnostics.Proofs.Report.Stitching
import AsmDiagnostics.Proofs.Text.Line

/-!
# Blanks at the ends of lines

Blanks at the end of a line change neither the report that it announces nor the message that it
serves as. So the reports of an output can be read off its lines as they are cut at the newlines,
whether a carriage return stands before a newline or not.
-/

namespace AsmDiagnostics

namespace Reading

variable {r : Reading} {line blanks : List Char}

/-- The part of a line in front of the rest. -/
def heading (r : Reading) : List Char :=
  r.front ++ (r.severity.label.toList ++ ':' ::
    (r.blanks ++ (r.file ++ '(' :: (r.digits ++ [')', ':']))))

theorem text_eq_heading (r : Reading) : r.text = r.heading ++ r.rest := by
  simp [text, heading]

theorem getLast?_heading (r : Reading) : r.heading.getLast? = Option.some ':' := by
  have ends : r.heading = (r.front ++ (r.severity.label.toList ++ ':' ::
      (r.blanks ++ (r.file ++ '(' :: (r.digits ++ [')']))))) ++ [':'] := by
    simp [heading]
  rw [ends, List.getLast?_concat]

theorem Fits.append_blanks (h : r.Fits line) (blanks : List Char) :
    { r with rest := r.rest ++ blanks }.Fits (line ++ blanks) := by
  refine ⟨?_, h.blank, h.some, h.digital⟩
  rw [← h.whole]
  simp [text]

/-- Blanks at the end of a line belong to the rest of each reading. -/
theorem Fits.of_append_blanks (h : r.Fits (line ++ blanks)) (blank : Text.allBlank blanks = true) :
    ∃ rest, r.rest = rest ++ blanks ∧ { r with rest := rest }.Fits line := by
  have whole : r.heading ++ r.rest = line ++ blanks := (text_eq_heading r).symm.trans h.whole
  rcases List.append_eq_append_iff.mp whole with ⟨rest, cut, same⟩ | ⟨last, cut, same⟩
  · refine ⟨rest, same, ⟨?_, h.blank, h.some, h.digital⟩⟩
    rw [cut, text_eq_heading]
    rfl
  · -- the colon in front of the rest is no blank, so nothing of the heading is behind the line
    have none : last = [] := by
      by_contra some
      have colon : ':' ∈ last := by
        apply List.mem_of_getLast?
        rw [← getLast?_heading r, cut, List.getLast?_append_of_ne_nil line some]
      have inside := Text.allBlank_iff.mp blank ':' (same ▸ List.mem_append_left _ colon)
      exact absurd inside (by decide)
    rw [none, List.append_nil] at cut
    rw [none, List.nil_append] at same
    refine ⟨[], same.symm, ⟨?_, h.blank, h.some, h.digital⟩⟩
    rw [← cut, text_eq_heading, List.append_nil]
    rfl

theorem Chosen.append_blanks (h : r.Chosen line) (blank : Text.allBlank blanks = true) :
    { r with rest := r.rest ++ blanks }.Chosen (line ++ blanks) := by
  refine ⟨h.fits.append_blanks blanks, fun other fits => ?_⟩
  obtain ⟨rest, -, shorter⟩ := fits.of_append_blanks blank
  exact h.first { other with rest := rest } shorter

theorem Chosen.of_append_blanks (h : r.Chosen (line ++ blanks))
    (blank : Text.allBlank blanks = true) :
    ∃ rest, r.rest = rest ++ blanks ∧ { r with rest := rest }.Chosen line := by
  obtain ⟨rest, same, fits⟩ := h.fits.of_append_blanks blank
  exact ⟨rest, same, fits, fun other also =>
    h.first { other with rest := other.rest ++ blanks } (also.append_blanks blanks)⟩

end Reading

theorem announces_append_blanks {line blanks : List Char} (blank : Text.allBlank blanks = true)
    {report : Report} : Announces (line ++ blanks) report ↔ Announces line report := by
  constructor
  · rintro ⟨⟨r, chosen, ascii, severity, file, number, message⟩, fits⟩
    obtain ⟨rest, same, shorter⟩ := chosen.of_append_blanks blank
    refine ⟨⟨_, shorter, ascii, severity, file, number, message.trans ?_⟩, fits⟩
    rw [same, Text.trim_append_trailing rest blank]
  · rintro ⟨⟨r, chosen, ascii, severity, file, number, message⟩, fits⟩
    refine ⟨⟨_, chosen.append_blanks blank, ascii, severity, file, number, message.trans ?_⟩, fits⟩
    exact (Text.trim_append_trailing r.rest blank).symm

theorem announces_trimEnd {line : List Char} {report : Report} :
    Announces (Text.trimEnd line) report ↔ Announces line report := by
  obtain ⟨blanks, blank, whole⟩ := Text.trimEnd_append_trailing line
  conv_rhs => rw [whole]
  exact (announces_append_blanks blank).symm

theorem takeWhile_append_trailing {line : List Char} (solid : Text.allBlank line = false)
    (blanks : List Char) :
    (line ++ blanks).takeWhile Text.isBlank = line.takeWhile Text.isBlank := by
  rw [List.takeWhile_append]
  refine if_neg fun all => ?_
  have whole : line.takeWhile Text.isBlank = line :=
    (List.takeWhile_prefix Text.isBlank).eq_of_length all
  have front := Text.allBlank_takeWhile line
  rw [whole, solid] at front
  exact Bool.false_ne_true front

theorem indented_trimEnd {line : List Char} (solid : Text.allBlank line = false) :
    Indented (Text.trimEnd line) ↔ Indented line := by
  obtain ⟨blanks, -, whole⟩ := Text.trimEnd_append_trailing line
  have leading := takeWhile_append_trailing ((Text.allBlank_trimEnd line).trans solid) blanks
  rw [← whole] at leading
  rw [indented_iff, indented_iff, leading]

namespace Report

def IsSolid (line : List Char) : Prop := Text.allBlank line = false

/-- The scan of lines does not look at the blanks at their ends. -/
theorem ofLines_map_trimEnd {lines : List (List Char)} (solid : ∀ line ∈ lines, IsSolid line) :
    ofLines (lines.map Text.trimEnd) = ofLines lines := by
  induction lines using scan_induction with
  | nil => rfl
  | noise line rest silent ih =>
      rw [List.forall_mem_cons] at solid
      have trimmed : ∀ report, ¬ Announces (Text.trimEnd line) report :=
        fun report announces => silent report (announces_trimEnd.mp announces)
      rw [List.map_cons, ofLines_silent trimmed, ofLines_silent silent, ih solid.2]
  | last line report announces none =>
      rw [List.map_singleton, ofLines_last (announces_trimEnd.mpr announces),
        ofLines_last announces]
  | next line report next rest announces none indented ih =>
      rw [List.forall_mem_cons, List.forall_mem_cons] at solid
      rw [List.map_cons, List.map_cons, ofLines_next (announces_trimEnd.mpr announces) none
        ((indented_trimEnd solid.2.1).mpr indented), ofLines_next announces none indented,
        Text.trim_trimEnd, ih solid.2.2]
  | alone line report next rest announces none flush ih =>
      rw [List.forall_mem_cons] at solid
      have trimmed : ¬ Indented (Text.trimEnd next) := fun indented =>
        flush ((indented_trimEnd (solid.2 next List.mem_cons_self)).mp indented)
      rw [List.map_cons, List.map_cons, ofLines_alone (announces_trimEnd.mpr announces) trimmed,
        ofLines_alone announces flush, ← List.map_cons, ih solid.2]
  | own line report rest announces some ih =>
      rw [List.forall_mem_cons] at solid
      rw [List.map_cons, ofLines_own (announces_trimEnd.mpr announces) some,
        ofLines_own announces some, ih solid.2]

/-! ## Lines as they are cut -/

/-- The lines that are not blank, as they are cut at the newlines, without the blanks at their
ends. -/
def bareLines (output : List Char) : List (List Char) :=
  ((Text.splitNewlines output).filter fun line => !Text.allBlank line).map Text.trimEnd

theorem solid_of_mem_solidLines {output line : List Char} (member : line ∈ solidLines output) :
    IsSolid line := by
  have solid := (List.mem_filter.mp member).2
  simpa [IsSolid] using solid

theorem map_trimEnd_solidLines (output : List Char) :
    (solidLines output).map Text.trimEnd = bareLines output := by
  unfold solidLines bareLines Text.lines
  induction Text.splitNewlines output using Text.finishLines.induct with
  | case1 => rfl
  | case2 last none =>
      rw [List.isEmpty_iff] at none
      subst none
      rfl
  | case3 last some => simp [Text.finishLines, some]
  | case4 piece pieces more ih =>
      rw [Text.finishLines_cons piece (by simpa using more), List.filter_cons, List.filter_cons,
        Text.allBlank_dropReturn]
      split
      · rw [List.map_cons, List.map_cons, Text.trimEnd_dropReturn, ih]
      · exact ih

theorem bareLines_glue (a b : List Char) :
    bareLines (a ++ '\n' :: b) = bareLines a ++ bareLines b := by
  unfold bareLines
  rw [Text.splitNewlines_glue, List.filter_append, List.map_append]

/-- Outputs with the same lines up to blanks at the ends have the same reports. -/
theorem ofOutput_of_bareLines {output : List Char} {lines : List (List Char)}
    (solid : ∀ line ∈ lines, IsSolid line) (same : bareLines output = lines.map Text.trimEnd) :
    ofOutput output = ofLines lines := by
  rw [← ofLines_map_trimEnd solid, ← same, ← map_trimEnd_solidLines,
    ofLines_map_trimEnd fun _ => solid_of_mem_solidLines]
  rfl

/-- The reports of two outputs with a newline between them are those of the lines of both. -/
theorem ofOutput_glue (a b : List Char) :
    ofOutput (a ++ '\n' :: b) = ofLines (solidLines a ++ solidLines b) := by
  apply ofOutput_of_bareLines
  · rw [List.forall_mem_append]
    exact ⟨fun _ => solid_of_mem_solidLines, fun _ => solid_of_mem_solidLines⟩
  · rw [bareLines_glue, List.map_append, map_trimEnd_solidLines, map_trimEnd_solidLines]

def withoutSolid (output : List Char) : List Char :=
  ['\n'].intercalate ((Text.splitNewlines output).eraseP fun line => !Text.allBlank line)

theorem filter_eraseP {α : Type} (p : α → Bool) (l : List α) :
    (l.eraseP p).filter p = (l.filter p).tail := by
  induction l with
  | nil => rfl
  | cons a l ih =>
      cases holds : p a with
      | true => simp [holds]
      | false => simp [holds, ih]

theorem bareLines_withoutSolid (output : List Char) :
    bareLines (withoutSolid output) = (bareLines output).tail := by
  have single : ∀ line ∈ (Text.splitNewlines output).eraseP fun line => !Text.allBlank line,
      '\n' ∉ line := fun line member =>
    Text.single_of_mem_splitNewlines (List.mem_of_mem_eraseP member)
  have left : (Text.splitNewlines (withoutSolid output)).filter (fun line => !Text.allBlank line) =
      ((Text.splitNewlines output).eraseP fun line => !Text.allBlank line).filter
        fun line => !Text.allBlank line := by
    unfold withoutSolid
    cases pieces : (Text.splitNewlines output).eraseP fun line => !Text.allBlank line with
    | nil => rfl
    | cons first others =>
        rw [pieces] at single
        rw [Text.splitNewlines_intercalate single]
  rw [bareLines, left, filter_eraseP, List.map_tail, bareLines]

theorem ofOutput_withoutSolid (output : List Char) :
    ofOutput (withoutSolid output) = ofLines (solidLines output).tail := by
  apply ofOutput_of_bareLines
  · exact fun line member => solid_of_mem_solidLines (List.mem_of_mem_tail member)
  · rw [bareLines_withoutSolid, List.map_tail, map_trimEnd_solidLines]

end Report

end AsmDiagnostics
