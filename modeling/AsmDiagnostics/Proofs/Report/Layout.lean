import Mathlib.Logic.Relation
import AsmDiagnostics.Proofs.Report.Trailing
import AsmDiagnostics.Workspace

/-!
# The layout of an output

Blank lines, blanks at the ends of lines, a newline at the end of the text and carriage returns before
newlines make no difference to the diagnostics. Each single change of the layout keeps the lines that
are not blank, up to the blanks at their ends; so does any number of changes one after another.
-/

namespace AsmDiagnostics

/-- A line starts behind this text. -/
inductive StartsLine : List Char → Prop where
  | nothing : StartsLine []
  | newline (front : List Char) : StartsLine (front ++ ['\n'])

/-- A line is over in front of this text. -/
inductive EndsLine : List Char → Prop where
  | nothing : EndsLine []
  | newline (rest : List Char) : EndsLine ('\n' :: rest)
  | returned (rest : List Char) : EndsLine ('\r' :: '\n' :: rest)

/-- One change of the layout of a text. -/
inductive Respaced : List Char → List Char → Prop where
  /-- A line of blanks is put in. -/
  | blankLine {front blanks back : List Char} (starts : StartsLine front)
      (single : '\n' ∉ blanks) (blank : Text.allBlank blanks = true) :
      Respaced (front ++ back) (front ++ (blanks ++ '\n' :: back))
  /-- Blanks are put at the end of a line. -/
  | trailing {front blanks back : List Char} (ends : EndsLine back)
      (single : '\n' ∉ blanks) (blank : Text.allBlank blanks = true) :
      Respaced (front ++ back) (front ++ blanks ++ back)
  /-- The last line is ended by a newline. -/
  | finalNewline {text : List Char} : Respaced text (text ++ ['\n'])
  /-- A line is ended by a carriage return and a newline instead of a newline. -/
  | lineEnd {front back : List Char} :
      Respaced (front ++ '\n' :: back) (front ++ '\r' :: '\n' :: back)

/-- Two texts differ by changes of the layout, made or taken back, in any number and order. -/
def Relaid : List Char → List Char → Prop := Relation.EqvGen Respaced

namespace Text

/-- A text ends in a line, which is all of it or stands behind a newline. -/
theorem exists_last_line (s : List Char) :
    ∃ line, '\n' ∉ line ∧ (s = line ∨ ∃ front, s = front ++ '\n' :: line) := by
  induction s with
  | nil => exact ⟨[], List.not_mem_nil, .inl rfl⟩
  | cons c s ih =>
      obtain ⟨line, single, rfl | ⟨front, rfl⟩⟩ := ih
      · by_cases cut : c = '\n'
        · exact ⟨s, single, .inr ⟨[], by rw [cut, List.nil_append]⟩⟩
        · refine ⟨c :: s, ?_, .inl rfl⟩
          rw [List.mem_cons, not_or]
          exact ⟨Ne.symm cut, single⟩
      · exact ⟨line, single, .inr ⟨c :: front, rfl⟩⟩

end Text

namespace Report

theorem bareLines_of_single {line : List Char} (single : '\n' ∉ line) :
    bareLines line = if Text.allBlank line then [] else [Text.trimEnd line] := by
  unfold bareLines
  rw [Text.splitNewlines_of_single single]
  cases blank : Text.allBlank line with
  | true => simp [blank]
  | false => simp [blank]

theorem bareLines_of_blank {blanks : List Char} (single : '\n' ∉ blanks)
    (blank : Text.allBlank blanks = true) : bareLines blanks = [] := by
  rw [bareLines_of_single single, if_pos blank]

theorem bareLines_nil : bareLines [] = [] := bareLines_of_blank List.not_mem_nil rfl

theorem bareLines_newline (rest : List Char) : bareLines ('\n' :: rest) = bareLines rest := by
  have parts := bareLines_glue [] rest
  rwa [bareLines_nil, List.nil_append, List.nil_append] at parts

theorem bareLines_return (rest : List Char) : bareLines ('\r' :: '\n' :: rest) = bareLines rest := by
  have none : bareLines ['\r'] = [] := bareLines_of_blank (by decide) (by decide)
  have parts := bareLines_glue ['\r'] rest
  rwa [none, List.nil_append, List.singleton_append] at parts

/-- Blanks at the end of a text are at the end of its last line. -/
theorem bareLines_append_blanks (text : List Char) {blanks : List Char} (single : '\n' ∉ blanks)
    (blank : Text.allBlank blanks = true) : bareLines (text ++ blanks) = bareLines text := by
  have last {line : List Char} (own : '\n' ∉ line) :
      bareLines (line ++ blanks) = bareLines line := by
    have both : '\n' ∉ line ++ blanks := by
      rw [List.mem_append, not_or]
      exact ⟨own, single⟩
    have still : Text.allBlank (line ++ blanks) = Text.allBlank line := by
      unfold Text.allBlank at blank ⊢
      rw [List.all_append, blank, Bool.and_true]
    rw [bareLines_of_single both, bareLines_of_single own, still,
      Text.trimEnd_append_blanks blank]
  obtain ⟨line, own, rfl | ⟨front, rfl⟩⟩ := Text.exists_last_line text
  · exact last own
  · rw [List.append_assoc, List.cons_append, bareLines_glue, bareLines_glue, last own]

end Report

theorem StartsLine.bareLines_append {front : List Char} (h : StartsLine front)
    (back : List Char) :
    Report.bareLines (front ++ back) = Report.bareLines front ++ Report.bareLines back := by
  cases h with
  | nothing => rw [Report.bareLines_nil, List.nil_append, List.nil_append]
  | newline front =>
      rw [List.append_assoc, List.singleton_append, Report.bareLines_glue, Report.bareLines_glue,
        Report.bareLines_nil, List.append_nil]

theorem EndsLine.bareLines_append {back : List Char} (h : EndsLine back) (front : List Char) :
    Report.bareLines (front ++ back) = Report.bareLines front ++ Report.bareLines back := by
  cases h with
  | nothing => rw [Report.bareLines_nil, List.append_nil, List.append_nil]
  | newline rest => rw [Report.bareLines_glue, Report.bareLines_newline]
  | returned rest =>
      rw [List.append_cons, Report.bareLines_glue, Report.bareLines_return,
        Report.bareLines_append_blanks front (by decide) (by decide)]

/-- One change of the layout keeps the lines that are not blank, up to blanks at their ends. -/
theorem Respaced.bareLines_eq {s t : List Char} (h : Respaced s t) :
    Report.bareLines s = Report.bareLines t := by
  cases h with
  | blankLine starts single blank =>
      rw [starts.bareLines_append, starts.bareLines_append, Report.bareLines_glue,
        Report.bareLines_of_blank single blank, List.nil_append]
  | trailing ends single blank =>
      rw [ends.bareLines_append, ends.bareLines_append,
        Report.bareLines_append_blanks _ single blank]
  | finalNewline => rw [Report.bareLines_glue, Report.bareLines_nil, List.append_nil]
  | @lineEnd front back =>
      rw [(EndsLine.newline back).bareLines_append, (EndsLine.returned back).bareLines_append,
        Report.bareLines_newline, Report.bareLines_return]

theorem Relaid.bareLines_eq {s t : List Char} (h : Relaid s t) :
    Report.bareLines s = Report.bareLines t := by
  induction h with
  | rel s t change => exact change.bareLines_eq
  | refl s => rfl
  | symm s t _ ih => exact ih.symm
  | trans s t u _ _ ih ih' => exact ih.trans ih'

theorem Relaid.ofOutput_eq {s t : List Char} (h : Relaid s t) :
    Report.ofOutput s = Report.ofOutput t := by
  have solid : ∀ line ∈ Report.solidLines t, Report.IsSolid line :=
    fun _ => Report.solid_of_mem_solidLines
  refine Report.ofOutput_of_bareLines solid ?_
  rw [Report.map_trimEnd_solidLines, h.bareLines_eq]

/-- Outputs that differ in their layout only have the same diagnostics, for every path and for every
document. -/
theorem layout_does_not_matter {s t : String} (relaid : Relaid s.toList t.toList) :
    (∀ relative : Path, Report.diagnosticsAt relative s = Report.diagnosticsAt relative t) ∧
      ∀ d : DocumentRef, d.diagnostics s = d.diagnostics t := by
  have same := relaid.ofOutput_eq
  refine ⟨fun relative => ?_, fun d => ?_⟩
  · unfold Report.diagnosticsAt Report.diagnosticsFor
    rw [same]
  · unfold DocumentRef.diagnostics Report.diagnosticsFor
    rw [same]

/-- A report and its message are the same when a blank line comes between them, when blanks stand at
the end of the line and when the lines are ended in another way. -/
theorem report_apart_from_its_message :
    Relaid "error: a(7):\n    b".toList "error: a(7): \t\r\n \u2003\r\n    b\n".toList ∧
      Report.diagnosticsAt (Path.ofString "a") "error: a(7):\n    b" =
        Report.diagnosticsAt (Path.ofString "a") "error: a(7): \t\r\n \u2003\r\n    b\n" := by
  have blanks : Respaced "error: a(7):\n    b".toList "error: a(7): \t\n    b".toList := by
    simpa using @Respaced.trailing "error: a(7):".toList " \t".toList _
      (.newline "    b".toList) (by decide) (by decide)
  have ended : Respaced "error: a(7): \t\n    b".toList "error: a(7): \t\r\n    b".toList := by
    simpa using @Respaced.lineEnd "error: a(7): \t".toList "    b".toList
  have apart : Respaced "error: a(7): \t\r\n    b".toList
      "error: a(7): \t\r\n \u2003\r\n    b".toList := by
    simpa using @Respaced.blankLine _ " \u2003\r".toList "    b".toList
      (.newline "error: a(7): \t\r".toList) (by decide) (by decide)
  have last : Respaced "error: a(7): \t\r\n \u2003\r\n    b".toList
      "error: a(7): \t\r\n \u2003\r\n    b\n".toList := by
    simpa using @Respaced.finalNewline "error: a(7): \t\r\n \u2003\r\n    b".toList
  have relaid := (((Relation.EqvGen.rel _ _ blanks).trans _ _ _ (.rel _ _ ended)).trans _ _ _
    (.rel _ _ apart)).trans _ _ _ (.rel _ _ last)
  exact ⟨relaid, (layout_does_not_matter relaid).1 _⟩

end AsmDiagnostics
