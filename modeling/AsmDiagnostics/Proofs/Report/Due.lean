import AsmDiagnostics.Proofs.Report.Stitching

/-!
# The diagnostics that are due

A line that is not consumed and announces a report for the document has its diagnostic, and there
are no other diagnostics.  They come in the order of their lines, and none has a blank message.
-/

namespace AsmDiagnostics

namespace Report

def accepted (accepts : Path → Bool) (found : List (Nat × Report)) : List (Nat × Diagnostic) :=
  (found.filter fun entry => concerns accepts entry.2).map fun entry => (entry.1, entry.2.diagnostic)

theorem accepted_diagnostics (accepts : Path → Bool) (found : List (Nat × Report)) :
    (accepted accepts found).map Prod.snd =
      ((found.map Prod.snd).filter (concerns accepts)).map diagnostic := by
  unfold accepted
  rw [List.filter_map, List.map_map, List.map_map]
  rfl

theorem accepted_lines (accepts : Path → Bool) (found : List (Nat × Report)) :
    ((accepted accepts found).map Prod.fst).Sublist (found.map Prod.fst) := by
  unfold accepted
  rw [List.map_map]
  exact List.filter_sublist.map Prod.fst

theorem mem_accepted (accepts : Path → Bool) (found : List (Nat × Report)) (i : Nat)
    (d : Diagnostic) :
    (i, d) ∈ accepted accepts found ↔
      ∃ report, (i, report) ∈ found ∧ report.concerns accepts = true ∧ report.diagnostic = d := by
  unfold accepted
  constructor
  · intro member
    obtain ⟨⟨j, report⟩, kept, same⟩ := List.mem_map.mp member
    obtain ⟨rfl, rfl⟩ := Prod.mk.inj same
    obtain ⟨inside, concerns⟩ := List.mem_filter.mp kept
    exact ⟨report, inside, concerns, rfl⟩
  · rintro ⟨report, inside, concerns, rfl⟩
    exact List.mem_map.mpr ⟨(i, report), List.mem_filter.mpr ⟨inside, concerns⟩, rfl⟩

theorem concerns_iff (relative : Path) (report : Report) :
    report.concerns relative.endsWith = true ↔
      (Path.reported report.file).bytes ≠ [] ∧
        (Path.reported report.file).components <:+ relative.components := by
  rw [concerns_eq_true_iff, Path.endsWith, List.isSuffixOf_iff_suffix]

end Report

/-! ## Messages -/

namespace Diagnostic

theorem shownMessage_trim (severity : Severity) {message : List Char}
    (trimmed : Text.trim message = message) :
    shownMessage severity message =
      if message = [] then unknownMessage severity else String.ofList message := by
  unfold shownMessage
  rw [trimmed]
  simp

theorem unknownMessage_eq (severity : Severity) :
    unknownMessage severity = "Unknown " ++ severity.label ++ " reported by rgbasm." := by
  cases severity <;> decide

theorem unknownMessage_not_blank (severity : Severity) :
    ¬ Text.allBlank (unknownMessage severity).toList = true := by
  cases severity <;> decide

/-- No diagnostic shows a blank message. -/
theorem shownMessage_not_blank (severity : Severity) (message : List Char) :
    ¬ Text.allBlank (shownMessage severity message).toList = true := by
  unfold shownMessage
  split
  · exact unknownMessage_not_blank severity
  · rename_i some
    rw [String.toList_ofList, ← Text.trim_eq_nil_iff, Text.trim_trim]
    exact fun none => some (List.isEmpty_iff.mpr none)

end Diagnostic

theorem MessageAt.trimmed {lines : List (List Char)} {i : Nat} {own message : List Char}
    (h : MessageAt lines i own message) (trimmed : Text.trim own = own) :
    Text.trim message = message := by
  cases h with
  | own _ => exact trimmed
  | next _ line _ _ => exact Text.trim_trim line
  | missing _ _ => rfl

theorem Announces.trimmed {line : List Char} {report : Report} (h : Announces line report) :
    Text.trim report.message = report.message := by
  obtain ⟨r, -, -, -, -, -, message⟩ := h.reading
  rw [message, Text.trim_trim]

/-! ## Exactly the diagnostics that are due -/

/-- The diagnostic of a line: the line is not consumed and announces a report, whose file is not
empty when it is folded and is the last part of the path of the document. -/
structure Due (lines : List (List Char)) (relative : Path) (i : Nat) (d : Diagnostic) : Prop where
  free : ¬ Consumed lines i
  announced : ∃ line report message, lines[i]? = some line ∧ Announces line report ∧
    (Path.reported report.file).bytes ≠ [] ∧
    (Path.reported report.file).components <:+ relative.components ∧
    d.severity = report.severity ∧ d.line.toNat = report.line - 1 ∧
    d.range = ⟨⟨d.line, 0⟩, ⟨d.line, 999⟩⟩ ∧ MessageAt lines i report.message message ∧
    d.message = if message = [] then "Unknown " ++ report.severity.label ++ " reported by rgbasm."
      else String.ofList message

theorem due_iff (lines : List (List Char)) (relative : Path) (i : Nat) (d : Diagnostic) :
    Due lines relative i d ↔ ∃ report, Reported lines i report ∧
      report.concerns relative.endsWith = true ∧ report.diagnostic = d := by
  constructor
  · rintro ⟨free, line, own, message, atLine, announces, some, last, severity, number, -, messageAt,
      text⟩
    refine ⟨{ own with message := message }, ⟨free, line, own, message, atLine, announces, messageAt,
      rfl⟩, (Report.concerns_iff relative _).mpr ⟨some, last⟩, ?_⟩
    obtain ⟨dSeverity, dLine, dMessage⟩ := d
    obtain rfl : dSeverity = own.severity := severity
    have word : UInt32.ofNat (own.line - 1) = dLine := by
      rw [← show dLine.toNat = own.line - 1 from number, UInt32.ofNat_toNat]
    have shown : Diagnostic.shownMessage own.severity message = dMessage := by
      rw [Diagnostic.shownMessage_trim _ (messageAt.trimmed announces.trimmed),
        Diagnostic.unknownMessage_eq]
      exact text.symm
    unfold Report.diagnostic
    rw [word, shown]
  · rintro ⟨report, ⟨free, line, own, message, atLine, announces, messageAt, rfl⟩, concerns, rfl⟩
    obtain ⟨some, last⟩ := (Report.concerns_iff relative _).mp concerns
    refine ⟨free, line, own, message, atLine, announces, some, last, rfl, ?_, rfl, messageAt, ?_⟩
    · exact UInt32.toNat_ofNat_of_lt' (Nat.lt_of_le_of_lt (Nat.sub_le _ _) announces.fits)
    · refine (Diagnostic.shownMessage_trim own.severity
        (messageAt.trimmed announces.trimmed)).trans ?_
      rw [Diagnostic.unknownMessage_eq]

/-- The diagnostics of an output for a document are, in the order of the lines, one for each line
that is not blank and for which one is due, and nothing else; none has a blank message. -/
theorem diagnosticsAt_exactly_due (relative : Path) (output : String) :
    let lines := (Text.lines output.toList).filter fun line => !Text.allBlank line
    (∃ found : List (Nat × Diagnostic), found.map Prod.snd = Report.diagnosticsAt relative output ∧
      (found.map Prod.fst).Pairwise (· < ·) ∧
      ∀ i d, (i, d) ∈ found ↔ Due lines relative i d) ∧
    ∀ d ∈ Report.diagnosticsAt relative output, ¬ Text.allBlank d.message.toList = true := by
  intro lines
  obtain ⟨found, same, scanned⟩ := ofLines_scanned lines lines 0 rfl id
  refine ⟨⟨Report.accepted relative.endsWith found, ?_, ?_, ?_⟩, ?_⟩
  · rw [Report.accepted_diagnostics, same]
    rfl
  · exact scanned.ordered.sublist (Report.accepted_lines relative.endsWith found)
  · intro i d
    rw [Report.mem_accepted, due_iff]
    refine exists_congr fun report => and_congr_left' ?_
    rw [scanned.exact]
    exact and_iff_right (Nat.zero_le i)
  · intro d member
    obtain ⟨report, -, rfl⟩ := List.mem_map.mp member
    exact Diagnostic.shownMessage_not_blank report.severity report.message

/-- Two diagnostics are due: one of a report whose message stands on the next line, one of a report
on line zero that has no message at all.  Both files have to be folded to name the document. -/
theorem folded_reports_due :
    let relative := Path.ofString "src/main.asm"
    let output := "Assembling\nerror: lib\\..\\main.asm(7):\n     odd symbol \n\n" ++
      "warning: ./src//main.asm(0):\nerror: other.asm(3): elsewhere\n"
    let lines := (Text.lines output.toList).filter fun line => !Text.allBlank line
    let first : Diagnostic := ⟨.error, 6, "odd symbol"⟩
    let second : Diagnostic := ⟨.warning, 0, "Unknown warning reported by rgbasm."⟩
    Report.diagnosticsAt relative output = [first, second] ∧
      ∃ i j, i < j ∧ Due lines relative i first ∧ Due lines relative j second ∧
        ∀ k d, Due lines relative k d → (k, d) = (i, first) ∨ (k, d) = (j, second) := by
  intro relative output lines first second
  have shown : Report.diagnosticsAt relative output = [first, second] := by decide +kernel
  obtain ⟨⟨found, same, ordered, exact⟩, -⟩ := diagnosticsAt_exactly_due relative output
  obtain ⟨i, j, rfl⟩ : ∃ i j, found = [(i, first), (j, second)] := by
    rw [shown] at same
    obtain ⟨⟨i, -⟩, rest, rfl, rfl, same⟩ := List.map_eq_cons_iff.mp same
    obtain ⟨⟨j, -⟩, rest, rfl, rfl, same⟩ := List.map_eq_cons_iff.mp same
    obtain rfl := List.map_eq_nil_iff.mp same
    exact ⟨i, j, rfl⟩
  refine ⟨shown, i, j, by simpa using ordered, (exact i first).mp (by simp),
    (exact j second).mp (by simp), fun k d due => ?_⟩
  simpa using (exact k d).mpr due

end AsmDiagnostics
