import AsmDiagnostics.Build.Result
import AsmDiagnostics.Proofs.Report.Due
import AsmDiagnostics.Proofs.Report.Trailing
import AsmDiagnostics.Workspace

/-!
# Outputs one behind the other

An output that consists of two with a newline between them has the diagnostics of the first and then
those of the second. Only when the first ends in a report that still waits for its message, and the
second begins with an indented line, does that line become the message, as it would within one
output.
-/

namespace AsmDiagnostics

/-- The last line waits for its message: it is not consumed, and announces a report without one. -/
def OpenEnded (lines : List (List Char)) (report : Report) : Prop :=
  ∃ front line, lines = front ++ [line] ∧ ¬ Consumed lines front.length ∧ Announces line report ∧
    report.message = []

section Seam

variable {lines : List (List Char)} {start : Nat} {line : List Char} {report : Report}

theorem openEnded_of_drop (here : lines.drop start = [line]) (free : ¬ Consumed lines start)
    (announces : Announces line report) (none : report.message = []) : OpenEnded lines report := by
  have inside : start ≤ lines.length := by
    by_contra beyond
    rw [List.drop_eq_nil_of_le (by omega)] at here
    cases here
  refine ⟨lines.take start, line, ?_, ?_, announces, none⟩
  · rw [← here, List.take_append_drop]
  · rwa [List.length_take_of_le inside]

theorem OpenEnded.of_drop (h : OpenEnded lines report) (here : lines.drop start = [line]) :
    ¬ Consumed lines start ∧ Announces line report ∧ report.message = [] := by
  obtain ⟨front, last, rfl, free, announces, none⟩ := h
  have place : front.length = start := by
    have lengths := congrArg List.length here
    simp only [List.length_drop, List.length_append, List.length_singleton] at lengths
    omega
  subst place
  rw [List.drop_left, List.cons.injEq] at here
  exact ⟨free, here.1 ▸ announces, none⟩

end Seam

section Scan

variable {lines : List (List Char)} (rest : List (List Char)) (start : Nat)

/-- The scan goes on behind the last line as if nothing had been before it, unless that line waits
for its message and is followed by an indented line. -/
theorem ofLines_append_apart {back : List (List Char)}
    (closed : ∀ report next, OpenEnded lines report → back.head? = some next → ¬ Indented next)
    (here : lines.drop start = rest) (free : ¬ Consumed lines start) :
    Report.ofLines (rest ++ back) = Report.ofLines rest ++ Report.ofLines back := by
  induction rest using Report.scan_induction generalizing start with
  | nil =>
      rw [Report.ofLines_nil]
      rfl
  | noise line rest silent ih =>
      have step := Report.ofLines_silent silent
      have apart := ih (start + 1) (drop_behind here) (free_behind_silent here free silent)
      rw [List.cons_append, step, step, apart]
  | last line report announces none =>
      have awaits := openEnded_of_drop here free announces none
      cases back with
      | nil => rw [List.append_nil, Report.ofLines_nil, List.append_nil]
      | cons next back =>
          rw [List.singleton_append, Report.ofLines_alone announces (closed report next awaits rfl),
            Report.ofLines_last announces, List.singleton_append]
  | next line report message rest announces none indented ih =>
      have consumed := consumed_behind here free announces none indented
      have step := Report.ofLines_next announces none indented
      have apart := ih (start + 2) (drop_behind (drop_behind here)) (not_consumed_twice consumed)
      rw [List.cons_append, List.cons_append, step, step, apart, List.cons_append]
  | alone line report following rest announces none flush ih =>
      have missing := free_behind_flush here free (by simpa using flush)
      have step := Report.ofLines_alone announces flush
      have apart := ih (start + 1) (drop_behind here) missing
      rw [List.cons_append, List.cons_append, step, step, ← List.cons_append, apart,
        List.cons_append]
  | own line report rest announces some ih =>
      have step := Report.ofLines_own announces some
      have apart := ih (start + 1) (drop_behind here) (free_behind_own here free announces some)
      rw [List.cons_append, step, step, apart, List.cons_append]

/-- An indented line behind a last line that waits for its message becomes that message. -/
theorem ofLines_append_stitched {report : Report} {next : List Char}
    (awaits : OpenEnded lines report) (seam : Indented next) (more : rest ≠ [])
    (here : lines.drop start = rest) (free : ¬ Consumed lines start) :
    ∃ front, Report.ofLines rest = front ++ [report] ∧ ∀ others,
      Report.ofLines (rest ++ next :: others) =
        front ++ { report with message := Text.trim next } :: Report.ofLines others := by
  induction rest using Report.scan_induction generalizing start with
  | nil => exact absurd rfl more
  | noise line rest silent ih =>
      have step := Report.ofLines_silent silent
      have more : rest ≠ [] := by
        rintro rfl
        exact silent report (awaits.of_drop here).2.1
      obtain ⟨front, left, both⟩ :=
        ih (start + 1) more (drop_behind here) (free_behind_silent here free silent)
      refine ⟨front, (step rest).trans left, fun others => ?_⟩
      rw [List.cons_append, step, both]
  | last line own announces none =>
      obtain rfl := announces.unique (awaits.of_drop here).2.1
      refine ⟨[], Report.ofLines_last announces, fun others => ?_⟩
      rw [List.singleton_append, Report.ofLines_next announces none seam, List.nil_append]
  | next line own message rest announces none indented ih =>
      have consumed := consumed_behind here free announces none indented
      have behind := drop_behind here
      have step := Report.ofLines_next announces none indented
      have more : rest ≠ [] := by
        rintro rfl
        exact (awaits.of_drop behind).1 consumed
      obtain ⟨front, left, both⟩ :=
        ih (start + 2) more (drop_behind behind) (not_consumed_twice consumed)
      refine ⟨_ :: front, (step rest).trans (congrArg _ left), fun others => ?_⟩
      rw [List.cons_append, List.cons_append, step, both, List.cons_append]
  | alone line own following rest announces none flush ih =>
      have missing := free_behind_flush here free (by simpa using flush)
      have step := Report.ofLines_alone announces flush
      obtain ⟨front, left, both⟩ :=
        ih (start + 1) (List.cons_ne_nil _ _) (drop_behind here) missing
      refine ⟨own :: front, (step rest).trans (congrArg _ left), fun others => ?_⟩
      rw [List.cons_append, List.cons_append, step, ← List.cons_append, both, List.cons_append]
  | own line own rest announces some ih =>
      have step := Report.ofLines_own announces some
      have more : rest ≠ [] := by
        rintro rfl
        obtain ⟨-, also, none⟩ := awaits.of_drop here
        exact some (announces.unique also ▸ none)
      obtain ⟨front, left, both⟩ :=
        ih (start + 1) more (drop_behind here) (free_behind_own here free announces some)
      refine ⟨own :: front, (step rest).trans (congrArg _ left), fun others => ?_⟩
      rw [List.cons_append, step, both, List.cons_append]

end Scan

/-- The first output ends in a report that waits for its message, and the second one begins with an
indented line. -/
structure Continues (a b : List Char) (report : Report) (next : List Char) : Prop where
  awaits : OpenEnded (Report.solidLines a) report
  first : (Report.solidLines b).head? = some next
  indented : Indented next

namespace Report

theorem ofOutput_apart {a b : List Char} (closed : ∀ report next, ¬ Continues a b report next) :
    ofOutput (a ++ '\n' :: b) = ofOutput a ++ ofOutput b := by
  rw [ofOutput_glue]
  refine ofLines_append_apart _ 0 (fun report next awaits first indented => ?_) rfl id
  exact closed report next ⟨awaits, first, indented⟩

theorem ofOutput_stitched {a b next : List Char} {report : Report}
    (seam : Continues a b report next) :
    ∃ front, ofOutput a = front ++ [report] ∧ ofOutput (a ++ '\n' :: b) =
      front ++ { report with message := Text.trim next } :: ofOutput (withoutSolid b) := by
  have some : solidLines a ≠ [] := by
    obtain ⟨front, line, whole, -⟩ := seam.awaits
    rw [whole]
    exact List.append_ne_nil_of_right_ne_nil front (List.cons_ne_nil _ _)
  obtain ⟨front, left, both⟩ :=
    ofLines_append_stitched _ 0 seam.awaits seam.indented some rfl id
  refine ⟨front, left, ?_⟩
  rw [ofOutput_glue, ofOutput_withoutSolid]
  cases lines : solidLines b with
  | nil =>
      have first := seam.first
      rw [lines] at first
      cases first
  | cons line others =>
      have first := seam.first
      rw [lines] at first
      obtain rfl := Option.some.inj first
      exact both others

theorem diagnostic_stitched (report : Report) {next : List Char} (solid : IsSolid next) :
    { report with message := Text.trim next }.diagnostic =
      { report.diagnostic with message := String.ofList (Text.trim next) } := by
  have some : Text.trim next ≠ [] := by
    rw [Ne, Text.trim_eq_nil_iff, solid]
    exact Bool.false_ne_true
  unfold diagnostic
  rw [Diagnostic.shownMessage_trim report.severity (Text.trim_trim next), if_neg some]

end Report

/-- How the diagnostics of a whole output come from those of its two parts. -/
inductive Composed (read : String → List Diagnostic) (keeps : Report → Bool)
    (a b whole : String) : Prop where
  /-- They come one behind the other. -/
  | apart (closed : ∀ report next, ¬ Continues a.toList b.toList report next)
      (both : read whole = read a ++ read b)
  /-- The last report of the first part, if it is kept, has the first line of the second part as its
  message. -/
  | stitched (report : Report) (next : List Char) (front : List Diagnostic)
      (seam : Continues a.toList b.toList report next)
      (left : read a = front ++ if keeps report then [report.diagnostic] else [])
      (both : read whole = front ++
        (if keeps report then
          [{ report.diagnostic with message := String.ofList (Text.trim next) }] else []) ++
        read (String.ofList (Report.withoutSolid b.toList)))

theorem kept_cons (accepts : Path → Bool) (report : Report) (others : List Report) :
    ((report :: others).filter (Report.concerns accepts)).map Report.diagnostic =
      (if report.concerns accepts then [report.diagnostic] else []) ++
        (others.filter (Report.concerns accepts)).map Report.diagnostic := by
  rw [List.filter_cons]
  split <;> rfl

theorem composed_diagnosticsFor (accepts : Path → Bool) {a b whole : String}
    (glued : whole.toList = a.toList ++ '\n' :: b.toList) :
    Composed (fun output => Report.diagnosticsFor accepts output.toList) (Report.concerns accepts)
      a b whole := by
  by_cases seamed : ∃ report next, Continues a.toList b.toList report next
  · obtain ⟨report, next, seam⟩ := seamed
    obtain ⟨front, left, both⟩ := Report.ofOutput_stitched seam
    have solid := Report.solid_of_mem_solidLines (List.mem_of_mem_head? seam.first)
    refine .stitched report next ((front.filter (Report.concerns accepts)).map Report.diagnostic)
      seam ?_ ?_
    · rw [Report.diagnosticsFor, left, List.filter_append, List.map_append, kept_cons,
        List.filter_nil, List.map_nil, List.append_nil]
    · rw [Report.diagnosticsFor, Report.diagnosticsFor, glued, both, List.filter_append,
        List.map_append, kept_cons, Report.diagnostic_stitched report solid, String.toList_ofList,
        List.append_assoc]
      rfl
  · have closed : ∀ report next, ¬ Continues a.toList b.toList report next :=
      fun report next seam => seamed ⟨report, next, seam⟩
    refine .apart closed ?_
    simp only [Report.diagnosticsFor, glued, Report.ofOutput_apart closed, List.filter_append,
      List.map_append]

/-- Reading two outputs with a newline between them is reading one after the other, up to a report
at the end of the first whose message is the first line of the second. So it is with what the steps
of a build print and what they complain about. -/
theorem outputs_compose :
    (∀ (relative : Path) (a b : String), Composed (Report.diagnosticsAt relative)
      (Report.concerns relative.endsWith) a b (a ++ "\n" ++ b)) ∧
    (∀ (d : DocumentRef) (a b : String), Composed d.diagnostics (Report.concerns d.isNamed) a b
      (a ++ "\n" ++ b)) ∧
    ∀ (d : DocumentRef) (all : List Build.StepOutcome), Composed d.diagnostics
      (Report.concerns d.isNamed) (Text.lossy (all.flatMap Build.StepOutcome.stdout))
      (Text.lossy (all.flatMap Build.StepOutcome.stderr)) (Build.combinedOutput all) := by
  have glued (a b : String) : (a ++ "\n" ++ b).toList = a.toList ++ '\n' :: b.toList := by
    simp
  refine ⟨fun relative a b => ?_, fun d a b => ?_, fun d all => ?_⟩
  · exact composed_diagnosticsFor relative.endsWith (glued a b)
  · exact composed_diagnosticsFor d.isNamed (glued a b)
  · exact composed_diagnosticsFor d.isNamed (glued _ _)

end AsmDiagnostics
