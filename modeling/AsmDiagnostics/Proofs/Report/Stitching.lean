import AsmDiagnostics.Proofs.Report.Reading

/-!
# Stitching lines together

A line is consumed when it serves as the message of the line before it.  Chains of indented lines
without a message alternate, so consumption is defined by recursion on the line number.  The scan of
the lines finds exactly the reports of the lines that are not consumed, each with its message.
-/

namespace AsmDiagnostics

/-- A line starts with at least four blanks. -/
def Indented (line : List Char) : Prop :=
  ∃ blanks rest, line = blanks ++ rest ∧ Text.allBlank blanks = true ∧ 4 ≤ blanks.length

/-- A line is consumed: the line before it is not, and announces a report without a message, and the
line itself is indented. -/
def Consumed (lines : List (List Char)) : Nat → Prop
  | 0 => False
  | i + 1 => ¬ Consumed lines i ∧ ∃ line report next, lines[i]? = some line ∧
      Announces line report ∧ report.message = [] ∧ lines[i + 1]? = some next ∧ Indented next

/-- The message of a report on a line: its own, or that of the consumed line behind it, or none. -/
inductive MessageAt (lines : List (List Char)) (i : Nat) (own : List Char) : List Char → Prop where
  | own (some : own ≠ []) : MessageAt lines i own own
  | next (none : own = []) (line : List Char) (behind : lines[i + 1]? = some line)
      (consumed : Consumed lines (i + 1)) : MessageAt lines i own (Text.trim line)
  | missing (none : own = []) (free : ¬ Consumed lines (i + 1)) : MessageAt lines i own []

/-- A line that is not consumed reports something. -/
structure Reported (lines : List (List Char)) (i : Nat) (report : Report) : Prop where
  free : ¬ Consumed lines i
  announced : ∃ line own message, lines[i]? = some line ∧ Announces line own ∧
    MessageAt lines i own.message message ∧ report = { own with message := message }

/-- The reports from a line on, each with the number of its line. -/
structure Scanned (lines : List (List Char)) (start : Nat) (found : List (Nat × Report)) : Prop where
  ordered : (found.map Prod.fst).Pairwise (· < ·)
  exact : ∀ i report, (i, report) ∈ found ↔ start ≤ i ∧ Reported lines i report

theorem indented_iff (line : List Char) :
    Indented line ↔ Report.indent ≤ (line.takeWhile Text.isBlank).length := by
  constructor
  · rintro ⟨blanks, rest, rfl, blank, long⟩
    rw [Text.takeWhile_append_blanks blank, List.length_append]
    exact Nat.le_add_right_of_le long
  · intro long
    exact ⟨_, _, (Text.blanks_append_trimStart line).symm, Text.allBlank_takeWhile line, long⟩

theorem continuation?_of_indented {line : List Char} (h : Indented line) :
    Report.continuation? line = some (Text.trim line) := if_pos ((indented_iff line).mp h)

theorem continuation?_eq_none {line : List Char} (h : ¬ Indented line) :
    Report.continuation? line = none := if_neg fun long => h ((indented_iff line).mpr long)

theorem Announces.unique {line : List Char} {report other : Report} (h : Announces line report)
    (also : Announces line other) : report = other :=
  Option.some.inj ((ofLine?_eq_some_iff.mpr h).symm.trans (ofLine?_eq_some_iff.mpr also))

theorem MessageAt.unique {lines : List (List Char)} {i : Nat} {own message other : List Char}
    (h : MessageAt lines i own message) (also : MessageAt lines i own other) : message = other := by
  cases h with
  | own some =>
      cases also with
      | own _ => rfl
      | next none => exact absurd none some
      | missing none => exact absurd none some
  | next none line behind consumed =>
      cases also with
      | own some => exact absurd none some
      | next _ same sameBehind _ =>
          rw [Option.some.inj (behind.symm.trans sameBehind)]
      | missing _ free => exact absurd consumed free
  | missing none free =>
      cases also with
      | own some => exact absurd none some
      | next _ _ _ consumed => exact absurd consumed free
      | missing _ _ => rfl

theorem Reported.unique {lines : List (List Char)} {i : Nat} {report other : Report}
    (h : Reported lines i report) (also : Reported lines i other) : report = other := by
  obtain ⟨line, own, message, atLine, announces, messageAt, rfl⟩ := h.announced
  obtain ⟨sameLine, sameOwn, sameMessage, atSame, alsoAnnounces, alsoMessage, rfl⟩ := also.announced
  obtain rfl := Option.some.inj (atLine.symm.trans atSame)
  obtain rfl := announces.unique alsoAnnounces
  rw [messageAt.unique alsoMessage]

namespace Scanned

variable {lines : List (List Char)} {start : Nat} {found : List (Nat × Report)} {report : Report}

theorem nil (ended : lines.length ≤ start) : Scanned lines start [] := by
  refine ⟨List.Pairwise.nil, fun i report => iff_of_false List.not_mem_nil ?_⟩
  rintro ⟨behind, reported⟩
  obtain ⟨line, _, _, atLine, -⟩ := reported.announced
  rw [List.getElem?_eq_none (Nat.le_trans ended behind)] at atLine
  cases atLine

theorem skip (silent : ∀ report, ¬ Reported lines start report)
    (h : Scanned lines (start + 1) found) : Scanned lines start found := by
  refine ⟨h.ordered, fun i report => (h.exact i report).trans ?_⟩
  constructor
  · rintro ⟨behind, reported⟩
    exact ⟨Nat.le_of_succ_le behind, reported⟩
  · rintro ⟨from_, reported⟩
    rcases Nat.eq_or_lt_of_le from_ with rfl | behind
    · exact absurd reported (silent report)
    · exact ⟨behind, reported⟩

end Scanned

theorem Reported.cons_scanned {lines : List (List Char)} {start : Nat} {report : Report}
    {found : List (Nat × Report)} (reported : Reported lines start report)
    (h : Scanned lines (start + 1) found) : Scanned lines start ((start, report) :: found) := by
  constructor
  · refine List.pairwise_cons.mpr ⟨?_, h.ordered⟩
    intro i member
    obtain ⟨⟨i, other⟩, found, rfl⟩ := List.mem_map.mp member
    exact ((h.exact i other).mp found).1
  · intro i other
    rw [List.mem_cons, h.exact]
    constructor
    · rintro (same | ⟨behind, reported⟩)
      · obtain ⟨rfl, rfl⟩ := Prod.mk.inj same
        exact ⟨Nat.le_refl _, reported⟩
      · exact ⟨Nat.le_of_succ_le behind, reported⟩
    · rintro ⟨from_, also⟩
      rcases Nat.eq_or_lt_of_le from_ with rfl | behind
      · exact .inl (by rw [also.unique reported])
      · exact .inr ⟨behind, also⟩

/-! ## The scan, line by line -/

namespace Report

variable {line next : List Char} {report : Report}

theorem ofLines_silent (silent : ∀ report, ¬ Announces line report) (rest : List (List Char)) :
    ofLines (line :: rest) = ofLines rest := ofLines_noise (ofLine?_eq_none_iff.mpr silent) rest

theorem ofLines_own (announces : Announces line report) (some : report.message ≠ [])
    (rest : List (List Char)) : ofLines (line :: rest) = report :: ofLines rest := by
  rw [ofLines]
  simp [ofLine?_eq_some_iff.mpr announces, some]

theorem ofLines_last (announces : Announces line report) : ofLines [line] = [report] := by
  rw [ofLines]
  simp [ofLine?_eq_some_iff.mpr announces, ofLines_nil]

theorem ofLines_next (announces : Announces line report) (none : report.message = [])
    (indented : Indented next) (rest : List (List Char)) :
    ofLines (line :: next :: rest) =
      { report with message := Text.trim next } :: ofLines rest := by
  rw [ofLines]
  simp [ofLine?_eq_some_iff.mpr announces, none, continuation?_of_indented indented]

theorem ofLines_alone (announces : Announces line report) (flush : ¬ Indented next)
    (rest : List (List Char)) :
    ofLines (line :: next :: rest) = report :: ofLines (next :: rest) := by
  rw [ofLines]
  simp [ofLine?_eq_some_iff.mpr announces, continuation?_eq_none flush]

/-- Induction along the scan: by what a line announces, and whether the line behind it is its
message. -/
@[elab_as_elim]
theorem scan_induction {motive : List (List Char) → Prop} (nil : motive [])
    (noise : ∀ line rest, (∀ report, ¬ Announces line report) → motive rest → motive (line :: rest))
    (last : ∀ line report, Announces line report → report.message = [] → motive [line])
    (next : ∀ line report next rest, Announces line report → report.message = [] →
      Indented next → motive rest → motive (line :: next :: rest))
    (alone : ∀ line report next rest, Announces line report → report.message = [] →
      ¬ Indented next → motive (next :: rest) → motive (line :: next :: rest))
    (own : ∀ line report rest, Announces line report → report.message ≠ [] → motive rest →
      motive (line :: rest)) (lines : List (List Char)) : motive lines := by
  induction lines using ofLines.induct with
  | case1 => exact nil
  | case2 line rest silent ih => exact noise line rest (ofLine?_eq_none_iff.mp silent) ih
  | case3 line report announced none =>
      exact last line report (ofLine?_eq_some_iff.mp announced) (List.isEmpty_iff.mp none)
  | case4 line report announced none following others message continued ih =>
      have indented : Indented following := by
        by_contra flush
        rw [continuation?_eq_none flush] at continued
        cases continued
      exact next line report following others (ofLine?_eq_some_iff.mp announced)
        (List.isEmpty_iff.mp none) indented ih
  | case5 line report announced none following others single ih =>
      have flush : ¬ Indented following := by
        intro indented
        rw [continuation?_of_indented indented] at single
        cases single
      exact alone line report following others (ofLine?_eq_some_iff.mp announced)
        (List.isEmpty_iff.mp none) flush ih
  | case6 line rest report announced some ih =>
      exact own line report rest (ofLine?_eq_some_iff.mp announced)
        (fun none => some (List.isEmpty_iff.mpr none)) ih

end Report

section Scan

variable {lines rest : List (List Char)} {start : Nat} {line : List Char} {report : Report}

theorem getElem?_of_drop (here : lines.drop start = line :: rest) : lines[start]? = some line := by
  rw [← List.head?_drop, here]
  rfl

theorem drop_behind (here : lines.drop start = line :: rest) : lines.drop (start + 1) = rest := by
  rw [← List.tail_drop, here]
  rfl

/-- What decides whether the line behind a line is consumed. -/
theorem consumed_behind_iff (here : lines.drop start = line :: rest)
    (free : ¬ Consumed lines start) :
    Consumed lines (start + 1) ↔ ∃ report next, Announces line report ∧ report.message = [] ∧
      rest.head? = some next ∧ Indented next := by
  rw [Consumed, getElem?_of_drop here, ← List.head?_drop, drop_behind here]
  constructor
  · rintro ⟨-, other, report, next, same, announces, none, behind, indented⟩
    obtain rfl := Option.some.inj same
    exact ⟨report, next, announces, none, behind, indented⟩
  · rintro ⟨report, next, announces, none, behind, indented⟩
    exact ⟨free, line, report, next, rfl, announces, none, behind, indented⟩

/-- A line reports what it announces, with the message that it comes to. -/
theorem reported_here (here : lines.drop start = line :: rest) (free : ¬ Consumed lines start)
    (announces : Announces line report) {message : List Char}
    (messageAt : MessageAt lines start report.message message) :
    Reported lines start { report with message := message } :=
  ⟨free, line, report, message, getElem?_of_drop here, announces, messageAt, rfl⟩

theorem not_reported_here (here : lines.drop start = line :: rest)
    (silent : ∀ own, ¬ Announces line own) : ∀ own, ¬ Reported lines start own := by
  intro own reported
  obtain ⟨other, announced, _, atLine, announces, -⟩ := reported.announced
  obtain rfl := Option.some.inj ((getElem?_of_drop here).symm.trans atLine)
  exact silent announced announces

theorem consumed_behind {next : List Char} (here : lines.drop start = line :: next :: rest)
    (free : ¬ Consumed lines start) (announces : Announces line report)
    (none : report.message = []) (indented : Indented next) : Consumed lines (start + 1) :=
  (consumed_behind_iff here free).mpr ⟨report, next, announces, none, rfl, indented⟩

/-! The line behind a line that is not consumed is not consumed either when that one announces
nothing, or has a message of its own, or when it is itself not indented; nor is one behind a
consumed line. -/

theorem free_behind_silent (here : lines.drop start = line :: rest) (free : ¬ Consumed lines start)
    (silent : ∀ report, ¬ Announces line report) : ¬ Consumed lines (start + 1) := by
  rw [consumed_behind_iff here free]
  rintro ⟨report, _, announces, -⟩
  exact silent report announces

theorem free_behind_own (here : lines.drop start = line :: rest) (free : ¬ Consumed lines start)
    (announces : Announces line report) (some : report.message ≠ []) :
    ¬ Consumed lines (start + 1) := by
  rw [consumed_behind_iff here free]
  rintro ⟨other, _, also, none, -⟩
  exact some (announces.unique also ▸ none)

theorem free_behind_flush (here : lines.drop start = line :: rest) (free : ¬ Consumed lines start)
    (flush : ∀ next ∈ rest.head?, ¬ Indented next) : ¬ Consumed lines (start + 1) := by
  rw [consumed_behind_iff here free]
  rintro ⟨_, next, -, -, behind, indented⟩
  exact flush next behind indented

theorem not_consumed_twice (consumed : Consumed lines (start + 1)) :
    ¬ Consumed lines (start + 2) := fun twice => twice.1 consumed

end Scan

/-- The scan of the lines from one that is not consumed finds the reports of these lines. -/
theorem ofLines_scanned (lines rest : List (List Char)) (start : Nat)
    (here : lines.drop start = rest) (free : ¬ Consumed lines start) :
    ∃ found, found.map Prod.snd = Report.ofLines rest ∧ Scanned lines start found := by
  induction rest using Report.scan_induction generalizing start with
  | nil => exact ⟨[], Report.ofLines_nil.symm, Scanned.nil (List.drop_eq_nil_iff.mp here)⟩
  | noise line rest silent ih =>
      obtain ⟨found, same, scanned⟩ :=
        ih (start + 1) (drop_behind here) (free_behind_silent here free silent)
      rw [Report.ofLines_silent silent, ← same]
      exact ⟨found, rfl, scanned.skip (not_reported_here here silent)⟩
  | last line report announces none =>
      have missing := free_behind_flush here free nofun
      have reported := reported_here here free announces (.missing none missing)
      rw [← none] at reported
      refine ⟨[(start, report)], (Report.ofLines_last announces).symm, reported.cons_scanned ?_⟩
      exact Scanned.nil (List.drop_eq_nil_iff.mp (drop_behind here))
  | next line report next rest announces none indented ih =>
      have behind := drop_behind here
      have consumed := consumed_behind here free announces none indented
      have reported := reported_here here free announces
        (.next none next (getElem?_of_drop behind) consumed)
      obtain ⟨found, same, scanned⟩ :=
        ih (start + 2) (drop_behind behind) (not_consumed_twice consumed)
      rw [Report.ofLines_next announces none indented, ← same]
      exact ⟨_, rfl, reported.cons_scanned (scanned.skip fun own also => also.free consumed)⟩
  | alone line report next rest announces none flush ih =>
      have missing := free_behind_flush here free (by simpa using flush)
      have reported := reported_here here free announces (.missing none missing)
      rw [← none] at reported
      obtain ⟨found, same, scanned⟩ := ih (start + 1) (drop_behind here) missing
      rw [Report.ofLines_alone announces flush, ← same]
      exact ⟨_, rfl, reported.cons_scanned scanned⟩
  | own line report rest announces some ih =>
      have reported := reported_here here free announces (.own some)
      obtain ⟨found, same, scanned⟩ :=
        ih (start + 1) (drop_behind here) (free_behind_own here free announces some)
      rw [Report.ofLines_own announces some, ← same]
      exact ⟨_, rfl, reported.cons_scanned scanned⟩

end AsmDiagnostics
