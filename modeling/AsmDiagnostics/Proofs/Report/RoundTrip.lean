import AsmDiagnostics.Proofs.Report.Due
import AsmDiagnostics.Proofs.Text.Line

/-!
# Printing reports and reading them back

An output is printed from items: noise, reports on one line, and reports whose message has an
indented line of its own.  Reading such an output gives the reports back, in order, and nothing of
the noise.
-/

namespace AsmDiagnostics

namespace Report

/-- A number that begins inside a file would have to end there, since the parenthesis behind the
file is no digit. -/
theorem length_le_of_located {file rest front digits behind : List Char}
    (free : ∀ front digits rest, ¬ Located file front digits rest)
    (h : Located (file ++ '(' :: rest) front digits behind) : file.length ≤ front.length := by
  by_contra short
  obtain ⟨whole, some, digital⟩ := h
  rcases List.append_eq_append_iff.mp whole with ⟨middle, parted, others⟩ | ⟨middle, parted, others⟩
  · have lengths := congrArg List.length parted
    rw [List.length_append] at lengths
    omega
  · cases middle with
    | nil =>
        rw [List.append_nil] at parted
        exact short (Nat.le_of_eq (congrArg List.length parted))
    | cons c inside =>
        obtain ⟨rfl, inner⟩ := List.cons.inj others
        -- the digits, the parenthesis and the colon against what is left of the file
        have marks : (digits ++ [')', ':']) ++ behind = inside ++ '(' :: rest := by simpa using inner
        rcases List.append_eq_append_iff.mp marks with ⟨more, cut, -⟩ | ⟨more, cut, last⟩
        · exact free front digits more ⟨by rw [parted, cut]; simp, some, digital⟩
        · cases more with
          | nil =>
              rw [List.append_nil] at cut
              exact free front digits [] ⟨by rw [parted, ← cut], some, digital⟩
          | cons d more =>
              obtain rfl : d = '(' := (List.cons.inj last).1.symm
              have member : '(' ∈ digits ++ [')', ':'] := cut ▸ by simp
              rcases List.mem_append.mp member with digit | mark
              · have digital' := digital '(' digit
                rw [show Text.isDecimalDigit '(' = false by decide] at digital'
                nomatch digital'
              · simp at mark

/-- Behind a file without a number of its own, the first number is the one behind it. -/
theorem splitLocation?_of_free {file digits rest : List Char}
    (free : ∀ front digits rest, ¬ Located file front digits rest) (some : digits ≠ [])
    (digital : ∀ c ∈ digits, Text.isDecimalDigit c = true) :
    splitLocation? (file ++ '(' :: (digits ++ ')' :: ':' :: rest)) =
      Option.some (file, digits, rest) := by
  have here : Located (file ++ '(' :: (digits ++ ')' :: ':' :: rest)) file digits rest :=
    ⟨rfl, some, digital⟩
  have spec := splitLocation?_spec (file ++ '(' :: (digits ++ ')' :: ':' :: rest))
  cases found : splitLocation? (file ++ '(' :: (digits ++ ')' :: ':' :: rest)) with
  | none =>
      rw [found] at spec
      exact absurd here (spec file digits rest)
  | some parts =>
      obtain ⟨front, number, behind⟩ := parts
      rw [found] at spec
      have same := Nat.le_antisymm (spec.2 file digits rest here) (length_le_of_located free spec.1)
      obtain ⟨rfl, rfl, rfl⟩ := spec.1.unique here same
      rfl

theorem find?_of_atFront? {line : List Char} {parts : ReportParts}
    (h : atFront? line = some parts) : find? line = some parts := by
  cases line with
  | nil => simp [atFront?, severityWord?, afterWord] at h
  | cons c line => simp only [find?, h]

end Report

/-! ## What is printed -/

/-- What a report says: the file has no blank at its front and no number in parentheses with a colon
inside, and the message is not blank. -/
structure Announcement where
  severity : Severity
  file : List Char
  number : UInt32
  message : List Char
  file_single : '\n' ∉ file
  file_start : ∀ c ∈ file.head?, Text.isBlank c = false
  file_free : ∀ front digits rest, ¬ Report.Located file front digits rest
  message_single : '\n' ∉ message
  message_solid : ¬ Text.allBlank message = true

/-- A piece of an output. -/
inductive Item where
  /-- A line that has no reading as a report. -/
  | noise (line : List Char) (single : '\n' ∉ line) (silent : ∀ r : Reading, ¬ r.Fits line)
  /-- A report with its message on the same line. -/
  | oneLine (report : Announcement)
  /-- A report with its message on a line of its own. -/
  | twoLine (report : Announcement) (indent : List Char) (blank : Text.allBlank indent = true)
      (single : '\n' ∉ indent) (long : 4 ≤ indent.length)

namespace Announcement

/-- The severity, the file and the number as they are printed. -/
def heading (a : Announcement) : List Char :=
  a.severity.label.toList ++ ':' :: ' ' ::
    (a.file ++ '(' :: (Text.decimal a.number.toNat ++ [')', ':']))

def report (a : Announcement) : Report :=
  ⟨a.severity, a.file, a.number.toNat, Text.trim a.message⟩

theorem atFront?_heading (a : Announcement) (rest : List Char) :
    Report.atFront? (a.heading ++ rest) =
      some ⟨a.severity, a.file, Text.decimal a.number.toNat, rest⟩ := by
  have behind : a.heading ++ rest = a.severity.label.toList ++ ':' :: ' ' ::
      (a.file ++ '(' :: (Text.decimal a.number.toNat ++ ')' :: ':' :: rest)) := by
    simp [heading]
  have trimmed : Text.trimStart (' ' :: (a.file ++ '(' ::
      (Text.decimal a.number.toNat ++ ')' :: ':' :: rest))) =
      a.file ++ '(' :: (Text.decimal a.number.toNat ++ ')' :: ':' :: rest) := by
    rw [Text.trimStart_cons_blank Text.isBlank_space]
    cases start : a.file with
    | nil => exact Text.trimStart_cons_solid Reading.not_blank_open _
    | cons c file => exact Text.trimStart_cons_solid (a.file_start c (by simp [start])) _
  unfold Report.atFront?
  rw [behind, Report.severityWord?_eq_some_iff.mpr rfl]
  dsimp only
  rw [trimmed, Report.splitLocation?_of_free a.file_free (Text.decimal_ne_nil _)
    (Text.decimal_digits _)]
  rfl

/-- A heading announces the report with what stands behind it as the message. -/
theorem announces (a : Announcement) (rest : List Char) :
    Announces (a.heading ++ rest) { a.report with message := Text.trim rest } := by
  rw [← ofLine?_eq_some_iff]
  have small : a.number.toNat ≤ Text.maxWord32 := Nat.le_of_lt_succ a.number.toNat_lt
  unfold Report.ofLine?
  rw [Report.find?_of_atFront? (a.atFront?_heading rest)]
  simp only [Text.readDigits_decimal small]
  rfl

theorem heading_solid (a : Announcement) (rest : List Char) :
    Text.allBlank (a.heading ++ rest) = false := by
  unfold heading
  cases a.severity <;> rfl

theorem message_ne_nil (a : Announcement) : a.message ≠ [] := by
  intro none
  apply a.message_solid
  rw [none]
  rfl

theorem report_message_ne_nil (a : Announcement) : a.report.message ≠ [] :=
  fun none => a.message_solid (Text.trim_eq_nil_iff.mp none)

theorem diagnostic_report (a : Announcement) : a.report.diagnostic =
    ⟨a.severity, UInt32.ofNat (a.number.toNat - 1), String.ofList (Text.trim a.message)⟩ := by
  have shown : Diagnostic.shownMessage a.severity (Text.trim a.message) =
      String.ofList (Text.trim a.message) := by
    rw [Diagnostic.shownMessage_trim a.severity (Text.trim_trim a.message)]
    exact if_neg a.report_message_ne_nil
  unfold Report.diagnostic report
  rw [shown]

theorem dropReturn_oneLine (a : Announcement) :
    Text.dropReturn (a.heading ++ ' ' :: a.message) =
      a.heading ++ ' ' :: Text.dropReturn a.message := by
  rw [List.append_cons a.heading ' ' a.message, Text.dropReturn_append _ a.message_ne_nil,
    ← List.append_cons]

theorem dropReturn_solid (a : Announcement) :
    Text.allBlank (Text.dropReturn a.message) = false := by
  rw [Text.allBlank_dropReturn]
  exact Bool.eq_false_iff.mpr a.message_solid

theorem heading_single (a : Announcement) : '\n' ∉ a.heading := by
  have number : '\n' ∉ Text.decimal a.number.toNat := by
    intro member
    have digit := Text.decimal_digits _ _ member
    rw [show Text.isDecimalDigit '\n' = false by decide] at digit
    cases digit
  have label : '\n' ∉ a.severity.label.toList := by cases a.severity <;> decide
  simp [heading, number, label, a.file_single]

theorem dropReturn_heading (a : Announcement) : Text.dropReturn a.heading = a.heading := by
  have ends : a.heading = (a.severity.label.toList ++ ':' :: ' ' ::
      (a.file ++ '(' :: (Text.decimal a.number.toNat ++ [')']))) ++ [':'] := by
    simp [heading]
  rw [ends, Text.dropReturn_append _ (List.cons_ne_nil _ _)]
  rfl

/-- The diagnostic of the report: nothing for a document that the file is not the last part of. -/
def expected (relative : Path) (a : Announcement) : Option (Severity × Nat × String) :=
  if (Path.reported a.file).bytes ≠ [] ∧
      (Path.reported a.file).components <:+ relative.components then
    some (a.severity, a.number.toNat - 1, String.ofList (Text.trim a.message))
  else none

theorem expected_of_concerns {relative : Path} {a : Announcement}
    (h : a.report.concerns relative.endsWith = true) :
    a.expected relative = some (a.report.diagnostic.severity, a.report.diagnostic.line.toNat,
      a.report.diagnostic.message) := by
  have line : (UInt32.ofNat (a.number.toNat - 1)).toNat = a.number.toNat - 1 :=
    UInt32.toNat_ofNat_of_lt' (Nat.lt_of_le_of_lt (Nat.sub_le _ _) a.number.toNat_lt)
  refine (if_pos ((Report.concerns_iff relative a.report).mp h)).trans ?_
  rw [diagnostic_report, line]

theorem expected_eq_none {relative : Path} {a : Announcement}
    (h : ¬ a.report.concerns relative.endsWith = true) : a.expected relative = none :=
  if_neg fun named => h ((Report.concerns_iff relative a.report).mpr named)

end Announcement

namespace Item

def lines : Item → List (List Char)
  | .noise line .. => [line]
  | .oneLine a => [a.heading ++ ' ' :: a.message]
  | .twoLine a indent .. => [a.heading, indent ++ a.message]

def announcement? : Item → Option Announcement
  | .noise .. => none
  | .oneLine a => some a
  | .twoLine a .. => some a

/-- The lines of an item that remain when it is read: without carriage returns at their ends, and
without the blank ones. -/
def remaining (item : Item) : List (List Char) :=
  (item.lines.map Text.dropReturn).filter fun line => !Text.allBlank line

theorem lines_single (item : Item) : ∀ line ∈ item.lines, '\n' ∉ line := by
  cases item with
  | noise line single silent => simpa [lines] using single
  | oneLine a => simp [lines, a.heading_single, a.message_single]
  | twoLine a indent blank single long =>
      simp [lines, a.heading_single, a.message_single, single]

/-- A line that lost a carriage return has no more readings than before. -/
theorem silent_dropReturn {line : List Char} (silent : ∀ r : Reading, ¬ r.Fits line) (r : Reading) :
    ¬ r.Fits (Text.dropReturn line) := by
  intro fits
  rcases Text.dropReturn_cases line with same | cut
  · exact silent r (same ▸ fits)
  · refine silent { r with rest := r.rest ++ ['\r'] } ⟨?_, fits.blank, fits.some, fits.digital⟩
    rw [cut, ← fits.whole]
    simp [Reading.text]

/-- Reading an item gives its report, whatever follows. -/
theorem ofLines_remaining (item : Item) (rest : List (List Char)) :
    Report.ofLines (item.remaining ++ rest) =
      (item.announcement?.map Announcement.report).toList ++ Report.ofLines rest := by
  cases item with
  | noise line single silent =>
      by_cases blank : Text.allBlank (Text.dropReturn line) = true
      · simp [remaining, lines, announcement?, blank]
      · have nothing : Report.ofLine? (Text.dropReturn line) = none := by
          rw [ofLine?_eq_none_iff]
          rintro report ⟨⟨r, chosen, -⟩, -⟩
          exact silent_dropReturn silent r chosen.fits
        simp [remaining, lines, announcement?, blank, Report.ofLines_noise nothing]
  | oneLine a =>
      have announces := a.announces (' ' :: Text.dropReturn a.message)
      have message : Text.trim (' ' :: Text.dropReturn a.message) = a.report.message :=
        (Text.trim_append_blanks (show Text.allBlank [' '] = true by decide) _).trans
          (Text.trim_dropReturn a.message)
      rw [message] at announces
      have solid := a.heading_solid (' ' :: Text.dropReturn a.message)
      have own := Report.ofLines_own announces a.report_message_ne_nil rest
      simpa [remaining, lines, announcement?, a.dropReturn_oneLine, solid] using own
  | twoLine a indent blank single long =>
      have announces : Announces a.heading { a.report with message := [] } := by
        have alone := a.announces []
        rwa [List.append_nil] at alone
      have heading : Text.allBlank a.heading = false := by
        have alone := a.heading_solid []
        rwa [List.append_nil] at alone
      have cut : Text.dropReturn (indent ++ a.message) = indent ++ Text.dropReturn a.message :=
        Text.dropReturn_append indent a.message_ne_nil
      have solid : Text.allBlank (indent ++ Text.dropReturn a.message) = false := by
        have behind := a.dropReturn_solid
        unfold Text.allBlank at behind ⊢
        rw [List.all_append, behind, Bool.and_false]
      have indented : Indented (indent ++ Text.dropReturn a.message) := ⟨indent, _, rfl, blank, long⟩
      have message : Text.trim (indent ++ Text.dropReturn a.message) = a.report.message :=
        (Text.trim_append_blanks blank _).trans (Text.trim_dropReturn a.message)
      have next := Report.ofLines_next announces rfl indented rest
      rw [message] at next
      simpa [remaining, lines, announcement?, a.dropReturn_heading, heading, cut, solid] using next

theorem ofLines_flatMap (items : List Item) :
    Report.ofLines (items.flatMap remaining) =
      (items.filterMap announcement?).map Announcement.report := by
  induction items with
  | nil => exact Report.ofLines_nil
  | cons item items ih =>
      rw [List.flatMap_cons, ofLines_remaining, ih]
      cases shown : item.announcement? <;> simp [shown]

end Item

/-- The items printed in order, with a newline behind each line. -/
def printed (items : List Item) : List Char :=
  (items.flatMap Item.lines).flatMap fun line => line ++ ['\n']

theorem solidLines_printed (items : List Item) :
    Report.solidLines (printed items) = items.flatMap Item.remaining := by
  have single : ∀ line ∈ items.flatMap Item.lines, '\n' ∉ line := by
    intro line member
    obtain ⟨item, -, inside⟩ := List.mem_flatMap.mp member
    exact item.lines_single line inside
  unfold Report.solidLines printed
  rw [Text.lines_flatMap single, List.map_flatMap, List.filter_flatMap]
  rfl

/-- Reading an output that was printed from items gives, for every document, the diagnostics of the
reports that name it, in the order in which they were printed, and nothing else. -/
theorem diagnosticsAt_printed (relative : Path) (items : List Item) :
    (Report.diagnosticsAt relative (String.ofList (printed items))).map
        (fun d => (d.severity, d.line.toNat, d.message)) =
      (items.filterMap Item.announcement?).filterMap (Announcement.expected relative) := by
  unfold Report.diagnosticsAt Report.diagnosticsFor Report.ofOutput
  rw [String.toList_ofList, solidLines_printed, Item.ofLines_flatMap]
  induction items.filterMap Item.announcement? with
  | nil => rfl
  | cons a others ih =>
      rw [List.map_cons, List.filter_cons, List.filterMap_cons]
      split
      · rename_i named
        rw [Announcement.expected_of_concerns named, List.map_cons, List.map_cons, ih]
      · rename_i other
        rw [Announcement.expected_eq_none other, ih]

/-- A file and a message that look like reports themselves. -/
def Announcement.crowded : Announcement where
  severity := .warning
  file := ".\\error: f(1)".toList
  number := 7
  message := "g(2): h".toList
  file_single := by decide
  file_start c first := by
    obtain rfl : '.' = c := Option.some.inj first
    decide
  file_free := by
    have spec := Report.splitLocation?_spec ".\\error: f(1)".toList
    rwa [show Report.splitLocation? ".\\error: f(1)".toList = none by decide +kernel] at spec
  message_single := by decide
  message_solid := by decide

/-- A report for another document. -/
def Announcement.elsewhere : Announcement where
  severity := .error
  file := "b".toList
  number := 4294967295
  message := "x".toList
  file_single := by decide
  file_start c first := by
    obtain rfl : 'b' = c := Option.some.inj first
    decide
  file_free := by
    have spec := Report.splitLocation?_spec "b".toList
    rwa [show Report.splitLocation? "b".toList = none by decide +kernel] at spec
  message_single := by decide
  message_solid := by decide

/-- Noise that is nearly a report, and reports for two documents. -/
def Item.crowd : List Item :=
  [.noise "error: f(1)".toList (by decide) (Reading.find?_eq_none_iff.mp (by decide +kernel)),
    .twoLine .crowded "    ".toList (by decide) (by decide) (by decide), .oneLine .elsewhere,
    .oneLine .crowded]

/-- Of the reports among the noise those come back that name the document. -/
theorem crowd_read_back :
    let output := String.ofList (printed Item.crowd)
    output = "error: f(1)\nwarning: .\\error: f(1)(7):\n    g(2): h\n" ++
        "error: b(4294967295): x\nwarning: .\\error: f(1)(7): g(2): h\n" ∧
      (Report.diagnosticsAt (Path.ofString "src/error: f(1)") output).map
          (fun d => (d.severity, d.line.toNat, d.message)) =
        [(.warning, 6, "g(2): h"), (.warning, 6, "g(2): h")] := by
  intro output
  refine ⟨by decide +kernel, ?_⟩
  rw [diagnosticsAt_printed]
  decide +kernel

end AsmDiagnostics
