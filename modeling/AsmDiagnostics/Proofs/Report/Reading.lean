import AsmDiagnostics.Proofs.Text.Blank
import AsmDiagnostics.Proofs.Text.Digit
import AsmDiagnostics.Report

/-!
# Readings of a line

A reading cuts a line into the parts of a report: a severity word with its colon, blanks, a file, a
number in parentheses with a colon, and a rest.  A line may have many readings.  The one that counts
starts first; of those it has the most blanks before the file, and of those the shortest file.
-/

namespace AsmDiagnostics

namespace Report

/-! ## The parts on their own -/

theorem afterWord_eq_some_iff {word s rest : List Char} :
    afterWord word s = some rest ↔ s = word ++ rest := by
  induction word generalizing s with
  | nil => simp [afterWord]
  | cons a word ih =>
      cases s with
      | nil => simp [afterWord]
      | cons b s =>
          unfold afterWord
          by_cases same : a = b
          · rw [if_pos same, ih, same]
            simp
          · rw [if_neg same]
            simp [Ne.symm same]

theorem severityWord?_eq_some_iff {s rest : List Char} {severity : Severity} :
    severityWord? s = some (severity, rest) ↔
      s = severity.label.toList ++ ':' :: rest := by
  have error : "error:".toList = Severity.error.label.toList ++ [':'] := rfl
  have warning : "warning:".toList = Severity.warning.label.toList ++ [':'] := rfl
  unfold severityWord?
  cases front : afterWord "error:".toList s with
  | some other =>
      have parts := afterWord_eq_some_iff.mp front
      cases severity with
      | error => simp [parts, error, eq_comm]
      | warning => simp [parts, Severity.label]
  | none =>
      have absent : ∀ other, s ≠ "error:".toList ++ other := by
        intro other parts
        rw [afterWord_eq_some_iff.mpr parts] at front
        simp at front
      cases severity with
      | error => simpa [error] using absent rest
      | warning => simp [afterWord_eq_some_iff, warning]

/-- A parenthesised number with its colon stands behind a file. -/
def Located (s file digits rest : List Char) : Prop :=
  s = file ++ '(' :: (digits ++ ')' :: ':' :: rest) ∧ digits ≠ [] ∧
    ∀ c ∈ digits, Text.isDecimalDigit c = true

theorem not_digit_close : Text.isDecimalDigit ')' = false := by decide

theorem location?_eq_some_iff {s digits rest : List Char} :
    location? s = some (digits, rest) ↔ Located s [] digits rest := by
  constructor
  · intro found
    unfold location? at found
    split at found
    · rename_i behind
      dsimp only at found
      split at found
      · simp at found
      · rename_i some
        obtain ⟨other, after, same⟩ := Option.map_eq_some_iff.mp found
        obtain ⟨rfl, rfl⟩ := Prod.mk.inj same
        rw [afterWord_eq_some_iff] at after
        refine ⟨?_, fun none => some (List.isEmpty_iff.mpr none), ?_⟩
        · rw [List.nil_append]
          apply congrArg ('(' :: ·)
          calc
            behind = behind.takeWhile Text.isDecimalDigit ++ behind.dropWhile Text.isDecimalDigit :=
              List.takeWhile_append_dropWhile.symm
            _ = behind.takeWhile Text.isDecimalDigit ++ ')' :: ':' :: other := by rw [after]; rfl
        · exact List.all_eq_true.mp List.all_takeWhile
    · simp at found
  · rintro ⟨rfl, some, digital⟩
    have front : (digits ++ ')' :: ':' :: rest).takeWhile Text.isDecimalDigit = digits := by
      rw [List.takeWhile_append_of_pos digital, List.takeWhile_cons_of_neg (by simp [not_digit_close]),
        List.append_nil]
    have back : (digits ++ ')' :: ':' :: rest).dropWhile Text.isDecimalDigit =
        "):".toList ++ rest := by
      rw [List.dropWhile_append_of_pos digital, List.dropWhile_cons_of_neg (by simp [not_digit_close])]
      rfl
    simp [location?, front, back, some, afterWord_eq_some_iff.mpr]

/-- Two numbers behind the same length of text are the same. -/
theorem Located.unique {s file digits rest otherFile otherDigits otherRest : List Char}
    (h : Located s file digits rest) (other : Located s otherFile otherDigits otherRest)
    (same : file.length = otherFile.length) :
    file = otherFile ∧ digits = otherDigits ∧ rest = otherRest := by
  have parts := h.1.symm.trans other.1
  obtain ⟨files, behind⟩ := List.append_inj parts same
  have first : Located ('(' :: (digits ++ ')' :: ':' :: rest)) [] digits rest := ⟨rfl, h.2⟩
  have second : Located ('(' :: (digits ++ ')' :: ':' :: rest)) [] otherDigits otherRest :=
    ⟨behind, other.2⟩
  have found := (location?_eq_some_iff.mpr first).symm.trans (location?_eq_some_iff.mpr second)
  obtain ⟨sameDigits, sameRest⟩ := Prod.mk.inj (Option.some.inj found)
  exact ⟨files, sameDigits, sameRest⟩

theorem Located.cons {s file digits rest : List Char} (h : Located s file digits rest) (c : Char) :
    Located (c :: s) (c :: file) digits rest := ⟨congrArg (c :: ·) h.1, h.2⟩

theorem Located.tail {c d : Char} {s file digits rest : List Char}
    (h : Located (c :: s) (d :: file) digits rest) : Located s file digits rest :=
  ⟨(List.cons.inj h.1).2, h.2⟩

/-- The first number is found if there is any. -/
theorem splitLocation?_spec (s : List Char) :
    match splitLocation? s with
    | some (file, digits, rest) => Located s file digits rest ∧
        ∀ other otherDigits otherRest, Located s other otherDigits otherRest →
          file.length ≤ other.length
    | none => ∀ file digits rest, ¬ Located s file digits rest := by
  induction s with
  | nil =>
      intro file digits rest h
      cases file <;> simp [Located] at h
  | cons c s ih =>
      unfold splitLocation?
      cases here : location? (c :: s) with
      | some found =>
          exact ⟨location?_eq_some_iff.mp here, fun other _ _ _ => Nat.zero_le other.length⟩
      | none =>
          -- there is no number at the front, so every number is one of the tail
          have behind : ∀ file digits rest, Located (c :: s) file digits rest →
              ∃ tail, file = c :: tail ∧ Located s tail digits rest := by
            intro file digits rest h
            cases file with
            | nil =>
                rw [location?_eq_some_iff.mpr h] at here
                simp at here
            | cons d tail =>
                obtain rfl : c = d := (List.cons.inj h.1).1
                exact ⟨tail, rfl, h.tail⟩
          cases later : splitLocation? s with
          | some found =>
              rw [later] at ih
              refine ⟨ih.1.cons c, ?_⟩
              intro other otherDigits otherRest h
              obtain ⟨tail, rfl, located⟩ := behind other otherDigits otherRest h
              exact Nat.succ_le_succ (ih.2 tail otherDigits otherRest located)
          | none =>
              rw [later] at ih
              intro file digits rest h
              obtain ⟨tail, rfl, located⟩ := behind file digits rest h
              exact ih tail digits rest located

end Report

/-! ## Readings -/

/-- A way to cut a line into the parts of a report. -/
structure Reading where
  front : List Char
  severity : Severity
  blanks : List Char
  file : List Char
  digits : List Char
  rest : List Char

namespace Reading

def text (r : Reading) : List Char :=
  r.front ++ (r.severity.label.toList ++ ':' ::
    (r.blanks ++ (r.file ++ '(' :: (r.digits ++ ')' :: ':' :: r.rest))))

/-- The reading cuts the line, with blanks before the file and at least one digit in the
parentheses. -/
structure Fits (r : Reading) (line : List Char) : Prop where
  whole : r.text = line
  blank : Text.allBlank r.blanks = true
  some : r.digits ≠ []
  digital : ∀ c ∈ r.digits, Text.isDecimalDigit c = true

/-- A reading comes before another one: it starts first, or at the same place with more blanks, or
with as many blanks and no longer file. -/
def Before (r other : Reading) : Prop :=
  r.front.length < other.front.length ∨ r.front.length = other.front.length ∧
    (other.blanks.length < r.blanks.length ∨ r.blanks.length = other.blanks.length ∧
      r.file.length ≤ other.file.length)

/-- The reading of a line that counts. -/
structure Chosen (r : Reading) (line : List Char) : Prop where
  fits : r.Fits line
  first : ∀ other : Reading, other.Fits line → r.Before other

def parts (r : Reading) : ReportParts := ⟨r.severity, r.file, r.digits, r.rest⟩

theorem not_blank_open : Text.isBlank '(' = false := by decide

/-- A reading without a front starts with a severity word. -/
theorem severityWord?_of_fits {r : Reading} {line : List Char} (h : r.Fits line)
    (start : r.front = []) : Report.severityWord? line =
      Option.some (r.severity, r.blanks ++ (r.file ++ '(' :: (r.digits ++ ')' :: ':' :: r.rest))) := by
  rw [Report.severityWord?_eq_some_iff, ← h.whole, text, start]
  rfl

/-- What is found at the front of a line is the reading without a front that counts; nothing is
found if there is none. -/
theorem atFront?_spec (line : List Char) :
    match Report.atFront? line with
    | .some parts => ∃ r : Reading, r.front = [] ∧ r.parts = parts ∧ r.Fits line ∧
        ∀ other : Reading, other.front = [] → other.Fits line → r.Before other
    | none => ∀ r : Reading, r.front = [] → ¬ r.Fits line := by
  unfold Report.atFront?
  cases word : Report.severityWord? line with
  | none =>
      intro r start fits
      rw [severityWord?_of_fits fits start] at word
      simp at word
  | some found =>
      obtain ⟨severity, behind⟩ := found
      dsimp only
      have whole := Report.severityWord?_eq_some_iff.mp word
      have split := Report.splitLocation?_spec (Text.trimStart behind)
      have other_behind : ∀ other : Reading, other.front = [] → other.Fits line →
          other.blanks ++ (other.file ++ '(' :: (other.digits ++ ')' :: ':' :: other.rest)) =
            behind := by
        intro other start fits
        rw [severityWord?_of_fits fits start] at word
        exact (Prod.mk.inj (Option.some.inj word)).2
      cases location : Report.splitLocation? (Text.trimStart behind) with
      | none =>
          rw [location] at split
          intro other start fits
          refine split (Text.trimStart other.file) other.digits other.rest ⟨?_, fits.some, fits.digital⟩
          rw [← other_behind other start fits, Text.trimStart_append_blanks fits.blank,
            Text.trimStart_append_solid not_blank_open]
      | some parts =>
          obtain ⟨file, digits, rest⟩ := parts
          rw [location] at split
          obtain ⟨located, shortest⟩ := split
          refine ⟨⟨[], severity, behind.takeWhile Text.isBlank, file, digits, rest⟩, rfl, rfl,
            ⟨?_, Text.allBlank_takeWhile behind, located.2.1, located.2.2⟩, ?_⟩
          · have cut : behind.takeWhile Text.isBlank ++
                (file ++ '(' :: (digits ++ ')' :: ':' :: rest)) = behind := by
              rw [← located.1]
              exact Text.blanks_append_trimStart behind
            rw [whole]
            exact congrArg (fun behind => severity.label.toList ++ ':' :: behind) cut
          · intro other start fits
            have same := other_behind other start fits
            refine .inr ⟨by simp [start], ?_⟩
            have leading := Text.takeWhile_append_blanks fits.blank
              (other.file ++ '(' :: (other.digits ++ ')' :: ':' :: other.rest))
            have lengths := congrArg List.length leading
            rw [same, List.length_append] at lengths
            by_cases more : other.blanks.length < (behind.takeWhile Text.isBlank).length
            · exact .inl more
            · -- the other reading has all the blanks, so its file is the text before its number
              refine .inr ⟨by dsimp only; omega, shortest other.file other.digits other.rest ?_⟩
              refine ⟨?_, fits.some, fits.digital⟩
              rw [← same]
              exact Text.trimStart_of_all_blanks fits.blank (by rw [same]; exact Nat.le_of_not_lt more)

/-! ## Readings further behind -/

theorem Fits.cons {r : Reading} {line : List Char} (h : r.Fits line) (c : Char) :
    { r with front := c :: r.front }.Fits (c :: line) :=
  ⟨congrArg (c :: ·) h.whole, h.blank, h.some, h.digital⟩

theorem Fits.tail {r : Reading} {c d : Char} {front line : List Char} (h : r.Fits (c :: line))
    (start : r.front = d :: front) : d = c ∧ { r with front := front }.Fits line := by
  have whole := h.whole
  rw [text, start, List.cons_append] at whole
  obtain ⟨same, rest⟩ := List.cons.inj whole
  exact ⟨same, ⟨rest, h.blank, h.some, h.digital⟩⟩

theorem not_fits_nil (r : Reading) : ¬ r.Fits [] := by
  intro fits
  have whole := fits.whole
  simp [text] at whole

theorem Before.cons {r other : Reading} {front : List Char} (c d : Char)
    (start : other.front = d :: front) (h : r.Before { other with front := front }) :
    { r with front := c :: r.front }.Before other := by
  rcases h with earlier | ⟨same, later⟩
  · refine .inl ?_
    rw [start]
    exact Nat.succ_lt_succ earlier
  · refine .inr ⟨?_, later⟩
    rw [start]
    exact congrArg Nat.succ same

/-- The first report in a line is its reading that counts; a line without a reading has none. -/
theorem find?_spec (line : List Char) :
    match Report.find? line with
    | .some parts => ∃ r : Reading, r.parts = parts ∧ r.Chosen line
    | none => ∀ r : Reading, ¬ r.Fits line := by
  induction line with
  | nil => exact not_fits_nil
  | cons c line ih =>
      unfold Report.find?
      have here := atFront?_spec (c :: line)
      cases found : Report.atFront? (c :: line) with
      | some parts =>
          rw [found] at here
          obtain ⟨r, start, own, fits, first⟩ := here
          refine ⟨r, own, fits, fun other otherFits => ?_⟩
          cases front : other.front with
          | nil => exact first other front otherFits
          | cons d front' =>
              refine .inl ?_
              rw [start, front]
              exact Nat.zero_lt_succ _
      | none =>
          rw [found] at here
          dsimp only
          -- every reading of the line is one of its tail
          have behind : ∀ r : Reading, r.Fits (c :: line) → ∃ front, r.front = c :: front ∧
              { r with front := front }.Fits line := by
            intro r fits
            cases start : r.front with
            | nil => exact absurd fits (here r start)
            | cons d front =>
                obtain ⟨rfl, tail⟩ := fits.tail start
                exact ⟨front, rfl, tail⟩
          cases later : Report.find? line with
          | none =>
              rw [later] at ih
              intro r fits
              obtain ⟨front, -, tail⟩ := behind r fits
              exact ih _ tail
          | some parts =>
              rw [later] at ih
              obtain ⟨r, own, fits, first⟩ := ih
              refine ⟨{ r with front := c :: r.front }, own, fits.cons c, fun other otherFits => ?_⟩
              obtain ⟨front, start, tail⟩ := behind other otherFits
              exact (first _ tail).cons c c start

/-- A line has at most one reading that counts. -/
theorem Chosen.unique {r other : Reading} {line : List Char} (h : r.Chosen line)
    (also : other.Chosen line) : r = other := by
  have before := h.first other also.fits
  have after := also.first r h.fits
  have fronts : r.front.length = other.front.length := by
    rcases before with less | ⟨same, -⟩
    · rcases after with more | ⟨same, -⟩ <;> omega
    · exact same
  have blanks : r.blanks.length = other.blanks.length ∧ r.file.length = other.file.length := by
    unfold Before at before after
    omega
  have whole := h.fits.whole.trans also.fits.whole.symm
  unfold text at whole
  obtain ⟨sameFront, behind⟩ := List.append_inj whole fronts
  have words := (Report.severityWord?_eq_some_iff.mpr behind).symm.trans
    (Report.severityWord?_eq_some_iff.mpr rfl)
  obtain ⟨sameSeverity, body⟩ := Prod.mk.inj (Option.some.inj words)
  obtain ⟨sameBlanks, located⟩ := List.append_inj body.symm blanks.1
  have unique := Report.Located.unique ⟨located.symm, h.fits.some, h.fits.digital⟩
    ⟨rfl, also.fits.some, also.fits.digital⟩ blanks.2
  obtain ⟨front, severity, blanksOf, file, digits, rest⟩ := r
  obtain ⟨rfl, rfl, rfl⟩ := unique
  obtain rfl := sameFront
  obtain rfl := sameSeverity
  obtain rfl := sameBlanks
  rfl

theorem find?_eq_some_iff {line : List Char} {parts : ReportParts} :
    Report.find? line = some parts ↔ ∃ r : Reading, r.parts = parts ∧ r.Chosen line := by
  have spec := find?_spec line
  constructor
  · intro found
    rw [found] at spec
    exact spec
  · rintro ⟨r, rfl, chosen⟩
    cases found : Report.find? line with
    | none =>
        rw [found] at spec
        exact absurd chosen.fits (spec r)
    | some parts =>
        rw [found] at spec
        obtain ⟨other, own, also⟩ := spec
        rw [← own, also.unique chosen]

theorem find?_eq_none_iff {line : List Char} :
    Report.find? line = none ↔ ∀ r : Reading, ¬ r.Fits line := by
  have spec := find?_spec line
  constructor
  · intro nothing
    rw [nothing] at spec
    exact spec
  · intro none
    cases found : Report.find? line with
    | none => rfl
    | some parts =>
        rw [found] at spec
        obtain ⟨r, -, chosen⟩ := spec
        exact absurd chosen.fits (none r)

end Reading

/-! ## Announcements -/

/-- A line announces a report: its reading that counts has a number of ASCII digits that fits 32
bits, and the rest of the line without the blanks around it is the message. -/
structure Announces (line : List Char) (report : Report) : Prop where
  reading : ∃ r : Reading, r.Chosen line ∧ (∀ c ∈ r.digits, c.isDigit = true) ∧
    report.severity = r.severity ∧ report.file = r.file ∧
    report.line = Nat.ofDigitChars 10 r.digits 0 ∧ report.message = Text.trim r.rest
  fits : report.line < UInt32.size

theorem ofLine?_eq_some_iff {line : List Char} {report : Report} :
    Report.ofLine? line = some report ↔ Announces line report := by
  unfold Report.ofLine?
  constructor
  · intro found
    cases parted : Report.find? line with
    | none => simp [parted] at found
    | some parts =>
        obtain ⟨r, rfl, chosen⟩ := Reading.find?_eq_some_iff.mp parted
        rw [parted] at found
        dsimp only at found
        cases read : Text.readDigits Text.maxWord32 0 r.digits with
        | error fault => simp [Reading.parts, read] at found
        | ok number =>
            obtain ⟨ascii, value, small⟩ :=
              (Text.readDigits_eq_ok_iff (Nat.zero_le Text.maxWord32)).mp read
            simp only [Reading.parts, read, Option.some.injEq] at found
            subst found
            exact ⟨⟨r, chosen, ascii, rfl, rfl, value.symm, rfl⟩, Nat.lt_succ_of_le small⟩
  · rintro ⟨⟨r, chosen, ascii, severity, file, number, message⟩, small⟩
    have read : Text.readDigits Text.maxWord32 0 r.digits = .ok report.line :=
      (Text.readDigits_eq_ok_iff (Nat.zero_le Text.maxWord32)).mpr
        ⟨ascii, number.symm, Nat.le_of_lt_succ small⟩
    rw [Reading.find?_eq_some_iff.mpr ⟨r, rfl, chosen⟩]
    simp only [Reading.parts, read, ← severity, ← file, ← message]

theorem ofLine?_eq_none_iff {line : List Char} :
    Report.ofLine? line = none ↔ ∀ report, ¬ Announces line report := by
  rw [Option.eq_none_iff_forall_ne_some]
  exact forall_congr' fun report => not_congr ofLine?_eq_some_iff

end AsmDiagnostics
