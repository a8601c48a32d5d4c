import AsmDiagnostics.Proofs.Report.Reading

/-!
# The form of a report as a pattern

A pattern is a row of parts, and each part fits some beginnings of a text, of which it prefers some to
others. Where the parts behind do not fit what is left, the next beginning is tried. A pattern is
looked for from the front of a line on, so that the first place where it fits counts.

The reader of reports tries nothing twice: it takes all blanks behind a severity word, and the file
up to the first number. It finds what the pattern finds, and that is the reading of the line that
starts first, with the most blanks and the shortest file.
-/

namespace AsmDiagnostics

namespace Pattern

/-- One part of a pattern. -/
inductive Part where
  /-- One of some words; the first are preferred. -/
  | word (words : List (List Char))
  /-- At least so many characters of a kind; more are preferred. -/
  | greedy (least : Nat) (kind : Char → Bool)
  /-- Any number of characters of a kind; fewer are preferred. -/
  | modest (kind : Char → Bool)

/-- The ways to cut a text behind characters of a kind, the longest first. -/
def longestFirst (kind : Char → Bool) : List Char → List (List Char × List Char)
  | [] => [([], [])]
  | c :: s =>
      (if kind c then (longestFirst kind s).map fun cut => (c :: cut.1, cut.2) else []) ++
        [([], c :: s)]

/-- The ways to cut a text behind characters of a kind, the shortest first. -/
def shortestFirst (kind : Char → Bool) : List Char → List (List Char × List Char)
  | [] => [([], [])]
  | c :: s =>
      ([], c :: s) ::
        if kind c then (shortestFirst kind s).map fun cut => (c :: cut.1, cut.2) else []

/-- The ways in which a part fits a beginning of a text, with what is left, in the order in which they
are preferred. -/
def Part.cuts (s : List Char) : Part → List (List Char × List Char)
  | .word words =>
      words.filterMap fun word => (Report.afterWord word s).map fun rest => (word, rest)
  | .greedy least kind => (longestFirst kind s).filter fun cut => decide (least ≤ cut.1.length)
  | .modest kind => shortestFirst kind s

/-- The texts that the parts fit one behind the other at the front of a text. -/
def fit? : List Part → List Char → Option (List (List Char))
  | [], _ => some []
  | part :: parts, s => (part.cuts s).findSome? fun cut => (fit? parts cut.2).map (cut.1 :: ·)

/-- The texts that the parts fit at the first place where they do. -/
def search? (parts : List Part) : List Char → Option (List (List Char))
  | [] => fit? parts []
  | c :: s => (fit? parts (c :: s)).or (search? parts s)

/-! ## Parts -/

theorem fit?_cons (part : Part) (parts : List Part) (s : List Char) :
    fit? (part :: parts) s =
      (part.cuts s).findSome? fun cut => (fit? parts cut.2).map (cut.1 :: ·) := rfl

theorem fit?_word (words : List (List Char)) (parts : List Part) (s : List Char) :
    fit? (.word words :: parts) s = words.findSome? fun word =>
      (Report.afterWord word s).bind fun rest => (fit? parts rest).map (word :: ·) := by
  simp only [fit?, Part.cuts]
  induction words with
  | nil => rfl
  | cons word words ih =>
      cases front : Report.afterWord word s with
      | none => simpa [front] using ih
      | some rest => simp [front, List.findSome?_cons, ih]

theorem longestFirst_eq (kind : Char → Bool) (s : List Char) :
    ∃ others, longestFirst kind s = (s.takeWhile kind, s.dropWhile kind) :: others := by
  induction s with
  | nil => exact ⟨[], rfl⟩
  | cons c s ih =>
      obtain ⟨others, same⟩ := ih
      unfold longestFirst
      cases own : kind c with
      | true => simp [same, own]
      | false => simp [own]

theorem of_mem_longestFirst {kind : Char → Bool} {s : List Char} {cut : List Char × List Char}
    (member : cut ∈ longestFirst kind s) : cut.1 ++ cut.2 = s ∧ ∀ c ∈ cut.1, kind c = true := by
  induction s generalizing cut with
  | nil =>
      obtain rfl := List.mem_singleton.mp member
      exact ⟨rfl, List.forall_mem_nil _⟩
  | cons c s ih =>
      unfold longestFirst at member
      rcases List.mem_append.mp member with longer | whole
      · split at longer
        · rename_i own
          obtain ⟨shorter, inside, rfl⟩ := List.mem_map.mp longer
          obtain ⟨parts, kinds⟩ := ih inside
          exact ⟨congrArg (c :: ·) parts, List.forall_mem_cons.mpr ⟨own, kinds⟩⟩
        · cases longer
      · obtain rfl := List.mem_singleton.mp whole
        exact ⟨rfl, List.forall_mem_nil _⟩

/-- The longest beginning is taken when the parts behind fit what is left. -/
theorem fit?_greedy_of_some {kind : Char → Bool} {parts : List Part} {s : List Char}
    {pieces : List (List Char)} (behind : fit? parts (s.dropWhile kind) = some pieces) :
    fit? (.greedy 0 kind :: parts) s = some (s.takeWhile kind :: pieces) := by
  obtain ⟨others, same⟩ := longestFirst_eq kind s
  simp [fit?, Part.cuts, same, behind]

/-- If the parts behind fit nothing that starts with such a character, only the longest beginning
counts. -/
theorem findSome?_longestFirst {β : Type} {kind : Char → Bool} (s : List Char)
    (f : List Char × List Char → Option β)
    (flush : ∀ front c rest, kind c = true → f (front, c :: rest) = none) :
    (longestFirst kind s).findSome? f = f (s.takeWhile kind, s.dropWhile kind) := by
  induction s generalizing f with
  | nil => simp [longestFirst]
  | cons c s ih =>
      unfold longestFirst
      cases own : kind c with
      | true =>
          have later := ih (fun cut => f (c :: cut.1, cut.2))
            fun front d rest kinds => flush (c :: front) d rest kinds
          rw [if_pos rfl, List.findSome?_append, List.findSome?_map]
          simp [flush [] c s own, own, Function.comp_def, later]
      | false => simp [own]

theorem findSome?_filter {α β : Type} (p : α → Bool) (f : α → Option β) (l : List α) :
    (l.filter p).findSome? f = l.findSome? fun a => if p a then f a else none := by
  induction l with
  | nil => rfl
  | cons a l ih => cases own : p a <;> simp [own, List.findSome?_cons, ih]

/-- A greedy part in front of parts that fit nothing with such a character at the front fits all such
characters or none. -/
theorem fit?_greedy_flush {least : Nat} {kind : Char → Bool} {parts : List Part}
    (flush : ∀ c rest, kind c = true → fit? parts (c :: rest) = none) (s : List Char) :
    fit? (.greedy least kind :: parts) s =
      if least ≤ (s.takeWhile kind).length then
        (fit? parts (s.dropWhile kind)).map (s.takeWhile kind :: ·)
      else none := by
  rw [fit?_cons, Part.cuts, findSome?_filter, findSome?_longestFirst]
  · simp
  · intro front c rest own
    simp [flush c rest own]

end Pattern

namespace Report

open Pattern

/-! ## The parts of a report -/

def inLine (c : Char) : Bool := c != '\n'

/-- The message, and the blanks in front of it. -/
def messageParts : List Part := [.greedy 0 Text.isBlank, .greedy 0 inLine]

/-- The parenthesised number with its colon, and what is behind it. -/
def numberParts : List Part :=
  .word [['(']] :: .greedy 1 Text.isDecimalDigit :: .word [[')', ':']] :: messageParts

/-- The form of a report: a severity word with a colon, blanks, a file, a number and a message. -/
def pattern : List Part :=
  .word ["error".toList, "warning".toList] :: .word [[':']] :: .greedy 0 Text.isBlank ::
    .modest inLine :: numberParts

theorem fit?_messageParts {s : List Char} (single : '\n' ∉ s) :
    fit? messageParts s = some [s.takeWhile Text.isBlank, Text.trimStart s] := by
  have inside : ∀ c ∈ Text.trimStart s, inLine c = true := by
    intro c member
    have own : c ∈ s := (List.dropWhile_sublist _).mem member
    exact bne_iff_ne.mpr fun same => single (same ▸ own)
  have last : fit? [.greedy 0 inLine] (Text.trimStart s) = some [Text.trimStart s] := by
    have taken := @fit?_greedy_of_some inLine [] (Text.trimStart s) [] rfl
    rwa [List.takeWhile_eq_self_iff.mpr inside] at taken
  exact fit?_greedy_of_some last

theorem not_mem_of_afterWord {word s rest : List Char} {c : Char} (absent : c ∉ s)
    (h : afterWord word s = some rest) : c ∉ rest := by
  rw [afterWord_eq_some_iff.mp h] at absent
  exact fun member => absent (List.mem_append_right word member)

def numberPieces (digits rest : List Char) : List (List Char) :=
  [['('], digits, [')', ':'], rest.takeWhile Text.isBlank, Text.trimStart rest]

theorem fit?_word_one (word : List Char) (parts : List Part) (s : List Char) :
    fit? (.word [word] :: parts) s =
      (afterWord word s).bind fun rest => (fit? parts rest).map (word :: ·) := by
  rw [fit?_word, List.findSome?_singleton]

/-- The parts of a number fit where there is one at the front. -/
theorem fit?_numberParts {s : List Char} (single : '\n' ∉ s) :
    fit? numberParts s = (location? s).map fun found => numberPieces found.1 found.2 := by
  -- no digit is given back, for a digit is not the parenthesis that must follow
  have flush : ∀ c rest, Text.isDecimalDigit c = true →
      fit? (.word [[')', ':']] :: messageParts) (c :: rest) = none := by
    intro c rest digit
    have other : ')' ≠ c := by
      rintro rfl
      exact absurd digit (by simp [not_digit_close])
    rw [fit?_word_one, afterWord, if_neg other]
    rfl
  unfold numberParts
  rw [fit?_word_one]
  unfold location?
  split
  · rename_i behind
    rw [afterWord, if_pos rfl, afterWord, Option.bind_some, fit?_greedy_flush flush, fit?_word_one]
    have left : '\n' ∉ behind.dropWhile Text.isDecimalDigit := fun member =>
      single (List.mem_cons_of_mem '(' ((List.dropWhile_sublist _).mem member))
    dsimp only
    by_cases some : behind.takeWhile Text.isDecimalDigit = []
    · simp [some]
    · rw [if_pos (Nat.succ_le_of_lt (List.length_pos_iff.mpr some)), if_neg (by simp [some])]
      cases close : afterWord [')', ':'] (behind.dropWhile Text.isDecimalDigit) with
      | none => simp [close]
      | some rest =>
          have message := fit?_messageParts (not_mem_of_afterWord left close)
          simp [close, message, numberPieces]
  · rename_i other
    cases s with
    | nil => rfl
    | cons c s =>
        have : '(' ≠ c := fun same => other s (same ▸ rfl)
        rw [afterWord, if_neg this]
        rfl

/-- The shortest file is tried first, and it ends at the first number. -/
theorem findSome?_shortestFirst_numberParts {β : Type} {s : List Char} (single : '\n' ∉ s)
    (f : List Char → List (List Char) → β) :
    ((shortestFirst inLine s).findSome? fun cut => (fit? numberParts cut.2).map (f cut.1)) =
      (splitLocation? s).map fun found => f found.1 (numberPieces found.2.1 found.2.2) := by
  induction s generalizing f with
  | nil => rfl
  | cons c s ih =>
      obtain ⟨other, inside⟩ := not_or.mp (mt List.mem_cons.mpr single)
      have own : inLine c = true := bne_iff_ne.mpr (Ne.symm other)
      unfold shortestFirst splitLocation?
      rw [if_pos own, List.findSome?_cons, List.findSome?_map, fit?_numberParts single]
      cases here : location? (c :: s) with
      | some found => rfl
      | none =>
          have later := ih inside fun file => f (c :: file)
          simpa [Function.comp_def] using later

/-- A file in front of a number is the text before the first number. -/
theorem fit?_modest_numberParts {s : List Char} (single : '\n' ∉ s) :
    fit? (.modest inLine :: numberParts) s =
      (splitLocation? s).map fun found => found.1 :: numberPieces found.2.1 found.2.2 := by
  rw [fit?_cons]
  exact findSome?_shortestFirst_numberParts single fun file pieces => file :: pieces

/-- Text that starts with blanks has a number only if the text behind them has. -/
theorem splitLocation?_of_trimStart {blanks s : List Char} (blank : Text.allBlank blanks = true)
    (h : splitLocation? (Text.trimStart (blanks ++ s)) = none) : splitLocation? s = none := by
  cases found : splitLocation? s with
  | none => rfl
  | some parts =>
      have located := splitLocation?_spec s
      rw [found] at located
      have spec := splitLocation?_spec (Text.trimStart (blanks ++ s))
      rw [h] at spec
      refine absurd ?_ (spec (Text.trimStart parts.1) parts.2.1 parts.2.2)
      refine ⟨?_, located.1.2⟩
      rw [Text.trimStart_append_blanks blank, located.1.1,
        Text.trimStart_append_solid Reading.not_blank_open]

/-- All blanks in front of a file are taken: with fewer of them the parts behind fit no better. -/
theorem fit?_blanks {s : List Char} (single : '\n' ∉ s) :
    fit? (.greedy 0 Text.isBlank :: .modest inLine :: numberParts) s =
      (splitLocation? (Text.trimStart s)).map fun found =>
        s.takeWhile Text.isBlank :: found.1 :: numberPieces found.2.1 found.2.2 := by
  have inside : '\n' ∉ Text.trimStart s := fun member =>
    single ((List.dropWhile_sublist _).mem member)
  cases split : splitLocation? (Text.trimStart s) with
  | some found =>
      apply fit?_greedy_of_some
      have behind := fit?_modest_numberParts inside
      rwa [split] at behind
  | none =>
      rw [fit?_cons, Option.map_none, List.findSome?_eq_none_iff]
      intro cut member
      obtain ⟨parts, blank⟩ := of_mem_longestFirst (List.mem_filter.mp member).1
      rw [← parts] at split single
      have none := splitLocation?_of_trimStart (Text.allBlank_iff.mpr blank) split
      rw [fit?_modest_numberParts fun member => single (List.mem_append_right _ member), none]
      rfl

/-! ## The pattern of a line -/

theorem afterWord_append (word more s : List Char) :
    afterWord (word ++ more) s = (afterWord word s).bind (afterWord more) := by
  induction word generalizing s with
  | nil => rfl
  | cons a word ih =>
      cases s with
      | nil => rfl
      | cons b s =>
          rw [List.cons_append, afterWord, afterWord]
          split
          · exact ih s
          · rfl

/-- A word with a colon behind it, and further parts. -/
theorem fit?_word_colon (words : List (List Char)) (parts : List Part) (s : List Char) :
    fit? (.word words :: .word [[':']] :: parts) s = words.findSome? fun word =>
      (afterWord (word ++ [':']) s).bind fun rest => (fit? parts rest).map (word :: [':'] :: ·) := by
  rw [fit?_word]
  refine congrArg (List.findSome? · words) (funext fun word => ?_)
  rw [afterWord_append, Option.bind_assoc]
  refine congrArg (Option.bind (afterWord word s)) (funext fun rest => ?_)
  rw [fit?_word_one]
  cases afterWord [':'] rest with
  | none => rfl
  | some rest => simp [Function.comp_def]

/-- At most one severity word is at the front of a text, so trying the second one does no harm. -/
theorem fit?_severity (parts : List Part) (s : List Char) :
    fit? (.word ["error".toList, "warning".toList] :: .word [[':']] :: parts) s =
      (severityWord? s).bind fun found =>
        (fit? parts found.2).map (found.1.label.toList :: [':'] :: ·) := by
  have errorColon : "error".toList ++ [':'] = "error:".toList := rfl
  have warningColon : "warning".toList ++ [':'] = "warning:".toList := rfl
  rw [fit?_word_colon, List.findSome?_cons, List.findSome?_singleton, errorColon, warningColon]
  unfold severityWord?
  cases error : afterWord "error:".toList s with
  | none =>
      cases warning : afterWord "warning:".toList s with
      | none => rfl
      | some rest => rfl
  | some rest =>
      have other : afterWord "warning:".toList s = none := by
        rw [afterWord_eq_some_iff.mp error]
        rfl
      rw [other, Option.bind_some, Option.bind_some]
      cases fit? parts rest with
      | none => rfl
      | some pieces => rfl

def pieces (blanks : List Char) (parts : ReportParts) : List (List Char) :=
  parts.severity.label.toList :: [':'] :: blanks :: parts.file ::
    numberPieces parts.digits parts.rest

/-- The pattern fits the front of a line where there is a report, and its pieces are the parts of the
report. -/
theorem fit?_pattern {s : List Char} (single : '\n' ∉ s) :
    ∃ blanks, fit? pattern s = (atFront? s).map (pieces blanks) := by
  unfold pattern atFront?
  rw [fit?_severity]
  cases word : severityWord? s with
  | none => exact ⟨[], rfl⟩
  | some found =>
      obtain ⟨severity, behind⟩ := found
      rw [severityWord?_eq_some_iff.mp word] at single
      have inside : '\n' ∉ behind := fun member =>
        single (List.mem_append_right _ (List.mem_cons_of_mem _ member))
      refine ⟨behind.takeWhile Text.isBlank, ?_⟩
      rw [Option.bind_some, fit?_blanks inside, Option.map_map, Option.map_map]
      rfl

/-- The first place of a line where the pattern fits is the one where its first report is. -/
theorem search?_pattern {line : List Char} (single : '\n' ∉ line) :
    ∃ blanks, search? pattern line = (find? line).map (pieces blanks) := by
  induction line with
  | nil => exact ⟨[], rfl⟩
  | cons c s ih =>
      obtain ⟨blanks, here⟩ := fit?_pattern single
      unfold search? find?
      cases front : atFront? (c :: s) with
      | some parts =>
          refine ⟨blanks, ?_⟩
          rw [here, front]
          rfl
      | none =>
          rw [here, front]
          exact ih fun member => single (List.mem_cons_of_mem c member)

/-- The report that the pieces of a line make: the number must be one of 32 bits in ASCII digits. -/
def ofPieces? : List (List Char) → Option Report
  | [keyword, _, _, file, _, digits, _, _, message] =>
      match Severity.ofKeyword? (String.ofList keyword), Text.readDigits Text.maxWord32 0 digits with
      | some severity, .ok number => some ⟨severity, file, number, Text.trim message⟩
      | _, _ => none
  | _ => none

/-- A line is read as the pieces that the pattern finds in it. -/
theorem ofLine?_eq_search? {line : List Char} (single : '\n' ∉ line) :
    ofLine? line = (search? pattern line).bind ofPieces? := by
  obtain ⟨blanks, found⟩ := search?_pattern single
  rw [found]
  unfold ofLine?
  cases find? line with
  | none => rfl
  | some parts =>
      simp only [Option.map_some, Option.bind_some, pieces, numberPieces, ofPieces?,
        String.ofList_toList, Severity.ofKeyword?_label, Text.trim_trimStart]
      cases Text.readDigits Text.maxWord32 0 parts.digits with
      | error fault => rfl
      | ok number => rfl

end Report

/-! ## The reading that counts -/

namespace Reading

def report (r : Reading) : Report :=
  ⟨r.severity, r.file, Nat.ofDigitChars 10 r.digits 0, Text.trim r.rest⟩

/-- The number of a reading counts lines: it is written in ASCII digits and has 32 bits. -/
structure Counts (r : Reading) : Prop where
  ascii : ∀ c ∈ r.digits, c.isDigit = true
  small : Nat.ofDigitChars 10 r.digits 0 < UInt32.size

theorem announces_iff {line : List Char} {report : Report} :
    Announces line report ↔ ∃ r : Reading, r.Chosen line ∧ r.Counts ∧ r.report = report := by
  constructor
  · rintro ⟨⟨r, chosen, ascii, severity, file, number, message⟩, small⟩
    refine ⟨r, chosen, ⟨ascii, number ▸ small⟩, ?_⟩
    obtain ⟨_, _, _, _⟩ := report
    exact congr (congr (congr (congrArg Report.mk severity.symm) file.symm) number.symm) message.symm
  · rintro ⟨r, chosen, counts, rfl⟩
    exact ⟨⟨r, chosen, counts.ascii, rfl, rfl, rfl, rfl⟩, counts.small⟩

/-- One of the readings of a line is the one that counts. -/
theorem Fits.exists_chosen {r : Reading} {line : List Char} (fits : r.Fits line) :
    ∃ r : Reading, r.Chosen line := by
  cases found : Report.find? line with
  | none => exact absurd fits (find?_eq_none_iff.mp found r)
  | some parts =>
      obtain ⟨first, -, chosen⟩ := find?_eq_some_iff.mp found
      exact ⟨first, chosen⟩

theorem ofLine?_eq_none_iff_counts {line : List Char} :
    Report.ofLine? line = none ↔
      (∀ r : Reading, ¬ r.Fits line) ∨ ∃ r : Reading, r.Chosen line ∧ ¬ r.Counts := by
  rw [ofLine?_eq_none_iff]
  constructor
  · intro silent
    by_cases fitting : ∃ r : Reading, r.Fits line
    · obtain ⟨other, fits⟩ := fitting
      obtain ⟨r, chosen⟩ := fits.exists_chosen
      exact .inr ⟨r, chosen, fun counts =>
        silent r.report (announces_iff.mpr ⟨r, chosen, counts, rfl⟩)⟩
    · exact .inl (not_exists.mp fitting)
  · intro cause report announced
    obtain ⟨r, chosen, counts, -⟩ := announces_iff.mp announced
    rcases cause with unfit | ⟨other, also, idle⟩
    · exact unfit r chosen.fits
    · exact idle (chosen.unique also ▸ counts)

end Reading

/-- A line is read as the pieces that the pattern of a report finds in it. These are a reading of the
line, the first of all: no reading starts sooner, none that starts there has more blanks, and none
with these blanks has a shorter file. The line has a report exactly if it has a reading and the
number of the first one counts; then the report is the one that this reading makes. -/
theorem first_and_shortest_report {line : List Char} (single : '\n' ∉ line) :
    Report.ofLine? line = (Pattern.search? Report.pattern line).bind Report.ofPieces? ∧
      (∀ other : Reading, other.Fits line → ∃! r : Reading, r.Chosen line) ∧
      (∀ report, Report.ofLine? line = some report ↔
        ∃ r : Reading, r.Chosen line ∧ r.Counts ∧ r.report = report) ∧
      (Report.ofLine? line = none ↔
        (∀ r : Reading, ¬ r.Fits line) ∨ ∃ r : Reading, r.Chosen line ∧ ¬ r.Counts) := by
  refine ⟨Report.ofLine?_eq_search? single, ?_, ?_, Reading.ofLine?_eq_none_iff_counts⟩
  · intro other fits
    obtain ⟨r, chosen⟩ := fits.exists_chosen
    exact ⟨r, chosen, fun also alsoChosen => alsoChosen.unique chosen⟩
  · intro report
    rw [ofLine?_eq_some_iff, Reading.announces_iff]

/-- Severity words and numbers stand in the file too, and behind the message. -/
theorem crowded_line_read :
    '\n' ∉ "error in warning: (x) error: a(12) b(7): late(8): ".toList ∧
      ∃ r : Reading, r.Chosen "error in warning: (x) error: a(12) b(7): late(8): ".toList ∧
        r.report = ⟨.warning, "(x) error: a(12) b".toList, 7, "late(8):".toList⟩ := by
  have single : '\n' ∉ "error in warning: (x) error: a(12) b(7): late(8): ".toList := by decide
  have read : Report.ofLine? "error in warning: (x) error: a(12) b(7): late(8): ".toList =
      some ⟨.warning, "(x) error: a(12) b".toList, 7, "late(8):".toList⟩ := by decide +kernel
  obtain ⟨-, -, announced, -⟩ := first_and_shortest_report single
  obtain ⟨r, chosen, -, own⟩ := (announced _).mp read
  exact ⟨single, r, chosen, own⟩

-- the first reading alone counts, even where a later number would do
example : Report.ofLine? "error: a(\u0663): b(7): c".toList = none := by decide +kernel

end AsmDiagnostics
