import AsmDiagnostics.Proofs.Documents.Positions
import AsmDiagnostics.Proofs.Documents.Splices

/-!
# Columns behind the end of a line

Every line of a text has a content and an ending: a newline, a carriage return and a newline, or the
end of the text. A column behind the content means the end of the content, except that a carriage
return in front of a newline counts as one more character of the line. So an edit within a line
leaves its newline in place, but may part a carriage return from its newline.
-/

namespace AsmDiagnostics.TextDocument

/-- What ends a line. -/
inductive LineEnding where
  | newline
  | returnNewline
  /-- The text ends with the line. -/
  | none
  deriving DecidableEq, Repr

def LineEnding.chars : LineEnding → List Char
  | .newline => ['\n']
  | .returnNewline => ['\r', '\n']
  | .none => []

/-- A line in its text. -/
structure TextLine where
  before : List Char
  content : List Char
  ending : LineEnding
  after : List Char
  starts : before = [] ∨ before.getLast? = some '\n'
  single : '\n' ∉ content
  whole : ending = .newline → content.getLast? ≠ some '\r'
  last : ending = .none → after = []

namespace TextLine

def text (line : TextLine) : List Char :=
  line.before ++ line.content ++ line.ending.chars ++ line.after

def number (line : TextLine) : Nat := line.before.count '\n'

def body (line : TextLine) : List Char :=
  match line.ending with
  | .returnNewline => line.content ++ ['\r']
  | _ => line.content

def tail (line : TextLine) : List Char :=
  match line.ending with
  | .none => line.after
  | _ => '\n' :: line.after

theorem text_eq (line : TextLine) : line.text = line.before ++ (line.body ++ line.tail) := by
  unfold text body tail
  cases line.ending <;> simp [LineEnding.chars]

theorem body_single (line : TextLine) : '\n' ∉ line.body := by
  have single := line.single
  unfold body
  split
  · simpa using single
  · exact single

/-- No character of the line stands at the front of what follows its body. -/
theorem tail_stops (line : TextLine) : line.tail = [] ∨ ∃ after, line.tail = '\n' :: after := by
  unfold tail
  split
  · rename_i ended
    exact .inl (line.last ended)
  · exact .inr ⟨_, rfl⟩

end TextLine

/-! ## Lines of a text -/

/-- In front of a line of every number there is a front of the text. -/
theorem exists_front {s : List Char} {number : Nat} (h : number ≤ s.count '\n') :
    ∃ before rest, s = before ++ rest ∧ before.count '\n' = number ∧
      (before = [] ∨ before.getLast? = some '\n') := by
  induction s generalizing number with
  | nil =>
      obtain rfl := Nat.le_zero.mp h
      exact ⟨[], [], rfl, rfl, .inl rfl⟩
  | cons c rest ih =>
      cases number with
      | zero => exact ⟨[], c :: rest, rfl, rfl, .inl rfl⟩
      | succ number =>
          by_cases newline : c = '\n'
          · subst newline
            rw [List.count_cons_self] at h
            obtain ⟨before, behind, rfl, count, starts⟩ := ih (Nat.le_of_succ_le_succ h)
            refine ⟨'\n' :: before, behind, rfl, by rw [List.count_cons_self, count], .inr ?_⟩
            rcases starts with rfl | ends
            · rfl
            · rw [List.getLast?_cons, ends]
              rfl
          · rw [List.count_cons_of_ne newline] at h
            obtain ⟨before, behind, rfl, count, starts⟩ := ih h
            refine ⟨c :: before, behind, rfl, by rw [List.count_cons_of_ne newline, count], .inr ?_⟩
            rcases starts with rfl | ends
            · exact nomatch count
            · rw [List.getLast?_cons, ends]
              rfl

/-- A text has a line of every number up to that of its newlines. -/
theorem exists_line {s : List Char} {number : Nat} (h : number ≤ s.count '\n') :
    ∃ line : TextLine, line.text = s ∧ line.number = number := by
  obtain ⟨before, rest, rfl, count, starts⟩ := exists_front h
  have single : '\n' ∉ rest.takeWhile (· ≠ '\n') := fun member => by
    simpa using List.mem_takeWhile_imp member
  have parts : rest.takeWhile (· ≠ '\n') ++ rest.dropWhile (· ≠ '\n') = rest :=
    List.takeWhile_append_dropWhile
  generalize rest.takeWhile (· ≠ '\n') = body at single parts
  cases behind : rest.dropWhile (· ≠ '\n') with
  | nil =>
      refine ⟨⟨before, body, .none, [], starts, single, nofun, fun _ => rfl⟩, ?_, count⟩
      rw [behind] at parts
      simp [TextLine.text, LineEnding.chars, ← parts]
  | cons c after =>
      have newline : c = '\n' := by
        have first := List.head?_dropWhile_not (· ≠ '\n') rest
        rw [behind] at first
        simpa using first
      subst newline
      rw [behind] at parts
      by_cases cut : body.getLast? = some '\r'
      · obtain ⟨content, rfl⟩ := List.getLast?_eq_some_iff.mp cut
        refine ⟨⟨before, content, .returnNewline, after, starts, ?_, nofun, nofun⟩, ?_, count⟩
        · exact fun member => single (List.mem_append_left _ member)
        · simp [TextLine.text, LineEnding.chars, ← parts]
      · refine ⟨⟨before, body, .newline, after, starts, single, fun _ => cut, nofun⟩, ?_, count⟩
        simp [TextLine.text, LineEnding.chars, ← parts]

/-! ## Offsets on a line -/

/-- Whatever stands in front of a line is skipped. -/
theorem offset_front {before : List Char} (starts : before = [] ∨ before.getLast? = some '\n')
    (column : UInt32) (rest : List Char) :
    offset (before.count '\n') column (before ++ rest) =
      before.length + columnOffset column 0 rest := by
  induction before with
  | nil => rw [List.count_nil, List.nil_append, List.length_nil, Nat.zero_add, offset]
  | cons c before ih =>
      have ends : before = [] ∧ c = '\n' ∨ before.getLast? = some '\n' := by
        have last := starts.resolve_left (List.cons_ne_nil c before)
        cases before with
        | nil => exact .inl ⟨rfl, by simpa using last⟩
        | cons d rest => exact .inr (by rwa [List.getLast?_cons_cons] at last)
      have skipped := ih (ends.imp_left And.left)
      rw [List.length_cons, Nat.add_right_comm, ← skipped]
      by_cases newline : c = '\n'
      · subst newline
        rw [List.count_cons_self, List.cons_append, offset, if_pos rfl]
      · have some : 0 < before.count '\n' := List.count_pos_iff.mpr
          (List.mem_of_getLast? (ends.resolve_left fun alone => newline alone.2))
        obtain ⟨number, more⟩ := Nat.exists_eq_add_one_of_ne_zero some.ne'
        rw [List.count_cons_of_ne newline, more, List.cons_append, offset, if_neg newline]

/-- No column leads beyond the newline. -/
theorem columnOffset_le_body {body tail : List Char} (single : '\n' ∉ body)
    (stops : tail = [] ∨ ∃ after, tail = '\n' :: after) (column units : UInt32) :
    columnOffset column units (body ++ tail) ≤ body.length := by
  induction body generalizing units with
  | nil =>
      rcases stops with rfl | ⟨after, rfl⟩
      · exact Nat.le_refl _
      · rw [List.nil_append, columnOffset, if_pos (.inr rfl)]
        exact Nat.le_refl _
  | cons c body ih =>
      rw [List.mem_cons, not_or] at single
      rw [List.cons_append, columnOffset]
      split
      · exact Nat.zero_le _
      · exact Nat.succ_le_succ (ih single.2 _)

namespace TextLine

variable (line : TextLine)

theorem offset_number (column : UInt32) :
    offset line.number column line.text =
      line.before.length + columnOffset column 0 (line.body ++ line.tail) := by
  rw [text_eq]
  exact offset_front line.starts column _

theorem utf16Length_body_le : utf16Length line.body ≤ utf16Length line.content + 1 := by
  unfold body
  split
  · simp [utf16Length, length_utf16Units, utf16Width]
  · exact Nat.le_succ _

/-- A column behind the content leads to the end of the line, in front of its newline. -/
theorem columnOffset_beyond {column : UInt32} (beyond : utf16Length line.content < column.toNat) :
    columnOffset column 0 (line.body ++ line.tail) = line.body.length := by
  have all : 0 + utf16Length line.body ≤ column.toNat := by
    have more := line.utf16Length_body_le
    omega
  have stopped (units : UInt32) : columnOffset column units line.tail = 0 := by
    have none := columnOffset_le_body List.not_mem_nil line.tail_stops column units
    exact Nat.le_zero.mp none
  exact (columnOffset_passed line.body_single all line.tail).trans (by rw [stopped, Nat.add_zero])

/-- A column within the content leads to a place within it. -/
theorem columnOffset_within (small : utf16Length line.content < UInt32.size) {column : UInt32}
    (within : column.toNat ≤ utf16Length line.content) :
    columnOffset column 0 (line.body ++ line.tail) ≤ line.content.length := by
  obtain ⟨more, parted⟩ : ∃ more, line.body ++ line.tail = line.content ++ more := by
    unfold body
    split
    · exact ⟨_, List.append_assoc _ _ _⟩
    · exact ⟨_, rfl⟩
  have last : (UInt32.ofNat (utf16Length line.content)).toNat = utf16Length line.content :=
    UInt32.toNat_ofNat_of_lt' small
  have ends := columnOffset_passed line.single
    (Nat.le_of_eq ((Nat.zero_add _).trans last.symm)) more
  rw [Nat.zero_add, columnOffset_self, Nat.add_zero] at ends
  rw [parted]
  refine Nat.le_trans (columnOffset_mono ?_ 0 _) (Nat.le_of_eq ends)
  rwa [UInt32.le_iff_toNat_le, last]

/-! ## Edits within a line -/

theorem body_length : line.body.length =
    line.content.length + if line.ending = .returnNewline then 1 else 0 := by
  unfold body
  split
  · rename_i cut
    rw [if_pos cut, List.length_append]
    rfl
  · rename_i other
    rw [if_neg other]
    rfl

/-- What stands behind a place within the content of a line. -/
theorem drop_body {place : Nat} (within : place ≤ line.content.length) :
    line.body.drop place ++ line.tail =
      line.content.drop place ++ line.ending.chars ++ line.after := by
  cases ending : line.ending with
  | newline => simp [body, tail, ending, LineEnding.chars]
  | returnNewline =>
      simp [body, tail, ending, LineEnding.chars, List.drop_append_of_le_length within]
  | none => simp [body, tail, ending, LineEnding.chars]

theorem take_body {place : Nat} (within : place ≤ line.content.length) :
    line.body.take place = line.content.take place := by
  unfold body
  split
  · exact List.take_append_of_le_length within
  · rfl

theorem splice_text {first last : Nat} (ordered : first ≤ last) (within : last ≤ line.body.length)
    (new : List Char) :
    splice line.text (line.before.length + first) (line.before.length + last) new =
      line.before ++ splice line.body first last new ++ line.tail := by
  rw [text_eq]
  unfold splice
  rw [List.take_length_add_append, List.drop_length_add_append,
    List.take_append_of_le_length (Nat.le_trans ordered within),
    List.drop_append_of_le_length within]
  simp only [List.append_assoc]

/-- A splice within the content of a line leaves the ending of the line whole. -/
theorem splice_body {first last : Nat} (ordered : first ≤ last)
    (within : last ≤ line.content.length) (new : List Char) :
    splice line.body first last new ++ line.tail =
      splice line.content first last new ++ line.ending.chars ++ line.after := by
  unfold splice
  rw [List.append_assoc, line.drop_body within, line.take_body (Nat.le_trans ordered within)]
  simp only [List.append_assoc]

/-- An edit between two places of a line is a splice of the line. -/
theorem edited_text {range : Range} {first last : Nat}
    (start : offsetAt line.text range.start = line.before.length + first)
    (stop : offsetAt line.text range.stop = line.before.length + last)
    (within : max last first ≤ line.body.length) (new : String) :
    edited line.text ⟨some range, new⟩ =
      line.before ++ splice line.body first (max last first) new.toList ++ line.tail := by
  rw [← line.splice_text (Nat.le_max_right _ _) within]
  simp only [edited, start, stop, Nat.add_max_add_left]

/-- A place of a line is within its body, and within its content unless it is behind a carriage
return of the ending. -/
theorem exists_offsetAt {place : Position} (same : place.line.toNat = line.number) :
    ∃ column, offsetAt line.text place = line.before.length + column ∧
      column ≤ line.body.length ∧
      ((line.ending = .returnNewline → utf16Length line.content < UInt32.size ∧
          place.character.toNat ≤ utf16Length line.content) → column ≤ line.content.length) := by
  have within := columnOffset_le_body line.body_single line.tail_stops place.character 0
  refine ⟨_, by rw [offsetAt, same, line.offset_number], within, fun clear => ?_⟩
  by_cases cut : line.ending = .returnNewline
  · exact line.columnOffset_within (clear cut).1 (clear cut).2
  · rwa [line.body_length, if_neg cut, Nat.add_zero] at within

end TextLine

/-- A column behind the content of a line means the end of the content, or behind the carriage
return when the line ends with one and a newline. An edit between two places of a line keeps all
that stands before the line and behind it, and the newline of the line; it keeps the whole ending
when that is not a carriage return and a newline or when both columns are within the content. -/
theorem columns_clamped_before_newline (s : List Char) (number : Nat) :
    (number ≤ s.count '\n' → ∃ line : TextLine, line.text = s ∧ line.number = number) ∧
    ∀ line : TextLine, line.text = s → line.number = number →
      (∀ place : Position, place.line.toNat = number →
        utf16Length line.content < place.character.toNat →
        offsetAt s place = line.before.length + line.content.length +
          if line.ending = .returnNewline then 1 else 0) ∧
      ∀ (range : Range) (new : String), range.start.line.toNat = number →
        range.stop.line.toNat = number →
        ∃ first last, offsetAt s range.start = line.before.length + first ∧
          offsetAt s range.stop = line.before.length + last ∧
          max last first ≤ line.body.length ∧
          edited s ⟨some range, new⟩ =
            line.before ++ splice line.body first (max last first) new.toList ++ line.tail ∧
          ((line.ending = .returnNewline → utf16Length line.content < UInt32.size ∧
              range.start.character.toNat ≤ utf16Length line.content ∧
              range.stop.character.toNat ≤ utf16Length line.content) →
            max last first ≤ line.content.length ∧
            edited s ⟨some range, new⟩ =
              line.before ++ splice line.content first (max last first) new.toList ++
                line.ending.chars ++ line.after) := by
  refine ⟨exists_line, ?_⟩
  rintro line rfl rfl
  constructor
  · intro place same beyond
    rw [offsetAt, same, line.offset_number, line.columnOffset_beyond beyond, line.body_length,
      Nat.add_assoc]
  · intro range new start stop
    obtain ⟨first, left, leftWithin, leftClear⟩ := line.exists_offsetAt start
    obtain ⟨last, right, rightWithin, rightClear⟩ := line.exists_offsetAt stop
    have within := Nat.max_le.mpr ⟨rightWithin, leftWithin⟩
    have changed := line.edited_text left right within new
    refine ⟨first, last, left, right, within, changed, fun clear => ?_⟩
    have inside : max last first ≤ line.content.length := Nat.max_le.mpr
      ⟨rightClear fun cut => ⟨(clear cut).1, (clear cut).2.2⟩,
        leftClear fun cut => ⟨(clear cut).1, (clear cut).2.1⟩⟩
    refine ⟨inside, changed.trans ?_⟩
    rw [List.append_assoc, line.splice_body (Nat.le_max_right last first) inside]
    simp only [List.append_assoc]

/-- The rest of a line up to a column behind its content. -/
theorem rest_of_line_replaced :
    let s := "a\nnop\nhalt".toList
    let line : TextLine := ⟨"a\n".toList, "nop".toList, .newline, "halt".toList, .inr (by decide),
      by decide, fun _ => by decide, nofun⟩
    let range : Range := ⟨⟨1, 1⟩, ⟨1, 99⟩⟩
    (1 ≤ s.count '\n' ∧ line.text = s ∧ line.number = 1 ∧ range.start.line.toNat = 1 ∧
        range.stop.line.toNat = 1 ∧ utf16Length line.content < range.stop.character.toNat) ∧
      (∃ other : TextLine, other.text = s ∧ other.number = 1) ∧ offsetAt s range.stop = 5 ∧
      edited s ⟨some range, "x"⟩ = "a\nnx\nhalt".toList := by
  intro s line range
  have whole : line.text = s := by decide
  have first : line.number = 1 := by decide
  have beyond : utf16Length line.content < range.stop.character.toNat := by decide
  obtain ⟨found, lines⟩ := columns_clamped_before_newline s 1
  obtain ⟨clamped, edits⟩ := lines line whole first
  obtain ⟨start, stop, left, right, -, -, kept⟩ := edits range "x" rfl rfl
  obtain rfl : start = 1 := Nat.add_left_cancel (left.symm.trans (by decide : _ = 2 + 1))
  obtain rfl : stop = 3 := Nat.add_left_cancel (right.symm.trans (by decide : _ = 2 + 3))
  have some : 1 ≤ s.count '\n' := by decide
  exact ⟨⟨some, whole, first, rfl, rfl, beyond⟩, found some, clamped range.stop rfl beyond,
    (kept nofun).2⟩

/-- A column behind the content of a line that ends with a carriage return and a newline. -/
theorem return_parted_from_newline :
    let line : TextLine :=
      ⟨[], "nop".toList, .returnNewline, "halt".toList, .inl rfl, by decide, nofun, nofun⟩
    let place : Position := ⟨0, 99⟩
    place.line.toNat = line.number ∧ utf16Length line.content < place.character.toNat ∧
      offsetAt line.text place ≠ line.before.length + line.content.length ∧
      edited line.text ⟨some ⟨place, place⟩, "x"⟩ = "nop\rx\nhalt".toList := by
  decide

end TextDocument

end AsmDiagnostics
