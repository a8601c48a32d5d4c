import AsmDiagnostics.Proofs.Frame.Growing
import AsmDiagnostics.Proofs.Frame.Truncation
import AsmDiagnostics.Proofs.Text.Decoding

/-!
# Which bytes are frames

The frames that are accepted are more than those that are written. Lines of other names may stand in
a header, the line with the length may be given more than once, in any case and with any blanks, and
the blank line may hold blanks or end with the input. Bytes that are read as frames are cut into the
bodies and what stands in front of each of them.
-/

namespace AsmDiagnostics

namespace Text

/-- One or more ASCII digits, perhaps behind a plus sign, with a value up to the limit. -/
def IsNumber (limit : Nat) (text : List Char) (number : Nat) : Prop :=
  ∃ digits, (text = digits ∨ text = '+' :: digits) ∧ digits ≠ [] ∧
    (∀ c ∈ digits, c.isDigit = true) ∧ Nat.ofDigitChars 10 digits 0 = number ∧ number ≤ limit

theorem readNumber_eq_ok_iff {limit number : Nat} {text : List Char} :
    readNumber limit text = .ok number ↔ IsNumber limit text number := by
  have digitsRead {digits : List Char} :=
    @readDigits_eq_ok_iff limit 0 number digits (Nat.zero_le limit)
  have noSign : ¬ '+'.isDigit = true := by decide
  unfold readNumber
  split
  · refine iff_of_false nofun ?_
    rintro ⟨digits, rfl | same, some, -⟩
    · exact some rfl
    · exact nomatch same
  · refine iff_of_false nofun ?_
    rintro ⟨digits, rfl | same, some, all, -⟩
    · exact noSign (all '+' List.mem_cons_self)
    · exact some (List.cons.inj same).2.symm
  · rename_i rest some
    rw [digitsRead]
    constructor
    · exact fun read => ⟨rest, .inr rfl, some, read⟩
    · rintro ⟨digits, rfl | same, -, read⟩
      · exact absurd (read.1 '+' List.mem_cons_self) noSign
      · rwa [(List.cons.inj same).2]
  · rename_i some _ unsigned
    rw [digitsRead]
    constructor
    · exact fun read => ⟨text, .inl rfl, some, read⟩
    · rintro ⟨digits, rfl | same, -, read⟩
      · exact read
      · exact absurd same (unsigned digits)

end Text

namespace Frame

/-! ## The grammar -/

/-- A line that gives a length: what stands in front of its first colon is the name of that header,
in any case and with any blanks around it. -/
def Gives (line value : List Char) : Prop :=
  ∃ name, line = name ++ ':' :: value ∧ ':' ∉ name ∧
    (Text.trim name).map Char.toLower = lengthName.toList.map Char.toLower

def Mute (line : List Char) : Prop := ∀ value, ¬ Gives line value

def Numbered (line : List Char) : Prop := ∀ value, Gives line value →
  ∃ number, Text.IsNumber Text.maxWord64 (Text.trim value) number

/-- A line of a header, without its newline. -/
structure HeaderLine where
  text : List Char
  single : '\n' ∉ text
  solid : Text.allBlank text = false

/-- The line behind a header, without its newline. -/
structure BlankLine where
  text : List Char
  single : '\n' ∉ text
  blank : Text.allBlank text = true

def HeaderLine.bytes (line : HeaderLine) : List UInt8 := Text.encode line.text ++ [newline]

def GivenLast (lines : List HeaderLine) (length : Nat) : Prop :=
  ∃ before line after value, lines = before ++ line :: after ∧ Gives line.text value ∧
    Text.IsNumber Text.maxWord64 (Text.trim value) length ∧ ∀ other ∈ after, Mute other.text

/-- A header gives a length: all lengths in it are numbers, and this is the last of them. -/
structure Declares (lines : List HeaderLine) (length : Nat) : Prop where
  numbers : ∀ line ∈ lines, Numbered line.text
  last : GivenLast lines length

/-- What stands behind a header: a blank line, a body and the rest. At the end of the input a blank
line does without its newline if there is something of it. -/
inductive BodyBehindBlank : List UInt8 → List UInt8 → List UInt8 → Prop where
  | whole (line : BlankLine) (body rest : List UInt8) :
      BodyBehindBlank (Text.encode line.text ++ newline :: (body ++ rest)) body rest
  | atEnd (line : BlankLine) (some : line.text ≠ []) :
      BodyBehindBlank (Text.encode line.text) [] []

/-- A frame with a body stands at the front of bytes, and the rest is behind it. -/
inductive Framed : List UInt8 → List UInt8 → List UInt8 → Prop where
  | mk {lines : List HeaderLine} {behind body rest : List UInt8} (said : Declares lines body.length)
      (small : body.length ≤ maxBody) (ends : BodyBehindBlank behind body rest) :
      Framed (lines.flatMap HeaderLine.bytes ++ behind) body rest

/-! ## Lengths -/

theorem bne_colon {name : List Char} (h : ':' ∉ name) : ∀ c ∈ name, (c != ':') = true :=
  fun _ member => bne_iff_ne.mpr fun colon => h (colon ▸ member)

/-- A line gives one value at most. -/
theorem Gives.unique {line value other : List Char} (h : Gives line value) (h' : Gives line other) :
    value = other := by
  obtain ⟨name, rfl, first, -⟩ := h
  obtain ⟨front, same, second, -⟩ := h'
  have parts := congrArg (List.dropWhile (· != ':')) same
  rw [List.dropWhile_append_of_pos (bne_colon first),
    List.dropWhile_append_of_pos (bne_colon second)] at parts
  simpa using parts

theorem lengthOf_colon {name value : List Char} (first : ':' ∉ name) :
    lengthOf (Text.trim (name ++ ':' :: value)) =
      if sameIgnoringCase (Text.trim name) lengthName.toList then
        match Text.readNumber Text.maxWord64 (Text.trim value) with
        | .ok length => .ok (some length)
        | .error fault => .error (.badLength (String.ofList (Text.trim value)) fault)
      else .ok none := by
  have solid : Text.isBlank ':' = false := by decide
  have trimmed : Text.trim (name ++ ':' :: value) =
      Text.trimStart name ++ ':' :: Text.trimEnd value := by
    rw [Text.trim, Text.trimStart_append_solid solid, Text.trimEnd_append_solid solid]
  have others : ∀ c ∈ Text.trimStart name, (c != ':') = true :=
    bne_colon fun member => first ((List.dropWhile_suffix _).subset member)
  have read := lengthOf.eq_def (Text.trimStart name ++ ':' :: Text.trimEnd value)
  rw [List.dropWhile_append_of_pos others, List.takeWhile_append_of_pos others] at read
  simp only [List.dropWhile_cons, List.takeWhile_cons, bne_self_eq_false, Bool.false_eq_true,
    if_false, List.append_nil, Text.trim_trimStart, Text.trim_trimEnd] at read
  rw [trimmed]
  exact read

theorem lengthOf_of_gives {line value : List Char} (h : Gives line value) :
    lengthOf (Text.trim line) =
      match Text.readNumber Text.maxWord64 (Text.trim value) with
      | .ok length => .ok (some length)
      | .error fault => .error (.badLength (String.ofList (Text.trim value)) fault) := by
  obtain ⟨name, rfl, first, same⟩ := h
  rw [lengthOf_colon first, sameIgnoringCase, same, if_pos (beq_self_eq_true _)]

theorem lengthOf_of_mute {line : List Char} (h : Mute line) :
    lengthOf (Text.trim line) = .ok none := by
  by_cases colon : ':' ∈ line
  · obtain ⟨name, value, rfl, first⟩ := List.eq_append_cons_of_mem colon
    have other : sameIgnoringCase (Text.trim name) lengthName.toList = false := by
      refine Bool.eq_false_iff.mpr fun same => h value ⟨name, rfl, first, ?_⟩
      exact eq_of_beq same
    rw [lengthOf_colon first, other]
    rfl
  · have none : (Text.trim line).dropWhile (· != ':') = [] := by
      refine List.dropWhile_eq_nil_iff.mpr fun c member => bne_iff_ne.mpr ?_
      rintro rfl
      have within := (List.rdropWhile_prefix Text.isBlank _).subset member
      exact colon ((List.dropWhile_suffix _).subset within)
    rw [lengthOf, none]

theorem lengthOf_eq_ok_iff {line : List Char} {found? : Option Nat} :
    lengthOf (Text.trim line) = .ok found? ↔
      (∃ value number, found? = some number ∧ Gives line value ∧
        Text.IsNumber Text.maxWord64 (Text.trim value) number) ∨
      found? = none ∧ Mute line := by
  by_cases some : ∃ value, Gives line value
  · obtain ⟨value, gives⟩ := some
    rw [lengthOf_of_gives gives]
    constructor
    · intro h
      cases read : Text.readNumber Text.maxWord64 (Text.trim value) with
      | error fault =>
          rw [read] at h
          cases h
      | ok number =>
          rw [read] at h
          exact .inl ⟨value, number, (Except.ok.inj h).symm, gives,
            Text.readNumber_eq_ok_iff.mp read⟩
    · rintro (⟨other, number, rfl, own, isNumber⟩ | ⟨-, none⟩)
      · rw [gives.unique own, Text.readNumber_eq_ok_iff.mpr isNumber]
      · exact absurd gives (none value)
  · have none := not_exists.mp some
    rw [lengthOf_of_mute none]
    constructor
    · exact fun h => .inr ⟨(Except.ok.inj h).symm, none⟩
    · rintro (⟨value, -, -, own, -⟩ | ⟨rfl, -⟩)
      · exact absurd own (none value)
      · rfl

/-! ## Lines -/

theorem newline_mem_encode {text : List Char} : newline ∈ Text.encode text ↔ '\n' ∈ text :=
  Text.mem_encode_iff (d := '\n') (by decide)

theorem encode_append_newline (text : List Char) :
    Text.encode (text ++ ['\n']) = Text.encode text ++ [newline] := by
  rw [Text.encode_append]
  rfl

/-- Bytes that end with a newline are those of a text that does. -/
theorem exists_text {line : List UInt8} {text : List Char}
    (h : Text.encode text = line ++ [newline]) :
    ∃ front, text = front ++ ['\n'] ∧ Text.encode front = line := by
  rcases List.eq_nil_or_concat text with rfl | ⟨front, last, rfl⟩
  · simp [Text.encode] at h
  · rw [List.concat_eq_append, Text.encode_append] at h
    have ends : newline ∈ Text.encode [last] := by
      have whole := congrArg List.getLast? h
      rw [List.getLast?_append_of_ne_nil _ (by simp [Text.encode, Text.encodeChar_ne_nil]),
        List.getLast?_concat] at whole
      exact List.mem_of_getLast? whole
    have own : '\n' = last := by simpa using newline_mem_encode.mp ends
    subst own
    rw [← Text.encode_append, encode_append_newline] at h
    exact ⟨front, List.concat_eq_append, List.append_cancel_right h⟩

section Lines

variable {closed started : Bool} {length? : Option Nat} {text : List Char} {rest : List UInt8}

/-- What a line of a text decides. -/
theorem readHeader_encode (single : '\n' ∉ text) :
    readHeader closed started length? (Text.encode text ++ newline :: rest) =
      if Text.allBlank text then takeBody closed length? rest
      else
        match lengthOf (Text.trim text) with
        | .error fault => .broken fault
        | .ok found? => readHeader closed true (found?.or length?) rest := by
  have decoded : Text.decode (Text.encode text ++ [newline]) = .ok (text ++ ['\n']) :=
    Text.decode_eq_ok_iff.mpr (encode_append_newline text)
  have blank : Text.allBlank (text ++ ['\n']) = Text.allBlank text := by
    simp [Text.allBlank, Text.isBlank_newline]
  have trimmed : Text.trim (text ++ ['\n']) = Text.trim text :=
    Text.trim_append_trailing text (by decide)
  have read := @readHeader_line closed started length? _ rest
    fun member => single (newline_mem_encode.mp member)
  rw [decoded] at read
  dsimp only at read
  rw [blank, trimmed] at read
  exact read

theorem takeBody_eq_frame_iff {input body : List UInt8} :
    takeBody closed length? input = .frame body rest ↔
      length? = some body.length ∧ body.length ≤ maxBody ∧ input = body ++ rest := by
  constructor
  · intro h
    unfold takeBody at h
    split at h
    · cases h
    split at h
    · cases h
    rename_i length small
    split at h
    · split at h <;> cases h
    rename_i enough
    obtain ⟨rfl, rfl⟩ := Next.frame.inj h
    rw [List.length_take_of_le (Nat.le_of_not_lt enough)]
    exact ⟨rfl, Nat.le_of_not_lt small, (List.take_append_drop _ _).symm⟩
  · rintro ⟨rfl, small, rfl⟩
    have enough : ¬ (body ++ rest).length < body.length := by
      rw [List.length_append]
      omega
    simp only [takeBody, if_neg (Nat.not_lt.mpr small), if_neg enough, List.take_left,
      List.drop_left]

end Lines

/-! ## Headers -/

inductive Leaves : Option Nat → List HeaderLine → Option Nat → Prop where
  | nil (length? : Option Nat) : Leaves length? [] length?
  | cons {length? found? last? : Option Nat} {line : HeaderLine} {lines : List HeaderLine}
      (found : lengthOf (Text.trim line.text) = .ok found?)
      (others : Leaves (found?.or length?) lines last?) : Leaves length? (line :: lines) last?

namespace Leaves

variable {length? last? : Option Nat} {lines : List HeaderLine}

theorem numbers (h : Leaves length? lines last?) : ∀ line ∈ lines, Numbered line.text := by
  induction h with
  | nil => exact nofun
  | cons found others ih =>
      refine List.forall_mem_cons.mpr ⟨fun value gives => ?_, ih⟩
      rcases lengthOf_eq_ok_iff.mp found with ⟨other, number, -, own, isNumber⟩ | ⟨-, none⟩
      · exact ⟨number, own.unique gives ▸ isNumber⟩
      · exact absurd gives (none value)

/-- A length that is left is that of the last line that gives one, or the earlier one. -/
theorem last (h : Leaves length? lines last?) {length : Nat} (left : last? = some length) :
    GivenLast lines length ∨ length? = some length ∧ ∀ line ∈ lines, Mute line.text := by
  induction h with
  | nil => exact .inr ⟨left, nofun⟩
  | @cons length? found? last? line lines found others ih =>
      rcases ih left with ⟨before, last, after, value, rfl, own⟩ | ⟨own, none⟩
      · exact .inl ⟨line :: before, last, after, value, rfl, own⟩
      · rcases lengthOf_eq_ok_iff.mp found with ⟨value, number, rfl, gives, isNumber⟩ | ⟨rfl, mute⟩
        · obtain rfl := Option.some.inj own
          exact .inl ⟨[], line, lines, value, rfl, gives, isNumber, none⟩
        · exact .inr ⟨own, List.forall_mem_cons.mpr ⟨mute, none⟩⟩

theorem append {mid? : Option Nat} {others : List HeaderLine} (h : Leaves length? lines mid?)
    (h' : Leaves mid? others last?) : Leaves length? (lines ++ others) last? := by
  induction h with
  | nil => exact h'
  | cons found others ih => exact .cons found (ih h')

end Leaves

theorem leaves_of_mute {lines : List HeaderLine} (none : ∀ line ∈ lines, Mute line.text)
    (length? : Option Nat) : Leaves length? lines length? := by
  induction lines with
  | nil => exact .nil length?
  | cons line lines ih =>
      rw [List.forall_mem_cons] at none
      exact .cons (lengthOf_of_mute none.1) (ih none.2)

theorem exists_leaves {lines : List HeaderLine}
    (numbers : ∀ line ∈ lines, Numbered line.text) (length? : Option Nat) :
    ∃ last?, Leaves length? lines last? := by
  induction lines generalizing length? with
  | nil => exact ⟨length?, .nil length?⟩
  | cons line lines ih =>
      rw [List.forall_mem_cons] at numbers
      have found : ∃ found?, lengthOf (Text.trim line.text) = .ok found? := by
        by_cases some : ∃ value, Gives line.text value
        · obtain ⟨value, gives⟩ := some
          obtain ⟨number, isNumber⟩ := numbers.1 value gives
          exact ⟨_, lengthOf_eq_ok_iff.mpr (.inl ⟨value, number, rfl, gives, isNumber⟩)⟩
        · exact ⟨none, lengthOf_of_mute (not_exists.mp some)⟩
      obtain ⟨found?, found⟩ := found
      obtain ⟨last?, others⟩ := ih numbers.2 (found?.or length?)
      exact ⟨last?, .cons found others⟩

theorem leaves_none_iff {lines : List HeaderLine} {length : Nat} :
    Leaves none lines (some length) ↔ Declares lines length := by
  constructor
  · intro h
    exact ⟨h.numbers, (h.last rfl).resolve_right fun none => nomatch none.1⟩
  · rintro ⟨numbers, before, line, after, value, rfl, gives, isNumber, mute⟩
    obtain ⟨before?, front⟩ := exists_leaves
      (fun other member => numbers other (List.mem_append_left _ member)) none
    have found : lengthOf (Text.trim line.text) = .ok (some length) :=
      lengthOf_eq_ok_iff.mpr (.inl ⟨value, length, rfl, gives, isNumber⟩)
    exact front.append (.cons found (leaves_of_mute mute _))

/-! ## Frames -/

/-- The blank line and the body are what is read when a header has been read. -/
theorem readHeader_blankLine {started : Bool} {length? : Option Nat} {behind body rest : List UInt8}
    (said : length? = some body.length) (small : body.length ≤ maxBody)
    (ends : BodyBehindBlank behind body rest) :
    readHeader true started length? behind = .frame body rest := by
  cases ends with
  | whole line body rest =>
      rw [readHeader_encode line.single, if_pos line.blank]
      exact takeBody_eq_frame_iff.mpr ⟨said, small, rfl⟩
  | atEnd line some =>
      have begun : Text.encode line.text ≠ [] := fun none => some (by
        have same := Text.decode_eq_ok_iff.mpr none
        rw [Text.decode_nil] at same
        exact (Except.ok.inj same).symm)
      rw [readHeader_last begun (fun member => line.single (newline_mem_encode.mp member))
        (Text.decode_eq_ok_iff.mpr rfl), if_pos line.blank]
      exact takeBody_eq_frame_iff.mpr ⟨said, small, rfl⟩

theorem readHeader_of_leaves {started : Bool} {length? : Option Nat} {lines : List HeaderLine}
    {behind body rest : List UInt8} (said : Leaves length? lines (some body.length))
    (small : body.length ≤ maxBody) (ends : BodyBehindBlank behind body rest) :
    readHeader true started length? (lines.flatMap HeaderLine.bytes ++ behind) =
      .frame body rest := by
  generalize left : some body.length = last? at said
  induction said generalizing started with
  | nil => exact readHeader_blankLine left.symm small ends
  | @cons _ _ _ line _ found others ih =>
      rw [List.flatMap_cons, HeaderLine.bytes, List.append_assoc, List.append_assoc,
        List.singleton_append, readHeader_encode line.single, line.solid, found]
      exact ih left

/-- The first line of the input ends with a newline, or the input is one line without it. -/
theorem exists_line_or_single (input : List UInt8) :
    (∃ line behind, newline ∉ line ∧ input = line ++ newline :: behind) ∨ newline ∉ input := by
  by_cases cut : newline ∈ input
  · obtain ⟨line, behind, whole, single⟩ := List.eq_append_cons_of_mem cut
    exact .inl ⟨line, behind, single, whole⟩
  · exact .inr cut

/-- The last line of the input, without a newline, is followed by a body only if it is blank. -/
theorem bodyBehindBlank_of_single {started : Bool} {length? : Option Nat}
    {input body rest : List UInt8} (single : newline ∉ input)
    (h : readHeader true started length? input = .frame body rest) :
    length? = some body.length ∧ body.length ≤ maxBody ∧ BodyBehindBlank input body rest := by
  by_cases begun : input = []
  · rw [begun, readHeader] at h
    cases started <;> cases h
  cases decoded : Text.decode input with
  | error fault =>
      obtain ⟨b, tail, rfl⟩ := List.exists_cons_of_ne_nil begun
      rw [readHeader, splitLine_of_single single] at h
      simp [decoded] at h
  | ok text =>
      rw [readHeader_last begun single decoded] at h
      split at h
      · rename_i blank
        obtain ⟨said, small, none⟩ := takeBody_eq_frame_iff.mp h
        obtain ⟨rfl, rfl⟩ := List.append_eq_nil_iff.mp none.symm
        obtain rfl := Text.decode_eq_ok_iff.mp decoded
        refine ⟨said, small, .atEnd ⟨text, ?_, blank⟩ ?_⟩
        · exact fun member => single (newline_mem_encode.mpr member)
        · rintro rfl
          exact begun rfl
      · split at h <;> cases h

theorem exists_leaves_of_readHeader {started : Bool} {length? : Option Nat}
    {input body rest : List UInt8} (h : readHeader true started length? input = .frame body rest) :
    ∃ lines behind, input = lines.flatMap HeaderLine.bytes ++ behind ∧
      Leaves length? lines (some body.length) ∧ body.length ≤ maxBody ∧
      BodyBehindBlank behind body rest := by
  generalize size : input.length = n
  induction n using Nat.strong_induction_on generalizing input started length? with
  | _ n ih =>
      rcases exists_line_or_single input with ⟨line, behind, single, rfl⟩ | single
      · cases decoded : Text.decode (line ++ [newline]) with
        | error fault =>
            rw [readHeader_line single, decoded] at h
            cases h
        | ok whole =>
            obtain ⟨text, rfl, rfl⟩ := exists_text (Text.decode_eq_ok_iff.mp decoded)
            have own : '\n' ∉ text := fun member => single (newline_mem_encode.mpr member)
            rw [readHeader_encode own] at h
            split at h
            · rename_i blank
              obtain ⟨said, small, rfl⟩ := takeBody_eq_frame_iff.mp h
              exact ⟨[], _, rfl, said ▸ .nil _, small, .whole ⟨text, own, blank⟩ body rest⟩
            · rename_i solid
              split at h
              · cases h
              · rename_i found? found
                have shorter : behind.length < n := by
                  rw [← size, List.length_append, List.length_cons]
                  omega
                obtain ⟨lines, last, rfl, others, small, ends⟩ := ih _ shorter h rfl
                refine ⟨⟨text, own, Bool.eq_false_iff.mpr solid⟩ :: lines, last, ?_,
                  .cons found others, small, ends⟩
                simp [HeaderLine.bytes]
      · obtain ⟨said, small, ends⟩ := bodyBehindBlank_of_single single h
        exact ⟨[], input, rfl, said ▸ .nil _, small, ends⟩

theorem next_eq_frame_iff {input body rest : List UInt8} :
    next true input = .frame body rest ↔ Framed input body rest := by
  constructor
  · intro h
    obtain ⟨lines, behind, rfl, said, small, ends⟩ := exists_leaves_of_readHeader h
    exact .mk (leaves_none_iff.mp said) small ends
  · rintro ⟨said, small, ends⟩
    exact readHeader_of_leaves (leaves_none_iff.mpr said) small ends

theorem next_eq_finished_iff {input : List UInt8} : next true input = .finished ↔ input = [] := by
  constructor
  · have begun (started : Bool) (length? : Option Nat) (some : started = true ∨ input ≠ []) :
        readHeader true started length? input ≠ .finished := by
      generalize shut : true = closed
      fun_induction readHeader closed started length? input with
      | case2 => simp_all
      | case6 => exact takeBody_ne_finished _ _ _
      | case8 _ _ _ _ _ _ _ _ _ _ _ _ ih => exact ih (.inl rfl)
      | _ => simp
    intro finished
    by_contra some
    exact begun false none (.inr some) finished
  · rintro rfl
    exact next_nil

/-! ## One frame after another -/

/-- The bytes of a frame: those in front of its body, of which there are some, and the body. -/
structure Slice where
  front : List UInt8
  body : List UInt8
  begun : front ≠ []

def Slice.bytes (slice : Slice) : List UInt8 := slice.front ++ slice.body

theorem Framed.exists_slice {input body rest : List UInt8} (h : Framed input body rest) :
    ∃ slice : Slice, slice.body = body ∧ input = slice.bytes ++ rest := by
  obtain ⟨said, small, ends⟩ := h
  rename_i lines behind
  cases ends with
  | whole line =>
      refine ⟨⟨lines.flatMap HeaderLine.bytes ++ Text.encode line.text ++ [newline], body, ?_⟩,
        rfl, ?_⟩
      · simp
      · simp [Slice.bytes]
  | atEnd line some =>
      obtain ⟨before, last, after, -, whole, -⟩ := said.last
      refine ⟨⟨lines.flatMap HeaderLine.bytes ++ Text.encode line.text, [], ?_⟩, rfl, ?_⟩
      · simp [whole, HeaderLine.bytes]
      · simp [Slice.bytes]

theorem exists_slices (input : List UInt8) :
    ∃ (slices : List Slice) (rest : List UInt8), input = slices.flatMap Slice.bytes ++ rest ∧
      Reads true input (slices.map Slice.body) rest ∧
      (rest = [] ∧ readAll input = (slices.map Slice.body, none) ∨
        ∃ fault, next true rest = .broken fault ∧
          readAll input = (slices.map Slice.body, some fault)) := by
  generalize size : input.length = n
  induction n using Nat.strong_induction_on generalizing input with
  | _ n ih =>
      cases first : next true input with
      | finished =>
          obtain rfl := next_eq_finished_iff.mp first
          exact ⟨[], [], rfl, .none _, .inl ⟨rfl, readAll_of_reads (.none _) first⟩⟩
      | broken fault =>
          exact ⟨[], input, rfl, .none _, .inr ⟨fault, first, readAll_of_broken (.none _) first⟩⟩
      | incomplete => exact absurd first (next_closed_ne_incomplete input)
      | frame body behind =>
          have shorter : behind.length < n := size ▸ next_rest_length first
          obtain ⟨slices, rest, whole, others, ended⟩ := ih _ shorter behind rfl
          obtain ⟨slice, rfl, rfl⟩ := (next_eq_frame_iff.mp first).exists_slice
          have read : Reads true _ ((slice :: slices).map Slice.body) rest := .frame first others
          refine ⟨slice :: slices, rest, ?_, read, ?_⟩
          · rw [List.flatMap_cons, List.append_assoc, ← whole]
          · rcases ended with ⟨rfl, -⟩ | ⟨fault, broken, -⟩
            · exact .inl ⟨rfl, readAll_of_reads read next_nil⟩
            · exact .inr ⟨fault, broken, readAll_of_broken read broken⟩

/-- Nothing is left exactly at the end of the input, a body is read exactly when a frame with it
stands at the front, and everything else is a fault. A frame uses up some bytes, and reading goes on
right behind it; so the reading of an input ends, and the bodies stand in the input one behind
another with something in front of each. -/
theorem accepts_exactly_its_grammar (input : List UInt8) :
    (next true input = .finished ↔ input = []) ∧
    (∀ body rest, next true input = .frame body rest ↔ Framed input body rest) ∧
    ((∃ fault, next true input = .broken fault) ↔
      input ≠ [] ∧ ∀ body rest, ¬ Framed input body rest) ∧
    (∀ body rest, next true input = .frame body rest →
      ∃ slice : Slice, slice.body = body ∧ input = slice.bytes ++ rest) ∧
    ∃ (slices : List Slice) (rest : List UInt8), input = slices.flatMap Slice.bytes ++ rest ∧
      Reads true input (slices.map Slice.body) rest ∧
      (rest = [] ∧ readAll input = (slices.map Slice.body, none) ∨
        ∃ fault, next true rest = .broken fault ∧
          readAll input = (slices.map Slice.body, some fault)) := by
  refine ⟨next_eq_finished_iff, fun body rest => next_eq_frame_iff, ⟨?_, ?_⟩,
    fun body rest first => (next_eq_frame_iff.mp first).exists_slice, exists_slices input⟩
  · rintro ⟨fault, broken⟩
    refine ⟨fun none => ?_, fun body rest framed => ?_⟩
    · exact nomatch broken.symm.trans (next_eq_finished_iff.mpr none)
    · exact nomatch broken.symm.trans (next_eq_frame_iff.mpr framed)
  · rintro ⟨begun, none⟩
    cases first : next true input with
    | frame body rest => exact absurd (next_eq_frame_iff.mp first) (none body rest)
    | incomplete => exact absurd first (next_closed_ne_incomplete input)
    | finished => exact absurd (next_eq_finished_iff.mp first) begun
    | broken fault => exact ⟨fault, rfl⟩

/-- A header with a line without a colon and with two lengths, the second with a plus sign. -/
theorem odd_header_accepted :
    let input := Text.bytesOf "content-LENGTH :9\nX\n\tContent-Length:+02\r\n \nokX"
    next true input = .frame (Text.bytesOf "ok") (Text.bytesOf "X") ∧
      ∃ slice : Slice, slice.body = Text.bytesOf "ok" ∧
        input = slice.bytes ++ Text.bytesOf "X" := by
  intro input
  let first : HeaderLine := ⟨"content-LENGTH :9".toList, by decide, by decide⟩
  let second : HeaderLine := ⟨"X".toList, by decide, by decide⟩
  let third : HeaderLine := ⟨"\tContent-Length:+02\r".toList, by decide, by decide⟩
  have said : Declares [first, second, third] 2 :=
    leaves_none_iff.mp (.cons rfl (.cons rfl (.cons rfl (.nil _))))
  have small : (Text.bytesOf "ok").length ≤ maxBody := by decide
  have ends : BodyBehindBlank (Text.bytesOf " \nokX") (Text.bytesOf "ok") (Text.bytesOf "X") :=
    .whole ⟨[' '], by decide, by decide⟩ (Text.bytesOf "ok") (Text.bytesOf "X")
  have whole : input = [first, second, third].flatMap HeaderLine.bytes ++
      Text.bytesOf " \nokX" := by decide
  have framed : Framed input (Text.bytesOf "ok") (Text.bytesOf "X") :=
    whole ▸ .mk said small ends
  obtain ⟨-, frames, -, slices, -⟩ := accepts_exactly_its_grammar input
  have read := (frames _ _).mpr framed
  exact ⟨read, slices _ _ read⟩

end Frame

end AsmDiagnostics
