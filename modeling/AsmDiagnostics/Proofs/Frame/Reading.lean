import AsmDiagnostics.Frame
import AsmDiagnostics.Proofs.Text.Blank
import AsmDiagnostics.Proofs.Text.Digit
import AsmDiagnostics.Proofs.Text.Utf8

/-!
# Reading frames

What reading does with a blank line, with the line that gives the length of a body, and so with a
whole written frame: it is read as its body whatever bytes follow it, and none of those is taken.
`Reads` says which frames stand at the front of the bytes received; more bytes that are received
later do not change them.
-/

namespace AsmDiagnostics

namespace Text

theorem isBlank_of_isDigit {c : Char} (h : c.isDigit = true) : isBlank c = false := by
  obtain ⟨low, high⟩ := Char.isDigit_iff_toNat.mp h
  have above : 48 ≤ c.toNat := low
  have below : c.toNat ≤ 57 := high
  simp [isBlank, inRanges, blankRanges]
  omega

theorem trim_of_solid {c last : Char} {s : List Char} (front : isBlank c = false)
    (back : (c :: s).getLast? = some last) (solid : isBlank last = false) :
    trim (c :: s) = c :: s := by
  rw [trim, trimStart_cons_solid front, trimEnd_eq, List.rdropWhile_eq_self_iff]
  intro some blank
  rw [List.getLast?_eq_some_getLast some] at back
  obtain rfl := Option.some.inj back
  exact Bool.false_ne_true (solid.symm.trans blank)

theorem readNumber_decimal {limit number : Nat} (h : number ≤ limit) :
    readNumber limit (decimal number) = .ok number := by
  have read := readDigits_decimal h
  rcases whole : decimal number with _ | ⟨c, rest⟩
  · exact absurd whole (decimal_ne_nil number)
  · have digit : c.isDigit = true :=
      Nat.isDigit_of_mem_toDigits (by decide) (by decide) (whole ▸ List.mem_cons_self)
    have unsigned : c ≠ '+' := by
      rintro rfl
      exact absurd digit (by decide)
    rw [whole] at read
    unfold readNumber
    split
    · contradiction
    · simp_all
    · simp_all
    · exact read

end Text

namespace Frame

/-! ## Lines -/

theorem splitLine_append {line : List UInt8} (h : newline ∉ line) (rest : List UInt8) :
    splitLine (line ++ newline :: rest) = (line ++ [newline], rest) := by
  have others : ∀ b ∈ line, (b != newline) = true := by
    intro b member
    exact bne_iff_ne.mpr fun same => h (same ▸ member)
  unfold splitLine
  rw [List.takeWhile_append_of_pos others, List.dropWhile_append_of_pos others]
  simp

section Lines

variable {closed started : Bool} {length? : Option Nat} {line rest : List UInt8} {text : List Char}

/-- What a whole line at the front decides. -/
theorem readHeader_line (whole : newline ∉ line) :
    readHeader closed started length? (line ++ newline :: rest) =
      match Text.decode (line ++ [newline]) with
      | .error fault => .broken (.headerNotText fault)
      | .ok text =>
          if Text.allBlank text then takeBody closed length? rest
          else
            match lengthOf (Text.trim text) with
            | .error fault => .broken fault
            | .ok found? => readHeader closed true (found?.or length?) rest := by
  have parted := splitLine_append whole rest
  rcases input : line ++ newline :: rest with _ | ⟨b, tail⟩
  · simp at input
  · rw [input] at parted
    rw [readHeader, parted]
    exact if_neg (by simp)

theorem readHeader_blank (whole : newline ∉ line)
    (decoded : Text.decode (line ++ [newline]) = .ok text) (blank : Text.allBlank text = true) :
    readHeader closed started length? (line ++ newline :: rest) =
      takeBody closed length? rest := by
  simp [readHeader_line whole, decoded, blank]

theorem readHeader_solid (whole : newline ∉ line)
    (decoded : Text.decode (line ++ [newline]) = .ok text)
    (solid : Text.allBlank text = false) {found? : Option Nat}
    (length : lengthOf (Text.trim text) = .ok found?) :
    readHeader closed started length? (line ++ newline :: rest) =
      readHeader closed true (found?.or length?) rest := by
  simp [readHeader_line whole, decoded, solid, length]

end Lines

/-! ## A written frame -/

def lengthLine (length : Nat) : List Char :=
  lengthName.toList ++ ':' :: ' ' :: Text.decimal length

theorem header_eq (length : Nat) :
    header length = Text.encode (lengthLine length ++ ['\r']) ++
      newline :: (Text.encode ['\r'] ++ [newline]) := by
  unfold header lengthLine
  simp only [Text.encode_append]
  simp [Text.encode, Text.encodeChar, newline, List.append_assoc]

theorem mem_lengthLine {length : Nat} {c : Char} (h : c ∈ lengthLine length) :
    c ∈ lengthName.toList ++ [':', ' '] ∨ c.isDigit = true := by
  have parts : c ∈ lengthName.toList ++ [':', ' '] ∨ c ∈ Text.decimal length := by
    simp only [lengthLine, List.mem_append, List.mem_cons] at h ⊢
    tauto
  exact parts.imp_right (Nat.isDigit_of_mem_toDigits (by decide) (by decide))

/-- Up to its end the line is plain. -/
theorem lengthLine_plain (length : Nat) :
    ∀ c ∈ lengthLine length ++ ['\r'], Text.isAscii c = true ∧ c ≠ '\n' := by
  have fixed : ∀ c ∈ lengthName.toList ++ [':', ' '], Text.isAscii c = true ∧ c ≠ '\n' := by
    have all : (lengthName.toList ++ [':', ' ']).all fun c => Text.isAscii c && c != '\n' := by
      decide
    intro c inside
    simpa using List.all_eq_true.mp all c inside
  intro c member
  rcases List.mem_append.mp member with inside | last
  · rcases mem_lengthLine inside with known | digit
    · exact fixed c known
    · refine ⟨Text.isAscii_of_isDigit digit, ?_⟩
      rintro rfl
      exact absurd digit (by decide)
  · obtain rfl := List.mem_singleton.mp last
    decide

theorem decimal_getLast? (length : Nat) :
    ∃ digit, (Text.decimal length).getLast? = some digit ∧ digit.isDigit = true := by
  have some := Text.decimal_ne_nil length
  exact ⟨_, List.getLast?_eq_some_getLast some,
    Nat.isDigit_of_mem_toDigits (by decide) (by decide) (List.getLast_mem some)⟩

theorem trim_decimal (length : Nat) : Text.trim (Text.decimal length) = Text.decimal length := by
  have digits : ∀ c ∈ Text.decimal length, c.isDigit = true :=
    fun c => Nat.isDigit_of_mem_toDigits (by decide) (by decide)
  rcases whole : Text.decimal length with _ | ⟨c, rest⟩
  · exact absurd whole (Text.decimal_ne_nil length)
  · obtain ⟨last, back, digit⟩ := decimal_getLast? length
    rw [whole] at digits back
    exact Text.trim_of_solid (Text.isBlank_of_isDigit (digits c List.mem_cons_self)) back
      (Text.isBlank_of_isDigit digit)

theorem trim_lengthLine (length : Nat) {blanks : List Char} (h : Text.allBlank blanks = true) :
    Text.trim (lengthLine length ++ blanks) = lengthLine length := by
  rw [Text.trim_append_trailing _ h]
  obtain ⟨last, back, digit⟩ := decimal_getLast? length
  have whole : (lengthLine length).getLast? = some last := by
    unfold lengthLine
    rw [List.getLast?_append, List.getLast?_cons_cons, List.getLast?_cons, back]
    rfl
  exact Text.trim_of_solid (c := 'C') (by decide) whole (Text.isBlank_of_isDigit digit)

/-- The line says the length that it was written for. -/
theorem lengthOf_lengthLine {length : Nat} (small : length ≤ Text.maxWord64) :
    lengthOf (lengthLine length) = .ok (some length) := by
  have name : ∀ c ∈ lengthName.toList, (c != ':') = true := List.all_eq_true.mp (by decide)
  have same : sameIgnoringCase (Text.trim lengthName.toList) lengthName.toList = true := by decide
  have value : Text.trim (' ' :: Text.decimal length) = Text.decimal length := by
    rw [← List.singleton_append, Text.trim_append_blanks (by decide), trim_decimal]
  have read : Text.readNumber Text.maxWord64 (Text.decimal length) = .ok length :=
    Text.readNumber_decimal small
  unfold lengthOf lengthLine
  rw [List.dropWhile_append_of_pos name, List.takeWhile_append_of_pos name]
  simp only [List.dropWhile_cons, List.takeWhile_cons]
  simp [same, value, read]

/-- The first line of a written frame gives the length of its body. -/
theorem next_lengthLine (closed : Bool) {length : Nat} (small : length ≤ maxBody)
    (rest : List UInt8) :
    next closed (Text.encode (lengthLine length ++ ['\r']) ++ newline :: rest) =
      readHeader closed true (some length) rest := by
  have plain := lengthLine_plain length
  have ascii : ∀ c ∈ lengthLine length ++ ['\r', '\n'], Text.isAscii c = true := by
    intro c member
    rw [List.append_cons] at member
    rcases List.mem_append.mp member with inside | last
    · exact (plain c inside).1
    · obtain rfl := List.mem_singleton.mp last
      decide
  have whole : newline ∉ Text.encode (lengthLine length ++ ['\r']) := by
    intro member
    have inside := (Text.mem_encode_iff (d := '\n') (by decide)).mp member
    exact (plain '\n' inside).2 rfl
  have decoded : Text.decode (Text.encode (lengthLine length ++ ['\r']) ++ [newline]) =
      .ok (lengthLine length ++ ['\r', '\n']) := by
    have ends : Text.encode (lengthLine length ++ ['\r', '\n']) =
        Text.encode (lengthLine length ++ ['\r']) ++ [newline] := by
      rw [List.append_cons, Text.encode_append]
      rfl
    rw [← ends]
    exact Text.decode_encode_ascii ascii
  have found : lengthOf (Text.trim (lengthLine length ++ ['\r', '\n'])) = .ok (some length) := by
    rw [trim_lengthLine length (by decide)]
    exact lengthOf_lengthLine (Nat.le_trans small (by decide))
  exact readHeader_solid whole decoded rfl found

/-- A carriage return on a line of its own is a blank line. -/
theorem readHeader_return (closed started : Bool) (length? : Option Nat) (rest : List UInt8) :
    readHeader closed started length? (Text.encode ['\r'] ++ newline :: rest) =
      takeBody closed length? rest := by
  have decoded : Text.decode (Text.encode ['\r'] ++ [newline]) = .ok ['\r', '\n'] :=
    @Text.decode_encode_ascii ['\r', '\n'] (List.all_eq_true.mp (by decide))
  exact readHeader_blank (by decide) decoded rfl

/-- A written frame is read as its body, and what follows it is left. -/
theorem next_write_append (closed : Bool) {body : List UInt8} (small : body.length ≤ maxBody)
    (rest : List UInt8) : next closed (write body ++ rest) = .frame body rest := by
  have taken : takeBody closed (some body.length) (body ++ rest) = .frame body rest := by
    have enough : ¬ (body ++ rest).length < body.length := by
      rw [List.length_append]
      omega
    simp only [takeBody, if_neg (Nat.not_lt.mpr small), if_neg enough, List.take_left,
      List.drop_left]
  unfold write
  rw [header_eq, List.append_assoc, List.append_assoc, List.cons_append,
    next_lengthLine closed small, List.append_assoc, List.singleton_append, readHeader_return]
  exact taken

/-! ## One frame after another -/

/-- These frames stand at the front of the bytes, and the rest is behind them. -/
inductive Reads (closed : Bool) : List UInt8 → List (List UInt8) → List UInt8 → Prop where
  | none (input : List UInt8) : Reads closed input [] input
  | frame {input body mid rest : List UInt8} {bodies : List (List UInt8)}
      (first : next closed input = .frame body mid) (others : Reads closed mid bodies rest) :
      Reads closed input (body :: bodies) rest

theorem reads_write (closed : Bool) {bodies : List (List UInt8)}
    (small : ∀ body ∈ bodies, body.length ≤ maxBody) (rest : List UInt8) :
    Reads closed (bodies.flatMap write ++ rest) bodies rest := by
  induction bodies with
  | nil => exact .none rest
  | cons body bodies ih =>
      rw [List.forall_mem_cons] at small
      rw [List.flatMap_cons, List.append_assoc]
      exact .frame (next_write_append closed small.1 _) (ih small.2)

theorem next_nil : next true [] = .finished := by
  rw [next, readHeader]
  rfl

/-- An input that is read as frames up to its end is these frames and nothing else. -/
theorem readAll_of_reads {input rest : List UInt8} {bodies : List (List UInt8)}
    (h : Reads true input bodies rest) (finished : next true rest = .finished) :
    readAll input = (bodies, none) := by
  induction h with
  | none input =>
      rw [readAll]
      split <;> simp_all
  | frame first others ih =>
      rw [readAll]
      split <;> simp_all

end Frame

end AsmDiagnostics
