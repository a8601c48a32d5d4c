import AsmDiagnostics.Proofs.Frame.RoundTrip

/-!
# Input that ends too early

An input that ends within a written frame is read as the frames before it, and then as a fault,
wherever in the frame it ends. The reader does not ask for a newline at the end of the input: what
there is of the first line may still give a length, which is then too short, and a carriage return on
its own is a blank line. Neither lets a part of a body through, because no byte is left for it, and
the body of a message is never empty.
-/

namespace AsmDiagnostics.Frame

/-! ## The input ends within a frame -/

theorem splitLine_of_single {line : List UInt8} (single : newline ∉ line) :
    splitLine line = (line, []) := by
  have others : ∀ b ∈ line, (b != newline) = true := by
    intro b member
    exact bne_iff_ne.mpr fun same => single (same ▸ member)
  have none : line.dropWhile (· != newline) = [] := List.dropWhile_eq_nil_iff.mpr others
  have all : line.takeWhile (· != newline) = line := List.takeWhile_eq_self_iff.mpr others
  unfold splitLine
  rw [none, all]

/-- What the last line decides when it has no newline. -/
theorem readHeader_last {started : Bool} {length? : Option Nat} {line : List UInt8}
    {text : List Char} (some : line ≠ []) (single : newline ∉ line)
    (decoded : Text.decode line = .ok text) :
    readHeader true started length? line =
      if Text.allBlank text then takeBody true length? []
      else
        match lengthOf (Text.trim text) with
        | .error fault => .broken fault
        | .ok _ => .broken .endInHeader := by
  obtain ⟨b, tail, rfl⟩ := List.exists_cons_of_ne_nil some
  have nothing (found? : Option Nat) :
      readHeader true true (found?.or length?) [] = .broken .endInHeader := by
    rw [readHeader]
    rfl
  rw [readHeader, splitLine_of_single single]
  cases found : lengthOf (Text.trim text) with
  | error fault => simp [decoded, found]
  | ok found? => simp [decoded, found, nothing]

/-- Any beginning of the line that gives the length: it is no length, or the header goes on. -/
theorem broken_in_lengthLine {length : Nat} {part : List UInt8}
    (front : part <+: Text.encode (lengthLine length ++ ['\r'])) (some : part ≠ []) :
    ∃ fault, next true part = .broken fault := by
  have plain := lengthLine_plain length
  obtain ⟨start, within, rfl⟩ :=
    Text.exists_prefix_of_encode (fun c member => (plain c member).1) front
  have own : ∀ c ∈ start, Text.isAscii c = true ∧ c ≠ '\n' :=
    fun c member => plain c (within.subset member)
  have single : newline ∉ Text.encode start := by
    intro member
    have inside := (Text.mem_encode_iff (d := '\n') (by decide)).mp member
    exact (own '\n' inside).2 rfl
  have solid : Text.allBlank start = false := by
    cases start with
    | nil => exact absurd rfl some
    | cons c rest =>
        have first : c = 'C' := (List.cons_prefix_cons.mp within).1
        rw [first]
        rfl
  unfold next
  rw [readHeader_last some single (Text.decode_encode_ascii fun c member => (own c member).1),
    solid]
  cases lengthOf (Text.trim start) with
  | error fault => exact ⟨fault, rfl⟩
  | ok found => exact ⟨.endInHeader, rfl⟩

theorem takeBody_short {length : Nat} (small : length ≤ maxBody) {part : List UInt8}
    (short : part.length < length) : takeBody true (some length) part = .broken .endInBody := by
  simp only [takeBody, if_neg (Nat.not_lt.mpr small), if_pos short, if_true]

/-- Any beginning of what stands behind that line, the blank line and the body. -/
theorem broken_behind_lengthLine {body part : List UInt8} (small : body.length ≤ maxBody)
    (solid : body ≠ []) (front : part <+: Text.encode ['\r'] ++ newline :: body)
    (short : part ≠ Text.encode ['\r'] ++ newline :: body) :
    ∃ fault, readHeader true true (some body.length) part = .broken fault := by
  have return_eq : Text.encode ['\r'] = [0x0D] := rfl
  rw [return_eq, List.singleton_append] at front short
  rcases List.prefix_cons_iff.mp front with rfl | ⟨more, rfl, behind⟩
  · -- only the line that gives the length is there
    refine ⟨.endInHeader, ?_⟩
    rw [readHeader]
    rfl
  rcases List.prefix_cons_iff.mp behind with rfl | ⟨inside, rfl, within⟩
  · -- a carriage return alone counts as the blank line, with nothing behind it
    have decoded : Text.decode [0x0D] = .ok ['\r'] :=
      @Text.decode_encode_ascii ['\r'] (List.all_eq_true.mp (by decide))
    refine ⟨.endInBody, ?_⟩
    rw [readHeader_last (List.cons_ne_nil _ _) (by decide) decoded, if_pos (by decide)]
    exact takeBody_short small (List.length_pos_iff.mpr solid)
  · have fewer : inside.length < body.length := by
      refine Nat.lt_of_le_of_ne within.length_le fun same => short ?_
      rw [within.eq_of_length same]
    refine ⟨.endInBody, ?_⟩
    rw [← List.singleton_append, ← return_eq, readHeader_return]
    exact takeBody_short small fewer

/-- A beginning of two texts ends within the first or behind it. -/
theorem within_or_behind {α : Type} {part front back : List α} (h : part <+: front ++ back) :
    part <+: front ∨ ∃ behind, part = front ++ behind ∧ behind <+: back := by
  obtain ⟨rest, whole⟩ := h
  rcases List.append_eq_append_iff.mp whole with ⟨left, rfl, -⟩ | ⟨behind, rfl, rfl⟩
  · exact .inl ⟨left, rfl⟩
  · exact .inr ⟨behind, rfl, rest, rfl⟩

/-- Wherever the input ends within a frame whose body is not empty, there is a fault. -/
theorem broken_of_part {body part : List UInt8} (small : body.length ≤ maxBody)
    (solid : body ≠ []) (front : part <+: write body) (begun : part ≠ [])
    (short : part ≠ write body) : ∃ fault, next true part = .broken fault := by
  have cut : write body = Text.encode (lengthLine body.length ++ ['\r']) ++
      newline :: (Text.encode ['\r'] ++ newline :: body) := by
    rw [write, header_eq, List.append_assoc, List.cons_append, List.append_assoc,
      List.singleton_append]
  rw [cut] at front short
  rcases within_or_behind front with within | ⟨behind, rfl, others⟩
  · exact broken_in_lengthLine within begun
  rcases List.prefix_cons_iff.mp others with rfl | ⟨rest, rfl, back⟩
  · rw [List.append_nil] at begun ⊢
    exact broken_in_lengthLine (List.prefix_refl _) begun
  · rw [next_lengthLine true small]
    exact broken_behind_lengthLine small solid back fun whole => short (by rw [whole])

/-! ## The frames before the end -/

/-- Where an input ends that is a beginning of the written messages: behind so many whole frames,
with a part of the next frame that is neither nothing nor all of it, or with nothing. -/
inductive Cut (messages : List Json) : List Json → List UInt8 → Prop where
  | between {whole others : List Json} (all : messages = whole ++ others) : Cut messages whole []
  | within {whole others : List Json} {message : Json} {part : List UInt8}
      (all : messages = whole ++ message :: others) (front : part <+: ofMessage message)
      (begun : part ≠ []) (short : part ≠ ofMessage message) : Cut messages whole part

theorem Cut.cons {messages whole : List Json} {part : List UInt8} (h : Cut messages whole part)
    (message : Json) : Cut (message :: messages) (message :: whole) part := by
  cases h with
  | between all => exact .between (congrArg (message :: ·) all)
  | within all front begun short => exact .within (congrArg (message :: ·) all) front begun short

theorem exists_cut {messages : List Json} {input : List UInt8}
    (front : input <+: messages.flatMap ofMessage) :
    ∃ whole part, Cut messages whole part ∧ input = whole.flatMap ofMessage ++ part := by
  induction messages generalizing input with
  | nil => exact ⟨[], [], .between rfl, List.prefix_nil.mp front⟩
  | cons message messages ih =>
      rw [List.flatMap_cons] at front
      rcases within_or_behind front with within | ⟨behind, rfl, others⟩
      · by_cases begun : input = []
        · exact ⟨[], [], .between rfl, begun⟩
        · by_cases short : input = ofMessage message
          · refine ⟨[message], [], @Cut.between _ [message] messages rfl, ?_⟩
            rw [List.flatMap_singleton, List.append_nil, short]
          · exact ⟨[], input, @Cut.within _ [] messages message input rfl within begun short, rfl⟩
      · obtain ⟨whole, part, cut, rfl⟩ := ih others
        refine ⟨message :: whole, part, cut.cons message, ?_⟩
        rw [List.flatMap_cons, List.append_assoc]

theorem readAll_of_broken {input rest : List UInt8} {bodies : List (List UInt8)} {fault : Fault}
    (h : Reads true input bodies rest) (broken : next true rest = .broken fault) :
    readAll input = (bodies, some fault) := by
  induction h with
  | none input =>
      rw [readAll]
      split <;> simp_all
  | frame first others ih =>
      rw [readAll]
      split <;> simp_all

/-- Every beginning of the written messages ends between two frames or within one. It is read as the
bodies of its whole frames, and then as the end of the input in the first case and as a fault in the
second. -/
theorem truncation_noticed {messages : List Json}
    (small : ∀ message ∈ messages, message.bytes.length ≤ maxBody) :
    (∀ input : List UInt8, input <+: messages.flatMap ofMessage →
      ∃ whole part, Cut messages whole part ∧ input = whole.flatMap ofMessage ++ part) ∧
    ∀ (whole : List Json) (part : List UInt8), Cut messages whole part →
      let input := whole.flatMap ofMessage ++ part
      Reads true input (whole.map Json.bytes) part ∧
      (part = [] → next true part = .finished ∧ readAll input = (whole.map Json.bytes, none)) ∧
      (part ≠ [] → ∃ fault, next true part = .broken fault ∧
        readAll input = (whole.map Json.bytes, some fault)) := by
  refine ⟨fun input => exists_cut, fun whole part cut => ?_⟩
  have front : whole <+: messages := by
    cases cut with
    | between all => exact ⟨_, all.symm⟩
    | within all => exact ⟨_, all.symm⟩
  have read : Reads true (whole.flatMap ofMessage ++ part) (whole.map Json.bytes) part := by
    rw [flatMap_ofMessage]
    apply reads_write
    intro body member
    obtain ⟨message, inside, rfl⟩ := List.mem_map.mp member
    exact small message (front.subset inside)
  refine ⟨read, fun ended => ?_, fun begun => ?_⟩
  · have finished : next true part = .finished := ended ▸ next_nil
    exact ⟨finished, readAll_of_reads read finished⟩
  · cases cut with
    | between all => exact absurd rfl begun
    | @within _ message _ all front _ short =>
        have member : message ∈ messages := by simp [all]
        obtain ⟨fault, broken⟩ :=
          broken_of_part (small message member) message.bytes_ne_nil front begun short
        exact ⟨fault, broken, readAll_of_broken read broken⟩

/-- The end within the length of the second body leaves a length that is too short, and a fault. -/
theorem shortened_length_noticed :
    let first := Json.nat 7
    let second := Json.str "Unknown symbol"
    let part := Text.encode "Content-Length: 1".toList
    ((∀ message ∈ [first, second], message.bytes.length ≤ maxBody) ∧
        Cut [first, second] [first] part) ∧
      ∃ fault, readAll ([first].flatMap ofMessage ++ part) = ([first.bytes], some fault) := by
  intro first second part
  have small : ∀ message ∈ [first, second], message.bytes.length ≤ maxBody := by decide +kernel
  have cut : Cut [first, second] [first] part :=
    @Cut.within _ [first] [] second part rfl (by decide +kernel) (by decide +kernel)
      (by decide +kernel)
  obtain ⟨fault, -, read⟩ :=
    ((truncation_noticed small).2 [first] part cut).2.2 (by decide +kernel)
  exact ⟨⟨small, cut⟩, fault, read⟩

end AsmDiagnostics.Frame
