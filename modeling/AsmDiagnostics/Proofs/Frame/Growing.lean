import AsmDiagnostics.Proofs.Frame.Reading

/-!
# Bytes that come later

A frame that stands whole at the front of the bytes received is the same frame when more bytes have
come behind it, or when it is known that no more will come.
-/

namespace AsmDiagnostics.Frame

/-- A line that has its newline stands whole at the front. -/
theorem exists_line {input : List UInt8} (h : (splitLine input).1.getLast? = some newline) :
    ∃ line rest, newline ∉ line ∧ input = line ++ newline :: rest := by
  have others : ∀ b ∈ input.takeWhile (· != newline), b ≠ newline :=
    fun b member => bne_iff_ne.mp (List.all_eq_true.mp List.all_takeWhile b member)
  have parted := @List.takeWhile_append_dropWhile _ (· != newline) input
  unfold splitLine at h
  rcases behind : input.dropWhile (· != newline) with _ | ⟨b, rest⟩
  · rw [behind] at h
    exact absurd rfl (others newline (List.mem_of_getLast? h))
  · rw [behind] at h parted
    have ends : b = newline := by simpa using h
    subst ends
    exact ⟨_, rest, fun member => others _ member rfl, parted.symm⟩

def Next.before (more : List UInt8) : Next → Next
  | .frame body rest => .frame body (rest ++ more)
  | other => other

theorem takeBody_append {length? : Option Nat} {input : List UInt8} {found : Next}
    (h : takeBody false length? input = found) (whole : found ≠ .incomplete) (closed : Bool)
    (more : List UInt8) : takeBody closed length? (input ++ more) = found.before more := by
  subst h
  unfold takeBody at whole ⊢
  cases length? with
  | none => rfl
  | some length =>
      simp only at whole ⊢
      split
      · rfl
      · rename_i small
        rw [if_neg small] at whole
        by_cases short : input.length < length
        · rw [if_pos short] at whole
          exact absurd rfl whole
        · have within : length ≤ input.length := Nat.le_of_not_lt short
          have still : ¬ (input ++ more).length < length := by
            rw [List.length_append]
            omega
          rw [if_neg short, if_neg still, List.take_append_of_le_length within,
            List.drop_append_of_le_length within]
          rfl

theorem readHeader_append {started : Bool} {length? : Option Nat} {input : List UInt8}
    {found : Next} (h : readHeader false started length? input = found)
    (whole : found ≠ .incomplete) (closed : Bool) (more : List UInt8) :
    readHeader closed started length? (input ++ more) = found.before more := by
  generalize size : input.length = n
  induction n using Nat.strong_induction_on generalizing input started length? with
  | _ n ih =>
      have ended : (splitLine input).1.getLast? = some newline := by
        by_contra part
        cases input with
        | nil =>
            rw [readHeader] at h
            exact whole h.symm
        | cons b tail =>
            rw [readHeader] at h
            simp only [Bool.not_false, Bool.true_and, bne_iff_ne, ne_eq, part, not_false_eq_true,
              if_true] at h
            exact whole h.symm
      obtain ⟨line, behind, solid, rfl⟩ := exists_line ended
      rw [readHeader_line solid] at h
      rw [List.append_assoc, List.cons_append, readHeader_line solid]
      split at h
      · exact h ▸ rfl
      · split at h
        · rename_i blank
          rw [if_pos blank]
          exact takeBody_append h whole closed more
        · rename_i filled
          rw [if_neg filled]
          split at h
          · exact h ▸ rfl
          · refine ih behind.length ?_ h rfl
            rw [← size, List.length_append, List.length_cons]
            omega

/-- A whole frame stays the first frame. -/
theorem next_append {input body rest : List UInt8} (h : next false input = .frame body rest)
    (closed : Bool) (more : List UInt8) :
    next closed (input ++ more) = .frame body (rest ++ more) :=
  readHeader_append h (by simp) closed more

/-- A fault stays a fault. -/
theorem next_broken_append {input : List UInt8} {fault : Fault}
    (h : next false input = .broken fault) (closed : Bool) (more : List UInt8) :
    next closed (input ++ more) = .broken fault :=
  readHeader_append h (by simp) closed more

/-- What is decided stays so when no more bytes come. -/
theorem next_close {input : List UInt8} {found : Next} (h : next false input = found)
    (whole : found ≠ .incomplete) (closed : Bool) : next closed input = found := by
  have still : next closed (input ++ []) = found.before [] := readHeader_append h whole closed []
  have same : found.before [] = found := by
    cases found with
    | frame body rest => exact congrArg (Next.frame body) (List.append_nil rest)
    | _ => rfl
  rwa [List.append_nil, same] at still

theorem takeBody_ne_incomplete (length? : Option Nat) (input : List UInt8) :
    takeBody true length? input ≠ .incomplete := by
  unfold takeBody
  repeat' split
  all_goals simp_all

/-- When no more bytes will come, nothing is left undecided. -/
theorem next_closed_ne_incomplete (input : List UInt8) : next true input ≠ .incomplete := by
  have decided (started : Bool) (length? : Option Nat) :
      readHeader true started length? input ≠ .incomplete := by
    generalize shut : true = closed
    fun_induction readHeader closed started length? input with
    | case3 started length? isOpen => exact absurd shut.symm isOpen
    | case4 started length? b tail line part => simp [← shut] at part
    | case6 => exact shut ▸ takeBody_ne_incomplete _ _
    | case8 => assumption
    | _ => simp
  exact decided false none

theorem takeBody_ne_finished (closed : Bool) (length? : Option Nat) (input : List UInt8) :
    takeBody closed length? input ≠ .finished := by
  unfold takeBody
  repeat' split
  all_goals simp

/-- The input is not over as long as more bytes may come. -/
theorem next_open_ne_finished (input : List UInt8) : next false input ≠ .finished := by
  have goes (started : Bool) (length? : Option Nat) :
      readHeader false started length? input ≠ .finished := by
    generalize isOpen : false = closed
    fun_induction readHeader closed started length? input with
    | case2 started length? shut => exact absurd (isOpen.trans shut) Bool.false_ne_true
    | case6 => exact takeBody_ne_finished _ _ _
    | case8 => assumption
    | _ => simp
  exact goes false none

namespace Reads

variable {input rest : List UInt8} {bodies : List (List UInt8)}

theorem append (h : Reads false input bodies rest) (closed : Bool) (more : List UInt8) :
    Reads closed (input ++ more) bodies (rest ++ more) := by
  induction h with
  | none input => exact .none _
  | frame first others ih => exact .frame (next_append first closed more) ih

theorem close (h : Reads false input bodies rest) (closed : Bool) :
    Reads closed input bodies rest := by
  have closing := h.append closed []
  rwa [List.append_nil, List.append_nil] at closing

/-- More bytes have come in. -/
theorem heard {closed : Bool} (h : Reads closed input bodies rest) (isOpen : closed = false)
    (more : List UInt8) : Reads closed (input ++ more) bodies (rest ++ more) := by
  subst isOpen
  exact h.append false more

/-- No more bytes will come in. -/
theorem atEnd {closed : Bool} (h : Reads closed input bodies rest) :
    Reads true input bodies rest := by
  cases closed with
  | true => exact h
  | false => exact h.close true

/-- One more frame is read. -/
theorem snoc {closed : Bool} {body behind : List UInt8} (h : Reads closed input bodies rest)
    (last : next closed rest = .frame body behind) :
    Reads closed input (bodies ++ [body]) behind := by
  induction h with
  | none input => exact .frame last (.none behind)
  | frame first others ih => exact .frame first (ih last)

theorem rest_length {closed : Bool} (h : Reads closed input bodies rest) :
    rest.length ≤ input.length := by
  induction h with
  | none input => exact Nat.le_refl _
  | frame first others ih => exact Nat.le_trans ih (Nat.le_of_lt (next_rest_length first))

/-- What is left tells which frames have been read. -/
theorem unique {closed : Bool} {others : List (List UInt8)} (h : Reads closed input bodies rest)
    (h' : Reads closed input others rest) : bodies = others := by
  induction h generalizing others with
  | none input =>
      cases h' with
      | none => rfl
      | frame first later =>
          exact absurd later.rest_length (Nat.not_le_of_lt (next_rest_length first))
  | frame first later ih =>
      cases h' with
      | none => exact absurd later.rest_length (Nat.not_le_of_lt (next_rest_length first))
      | frame again other =>
          obtain ⟨rfl, rfl⟩ := Next.frame.inj (first.symm.trans again)
          rw [ih other]

/-- Whatever is read from written frames stands at their front. -/
theorem written {closed : Bool} (h : Reads closed input bodies rest) {all : List (List UInt8)}
    (small : ∀ body ∈ all, body.length ≤ maxBody) (same : input = all.flatMap write) :
    bodies <+: all := by
  induction h generalizing all with
  | none input => exact List.nil_prefix
  | @frame input body mid rest bodies first others ih =>
      cases all with
      | nil =>
          have nothing : next closed [] ≠ .frame body mid := by
            rw [next, readHeader]
            cases closed <;> simp
          rw [same] at first
          exact absurd first nothing
      | cons other all =>
          rw [List.forall_mem_cons] at small
          rw [same, List.flatMap_cons, next_write_append closed small.1] at first
          obtain ⟨rfl, rfl⟩ := Next.frame.inj first
          exact List.cons_prefix_cons.mpr ⟨rfl, ih small.2 rfl⟩

end Reads

end AsmDiagnostics.Frame
