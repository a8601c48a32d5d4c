import AsmDiagnostics.Json.Basic

/-!
# Mailboxes

Letters on their way to an editor. A mailbox holds a limited number of letters; who comes when it is
full waits in line, and a place that becomes free is promised to the first in the line. Whoever it is
promised to puts the letter in later, behind the letters that have come meanwhile.
-/

namespace AsmDiagnostics

inductive Letter where
  | message (content : Json)
  /-- The last letter: none is taken after it. -/
  | close

/-- A mailbox; `σ` says what those who wait do next. -/
structure Mailbox (σ : Type) where
  /-- The letters in it, the oldest first. -/
  letters : List Letter
  /-- The number of places that are neither taken nor promised. -/
  room : Nat
  /-- The letters for which there is no place yet. -/
  waiting : List (Letter × σ)

namespace Mailbox

variable {σ : Type}

def capacity : Nat := 64

def empty : Mailbox σ := ⟨[], capacity, []⟩

def offer? (m : Mailbox σ) (letter : Letter) : Option (Mailbox σ) :=
  if m.room = 0 then none
  else some { m with letters := m.letters ++ [letter], room := m.room - 1 }

def put (m : Mailbox σ) (letter : Letter) : Mailbox σ :=
  { m with letters := m.letters ++ [letter] }

def await (m : Mailbox σ) (letter : Letter) (next : σ) : Mailbox σ :=
  { m with waiting := m.waiting ++ [(letter, next)] }

def line (m : Mailbox σ) (wanted : σ → Bool) : List (Letter × σ) :=
  m.waiting.filter fun entry => wanted entry.2

/-- Places become free: the first in the line get them, and the others are room. -/
def free (m : Mailbox σ) (wanted : σ → Bool) (count : Nat) : List (Letter × σ) × Mailbox σ :=
  let line := m.line wanted
  (line.take count, { m with room := m.room + (count - line.length), waiting := line.drop count })

/-- The messages among the first letters, at most so many and none behind the last letter; the
letters behind them; and whether the last letter was among them. -/
def takeFirst : Nat → List Letter → List Json × List Letter × Bool
  | 0, letters => ([], letters, false)
  | _ + 1, [] => ([], [], false)
  | _ + 1, .close :: rest => ([], rest, true)
  | count + 1, .message content :: rest =>
      let taken := takeFirst count rest
      (content :: taken.1, taken.2)

inductive Taken (count : Nat) : List Letter → List Json × List Letter × Bool → Prop where
  /-- So many messages come out, or all letters. -/
  | messages (contents : List Json) (rest : List Letter)
      (full : contents.length = count ∨ rest = []) :
      Taken count (contents.map .message ++ rest) (contents, rest, false)
  /-- The last letter comes out, and all messages in front of it. -/
  | last (contents : List Json) (rest : List Letter) (fewer : contents.length < count) :
      Taken count (contents.map .message ++ .close :: rest) (contents, rest, true)

theorem Taken.cons {count : Nat} {letters : List Letter} {taken : List Json × List Letter × Bool}
    (h : Taken count letters taken) (content : Json) :
    Taken (count + 1) (.message content :: letters) (content :: taken.1, taken.2) := by
  cases h with
  | messages contents rest full =>
      exact .messages (content :: contents) rest (full.imp_left (congrArg (· + 1)))
  | last contents rest fewer => exact .last (content :: contents) rest (Nat.succ_lt_succ fewer)

theorem takeFirst_taken (count : Nat) (letters : List Letter) :
    Taken count letters (takeFirst count letters) := by
  induction letters generalizing count with
  | nil =>
      cases count with
      | zero => exact .messages [] [] (.inl rfl)
      | succ count => exact .messages [] [] (.inr rfl)
  | cons letter rest ih =>
      cases count with
      | zero => exact .messages [] (letter :: rest) (.inl rfl)
      | succ count =>
          cases letter with
          | close => exact .last [] rest (Nat.succ_pos count)
          | message content => exact (ih count).cons content

theorem takeFirst_length (count : Nat) (letters : List Letter) :
    (takeFirst count letters).1.length + (takeFirst count letters).2.1.length ≤
      letters.length := by
  have taken := takeFirst_taken count letters
  generalize takeFirst count letters = parts at taken ⊢
  cases taken with
  | messages contents rest => simp
  | last contents rest =>
      simp only [List.length_append, List.length_map, List.length_cons]
      omega

end Mailbox

end AsmDiagnostics
