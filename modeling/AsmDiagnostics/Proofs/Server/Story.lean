import AsmDiagnostics.Proofs.Server.Steps

/-!
# Stories of a server

A story is a list of moves: bytes that come in, time that passes, changes of the world outside, and
turns, which those who have asked may have in any order.  The reader asks for a turn when something
has come in, unless it has asked already or waits with an answer.
-/

namespace AsmDiagnostics.Server

variable {ω : Type}

def isReader : Sequel → Bool
  | .read => true
  | _ => false

def isReading : Job → Bool
  | .read => true
  | .place _ sequel => isReader sequel
  | _ => false

/-- The reader has asked for a turn or waits for a place. -/
def readerWaits (s : Server ω) : Bool :=
  s.jobs.any isReading || s.mailbox.waiting.any fun entry => isReader entry.2

def wakeReader (s : Server ω) : Server ω := if s.readerWaits then s else s.ask .read

def hear (s : Server ω) (bytes : List UInt8) : Server ω :=
  { s with unread := s.unread ++ bytes }.wakeReader

/-- The editor closes its side. -/
def hangUp (s : Server ω) : Server ω := { s with isClosed := true }.wakeReader

/-- The writer has rested, and asks for a turn again. -/
def rested (s : Server ω) : Server ω :=
  { s with writer := { s.writer with isResting := false } }.ask .write

def without (s : Server ω) (place : Nat) : Server ω := { s with jobs := s.jobs.eraseIdx place }

/-- One move of a story. -/
inductive Move (ω : Type) where
  | hear (bytes : List UInt8)
  | hangUp
  /-- The job at a place has its turn. -/
  | turn (place : Nat)
  /-- The writer has rested. -/
  | rest
  | clock (time : Nat)
  /-- The turns since the server last looked after the writer are counted anew. -/
  | count (turns : Nat)
  /-- The world outside becomes another one. -/
  | alter (world : ω)

def move (outside : Outside ω) (s : Server ω) : Move ω → Server ω
  | .hear bytes => s.unlessEnded fun s => if s.isClosed then s else s.hear bytes
  | .hangUp => s.unlessEnded hangUp
  | .turn place =>
      s.unlessEnded fun s =>
        match s.jobs[place]? with
        | none => s
        | some job => (s.without place).perform outside job
  | .rest => s.unlessEnded fun s => if s.writer.isResting then s.rested else s
  | .clock time => if s.hasEnded then s.withTime time else (s.withTime time).enlist
  | .count turns => { s with turns := turns }
  | .alter world => { s with world := world }

def heard (s : Server ω) : Move ω → List UInt8
  | .hear bytes => if s.hasEnded || s.isClosed then [] else bytes
  | _ => []

/-- The server at the end of a story. -/
def play (outside : Outside ω) (s : Server ω) : List (Move ω) → Server ω
  | [] => s
  | move :: moves => (s.move outside move).play outside moves

def input (outside : Outside ω) (s : Server ω) : List (Move ω) → List UInt8
  | [] => []
  | move :: moves => s.heard move ++ (s.move outside move).input outside moves

variable {outside : Outside ω}

theorem play_append (s : Server ω) (before after : List (Move ω)) :
    s.play outside (before ++ after) = (s.play outside before).play outside after := by
  induction before generalizing s with
  | nil => rfl
  | cons move before ih => exact ih (s.move outside move)

theorem input_append (s : Server ω) (before after : List (Move ω)) :
    s.input outside (before ++ after) =
      s.input outside before ++ (s.play outside before).input outside after := by
  induction before generalizing s with
  | nil => rfl
  | cons move before ih => simp [input, play, ih, List.append_assoc]

/-- Something that may hold of the bytes that have come in, of what is in hand, and of a server. -/
abbrev Condition (ω : Type) := List UInt8 → Hand → Server ω → Prop

namespace Condition

def any : Condition ω := fun _ _ _ => True

def and (first second : Condition ω) : Condition ω := fun input hand s =>
  first input hand s ∧ second input hand s

end Condition

/-- What every step and every move keeps as long as something else holds. -/
structure Kept (outside : Outside ω) (known keeps : Condition ω) : Prop where
  step {input : List UInt8} {hand next : Hand} {s after : Server ω} (also : known input hand s)
    (kept : keeps input hand s) (h : Step outside hand s next after) : keeps input next after
  turn {input : List UInt8} {s : Server ω} {place : Nat} {job : Job} (also : known input .free s)
    (kept : keeps input .free s) (goes : s.ending? = none) (found : s.jobs[place]? = some job) :
    keeps input (.job job) (s.without place)
  hear {input : List UInt8} {s : Server ω} (also : known input .free s)
    (kept : keeps input .free s) (goes : s.ending? = none) (isOpen : s.isClosed = false)
    (bytes : List UInt8) : keeps (input ++ bytes) .free (s.hear bytes)
  hangUp {input : List UInt8} {s : Server ω} (also : known input .free s)
    (kept : keeps input .free s) (goes : s.ending? = none) : keeps input .free s.hangUp
  rest {input : List UInt8} {s : Server ω} (also : known input .free s)
    (kept : keeps input .free s) (goes : s.ending? = none) (resting : s.writer.isResting = true) :
    keeps input .free s.rested
  clock {input : List UInt8} {s : Server ω} (also : known input .free s)
    (kept : keeps input .free s) (goes : s.ending? = none) (time : Nat) :
    keeps input .free (s.withTime time).enlist
  late {input : List UInt8} {s : Server ω} (also : known input .free s)
    (kept : keeps input .free s) (past : s.ending?.isSome) (time : Nat) :
    keeps input .free (s.withTime time)
  count {input : List UInt8} {s : Server ω} (also : known input .free s)
    (kept : keeps input .free s) (turns : Nat) : keeps input .free { s with turns := turns }
  alter {input : List UInt8} {s : Server ω} (also : known input .free s)
    (kept : keeps input .free s) (world : ω) : keeps input .free { s with world := world }

theorem unlessEnded_of_goes {s : Server ω} (goes : s.ending? = none) (f : Server ω → Server ω) :
    s.unlessEnded f = f s := by
  simp [unlessEnded, hasEnded, goes]

theorem unlessEnded_of_over {s : Server ω} (past : s.ending?.isSome) (f : Server ω → Server ω) :
    s.unlessEnded f = s := by
  simp [unlessEnded, hasEnded, past]

namespace Kept

variable {first second keeps : Condition ω}

/-- Something that is kept may be built on. -/
theorem and (h : Kept outside .any first) (h' : Kept outside first second) :
    Kept outside .any (first.and second) where
  step _ kept goes := ⟨h.step trivial kept.1 goes, h'.step kept.1 kept.2 goes⟩
  turn _ kept goes found := ⟨h.turn trivial kept.1 goes found, h'.turn kept.1 kept.2 goes found⟩
  hear _ kept goes isOpen bytes :=
    ⟨h.hear trivial kept.1 goes isOpen bytes, h'.hear kept.1 kept.2 goes isOpen bytes⟩
  hangUp _ kept goes := ⟨h.hangUp trivial kept.1 goes, h'.hangUp kept.1 kept.2 goes⟩
  rest _ kept goes resting :=
    ⟨h.rest trivial kept.1 goes resting, h'.rest kept.1 kept.2 goes resting⟩
  clock _ kept goes time := ⟨h.clock trivial kept.1 goes time, h'.clock kept.1 kept.2 goes time⟩
  late _ kept past time := ⟨h.late trivial kept.1 past time, h'.late kept.1 kept.2 past time⟩
  count _ kept turns := ⟨h.count trivial kept.1 turns, h'.count kept.1 kept.2 turns⟩
  alter _ kept world := ⟨h.alter trivial kept.1 world, h'.alter kept.1 kept.2 world⟩

variable (h : Kept outside .any keeps)

include h

theorem perform {input : List UInt8} {s : Server ω} {job : Job} (kept : keeps input (.job job) s) :
    keeps input .free (s.perform outside job) :=
  (perform_steps s job).keeps (fun first kept => h.step trivial kept first) kept

theorem move {input : List UInt8} {s : Server ω} (kept : keeps input .free s) (m : Move ω) :
    keeps (input ++ s.heard m) .free (s.move outside m) := by
  have silent (after : Server ω) (kept : keeps input .free after) :
      keeps (input ++ []) .free after := by rwa [List.append_nil]
  cases ending : s.ending? with
  | some how =>
      have past : s.ending?.isSome := by simp [ending]
      have ended : s.hasEnded = true := past
      have still (f : Server ω → Server ω) : keeps (input ++ []) .free (s.unlessEnded f) := by
        rw [unlessEnded_of_over past]
        exact silent s kept
      cases m with
      | hear bytes =>
          simp only [heard, Server.move, ended, Bool.true_or, if_true]
          exact still _
      | hangUp => exact still _
      | turn place =>
          simp only [heard, Server.move]
          exact still _
      | rest => exact still _
      | clock time =>
          simp only [heard, Server.move, ended, if_true]
          exact silent _ (h.late trivial kept past time)
      | count turns => exact silent _ (h.count trivial kept turns)
      | alter world => exact silent _ (h.alter trivial kept world)
  | none =>
      have going : s.hasEnded = false := by simp [hasEnded, ending]
      cases m with
      | hear bytes =>
          simp only [heard, Server.move, going, Bool.false_or, unlessEnded_of_goes ending]
          cases isOpen : s.isClosed with
          | true => exact silent s kept
          | false => exact h.hear trivial kept ending isOpen bytes
      | hangUp =>
          simp only [heard, Server.move, unlessEnded_of_goes ending]
          exact silent _ (h.hangUp trivial kept ending)
      | turn place =>
          simp only [heard, Server.move, unlessEnded_of_goes ending]
          refine silent _ ?_
          split
          · exact kept
          · rename_i job found
            exact h.perform (h.turn trivial kept ending found)
      | rest =>
          simp only [heard, Server.move, unlessEnded_of_goes ending]
          refine silent _ ?_
          split
          · rename_i resting
            exact h.rest trivial kept ending resting
          · exact kept
      | clock time =>
          simp only [heard, Server.move, going]
          exact silent _ (h.clock trivial kept ending time)
      | count turns => exact silent _ (h.count trivial kept turns)
      | alter world => exact silent _ (h.alter trivial kept world)

/-- It holds at the end of a story if it holds at its start. -/
theorem play {input : List UInt8} {s : Server ω} (kept : keeps input .free s)
    (moves : List (Move ω)) :
    keeps (input ++ s.input outside moves) .free (s.play outside moves) := by
  induction moves generalizing input s with
  | nil => simpa [Server.input, Server.play] using kept
  | cons m moves ih =>
      have later := ih (h.move kept m)
      rwa [List.append_assoc] at later

/-- It holds at the end of every story of a server where it holds before anything has come in. -/
theorem story {s : Server ω} (kept : keeps [] .free s) (moves : List (Move ω)) :
    keeps (s.input outside moves) .free (s.play outside moves) :=
  h.play kept moves

end Kept

end AsmDiagnostics.Server
