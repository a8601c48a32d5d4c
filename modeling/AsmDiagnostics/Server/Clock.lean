import AsmDiagnostics.Server.Effort

/-!
# A server in time

Bytes come in and time passes; after each of these the server is at rest again: nobody asks for a
turn. When time passes, the server comes to rest at every time at which a task of the pipeline is
due.
-/

namespace AsmDiagnostics.Server

variable {ω : Type}

def nextDue? (s : Server ω) : Option Nat :=
  if s.hasEnded then none
  else (s.session.pipeline?.bind fun pipeline => pipeline.agenda.head?).map Planned.due

/-- The clock moves on to a time, and the tasks that are due then ask for a turn. -/
def atTime (s : Server ω) (time : Nat) : Server ω :=
  match s.session.pipeline? with
  | none => s
  | some pipeline =>
      ({ s with turns := 0 }.withPipeline { pipeline with now := time }).enlist

theorem atTime_lessens {s : Server ω} {due : Nat} (h : s.nextDue? = some due) :
    (s.atTime due).unread = s.unread ∧ (s.atTime due).effort < s.effort := by
  unfold nextDue? at h
  split at h
  · simp at h
  · obtain ⟨entry, found, rfl⟩ := Option.map_eq_some_iff.mp h
    obtain ⟨pipeline, same, first⟩ := Option.bind_eq_some_iff.mp found
    unfold atTime
    split
    · rename_i none
      rw [none] at same
      simp at same
    · rename_i other equal
      rw [equal] at same
      obtain rfl := Option.some.inj same
      refine ⟨enlist_unread _, ?_⟩
      obtain ⟨rest, agenda⟩ : ∃ rest, other.agenda = entry :: rest := by
        cases parted : other.agenda with
        | nil =>
            rw [parted] at first
            simp at first
        | cons head rest =>
            rw [parted] at first
            obtain rfl := Option.some.inj first
            exact ⟨rest, rfl⟩
      have cost := due_cost_le (fun planned => decide (planned.due ≤ entry.due)) other.agenda
      have moved : 0 < (other.agenda.takeWhile
          fun planned => decide (planned.due ≤ entry.due)).length := by
        rw [agenda, List.takeWhile_cons_of_pos (by simp)]
        exact Nat.succ_pos _
      simp only [effort, agendaCost, enlist, withPipeline, equal, totalCost_append,
        Option.map_some, Option.getD_some]
      omega

/-- Gives turns until nobody asks for one, and goes on to the next time at which something is due
as long as that is waited for. -/
def proceed (outside : Outside ω) (waits : Server ω → Nat → Bool) (s : Server ω) : Server ω :=
  match _h : s.next? with
  | some (job, rest) => proceed outside waits (rest.turn outside job)
  | none =>
      match _h' : s.nextDue? with
      | none => s
      | some due => if waits s due then proceed outside waits (s.atTime due) else s
termination_by (s.unread.length, s.effort)
decreasing_by
  · exact turn_lessens outside _h
  · obtain ⟨same, less⟩ := atTime_lessens _h'
    rw [same]
    exact Prod.Lex.right _ less

def settle (outside : Outside ω) (s : Server ω) : Server ω :=
  s.proceed outside fun _ _ => false

def unlessEnded (s : Server ω) (f : Server ω → Server ω) : Server ω := if s.hasEnded then s else f s

def receive (outside : Outside ω) (bytes : List UInt8) (s : Server ω) : Server ω :=
  s.unlessEnded fun s =>
    ({ s with unread := s.unread ++ bytes, turns := 0 }.ask .read).settle outside

def endInput (outside : Outside ω) (s : Server ω) : Server ω :=
  s.unlessEnded fun s => ({ s with isClosed := true, turns := 0 }.ask .read).settle outside

def withTime (s : Server ω) (time : Nat) : Server ω :=
  { s with session := s.session.withPipeline fun pipeline => { pipeline with now := time } }

def advance (outside : Outside ω) (millis : Nat) (s : Server ω) : Server ω :=
  match s.session.pipeline? with
  | none => s
  | some pipeline =>
      let time := Agenda.after pipeline.now millis
      s.unlessEnded fun s => (s.proceed outside fun _ due => decide (due ≤ time)).withTime time

/-- Time passes until the outbox holds so many messages, or nothing is left to do. -/
def await (outside : Outside ω) (count : Nat) (s : Server ω) : Server ω :=
  s.proceed outside fun s _ => decide (s.outbox.length < count)

/-- The editor takes messages out of the outbox, the oldest first. -/
def collect (count : Nat) (s : Server ω) : List Json × Server ω :=
  (s.outbox.take count, { s with outbox := s.outbox.drop count })

def collectAll (s : Server ω) : List Json × Server ω := s.collect s.outbox.length

/-- A whole session over an input: the frames written, and how it ended. -/
def run (outside : Outside ω) (settings : Settings) (world : ω) (input : List UInt8) : Server ω :=
  (receive outside input (start settings world)).endInput outside

end AsmDiagnostics.Server
