import AsmDiagnostics.Proofs.Pipeline.Flights

/-!
# Stories

A story is a list of moves: calls from the editor's side, time that passes, changes of the world
outside, and tasks that are performed, in any order.  Playing a story gives the history of what
happened.  Besides the events that can be seen outside, the history records every trigger, every
close, and what each build comes to when it starts.

A task that was taken off the agenda may still be performed by a `late` move, which stands for an
abort that comes too late.  A timely story has no such move, and its clock never passes a task that
waits; of several tasks for one time any may be first.
-/

namespace AsmDiagnostics

namespace Happening

variable {τ : Type}

def generation? : Happening τ → Option Nat
  | .begun _ run => some run.generation
  | _ => none

/-- A trigger or a close of a document, or the end of the session. -/
def Disturbs (uri : Uri) : Happening τ → Prop
  | .begun _ run => run.uri = uri
  | .closed other => other = uri
  | .stopped => True
  | .started .. => False
  | .seen _ => False

end Happening

/-- One move of a story. -/
inductive Move (τ ω : Type) where
  | change (uri : Uri) (version : Int)
  | close (uri : Uri)
  | push (uri : Uri)
  | pull (uri : Uri) (ticket : τ)
  | shutdown
  /-- Time passes; nothing is performed by that alone. -/
  | wait (millis : Nat)
  /-- The world outside becomes another one. -/
  | alter (world : ω)
  /-- The task at a place of the agenda is taken off it and performed. -/
  | perform (place : Nat)
  /-- A task that was entered at some time is performed, wherever it is now. -/
  | late (place : Nat)

/-- A pipeline in its world, and all tasks that were ever on its agenda. -/
structure Scene (τ ω : Type) where
  world : ω
  pipeline : Pipeline τ
  entered : List (Task τ)

namespace Scene

variable {τ ω : Type}

def start (workspace? : Option Workspace) (window : Nat) (world : ω) : Scene τ ω :=
  ⟨world, Pipeline.start workspace? window, []⟩

def become (s : Scene τ ω) (world : ω) (p : Pipeline τ) : Scene τ ω :=
  ⟨world, p, s.entered ++ p.agenda.map Planned.action⟩

def performed (outside : Outside ω) (s : Scene τ ω) (p : Pipeline τ) (task : Task τ) :
    List (Happening τ) × Scene τ ω :=
  let leg := p.perform outside s.world task
  (leg.told, s.become leg.world leg.pipeline)

def without (s : Scene τ ω) (place : Nat) : Pipeline τ :=
  { s.pipeline with agenda := s.pipeline.agenda.eraseIdx place }

def move (outside : Outside ω) (s : Scene τ ω) : Move τ ω → List (Happening τ) × Scene τ ω
  | .change uri version => ([], s.become s.world (s.pipeline.change uri version))
  | .close uri => ([.closed uri], s.become s.world (s.pipeline.close uri))
  | .push uri =>
      ([.begun s.pipeline.now (s.pipeline.begin uri .push).1],
        s.become s.world (s.pipeline.push uri))
  | .pull uri ticket => ([], s.become s.world (s.pipeline.pull uri ticket))
  | .shutdown => ([.stopped], s.become s.world s.pipeline.shutdown)
  | .wait millis =>
      ([], { s with pipeline := { s.pipeline with now := s.pipeline.now + millis } })
  | .alter world => ([], { s with world := world })
  | .perform place =>
      match s.pipeline.agenda[place]? with
      | none => ([], s)
      | some entry => s.performed outside (s.without place) entry.action
  | .late place =>
      match s.entered[place]? with
      | none => ([], s)
      | some task => s.performed outside s.pipeline task

/-- The history of a story, and the scene in which it ends. -/
def play (outside : Outside ω) (s : Scene τ ω) : List (Move τ ω) → List (Happening τ) × Scene τ ω
  | [] => ([], s)
  | move :: moves =>
      let (happenings, next) := s.move outside move
      let (others, last) := next.play outside moves
      (happenings ++ others, last)

@[simp] theorem play_nil (outside : Outside ω) (s : Scene τ ω) : s.play outside [] = ([], s) := rfl

@[simp] theorem play_cons (outside : Outside ω) (s : Scene τ ω) (move : Move τ ω)
    (moves : List (Move τ ω)) :
    s.play outside (move :: moves) =
      ((s.move outside move).1 ++ ((s.move outside move).2.play outside moves).1,
        ((s.move outside move).2.play outside moves).2) := rfl

theorem play_append (outside : Outside ω) (s : Scene τ ω) (before after : List (Move τ ω)) :
    s.play outside (before ++ after) =
      ((s.play outside before).1 ++ ((s.play outside before).2.play outside after).1,
        ((s.play outside before).2.play outside after).2) := by
  induction before generalizing s with
  | nil => rfl
  | cons move before ih => simp [ih, List.append_assoc]

/-- Nothing happens at a place behind the end of the agenda. -/
theorem move_perform (outside : Outside ω) (s : Scene τ ω) (place : Nat) :
    s.move outside (.perform place) = ([], s) ∨
      ∃ entry, s.pipeline.agenda[place]? = some entry ∧
        s.move outside (.perform place) =
          s.performed outside (s.without place) entry.action := by
  cases found : s.pipeline.agenda[place]? with
  | none => exact .inl (by simp [move, found])
  | some entry => exact .inr ⟨entry, rfl, by simp [move, found]⟩

theorem move_late (outside : Outside ω) (s : Scene τ ω) (place : Nat) :
    s.move outside (.late place) = ([], s) ∨
      ∃ task ∈ s.entered, s.move outside (.late place) = s.performed outside s.pipeline task := by
  cases found : s.entered[place]? with
  | none => exact .inl (by simp [move, found])
  | some task => exact .inr ⟨task, List.mem_of_getElem? found, by simp [move, found]⟩

/-- What every move keeps holds at the end of a story if it holds at its start. -/
theorem play_keeps (outside : Outside ω) (Keeps : List (Happening τ) → Scene τ ω → Prop)
    (step : ∀ history s move, Keeps history s →
      Keeps (history ++ (s.move outside move).1) (s.move outside move).2)
    (history : List (Happening τ)) {s : Scene τ ω} (h : Keeps history s)
    (moves : List (Move τ ω)) :
    Keeps (history ++ (s.play outside moves).1) (s.play outside moves).2 := by
  induction moves generalizing history s with
  | nil => simpa using h
  | cons move moves ih =>
      have kept := ih _ (step history s move h)
      rw [List.append_assoc] at kept
      exact kept

/-- No move changes the workspace or the window. -/
theorem frame_move (outside : Outside ω) (s : Scene τ ω) (move : Move τ ω) :
    (s.move outside move).2.pipeline.workspace? = s.pipeline.workspace? ∧
      (s.move outside move).2.pipeline.window = s.pipeline.window := by
  cases move with
  | close uri =>
      exact ⟨Pipeline.abortPush_workspace? _ uri, Pipeline.abortPush_window _ uri⟩
  | push uri => exact ⟨Pipeline.begin_workspace? _ uri .push, Pipeline.begin_window _ uri .push⟩
  | shutdown => exact ⟨Pipeline.shutdown_workspace? _, Pipeline.shutdown_window _⟩
  | perform place =>
      rcases move_perform outside s place with nothing | ⟨entry, -, performed⟩
      · rw [nothing]
        exact ⟨rfl, rfl⟩
      · rw [performed]
        exact (Pipeline.perform_frame outside s.world (s.without place) entry.action).2
  | late place =>
      rcases move_late outside s place with nothing | ⟨task, -, performed⟩
      · rw [nothing]
        exact ⟨rfl, rfl⟩
      · rw [performed]
        exact (Pipeline.perform_frame outside s.world s.pipeline task).2
  | _ => exact ⟨rfl, rfl⟩

theorem frame_play (outside : Outside ω) (s : Scene τ ω) (moves : List (Move τ ω)) :
    (s.play outside moves).2.pipeline.workspace? = s.pipeline.workspace? ∧
      (s.play outside moves).2.pipeline.window = s.pipeline.window := by
  induction moves generalizing s with
  | nil => exact ⟨rfl, rfl⟩
  | cons move moves ih =>
      obtain ⟨workspace, window⟩ := frame_move outside s move
      obtain ⟨lastWorkspace, lastWindow⟩ := ih (s.move outside move).2
      exact ⟨lastWorkspace.trans workspace, lastWindow.trans window⟩

end Scene

/-! ## A small world -/

namespace Sample

def uri : Uri := ⟨"file:///w/a", "file", "", "/w/a"⟩

def workspace : Workspace := ⟨⟨Text.bytesOf "/w"⟩, Settings.default⟩

/-- A world in which every build takes five milliseconds and prints nothing. -/
def outside : Outside Unit where
  pathExists _ _ := false
  build world _ := (⟨true, "", none⟩, 5, world)

def story (window : Nat) (moves : List (Move Unit Unit)) :
    List (Happening Unit) × Scene Unit Unit :=
  (Scene.start (some workspace) window ()).play outside moves

end Sample

end AsmDiagnostics
