import AsmDiagnostics.Proofs.Pipeline.Tidy

/-!
# Acts

Calls, time that passes, changes of the world outside and the legs of all runs follow each other in
any order.  A push that is superseded while it pauses never goes on.  If no run has to wait for the
editor, the acts of a move are that move.
-/

namespace AsmDiagnostics

variable {τ ω : Type}

/-- A call from the editor's side. -/
inductive Call (τ : Type) where
  | change (uri : Uri) (version : Int)
  | close (uri : Uri)
  | push (uri : Uri)
  | pull (uri : Uri) (ticket : τ)
  | shutdown
  deriving DecidableEq, Repr

namespace Pipeline

def obey (p : Pipeline τ) : Call τ → Pipeline τ
  | .change uri version => p.change uri version
  | .close uri => p.close uri
  | .push uri => p.push uri
  | .pull uri ticket => p.pull uri ticket
  | .shutdown => p.shutdown

def tellCall (p : Pipeline τ) : Call τ → List (Happening τ)
  | .change .. => []
  | .close uri => [.closed uri]
  | .push uri => [.begun p.now (p.begin uri .push).1]
  | .pull .. => []
  | .shutdown => [.stopped]

end Pipeline

/-- A pipeline in its world, and the runs that pause. -/
structure Stage (τ ω : Type) where
  world : ω
  pipeline : Pipeline τ
  pauses : List (Pause τ)

/-- One act: a call, time that passes, a change of the world outside, the first leg of the task at a
place of the agenda, or the next leg of the run that pauses at a place. -/
inductive Act (τ ω : Type) where
  | call (call : Call τ)
  | wait (millis : Nat)
  | alter (world : ω)
  | perform (place : Nat)
  | resume (place : Nat)
  deriving DecidableEq, Repr

namespace Stage

def start (workspace? : Option Workspace) (window : Nat) (world : ω) : Stage τ ω :=
  ⟨world, Pipeline.start workspace? window, []⟩

/-- The stage with a new world and a new pipeline. A push that has been superseded is aborted where
it pauses. -/
def become (world : ω) (p : Pipeline τ) (pauses : List (Pause τ)) : Stage τ ω :=
  ⟨world, p, pauses.filter fun pause => !p.isSuperseded pause.run⟩

def walk (pauses : List (Pause τ)) (leg : Leg τ ω) : List (Happening τ) × Stage τ ω :=
  (leg.told, become leg.world leg.pipeline (pauses ++ leg.pause?.toList))

def without (s : Stage τ ω) (place : Nat) : Pipeline τ :=
  { s.pipeline with agenda := s.pipeline.agenda.eraseIdx place }

def act (outside : Outside ω) (s : Stage τ ω) : Act τ ω → List (Happening τ) × Stage τ ω
  | .call call => (s.pipeline.tellCall call, become s.world (s.pipeline.obey call) s.pauses)
  | .wait millis =>
      ([], { s with pipeline := { s.pipeline with now := s.pipeline.now + millis } })
  | .alter world => ([], { s with world := world })
  | .perform place =>
      match s.pipeline.agenda[place]? with
      | none => ([], s)
      | some entry => walk s.pauses ((s.without place).legOf s.world entry.action)
  | .resume place =>
      match s.pauses[place]? with
      | none => ([], s)
      | some pause => walk (s.pauses.eraseIdx place) (s.pipeline.goOn outside s.world pause)

def play (outside : Outside ω) (s : Stage τ ω) : List (Act τ ω) → List (Happening τ) × Stage τ ω
  | [] => ([], s)
  | act :: acts =>
      let (happenings, next) := s.act outside act
      let (others, last) := next.play outside acts
      (happenings ++ others, last)

@[simp] theorem play_nil (outside : Outside ω) (s : Stage τ ω) : s.play outside [] = ([], s) := rfl

@[simp] theorem play_cons (outside : Outside ω) (s : Stage τ ω) (act : Act τ ω)
    (acts : List (Act τ ω)) :
    s.play outside (act :: acts) =
      ((s.act outside act).1 ++ ((s.act outside act).2.play outside acts).1,
        ((s.act outside act).2.play outside acts).2) := rfl

theorem play_append (outside : Outside ω) (s : Stage τ ω) (before after : List (Act τ ω)) :
    s.play outside (before ++ after) =
      ((s.play outside before).1 ++ ((s.play outside before).2.play outside after).1,
        ((s.play outside before).2.play outside after).2) := by
  induction before generalizing s with
  | nil => rfl
  | cons act before ih => simp [ih, List.append_assoc]

/-- Nothing happens at a place behind the end of the agenda. -/
theorem act_perform (outside : Outside ω) (s : Stage τ ω) (place : Nat) :
    s.act outside (.perform place) = ([], s) ∨
      ∃ entry, s.pipeline.agenda[place]? = some entry ∧ s.act outside (.perform place) =
        walk s.pauses ((s.without place).legOf s.world entry.action) := by
  cases found : s.pipeline.agenda[place]? with
  | none => exact .inl (by simp [act, found])
  | some entry => exact .inr ⟨entry, rfl, by simp [act, found]⟩

theorem act_resume (outside : Outside ω) (s : Stage τ ω) (place : Nat) :
    s.act outside (.resume place) = ([], s) ∨
      ∃ pause, s.pauses[place]? = some pause ∧ s.act outside (.resume place) =
        walk (s.pauses.eraseIdx place) (s.pipeline.goOn outside s.world pause) := by
  cases found : s.pauses[place]? with
  | none => exact .inl (by simp [act, found])
  | some pause => exact .inr ⟨pause, rfl, by simp [act, found]⟩

/-- What every act keeps holds at the end if it holds at the start. -/
theorem play_keeps (outside : Outside ω) (Keeps : List (Happening τ) → Stage τ ω → Prop)
    (step : ∀ history s act, Keeps history s →
      Keeps (history ++ (s.act outside act).1) (s.act outside act).2)
    (history : List (Happening τ)) {s : Stage τ ω} (h : Keeps history s) (acts : List (Act τ ω)) :
    Keeps (history ++ (s.play outside acts).1) (s.play outside acts).2 := by
  induction acts generalizing history s with
  | nil => simpa using h
  | cons act acts ih =>
      have kept := ih _ (step history s act h)
      rw [List.append_assoc] at kept
      exact kept

end Stage

/-! ## An editor that takes everything at once -/

/-- A run that pauses has not been superseded. -/
def Leg.Wanted (leg : Leg τ ω) : Prop :=
  ∀ pause, leg.pause? = some pause → leg.pipeline.isSuperseded pause.run = false

namespace Pipeline

variable (outside : Outside ω) (world : ω) {p : Pipeline τ} {run : Run τ}

theorem endLeg_wanted (diagnostics : List Diagnostic) :
    (p.endLeg world run diagnostics).Wanted := fun _ pauses => nomatch pauses

theorem startLeg_wanted (current : p.isSuperseded run = false) :
    (p.startLeg world run).Wanted := by
  unfold startLeg
  split
  · exact endLeg_wanted world []
  · rintro pause ⟨⟩
    exact current

theorem finishLeg_wanted (current : p.isSuperseded run = false) (document : DocumentRef)
    (result : Build.Result) : (p.finishLeg world run document result).Wanted := by
  unfold finishLeg
  split
  · exact endLeg_wanted world _
  · rintro pause ⟨⟩
    exact current

theorem launch_inFlight (workspace : Workspace) (document : DocumentRef) :
    (p.launch outside world run workspace document).pipeline.inFlight = p.inFlight := by
  unfold launch
  dsimp only
  split <;> rfl

theorem goOn_wanted {pause : Pause τ} (current : p.isSuperseded pause.run = false) :
    (p.goOn outside world pause).Wanted := by
  cases pause with
  | build run workspace document =>
      unfold goOn buildLeg
      dsimp only
      split
      · exact fun _ pauses => nomatch pauses
      · refine finishLeg_wanted _ ?_ document _
        unfold isSuperseded
        rw [launch_inFlight]
        exact current
  | deliver run diagnostics => exact endLeg_wanted world diagnostics

theorem legOf_wanted {task : Task τ}
    (current : ∀ run, task.run? = some run → p.isSuperseded run = false) :
    (p.legOf world task).Wanted := by
  cases task with
  | wake uri generation => exact fun _ pauses => nomatch pauses
  | ask uri ticket => exact startLeg_wanted (p := (p.begin uri (.pull ticket)).2) world rfl
  | start run => exact startLeg_wanted world (current run rfl)
  | finish run document result => exact finishLeg_wanted world (current run rfl) document result

end Pipeline

namespace Leg

variable (outside : Outside ω) {leg : Leg τ ω}

theorem Wanted.onward (wanted : leg.Wanted) : (leg.onward outside).Wanted := by
  unfold Leg.onward
  split
  · exact wanted
  · rename_i pause pauses
    exact Pipeline.goOn_wanted outside leg.world (wanted pause pauses)

/-- A run that alone pauses goes on. -/
theorem Wanted.resume (wanted : leg.Wanted) :
    let played := Stage.walk [] leg
    (played.1 ++ (played.2.act outside (.resume 0)).1, (played.2.act outside (.resume 0)).2) =
      Stage.walk [] (leg.onward outside) := by
  obtain ⟨told, world, p, pause?⟩ := leg
  cases pause? with
  | none => simp [Stage.walk, Stage.become, Stage.act, Leg.onward]
  | some pause =>
      have stays : p.isSuperseded pause.run = false := wanted pause rfl
      simp [Stage.walk, Stage.become, Stage.act, Leg.onward, Leg.after, stays]

end Leg

def Move.acts : Move τ ω → List (Act τ ω)
  | .change uri version => [.call (.change uri version)]
  | .close uri => [.call (.close uri)]
  | .push uri => [.call (.push uri)]
  | .pull uri ticket => [.call (.pull uri ticket)]
  | .shutdown => [.call .shutdown]
  | .wait millis => [.wait millis]
  | .alter world => [.alter world]
  | .perform place => [.perform place, .resume 0, .resume 0]
  | .late _ => []

namespace Scene

def stage (s : Scene τ ω) : Stage τ ω := ⟨s.world, s.pipeline, []⟩

variable (outside : Outside ω) {s : Scene τ ω}

/-- The run of a task on a tidy agenda has not been superseded. -/
theorem current_of_tidy (tidy : s.pipeline.Tidy) {entry : Planned (Task τ)}
    (member : entry ∈ s.pipeline.agenda) {run : Run τ} (own : entry.action.run? = some run) :
    s.pipeline.isSuperseded run = false := by
  cases trigger : run.trigger with
  | pull ticket => simp [Pipeline.isSuperseded, trigger, Trigger.isPush]
  | push =>
      have current := tidy.live run (Pipeline.mem_carried.mpr ⟨entry, member, own⟩) trigger
      simp [Pipeline.isSuperseded, InFlight.isCurrent, current]

/-- The legs of a task, one right after the other, are the task in one piece. -/
theorem stage_perform (tidy : s.pipeline.Tidy) (place : Nat) :
    s.stage.play outside [.perform place, .resume 0, .resume 0] =
      ((s.move outside (.perform place)).1, (s.move outside (.perform place)).2.stage) := by
  cases found : s.pipeline.agenda[place]? with
  | none => simp [Stage.act, move, stage, found]
  | some entry =>
      have wanted : ((s.without place).legOf s.world entry.action).Wanted :=
        Pipeline.legOf_wanted s.world fun run own =>
          current_of_tidy tidy (List.mem_of_getElem? found) own
      have first := wanted.resume outside
      have second := (wanted.onward outside).resume outside
      have begins : s.stage.act outside (.perform place) =
          Stage.walk [] ((s.without place).legOf s.world entry.action) := by
        simp [Stage.act, stage, found, Stage.without, without]
      have played : s.stage.play outside [.perform place, .resume 0, .resume 0] =
          Stage.walk [] ((s.without place).perform outside s.world entry.action) := by
        rw [Pipeline.perform, Leg.whole, ← second, ← first]
        simp [begins, List.append_assoc]
      have ended := (s.without place).perform_ended outside s.world entry.action
      rw [played]
      simp [Stage.walk, Stage.become, ended, move, found, performed, stage, Scene.become]

/-- A move without late aborts, leg by leg. -/
theorem stage_move (tidy : s.pipeline.Tidy) {move : Move τ ω} (prompt : move.IsPrompt) :
    s.stage.play outside move.acts = ((s.move outside move).1, (s.move outside move).2.stage) := by
  cases move with
  | perform place => exact stage_perform outside tidy place
  | late place => exact prompt.elim
  | _ => rfl

/-- Every story without late aborts, leg by leg. -/
theorem stage_play (tidy : s.pipeline.Tidy) {moves : List (Move τ ω)}
    (prompt : ∀ move ∈ moves, move.IsPrompt) :
    s.stage.play outside (moves.flatMap Move.acts) =
      ((s.play outside moves).1, (s.play outside moves).2.stage) := by
  induction moves generalizing s with
  | nil => rfl
  | cons move moves ih =>
      rw [List.forall_mem_cons] at prompt
      rw [List.flatMap_cons, Stage.play_append, stage_move outside tidy prompt.1,
        ih (tidy_move outside tidy prompt.1) prompt.2, play_cons]

end Scene

end AsmDiagnostics
