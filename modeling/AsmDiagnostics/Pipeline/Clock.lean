import AsmDiagnostics.Pipeline.Legs

/-!
# A pipeline in time

The tasks on the agenda are performed when the clock reaches them, in the order of their times. A
task enters others of less weight only, so what is due at a time is performed in finitely many
steps.
-/

namespace AsmDiagnostics

variable {τ ω : Type}

/-- Events in the order they happened, and what they leave behind. -/
structure Progress (τ ω : Type) where
  events : List (Event τ)
  world : ω
  pipeline : Pipeline τ

namespace Pipeline

def weightOf : Agenda (Task τ) → Nat
  | [] => 0
  | entry :: rest => entry.action.weight + weightOf rest

theorem weightOf_add (due : Nat) (task : Task τ) (agenda : Agenda (Task τ)) :
    weightOf (agenda.add due task) = task.weight + weightOf agenda := by
  induction agenda with
  | nil => simp [weightOf, Agenda.add]
  | cons first rest ih =>
      unfold Agenda.add
      split
      · simp [weightOf]
      · simp only [weightOf, ih]
        omega

theorem weightOf_filter_le (keep : Planned (Task τ) → Bool) (agenda : Agenda (Task τ)) :
    weightOf (agenda.filter keep) ≤ weightOf agenda := by
  induction agenda with
  | nil => simp [weightOf]
  | cons first rest ih =>
      rw [List.filter_cons]
      split
      · simp only [weightOf]
        omega
      · simp only [weightOf]
        omega

theorem weightOf_plan (p : Pipeline τ) (delay : Nat) (task : Task τ) :
    weightOf (p.plan delay task).agenda = task.weight + weightOf p.agenda :=
  weightOf_add _ _ _

theorem weightOf_abortPush_le (p : Pipeline τ) (uri : Uri) :
    weightOf (p.abortPush uri).agenda ≤ weightOf p.agenda := by
  unfold abortPush
  split
  · exact weightOf_filter_le _ _
  · exact Nat.le_refl _

theorem weightOf_begin_le (p : Pipeline τ) (uri : Uri) (trigger : Trigger τ) :
    weightOf (p.begin uri trigger).2.agenda ≤ weightOf p.agenda :=
  weightOf_abortPush_le p uri

theorem weightOf_push_le (p : Pipeline τ) (uri : Uri) :
    weightOf (p.push uri).agenda ≤ 2 + weightOf p.agenda := by
  have begun := weightOf_begin_le p uri .push
  unfold push
  rw [weightOf_plan]
  exact Nat.add_le_add_left begun 2

theorem deliver_agenda (p : Pipeline τ) (run : Run τ) (diagnostics : List Diagnostic) :
    (p.deliver run diagnostics).2.agenda = p.agenda := by
  unfold deliver
  dsimp only
  split <;> rfl

theorem weightOf_launch_le (outside : Outside ω) (world : ω) (p : Pipeline τ) (run : Run τ)
    (workspace : Workspace) (document : DocumentRef) :
    weightOf (p.launch outside world run workspace document).pipeline.agenda ≤
      1 + weightOf p.agenda := by
  unfold launch
  dsimp only
  split
  · exact Nat.le_add_left _ _
  · rw [weightOf_plan]
    exact Nat.le_refl _

theorem weightOf_wake_le (p : Pipeline τ) (uri : Uri) (generation : Nat) :
    weightOf (p.wake uri generation).agenda ≤ 2 + weightOf p.agenda := by
  unfold wake
  dsimp only
  split
  · exact weightOf_push_le { p with debouncer := p.debouncer.wake uri generation } uri
  · exact Nat.le_add_left _ _

end Pipeline

def Pause.weight : Pause τ → Nat
  | .build .. => 5
  | .deliver .. => 1

/-- A bound of the legs that are still to come after a leg: three for each unit of weight on the
agenda, and those that follow the pause. -/
def Leg.weight (leg : Leg τ ω) : Nat :=
  3 * Pipeline.weightOf leg.pipeline.agenda + (leg.pause?.map Pause.weight).getD 0

namespace Pipeline

section Legs

variable (outside : Outside ω) (world : ω) (p : Pipeline τ) (run : Run τ)

theorem endLeg_weight (diagnostics : List Diagnostic) :
    (p.endLeg world run diagnostics).weight = 3 * weightOf p.agenda := by
  simp [Leg.weight, endLeg, deliver_agenda]

theorem finishLeg_weight_le (document : DocumentRef) (result : Build.Result) :
    (p.finishLeg world run document result).weight ≤ 3 * weightOf p.agenda + 1 := by
  unfold finishLeg
  split
  · rw [endLeg_weight]
    exact Nat.le_succ _
  · exact Nat.le_refl _

theorem startLeg_weight_le : (p.startLeg world run).weight ≤ 3 * weightOf p.agenda + 5 := by
  unfold startLeg
  split
  · rw [endLeg_weight]
    exact Nat.le_add_right _ _
  · exact Nat.le_refl _

theorem goOn_weight_lt (pause : Pause τ) :
    (p.goOn outside world pause).weight < 3 * weightOf p.agenda + pause.weight := by
  cases pause with
  | deliver run diagnostics =>
      rw [goOn, endLeg_weight]
      exact Nat.lt_succ_self _
  | build run workspace document =>
      have launched := weightOf_launch_le outside world p run workspace document
      unfold goOn buildLeg Pause.weight
      dsimp only
      split
      · simp only [Leg.weight, Option.map_none, Option.getD_none]
        omega
      · exact Nat.lt_of_le_of_lt (finishLeg_weight_le _ _ run document _) (by omega)

theorem legOf_weight_lt (task : Task τ) :
    (p.legOf world task).weight < 3 * (task.weight + weightOf p.agenda) := by
  cases task with
  | wake uri generation =>
      have woken := weightOf_wake_le p uri generation
      simp only [Leg.weight, legOf, Option.map_none, Option.getD_none, Task.weight]
      omega
  | ask uri ticket =>
      have begun := weightOf_begin_le p uri (.pull ticket)
      have started := startLeg_weight_le world (p.begin uri (.pull ticket)).2
        (p.begin uri (.pull ticket)).1
      exact Nat.lt_of_le_of_lt started (by simp only [Task.weight]; omega)
  | start run =>
      have started := startLeg_weight_le world p run
      exact Nat.lt_of_le_of_lt started (by simp only [Task.weight]; omega)
  | finish run document result =>
      have finished := finishLeg_weight_le world p run document result
      exact Nat.lt_of_le_of_lt finished (by simp only [Task.weight]; omega)

theorem onward_weight_le (leg : Leg τ ω) : (leg.onward outside).weight ≤ leg.weight := by
  obtain ⟨told, world, p, pause?⟩ := leg
  cases pause? with
  | none => exact Nat.le_refl _
  | some pause => exact Nat.le_of_lt (goOn_weight_lt outside world p pause)

/-- What a task leaves on the agenda weighs less than the task. -/
theorem weightOf_perform_lt (task : Task τ) :
    weightOf (p.perform outside world task).pipeline.agenda < task.weight + weightOf p.agenda := by
  have first := legOf_weight_lt world p task
  have whole : (p.perform outside world task).weight ≤ (p.legOf world task).weight :=
    Nat.le_trans (onward_weight_le outside _) (onward_weight_le outside _)
  unfold Leg.weight at first whole
  omega

end Legs

def next? (p : Pipeline τ) (time : Nat) : Option (Task τ × Pipeline τ) :=
  (p.agenda.next? time).map fun found =>
    (found.1.action, { p with now := found.1.due, agenda := found.2 })

theorem weightOf_next? {p rest : Pipeline τ} {time : Nat} {task : Task τ}
    (h : p.next? time = some (task, rest)) :
    weightOf p.agenda = task.weight + weightOf rest.agenda := by
  unfold next? Agenda.next? at h
  split at h
  · simp at h
  · rename_i first others same
    split at h
    · simp only [Option.map_some, Option.some.injEq, Prod.mk.injEq] at h
      obtain ⟨action, remaining⟩ := h
      rw [same, ← action, ← remaining]
      simp [weightOf]
    · simp at h

def runUntil (outside : Outside ω) (time : Nat) (world : ω) (p : Pipeline τ) : Progress τ ω :=
  match _h : p.next? time with
  | none => ⟨[], world, { p with now := time }⟩
  | some (task, rest) =>
      let step := rest.perform outside world task
      let others := runUntil outside time step.world step.pipeline
      ⟨step.events ++ others.events, others.world, others.pipeline⟩
termination_by weightOf p.agenda
decreasing_by
  rw [weightOf_next? _h]
  exact weightOf_perform_lt outside world rest task

def settle (outside : Outside ω) (world : ω) (p : Pipeline τ) : Progress τ ω :=
  p.runUntil outside p.now world

/-- Moves the clock on, and performs what comes due on the way. -/
def advance (outside : Outside ω) (millis : Nat) (world : ω) (p : Pipeline τ) : Progress τ ω :=
  p.runUntil outside (Agenda.after p.now millis) world

def nextTime (p : Pipeline τ) : Nat := (p.agenda.head?.map Planned.due).getD p.now

/-- Performs one task after another, the clock following, until so many events of a kind have
happened or nothing is left to do. -/
def runFor (outside : Outside ω) (counts : Event τ → Bool) (count : Nat) (world : ω)
    (p : Pipeline τ) : Progress τ ω :=
  if count = 0 then ⟨[], world, p⟩
  else
    match _h : p.next? p.nextTime with
    | none => ⟨[], world, p⟩
    | some (task, rest) =>
        let step := rest.perform outside world task
        let others := runFor outside counts (count - step.events.countP counts) step.world
          step.pipeline
        ⟨step.events ++ others.events, others.world, others.pipeline⟩
termination_by weightOf p.agenda
decreasing_by
  rw [weightOf_next? _h]
  exact weightOf_perform_lt outside world rest task

end Pipeline

end AsmDiagnostics
