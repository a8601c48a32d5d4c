import AsmDiagnostics.Proofs.Pipeline.Story

/-!
# Timely stories

In a timely story the clock never passes a task that waits, so that each task is performed at the
very time for which it was entered.  The clock of the pipeline itself plays such stories, and every
timely story can go on, by time alone, until nothing waits any more.
-/

namespace AsmDiagnostics

variable {τ ω : Type}

/-- The clock passes no task, and no task is performed before its time or after it was taken off. -/
def Move.IsTimely (s : Scene τ ω) : Move τ ω → Prop
  | .wait millis => ∀ entry ∈ s.pipeline.agenda, s.pipeline.now + millis ≤ entry.due
  | .perform place =>
      ∀ entry, s.pipeline.agenda[place]? = some entry → entry.due ≤ s.pipeline.now
  | .late _ => False
  | _ => True

/-- Only time passes, and what waits is performed. -/
def Move.IsPassing : Move τ ω → Prop
  | .wait _ => True
  | .perform _ => True
  | _ => False

/-- Of the tasks that wait the first one is performed. -/
def Move.IsInOrder : Move τ ω → Prop
  | .perform place => place = 0
  | _ => True

def Scene.Timely (outside : Outside ω) (s : Scene τ ω) : List (Move τ ω) → Prop
  | [] => True
  | move :: moves => move.IsTimely s ∧ (s.move outside move).2.Timely outside moves

instance (s : Scene τ ω) : (move : Move τ ω) → Decidable (move.IsTimely s)
  | .wait millis => inferInstanceAs
      (Decidable (∀ entry ∈ s.pipeline.agenda, s.pipeline.now + millis ≤ entry.due))
  | .perform place => decidable_of_iff
      (∀ entry ∈ s.pipeline.agenda[place]?.toList, entry.due ≤ s.pipeline.now)
      (by simp [Move.IsTimely])
  | .late _ => inferInstanceAs (Decidable False)
  | .change .. | .close _ | .push _ | .pull .. | .shutdown | .alter _ =>
      inferInstanceAs (Decidable True)

instance Scene.decidableTimely (outside : Outside ω) :
    (s : Scene τ ω) → (moves : List (Move τ ω)) → Decidable (s.Timely outside moves)
  | _, [] => inferInstanceAs (Decidable True)
  | s, move :: moves =>
      have := Scene.decidableTimely outside (s.move outside move).2 moves
      inferInstanceAs (Decidable (move.IsTimely s ∧ (s.move outside move).2.Timely outside moves))

theorem Scene.timely_append (outside : Outside ω) (s : Scene τ ω) (before after : List (Move τ ω)) :
    s.Timely outside (before ++ after) ↔
      s.Timely outside before ∧ (s.play outside before).2.Timely outside after := by
  induction before generalizing s with
  | nil => simp [Scene.Timely]
  | cons move before ih => simp [Scene.Timely, ih, and_assoc]

/-- What every timely move keeps holds at the end of a timely story if it holds at its start. -/
theorem Scene.timely_keeps (outside : Outside ω) (Keeps : List (Happening τ) → Scene τ ω → Prop)
    (step : ∀ history s move, Move.IsTimely s move → Keeps history s →
      Keeps (history ++ (s.move outside move).1) (s.move outside move).2)
    (history : List (Happening τ)) {s : Scene τ ω} (h : Keeps history s)
    {moves : List (Move τ ω)} (timely : s.Timely outside moves) :
    Keeps (history ++ (s.play outside moves).1) (s.play outside moves).2 := by
  induction moves generalizing history s with
  | nil => simpa using h
  | cons move moves ih =>
      have kept := ih _ (step history s move timely.1 h) timely.2
      rw [List.append_assoc] at kept
      exact kept

namespace Pipeline

/-- The agenda is in order, and nothing on it should have happened already. -/
structure OnTime (p : Pipeline τ) : Prop where
  ordered : Agenda.Ordered p.agenda
  ahead : ∀ entry ∈ p.agenda, p.now ≤ entry.due

namespace OnTime

theorem of_sublist {p rest : Pipeline τ} (h : p.OnTime) (fewer : rest.agenda.Sublist p.agenda)
    (now : rest.now = p.now) : rest.OnTime :=
  ⟨h.ordered.sublist fewer, fun entry member => now ▸ h.ahead entry (fewer.subset member)⟩

theorem plan {p : Pipeline τ} (h : p.OnTime) (delay : Nat) (task : Task τ) :
    (p.plan delay task).OnTime := by
  refine ⟨Agenda.add_ordered h.ordered, ?_⟩
  intro entry member
  rcases (mem_plan p delay task entry).mp member with rfl | old
  · exact Agenda.le_after _ _
  · exact h.ahead entry old

theorem begin {p : Pipeline τ} (h : p.OnTime) (uri : Uri) (trigger : Trigger τ) :
    (p.begin uri trigger).2.OnTime :=
  h.of_sublist (abortPush_sublist p uri) (begin_now p uri trigger)

theorem push {p : Pipeline τ} (h : p.OnTime) (uri : Uri) : (p.push uri).OnTime :=
  (h.begin uri .push).plan 0 _

theorem execute {p : Pipeline τ} (h : p.OnTime) (outside : Outside ω) (world : ω) (run : Run τ) :
    (p.execute outside world run).pipeline.OnTime := by
  have finished : (p.finished run).OnTime := h.of_sublist (List.Sublist.refl _) rfl
  rcases execute_cases outside world p run with ⟨-, executed⟩ |
    ⟨_, document, _, result, delay, _, -, -, -, ⟨-, executed⟩ | ⟨-, executed⟩⟩
  · rw [executed]
    exact finished
  · rw [executed]
    exact finished
  · rw [executed]
    exact h.plan delay _

theorem perform {p : Pipeline τ} (h : p.OnTime) (outside : Outside ω) (world : ω)
    (task : Task τ) : (p.perform outside world task).pipeline.OnTime := by
  cases task with
  | wake uri generation =>
      have woken : OnTime { p with debouncer := p.debouncer.wake uri generation } :=
        ⟨h.ordered, h.ahead⟩
      simp only [Pipeline.perform_wake, Pipeline.wake]
      split
      · exact woken.push uri
      · exact woken
  | ask uri ticket =>
      rw [perform_ask]
      exact (h.begin uri (.pull ticket)).execute outside world _
  | start run => exact h.execute outside world run
  | finish run document result =>
      rw [perform_finish]
      exact ⟨h.ordered, h.ahead⟩

end OnTime

end Pipeline

namespace Scene

variable (outside : Outside ω)

theorem without_onTime {s : Scene τ ω} (h : s.pipeline.OnTime) (place : Nat) :
    (s.without place).OnTime :=
  h.of_sublist (List.eraseIdx_sublist _ _) rfl

theorem onTime_move {s : Scene τ ω} {move : Move τ ω} (timely : move.IsTimely s)
    (h : s.pipeline.OnTime) : (s.move outside move).2.pipeline.OnTime := by
  cases move with
  | change uri version =>
      have held : Pipeline.OnTime
          { s.pipeline with debouncer := s.pipeline.debouncer.schedule uri version } :=
        ⟨h.ordered, h.ahead⟩
      exact held.plan _ _
  | close uri =>
      exact h.of_sublist (Pipeline.abortPush_sublist s.pipeline uri)
        (Pipeline.abortPush_now s.pipeline uri)
  | push uri => exact h.push uri
  | pull uri ticket => exact h.plan 0 _
  | shutdown =>
      exact h.of_sublist (Pipeline.shutdown_sublist s.pipeline) (Pipeline.shutdown_now s.pipeline)
  | wait millis => exact ⟨h.ordered, timely⟩
  | alter world => exact h
  | perform place =>
      rcases move_perform outside s place with nothing | ⟨entry, -, performed⟩
      · rw [nothing]
        exact h
      · rw [performed]
        exact (without_onTime h place).perform outside s.world entry.action
  | late place => exact timely.elim

theorem onTime_play {s : Scene τ ω} (h : s.pipeline.OnTime) {moves : List (Move τ ω)}
    (timely : s.Timely outside moves) : (s.play outside moves).2.pipeline.OnTime :=
  timely_keeps outside (fun _ s => s.pipeline.OnTime)
    (fun _ _ _ timely h => onTime_move outside timely h) [] h timely

theorem start_onTime (workspace? : Option Workspace) (window : Nat) (world : ω) :
    (start workspace? window world : Scene τ ω).pipeline.OnTime :=
  ⟨List.Pairwise.nil, fun _ member => nomatch member⟩

/-! ## The next task -/

/-- Time passes until the first task of the agenda is due, and that task is performed. -/
def nextMoves (s : Scene τ ω) (entry : Planned (Task τ)) : List (Move τ ω) :=
  [.wait (entry.due - s.pipeline.now), .perform 0]

theorem nextMoves_isPassing (s : Scene τ ω) (entry : Planned (Task τ)) :
    ∀ move ∈ s.nextMoves entry, move.IsPassing ∧ move.IsInOrder := by
  intro move member
  simp only [nextMoves, List.mem_cons, List.not_mem_nil, or_false] at member
  rcases member with rfl | rfl
  · exact ⟨trivial, trivial⟩
  · exact ⟨trivial, rfl⟩

theorem nextMoves_timely {s : Scene τ ω} (h : s.pipeline.OnTime) {entry : Planned (Task τ)}
    {rest : Agenda (Task τ)} (agenda : s.pipeline.agenda = entry :: rest) :
    s.Timely outside (s.nextMoves entry) := by
  have first : s.pipeline.now ≤ entry.due := h.ahead entry (agenda ▸ List.mem_cons_self)
  have reached : s.pipeline.now + (entry.due - s.pipeline.now) = entry.due :=
    Nat.add_sub_cancel' first
  refine ⟨?_, ?_, trivial⟩
  · intro other member
    rw [reached]
    have ordered := h.ordered
    unfold Agenda.Ordered at ordered
    rw [agenda] at member ordered
    rcases List.mem_cons.mp member with rfl | later
    · exact Nat.le_refl _
    · exact (List.pairwise_cons.mp ordered).1 other later
  · intro other found
    have same : entry = other := by simpa [move, agenda] using found
    simpa [move, reached, same] using Nat.le_of_eq reached.symm

theorem play_nextMoves {s : Scene τ ω} (h : s.pipeline.OnTime) {entry : Planned (Task τ)}
    {rest : Agenda (Task τ)} (agenda : s.pipeline.agenda = entry :: rest) :
    s.play outside (s.nextMoves entry) =
      s.performed outside { s.pipeline with now := entry.due, agenda := rest } entry.action := by
  have first : s.pipeline.now ≤ entry.due := h.ahead entry (agenda ▸ List.mem_cons_self)
  simp [nextMoves, move, performed, without, become, agenda, Nat.add_sub_cancel' first]

end Scene

namespace Pipeline

theorem next?_eq_some {p rest : Pipeline τ} {time : Nat} {task : Task τ}
    (h : p.next? time = some (task, rest)) :
    ∃ entry others, p.agenda = entry :: others ∧ entry.due ≤ time ∧ task = entry.action ∧
      rest = { p with now := entry.due, agenda := others } := by
  unfold next? Agenda.next? at h
  split at h
  · simp at h
  · rename_i entry others agenda
    split at h
    · rename_i due
      simp only [Option.map_some, Option.some.injEq, Prod.mk.injEq] at h
      exact ⟨entry, others, agenda, due, h.1.symm, h.2.symm⟩
    · simp at h

theorem next?_eq_none {p : Pipeline τ} {time : Nat} (ordered : Agenda.Ordered p.agenda)
    (h : p.next? time = none) : ∀ entry ∈ p.agenda, time ≤ entry.due := by
  unfold next? Agenda.next? at h
  split at h
  · rename_i agenda
    simp [agenda]
  · rename_i first others agenda
    split at h
    · simp at h
    · rename_i later
      intro entry member
      unfold Agenda.Ordered at ordered
      rw [agenda] at member ordered
      rcases List.mem_cons.mp member with rfl | behind
      · omega
      · have order := (List.pairwise_cons.mp ordered).1 entry behind
        omega

/-! What is performed up to a time, by what comes next. -/

theorem runUntil_of_none {outside : Outside ω} {p : Pipeline τ} {time : Nat} (world : ω)
    (h : p.next? time = none) :
    p.runUntil outside time world = ⟨[], world, { p with now := time }⟩ := by
  rw [runUntil]
  split
  · rfl
  · rename_i found
    cases h.symm.trans found

theorem runUntil_of_some {outside : Outside ω} {p rest : Pipeline τ} {time : Nat} {task : Task τ}
    (world : ω) (h : p.next? time = some (task, rest)) :
    let step := rest.perform outside world task
    let others := step.pipeline.runUntil outside time step.world
    p.runUntil outside time world =
      ⟨step.events ++ others.events, others.world, others.pipeline⟩ := by
  intro step others
  rw [runUntil]
  split
  · rename_i idle
    cases h.symm.trans idle
  · rename_i other remaining found
    obtain ⟨rfl, rfl⟩ := Prod.mk.inj (Option.some.inj (h.symm.trans found))
    rfl

end Pipeline

namespace Scene

variable (outside : Outside ω)

/-- Performing everything that is due up to a time is a timely story of the same events, in which
tasks are performed in order. -/
theorem runUntil_isStory (time : Nat) (s : Scene τ ω) (h : s.pipeline.OnTime)
    (later : s.pipeline.now ≤ time) :
    ∃ moves : List (Move τ ω), (∀ move ∈ moves, move.IsPassing ∧ move.IsInOrder) ∧
      s.Timely outside moves ∧
      (s.play outside moves).1.filterMap Happening.event? =
        (s.pipeline.runUntil outside time s.world).events ∧
      (s.play outside moves).2.world = (s.pipeline.runUntil outside time s.world).world ∧
      (s.play outside moves).2.pipeline =
        (s.pipeline.runUntil outside time s.world).pipeline := by
  obtain ⟨world, pipeline, entered⟩ := s
  induction world, pipeline using Pipeline.runUntil.induct outside time
    generalizing entered with
  | case1 world p idle =>
      rw [Pipeline.runUntil_of_none world idle]
      refine ⟨[.wait (time - p.now)], ?_, ⟨?_, trivial⟩, ?_⟩
      · intro move member
        obtain rfl := List.mem_singleton.mp member
        exact ⟨trivial, trivial⟩
      · intro entry member
        have reached := Pipeline.next?_eq_none h.ordered idle entry member
        dsimp only at later ⊢
        omega
      · have reached : p.now + (time - p.now) = time := Nat.add_sub_cancel' later
        simp [move, reached]
  | case2 world p task rest found step ih =>
      obtain ⟨entry, others, agenda, due, rfl, rfl⟩ := Pipeline.next?_eq_some found
      have taken : Pipeline.OnTime { p with now := entry.due, agenda := others } := by
        have ordered := h.ordered
        unfold Agenda.Ordered at ordered
        dsimp only at ordered
        rw [agenda, List.pairwise_cons] at ordered
        exact ⟨ordered.2, ordered.1⟩
      let next := (Scene.performed outside ⟨world, p, entered⟩
        { p with now := entry.due, agenda := others } entry.action).2
      obtain ⟨moves, passing, timely, events, lastWorld, lastPipeline⟩ :=
        ih next.entered (taken.perform outside world entry.action)
          (Nat.le_trans (Nat.le_of_eq (Pipeline.perform_now outside world _ _)) due)
      refine ⟨Scene.nextMoves ⟨world, p, entered⟩ entry ++ moves, ?_, ?_, ?_⟩
      · exact List.forall_mem_append.mpr ⟨nextMoves_isPassing _ entry, passing⟩
      · rw [timely_append, play_nextMoves outside h agenda]
        exact ⟨nextMoves_timely outside h agenda, timely⟩
      · rw [play_append, play_nextMoves outside h agenda, Pipeline.runUntil_of_some world found]
        refine ⟨?_, lastWorld, lastPipeline⟩
        rw [List.filterMap_append]
        exact congrArg (step.events ++ ·) events

/-- Time alone can pass until nothing waits any more. -/
theorem exists_rest (s : Scene τ ω) (h : s.pipeline.OnTime) :
    ∃ moves : List (Move τ ω), (∀ move ∈ moves, move.IsPassing ∧ move.IsInOrder) ∧
      s.Timely outside moves ∧ (s.play outside moves).2.pipeline.agenda = [] := by
  -- each task that is performed lessens the weight of the agenda
  induction bound : Pipeline.weightOf s.pipeline.agenda using Nat.strongRecOn
    generalizing s with
  | _ weight ih =>
      cases agenda : s.pipeline.agenda with
      | nil => exact ⟨[], (fun _ member => nomatch member), trivial, agenda⟩
      | cons entry rest =>
          have played := play_nextMoves outside h agenda
          have timely := nextMoves_timely outside h agenda
          have lighter : Pipeline.weightOf
              (s.play outside (s.nextMoves entry)).2.pipeline.agenda < weight := by
            have less := Pipeline.weightOf_perform_lt outside s.world
              { s.pipeline with now := entry.due, agenda := rest } entry.action
            rw [played, ← bound, agenda]
            exact less
          obtain ⟨moves, passing, after, idle⟩ :=
            ih _ lighter _ (onTime_play outside h timely) rfl
          refine ⟨s.nextMoves entry ++ moves, ?_, ?_, ?_⟩
          · exact List.forall_mem_append.mpr ⟨nextMoves_isPassing s entry, passing⟩
          · exact (timely_append outside s _ moves).mpr ⟨timely, after⟩
          · rw [play_append]
            exact idle

end Scene

end AsmDiagnostics
