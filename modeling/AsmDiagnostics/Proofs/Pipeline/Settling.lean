import AsmDiagnostics.Proofs.Pipeline.Outcome

/-!
# A pipeline settles

Every move of a timely story leaves the run that stands for a document with its outcome.  When
nothing waits any more, that outcome is final: the last publication for the document is the result
of the push that stands for it, or the clear of the pull.
-/

namespace AsmDiagnostics

variable {τ ω : Type}

/-- Tasks are few and known, builds belong to runs, and runs that stand have their outcomes. -/
structure Settling (history : List (Happening τ)) (s : Scene τ ω) : Prop where
  traced : Traced history s
  tidy : s.pipeline.Tidy
  built : BuildsBegun history
  outcomes : Outcomes history s.pipeline

/-! ## Builds -/

theorem buildsBegun_append {history others : List (Happening τ)} (h : BuildsBegun history)
    (new : ∀ run result, .started run result ∈ others →
      ∃ time, .begun time run ∈ history ++ others) : BuildsBegun (history ++ others) := by
  intro run result member
  rcases List.mem_append.mp member with old | now
  · obtain ⟨time, begun⟩ := h run result old
    exact ⟨time, List.mem_append_left _ begun⟩
  · exact new run result now

/-- No build has been started by a run that is still to begin. -/
theorem builds_eq_nil {history : List (Happening τ)} {f : InFlight} (h : BuildsBegun history)
    (numbered : Numbered history f) : builds f.nextGeneration history = [] := by
  refine List.filterMap_eq_nil_iff.mpr fun happening member => ?_
  cases happening with
  | started run result =>
      refine if_neg fun same => ?_
      obtain ⟨time, begun⟩ := h run result member
      have bounded := numbered.bounded run.generation (generation_mem begun)
      unfold InFlight.nextGeneration at same
      omega
  | _ => rfl

namespace Pipeline

/-- A build that a task starts belongs to the run of the task, or to the run that it begins. -/
theorem started_of_perform (outside : Outside ω) (world : ω) (p : Pipeline τ) {task : Task τ}
    {run : Run τ} {result : Build.Result} (member : .started run result ∈ (p.perform outside world task).told) :
    task.run? = some run ∨ ∃ time, .begun time run ∈ (p.perform outside world task).told := by
  cases task with
  | wake uri generation =>
      rw [perform_wake] at member
      dsimp only at member
      split at member <;> simp at member
  | ask uri ticket =>
      rw [perform_ask] at member ⊢
      refine .inr ⟨p.now, ?_⟩
      rcases List.mem_cons.mp member with other | started
      · cases other
      · obtain rfl : run = (p.begin uri (.pull ticket)).1 :=
          execute_isOf outside world _ _ _ started
        exact List.mem_cons_self
  | start own =>
      obtain rfl : run = own := execute_isOf outside world p own _ member
      exact .inl rfl
  | finish own document other =>
      rw [perform_finish] at member
      obtain rfl : run = own := seen_isOf own (lastEvents_isOf p own document other) _ member
      exact .inl rfl

end Pipeline

/-! ## One move -/

namespace Settling

variable {history : List (Happening τ)} {s : Scene τ ω} {place : Nat}
  {entry : Planned (Task τ)} (outside : Outside ω)

theorem start (workspace? : Option Workspace) (window : Nat) (world : ω) :
    Settling [] (Scene.start workspace? window world : Scene τ ω) :=
  ⟨Traced.start workspace? window world, Pipeline.Tidy.start workspace? window,
    (fun _ _ member => nomatch member), Outcomes.start workspace? window⟩

/-- A push whose task waits is the one that stands for its document. -/
theorem standing_of_push (h : Settling history s) (found : s.pipeline.agenda[place]? = some entry)
    {run : Run τ} (own : entry.action.run? = some run) (pushed : run.trigger = .push) :
    standing run.uri history = some run := by
  have member := List.mem_of_getElem? found
  obtain ⟨time, begun⟩ := h.traced.known entry.action (h.traced.waiting entry member) run own
  exact h.traced.numbered.standing_of_current begun
    (h.tidy.live run (Scene.apart_without h.tidy found own).2 pushed)

theorem free_without (h : Settling history s) (found : s.pipeline.agenda[place]? = some entry)
    {run : Run τ} (own : entry.action.run? = some run) : run ∉ (s.without place).carried :=
  fun carries => (Scene.apart_without h.tidy found own).1 run carries rfl

/-- The start of a run is performed. -/
theorem perform_start (h : Settling history s) {run : Run τ}
    (found : s.pipeline.agenda[place]? = some entry) (task : entry.action = .start run) :
    Outcomes (history ++ ((s.without place).execute outside s.world run).told)
      ((s.without place).execute outside s.world run).pipeline := by
  have own : entry.action.run? = some run := by rw [task]; rfl
  have member := List.mem_of_getElem? found
  have pushed := h.tidy.starts entry member run task
  have current := h.tidy.live run (Scene.apart_without h.tidy found own).2 pushed
  refine h.outcomes.of_own h.traced.numbered found own (h.standing_of_push found own pushed)
    (Pipeline.execute_quiet outside s.world _ run) (Pipeline.execute_isOf outside s.world _ run)
    (Pipeline.execute_frame outside s.world _ run).2.1
    (fun other different => Pipeline.mem_execute_of_other outside s.world _ run different) ?_
  intro workspace document resolved outcome
  have unbuilt : builds run.generation history = [] := by
    cases outcome with
    | waiting _ _ _ _ built => exact built
    | building other result waits finish _ _ =>
        have same := Scene.only_entry h.tidy found own waits (by rw [finish]; rfl)
        rw [same, task] at finish
        cases finish
    | delivered _ _ free _ _ _ => exact absurd (Scene.apart_without h.tidy found own).2 free
    | cleared _ pulled _ => exact absurd pushed pulled
  exact Outcome.execute_push outside s.world pushed (h.free_without found own) current unbuilt
    resolved

/-- The end of a build is performed. -/
theorem perform_finish (h : Settling history s) {run : Run τ} {document : DocumentRef}
    {result : Build.Result} (found : s.pipeline.agenda[place]? = some entry)
    (task : entry.action = .finish run document result) :
    Outcomes (history ++ ((s.without place).lastEvents run document result).map .seen)
      ((s.without place).finished run) := by
  have own : entry.action.run? = some run := by rw [task]; rfl
  have quiet := Pipeline.seen_quiet ((s.without place).lastEvents run document result)
  cases trigger : run.trigger with
  | push =>
      have current := h.tidy.live run (Scene.apart_without h.tidy found own).2 trigger
      refine h.outcomes.of_own h.traced.numbered found own (h.standing_of_push found own trigger)
        quiet (Pipeline.seen_isOf run (Pipeline.lastEvents_isOf _ run document result)) rfl
        (fun _ _ => Iff.rfl) ?_
      intro workspace built resolved outcome
      cases outcome with
      | waiting other waits start _ _ =>
          have same := Scene.only_entry h.tidy found own waits (by rw [start]; rfl)
          rw [same, task] at start
          cases start
      | building other came waits finish _ builds =>
          have same := Scene.only_entry h.tidy found own waits (by rw [finish]; rfl)
          rw [same, task] at finish
          injection finish with _ sameDocument sameResult
          subst sameDocument sameResult
          exact Outcome.lastEvents_push trigger (h.free_without found own) current builds
      | delivered _ _ free _ _ _ => exact absurd (Scene.apart_without h.tidy found own).2 free
      | cleared _ pulled _ => exact absurd trigger pulled
  | pull ticket =>
      intro other workspace built stands resolved
      rw [standing_append_of_quiet quiet] at stands
      refine (h.outcomes other workspace built stands resolved).aside ?_ ?_
      · intro happening member
        obtain ⟨event, told, rfl⟩ := List.mem_map.mp member
        exact Happening.isAside_of_silent rfl
          (Outcome.silent_of_pull trigger document result event told)
      · intro pushed waits carries
        refine Scene.mem_without found ?_ carries
        rw [own]
        rintro same
        rw [← Option.some.inj same, trigger] at pushed
        cases pushed

theorem perform (h : Settling history s) (found : s.pipeline.agenda[place]? = some entry) :
    Outcomes (history ++ ((s.without place).perform outside s.world entry.action).told)
      ((s.without place).perform outside s.world entry.action).pipeline := by
  cases task : entry.action with
  | wake uri generation =>
      have without := h.outcomes.without_other found (by rw [task]; rfl)
      have woken : Outcomes history { s.without place with
          debouncer := (s.without place).debouncer.wake uri generation } :=
        without.still rfl fun _ _ _ => Iff.rfl
      simp only [Pipeline.perform_wake, Pipeline.wake]
      split
      · exact woken.push (builds_eq_nil h.built h.traced.numbered) uri
      · rw [List.append_nil]
        exact woken
  | ask uri ticket =>
      apply (h.outcomes.without_other found (by rw [task]; rfl)).ask outside s.world uri ticket
      intro run stands
      obtain ⟨-, time, begun⟩ := begun_of_standing stands
      exact h.traced.numbered.bounded _ (generation_mem begun)
  | start run => exact h.perform_start outside found task
  | finish run document result =>
      rw [Pipeline.perform_finish]
      exact h.perform_finish found task

theorem built_move (h : Settling history s) (move : Move τ ω) :
    BuildsBegun (history ++ (s.move outside move).1) := by
  have known : ∀ (p : Pipeline τ) (task : Task τ), task ∈ s.entered →
      BuildsBegun (history ++ (p.perform outside s.world task).told) := by
    intro p task entered
    refine buildsBegun_append h.built fun run result member => ?_
    rcases Pipeline.started_of_perform outside s.world p member with own | ⟨time, begun⟩
    · obtain ⟨time, begun⟩ := h.traced.known task entered run own
      exact ⟨time, List.mem_append_left _ begun⟩
    · exact ⟨time, List.mem_append_right _ begun⟩
  cases move with
  | perform place =>
      rcases Scene.move_perform outside s place with nothing | ⟨entry, found, performed⟩
      · rw [nothing, List.append_nil]
        exact h.built
      · rw [performed]
        exact known _ _ (h.traced.waiting entry (List.mem_of_getElem? found))
  | late place =>
      rcases Scene.move_late outside s place with nothing | ⟨task, entered, performed⟩
      · rw [nothing, List.append_nil]
        exact h.built
      · rw [performed]
        exact known _ _ entered
  | _ =>
      refine buildsBegun_append h.built fun run result member => ?_
      simp [Scene.move] at member

/-- Every move of a timely story keeps a pipeline settling. -/
theorem move (h : Settling history s) {move : Move τ ω} (timely : move.IsTimely s) :
    Settling (history ++ (s.move outside move).1) (s.move outside move).2 := by
  refine ⟨h.traced.move outside move, Scene.tidy_move outside h.tidy timely.isPrompt,
    h.built_move outside move, ?_⟩
  have unbuilt := builds_eq_nil h.built h.traced.numbered
  cases move with
  | change uri version =>
      have held : Outcomes history
          { s.pipeline with debouncer := s.pipeline.debouncer.schedule uri version } :=
        h.outcomes.still rfl fun _ _ _ => Iff.rfl
      simp only [Scene.move, List.append_nil]
      exact held.plan_other s.pipeline.window rfl
  | close uri => exact h.outcomes.close uri
  | push uri => exact h.outcomes.push unbuilt uri
  | pull uri ticket =>
      simp only [Scene.move, List.append_nil]
      exact h.outcomes.plan_other 0 rfl
  | shutdown => exact h.outcomes.shutdown
  | wait millis =>
      simp only [Scene.move, List.append_nil]
      exact h.outcomes.still rfl fun _ _ _ => Iff.rfl
  | alter world =>
      simp only [Scene.move, List.append_nil]
      exact h.outcomes
  | perform place =>
      rcases Scene.move_perform outside s place with nothing | ⟨entry, found, performed⟩
      · rw [nothing, List.append_nil]
        exact h.outcomes
      · rw [performed]
        exact h.perform outside found
  | late place => exact timely.elim

theorem play (h : Settling history s) {moves : List (Move τ ω)}
    (timely : s.Timely outside moves) :
    Settling (history ++ (s.play outside moves).1) (s.play outside moves).2 :=
  Scene.timely_keeps outside Settling (fun _ _ _ timely h => h.move outside timely) history h timely

/-! ## At rest -/

variable {run : Run τ} {workspace : Workspace} {document : DocumentRef}

/-- When nothing waits, a push that stands has started one build and its result is shown. -/
theorem push_at_rest (h : Settling history s) (idle : s.pipeline.agenda = [])
    (stands : standing run.uri history = some run) (pushed : run.trigger = .push)
    (resolved : s.pipeline.document? run.uri = some (workspace, document)) :
    ∃ result time, builds run.generation history = [result] ∧
      lastPublication run.uri history =
        some ⟨time, run, .deliver (document.diagnostics result.output)⟩ := by
  cases h.outcomes run workspace document stands resolved with
  | waiting entry member _ _ _ =>
      rw [idle] at member
      cases member
  | building entry _ member _ _ _ =>
      rw [idle] at member
      cases member
  | delivered result time _ _ built shown => exact ⟨result, time, built, shown⟩
  | cleared _ pulled _ => exact absurd pushed pulled

/-- The clear of a pull that stands is the last publication, at rest and before. -/
theorem pull_cleared (h : Settling history s) (stands : standing run.uri history = some run)
    (pulled : run.trigger ≠ .push)
    (resolved : s.pipeline.document? run.uri = some (workspace, document)) :
    ∃ time, lastPublication run.uri history = some ⟨time, run, .clear⟩ := by
  cases h.outcomes run workspace document stands resolved with
  | waiting _ _ _ pushed _ => exact absurd pushed pulled
  | building _ _ _ _ pushed _ => exact absurd pushed pulled
  | delivered _ _ _ pushed _ _ => exact absurd pushed pulled
  | cleared time _ shown => exact ⟨time, shown⟩

end Settling

end AsmDiagnostics
