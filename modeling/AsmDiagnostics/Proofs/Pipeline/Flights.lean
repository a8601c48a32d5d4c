import AsmDiagnostics.Pipeline.Clock
import AsmDiagnostics.Proofs.Agenda

/-!
# What the operations of a pipeline leave behind

For each operation, the run that is current for every document afterwards, the entries of the
agenda afterwards, and the parts of the pipeline that it leaves alone.  Later modules go by these
lemmas and do not open the operations again.
-/

namespace AsmDiagnostics

namespace InFlight

theorem current?_dropAll (f : InFlight) (uri : Uri) : f.dropAll.current? uri = none := rfl

theorem isCurrent_iff (f : InFlight) (uri : Uri) (generation : Nat) :
    f.isCurrent uri generation = true ↔ f.current? uri = some generation := by
  simp [isCurrent]

theorem current?_finish (f : InFlight) (uri other : Uri) (generation : Nat) :
    (f.finish uri generation).current? other =
      if other = uri ∧ f.current? uri = some generation then none else f.current? other := by
  unfold finish
  by_cases current : f.current? uri = some generation
  · rw [if_pos ((isCurrent_iff f uri generation).mpr current), current?_drop]
    simp [current]
  · rw [if_neg (fun h => current ((isCurrent_iff f uri generation).mp h))]
    simp [current]

theorem lastGeneration_finish (f : InFlight) (uri : Uri) (generation : Nat) :
    (f.finish uri generation).lastGeneration = f.lastGeneration := by
  unfold finish
  split <;> rfl

theorem mem_flights_of_current? {f : InFlight} {uri : Uri} {generation : Nat}
    (h : f.current? uri = some generation) : ⟨uri, generation⟩ ∈ f.flights := by
  unfold current? at h
  obtain ⟨flight, found, rfl⟩ := Option.map_eq_some_iff.mp h
  have same : flight.uri = uri := by simpa using List.find?_some found
  rw [← same]
  exact List.mem_of_find?_eq_some found

end InFlight

namespace Task

variable {τ : Type}

theorem isPushOf_iff (task : Task τ) (uri : Uri) (generation : Nat) :
    task.isPushOf uri generation = true ↔ task.run? = some ⟨uri, generation, .push⟩ := by
  cases task with
  | wake other number => simp [isPushOf, run?]
  | ask other ticket => simp [isPushOf, run?]
  | start run =>
      obtain ⟨other, number, trigger⟩ := run
      cases trigger <;> simp [isPushOf, run?]
  | finish run document result =>
      obtain ⟨other, number, trigger⟩ := run
      cases trigger <;> simp [isPushOf, run?]

end Task

namespace Pipeline

variable {τ ω : Type}

section Abort

variable (p : Pipeline τ) (uri : Uri)

@[simp] theorem abortPush_inFlight : (p.abortPush uri).inFlight = p.inFlight := by
  unfold abortPush
  split <;> rfl

@[simp] theorem abortPush_debouncer : (p.abortPush uri).debouncer = p.debouncer := by
  unfold abortPush
  split <;> rfl

@[simp] theorem abortPush_now : (p.abortPush uri).now = p.now := by
  unfold abortPush
  split <;> rfl

@[simp] theorem abortPush_workspace? : (p.abortPush uri).workspace? = p.workspace? := by
  unfold abortPush
  split <;> rfl

@[simp] theorem abortPush_window : (p.abortPush uri).window = p.window := by
  unfold abortPush
  split <;> rfl

theorem abortPush_sublist : (p.abortPush uri).agenda.Sublist p.agenda := by
  unfold abortPush
  split
  · exact List.filter_sublist
  · exact List.Sublist.refl _

/-- Only the work of the current run of the document goes, and only if that run is a push. -/
theorem mem_abortPush (entry : Planned (Task τ)) :
    entry ∈ (p.abortPush uri).agenda ↔ entry ∈ p.agenda ∧
      ∀ generation, p.inFlight.current? uri = some generation →
        entry.action.run? ≠ some ⟨uri, generation, .push⟩ := by
  unfold abortPush
  split
  · rename_i generation current
    simp [current, ← Task.isPushOf_iff]
  · rename_i current
    simp [current]

variable {p uri} {entry : Planned (Task τ)} {run : Run τ}

/-- The work of a run for another document stays. -/
theorem mem_abortPush_of_other (own : entry.action.run? = some run) (other : run.uri ≠ uri) :
    entry ∈ (p.abortPush uri).agenda ↔ entry ∈ p.agenda := by
  refine (mem_abortPush p uri entry).trans (and_iff_left fun generation _ aborted => ?_)
  rw [own] at aborted
  exact other (congrArg Run.uri (Option.some.inj aborted))

/-- The work of a current push stays only if it is for another document. -/
theorem other_of_mem_abortPush (member : entry ∈ (p.abortPush uri).agenda)
    (own : entry.action.run? = some run) (pushed : run.trigger = .push)
    (current : p.inFlight.current? run.uri = some run.generation) : run.uri ≠ uri := by
  rintro rfl
  refine ((mem_abortPush p run.uri entry).mp member).2 run.generation current ?_
  rw [own, ← pushed]

end Abort

/-! ## Operations of the editor's side -/

section Calls

variable (p : Pipeline τ) (uri : Uri)

@[simp] theorem begin_run (trigger : Trigger τ) :
    (p.begin uri trigger).1 = ⟨uri, p.inFlight.nextGeneration, trigger⟩ := rfl

@[simp] theorem begin_inFlight (trigger : Trigger τ) :
    (p.begin uri trigger).2.inFlight = p.inFlight.begin uri := rfl

@[simp] theorem begin_debouncer (trigger : Trigger τ) :
    (p.begin uri trigger).2.debouncer = p.debouncer := abortPush_debouncer p uri

@[simp] theorem begin_now (trigger : Trigger τ) :
    (p.begin uri trigger).2.now = p.now := abortPush_now p uri

@[simp] theorem begin_workspace? (trigger : Trigger τ) :
    (p.begin uri trigger).2.workspace? = p.workspace? := abortPush_workspace? p uri

@[simp] theorem begin_window (trigger : Trigger τ) :
    (p.begin uri trigger).2.window = p.window := abortPush_window p uri

theorem mem_plan (delay : Nat) (task : Task τ) (entry : Planned (Task τ)) :
    entry ∈ (p.plan delay task).agenda ↔
      entry = ⟨Agenda.after p.now delay, task⟩ ∨ entry ∈ p.agenda := Agenda.mem_add

theorem push_eq : p.push uri =
    (p.begin uri .push).2.plan 0 (.start ⟨uri, p.inFlight.nextGeneration, .push⟩) := rfl

theorem wake_workspace? (generation : Nat) :
    (p.wake uri generation).workspace? = p.workspace? := by
  unfold wake
  split
  · exact begin_workspace? { p with debouncer := p.debouncer.wake uri generation } uri .push
  · rfl

/-- Aborting one push after another leaves everything but the agenda alone. -/
theorem abortAll_frame (flights : List Flight) (p : Pipeline τ) :
    let rest := flights.foldl (fun rest flight => rest.abortPush flight.uri) p
    rest.inFlight = p.inFlight ∧ rest.now = p.now ∧ rest.workspace? = p.workspace? ∧
      rest.window = p.window ∧ rest.agenda.Sublist p.agenda := by
  induction flights generalizing p with
  | nil => exact ⟨rfl, rfl, rfl, rfl, List.Sublist.refl _⟩
  | cons flight flights ih =>
      obtain ⟨inFlight, now, workspace, window, agenda⟩ := ih (p.abortPush flight.uri)
      refine ⟨?_, ?_, ?_, ?_, agenda.trans (abortPush_sublist p flight.uri)⟩
      · exact inFlight.trans (abortPush_inFlight p _)
      · exact now.trans (abortPush_now p _)
      · exact workspace.trans (abortPush_workspace? p _)
      · exact window.trans (abortPush_window p _)

theorem mem_abortAll (flights : List Flight) (p : Pipeline τ) (entry : Planned (Task τ)) :
    entry ∈ (flights.foldl (fun rest flight => rest.abortPush flight.uri) p).agenda ↔
      entry ∈ p.agenda ∧ ∀ flight ∈ flights, ∀ generation,
        p.inFlight.current? flight.uri = some generation →
          entry.action.run? ≠ some ⟨flight.uri, generation, .push⟩ := by
  induction flights generalizing p with
  | nil => simp
  | cons flight flights ih =>
      rw [List.foldl_cons, ih, mem_abortPush, abortPush_inFlight]
      simp only [List.forall_mem_cons]
      exact and_assoc

@[simp] theorem shutdown_now : p.shutdown.now = p.now :=
  (abortAll_frame p.inFlight.flights p).2.1

@[simp] theorem shutdown_workspace? : p.shutdown.workspace? = p.workspace? :=
  (abortAll_frame p.inFlight.flights p).2.2.1

@[simp] theorem shutdown_window : p.shutdown.window = p.window :=
  (abortAll_frame p.inFlight.flights p).2.2.2.1

theorem shutdown_sublist : p.shutdown.agenda.Sublist p.agenda :=
  (abortAll_frame p.inFlight.flights p).2.2.2.2

/-- No work of a push that is current survives a shutdown. -/
theorem mem_shutdown {entry : Planned (Task τ)} (member : entry ∈ p.shutdown.agenda) {run : Run τ}
    (carried : entry.action.run? = some run) (pushed : run.trigger = .push) :
    p.inFlight.current? run.uri ≠ some run.generation := by
  intro current
  have flight := InFlight.mem_flights_of_current? current
  apply ((mem_abortAll p.inFlight.flights p entry).mp member).2 _ flight _ current
  rw [carried]
  obtain ⟨uri, generation, trigger⟩ := run
  exact congrArg (fun trigger => some (Run.mk uri generation trigger)) pushed

end Calls

/-! ## Runs -/

section Runs

variable (outside : Outside ω) (world : ω) (p : Pipeline τ) (run : Run τ)

def finished : Pipeline τ := { p with inFlight := p.inFlight.finish run.uri run.generation }

theorem deliver_pipeline (diagnostics : List Diagnostic) :
    (p.deliver run diagnostics).2 = p.finished run := by
  unfold deliver
  dsimp only
  split <;> rfl

theorem deliver_events_of_current (diagnostics : List Diagnostic)
    (current : p.inFlight.current? run.uri = some run.generation) :
    (p.deliver run diagnostics).1 = [p.eventOf run (.deliver diagnostics)] := by
  have kept : p.isSuperseded run = false := by
    simp [isSuperseded, (InFlight.isCurrent_iff p.inFlight run.uri run.generation).mpr current]
  simp [deliver, kept]

theorem deliver_events_of_pull {ticket : τ} (pulled : run.trigger = .pull ticket)
    (diagnostics : List Diagnostic) :
    (p.deliver run diagnostics).1 = [p.eventOf run (.deliver diagnostics)] := by
  simp [deliver, isSuperseded, pulled, Trigger.isPush]

theorem deliver_events_of_superseded (pushed : run.trigger = .push)
    (gone : p.inFlight.current? run.uri ≠ some run.generation) (diagnostics : List Diagnostic) :
    (p.deliver run diagnostics).1 = [] := by
  have superseded : p.isSuperseded run = true := by
    simp [isSuperseded, pushed, Trigger.isPush, InFlight.isCurrent, gone]
  simp [deliver, superseded]

def lastEvents (document : DocumentRef) (result : Build.Result) : List (Event τ) :=
  p.complain run document result ++ (p.deliver run (document.diagnostics result.output)).1

theorem endLeg_eq (diagnostics : List Diagnostic) :
    p.endLeg world run diagnostics =
      ⟨(p.deliver run diagnostics).1.map .seen, world, p.finished run, none⟩ := by
  rw [← deliver_pipeline p run diagnostics]
  rfl

theorem finishLeg_onward (document : DocumentRef) (result : Build.Result) :
    (p.finishLeg world run document result).onward outside =
      ⟨(p.lastEvents run document result).map .seen, world, p.finished run, none⟩ := by
  unfold finishLeg
  cases faulty : result.fault? with
  | none => simp [Leg.onward, endLeg_eq, lastEvents, complain, faulty]
  | some fault => simp [Leg.onward, Leg.after, goOn, endLeg_eq, lastEvents]

theorem perform_finish (document : DocumentRef) (result : Build.Result) :
    p.perform outside world (.finish run document result) =
      ⟨(p.lastEvents run document result).map .seen, world, p.finished run, none⟩ := by
  rw [perform, legOf, Leg.whole, finishLeg_onward, Leg.onward_of_ended outside rfl]

/-- A run without a document is over at once; so is one whose build takes no time; any other waits
for its build. -/
theorem execute_cases :
    (p.document? run.uri = none ∧ p.execute outside world run =
        ⟨(p.deliver run []).1.map .seen, world, p.finished run, none⟩) ∨
    ∃ workspace document command result delay after,
      p.document? run.uri = some (workspace, document) ∧
      command = Build.Command.select workspace (outside.pathExists world) document ∧
      outside.build world command = (result, delay, after) ∧
      ((delay = 0 ∧ p.execute outside world run =
          ⟨[.seen (p.eventOf run .clear), .started run result,
            .seen (p.eventOf run (.build command))] ++ (p.lastEvents run document result).map .seen,
            after, p.finished run, none⟩) ∨
        (delay ≠ 0 ∧ p.execute outside world run =
          ⟨[.seen (p.eventOf run .clear), .started run result,
            .seen (p.eventOf run (.build command))], after,
            p.plan delay (.finish run document result), none⟩)) := by
  cases resolved : p.document? run.uri with
  | none =>
      left
      refine ⟨rfl, ?_⟩
      simp only [execute, startLeg, resolved, endLeg_eq, Leg.whole]
      rfl
  | some pair =>
      right
      obtain ⟨workspace, document⟩ := pair
      rcases built : outside.build world
        (Build.Command.select workspace (outside.pathExists world) document) with
        ⟨result, delay, after⟩
      refine ⟨workspace, document, _, result, delay, after, rfl, rfl, built, ?_⟩
      have executed : p.execute outside world run =
          ((p.buildLeg outside world run workspace document).onward outside).after
            [.seen (p.eventOf run .clear)] := by
        simp only [execute, startLeg, resolved, Leg.whole]
        exact Leg.onward_after outside _ _
      simp only [executed, buildLeg_eq, built]
      by_cases instant : delay = 0
      · left
        refine ⟨instant, ?_⟩
        simp only [instant, if_true, Leg.onward_after, finishLeg_onward]
        rfl
      · right
        refine ⟨instant, ?_⟩
        simp only [instant, if_false]
        rfl

theorem execute_ended : (p.execute outside world run).pause? = none := by
  rcases execute_cases outside world p run with ⟨-, executed⟩ |
    ⟨_, _, _, _, _, _, -, -, -, ⟨-, executed⟩ | ⟨-, executed⟩⟩ <;> rw [executed]

theorem execute_debouncer : (p.execute outside world run).pipeline.debouncer = p.debouncer := by
  rcases execute_cases outside world p run with ⟨-, executed⟩ |
    ⟨_, _, _, _, _, _, -, -, -, ⟨-, executed⟩ | ⟨-, executed⟩⟩ <;> rw [executed] <;> rfl

theorem execute_frame :
    (p.execute outside world run).pipeline.now = p.now ∧
      (p.execute outside world run).pipeline.workspace? = p.workspace? ∧
      (p.execute outside world run).pipeline.window = p.window := by
  rcases execute_cases outside world p run with ⟨-, executed⟩ |
    ⟨_, _, _, _, _, _, -, -, -, ⟨-, executed⟩ | ⟨-, executed⟩⟩ <;> rw [executed] <;>
    exact ⟨rfl, rfl, rfl⟩

end Runs

/-- A task in one piece leaves no run that pauses. -/
theorem perform_ended (outside : Outside ω) (world : ω) (p : Pipeline τ) (task : Task τ) :
    (p.perform outside world task).pause? = none := by
  cases task with
  | wake uri generation => rfl
  | ask uri ticket =>
      rw [perform_ask]
      exact execute_ended outside world _ _
  | start run => exact execute_ended outside world p run
  | finish run document result => rw [perform_finish]

/-- No task moves the clock, and none changes the workspace or the window. -/
theorem perform_frame (outside : Outside ω) (world : ω) (p : Pipeline τ) (task : Task τ) :
    (p.perform outside world task).pipeline.now = p.now ∧
      (p.perform outside world task).pipeline.workspace? = p.workspace? ∧
      (p.perform outside world task).pipeline.window = p.window := by
  cases task with
  | wake uri generation =>
      simp only [perform_wake, wake]
      split
      · exact ⟨begin_now _ uri .push, begin_workspace? _ uri .push, begin_window _ uri .push⟩
      · exact ⟨rfl, rfl, rfl⟩
  | ask uri ticket =>
      obtain ⟨now, workspace, window⟩ := execute_frame outside world
        (p.begin uri (.pull ticket)).2 (p.begin uri (.pull ticket)).1
      rw [perform_ask]
      exact ⟨now.trans (begin_now p uri _), workspace.trans (begin_workspace? p uri _),
        window.trans (begin_window p uri _)⟩
  | start run => exact execute_frame outside world p run
  | finish run document result =>
      rw [perform_finish]
      exact ⟨rfl, rfl, rfl⟩

theorem perform_now (outside : Outside ω) (world : ω) (p : Pipeline τ) (task : Task τ) :
    (p.perform outside world task).pipeline.now = p.now :=
  (perform_frame outside world p task).1

end Pipeline

end AsmDiagnostics
