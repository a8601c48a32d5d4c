import AsmDiagnostics.Proofs.Agenda.View
import AsmDiagnostics.Proofs.Debouncer
import AsmDiagnostics.Proofs.Pipeline.Journeys

/-!
# The share of a document

All documents share one agenda, one debouncer, one list of flights and one counter of generations.
What belongs to one document is seen here without the others and without numbers: its timers, each
either the one that is held back or not, its questions, and its runs, each either the current one or
not.  This share is a machine of its own.  Whatever is done for its document is done by that machine,
and nothing that is done for another document is seen in it.
-/

namespace AsmDiagnostics

variable {τ ω : Type}

/-- What the next leg of a run is. -/
inductive NextLeg where
  | start
  | finish (document : DocumentRef) (result : Build.Result)
  | build (workspace : Workspace) (document : DocumentRef)
  | deliver (diagnostics : List Diagnostic)
  deriving DecidableEq, Repr

/-- A run as its document sees it. -/
structure LocalRun (τ : Type) where
  trigger : Trigger τ
  isCurrent : Bool
  nextLeg : NextLeg
  deriving DecidableEq, Repr

namespace LocalRun

def superseded (run : LocalRun τ) : LocalRun τ := { run with isCurrent := false }

def isCurrentPush (run : LocalRun τ) : Bool := run.trigger.isPush && run.isCurrent

def isLive (run : LocalRun τ) : Bool := !(run.trigger.isPush && !run.isCurrent)

end LocalRun

/-- A task as its document sees it. -/
inductive LocalTask (τ : Type) where
  | wake (isHeld : Bool)
  | ask (ticket : τ)
  | go (run : LocalRun τ)
  deriving DecidableEq, Repr

namespace LocalTask

def unheld : LocalTask τ → LocalTask τ
  | .wake _ => .wake false
  | task => task

def superseded : LocalTask τ → LocalTask τ
  | .go run => .go run.superseded
  | task => task

def isCurrentPush : LocalTask τ → Bool
  | .go run => run.isCurrentPush
  | _ => false

end LocalTask

/-- An event as its document sees it: when, for what, and what. -/
structure LocalEvent (τ : Type) where
  time : Nat
  trigger : Trigger τ
  deed : Deed
  deriving DecidableEq, Repr

/-- What a document has of a pipeline and its world. -/
structure Share (τ : Type) where
  workspace? : Option Workspace
  window : Nat
  now : Nat
  hasDescriptor : Bool
  isFlying : Bool
  tasks : Agenda (LocalTask τ)
  pauses : List (LocalRun τ)

/-- A leg as its document sees it, and what it leaves to the document. -/
structure LocalLeg (τ : Type) where
  told : List (LocalEvent τ)
  share : Share τ
  pause? : Option (LocalRun τ)

def LocalLeg.after (before : List (LocalEvent τ)) (leg : LocalLeg τ) : LocalLeg τ :=
  { leg with told := before ++ leg.told }

/-! ## The machine -/

def Outside.hasDescriptor (outside : Outside ω) (workspace? : Option Workspace) (world : ω) : Bool :=
  workspace?.any fun workspace => outside.pathExists world workspace.descriptor

/-- Builds neither make nor remove the descriptor of the workspace. -/
def Outside.Spares (outside : Outside ω) (workspace? : Option Workspace) : Prop :=
  ∀ world command, outside.hasDescriptor workspace? (outside.build world command).2.2 =
    outside.hasDescriptor workspace? world

namespace Share

variable (s : Share τ)

def plan (delay : Nat) (task : LocalTask τ) : Share τ :=
  { s with tasks := s.tasks.add (Agenda.after s.now delay) task }

def dropHeld : Share τ := { s with tasks := s.tasks.map (.map LocalTask.unheld) }

def dropCurrent : Share τ :=
  { s with
    isFlying := false
    tasks := s.tasks.map (.map LocalTask.superseded)
    pauses := s.pauses.map LocalRun.superseded }

/-- The work of the current run goes if that run is a push. -/
def abort : Share τ := { s with tasks := s.tasks.filter fun entry => !entry.action.isCurrentPush }

def begin : Share τ := { s.abort.dropCurrent with isFlying := true }

def push : Share τ := s.begin.plan 0 (.go ⟨.push, true, .start⟩)

/-- Nothing that has begun or is held back goes on, but for pulls. -/
def stop : Share τ := s.abort.dropCurrent.dropHeld

def obey : Call τ → Share τ
  | .change _ _ => s.dropHeld.plan s.window (.wake true)
  | .close _ => s.stop
  | .push _ => s.push
  | .pull _ ticket => s.plan 0 (.ask ticket)
  | .shutdown => s.stop

/-- A push that has been superseded is aborted where it pauses. -/
def settle : Share τ := { s with pauses := s.pauses.filter LocalRun.isLive }

def walk (leg : LocalLeg τ) : List (LocalEvent τ) × Share τ :=
  (leg.told, { leg.share with pauses := leg.share.pauses ++ leg.pause?.toList }.settle)

def localEvent (run : LocalRun τ) (deed : Deed) : LocalEvent τ := ⟨s.now, run.trigger, deed⟩

def endLeg (run : LocalRun τ) (diagnostics : List Diagnostic) : LocalLeg τ :=
  ⟨if run.isLive then [s.localEvent run (.deliver diagnostics)] else [],
    if run.isCurrent then s.dropCurrent else s, none⟩

def finishLeg (run : LocalRun τ) (document : DocumentRef) (result : Build.Result) : LocalLeg τ :=
  match result.fault? with
  | none => s.endLeg run (document.diagnostics result.output)
  | some fault =>
      ⟨[s.localEvent run (.complain (Pipeline.complaint document fault))], s,
        some { run with nextLeg := .deliver (document.diagnostics result.output) }⟩

def startLeg (uri : Uri) (run : LocalRun τ) : LocalLeg τ :=
  match documentedIn s.workspace? uri with
  | none => s.endLeg run []
  | some (workspace, document) =>
      ⟨[s.localEvent run .clear], s, some { run with nextLeg := .build workspace document }⟩

def buildLeg (built : Build.Result × Nat) (run : LocalRun τ) (workspace : Workspace)
    (document : DocumentRef) : LocalLeg τ :=
  let command := Build.Command.select workspace (fun _ => s.hasDescriptor) document
  let told := [s.localEvent run (.build command)]
  if built.2 = 0 then (s.finishLeg run document built.1).after told
  else ⟨told, s.plan built.2 (.go { run with nextLeg := .finish document built.1 }), none⟩

def runLeg (uri : Uri) (built : Build.Result × Nat) (run : LocalRun τ) : LocalLeg τ :=
  match run.nextLeg with
  | .start => s.startLeg uri run
  | .finish document result => s.finishLeg run document result
  | .build workspace document => s.buildLeg built run workspace document
  | .deliver diagnostics => s.endLeg run diagnostics

def taskLeg (uri : Uri) (built : Build.Result × Nat) : LocalTask τ → LocalLeg τ
  | .wake isHeld => ⟨[], if isHeld then s.dropHeld.push else s, none⟩
  | .ask ticket => s.begin.startLeg uri ⟨.pull ticket, true, .start⟩
  | .go run => s.runLeg uri built run

/-- What is seen of an act, and the share after it; a build that starts comes to what is given. -/
def act (outside : Outside ω) (uri : Uri) (built : Build.Result × Nat) :
    Act τ ω → List (LocalEvent τ) × Share τ
  | .call call => ([], (s.obey call).settle)
  | .wait millis => ([], { s with now := s.now + millis })
  | .alter world => ([], { s with hasDescriptor := outside.hasDescriptor s.workspace? world })
  | .perform place =>
      match s.tasks[place]? with
      | none => ([], s)
      | some entry =>
          walk ({ s with tasks := s.tasks.eraseIdx place }.taskLeg uri built entry.action)
  | .resume place =>
      match s.pauses[place]? with
      | none => ([], s)
      | some run => walk ({ s with pauses := s.pauses.eraseIdx place }.runLeg uri built run)

def builds : Act τ ω → Bool
  | .resume place =>
      match s.pauses[place]? with
      | some ⟨_, _, .build _ _⟩ => true
      | _ => false
  | _ => false

end Share

/-! ## What a document sees -/

def Event.localEvent (event : Event τ) : LocalEvent τ := ⟨event.time, event.run.trigger, event.deed⟩

def Happening.localEvent? (uri : Uri) : Happening τ → Option (LocalEvent τ)
  | .seen event => if event.run.uri = uri then some event.localEvent else none
  | _ => none

/-- The events for a document, in their order. -/
def localEvents (uri : Uri) (history : List (Happening τ)) : List (LocalEvent τ) :=
  history.filterMap (Happening.localEvent? uri)

/-- A call for a document, or the end of the session. -/
def Call.concerns (uri : Uri) : Call τ → Bool
  | .change other _ => decide (other = uri)
  | .close other => decide (other = uri)
  | .push other => decide (other = uri)
  | .pull other _ => decide (other = uri)
  | .shutdown => true

def Task.uri : Task τ → Uri
  | .wake uri _ => uri
  | .ask uri _ => uri
  | .start run => run.uri
  | .finish run _ _ => run.uri

def Post.nextLeg : Post τ → NextLeg
  | .start _ => .start
  | .finish _ document result => .finish document result
  | .pause (.build _ workspace document) => .build workspace document
  | .pause (.deliver _ diagnostics) => .deliver diagnostics

section Seeing

variable (uri : Uri) (held? current? : Option Nat)

def Run.localRun (nextLeg : NextLeg) (run : Run τ) : LocalRun τ :=
  ⟨run.trigger, decide (current? = some run.generation), nextLeg⟩

def Post.localRun (post : Post τ) : LocalRun τ := post.run.localRun current? post.nextLeg

def Task.localTask : Task τ → LocalTask τ
  | .wake _ generation => .wake (decide (held? = some generation))
  | .ask _ ticket => .ask ticket
  | .start run => .go ((Post.start run).localRun current?)
  | .finish run document result => .go ((Post.finish run document result).localRun current?)

def Task.localTask? (task : Task τ) : Option (LocalTask τ) :=
  if task.uri = uri then some (task.localTask held? current?) else none

def Pause.localRun? (pause : Pause τ) : Option (LocalRun τ) :=
  if pause.run.uri = uri then some ((Post.pause pause).localRun current?) else none

def localRuns (pauses : List (Pause τ)) : List (LocalRun τ) :=
  pauses.filterMap (Pause.localRun? uri current?)

end Seeing

namespace Pipeline

variable (uri : Uri) (p : Pipeline τ)

/-- The generation of the event that is held back for a document. -/
def held? : Option Nat := (p.debouncer.find? uri).map PendingEvent.generation

def tasksFor : Agenda (LocalTask τ) :=
  p.agenda.view (Task.localTask? uri (p.held? uri) (p.inFlight.current? uri))

def share (hasDescriptor : Bool) (pauses : List (Pause τ)) : Share τ where
  workspace? := p.workspace?
  window := p.window
  now := p.now
  hasDescriptor := hasDescriptor
  isFlying := (p.inFlight.current? uri).isSome
  tasks := p.tasksFor uri
  pauses := localRuns uri (p.inFlight.current? uri) pauses

end Pipeline

def Stage.share (outside : Outside ω) (uri : Uri) (s : Stage τ ω) : Share τ :=
  s.pipeline.share uri (outside.hasDescriptor s.pipeline.workspace? s.world) s.pauses

/-! ## Other documents -/

section Seen

variable {uri : Uri} {held? current? : Option Nat}

theorem localEvents_append (history others : List (Happening τ)) :
    localEvents uri (history ++ others) = localEvents uri history ++ localEvents uri others :=
  List.filterMap_append

theorem localEvents_seen (event : Event τ) (own : event.run.uri = uri) (later : List (Happening τ)) :
    localEvents uri (.seen event :: later) = event.localEvent :: localEvents uri later :=
  List.filterMap_cons_some (if_pos own)

theorem localRuns_cons {pause : Pause τ} (own : pause.run.uri = uri) (pauses : List (Pause τ)) :
    localRuns uri current? (pause :: pauses) =
      (Post.pause pause).localRun current? :: localRuns uri current? pauses :=
  List.filterMap_cons_some (if_pos own)

/-- What the run of another document does is not seen. -/
theorem localEvents_of_other {told : List (Happening τ)} {run : Run τ}
    (own : ∀ happening ∈ told, happening.IsOf run) (other : run.uri ≠ uri) :
    localEvents uri told = [] := by
  refine List.filterMap_eq_nil_iff.mpr fun happening member => ?_
  have does := own happening member
  cases happening with
  | seen event =>
      obtain rfl : event.run = run := does
      simp [Happening.localEvent?, other]
  | _ => rfl

theorem Task.localTask?_of_own {task : Task τ} (own : task.uri = uri) :
    task.localTask? uri held? current? = some (task.localTask held? current?) := if_pos own

theorem Task.localTask?_of_other {task : Task τ} (other : task.uri ≠ uri) :
    task.localTask? uri held? current? = none := if_neg other

theorem Task.localTask?_eq_some {task : Task τ} {localTask : LocalTask τ}
    (sees : task.localTask? uri held? current? = some localTask) :
    task.uri = uri ∧ task.localTask held? current? = localTask := by
  unfold localTask? at sees
  split at sees
  · exact ⟨‹_›, Option.some.inj sees⟩
  · cases sees

theorem Pause.localRun?_eq_some {pause : Pause τ} {localRun : LocalRun τ}
    (sees : pause.localRun? uri current? = some localRun) :
    pause.run.uri = uri ∧ (Post.pause pause).localRun current? = localRun := by
  unfold localRun? at sees
  split at sees
  · exact ⟨‹_›, Option.some.inj sees⟩
  · cases sees

theorem Task.uri_of_isPushOf {task : Task τ} {generation : Nat}
    (pushes : task.isPushOf uri generation = true) : task.uri = uri := by
  have runs := (task.isPushOf_iff uri generation).mp pushes
  cases task <;> simp_all [Task.run?, Task.uri]

/-- The work that is aborted with the current run, as its document sees it. -/
theorem Task.isPushOf_eq {task : Task τ} (own : task.uri = uri) (generation : Nat) :
    task.isPushOf uri generation = (task.localTask held? (some generation)).isCurrentPush := by
  cases task with
  | wake other number => rfl
  | ask other ticket => rfl
  | start run =>
      obtain ⟨other, number, trigger⟩ := run
      cases trigger <;> simp_all [Task.isPushOf, Task.localTask, LocalTask.isCurrentPush,
        LocalRun.isCurrentPush, Post.localRun, Run.localRun, Post.run, Trigger.isPush, Task.uri,
        eq_comm]
  | finish run document result =>
      obtain ⟨other, number, trigger⟩ := run
      cases trigger <;> simp_all [Task.isPushOf, Task.localTask, LocalTask.isCurrentPush,
        LocalRun.isCurrentPush, Post.localRun, Run.localRun, Post.run, Trigger.isPush, Task.uri,
        eq_comm]

end Seen

namespace Pipeline

/-- Nothing has changed for a document. -/
structure SameFor (uri : Uri) (p rest : Pipeline τ) : Prop where
  workspace? : rest.workspace? = p.workspace?
  window : rest.window = p.window
  now : rest.now = p.now
  current : rest.inFlight.current? uri = p.inFlight.current? uri
  held : rest.held? uri = p.held? uri
  tasks : rest.tasksFor uri = p.tasksFor uri

namespace SameFor

variable {uri other : Uri} {p middle rest : Pipeline τ}

theorem refl (p : Pipeline τ) : SameFor uri p p := ⟨rfl, rfl, rfl, rfl, rfl, rfl⟩

theorem trans (first : SameFor uri p middle) (second : SameFor uri middle rest) :
    SameFor uri p rest where
  workspace? := second.workspace?.trans first.workspace?
  window := second.window.trans first.window
  now := second.now.trans first.now
  current := second.current.trans first.current
  held := second.held.trans first.held
  tasks := second.tasks.trans first.tasks

theorem share (same : SameFor uri p rest) (hasDescriptor : Bool) (pauses : List (Pause τ)) :
    rest.share uri hasDescriptor pauses = p.share uri hasDescriptor pauses := by
  simp only [Pipeline.share, same.workspace?, same.window, same.now, same.current, same.tasks]

/-- The flights of other documents. -/
theorem flown (p : Pipeline τ) {f : InFlight} (same : f.current? uri = p.inFlight.current? uri) :
    SameFor uri p { p with inFlight := f } where
  workspace? := rfl
  window := rfl
  now := rfl
  current := same
  held := rfl
  tasks := by simp only [Pipeline.tasksFor, Pipeline.held?, same]

/-- The timers of other documents. -/
theorem timed (p : Pipeline τ) {d : Debouncer Uri Int}
    (same : d.find? uri = p.debouncer.find? uri) : SameFor uri p { p with debouncer := d } where
  workspace? := rfl
  window := rfl
  now := rfl
  current := rfl
  held := congrArg (Option.map _) same
  tasks := by simp only [Pipeline.tasksFor, Pipeline.held?, same]

theorem plan (p : Pipeline τ) (delay : Nat) {task : Task τ} (apart : task.uri ≠ uri) :
    SameFor uri p (p.plan delay task) where
  workspace? := rfl
  window := rfl
  now := rfl
  current := rfl
  held := rfl
  tasks := Agenda.view_add_of_none (Task.localTask?_of_other apart) p.agenda

theorem abortPush (p : Pipeline τ) (apart : other ≠ uri) : SameFor uri p (p.abortPush other) where
  workspace? := abortPush_workspace? p other
  window := abortPush_window p other
  now := abortPush_now p other
  current := congrArg (InFlight.current? · uri) (abortPush_inFlight p other)
  held := congrArg (fun d : Debouncer Uri Int => (d.find? uri).map _) (abortPush_debouncer p other)
  tasks := by
    unfold Pipeline.abortPush
    split
    · rename_i generation current
      refine Eq.trans (filterMap_filter_seen fun entry _ seen sees => ?_) (List.filter_true _)
      obtain ⟨localTask, aim, -⟩ := Option.map_eq_some_iff.mp sees
      obtain ⟨own, -⟩ := Task.localTask?_eq_some aim
      cases pushes : entry.action.isPushOf other generation with
      | false => rfl
      | true => exact absurd ((Task.uri_of_isPushOf pushes).symm.trans own) apart
    · rfl

theorem begin (p : Pipeline τ) (apart : other ≠ uri) (trigger : Trigger τ) :
    SameFor uri p (p.begin other trigger).2 := by
  refine (abortPush p apart).trans (flown (p.abortPush other) ?_)
  rw [InFlight.current?_begin, if_neg apart.symm, abortPush_inFlight]

theorem push (p : Pipeline τ) (apart : other ≠ uri) : SameFor uri p (p.push other) :=
  (begin p apart .push).trans (plan _ 0 apart)

theorem close (p : Pipeline τ) (apart : other ≠ uri) : SameFor uri p (p.close other) := by
  refine (abortPush p apart).trans (.trans (flown (p.abortPush other) (f := p.inFlight.drop other) ?_)
    (timed _ (d := p.debouncer.cancel other) ?_))
  · rw [InFlight.current?_drop, if_neg apart.symm, abortPush_inFlight]
  · exact (Debouncer.find?_cancel _ other uri).trans
      ((if_neg apart.symm).trans (by rw [abortPush_debouncer]))

theorem change (p : Pipeline τ) (apart : other ≠ uri) (version : Int) :
    SameFor uri p (p.change other version) := by
  refine (timed p (d := p.debouncer.schedule other version) ?_).trans (plan _ p.window apart)
  rw [Debouncer.find?_schedule, if_neg apart.symm]

theorem wake (p : Pipeline τ) (apart : other ≠ uri) (generation : Nat) :
    SameFor uri p (p.wake other generation) := by
  have woken := timed p (Debouncer.find?_wake_other p.debouncer apart.symm generation)
  unfold Pipeline.wake
  split
  · exact woken.trans (push _ apart)
  · exact woken

theorem finished (p : Pipeline τ) {run : Run τ} (apart : run.uri ≠ uri) :
    SameFor uri p (p.finished run) := by
  refine flown p ?_
  rw [InFlight.current?_finish, if_neg]
  exact fun same => apart same.1.symm

theorem obey (p : Pipeline τ) {call : Call τ} (apart : call.concerns uri = false) :
    SameFor uri p (p.obey call) := by
  cases call with
  | change other version => exact change p (of_decide_eq_false apart) version
  | close other => exact close p (of_decide_eq_false apart)
  | push other => exact push p (of_decide_eq_false apart)
  | pull other ticket => exact plan p 0 (of_decide_eq_false apart)
  | shutdown => cases apart

end SameFor

end Pipeline

end AsmDiagnostics
