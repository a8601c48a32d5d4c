import AsmDiagnostics.Pipeline.Basic

/-!
# Runs in legs

The editor need not take at once what a run tells it: the run pauses then, and goes on when it has
been taken.  So a run goes in legs, and between two legs anything else may happen.  If the editor
takes everything at once, a task is performed in one piece, which is its legs one right after the
other.
-/

namespace AsmDiagnostics

variable {τ ω : Type}

inductive Happening (τ : Type) where
  /-- A run begins: this is the trigger of a push or of a pull. -/
  | begun (time : Nat) (run : Run τ)
  | closed (uri : Uri)
  /-- The session ended. -/
  | stopped
  /-- A run started a build that comes to a result. -/
  | started (run : Run τ) (result : Build.Result)
  /-- An event was seen outside. -/
  | seen (event : Event τ)
  deriving DecidableEq, Repr

def Happening.event? : Happening τ → Option (Event τ)
  | .seen event => some event
  | _ => none

/-- What a run goes on with when the editor has taken what it was told. -/
inductive Pause (τ : Type) where
  /-- What was shown for the document is cleared; the build is next. -/
  | build (run : Run τ) (workspace : Workspace) (document : DocumentRef)
  /-- The editor knows about the fault of the build; the diagnostics are next. -/
  | deliver (run : Run τ) (diagnostics : List Diagnostic)
  deriving DecidableEq, Repr

def Pause.run : Pause τ → Run τ
  | .build run _ _ => run
  | .deliver run _ => run

@[simp] theorem Pause.run_build (run : Run τ) (workspace : Workspace) (document : DocumentRef) :
    (Pause.build run workspace document).run = run := rfl

@[simp] theorem Pause.run_deliver (run : Run τ) (diagnostics : List Diagnostic) :
    (Pause.deliver run diagnostics).run = run := rfl

/-- What happens up to the next pause, and what it leaves behind. -/
structure Leg (τ ω : Type) where
  told : List (Happening τ)
  world : ω
  pipeline : Pipeline τ
  pause? : Option (Pause τ)

def Leg.after (before : List (Happening τ)) (leg : Leg τ ω) : Leg τ ω :=
  { leg with told := before ++ leg.told }

def Leg.events (leg : Leg τ ω) : List (Event τ) := leg.told.filterMap Happening.event?

namespace Pipeline

section Legs

variable (outside : Outside ω) (world : ω) (p : Pipeline τ) (run : Run τ)

def endLeg (diagnostics : List Diagnostic) : Leg τ ω :=
  let (events, rest) := p.deliver run diagnostics
  ⟨events.map .seen, world, rest, none⟩

/-- The build of a run is over: the editor hears of its fault first, if there was one. -/
def finishLeg (document : DocumentRef) (result : Build.Result) : Leg τ ω :=
  match result.fault? with
  | none => p.endLeg world run (document.diagnostics result.output)
  | some _ => ⟨(p.complain run document result).map .seen, world, p,
      some (.deliver run (document.diagnostics result.output))⟩

def startLeg : Leg τ ω :=
  match p.document? run.uri with
  | none => p.endLeg world run []
  | some (workspace, document) =>
      ⟨[.seen (p.eventOf run .clear)], world, p, some (.build run workspace document)⟩

def buildLeg (workspace : Workspace) (document : DocumentRef) : Leg τ ω :=
  let command := Build.Command.select workspace (outside.pathExists world) document
  let launched := p.launch outside world run workspace document
  let opening := [.started run (outside.build world command).1, .seen launched.event]
  match launched.result? with
  | none => ⟨opening, launched.world, launched.pipeline, none⟩
  | some result =>
      (launched.pipeline.finishLeg launched.world run document result).after opening

/-- A build that takes no time is over in the leg in which it starts. -/
theorem buildLeg_eq (workspace : Workspace) (document : DocumentRef) :
    p.buildLeg outside world run workspace document =
      let command := Build.Command.select workspace (outside.pathExists world) document
      let built := outside.build world command
      let told := [.started run built.1, .seen (p.eventOf run (.build command))]
      if built.2.1 = 0 then (p.finishLeg built.2.2 run document built.1).after told
      else ⟨told, built.2.2, p.plan built.2.1 (.finish run document built.1), none⟩ := by
  by_cases instant : (outside.build world
      (Build.Command.select workspace (outside.pathExists world) document)).2.1 = 0
  · simp [buildLeg, launch, instant]
  · simp [buildLeg, launch, instant]

end Legs

def goOn (outside : Outside ω) (world : ω) (p : Pipeline τ) : Pause τ → Leg τ ω
  | .build run workspace document => p.buildLeg outside world run workspace document
  | .deliver run diagnostics => p.endLeg world run diagnostics

def legOf (world : ω) (p : Pipeline τ) : Task τ → Leg τ ω
  | .wake uri generation =>
      ⟨if (p.debouncer.due? uri generation).isSome then [.begun p.now (p.begin uri .push).1] else [],
        world, p.wake uri generation, none⟩
  | .ask uri ticket =>
      let (run, rest) := p.begin uri (.pull ticket)
      (rest.startLeg world run).after [.begun p.now run]
  | .start run => p.startLeg world run
  | .finish run document result => p.finishLeg world run document result

end Pipeline

/-! ## An editor that takes everything at once -/

namespace Leg

variable (outside : Outside ω)

def onward (leg : Leg τ ω) : Leg τ ω :=
  match leg.pause? with
  | none => leg
  | some pause => (leg.pipeline.goOn outside leg.world pause).after leg.told

/-- A leg and all that follow it: a run pauses before its build and behind it, and nowhere else. -/
def whole (leg : Leg τ ω) : Leg τ ω := (leg.onward outside).onward outside

theorem onward_after (before : List (Happening τ)) (leg : Leg τ ω) :
    (leg.after before).onward outside = (leg.onward outside).after before := by
  obtain ⟨told, world, p, pause?⟩ := leg
  cases pause? with
  | none => rfl
  | some pause => simp [onward, Leg.after]

theorem whole_after (before : List (Happening τ)) (leg : Leg τ ω) :
    (leg.after before).whole outside = (leg.whole outside).after before := by
  simp only [whole, onward_after]

theorem onward_of_ended {leg : Leg τ ω} (ended : leg.pause? = none) : leg.onward outside = leg := by
  rw [onward, ended]

end Leg

namespace Pipeline

variable (outside : Outside ω) (world : ω) (p : Pipeline τ)

def execute (run : Run τ) : Leg τ ω := (p.startLeg world run).whole outside

def perform (task : Task τ) : Leg τ ω := (p.legOf world task).whole outside

theorem perform_wake (uri : Uri) (generation : Nat) :
    p.perform outside world (.wake uri generation) =
      ⟨if (p.debouncer.due? uri generation).isSome then [.begun p.now (p.begin uri .push).1] else [],
        world, p.wake uri generation, none⟩ := rfl

theorem perform_ask (uri : Uri) (ticket : τ) :
    p.perform outside world (.ask uri ticket) =
      ((p.begin uri (.pull ticket)).2.execute outside world (p.begin uri (.pull ticket)).1).after
        [.begun p.now (p.begin uri (.pull ticket)).1] :=
  Leg.whole_after outside _ _

theorem perform_ask_pipeline (uri : Uri) (ticket : τ) :
    (p.perform outside world (.ask uri ticket)).pipeline =
      ((p.begin uri (.pull ticket)).2.execute outside world
        (p.begin uri (.pull ticket)).1).pipeline := by
  rw [perform_ask]
  rfl

end Pipeline

end AsmDiagnostics
