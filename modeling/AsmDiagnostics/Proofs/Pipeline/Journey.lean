import AsmDiagnostics.Proofs.Pipeline.Legs
import AsmDiagnostics.Proofs.Pipeline.Outcome

/-!
# The journey of a run

Whatever happens between its legs, a run goes one way: it clears what is shown for its document,
starts one build, tells of a fault of that build, and delivers the diagnostics of the output.  A push
that is disturbed stops somewhere on that way; every other run comes to its end.
-/

namespace AsmDiagnostics

variable {τ ω : Type}

def Happening.isOfGeneration (generation : Nat) : Happening τ → Bool
  | .started run _ => decide (run.generation = generation)
  | .seen event => decide (event.run.generation = generation)
  | _ => false

/-- What the run of a generation does, in order. -/
def trail (generation : Nat) (history : List (Happening τ)) : List (Happening τ) :=
  history.filter (Happening.isOfGeneration generation)

/-- The documents that can be built, by their URIs. -/
abbrev Documented := Uri → Option (Workspace × DocumentRef)

def opening (run : Run τ) (cleared began : Nat) (command : Build.Command) (result : Build.Result) :
    List (Happening τ) :=
  [.seen ⟨cleared, run, .clear⟩, .started run result, .seen ⟨began, run, .build command⟩]

/-- All that a run does. -/
inductive Journey (documented : Documented) (run : Run τ) : List (Happening τ) → Prop where
  /-- There is nothing to build. -/
  | unfounded (time : Nat) (nothing : documented run.uri = none) :
      Journey documented run [.seen ⟨time, run, .deliver []⟩]
  | built {workspace : Workspace} {document : DocumentRef}
      (found : documented run.uri = some (workspace, document)) (cleared began told ended : Nat)
      (command : Build.Command) (result : Build.Result) :
      Journey documented run (opening run cleared began command result ++
        (result.fault?.toList.map fun fault =>
          .seen ⟨told, run, .complain (Pipeline.complaint document fault)⟩) ++
        [.seen ⟨ended, run, .deliver (document.diagnostics result.output)⟩])

/-- What a run has done that may still go on. -/
def Underway (documented : Documented) (run : Run τ) (trail : List (Happening τ)) : Prop :=
  ∃ rest, Journey documented run (trail ++ rest)

theorem Journey.underway {documented : Documented} {run : Run τ} {trail : List (Happening τ)}
    (journey : Journey documented run trail) : Underway documented run trail :=
  ⟨[], by rwa [List.append_nil]⟩

/-! ## Where a run waits -/

/-- Where a run waits for its next leg. -/
inductive Post (τ : Type) where
  | start (run : Run τ)
  | finish (run : Run τ) (document : DocumentRef) (result : Build.Result)
  | pause (pause : Pause τ)
  deriving DecidableEq, Repr

namespace Post

def run : Post τ → Run τ
  | .start run => run
  | .finish run _ _ => run
  | .pause waits => waits.run

def leg (outside : Outside ω) (world : ω) (p : Pipeline τ) : Post τ → Leg τ ω
  | .start run => p.startLeg world run
  | .finish run document result => p.finishLeg world run document result
  | .pause waits => p.goOn outside world waits

/-- What a run that waits has done. -/
inductive Fits (documented : Documented) : Post τ → List (Happening τ) → Prop where
  | start (run : Run τ) : Fits documented (.start run) []
  | build {run : Run τ} {workspace : Workspace} {document : DocumentRef}
      (found : documented run.uri = some (workspace, document)) (cleared : Nat) :
      Fits documented (.pause (.build run workspace document)) [.seen ⟨cleared, run, .clear⟩]
  | finish {run : Run τ} {workspace : Workspace} {document : DocumentRef} {result : Build.Result}
      (found : documented run.uri = some (workspace, document)) (cleared began : Nat)
      (command : Build.Command) :
      Fits documented (.finish run document result) (opening run cleared began command result)
  | deliver {run : Run τ} {workspace : Workspace} {document : DocumentRef} {result : Build.Result}
      {fault : Build.StepFault} (found : documented run.uri = some (workspace, document))
      (failed : result.fault? = some fault) (cleared began told : Nat) (command : Build.Command) :
      Fits documented (.pause (.deliver run (document.diagnostics result.output)))
        (opening run cleared began command result ++
          [.seen ⟨told, run, .complain (Pipeline.complaint document fault)⟩])

theorem Fits.underway {documented : Documented} {post : Post τ} {trail : List (Happening τ)}
    (fits : Fits documented post trail) : Underway documented post.run trail := by
  -- any command and any result will do for what is still to come
  cases fits with
  | start run =>
      cases found : documented run.uri with
      | none => exact ⟨_, Journey.unfounded 0 found⟩
      | some pair =>
          have whole := Journey.built found 0 0 0 0 ⟨.singleFile, ⟨[]⟩, []⟩ .nothing
          exact ⟨_, whole⟩
  | @build run _ _ found cleared =>
      have whole := Journey.built found cleared 0 0 0 ⟨.singleFile, ⟨[]⟩, []⟩ .nothing
      exact ⟨_, whole⟩
  | @finish run _ document result found cleared began command =>
      have whole := Journey.built found cleared began 0 0 command result
      rw [List.append_assoc] at whole
      exact ⟨_, whole⟩
  | @deliver run workspace document result fault found failed cleared began told command =>
      have whole := Journey.built found cleared began told 0 command result
      rw [failed] at whole
      exact ⟨_, whole⟩

end Post

/-- Where the run of a task waits, if the task carries a run on. -/
def Task.post? : Task τ → Option (Post τ)
  | .start run => some (.start run)
  | .finish run document result => some (.finish run document result)
  | _ => none

/-- The runs that wait on the agenda. -/
def Pipeline.posts (p : Pipeline τ) : List (Post τ) := p.agenda.filterMap fun entry =>
  entry.action.post?

def Leg.posts (leg : Leg τ ω) : List (Post τ) :=
  leg.pipeline.posts ++ leg.pause?.toList.map .pause

def Stage.posts (s : Stage τ ω) : List (Post τ) := s.pipeline.posts ++ s.pauses.map .pause

theorem Stage.posts_at_rest {s : Stage τ ω} (agenda : s.pipeline.agenda = [])
    (pauses : s.pauses = []) : s.posts = [] := by
  simp [posts, Pipeline.posts, agenda, pauses]

/-! ## One leg -/

/-- A leg leads its run to where it waits next, or to its end. -/
inductive Leg.Leads (documented : Documented) (p : Pipeline τ) (run : Run τ)
    (before : List (Happening τ)) (leg : Leg τ ω) : Prop where
  | onward (next : Post τ) (own : next.run = run) (fits : next.Fits documented (before ++ leg.told))
      (inFlight : leg.pipeline.inFlight = p.inFlight) (posts : leg.posts.Perm (next :: p.posts))
  | ended (journey : Journey documented run (before ++ leg.told))
      (inFlight : leg.pipeline.inFlight = p.inFlight.finish run.uri run.generation)
      (posts : leg.posts = p.posts)

inductive Leg.Leaves (p : Pipeline τ) (run : Run τ) (leg : Leg τ ω) : Prop where
  | ended (pipeline : leg.pipeline = p.finished run) (none : leg.pause? = none)
  | paused (pause : Pause τ) (own : pause.run = run) (pipeline : leg.pipeline = p)
      (waits : leg.pause? = some pause)
  | building (delay : Nat) (document : DocumentRef) (result : Build.Result)
      (pipeline : leg.pipeline = p.plan delay (.finish run document result))
      (none : leg.pause? = none)

theorem Leg.Leads.after {documented : Documented} {p : Pipeline τ} {run : Run τ}
    {before told : List (Happening τ)} {leg : Leg τ ω}
    (leads : leg.Leads documented p run (before ++ told)) :
    (leg.after told).Leads documented p run before := by
  have same : before ++ (leg.after told).told = before ++ told ++ leg.told :=
    (List.append_assoc before told leg.told).symm
  cases leads with
  | onward next own fits inFlight posts => exact .onward next own (same ▸ fits) inFlight posts
  | ended journey inFlight posts => exact .ended (same ▸ journey) inFlight posts

namespace Pipeline

variable (outside : Outside ω) (world : ω) {p : Pipeline τ} {run : Run τ}
  {before : List (Happening τ)}

theorem posts_plan (p : Pipeline τ) (delay : Nat) (task : Task τ) :
    (p.plan delay task).posts.Perm (task.post?.toList ++ p.posts) := by
  have moved := (Agenda.perm_add (Agenda.after p.now delay) task p.agenda).filterMap
    fun entry => entry.action.post?
  refine moved.trans (List.Perm.of_eq ?_)
  cases own : task.post? <;> simp [posts, own]

theorem deliver_of_current (current : p.isSuperseded run = false) (diagnostics : List Diagnostic) :
    p.deliver run diagnostics = ([p.eventOf run (.deliver diagnostics)], p.finished run) := by
  simp [deliver, current, finished]

theorem endLeg_leads (current : p.isSuperseded run = false) {diagnostics : List Diagnostic}
    (journey : Journey p.document? run
      (before ++ [.seen (p.eventOf run (.deliver diagnostics))])) :
    (p.endLeg world run diagnostics).Leads p.document? p run before := by
  unfold endLeg
  rw [deliver_of_current current]
  exact .ended journey rfl (List.append_nil _)

theorem finishLeg_leads (current : p.isSuperseded run = false) {document : DocumentRef}
    {result : Build.Result} (fits : (Post.finish run document result).Fits p.document? before) :
    (p.finishLeg world run document result).Leads p.document? p run before := by
  cases fits with
  | @finish _ workspace _ _ found cleared began command =>
      unfold finishLeg
      cases faulty : result.fault? with
      | none =>
          have whole := Journey.built found cleared began 0 p.now command result
          rw [faulty] at whole
          exact endLeg_leads world current (by simpa [eventOf] using whole)
      | some fault =>
          refine .onward (.pause (.deliver run (document.diagnostics result.output))) rfl ?_ rfl ?_
          · have fits := Post.Fits.deliver found faulty cleared began p.now command
            simpa [complain, faulty, eventOf] using fits
          · exact List.perm_append_comm

theorem startLeg_leads (current : p.isSuperseded run = false) :
    (p.startLeg world run).Leads p.document? p run [] := by
  unfold startLeg
  split
  · rename_i nothing
    exact endLeg_leads world current (.unfounded p.now nothing)
  · rename_i workspace document found
    exact .onward (.pause (.build run workspace document)) rfl (.build found p.now) rfl
      List.perm_append_comm

theorem buildLeg_leads (current : p.isSuperseded run = false) {workspace : Workspace}
    {document : DocumentRef}
    (fits : (Post.pause (.build run workspace document)).Fits p.document? before) :
    (p.buildLeg outside world run workspace document).Leads p.document? p run before := by
  cases fits with
  | build found cleared =>
      let command := Build.Command.select workspace (outside.pathExists world) document
      have fits (result : Build.Result) : (Post.finish run document result).Fits p.document?
          (opening run cleared p.now command result) := .finish found cleared p.now command
      rw [buildLeg_eq]
      dsimp only
      split
      · exact Leg.Leads.after (finishLeg_leads _ current (fits _))
      · refine .onward (.finish run document _) rfl (fits _) rfl ?_
        rw [Leg.posts, Option.toList_none, List.map_nil, List.append_nil]
        exact posts_plan p _ _

/-- A run that has not been superseded is led on. -/
theorem leg_leads {post : Post τ} (current : p.isSuperseded post.run = false)
    (fits : post.Fits p.document? before) :
    (post.leg outside world p).Leads p.document? p post.run before := by
  cases post with
  | start run =>
      cases fits
      exact startLeg_leads world current
  | finish run document result => exact finishLeg_leads world current fits
  | pause pause =>
      cases pause with
      | build run workspace document => exact buildLeg_leads outside world current fits
      | deliver run diagnostics =>
          cases fits with
          | @deliver _ workspace document result fault found failed cleared began told command =>
              have whole := Journey.built found cleared began told p.now command result
              rw [failed] at whole
              exact endLeg_leads world current whole

/-- What a leg leaves behind: its run has come to its end, or it pauses, or its build runs. -/
theorem leg_leaves (p : Pipeline τ) (post : Post τ) :
    (post.leg outside world p).Leaves p post.run := by
  have ended (run : Run τ) (world : ω) (diagnostics : List Diagnostic) :
      (p.endLeg world run diagnostics).Leaves p run :=
    .ended (deliver_pipeline p run diagnostics) rfl
  have finish (run : Run τ) (world : ω) (document : DocumentRef) (result : Build.Result) :
      (p.finishLeg world run document result).Leaves p run := by
    unfold finishLeg
    split
    · exact ended run world _
    · exact .paused (.deliver run _) rfl rfl rfl
  cases post with
  | start run =>
      simp only [Post.leg, startLeg]
      split
      · exact ended run world []
      · exact .paused (.build run _ _) rfl rfl rfl
  | finish run document result => exact finish run world document result
  | pause pause =>
      cases pause with
      | deliver run diagnostics => exact ended run world diagnostics
      | build run workspace document =>
          simp only [Post.leg, goOn, buildLeg_eq]
          split
          · -- the end of the build is told behind its start, and leaves the same
            cases finish run _ document _ with
            | ended pipeline pause => exact .ended pipeline pause
            | paused next own pipeline pause => exact .paused next own pipeline pause
            | building delay document result pipeline pause =>
                exact .building delay document result pipeline pause
          · exact .building _ document _ rfl rfl

/-- The world is left alone in a leg, but for a build. -/
theorem leg_world (p : Pipeline τ) (post : Post τ) :
    (post.leg outside world p).world = world ∨
      ∃ command, (post.leg outside world p).world = (outside.build world command).2.2 := by
  have finish (run : Run τ) (world : ω) (document : DocumentRef) (result : Build.Result) :
      (p.finishLeg world run document result).world = world := by
    unfold finishLeg
    split <;> rfl
  cases post with
  | start run =>
      simp only [Post.leg, startLeg]
      split <;> exact .inl rfl
  | finish run document result => exact .inl (finish run world document result)
  | pause pause =>
      cases pause with
      | deliver run diagnostics => exact .inl rfl
      | build run workspace document =>
          refine .inr ⟨.select workspace (outside.pathExists world) document, ?_⟩
          simp only [Post.leg, goOn, buildLeg_eq]
          split
          · exact finish run _ document _
          · rfl

/-- A leg is told of its own run only. -/
theorem leg_isOf (p : Pipeline τ) (post : Post τ) :
    ∀ happening ∈ (post.leg outside world p).told, happening.IsOf post.run := by
  have finish (run : Run τ) (world : ω) (document : DocumentRef) (result : Build.Result) :
      ∀ happening ∈ (p.finishLeg world run document result).told, happening.IsOf run := by
    unfold finishLeg
    split
    · exact seen_isOf run (deliver_isOf p run _)
    · exact seen_isOf run fun event member =>
        lastEvents_isOf p run document result event (List.mem_append_left _ member)
  cases post with
  | start run =>
      simp only [Post.leg, startLeg]
      split
      · exact seen_isOf run (deliver_isOf p run [])
      · exact fun happening member => List.mem_singleton.mp member ▸ rfl
  | finish run document result => exact finish run world document result
  | pause pause =>
      cases pause with
      | deliver run diagnostics => exact seen_isOf run (deliver_isOf p run diagnostics)
      | build run workspace document =>
          simp only [Post.leg, goOn, buildLeg_eq]
          split
          · intro happening member
            simp only [Leg.after, List.cons_append, List.nil_append, List.mem_cons] at member
            rcases member with rfl | rfl | later
            · rfl
            · rfl
            · exact finish run _ document _ happening later
          · intro happening member
            simp only [List.mem_cons, List.not_mem_nil, or_false] at member
            rcases member with rfl | rfl <;> rfl

theorem leg_workspace? (p : Pipeline τ) (post : Post τ) :
    (post.leg outside world p).pipeline.workspace? = p.workspace? := by
  cases leg_leaves outside world p post with
  | ended pipeline => rw [pipeline, finished]
  | paused _ _ pipeline => rw [pipeline]
  | building _ _ _ pipeline => rw [pipeline, plan]

end Pipeline

/-! ## Trails -/

section Trails

variable {history others : List (Happening τ)} {run : Run τ}

theorem trail_append (generation : Nat) (history others : List (Happening τ)) :
    trail generation (history ++ others) = trail generation history ++ trail generation others :=
  List.filter_append ..

theorem Happening.IsOf.generation {happening : Happening τ} (own : happening.IsOf run)
    (generation : Nat) :
    happening.isOfGeneration generation = decide (run.generation = generation) := by
  cases happening with
  | started other result =>
      obtain rfl : other = run := own
      rfl
  | seen event =>
      obtain rfl : event.run = run := own
      rfl
  | _ => exact own.elim

theorem Happening.IsOf.isQuiet {happening : Happening τ} (own : happening.IsOf run) :
    happening.IsQuiet := by
  cases happening <;> trivial

theorem Happening.IsOf.unique {happening : Happening τ} {other : Run τ}
    (first : happening.IsOf run) (second : happening.IsOf other) : run = other := by
  cases happening with
  | started own result => exact Eq.trans (Eq.symm first) second
  | seen event => exact Eq.trans (Eq.symm first) second
  | _ => exact first.elim

theorem trail_own (own : ∀ happening ∈ others, happening.IsOf run) :
    trail run.generation others = others :=
  List.filter_eq_self.mpr fun happening member => by
    simp [(own happening member).generation run.generation]

theorem trail_other (own : ∀ happening ∈ others, happening.IsOf run) {generation : Nat}
    (different : run.generation ≠ generation) : trail generation others = [] :=
  List.filter_eq_nil_iff.mpr fun happening member => by
    simp [(own happening member).generation generation, different]

theorem trail_loud {happening : Happening τ} (loud : ¬ happening.IsQuiet) (generation : Nat) :
    trail generation [happening] = [] := by
  cases happening with
  | started run result => exact absurd trivial loud
  | seen event => exact absurd trivial loud
  | _ => rfl

theorem trail_append_own (own : ∀ happening ∈ others, happening.IsOf run) :
    trail run.generation (history ++ others) = trail run.generation history ++ others := by
  rw [trail_append, trail_own own]

theorem trail_append_other (own : ∀ happening ∈ others, happening.IsOf run) {generation : Nat}
    (different : run.generation ≠ generation) :
    trail generation (history ++ others) = trail generation history := by
  rw [trail_append, trail_other own different, List.append_nil]

theorem trail_concat_loud {happening : Happening τ} (loud : ¬ happening.IsQuiet)
    (generation : Nat) : trail generation (history ++ [happening]) = trail generation history := by
  rw [trail_append, trail_loud loud, List.append_nil]

end Trails

end AsmDiagnostics
