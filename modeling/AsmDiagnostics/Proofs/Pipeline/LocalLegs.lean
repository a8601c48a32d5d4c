import AsmDiagnostics.Proofs.Pipeline.Share

/-!
# Legs as their documents see them

What is done for a document is done by its share: calls, the legs of its tasks, and the legs of its
runs that pause.  The numbers that the pipeline gives play no part in that, as long as what waits
has numbers that were given before.  The legs of other documents pass by a share.
-/

namespace AsmDiagnostics

variable {τ ω : Type}

namespace Pipeline

/-! ## The document itself -/

section Own

variable (uri : Uri) (hasDescriptor : Bool) (pauses : List (Pause τ)) {p : Pipeline τ}

/-- A task of the document is entered. -/
theorem share_plan (ordered : Agenda.Ordered p.agenda) (delay : Nat) (task : Task τ)
    (own : task.uri = uri) :
    (p.plan delay task).share uri hasDescriptor pauses =
      (p.share uri hasDescriptor pauses).plan delay
        (task.localTask (p.held? uri) (p.inFlight.current? uri)) := by
  have entered : (p.plan delay task).tasksFor uri = (p.tasksFor uri).add (Agenda.after p.now delay)
      (task.localTask (p.held? uri) (p.inFlight.current? uri)) :=
    Agenda.view_add_of_some (Task.localTask?_of_own own) ordered
  exact congrArg (fun tasks => { p.share uri hasDescriptor pauses with tasks := tasks }) entered

/-- Another event is held back for the document, or none. -/
theorem share_timed {d : Debouncer Uri Int}
    (gone : ∀ entry ∈ p.agenda, ∀ generation, entry.action = .wake uri generation →
      (d.find? uri).map PendingEvent.generation ≠ some generation) :
    ({ p with debouncer := d } : Pipeline τ).share uri hasDescriptor pauses =
      (p.share uri hasDescriptor pauses).dropHeld := by
  have unheld : p.agenda.view (Task.localTask? uri ((d.find? uri).map PendingEvent.generation)
      (p.inFlight.current? uri)) = (p.tasksFor uri).map (.map LocalTask.unheld) := by
    refine Agenda.view_map fun entry member => ?_
    by_cases own : entry.action.uri = uri
    · rw [Task.localTask?_of_own own, Task.localTask?_of_own own]
      cases task : entry.action with
      | wake other generation =>
          obtain rfl : other = uri := by simpa [task, Task.uri] using own
          simp [Task.localTask, LocalTask.unheld, gone entry member generation task]
      | _ => rfl
    · rw [Task.localTask?_of_other own, Task.localTask?_of_other own]
      rfl
  exact congrArg (fun tasks => { p.share uri hasDescriptor pauses with tasks := tasks }) unheld

/-- Another run is the current one of the document, or none. -/
theorem share_flown {f : InFlight}
    (gone : ∀ post ∈ p.posts ++ pauses.map .pause, post.run.uri = uri →
      f.current? uri ≠ some post.run.generation) :
    ({ p with inFlight := f } : Pipeline τ).share uri hasDescriptor pauses =
      { (p.share uri hasDescriptor pauses).dropCurrent with
        isFlying := (f.current? uri).isSome } := by
  have localRun (post : Post τ) (member : post ∈ p.posts ++ pauses.map .pause)
      (own : post.run.uri = uri) : post.localRun (f.current? uri) =
        (post.localRun (p.inFlight.current? uri)).superseded := by
    simp [Post.localRun, Run.localRun, LocalRun.superseded, gone post member own]
  have tasks : p.agenda.view (Task.localTask? uri (p.held? uri) (f.current? uri)) =
      (p.tasksFor uri).map (.map LocalTask.superseded) := by
    refine Agenda.view_map fun entry member => ?_
    by_cases own : entry.action.uri = uri
    · rw [Task.localTask?_of_own own, Task.localTask?_of_own own]
      have waits (post : Post τ) (carries : entry.action.post? = some post) :
          post ∈ p.posts ++ pauses.map .pause :=
        List.mem_append_left _ (mem_posts.mpr ⟨entry, member, carries⟩)
      cases task : entry.action with
      | start run =>
          rw [task] at own waits
          simp [Task.localTask, LocalTask.superseded, localRun (.start run) (waits _ rfl) own]
      | finish run document result =>
          rw [task] at own waits
          simp [Task.localTask, LocalTask.superseded,
            localRun (.finish run document result) (waits _ rfl) own]
      | _ => rfl
    · rw [Task.localTask?_of_other own, Task.localTask?_of_other own]
      rfl
  have localRuns : localRuns uri (f.current? uri) pauses =
      (localRuns uri (p.inFlight.current? uri) pauses).map LocalRun.superseded := by
    refine filterMap_map_seen fun pause member => ?_
    unfold Pause.localRun?
    split
    · rename_i own
      exact congrArg some (localRun (.pause pause)
        (List.mem_append_right _ (List.mem_map_of_mem member)) own)
    · rfl
  simp only [share, Share.dropCurrent, Pipeline.tasksFor, Pipeline.held?, localRuns] at tasks ⊢
  rw [tasks]

/-- The work of the current run is aborted. -/
theorem share_abortPush :
    (p.abortPush uri).share uri hasDescriptor pauses =
      (p.share uri hasDescriptor pauses).abort := by
  have tasks : (p.abortPush uri).tasksFor uri =
      (p.tasksFor uri).filter fun entry => !entry.action.isCurrentPush := by
    unfold Pipeline.tasksFor
    rw [abortPush_inFlight, show (p.abortPush uri).held? uri = p.held? uri by
      rw [held?, abortPush_debouncer, held?]]
    unfold abortPush
    split
    · rename_i generation current
      refine filterMap_filter_seen fun entry _ seen sees => ?_
      obtain ⟨localTask, aim, rfl⟩ := Option.map_eq_some_iff.mp sees
      obtain ⟨own, rfl⟩ := Task.localTask?_eq_some aim
      rw [current, Task.isPushOf_eq own]
    · rename_i current
      refine (List.filter_eq_self.mpr fun seen member => ?_).symm
      obtain ⟨entry, -, sees, -⟩ := Agenda.mem_view.mp member
      obtain ⟨own, same⟩ := Task.localTask?_eq_some sees
      rw [← same, current]
      cases entry.action <;>
        simp [Task.localTask, LocalTask.isCurrentPush, LocalRun.isCurrentPush, Post.localRun,
          Run.localRun]
  simp only [share, Share.abort, tasks, abortPush_workspace?, abortPush_window, abortPush_now,
    abortPush_inFlight]

/-- Whatever waits is in order, and the numbers of all timers have been given before. -/
structure Neat (p : Pipeline τ) : Prop where
  ordered : Agenda.Ordered p.agenda
  timers : ∀ entry ∈ p.agenda, ∀ uri generation, entry.action = .wake uri generation →
    generation ≤ p.debouncer.lastGeneration

structure Numbers (p : Pipeline τ) (pauses : List (Pause τ)) : Prop extends p.Neat where
  runs : ∀ post ∈ p.posts ++ pauses.map .pause, post.run.generation ≤ p.inFlight.lastGeneration

namespace Neat

variable {rest : Pipeline τ}

theorem of_sublist (h : p.Neat) (fewer : rest.agenda.Sublist p.agenda)
    (timers : rest.debouncer.lastGeneration = p.debouncer.lastGeneration) : rest.Neat :=
  ⟨h.ordered.sublist fewer, fun entry member => timers ▸ h.timers entry (fewer.subset member)⟩

theorem plan (h : p.Neat) (delay : Nat) {task : Task τ}
    (numbered : ∀ uri generation, task = .wake uri generation →
      generation ≤ p.debouncer.lastGeneration) : (p.plan delay task).Neat := by
  refine ⟨Agenda.add_ordered h.ordered, fun entry member => ?_⟩
  rcases (mem_plan p delay task entry).mp member with rfl | old
  · exact numbered
  · exact h.timers entry old

theorem begin (h : p.Neat) (uri : Uri) (trigger : Trigger τ) : (p.begin uri trigger).2.Neat :=
  h.of_sublist (abortPush_sublist p uri) (congrArg _ (begin_debouncer p uri trigger))

theorem push (h : p.Neat) (uri : Uri) : (p.push uri).Neat := (h.begin uri .push).plan 0 nofun

theorem obey (h : p.Neat) (call : Call τ) : (p.obey call).Neat := by
  cases call with
  | change uri version =>
      have held : Neat { p with debouncer := p.debouncer.schedule uri version } :=
        ⟨h.ordered, fun entry member other generation task =>
          Nat.le_succ_of_le (h.timers entry member other generation task)⟩
      refine held.plan p.window fun other generation same => ?_
      injection same with _ newest
      exact Nat.le_of_eq newest.symm
  | close uri => exact h.of_sublist (abortPush_sublist p uri) rfl
  | push uri => exact h.push uri
  | pull uri ticket => exact h.plan 0 nofun
  | shutdown => exact h.of_sublist p.shutdown_sublist rfl

theorem leg (h : p.Neat) (outside : Outside ω) (world : ω) (post : Post τ) :
    (post.leg outside world p).pipeline.Neat := by
  cases leg_leaves outside world p post with
  | ended pipeline =>
      rw [pipeline]
      exact h.of_sublist (List.Sublist.refl _) rfl
  | paused _ _ pipeline =>
      rw [pipeline]
      exact h
  | building delay document result pipeline =>
      rw [pipeline]
      exact h.plan delay nofun

theorem legOf (h : p.Neat) (outside : Outside ω) (world : ω) (task : Task τ) :
    (p.legOf world task).pipeline.Neat := by
  cases task with
  | wake uri generation =>
      have woken : Neat { p with debouncer := p.debouncer.wake uri generation } :=
        h.of_sublist (List.Sublist.refl _) (Debouncer.lastGeneration_wake p.debouncer uri generation)
      simp only [Pipeline.legOf, wake]
      split
      · exact woken.push uri
      · exact woken
  | ask uri ticket => exact (h.begin uri (.pull ticket)).leg outside world (.start _)
  | start run => exact h.leg outside world (.start run)
  | finish run document result => exact h.leg outside world (.finish run document result)

end Neat

theorem Numbers.aborted {pauses : List (Pause τ)} (numbers : p.Numbers pauses) (other : Uri) :
    (p.abortPush other).Numbers pauses := by
  have fewer := abortPush_sublist p other
  refine ⟨numbers.toNeat.of_sublist fewer (congrArg _ (abortPush_debouncer p other)),
    fun post member => ?_⟩
  rw [abortPush_inFlight]
  exact numbers.runs post (((fewer.filterMap _).append_right _).subset member)

variable {pauses : List (Pause τ)} (numbers : p.Numbers pauses)

include numbers

theorem share_begin (trigger : Trigger τ) :
    (p.begin uri trigger).2.share uri hasDescriptor pauses =
      (p.share uri hasDescriptor pauses).begin := by
  have gone : ∀ post ∈ (p.abortPush uri).posts ++ pauses.map .pause, post.run.uri = uri →
      (p.inFlight.begin uri).current? uri ≠ some post.run.generation := by
    intro post member _ same
    have bound := (numbers.aborted uri).runs post member
    rw [InFlight.current?_begin_self] at same
    rw [← Option.some.inj same, abortPush_inFlight] at bound
    exact Nat.not_succ_le_self _ bound
  have flown := share_flown uri hasDescriptor pauses gone
  rw [share_abortPush, InFlight.current?_begin_self] at flown
  exact flown

theorem share_push :
    (p.push uri).share uri hasDescriptor pauses = (p.share uri hasDescriptor pauses).push := by
  have planned : (p.push uri).share uri hasDescriptor pauses = _ :=
    share_plan uri hasDescriptor pauses (p := (p.begin uri .push).2) (numbers.aborted uri).ordered 0
      (.start ⟨uri, p.inFlight.nextGeneration, .push⟩) rfl
  rw [planned, share_begin uri hasDescriptor numbers, begin_inFlight, InFlight.current?_begin_self]
  simp [Share.push, Task.localTask, Post.localRun, Run.localRun, Post.run, Post.nextLeg]

theorem share_change (version : Int) :
    (p.change uri version).share uri hasDescriptor pauses =
      (p.share uri hasDescriptor pauses).obey (.change uri version) := by
  have found : (p.debouncer.schedule uri version).find? uri =
      some ⟨uri, p.debouncer.nextGeneration, version⟩ :=
    (Debouncer.find?_schedule p.debouncer uri uri version).trans (if_pos rfl)
  have timed := share_timed uri hasDescriptor pauses (p := p)
    (d := p.debouncer.schedule uri version) fun entry member generation task same => by
      have bound := numbers.timers entry member uri generation task
      rw [found, Option.map_some, Option.some.injEq] at same
      subst same
      exact Nat.not_succ_le_self _ bound
  have planned := share_plan uri hasDescriptor pauses
    (p := { p with debouncer := p.debouncer.schedule uri version }) numbers.ordered p.window
    (.wake uri p.debouncer.nextGeneration) rfl
  rw [timed] at planned
  refine planned.trans ?_
  simp [Share.obey, Task.localTask, held?, found, share, Share.dropHeld]

/-- A timer that is not the one that is held back has no effect. -/
theorem share_wake (generation : Nat) :
    (p.wake uri generation).share uri hasDescriptor pauses =
      if p.held? uri = some generation then (p.share uri hasDescriptor pauses).dropHeld.push
      else p.share uri hasDescriptor pauses := by
  have due : (p.debouncer.due? uri generation).isSome ↔ p.held? uri = some generation := by
    rw [Debouncer.due?_isSome_iff, held?, Option.map_eq_some_iff]
  unfold wake
  by_cases held : p.held? uri = some generation
  · have woken : Numbers { p with debouncer := p.debouncer.wake uri generation } pauses := by
      exact ⟨numbers.toNeat.of_sublist (List.Sublist.refl _)
        (Debouncer.lastGeneration_wake p.debouncer uri generation), numbers.runs⟩
    have gone := Debouncer.find?_wake_self p.debouncer uri (due.mpr held)
    have timed := share_timed uri hasDescriptor pauses (p := p)
      (d := p.debouncer.wake uri generation) fun _ _ _ _ => by simp [gone]
    rw [if_pos (due.mpr held), if_pos held, share_push uri hasDescriptor woken, timed]
  · rw [if_neg (mt due.mp held), if_neg held,
      Debouncer.wake_of_not_due p.debouncer uri (mt due.mp held)]

end Own

section Stop

variable (uri : Uri) (hasDescriptor : Bool) (pauses : List (Pause τ)) (p : Pipeline τ)

/-- Nothing goes on that could be aborted or was held back. -/
theorem share_stop {f : InFlight} {d : Debouncer Uri Int} (grounded : f.current? uri = none)
    (dropped : d.find? uri = none) :
    ({ p with inFlight := f, debouncer := d } : Pipeline τ).share uri hasDescriptor pauses =
      (p.share uri hasDescriptor pauses).dropCurrent.dropHeld := by
  have timed := share_timed uri hasDescriptor pauses (p := { p with inFlight := f }) (d := d)
    fun _ _ _ _ => by simp [dropped]
  have flown := share_flown uri hasDescriptor pauses (p := p) (f := f)
    fun _ _ _ => by simp [grounded]
  rw [grounded] at flown
  rw [flown] at timed
  exact timed

theorem share_close :
    (p.close uri).share uri hasDescriptor pauses = (p.share uri hasDescriptor pauses).stop := by
  have stopped := share_stop uri hasDescriptor pauses (p.abortPush uri)
    ((InFlight.current?_drop p.inFlight uri uri).trans (if_pos rfl))
    ((Debouncer.find?_cancel p.debouncer uri uri).trans (if_pos rfl))
  rw [share_abortPush] at stopped
  exact stopped

/-- Each document is stopped like a single one. -/
theorem share_shutdown :
    p.shutdown.share uri hasDescriptor pauses = (p.share uri hasDescriptor pauses).stop := by
  let abortAll (flights : List Flight) (p : Pipeline τ) : Pipeline τ :=
    flights.foldl (fun rest flight => rest.abortPush flight.uri) p
  have once (flights : List Flight) (p : Pipeline τ) :
      (abortAll flights p).share uri hasDescriptor pauses =
        if uri ∈ flights.map Flight.uri then (p.share uri hasDescriptor pauses).abort
        else p.share uri hasDescriptor pauses := by
    induction flights generalizing p with
    | nil => rfl
    | cons flight flights ih =>
        have rest : (abortAll (flight :: flights) p).share uri hasDescriptor pauses = _ :=
          ih (p.abortPush flight.uri)
        rw [rest]
        by_cases own : flight.uri = uri
        · subst own
          rw [share_abortPush]
          simp [Share.abort]
        · rw [(SameFor.abortPush p own).share hasDescriptor pauses]
          simp [Ne.symm own]
  have aborted : (abortAll p.inFlight.flights p).share uri hasDescriptor pauses =
      (p.share uri hasDescriptor pauses).abort := by
    rw [once]
    split
    · rfl
    · rename_i away
      have none : p.inFlight.current? uri = none := by
        rw [Option.eq_none_iff_forall_ne_some]
        exact fun generation current =>
          away (List.mem_map_of_mem (InFlight.mem_flights_of_current? current))
      have idle : p.abortPush uri = p := by simp [abortPush, none]
      rw [← share_abortPush, idle]
  have stopped := share_stop uri hasDescriptor pauses (abortAll p.inFlight.flights p)
    (InFlight.current?_dropAll p.inFlight uri) (d := p.debouncer.cancelAll) rfl
  rw [aborted] at stopped
  exact stopped

end Stop

end Pipeline

/-! ## Legs -/

def Leg.share (outside : Outside ω) (uri : Uri) (pauses : List (Pause τ)) (leg : Leg τ ω) : Share τ :=
  (Stage.mk leg.world leg.pipeline pauses).share outside uri

/-- What a document sees of a leg. -/
structure Leg.Shows (outside : Outside ω) (uri : Uri) (pauses : List (Pause τ)) (leg : Leg τ ω)
    (localLeg : LocalLeg τ) : Prop where
  told : localEvents uri leg.told = localLeg.told
  share : leg.share outside uri pauses = localLeg.share
  pause : localRuns uri (leg.pipeline.inFlight.current? uri) leg.pause?.toList =
    localLeg.pause?.toList

theorem Leg.Shows.after {outside : Outside ω} {uri : Uri} {pauses : List (Pause τ)} {leg : Leg τ ω}
    {localLeg : LocalLeg τ} (shows : leg.Shows outside uri pauses localLeg)
    (told : List (Happening τ)) :
    (leg.after told).Shows outside uri pauses (localLeg.after (localEvents uri told)) where
  told := (localEvents_append told leg.told).trans (congrArg (_ ++ ·) shows.told)
  share := shows.share
  pause := shows.pause

/-- The mode of a build depends on the descriptor alone. -/
theorem Build.Command.select_congr (workspace : Workspace) {exists₁ exists₂ : Path → Bool}
    (same : exists₁ workspace.descriptor = exists₂ workspace.descriptor) (document : DocumentRef) :
    select workspace exists₁ document = select workspace exists₂ document := by
  unfold select Workspace.buildMode
  rw [same]

namespace Pipeline

variable (outside : Outside ω) (world : ω) (p : Pipeline τ) (pauses : List (Pause τ))

section Own

variable (run : Run τ)

theorem isSuperseded_eq (nextLeg : NextLeg) :
    p.isSuperseded run = !(run.localRun (p.inFlight.current? run.uri) nextLeg).isLive :=
  (Bool.not_not _).symm

theorem endLeg_shows (nextLeg : NextLeg) (diagnostics : List Diagnostic) :
    (p.endLeg world run diagnostics).Shows outside run.uri pauses
      (((Stage.mk world p pauses).share outside run.uri).endLeg
        (run.localRun (p.inFlight.current? run.uri) nextLeg) diagnostics) := by
  have told : localEvents run.uri (p.endLeg world run diagnostics).told =
      if (run.localRun (p.inFlight.current? run.uri) nextLeg).isLive then
        [⟨p.now, run.trigger, .deliver diagnostics⟩] else [] := by
    unfold endLeg deliver
    rw [isSuperseded_eq p run nextLeg]
    cases (run.localRun (p.inFlight.current? run.uri) nextLeg).isLive with
    | true => simp [localEvents, Happening.localEvent?, eventOf, Event.localEvent]
    | false => rfl
  refine ⟨told, ?_, rfl⟩
  have finished : (p.endLeg world run diagnostics).pipeline = p.finished run :=
    deliver_pipeline p run diagnostics
  unfold Leg.share Stage.share
  rw [finished]
  by_cases current : p.inFlight.current? run.uri = some run.generation
  · have gone : (p.inFlight.finish run.uri run.generation).current? run.uri = none := by
      rw [InFlight.current?_finish, if_pos ⟨rfl, current⟩]
    have flown := share_flown run.uri (outside.hasDescriptor p.workspace? world) pauses
      (p := p) (f := p.inFlight.finish run.uri run.generation) fun _ _ _ => by simp [gone]
    rw [gone] at flown
    simp only [Share.endLeg, Run.localRun, current, decide_true, if_true]
    exact flown
  · have still : p.finished run = p := by
      have away : p.inFlight.isCurrent run.uri run.generation = false :=
        Bool.eq_false_iff.mpr (mt (InFlight.isCurrent_iff ..).mp current)
      rw [Pipeline.finished, InFlight.finish_of_superseded away]
    simp only [Share.endLeg, Run.localRun, current, decide_false, Bool.false_eq_true, if_false]
    rw [still]
    rfl

theorem finishLeg_shows (nextLeg : NextLeg) (document : DocumentRef) (result : Build.Result) :
    (p.finishLeg world run document result).Shows outside run.uri pauses
      (((Stage.mk world p pauses).share outside run.uri).finishLeg
        (run.localRun (p.inFlight.current? run.uri) nextLeg) document result) := by
  unfold finishLeg Share.finishLeg
  cases faulty : result.fault? with
  | none => exact endLeg_shows outside world p pauses run nextLeg _
  | some fault =>
      refine ⟨?_, rfl, localRuns_cons rfl []⟩
      rw [complain, faulty]
      exact localEvents_seen _ rfl []

theorem startLeg_shows (nextLeg : NextLeg) :
    (p.startLeg world run).Shows outside run.uri pauses
      (((Stage.mk world p pauses).share outside run.uri).startLeg run.uri
        (run.localRun (p.inFlight.current? run.uri) nextLeg)) := by
  have same : documentedIn ((Stage.mk world p pauses).share outside run.uri).workspace? run.uri =
      p.document? run.uri := rfl
  unfold startLeg Share.startLeg
  rw [same]
  cases p.document? run.uri with
  | none => exact endLeg_shows outside world p pauses run nextLeg []
  | some found =>
      exact ⟨localEvents_seen _ rfl [], rfl, localRuns_cons rfl []⟩

theorem buildLeg_shows (nextLeg : NextLeg) (spares : outside.Spares p.workspace?)
    (ordered : Agenda.Ordered p.agenda) {workspace : Workspace}
    (placed : p.workspace? = some workspace) (document : DocumentRef) :
    let built := outside.build world (.select workspace (outside.pathExists world) document)
    (p.buildLeg outside world run workspace document).Shows outside run.uri pauses
      (((Stage.mk world p pauses).share outside run.uri).buildLeg (built.1, built.2.1)
        (run.localRun (p.inFlight.current? run.uri) nextLeg) workspace document) := by
  intro built
  let s : Share τ := (Stage.mk world p pauses).share outside run.uri
  have command : Build.Command.select workspace (fun _ => s.hasDescriptor) document =
      .select workspace (outside.pathExists world) document :=
    Build.Command.select_congr workspace
      (by simp [s, Stage.share, share, Outside.hasDescriptor, placed]) document
  have spared : (Stage.mk built.2.2 p pauses).share outside run.uri = s :=
    congrArg (p.share run.uri · pauses) (spares world _)
  have told (result : Build.Result) :
      localEvents run.uri [.started run result, .seen (p.eventOf run (.build
        (.select workspace (outside.pathExists world) document)))] =
        [s.localEvent (run.localRun (p.inFlight.current? run.uri) nextLeg) (.build
          (.select workspace (outside.pathExists world) document))] :=
    localEvents_seen (p.eventOf run _) rfl []
  rw [buildLeg_eq]
  dsimp only [Share.buildLeg]
  rw [command]
  split
  · have finished := finishLeg_shows outside built.2.2 p pauses run nextLeg document built.1
    rw [spared] at finished
    have shown := finished.after [.started run built.1, .seen (p.eventOf run (.build
      (.select workspace (outside.pathExists world) document)))]
    rw [told] at shown
    exact shown
  · refine ⟨told built.1, ?_, rfl⟩
    have planned := share_plan run.uri (outside.hasDescriptor p.workspace? built.2.2) pauses ordered
      built.2.1 (.finish run document built.1) rfl
    exact planned.trans (congrArg (Share.plan · _ _) spared)

end Own

end Pipeline

/-- The build that a run starts next, as far as it matters: what it comes to, and how long it takes. -/
def Post.build? (outside : Outside ω) (world : ω) : Post τ → Option (Build.Result × Nat)
  | .pause (.build _ workspace document) =>
      let built := outside.build world (.select workspace (outside.pathExists world) document)
      some (built.1, built.2.1)
  | _ => none

def Post.Placed (workspace? : Option Workspace) : Post τ → Prop
  | .pause (.build _ workspace _) => workspace? = some workspace
  | _ => True

/-- What is done in a leg for another document passes by a share. -/
structure Leg.Passes (outside : Outside ω) (uri : Uri) (world : ω) (p : Pipeline τ)
    (leg : Leg τ ω) : Prop where
  same : Pipeline.SameFor uri p leg.pipeline
  descriptor : outside.hasDescriptor p.workspace? leg.world =
    outside.hasDescriptor p.workspace? world
  paused : ∀ pause ∈ leg.pause?, pause.run.uri ≠ uri

namespace Pipeline

variable (outside : Outside ω) (world : ω) {p : Pipeline τ}

theorem leg_shows (pauses : List (Pause τ)) (spares : outside.Spares p.workspace?)
    (ordered : Agenda.Ordered p.agenda) (post : Post τ) (placed : post.Placed p.workspace?)
    (built : Build.Result × Nat)
    (comes : ∀ next ∈ post.build? outside world, next = built) :
    (post.leg outside world p).Shows outside post.run.uri pauses
      (((Stage.mk world p pauses).share outside post.run.uri).runLeg post.run.uri built
        (post.localRun (p.inFlight.current? post.run.uri))) := by
  cases post with
  | start run => exact startLeg_shows outside world p pauses run .start
  | finish run document result => exact finishLeg_shows outside world p pauses run _ document result
  | pause pause =>
      cases pause with
      | build run workspace document =>
          obtain rfl := comes _ rfl
          exact buildLeg_shows outside world p pauses run _ spares ordered placed document
      | deliver run diagnostics => exact endLeg_shows outside world p pauses run _ diagnostics

theorem legOf_shows {pauses : List (Pause τ)} (numbers : p.Numbers pauses) (task : Task τ)
    (built : Build.Result × Nat) :
    (p.legOf world task).Shows outside task.uri pauses
      (((Stage.mk world p pauses).share outside task.uri).taskLeg task.uri built
        (task.localTask (p.held? task.uri) (p.inFlight.current? task.uri))) := by
  cases task with
  | wake uri generation =>
      refine ⟨?_, ?_, rfl⟩
      · dsimp only [legOf]
        split <;> rfl
      · have woken := share_wake uri (outside.hasDescriptor p.workspace? world) numbers generation
        dsimp only [Leg.share, Stage.share, legOf, Task.uri, Task.localTask, Share.taskLeg]
        rw [wake_workspace?, woken]
        simp only [decide_eq_true_eq]
  | ask uri ticket =>
      have started := startLeg_shows outside world (p.begin uri (.pull ticket)).2 pauses
        (p.begin uri (.pull ticket)).1 .start
      have begun : (Stage.mk world (p.begin uri (.pull ticket)).2 pauses).share outside uri =
          ((Stage.mk world p pauses).share outside uri).begin := by
        unfold Stage.share
        dsimp only
        rw [begin_workspace?]
        exact share_begin uri _ numbers _
      have localRun : (p.begin uri (.pull ticket)).1.localRun
          ((p.begin uri (.pull ticket)).2.inFlight.current? uri) .start =
            ⟨.pull ticket, true, .start⟩ := by
        rw [begin_inFlight, InFlight.current?_begin_self]
        simp [Run.localRun]
      rw [begin_run] at started localRun
      rw [localRun, begun] at started
      exact started.after [.begun p.now _]
  | start run => exact startLeg_shows outside world p pauses run .start
  | finish run document result => exact finishLeg_shows outside world p pauses run _ document result

section Unseen

variable {uri : Uri}

theorem leg_passes (spares : outside.Spares p.workspace?) (post : Post τ)
    (other : post.run.uri ≠ uri) : Leg.Passes outside uri world p (post.leg outside world p) := by
  have descriptor : outside.hasDescriptor p.workspace? (post.leg outside world p).world =
      outside.hasDescriptor p.workspace? world := by
    rcases leg_world outside world p post with same | ⟨command, built⟩
    · rw [same]
    · rw [built, spares world command]
  refine ⟨?_, descriptor, ?_⟩
  · cases leg_leaves outside world p post with
    | ended pipeline =>
        rw [pipeline]
        exact .finished p other
    | paused _ _ pipeline =>
        rw [pipeline]
        exact .refl p
    | building delay document result pipeline =>
        rw [pipeline]
        exact .plan p delay other
  · cases leg_leaves outside world p post with
    | ended _ none => simp [none]
    | paused pause own _ waits => simpa [waits, own] using other
    | building _ _ _ _ none => simp [none]

theorem legOf_passes (spares : outside.Spares p.workspace?) (task : Task τ)
    (other : task.uri ≠ uri) : Leg.Passes outside uri world p (p.legOf world task) := by
  cases task with
  | wake own generation => exact ⟨.wake p other generation, rfl, nofun⟩
  | ask own ticket =>
      have begun := SameFor.begin p other (.pull ticket)
      obtain ⟨same, descriptor, paused⟩ := leg_passes outside world
        (p := (p.begin own (.pull ticket)).2) (by rw [begin_workspace?]; exact spares)
        (.start (p.begin own (.pull ticket)).1) other
      rw [begin_workspace?] at descriptor
      exact ⟨begun.trans same, descriptor, paused⟩
  | start run => exact leg_passes outside world spares (.start run) other
  | finish run document result =>
      exact leg_passes outside world spares (.finish run document result) other

theorem legOf_localEvents (outside : Outside ω) (world : ω) (p : Pipeline τ) {task : Task τ}
    (other : task.uri ≠ uri) :
    localEvents uri (p.legOf world task).told = [] := by
  have leg (p : Pipeline τ) (post : Post τ) (apart : post.run.uri ≠ uri) :
      localEvents uri (post.leg outside world p).told = [] :=
    localEvents_of_other (leg_isOf outside world p post) apart
  cases task with
  | wake own generation =>
      dsimp only [legOf]
      split <;> rfl
  | ask own ticket => exact leg _ (.start _) other
  | start run => exact leg p (.start run) other
  | finish run document result => exact leg p (.finish run document result) other

end Unseen

end Pipeline

end AsmDiagnostics
