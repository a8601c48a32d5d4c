import AsmDiagnostics.Proofs.Pipeline.Bookkeeping
import AsmDiagnostics.Proofs.Server.Outgoing

/-!
# Runs and timers on their way

A run is on its way as a task on the agenda or in a turn, or with a letter that waits for its place; a
timer is on its way as a task.  Work begins new runs only when a timer fires for an event that is held
back, or when a question is asked, and it starts no timers; and it loses no run whose flight is still
there.
-/

namespace AsmDiagnostics

/-- Something that is on its way: a run, or the timer of an event. -/
inductive Load where
  | run (run : Run Json)
  | wake (uri : Uri) (generation : Nat)

def Task.load? : Task Json → Option Load
  | .wake uri generation => some (.wake uri generation)
  | .ask .. => none
  | .start run => some (.run run)
  | .finish run _ _ => some (.run run)

theorem Task.load?_cases {task : Task Json} {load : Load} (h : task.load? = some load) :
    (∃ run, task.run? = some run ∧ load = .run run) ∨
      ∃ uri generation, task = .wake uri generation ∧ load = .wake uri generation := by
  cases task with
  | wake uri generation => exact .inr ⟨uri, generation, rfl, (Option.some.inj h).symm⟩
  | ask uri id => exact nomatch h
  | start run => exact .inl ⟨run, rfl, (Option.some.inj h).symm⟩
  | finish run document result => exact .inl ⟨run, rfl, (Option.some.inj h).symm⟩

theorem Task.load?_run {task : Task Json} {run : Run Json} :
    task.load? = some (.run run) ↔ task.run? = some run := by
  cases task <;> simp [load?, run?]

namespace Server

variable {ω : Type} {outside : Outside ω}

def runOf? : Sequel → Option (Run Json)
  | .resume pause => some pause.run
  | .read => none
  | .nothing => none

def jobLoad? : Job → Option Load
  | .task task => task.load?
  | .place _ sequel => (runOf? sequel).map Load.run
  | .read => none
  | .write => none

def Hand.run? : Hand → Option (Run Json)
  | .start run => some run
  | .finished run _ _ => some run
  | .send _ sequel => runOf? sequel
  | .go sequel => runOf? sequel
  | .job _ => none
  | .free => none

def Hand.load? : Hand → Option Load
  | .job asked => jobLoad? asked
  | hand => hand.run?.map Load.run

def Bears (load : Load) (hand : Hand) (s : Server ω) : Prop :=
  hand.load? = some load ∨ (∃ job ∈ s.jobs, jobLoad? job = some load) ∨
    (∃ entry ∈ s.mailbox.waiting, (runOf? entry.2).map Load.run = some load) ∨
      ∃ p, s.session.pipeline? = some p ∧ ∃ entry ∈ p.agenda, entry.action.load? = some load

section Bears

variable {hand next : Hand} {s after : Server ω} {load : Load}

/-- What is on its way and not in hand is so whatever is in hand. -/
theorem Bears.elsewhere (h : Bears load hand s) (other : hand.load? ≠ some load) :
    Bears load next s :=
  .inr (h.resolve_left other)

/-- Without a load in hand it does not matter what is in hand. -/
theorem Bears.idle (h : Bears load hand s) (idle : hand.load? = none) : Bears load next s :=
  h.elsewhere fun own => by cases idle.symm.trans own

/-- What is on its way stays so if nothing is lost. -/
theorem Bears.mono (h : Bears load hand s) (own : hand.load? = some load → Bears load next after)
    (jobs : s.jobs ⊆ after.jobs) (waiting : s.mailbox.waiting ⊆ after.mailbox.waiting)
    (agenda : ∀ p, s.session.pipeline? = some p → ∀ entry ∈ p.agenda,
      entry.action.load? = some load → Bears load next after) : Bears load next after := by
  rcases h with mine | ⟨job, asked, task⟩ | ⟨entry, waits, task⟩ | ⟨p, same, entry, member, task⟩
  · exact own mine
  · exact .inr (.inl ⟨job, jobs asked, task⟩)
  · exact .inr (.inr (.inl ⟨entry, waiting waits, task⟩))
  · exact agenda p same entry member task

end Bears

theorem runs_of_runOf? {sequel : Sequel} {load : Load}
    (h : (runOf? sequel).map Load.run = some load) : Runs sequel := by
  cases sequel with
  | resume pause => trivial
  | read => exact nomatch h
  | nothing => exact nomatch h

/-- Nothing is on its way before there is a pipeline. -/
theorem Lawful.not_bears {hand : Hand} {s : Server ω} (h : Lawful hand s)
    (none : s.session.pipeline? = none) (load : Load) : ¬ Bears load hand s := by
  obtain ⟨free, jobs, waiting⟩ := h.idle none
  have works {job : Job} (own : jobLoad? job = some load) : Works job := by
    cases job with
    | task task => trivial
    | place letter sequel => exact runs_of_runOf? own
    | read => exact nomatch own
    | write => exact nomatch own
  rintro (own | ⟨job, asked, own⟩ | ⟨entry, waits, own⟩ | ⟨p, same, -⟩)
  · refine free ?_
    cases hand with
    | job job => exact works own
    | start run => trivial
    | finished run document result => trivial
    | send letter sequel => exact runs_of_runOf? own
    | go sequel => exact runs_of_runOf? own
    | free => exact nomatch own
  · exact jobs job asked (works own)
  · exact waiting entry waits (runs_of_runOf? own)
  · exact nomatch none.symm.trans same

/-! ## What leaves all loads on their way -/

section Same

variable {hand next : Hand} {s after : Server ω} {load : Load}

/-- Someone asks for a turn who bears nothing. -/
theorem bears_ask {job : Job} (plain : jobLoad? job = none) :
    Bears load hand (s.ask job) ↔ Bears load hand s := by
  refine or_congr_right (or_congr_left ⟨?_, ?_⟩)
  · rintro ⟨other, asked, own⟩
    refine ⟨other, (List.mem_append.mp asked).resolve_right fun new => ?_, own⟩
    rw [List.mem_singleton.mp new, plain] at own
    cases own
  · exact fun ⟨other, asked, own⟩ => ⟨other, List.mem_append_left _ asked, own⟩

theorem bears_wakeWriter : Bears load hand s.wakeWriter ↔ Bears load hand s := by
  unfold Server.wakeWriter
  split
  · exact bears_ask (s := { s with writer := { s.writer with isIdle := false } }) rfl
  · exact .rfl

theorem bears_wakeReader : Bears load hand s.wakeReader ↔ Bears load hand s := by
  unfold Server.wakeReader
  split
  · exact .rfl
  · exact bears_ask rfl

/-- Tasks that are due go from the agenda to the jobs. -/
theorem bears_enlist : Bears load hand s.enlist ↔ Bears load hand s := by
  unfold Server.enlist
  split
  · exact .rfl
  · rename_i p same
    let isDue : Planned (Task Json) → Bool := fun entry => entry.due ≤ p.now
    constructor
    · rintro (own | ⟨job, asked, own⟩ | waits | ⟨q, other, entry, member, own⟩)
      · exact .inl own
      · rcases List.mem_append.mp asked with old | new
        · exact .inr (.inl ⟨job, old, own⟩)
        · obtain ⟨entry, due, rfl⟩ := List.mem_map.mp new
          exact .inr (.inr (.inr ⟨p, same, entry, (List.takeWhile_sublist _).subset due, own⟩))
      · exact .inr (.inr (.inl waits))
      · obtain rfl := Option.some.inj other
        exact .inr (.inr (.inr ⟨p, same, entry, (List.dropWhile_sublist _).subset member, own⟩))
    · intro h
      refine h.mono .inl (List.subset_append_left _ _) (List.Subset.refl _) ?_
      intro q found entry member task
      obtain rfl := Option.some.inj (same.symm.trans found)
      rw [← List.takeWhile_append_dropWhile (p := isDue) (l := p.agenda), List.mem_append] at member
      rcases member with due | rests
      · refine .inr (.inl ⟨.task entry.action, List.mem_append_right _ ?_, task⟩)
        exact List.mem_map.mpr ⟨entry, due, rfl⟩
      · exact .inr (.inr (.inr ⟨_, rfl, entry, rests, task⟩))

/-- A letter comes into the mailbox, and its sender goes on. -/
theorem bears_posted {letter : Letter} {sequel : Sequel} {room : Nat}
    (own : hand.load? = (runOf? sequel).map Load.run) :
    Bears load (.go sequel) (Server.wakeWriter { s with mailbox := { s.mailbox with
      letters := s.mailbox.letters ++ [letter], room := room } }) ↔ Bears load hand s := by
  refine bears_wakeWriter.trans (or_congr_left ?_)
  rw [own]
  rfl

/-- A letter waits for its place, and its sender with it. -/
theorem bears_awaitPlace {letter : Letter} {sequel : Sequel} :
    Bears load .free (s.awaitPlace letter sequel) ↔ Bears load (.send letter sequel) s := by
  constructor
  · rintro (mine | asked | ⟨entry, waits, own⟩ | planned)
    · cases mine
    · exact .inr (.inl asked)
    · rcases List.mem_append.mp waits with old | new
      · exact .inr (.inr (.inl ⟨entry, old, own⟩))
      · rw [List.mem_singleton.mp new] at own
        exact .inl own
    · exact .inr (.inr (.inr planned))
  · intro h
    refine h.mono (fun mine => ?_) (List.Subset.refl _) (List.subset_append_left _ _) ?_
    · exact .inr (.inr (.inl ⟨(letter, sequel), List.mem_append_right _ List.mem_cons_self, mine⟩))
    · exact fun p same entry member task => .inr (.inr (.inr ⟨p, same, entry, member, task⟩))

/-- A job that gets its turn is in hand. -/
theorem bears_turn {place : Nat} {job : Job} (found : s.jobs[place]? = some job) :
    Bears load (.job job) (s.without place) ↔ Bears load .free s := by
  have jobs := eraseIdx_perm found
  constructor
  · rintro (mine | ⟨other, asked, task⟩ | others)
    · exact .inr (.inl ⟨job, List.mem_of_getElem? found, mine⟩)
    · exact .inr (.inl ⟨other, List.mem_of_mem_eraseIdx asked, task⟩)
    · exact .inr (.inr others)
  · rintro (mine | ⟨other, asked, task⟩ | others)
    · cases mine
    · rcases List.mem_cons.mp (jobs.mem_iff.mpr asked) with rfl | elsewhere
      · exact .inl task
      · exact .inr (.inl ⟨other, elsewhere, task⟩)
    · exact .inr (.inr others)

/-- The pipeline becomes one that has the same work for it. -/
theorem bears_withPipeline {p q : Pipeline Json} {world : ω} (same : s.session.pipeline? = some p)
    (agenda : ∀ entry, entry.action.load? = some load → (entry ∈ q.agenda ↔ entry ∈ p.agenda)) :
    Bears load hand (Server.withPipeline { s with world := world } q) ↔ Bears load hand s := by
  refine or_congr_right (or_congr_right (or_congr_right ⟨?_, ?_⟩))
  · rintro ⟨r, is, entry, member, task⟩
    obtain rfl := Option.some.inj is
    exact ⟨p, same, entry, (agenda entry task).mp member, task⟩
  · rintro ⟨r, found, entry, member, task⟩
    obtain rfl := Option.some.inj (same.symm.trans found)
    exact ⟨q, rfl, entry, (agenda entry task).mpr member, task⟩

theorem bears_flown {p : Pipeline Json} {flights : InFlight} (same : s.session.pipeline? = some p) :
    Bears load hand (s.withPipeline { p with inFlight := flights }) ↔ Bears load hand s :=
  bears_withPipeline (q := { p with inFlight := flights }) same fun _ _ => .rfl

theorem launch_pipeline {τ : Type} (outside : Outside ω) (world : ω) (p : Pipeline τ) (run : Run τ)
    (workspace : Workspace) (document : DocumentRef)
    (h : (p.launch outside world run workspace document).result?.isSome) :
    (p.launch outside world run workspace document).pipeline = p := by
  unfold Pipeline.launch at h ⊢
  dsimp only at h ⊢
  split
  · rfl
  · rename_i long
    rw [if_neg long] at h
    simp at h

/-- A build that takes its time has its end on the agenda. -/
theorem launch_long {world : ω} {p : Pipeline Json} {run : Run Json} {workspace : Workspace}
    {document : DocumentRef} (long : (p.launch outside world run workspace document).result? = none) :
    ∃ delay result, (p.launch outside world run workspace document).pipeline =
      p.plan delay (.finish run document result) := by
  unfold Pipeline.launch at long ⊢
  dsimp only at long ⊢
  split at long
  · cases long
  · rename_i delayed
    rw [if_neg delayed]
    exact ⟨_, _, rfl⟩

theorem bears_launch {p : Pipeline Json} {run : Run Json} {workspace : Workspace}
    {document : DocumentRef} (same : s.session.pipeline? = some p)
    (long : (p.launch outside s.world run workspace document).result? = none) :
    Bears load .free (s.afterLaunch (p.launch outside s.world run workspace document)) ↔
      Bears load (.go (.resume (.build run workspace document))) s := by
  obtain ⟨delay, result, planned⟩ := launch_long long
  have agenda (entry : Planned (Task Json)) :
      entry ∈ (p.launch outside s.world run workspace document).pipeline.agenda ↔
        entry = ⟨Agenda.after p.now delay, .finish run document result⟩ ∨ entry ∈ p.agenda := by
    rw [planned]
    exact p.mem_plan delay _ entry
  constructor
  · rintro (mine | asked | waits | ⟨q, is, entry, member, task⟩)
    · cases mine
    · exact .inr (.inl asked)
    · exact .inr (.inr (.inl waits))
    · obtain rfl := Option.some.inj is
      rcases (agenda entry).mp member with rfl | old
      · exact .inl task
      · exact .inr (.inr (.inr ⟨p, same, entry, old, task⟩))
  · intro h
    refine h.mono (fun mine => ?_) (List.Subset.refl _) (List.Subset.refl _) ?_
    · exact .inr (.inr (.inr ⟨_, rfl, _, (agenda _).mpr (.inl rfl), mine⟩))
    · intro q found entry member task
      obtain rfl := Option.some.inj (same.symm.trans found)
      exact .inr (.inr (.inr ⟨_, rfl, entry, (agenda entry).mpr (.inr member), task⟩))

theorem bears_build {p : Pipeline Json} {run : Run Json} {workspace : Workspace}
    {document : DocumentRef} {result : Build.Result} (same : s.session.pipeline? = some p)
    (short : (p.launch outside s.world run workspace document).result? = some result) :
    Bears load hand (s.afterLaunch (p.launch outside s.world run workspace document)) ↔
      Bears load hand s :=
  bears_withPipeline same fun _ _ => by
    rw [launch_pipeline outside s.world p run workspace document (by rw [short]; rfl)]

end Same

/-! ## What begins -/

section Begins

variable {hand next : Hand} {s after : Server ω} {load : Load}

/-- The agenda is all of a pipeline that changes when tasks are enlisted. -/
theorem enlist_pipeline {p : Pipeline Json} (same : s.session.pipeline? = some p) :
    ∃ agenda, s.enlist.session.pipeline? = some { p with agenda := agenda } := by
  simp [Server.enlist, same, withPipeline]

theorem freePlaces_bears {count : Nat} (h : Bears load .free (s.freePlaces count)) :
    Bears load .free s := by
  rcases h with own | ⟨job, asked, own⟩ | ⟨entry, waits, own⟩ | planned
  · cases own
  · rcases List.mem_append.mp asked with old | new
    · exact .inr (.inl ⟨job, old, own⟩)
    · obtain ⟨entry, served, rfl⟩ := List.mem_map.mp new
      exact .inr (.inr (.inl
        ⟨entry, (List.mem_filter.mp (List.mem_of_mem_take served)).1, own⟩))
  · exact .inr (.inr (.inl ⟨entry, (List.mem_filter.mp (List.mem_of_mem_drop waits)).1, own⟩))
  · exact .inr (.inr (.inr planned))

theorem write_bears (h : Bears load .free s.write) : Bears load .free s := by
  unfold Server.write at h
  dsimp only at h
  split at h
  · exact h
  · exact freePlaces_bears h

/-- A run begins: its document has rested, or it has been asked for. -/
inductive Begun (s after : Server ω) : Load → Prop where
  | run {p q : Pipeline Json} {uri : Uri} {trigger : Trigger Json}
      (same : s.session.pipeline? = some p) (becomes : after.session.pipeline? = some q)
      (begins : q.inFlight = p.inFlight.begin uri)
      (rested : trigger = .push → ∃ generation, (p.debouncer.due? uri generation).isSome) :
      Begun s after (.run ⟨uri, p.inFlight.nextGeneration, trigger⟩)

/-- What comes onto the agenda when a timer fires is the start of a push. -/
theorem wake_load? {p : Pipeline Json} {uri : Uri} {generation : Nat} {entry : Planned (Task Json)}
    (member : entry ∈ (p.wake uri generation).agenda) (own : entry.action.load? = some load) :
    entry ∈ p.agenda ∨ (p.debouncer.due? uri generation).isSome ∧
      (p.wake uri generation).inFlight = p.inFlight.begin uri ∧
        load = .run ⟨uri, p.inFlight.nextGeneration, .push⟩ := by
  unfold Pipeline.wake at member ⊢
  split at member
  · rename_i due
    rw [Pipeline.push_eq, Pipeline.mem_plan] at member
    rw [if_pos due]
    rcases member with rfl | old
    · exact .inr ⟨due, rfl, (Option.some.inj own).symm⟩
    · have sublist := Pipeline.abortPush_sublist
        { p with debouncer := p.debouncer.wake uri generation } uri
      exact .inl (sublist.subset old)
  · exact .inl member

/-- What is on its way was so before, or it begins. -/
theorem Work.bears (work : Work outside hand s next after) (h : Bears load next after) :
    Bears load hand s ∨ Begun s after load := by
  cases work with
  | @wake _ p uri generation same =>
      obtain ⟨agenda, is⟩ : ∃ agenda,
          (s.withPipeline (p.wake uri generation)).enlist.session.pipeline? =
            some { p.wake uri generation with agenda := agenda } := enlist_pipeline rfl
      rcases bears_enlist.mp h with mine | asked | waits | ⟨q, becomes, entry, member, own⟩
      · cases mine
      · exact .inl (.inr (.inl asked))
      · exact .inl (.inr (.inr (.inl waits)))
      · obtain rfl := Option.some.inj becomes
        rcases wake_load? member own with old | ⟨due, begins, rfl⟩
        · exact .inl (.inr (.inr (.inr ⟨p, same, entry, old, own⟩)))
        · exact .inr (.run same is begins fun _ => ⟨generation, due⟩)
  | @ask _ p uri id same =>
      rcases h with mine | asked | waits | ⟨q, becomes, entry, member, own⟩
      · obtain rfl := Option.some.inj mine
        exact .inr (.run same rfl rfl fun push => by cases push)
      · exact .inl (.inr (.inl asked))
      · exact .inl (.inr (.inr (.inl waits)))
      · obtain rfl := Option.some.inj becomes
        have old := (Pipeline.abortPush_sublist _ uri).subset member
        exact .inl (.inr (.inr (.inr ⟨p, same, entry, old, own⟩)))
  | lost works none => exact .inl (h.idle rfl)
  | place wanted => exact .inl ((bears_posted rfl).mp h)
  | unwanted stale => exact .inl ((freePlaces_bears h).idle rfl)
  | giveUp same superseded own => exact .inl (h.idle rfl)
  | launch same long => exact .inl ((bears_launch same long).mp h)
  | build same short => exact .inl ((bears_build same short).mp h)
  | keepBack same superseded => exact .inl (((bears_flown same).mp h).idle rfl)
  | deliver same current => exact .inl (((bears_flown same).mp h).idle rfl)
  | rest => exact .inl (h.idle rfl)
  | post room =>
      obtain ⟨-, rfl⟩ := send?_eq_some room
      exact .inl ((bears_posted rfl).mp h)
  | await full => exact .inl (bears_awaitPlace.mp h)
  | read => exact .inl (h.idle rfl)
  | _ => exact .inl h

end Begins

/-! ## Runs that fly -/

section Flies

variable {hand next : Hand} {s after : Server ω} {p : Pipeline Json} {run : Run Json}

/-- A run that flies is not superseded. -/
theorem isSuperseded_of_flies (apart : p.inFlight.Apart) (flies : run.flight ∈ p.inFlight.flights) :
    p.isSuperseded run = false := by
  have current := (InFlight.isCurrent_iff _ _ _).mpr (apart.current? flies)
  simp [Pipeline.isSuperseded, show p.inFlight.isCurrent run.uri run.generation = true from current]

theorem isStale_of_flies {sequel : Sequel} (same : s.session.pipeline? = some p)
    (apart : p.inFlight.Apart) (flies : run.flight ∈ p.inFlight.flights)
    (own : (runOf? sequel).map Load.run = some (.run run)) : s.isStale sequel = false := by
  have current := isSuperseded_of_flies apart flies
  cases sequel with
  | resume pause =>
      obtain rfl := Load.run.inj (Option.some.inj own)
      simp [isStale, same, current]
  | read => cases own
  | nothing => cases own

/-- Places become free, and a run that flies gets one or stays in the line. -/
theorem Bears.freePlaces (h : Bears (.run run) .free s) (same : s.session.pipeline? = some p)
    (apart : p.inFlight.Apart) (flies : run.flight ∈ p.inFlight.flights) (count : Nat) :
    Bears (.run run) .free (s.freePlaces count) := by
  rcases h with own | ⟨job, asked, task⟩ | ⟨entry, waits, own⟩ | planned
  · cases own
  · exact .inr (.inl ⟨job, List.mem_append_left _ asked, task⟩)
  · have wanted : entry ∈ s.mailbox.line fun sequel => !s.isStale sequel :=
      List.mem_filter.mpr ⟨waits, by simp [isStale_of_flies same apart flies own]⟩
    rw [← List.take_append_drop count (s.mailbox.line _), List.mem_append] at wanted
    rcases wanted with served | left
    · refine .inr (.inl ⟨.place entry.1 entry.2, List.mem_append_right _ ?_, own⟩)
      exact List.mem_map.mpr ⟨entry, served, rfl⟩
    · exact .inr (.inr (.inl ⟨entry, left, own⟩))
  · exact .inr (.inr (.inr planned))

theorem Bears.write (h : Bears (.run run) .free s) (same : s.session.pipeline? = some p)
    (apart : p.inFlight.Apart) (flies : run.flight ∈ p.inFlight.flights) :
    Bears (.run run) .free s.write := by
  unfold Server.write
  dsimp only
  split
  · exact h
  · exact Bears.freePlaces (s := { s with outbox := _, mailbox := _, writer := _ }) h same apart flies _

/-- A new run for a document supersedes all that have begun before. -/
theorem other_of_begin {f : InFlight} {uri : Uri} (old : run.generation ≤ f.lastGeneration)
    (flies : run.flight ∈ (f.begin uri).flights) : run.uri ≠ uri := by
  rcases InFlight.mem_begin.mp flies with ⟨-, other⟩ | new
  · exact other
  · have generation : run.generation = f.nextGeneration := congrArg Flight.generation new
    exact absurd (generation ▸ old) (Nat.not_succ_le_self _)

/-- The work of a run for another document stays on the agenda. -/
theorem mem_wake_other {uri : Uri} {generation : Nat} {entry : Planned (Task Json)}
    (member : entry ∈ p.agenda) (own : entry.action.load? = some (.run run))
    (old : run.generation ≤ p.inFlight.lastGeneration)
    (flies : run.flight ∈ (p.wake uri generation).inFlight.flights) :
    entry ∈ (p.wake uri generation).agenda := by
  unfold Pipeline.wake at flies ⊢
  split at flies
  · rename_i due
    rw [if_pos due, Pipeline.push_eq, Pipeline.mem_plan]
    exact .inr ((Pipeline.mem_abortPush_of_other (Task.load?_run.mp own)
      (other_of_begin old flies)).mpr member)
  · rename_i stale
    rw [if_neg stale]
    exact member

/-- A run that delivers is over. -/
theorem other_of_finish {f : InFlight} {other : Run Json} (apart : f.Apart)
    (flies : run.flight ∈ (f.finish other.uri other.generation).flights) :
    some (Load.run other) ≠ some (.run run) := by
  intro mine
  obtain rfl := Load.run.inj (Option.some.inj mine)
  exact (apart.mem_finish.mp flies).2 rfl

/-- The pipeline becomes another that keeps what the run has on the agenda. -/
theorem Bears.becomes (h : Bears (.run run) hand s) (same : s.session.pipeline? = some p)
    {other : Hand} {q : Pipeline Json} (idle : hand.load? ≠ some (.run run))
    (agenda : ∀ entry ∈ p.agenda, entry.action.load? = some (.run run) → entry ∈ q.agenda) :
    Bears (.run run) other (s.withPipeline q) := by
  refine h.mono (fun mine => absurd mine idle) (List.Subset.refl _) (List.Subset.refl _)
    fun t found entry member task => ?_
  obtain rfl := Option.some.inj (same.symm.trans found)
  exact .inr (.inr (.inr ⟨q, rfl, entry, agenda entry member task, task⟩))

/-- A run that flies before and after some work is not lost. -/
theorem Work.flies (work : Work outside hand s next after) {q : Pipeline Json}
    (same : s.session.pipeline? = some p) (is : after.session.pipeline? = some q)
    (apart : p.inFlight.Apart) (old : run.generation ≤ p.inFlight.lastGeneration)
    (flew : run.flight ∈ p.inFlight.flights) (flies : run.flight ∈ q.inFlight.flights)
    (h : Bears (.run run) hand s) : Bears (.run run) next after := by
  cases work with
  | lost works none => cases same.symm.trans none
  | place wanted => exact (bears_posted rfl).mpr h
  | unwanted stale =>
      refine Bears.freePlaces (h.elsewhere fun mine => ?_) same apart flew 1
      cases stale.symm.trans (isStale_of_flies same apart flew mine)
  | @wake _ r uri generation found =>
      obtain rfl := Option.some.inj (same.symm.trans found)
      obtain ⟨agenda, woken⟩ : ∃ agenda,
          (s.withPipeline (p.wake uri generation)).enlist.session.pipeline? =
            some { p.wake uri generation with agenda := agenda } := enlist_pipeline rfl
      obtain rfl := Option.some.inj (woken.symm.trans is)
      refine bears_enlist.mpr (h.becomes same (fun mine => by cases mine) fun entry member own => ?_)
      exact mem_wake_other member own old flies
  | @ask _ r uri id found =>
      obtain rfl := Option.some.inj (same.symm.trans found)
      obtain rfl := Option.some.inj is
      refine h.becomes same (fun mine => by cases mine) fun entry member own => ?_
      have other := other_of_begin old flies
      exact (Pipeline.mem_abortPush_of_other (Task.load?_run.mp own) other).mpr member
  | @giveUp _ r other task found superseded own =>
      obtain rfl := Option.some.inj (same.symm.trans found)
      refine h.elsewhere fun mine => ?_
      have carried : task.run? = some other := by
        rcases own with rfl | ⟨document, result, rfl⟩ <;> rfl
      obtain rfl := Option.some.inj (carried.symm.trans (Task.load?_run.mp mine))
      cases superseded.symm.trans (isSuperseded_of_flies apart flew)
  | launch found long => exact (bears_launch found long).mpr h
  | build found short => exact (bears_build found short).mpr h
  | keepBack found superseded =>
      obtain rfl := Option.some.inj (same.symm.trans found)
      obtain rfl := Option.some.inj is
      exact (bears_flown same).mpr (h.elsewhere (other_of_finish apart flies))
  | deliver found current =>
      obtain rfl := Option.some.inj (same.symm.trans found)
      obtain rfl := Option.some.inj is
      exact (bears_flown same).mpr (h.elsewhere (other_of_finish apart flies))
  | rest => exact h.idle rfl
  | post room =>
      obtain ⟨-, rfl⟩ := send?_eq_some room
      exact (bears_posted rfl).mpr h
  | await full => exact bears_awaitPlace.mpr h
  | read => exact h.idle rfl
  | _ => exact h

end Flies

end Server

end AsmDiagnostics
