import AsmDiagnostics.Proofs.Pipeline.Resting
import AsmDiagnostics.Proofs.Server.Account
import AsmDiagnostics.Proofs.Server.Loads
import AsmDiagnostics.Proofs.Session.Timers

/-!
# Work for open documents

The work of a pipeline is grounded in the open documents of its session.  Every event that is held
back has the version of its document; every flight belongs to a run on its way, and if that run is a
push its document is open.  Work keeps this, and so do frames that are taken.
-/

namespace AsmDiagnostics

/-- A load is known to a pipeline: it has come before, and if it is a push that flies its document is
open. -/
def Load.Known (p : Pipeline Json) (d : Documents) : Load → Prop
  | .run own => own.generation ≤ p.inFlight.lastGeneration ∧
      (own.trigger = .push → own.flight ∈ p.inFlight.flights → d.contains own.uri)
  | .wake _ generation => generation ≤ p.debouncer.lastGeneration

theorem Load.Known.onward {p q : Pipeline Json} {d e : Documents} {load : Load} (h : load.Known p d)
    (onward : p.Onward d q e) : load.Known q e := by
  cases load with
  | run own =>
      refine ⟨Nat.le_trans h.1 onward.flights.last, fun push flies => ?_⟩
      exact onward.isOpen own.flight flies (h.2 push (onward.flights.old _ flies h.1))
  | wake uri generation => exact Nat.le_trans (m := p.debouncer.lastGeneration) h onward.stamp

theorem Pipeline.wake_window (p : Pipeline Json) (uri : Uri) (generation : Nat) :
    (p.wake uri generation).window = p.window := by
  unfold wake
  split
  · exact begin_window { p with debouncer := p.debouncer.wake uri generation } uri .push
  · rfl

namespace Server

variable {ω : Type} {outside : Outside ω} {hand next : Hand} {s after : Server ω}

/-! ## What work does to a pipeline -/

theorem Work.documents (work : Work outside hand s next after) :
    after.session.documents = s.session.documents :=
  (congrArg Session.documents work.bare :
    after.session.bare.documents = s.session.bare.documents)

/-- Some work lets events go that are held back, and begins or ends a flight. -/
structure Worked (next : Hand) (after : Server ω) (p q : Pipeline Json) : Prop where
  window : q.window = p.window
  stamp : q.debouncer.lastGeneration = p.debouncer.lastGeneration
  fewer : q.debouncer.pending ⊆ p.debouncer.pending
  flights : q.inFlight = p.inFlight ∨
    (∃ uri generation, q.inFlight = p.inFlight.finish uri generation) ∨
    ∃ run, run.generation = p.inFlight.nextGeneration ∧ q.inFlight = p.inFlight.begin run.uri ∧
      Bears (.run run) next after

theorem Work.changes (work : Work outside hand s next after) {q : Pipeline Json}
    (is : after.session.pipeline? = some q) :
    ∃ p, s.session.pipeline? = some p ∧ Worked next after p q := by
  have still {p other : Pipeline Json} (same : s.session.pipeline? = some p)
      (is : some other = some q) (window : other.window = p.window)
      (held : other.debouncer = p.debouncer)
      (flown : other.inFlight = p.inFlight ∨
        ∃ uri generation, other.inFlight = p.inFlight.finish uri generation) :
      ∃ p, s.session.pipeline? = some p ∧ Worked next after p q := by
    obtain rfl := Option.some.inj is
    exact ⟨p, same, window, by rw [held], by rw [held]; exact List.Subset.refl _,
      flown.imp_right .inl⟩
  have same (session : after.session = s.session) :
      ∃ p, s.session.pipeline? = some p ∧ Worked next after p q :=
    still (session ▸ is) rfl rfl rfl (.inl rfl)
  cases work with
  | place wanted => exact same (wakeWriter_session _)
  | @wake _ p uri generation found =>
      obtain ⟨agenda, becomes⟩ : ∃ agenda,
          (s.withPipeline (p.wake uri generation)).enlist.session.pipeline? =
            some { p.wake uri generation with agenda := agenda } := enlist_pipeline rfl
      obtain rfl := Option.some.inj (becomes.symm.trans is)
      refine ⟨p, found, p.wake_window uri generation, ?_, ?_, ?_⟩
      · exact (congrArg Debouncer.lastGeneration (p.wake_debouncer uri generation)).trans
          (Debouncer.lastGeneration_wake _ _ _)
      · rw [p.wake_debouncer]
        exact Debouncer.wake_fewer _ _ _
      · by_cases due : (p.debouncer.due? uri generation).isSome
        · have begins : p.wake uri generation =
              Pipeline.push { p with debouncer := p.debouncer.wake uri generation } uri := if_pos due
          let run : Run Json := ⟨uri, p.inFlight.nextGeneration, .push⟩
          have planned : Bears (.run run) .free (s.withPipeline (p.wake uri generation)) := by
            refine .inr (.inr (.inr ⟨_, rfl, ⟨Agenda.after p.now 0, .start run⟩, ?_, rfl⟩))
            rw [begins, Pipeline.push_eq, Pipeline.mem_plan, Pipeline.begin_now]
            exact .inl rfl
          exact .inr (.inr ⟨run, rfl, by rw [begins]; rfl, bears_enlist.mpr planned⟩)
        · exact .inl (by rw [Pipeline.wake_idle due])
  | @ask _ p uri id found =>
      obtain rfl := Option.some.inj is
      have held := p.begin_debouncer uri (.pull id)
      exact ⟨p, found, p.begin_window uri _, by rw [held], by rw [held]; exact List.Subset.refl _,
        .inr (.inr ⟨_, rfl, rfl, .inl rfl⟩)⟩
  | @launch _ p run workspace document found long =>
      obtain ⟨delay, result, planned⟩ := launch_long long
      exact still found is (by rw [planned]; rfl) (by rw [planned]; rfl)
        (.inl (by rw [planned]; rfl))
  | @build _ p run workspace document result found short =>
      have kept := launch_pipeline outside s.world p run workspace document (by rw [short]; rfl)
      exact still found is (by rw [kept]) (by rw [kept]) (.inl (by rw [kept]))
  | keepBack found superseded => exact still found is rfl rfl (.inr ⟨_, _, rfl⟩)
  | deliver found current => exact still found is rfl rfl (.inr ⟨_, _, rfl⟩)
  | post room =>
      obtain ⟨-, rfl⟩ := send?_eq_some room
      exact same (wakeWriter_session _)
  | _ => exact same rfl

namespace Worked

variable {p q : Pipeline Json}

theorem onward (h : Worked next after p q) (d : Documents) : p.Onward d q d := by
  refine ⟨h.window, ?_, fun _ _ => id, Nat.le_of_eq h.stamp.symm, fun tracks =>
    tracks.fewer h.fewer⟩
  rcases h.flights with still | ⟨uri, generation, finishes⟩ | ⟨run, -, begins, -⟩
  · exact still ▸ .refl _
  · exact finishes ▸ .finish _ _ _
  · exact begins ▸ .begin _ _

theorem apart (h : Worked next after p q) (apart : p.inFlight.Apart) : q.inFlight.Apart := by
  rcases h.flights with still | ⟨uri, generation, finishes⟩ | ⟨run, -, begins, -⟩
  · exact still ▸ apart
  · exact finishes ▸ apart.finish _ _
  · exact begins ▸ apart.begin _

/-- A flight was there before, or it is that of the run that begins. -/
theorem old_or_new (h : Worked next after p q) (apart : p.inFlight.Apart) {flight : Flight}
    (member : flight ∈ q.inFlight.flights) : flight ∈ p.inFlight.flights ∨
      ∃ run, run.flight = flight ∧ Bears (.run run) next after := by
  rcases h.flights with still | ⟨uri, generation, finishes⟩ | ⟨run, new, begins, bears⟩
  · exact .inl (still ▸ member)
  · exact .inl (apart.mem_finish.mp (finishes ▸ member)).1
  · rcases InFlight.mem_begin.mp (begins ▸ member) with ⟨old, -⟩ | rfl
    · exact .inl old
    · exact .inr ⟨run, by rw [Run.flight, new], bears⟩

end Worked

/-! ## Grounded work -/

/-- The work of a pipeline with some window is for open documents: the events that are held back, and
the runs whose flights are there. -/
structure Grounded (window : Nat) (hand : Hand) (s : Server ω) (p : Pipeline Json) : Prop where
  window : p.window = window
  tracks : p.Tracks s.session.documents
  apart : p.inFlight.Apart
  /-- Every flight belongs to a run on its way. -/
  manned : ∀ flight ∈ p.inFlight.flights, ∃ run, run.flight = flight ∧ Bears (.run run) hand s
  known : ∀ load, Bears load hand s → load.Known p s.session.documents
  /-- The run that has the turn goes on. -/
  held : ∀ run, hand.run? = some run → p.isSuperseded run = false

theorem load?_of_run? {run : Run Json} (own : hand.run? = some run) :
    hand.load? = some (.run run) := by
  cases hand with
  | job asked => cases own
  | _ => exact congrArg (Option.map Load.run) own

theorem run?_of_load? (idle : hand.load? = none) : hand.run? = none := by
  cases own : hand.run? with
  | none => rfl
  | some run => exact nomatch idle.symm.trans (load?_of_run? own)

namespace Grounded

variable {window : Nat} {p q : Pipeline Json}

/-- A push that has the turn is for an open document. -/
theorem isOpen (h : Grounded window hand s p) {run : Run Json} (own : hand.run? = some run)
    (push : run.trigger = .push) : s.session.documents.contains run.uri := by
  have current : p.inFlight.isCurrent run.uri run.generation = true := by
    simpa [Pipeline.isSuperseded, push, Trigger.isPush] using h.held run own
  have flies := InFlight.mem_flights_of_current?
    ((InFlight.isCurrent_iff p.inFlight run.uri run.generation).mp current)
  exact (h.known _ (.inl (load?_of_run? own))).2 push flies

/-- A new pipeline has no work. -/
theorem fresh {settings : Settings} {root? : Option Path} (nobody : ∀ load, ¬ Bears load hand s) :
    Grounded settings.debounceMillis hand s (Session.pipelineFor settings root?) := by
  refine ⟨rfl, nofun, List.nodup_nil, nofun, fun load bears => absurd bears (nobody load), ?_⟩
  exact fun run own => absurd (.inl (load?_of_run? own)) (nobody _)

/-- A frame is taken, or time passes: new timers and questions come onto the agenda. -/
theorem calls (h : Grounded window hand s p) (same : s.session.pipeline? = some p)
    (idle : hand.load? = none) (own : next.load? = none) (jobs : after.jobs = s.jobs)
    (waiting : after.mailbox.waiting = s.mailbox.waiting) (is : after.session.pipeline? = some q)
    (onward : p.Onward s.session.documents q after.session.documents) (calls : p.OnlyCalls q) :
    Grounded window next after q where
  window := onward.window.trans h.window
  tracks := onward.tracks h.tracks
  apart := h.apart.sublist (calls.fewer.map Flight.uri)
  manned flight member := by
    obtain ⟨run, rfl, bears⟩ := h.manned flight (calls.fewer.subset member)
    refine ⟨run, rfl, bears.mono (fun mine => ?_) (by rw [jobs]; exact List.Subset.refl _)
      (by rw [waiting]; exact List.Subset.refl _) fun r found entry planned task => ?_⟩
    · rw [idle] at mine
      cases mine
    · obtain rfl := Option.some.inj (same.symm.trans found)
      exact .inr (.inr (.inr ⟨q, is,
        entry, calls.old entry planned run (Task.load?_run.mp task) member, task⟩))
  known load bears := by
    rcases bears with mine | ⟨job, asked, task⟩ | ⟨entry, waits, task⟩ |
      ⟨r, found, entry, member, task⟩
    · rw [own] at mine
      cases mine
    · exact (h.known load (.inr (.inl ⟨job, jobs ▸ asked, task⟩))).onward onward
    · exact (h.known load (.inr (.inr (.inl ⟨entry, waiting ▸ waits, task⟩)))).onward onward
    · obtain rfl := Option.some.inj (is.symm.trans found)
      rcases calls.new entry member with old | ⟨none, timers⟩
      · exact (h.known load (.inr (.inr (.inr ⟨p, same, entry, old, task⟩)))).onward onward
      · rcases Task.load?_cases task with ⟨run, carried, -⟩ | ⟨uri, generation, timer, rfl⟩
        · cases none.symm.trans carried
        · exact timers uri generation timer
  held run mine := by
    rw [run?_of_load? own] at mine
    cases mine

/-- Nothing but the jobs and the line changes, and no run that flies is lost. -/
theorem same (h : Grounded window hand s p)
    (documents : after.session.documents = s.session.documents) (own : next.run? = none)
    (fewer : ∀ load, Bears load next after → Bears load hand s)
    (flies : ∀ run, run.flight ∈ p.inFlight.flights → Bears (.run run) hand s →
      Bears (.run run) next after) : Grounded window next after p where
  window := h.window
  tracks := documents ▸ h.tracks
  apart := h.apart
  manned flight member := by
    obtain ⟨run, rfl, bears⟩ := h.manned flight member
    exact ⟨run, rfl, flies run member bears⟩
  known load bears := documents ▸ h.known load (fewer load bears)
  held run mine := by
    rw [own] at mine
    cases mine

end Grounded

/-- Those whose letters are wanted go on with a run that is not superseded. -/
theorem isSuperseded_of_wanted {p : Pipeline Json} {sequel : Sequel} {run : Run Json}
    (wanted : s.isStale sequel = false) (same : s.session.pipeline? = some p)
    (own : runOf? sequel = some run) : p.isSuperseded run = false := by
  cases sequel with
  | resume pause =>
      obtain rfl := Option.some.inj own
      simpa [isStale, same] using wanted
  | read => cases own
  | nothing => cases own

/-- The run that has the turn is not superseded by its own work. -/
theorem Work.held (work : Work outside hand s next after) {q : Pipeline Json} {run : Run Json}
    (held : ∀ p, s.session.pipeline? = some p → ∀ run, hand.run? = some run →
      p.isSuperseded run = false)
    (is : after.session.pipeline? = some q) (own : next.run? = some run) :
    q.isSuperseded run = false := by
  cases work with
  | place wanted =>
      rw [show (s.putPromised _).session = s.session from wakeWriter_session _] at is
      exact isSuperseded_of_wanted wanted is own
  | ask same =>
      obtain rfl := Option.some.inj own
      rfl
  | start same current =>
      obtain rfl := Option.some.inj own
      obtain rfl := Option.some.inj (same.symm.trans is)
      exact current
  | finish same current =>
      obtain rfl := Option.some.inj own
      obtain rfl := Option.some.inj (same.symm.trans is)
      exact current
  | @build _ p other workspace document result same short =>
      obtain rfl := Option.some.inj own
      obtain rfl := Option.some.inj is
      rw [launch_pipeline outside s.world p other workspace document (by rw [short]; rfl)]
      exact held p same other rfl
  | unfounded same nothing => exact held q is run own
  | clear same found => exact held q is run own
  | succeed same sound => exact held q is run own
  | complain same failed => exact held q is run own
  | post room =>
      obtain ⟨-, rfl⟩ := send?_eq_some room
      rw [wakeWriter_session] at is
      exact held q is run own
  | _ => cases own

/-- A run that begins is known: a push comes from an event that was held back. -/
theorem Begun.known {p q : Pipeline Json} {load : Load} (h : Begun s after load)
    (same : s.session.pipeline? = some p) (is : after.session.pipeline? = some q)
    (tracks : p.Tracks s.session.documents) : load.Known q s.session.documents := by
  cases h with
  | @run t u uri trigger found becomes begins rested =>
      obtain rfl := Option.some.inj (same.symm.trans found)
      obtain rfl := Option.some.inj (is.symm.trans becomes)
      refine ⟨begins ▸ Nat.le_refl _, fun push _ => ?_⟩
      obtain ⟨generation, due⟩ := rested push
      obtain ⟨event, first, -⟩ := (Debouncer.due?_isSome_iff _ _ _).mp due
      obtain ⟨document, isOpen, -⟩ := tracks event (List.mem_of_find?_eq_some first)
      have own : event.key = uri := by simpa using List.find?_some first
      rw [Documents.contains, ← own, isOpen]
      rfl

/-- All work of a server stays grounded, whatever is done next. -/
theorem Grounded.work {window : Nat} {p q : Pipeline Json} (h : Grounded window hand s p)
    (same : s.session.pipeline? = some p) (work : Work outside hand s next after)
    (is : after.session.pipeline? = some q) : Grounded window next after q := by
  obtain ⟨r, found, worked⟩ := work.changes is
  obtain rfl := Option.some.inj (same.symm.trans found)
  have onward : p.Onward s.session.documents q after.session.documents :=
    work.documents ▸ worked.onward _
  refine ⟨worked.window.trans h.window, onward.tracks h.tracks, worked.apart h.apart,
    fun flight member => ?_, fun load bears => ?_, fun run own => ?_⟩
  · refine (worked.old_or_new h.apart member).elim (fun flew => ?_) id
    obtain ⟨run, rfl, bears⟩ := h.manned flight flew
    exact ⟨run, rfl, work.flies same is h.apart (h.known _ bears).1 flew member bears⟩
  · rcases work.bears bears with before | begun
    · exact (h.known load before).onward onward
    · exact work.documents ▸ begun.known same is h.tracks
  · exact work.held (fun r found => Option.some.inj (same.symm.trans found) ▸ h.held) is own

end Server

end AsmDiagnostics
