import Mathlib.Data.List.Nodup
import AsmDiagnostics.Proofs.Pipeline.Freshness
import AsmDiagnostics.Proofs.Pipeline.Tidy

/-!
# Flights and the runs they belong to

When aborts come in time, each flight belongs to one run whose task is on the agenda, and a push is
on it only while its flight is there.  A flight ends with its own run, with a newer run, a close of
its document or the end of the session, and it never comes back.
-/

namespace AsmDiagnostics

variable {τ ω : Type}

def Run.flight (run : Run τ) : Flight := ⟨run.uri, run.generation⟩

/-! ## Flights -/

namespace InFlight

variable {f : InFlight} {uri : Uri} {flight : Flight}

def Apart (f : InFlight) : Prop := (f.flights.map Flight.uri).Nodup

theorem mem_drop : flight ∈ (f.drop uri).flights ↔ flight ∈ f.flights ∧ flight.uri ≠ uri :=
  Keyed.mem_without

theorem mem_begin : flight ∈ (f.begin uri).flights ↔
    (flight ∈ f.flights ∧ flight.uri ≠ uri) ∨ flight = ⟨uri, f.nextGeneration⟩ :=
  Keyed.mem_put

namespace Apart

theorem drop (h : f.Apart) (uri : Uri) : (f.drop uri).Apart :=
  Keyed.nodup_without h uri

theorem begin (h : f.Apart) (uri : Uri) : (f.begin uri).Apart := Keyed.nodup_put h _

theorem finish (h : f.Apart) (uri : Uri) (generation : Nat) : (f.finish uri generation).Apart := by
  unfold InFlight.finish
  split
  · exact h.drop uri
  · exact h

/-- Every flight is the current one of its document. -/
theorem current? (h : f.Apart) (member : flight ∈ f.flights) :
    f.current? flight.uri = some flight.generation := by
  have found : (f.flights.find? fun other => other.uri = flight.uri).isSome :=
    List.find?_isSome.mpr ⟨flight, member, by simp⟩
  obtain ⟨other, first⟩ := Option.isSome_iff_exists.mp found
  have same : other.uri = flight.uri := by simpa using List.find?_some first
  obtain rfl : other = flight :=
    List.inj_on_of_nodup_map h (List.mem_of_find?_eq_some first) member same
  simp [InFlight.current?, Keyed.find?, first]

/-- A run that finishes ends its own flight and no other. -/
theorem mem_finish (h : f.Apart) {generation : Nat} :
    flight ∈ (f.finish uri generation).flights ↔ flight ∈ f.flights ∧ flight ≠ ⟨uri, generation⟩ := by
  unfold InFlight.finish
  split
  · rename_i current
    rw [mem_drop]
    refine and_congr_right fun member => not_congr ⟨fun same => ?_, fun same => by rw [same]⟩
    have own := h.current? member
    rw [same, (isCurrent_iff f uri generation).mp current] at own
    exact Flight.mk.injEq _ _ _ _ ▸ ⟨same, (Option.some.inj own).symm⟩
  · rename_i gone
    refine (and_iff_left_of_imp fun member => ?_).symm
    rintro rfl
    exact gone ((isCurrent_iff f uri generation).mpr (h.current? member))

end Apart

end InFlight

/-! ## Manned flights -/

namespace Pipeline

/-- No document has two flights, and each flight is that of a run on the agenda or in hand. -/
structure Manned (p : Pipeline τ) (hand : Option (Run τ)) : Prop where
  apart : p.inFlight.Apart
  manned : ∀ flight ∈ p.inFlight.flights, ∃ run, (run ∈ hand ∨ run ∈ p.carried) ∧ run.flight = flight

theorem mem_carried_abortPush {p : Pipeline τ} {run : Run τ} {uri : Uri} (waits : run ∈ p.carried)
    (different : run.uri ≠ uri) : run ∈ (p.abortPush uri).carried := by
  obtain ⟨entry, member, own⟩ := mem_carried.mp waits
  exact mem_carried.mpr ⟨entry, (mem_abortPush_of_other own different).mpr member, own⟩

namespace Manned

variable {p rest : Pipeline τ} {hand : Option (Run τ)} {run : Run τ}

theorem start (workspace? : Option Workspace) (window : Nat) :
    (Pipeline.start workspace? window : Pipeline τ).Manned none :=
  ⟨List.nodup_nil, fun _ member => (nomatch member)⟩

theorem mono (h : p.Manned hand) (same : rest.inFlight = p.inFlight)
    (more : p.carried ⊆ rest.carried) : rest.Manned hand := by
  refine ⟨same ▸ h.apart, fun flight member => ?_⟩
  obtain ⟨run, waits, own⟩ := h.manned flight (same ▸ member)
  exact ⟨run, waits.imp_right fun waits => more waits, own⟩

theorem plan (h : p.Manned hand) (delay : Nat) (task : Task τ) : (p.plan delay task).Manned hand :=
  h.mono rfl fun _ waits => (carried_plan p delay task).symm.subset (List.mem_append_right _ waits)

/-- The run in hand gets a task. -/
theorem plan_own (h : p.Manned (some run)) (delay : Nat) {task : Task τ}
    (own : task.run? = some run) : (p.plan delay task).Manned none := by
  obtain ⟨apart, manned⟩ := h.plan delay task
  refine ⟨apart, fun flight member => ?_⟩
  obtain ⟨other, inHand | waits, same⟩ := manned flight member
  · obtain rfl := Option.some.inj inHand
    refine ⟨run, .inr ((carried_plan p delay task).symm.subset ?_), same⟩
    exact List.mem_append_left _ (Option.mem_toList.mpr own)
  · exact ⟨other, .inr waits, same⟩

theorem begin (h : p.Manned none) (uri : Uri) (trigger : Trigger τ) :
    (p.begin uri trigger).2.Manned (some (p.begin uri trigger).1) := by
  refine ⟨h.apart.begin uri, fun flight member => ?_⟩
  rcases InFlight.mem_begin.mp member with ⟨old, different⟩ | rfl
  · obtain ⟨run, inHand | waits, rfl⟩ := h.manned flight old
    · exact nomatch inHand
    · exact ⟨run, .inr (mem_carried_abortPush waits different), rfl⟩
  · exact ⟨_, .inl rfl, rfl⟩

theorem push (h : p.Manned none) (uri : Uri) : (p.push uri).Manned none := by
  rw [push_eq]
  exact (h.begin uri .push).plan_own 0 rfl

theorem close (h : p.Manned none) (uri : Uri) : (p.close uri).Manned none := by
  refine ⟨h.apart.drop uri, fun flight member => ?_⟩
  obtain ⟨old, different⟩ := InFlight.mem_drop.mp member
  obtain ⟨run, inHand | waits, rfl⟩ := h.manned flight old
  · exact nomatch inHand
  · exact ⟨run, .inr (mem_carried_abortPush waits different), rfl⟩

theorem shutdown (p : Pipeline τ) : p.shutdown.Manned none :=
  ⟨List.nodup_nil, fun _ member => (nomatch member)⟩

/-- The run in hand is over, and so is its flight. -/
theorem finished (h : p.Manned (some run)) : (p.finished run).Manned none := by
  refine ⟨h.apart.finish _ _, fun flight member => ?_⟩
  obtain ⟨old, different⟩ := h.apart.mem_finish.mp member
  obtain ⟨other, inHand | waits, rfl⟩ := h.manned flight old
  · obtain rfl := Option.some.inj inHand
    exact absurd rfl different
  · exact ⟨other, .inr waits, rfl⟩

theorem execute (h : p.Manned (some run)) (outside : Outside ω) (world : ω) :
    (p.execute outside world run).pipeline.Manned none := by
  rcases execute_cases outside world p run with ⟨-, executed⟩ |
    ⟨_, document, _, result, delay, _, -, -, -, ⟨-, executed⟩ | ⟨-, executed⟩⟩
  · rw [executed]
    exact h.finished
  · rw [executed]
    exact h.finished
  · rw [executed]
    exact h.plan_own delay rfl

theorem perform {task : Task τ} (h : p.Manned task.run?) (outside : Outside ω) (world : ω) :
    (p.perform outside world task).pipeline.Manned none := by
  cases task with
  | wake uri generation =>
      have woken : Manned { p with debouncer := p.debouncer.wake uri generation } none :=
        ⟨h.apart, h.manned⟩
      simp only [Pipeline.perform_wake, Pipeline.wake]
      split
      · exact woken.push uri
      · exact woken
  | ask uri ticket =>
      rw [perform_ask_pipeline]
      exact (Manned.begin h uri (.pull ticket)).execute outside world
  | start run => exact Manned.execute h outside world
  | finish run document result =>
      rw [perform_finish]
      exact Manned.finished h

end Manned

end Pipeline

/-! ## Moves -/

namespace Scene

variable {s : Scene τ ω} {place : Nat} {entry : Planned (Task τ)}

/-- The run of a task that is taken off the agenda is in hand. -/
theorem manned_without (h : s.pipeline.Manned none)
    (found : s.pipeline.agenda[place]? = some entry) :
    (s.without place).Manned entry.action.run? := by
  refine ⟨h.apart, fun flight member => ?_⟩
  obtain ⟨run, inHand | waits, rfl⟩ := h.manned flight member
  · exact nomatch inHand
  · obtain ⟨other, there, own⟩ := Pipeline.mem_carried.mp waits
    rcases List.mem_cons.mp ((perm_without found).subset there) with rfl | left
    · exact ⟨run, .inl own, rfl⟩
    · exact ⟨run, .inr (Pipeline.mem_carried.mpr ⟨other, left, own⟩), rfl⟩

theorem manned_move (outside : Outside ω) {move : Move τ ω} (h : s.pipeline.Manned none)
    (prompt : move.IsPrompt) : (s.move outside move).2.pipeline.Manned none := by
  cases move with
  | change uri version =>
      have held : Pipeline.Manned
          { s.pipeline with debouncer := s.pipeline.debouncer.schedule uri version } none :=
        ⟨h.apart, h.manned⟩
      exact held.plan s.pipeline.window _
  | close uri => exact h.close uri
  | push uri => exact h.push uri
  | pull uri ticket => exact h.plan 0 _
  | shutdown => exact .shutdown s.pipeline
  | wait millis => exact ⟨h.apart, h.manned⟩
  | alter world => exact h
  | perform place =>
      rcases move_perform outside s place with nothing | ⟨entry, found, performed⟩
      · rw [nothing]
        exact h
      · rw [performed]
        exact (manned_without h found).perform outside s.world
  | late place => exact prompt.elim

end Scene

/-! ## Beginnings -/

namespace InFlight

/-- Flights come to be with new generations only. -/
structure Later (f g : InFlight) : Prop where
  last : f.lastGeneration ≤ g.lastGeneration
  old : ∀ flight ∈ g.flights, flight.generation ≤ f.lastGeneration → flight ∈ f.flights

namespace Later

variable {f g h : InFlight}

theorem refl (f : InFlight) : f.Later f := ⟨Nat.le_refl _, fun _ member _ => member⟩

theorem trans (first : f.Later g) (second : g.Later h) : f.Later h where
  last := Nat.le_trans first.last second.last
  old flight member before :=
    first.old flight (second.old flight member (Nat.le_trans before first.last)) before

theorem begin (f : InFlight) (uri : Uri) : f.Later (f.begin uri) where
  last := Nat.le_succ _
  old flight member before := by
    rcases mem_begin.mp member with ⟨old, -⟩ | rfl
    · exact old
    · exact absurd before (Nat.not_succ_le_self _)

theorem drop (f : InFlight) (uri : Uri) : f.Later (f.drop uri) :=
  ⟨Nat.le_refl _, fun _ member _ => (mem_drop.mp member).1⟩

theorem finish (f : InFlight) (uri : Uri) (generation : Nat) : f.Later (f.finish uri generation) := by
  unfold InFlight.finish
  split
  · exact drop f uri
  · exact refl f

end Later

end InFlight

namespace Pipeline

theorem execute_later (outside : Outside ω) (world : ω) (p : Pipeline τ) (run : Run τ) :
    p.inFlight.Later (p.execute outside world run).pipeline.inFlight := by
  rcases execute_inFlight outside world p run with same | finished
  · rw [same]
    exact .refl _
  · rw [finished]
    exact .finish _ _ _

theorem perform_later (outside : Outside ω) (world : ω) (p : Pipeline τ) (task : Task τ) :
    p.inFlight.Later (p.perform outside world task).pipeline.inFlight := by
  cases task with
  | wake uri generation =>
      simp only [perform_wake, wake]
      split
      · exact .begin _ uri
      · exact .refl _
  | ask uri ticket =>
      rw [perform_ask_pipeline]
      exact (InFlight.Later.begin _ uri).trans
        (execute_later outside world (p.begin uri (.pull ticket)).2 _)
  | start run => exact execute_later outside world p run
  | finish run document result =>
      rw [perform_finish]
      exact .finish _ _ _

end Pipeline

namespace Scene

theorem move_later (outside : Outside ω) (s : Scene τ ω) (move : Move τ ω) :
    s.pipeline.inFlight.Later (s.move outside move).2.pipeline.inFlight := by
  cases move with
  | close uri => exact .drop _ uri
  | push uri => exact .begin _ uri
  | shutdown => exact ⟨Nat.le_refl _, fun _ member => nomatch member⟩
  | perform place =>
      rcases move_perform outside s place with nothing | ⟨entry, -, performed⟩
      · rw [nothing]
        exact .refl _
      · rw [performed]
        exact Pipeline.perform_later outside s.world (s.without place) entry.action
  | late place =>
      rcases move_late outside s place with nothing | ⟨task, -, performed⟩
      · rw [nothing]
        exact .refl _
      · rw [performed]
        exact Pipeline.perform_later outside s.world s.pipeline task
  | _ => exact .refl _

theorem play_later (outside : Outside ω) (s : Scene τ ω) (moves : List (Move τ ω)) :
    s.pipeline.inFlight.Later (s.play outside moves).2.pipeline.inFlight := by
  induction moves generalizing s with
  | nil => exact .refl _
  | cons move moves ih => exact (move_later outside s move).trans (ih (s.move outside move).2)

end Scene

/-! ## Endings -/

/-- Why a flight is not there any more after a move. -/
inductive Ends (s : Scene τ ω) (flight : Flight) (happenings : List (Happening τ)) :
    Move τ ω → Prop where
  /-- Its own run is over. -/
  | finished {place : Nat} {entry : Planned (Task τ)} {run : Run τ}
      (found : s.pipeline.agenda[place]? = some entry) (own : entry.action.run? = some run)
      (same : run.flight = flight) : Ends s flight happenings (.perform place)
  /-- A newer run for the document has begun. -/
  | superseded {move : Move τ ω} {time : Nat} {run : Run τ} (begun : .begun time run ∈ happenings)
      (same : run.uri = flight.uri) (newer : flight.generation < run.generation) :
      Ends s flight happenings move
  | closed : Ends s flight happenings (.close flight.uri)
  | stopped : Ends s flight happenings .shutdown

namespace Pipeline

variable {p : Pipeline τ} {flight : Flight}

theorem Manned.bounded (h : p.Manned none) (tidy : p.Tidy) (member : flight ∈ p.inFlight.flights) :
    flight.generation < p.inFlight.nextGeneration := by
  obtain ⟨run, inHand | waits, rfl⟩ := h.manned flight member
  · exact nomatch inHand
  · exact Nat.lt_succ_of_le (tidy.bounded run waits)

/-- The execution of a run ends no flight but its own. -/
theorem mem_execute_flights (apart : p.inFlight.Apart) (outside : Outside ω) (world : ω)
    {run : Run τ} (member : flight ∈ p.inFlight.flights) (other : flight ≠ run.flight) :
    flight ∈ (p.execute outside world run).pipeline.inFlight.flights := by
  rcases execute_inFlight outside world p run with same | finished
  · rwa [same]
  · rw [finished]
    exact apart.mem_finish.mpr ⟨member, other⟩

theorem mem_begin_flights {uri : Uri} (member : flight ∈ p.inFlight.flights)
    (different : flight.uri ≠ uri) (trigger : Trigger τ) :
    flight ∈ (p.begin uri trigger).2.inFlight.flights :=
  InFlight.mem_begin.mpr (.inl ⟨member, different⟩)

end Pipeline

namespace Scene

variable {s : Scene τ ω} {flight : Flight} (outside : Outside ω)

/-- A task ends the flight of its own run, or one that is superseded by the run that it begins. -/
theorem ends_perform {place : Nat} {entry : Planned (Task τ)}
    (found : s.pipeline.agenda[place]? = some entry) (apart : s.pipeline.inFlight.Apart)
    (member : flight ∈ s.pipeline.inFlight.flights)
    (old : flight.generation < s.pipeline.inFlight.nextGeneration)
    (gone : flight ∉ (s.performed outside (s.without place) entry.action).2.pipeline.inFlight.flights) :
    Ends s flight (s.performed outside (s.without place) entry.action).1 (.perform place) := by
  have own {run : Run τ} (carries : entry.action.run? = some run)
      (stays : flight ≠ run.flight →
        flight ∈ (s.performed outside (s.without place) entry.action).2.pipeline.inFlight.flights) :
      Ends s flight (s.performed outside (s.without place) entry.action).1 (.perform place) :=
    .finished found carries (not_not.mp fun other => gone (stays (Ne.symm other)))
  simp only [performed] at gone own ⊢
  cases task : entry.action with
  | wake uri generation =>
      simp only [task, Pipeline.perform_wake, Pipeline.wake] at gone ⊢
      split at gone
      · rename_i due
        rw [if_pos due]
        by_cases same : flight.uri = uri
        · exact .superseded (List.mem_singleton_self _) same.symm old
        · exact absurd (InFlight.mem_begin.mpr (.inl ⟨member, same⟩)) gone
      · exact absurd member gone
  | ask uri ticket =>
      simp only [task, Pipeline.perform_ask] at gone ⊢
      by_cases same : flight.uri = uri
      · exact .superseded List.mem_cons_self same.symm old
      · refine absurd (Pipeline.mem_execute_flights (apart.begin uri) outside s.world
          (Pipeline.mem_begin_flights (p := s.without place) member same (.pull ticket)) ?_) gone
        rintro rfl
        exact same rfl
  | start run =>
      rw [task] at own
      exact own rfl fun other =>
        Pipeline.mem_execute_flights (p := s.without place) apart outside s.world member other
  | finish run document result =>
      rw [task] at own
      refine own rfl fun other => ?_
      rw [Pipeline.perform_finish]
      exact apart.mem_finish.mpr ⟨member, other⟩

theorem ends_move {move : Move τ ω} (tidy : s.pipeline.Tidy) (manned : s.pipeline.Manned none)
    (prompt : move.IsPrompt) (member : flight ∈ s.pipeline.inFlight.flights)
    (gone : flight ∉ (s.move outside move).2.pipeline.inFlight.flights) :
    Ends s flight (s.move outside move).1 move := by
  have old := manned.bounded tidy member
  cases move with
  | close uri =>
      obtain rfl : flight.uri = uri := by
        by_contra different
        exact gone (InFlight.mem_drop.mpr ⟨member, different⟩)
      exact .closed
  | push uri =>
      have same : flight.uri = uri := by
        by_contra different
        exact gone (Pipeline.mem_begin_flights member different .push)
      exact .superseded (List.mem_singleton_self _) same.symm old
  | shutdown => exact .stopped
  | perform place =>
      rcases move_perform outside s place with nothing | ⟨entry, found, performed⟩
      · rw [nothing] at gone
        exact absurd member gone
      · rw [performed] at gone ⊢
        exact ends_perform outside found manned.apart member old gone
  | late place => exact prompt.elim
  | _ => exact absurd member gone

end Scene

/-! ## Results -/

namespace Pipeline

/-- A delivery publishes a result only if the flight of the push is there, and ends it. -/
theorem deliver_flight {p : Pipeline τ} {run other : Run τ} {diagnostics : List Diagnostic}
    {happening : Happening τ} (member : happening ∈ (p.deliver run diagnostics).1.map Happening.seen)
    (result : happening.published? = some other) :
    other = run ∧ run.trigger = .push ∧ p.inFlight.current? run.uri = some run.generation := by
  rcases p.deliver_cases run diagnostics with ⟨nothing, -⟩ | ⟨told, whenPushed⟩
  · rw [nothing] at member
    exact nomatch member
  · rw [told] at member
    obtain rfl := List.mem_singleton.mp member
    cases trigger : run.trigger with
    | pull ticket => simp [Happening.published?, eventOf, trigger, Trigger.isPush] at result
    | push =>
        simp only [Happening.published?, eventOf, trigger, Trigger.isPush, if_true,
          Option.some.injEq] at result
        exact ⟨result.symm, rfl, whenPushed trigger⟩

theorem execute_flight (outside : Outside ω) (world : ω) {p : Pipeline τ} (apart : p.inFlight.Apart)
    {run other : Run τ} {happening : Happening τ} (member : happening ∈ (p.execute outside world run).told)
    (result : happening.published? = some other) :
    other = run ∧ run.trigger = .push ∧ run.flight ∈ p.inFlight.flights ∧
      run.flight ∉ (p.execute outside world run).pipeline.inFlight.flights := by
  obtain ⟨opening, opens, ⟨told, -⟩ | ⟨diagnostics, told, finished⟩⟩ :=
    p.execute_told outside world run
  · rw [told] at member
    exact nomatch result.symm.trans (opens happening member).2
  · rw [told] at member
    rcases List.mem_append.mp member with early | delivered
    · exact nomatch result.symm.trans (opens happening early).2
    · obtain ⟨same, pushed, current⟩ := deliver_flight delivered result
      rw [finished]
      exact ⟨same, pushed, InFlight.mem_flights_of_current? current,
        fun still => (apart.mem_finish.mp still).2 rfl⟩

theorem perform_flight (outside : Outside ω) (world : ω) {p : Pipeline τ} (apart : p.inFlight.Apart)
    {task : Task τ} {run : Run τ} {happening : Happening τ}
    (member : happening ∈ (p.perform outside world task).told) (result : happening.published? = some run) :
    run.flight ∈ p.inFlight.flights ∧
      run.flight ∉ (p.perform outside world task).pipeline.inFlight.flights := by
  cases task with
  | wake uri generation =>
      simp only [perform_wake] at member
      split at member
      · obtain rfl := List.mem_singleton.mp member
        cases result
      · cases member
  | ask uri ticket =>
      rw [perform_ask] at member
      rcases List.mem_cons.mp member with rfl | told
      · cases result
      · obtain ⟨-, pushed, -⟩ := execute_flight outside world
          (p := (p.begin uri (.pull ticket)).2) (apart.begin uri) told result
        cases pushed
  | start own =>
      obtain ⟨rfl, -, flies⟩ := execute_flight outside world apart member result
      exact flies
  | finish own document built =>
      rw [perform_finish_told] at member
      rcases List.mem_append.mp member with complained | delivered
      · rw [(opening_complain p own document built _ complained).2] at result
        cases result
      · obtain ⟨rfl, -, current⟩ := deliver_flight delivered result
        rw [perform_finish]
        exact ⟨InFlight.mem_flights_of_current? current,
          fun still => (apart.mem_finish.mp still).2 rfl⟩

end Pipeline

/-- A result is published only in the move that ends the flight of its run. -/
theorem Scene.move_flight (outside : Outside ω) {s : Scene τ ω}
    (apart : s.pipeline.inFlight.Apart) {move : Move τ ω} {run : Run τ} {happening : Happening τ}
    (member : happening ∈ (s.move outside move).1) (result : happening.published? = some run) :
    run.flight ∈ s.pipeline.inFlight.flights ∧
      run.flight ∉ (s.move outside move).2.pipeline.inFlight.flights := by
  cases move with
  | perform place =>
      rcases move_perform outside s place with nothing | ⟨entry, -, performed⟩
      · rw [nothing] at member
        exact nomatch member
      · rw [performed] at member ⊢
        exact Pipeline.perform_flight (p := s.without place) outside s.world apart member result
  | late place =>
      rcases move_late outside s place with nothing | ⟨task, -, performed⟩
      · rw [nothing] at member
        exact nomatch member
      · rw [performed] at member ⊢
        exact Pipeline.perform_flight outside s.world apart member result
  | close uri =>
      obtain rfl := List.mem_singleton.mp member
      exact nomatch result
  | push uri =>
      obtain rfl := List.mem_singleton.mp member
      exact nomatch result
  | shutdown =>
      obtain rfl := List.mem_singleton.mp member
      exact nomatch result
  | _ => exact nomatch member

/-! ## The book -/

/-- Each flight belongs to one run, and each push that is carried on has its flight. -/
structure Booked (history : List (Happening τ)) (p : Pipeline τ) : Prop where
  apart : (p.inFlight.flights.map Flight.uri).Nodup
  /-- One task on the agenda belongs to the generation of a flight, and to its document; no other run
  was ever begun with that generation. -/
  belongs : ∀ flight ∈ p.inFlight.flights, ∃ run, run.flight = flight ∧
    (p.carried.filter fun other => other.generation = flight.generation) = [run] ∧
    (∃ time, .begun time run ∈ history) ∧
    ∀ time other, .begun time other ∈ history → other.generation = flight.generation → other = run
  live : ∀ run ∈ p.carried, run.trigger = .push →
    p.inFlight.current? run.uri = some run.generation
  single : ∀ uri, (p.carried.filter fun run => run.uri = uri && run.trigger.isPush).length ≤ 1
  empty : p.carried = [] → p.inFlightCount = 0

namespace Booked

/-- A list in which generations are distinct has one run of the generation of each of its runs. -/
theorem filter_generation {runs : List (Run τ)} (distinct : (runs.map Run.generation).Nodup)
    {run : Run τ} (member : run ∈ runs) :
    (runs.filter fun other => other.generation = run.generation) = [run] := by
  induction runs with
  | nil => exact nomatch member
  | cons first rest ih =>
      obtain ⟨new, distinct⟩ := List.nodup_cons.mp distinct
      rcases List.mem_cons.mp member with rfl | behind
      · rw [List.filter_cons_of_pos (by simp), List.filter_eq_nil_iff.mpr fun other later same => ?_]
        exact new (List.mem_map.mpr ⟨other, later, by simpa using same⟩)
      · rw [List.filter_cons_of_neg, ih distinct behind]
        intro same
        exact new (List.mem_map.mpr ⟨run, behind, (of_decide_eq_true same).symm⟩)

/-- Pushes on the agenda that are current for one document are one. -/
theorem length_pushes {p : Pipeline τ} (tidy : p.Tidy) (uri : Uri) :
    (p.carried.filter fun run => run.uri = uri && run.trigger.isPush).length ≤ 1 := by
  have distinct : ((p.carried.filter fun run => run.uri = uri && run.trigger.isPush).map
      Run.generation).Nodup :=
    tidy.distinct.sublist (List.filter_sublist.map Run.generation)
  have current {run : Run τ}
      (member : run ∈ p.carried.filter fun run => run.uri = uri && run.trigger.isPush) :
      p.inFlight.current? uri = some run.generation := by
    obtain ⟨waits, kept⟩ := List.mem_filter.mp member
    rw [Bool.and_eq_true, decide_eq_true_eq] at kept
    obtain ⟨rfl, pushed⟩ := kept
    refine tidy.live run waits ?_
    cases trigger : run.trigger with
    | push => rfl
    | pull ticket => simp [trigger, Trigger.isPush] at pushed
  cases pushes : p.carried.filter fun run => run.uri = uri && run.trigger.isPush with
  | nil => exact Nat.zero_le 1
  | cons run others =>
      cases others with
      | nil => exact Nat.le_refl 1
      | cons other others =>
          rw [pushes] at distinct current
          have same := (current List.mem_cons_self).symm.trans
            (current (List.mem_cons_of_mem _ List.mem_cons_self))
          have new := (List.nodup_cons.mp distinct).1
          rw [Option.some.inj same] at new
          exact absurd List.mem_cons_self new

theorem of_manned {history : List (Happening τ)} {s : Scene τ ω} (traced : Traced history s)
    (tidy : s.pipeline.Tidy) (manned : s.pipeline.Manned none) : Booked history s.pipeline := by
  refine ⟨manned.apart, ?_, tidy.live, length_pushes tidy, ?_⟩
  · intro flight member
    obtain ⟨run, inHand | waits, rfl⟩ := manned.manned flight member
    · exact nomatch inHand
    obtain ⟨entry, there, own⟩ := Pipeline.mem_carried.mp waits
    obtain ⟨time, begun⟩ := traced.known entry.action (traced.waiting entry there) run own
    exact ⟨run, rfl, filter_generation tidy.distinct waits, ⟨time, begun⟩,
      fun later other otherBegun same =>
        begun_unique traced.numbered.increasing otherBegun begun same⟩
  · intro none
    have nobody : s.pipeline.inFlight.flights = [] := by
      rw [List.eq_nil_iff_forall_not_mem]
      intro flight member
      obtain ⟨run, inHand | waits, -⟩ := manned.manned flight member
      · exact nomatch inHand
      · rw [none] at waits
        exact nomatch waits
    simp [Pipeline.inFlightCount, InFlight.count, nobody]

end Booked

/-- At any time of any story whose aborts come in time, each flight belongs to one run on the agenda,
each push on it has its flight, and no flight is left when no run is.  In whatever way the story goes
on, a flight that ends does so with its own run, or because it is superseded or closed or the session
ends; a result is published only when the flight of its own run ends; and no flight comes back. -/
theorem flights_belong_to_runs (outside : Outside ω) (workspace? : Option Workspace) (window : Nat)
    (world : ω) {moves : List (Move τ ω)} (prompt : ∀ move ∈ moves, move.IsPrompt) :
    let (history, s) := (Scene.start workspace? window world).play outside moves
    Booked history s.pipeline ∧
      (∀ move : Move τ ω, move.IsPrompt → ∀ flight ∈ s.pipeline.inFlight.flights,
        flight ∉ (s.move outside move).2.pipeline.inFlight.flights →
          Ends s flight (s.move outside move).1 move) ∧
      (∀ move : Move τ ω, ∀ happening ∈ (s.move outside move).1, ∀ run,
        happening.published? = some run → run.flight ∈ s.pipeline.inFlight.flights ∧
          run.flight ∉ (s.move outside move).2.pipeline.inFlight.flights) ∧
      ∀ later, ∀ flight ∈ (s.play outside later).2.pipeline.inFlight.flights,
        flight.generation ≤ s.pipeline.inFlight.lastGeneration →
          flight ∈ s.pipeline.inFlight.flights := by
  obtain ⟨traced, tidy, manned⟩ := Scene.prompt_keeps outside
    (fun history s => Traced history s ∧ s.pipeline.Tidy ∧ s.pipeline.Manned none)
    (fun history s move prompt ⟨traced, tidy, manned⟩ => ⟨traced.move outside move,
      Scene.tidy_move outside tidy prompt, Scene.manned_move outside manned prompt⟩)
    [] ⟨Traced.start workspace? window world, .start workspace? window, .start workspace? window⟩
    prompt
  rw [List.nil_append] at traced
  exact ⟨Booked.of_manned traced tidy manned,
    fun move prompt flight member gone => Scene.ends_move outside tidy manned prompt member gone,
    fun move happening member run result => Scene.move_flight outside manned.apart member result,
    fun later flight member => (Scene.play_later outside _ later).old flight member⟩

/-- A push is superseded by a pull, whose document is closed and pushed anew: the new flight outlasts
the end of the pull. -/
theorem reopened_flight_outlasts_pull :
    let moves : List (Move Unit Unit) := [.push Sample.uri, .perform 0, .pull Sample.uri (),
      .perform 0, .close Sample.uri, .push Sample.uri]
    let s := (Sample.story 500 moves).2
    (∀ move ∈ moves, move.IsPrompt) ∧ s.pipeline.inFlight.flights = [⟨Sample.uri, 3⟩] ∧
      (s.move Sample.outside (.perform 1)).1 =
        [.seen ⟨0, ⟨Sample.uri, 2, .pull ()⟩, .deliver []⟩] ∧
      (s.move Sample.outside (.perform 1)).2.pipeline.inFlight.flights = [⟨Sample.uri, 3⟩] ∧
      ∃ run, run.flight = ⟨Sample.uri, 3⟩ ∧
        (s.pipeline.carried.filter fun other => other.generation = 3) = [run] := by
  intro moves s
  have prompt : ∀ move ∈ moves, move.IsPrompt := by decide
  have flights : s.pipeline.inFlight.flights = [⟨Sample.uri, 3⟩] := by decide +kernel
  obtain ⟨run, own, carried, -⟩ := (flights_belong_to_runs Sample.outside (some Sample.workspace) 500
    () prompt).1.belongs ⟨Sample.uri, 3⟩ (flights ▸ List.mem_singleton_self _)
  exact ⟨prompt, flights, by decide +kernel, by decide +kernel, run, own, carried⟩

end AsmDiagnostics
