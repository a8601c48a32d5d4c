import Mathlib.Data.List.Perm.Basic
import AsmDiagnostics.Proofs.Pipeline.Timely

/-!
# The work on the agenda

When aborts come in time, the agenda holds at most one task for each run, and a push has a task on
it only while its run is current.  Every move but a late one keeps the agenda that tidy.
-/

namespace AsmDiagnostics

variable {τ ω : Type}

namespace Pipeline

def carried (p : Pipeline τ) : List (Run τ) :=
  p.agenda.filterMap fun entry => entry.action.run?

theorem mem_carried {p : Pipeline τ} {run : Run τ} :
    run ∈ p.carried ↔ ∃ entry ∈ p.agenda, entry.action.run? = some run := List.mem_filterMap

theorem carried_plan (p : Pipeline τ) (delay : Nat) (task : Task τ) :
    (p.plan delay task).carried.Perm (task.run?.toList ++ p.carried) := by
  have moved := (Agenda.perm_add (Agenda.after p.now delay) task p.agenda).filterMap
    fun entry => entry.action.run?
  refine moved.trans (List.Perm.of_eq ?_)
  cases own : task.run? <;> simp [carried, own]

/-- At most one task for each run, and none for a push that is not current. -/
structure Tidy (p : Pipeline τ) : Prop where
  distinct : (p.carried.map Run.generation).Nodup
  bounded : ∀ run ∈ p.carried, run.generation ≤ p.inFlight.lastGeneration
  live : ∀ run ∈ p.carried, run.trigger = .push →
    p.inFlight.current? run.uri = some run.generation
  starts : ∀ entry ∈ p.agenda, ∀ run, entry.action = .start run → run.trigger = .push

namespace Tidy

variable {p rest : Pipeline τ}

theorem start (workspace? : Option Workspace) (window : Nat) :
    (Pipeline.start workspace? window : Pipeline τ).Tidy :=
  ⟨List.nodup_nil, fun _ member => (nomatch member), fun _ member => (nomatch member),
    fun _ member => (nomatch member)⟩

/-- A pipeline with less on its agenda is tidy if no push on it has lost its place. -/
theorem of_sublist (h : p.Tidy) (fewer : rest.agenda.Sublist p.agenda)
    (last : p.inFlight.lastGeneration ≤ rest.inFlight.lastGeneration)
    (live : ∀ entry ∈ rest.agenda, ∀ run, entry.action.run? = some run → run.trigger = .push →
      p.inFlight.current? run.uri = some run.generation →
        rest.inFlight.current? run.uri = some run.generation) : rest.Tidy := by
  have runs : rest.carried.Sublist p.carried := fewer.filterMap _
  refine ⟨h.distinct.sublist (runs.map _), ?_, ?_, ?_⟩
  · intro run member
    exact Nat.le_trans (h.bounded run (runs.subset member)) last
  · intro run member pushed
    obtain ⟨entry, waits, own⟩ := mem_carried.mp member
    exact live entry waits run own pushed (h.live run (runs.subset member) pushed)
  · intro entry member
    exact h.starts entry (fewer.subset member)

/-- A new task keeps the agenda tidy if it carries on no run, or one that no other task does. -/
theorem plan (h : p.Tidy) (delay : Nat) {task : Task τ}
    (own : ∀ run, task.run? = some run →
      (∀ other ∈ p.carried, other.generation ≠ run.generation) ∧
        run.generation ≤ p.inFlight.lastGeneration ∧
        (run.trigger = .push → p.inFlight.current? run.uri = some run.generation))
    (starts : ∀ run, task = .start run → run.trigger = .push) : (p.plan delay task).Tidy := by
  have perm := carried_plan p delay task
  have cases_carried : ∀ run ∈ (p.plan delay task).carried,
      task.run? = some run ∨ run ∈ p.carried := by
    intro run member
    rcases List.mem_append.mp (perm.subset member) with new | old
    · exact .inl (Option.mem_toList.mp new)
    · exact .inr old
  refine ⟨(perm.map Run.generation).nodup_iff.mpr ?_, ?_, ?_, ?_⟩
  · rw [List.map_append, List.nodup_append]
    refine ⟨?_, h.distinct, ?_⟩
    · cases task.run? with
      | none => exact List.nodup_nil
      | some run => exact List.pairwise_singleton _ run.generation
    · intro generation new other old
      obtain ⟨run, carries, rfl⟩ := List.mem_map.mp new
      obtain ⟨before, waits, rfl⟩ := List.mem_map.mp old
      exact fun same => (own run (Option.mem_toList.mp carries)).1 before waits same.symm
  · intro run member
    rcases cases_carried run member with new | old
    · exact (own run new).2.1
    · exact h.bounded run old
  · intro run member
    rcases cases_carried run member with new | old
    · exact (own run new).2.2
    · exact h.live run old
  · intro entry member
    rcases (mem_plan p delay task entry).mp member with rfl | old
    · exact starts
    · exact h.starts entry old

/-- A task that carries on no run can always be entered. -/
theorem plan_other (h : p.Tidy) (delay : Nat) {task : Task τ} (none : task.run? = none) :
    (p.plan delay task).Tidy := by
  refine h.plan delay (fun run own => ?_) (fun run own => ?_)
  · rw [none] at own
    simp at own
  · rw [own] at none
    simp [Task.run?] at none

/-! ## Operations -/

theorem begin (h : p.Tidy) (uri : Uri) (trigger : Trigger τ) : (p.begin uri trigger).2.Tidy := by
  refine h.of_sublist (abortPush_sublist p uri) (Nat.le_succ _) ?_
  intro entry member run own pushed current
  rw [begin_inFlight, InFlight.current?_begin,
    if_neg (other_of_mem_abortPush member own pushed current)]
  exact current

/-- The new run has no task yet. -/
theorem begin_new (h : p.Tidy) (uri : Uri) (trigger : Trigger τ) :
    ∀ other ∈ (p.begin uri trigger).2.carried, other.generation ≠ p.inFlight.nextGeneration := by
  intro other member
  have fewer : (p.begin uri trigger).2.carried.Sublist p.carried :=
    (abortPush_sublist p uri).filterMap _
  exact Nat.ne_of_lt (Nat.lt_succ_of_le (h.bounded other (fewer.subset member)))

theorem change (h : p.Tidy) (uri : Uri) (version : Int) : (p.change uri version).Tidy := by
  have held : Tidy { p with debouncer := p.debouncer.schedule uri version } :=
    ⟨h.distinct, h.bounded, h.live, h.starts⟩
  exact held.plan_other p.window rfl

theorem push (h : p.Tidy) (uri : Uri) : (p.push uri).Tidy := by
  rw [push_eq]
  refine (h.begin uri .push).plan 0 (fun run own => ?_) (fun run own => ?_)
  · obtain rfl := Option.some.inj own
    exact ⟨h.begin_new uri .push, Nat.le_refl _, fun _ => InFlight.current?_begin_self _ uri⟩
  · injection own with own
    rw [← own]

theorem close (h : p.Tidy) (uri : Uri) : (p.close uri).Tidy := by
  refine h.of_sublist (abortPush_sublist p uri) (Nat.le_refl _) ?_
  intro entry member run own pushed current
  refine (InFlight.current?_drop p.inFlight uri run.uri).trans ?_
  rw [if_neg (other_of_mem_abortPush member own pushed current)]
  exact current

theorem shutdown (h : p.Tidy) : p.shutdown.Tidy := by
  apply h.of_sublist (shutdown_sublist p) (Nat.le_refl _)
  intro entry member run own pushed current
  exact absurd current (mem_shutdown p member own pushed)

theorem finished (h : p.Tidy) {run : Run τ}
    (apart : ∀ other ∈ p.carried, other.generation ≠ run.generation) : (p.finished run).Tidy := by
  refine h.of_sublist (List.Sublist.refl _)
    (Nat.le_of_eq (InFlight.lastGeneration_finish p.inFlight _ _).symm) ?_
  intro entry member other own pushed current
  have waits : other ∈ p.carried := mem_carried.mpr ⟨entry, member, own⟩
  refine (InFlight.current?_finish p.inFlight run.uri other.uri run.generation).trans ?_
  rw [if_neg]
  · exact current
  · rintro ⟨same, now⟩
    rw [same] at current
    exact apart other waits (Option.some.inj (current.symm.trans now))

theorem execute (h : p.Tidy) (outside : Outside ω) (world : ω) {run : Run τ}
    (apart : ∀ other ∈ p.carried, other.generation ≠ run.generation)
    (bounded : run.generation ≤ p.inFlight.lastGeneration)
    (live : run.trigger = .push → p.inFlight.current? run.uri = some run.generation) :
    (p.execute outside world run).pipeline.Tidy := by
  rcases execute_cases outside world p run with ⟨-, executed⟩ |
    ⟨_, document, _, result, delay, _, -, -, -, ⟨-, executed⟩ | ⟨-, executed⟩⟩
  · rw [executed]
    exact h.finished apart
  · rw [executed]
    exact h.finished apart
  · rw [executed]
    refine h.plan delay (fun other own => ?_) (by intro other start; cases start)
    obtain rfl := Option.some.inj own
    exact ⟨apart, bounded, live⟩

/-- A task of a run that no other task carries on is performed. -/
theorem perform (h : p.Tidy) (outside : Outside ω) (world : ω) {task : Task τ}
    (own : ∀ run, task.run? = some run →
      (∀ other ∈ p.carried, other.generation ≠ run.generation) ∧
        run.generation ≤ p.inFlight.lastGeneration ∧
        (run.trigger = .push → p.inFlight.current? run.uri = some run.generation)) :
    (p.perform outside world task).pipeline.Tidy := by
  cases task with
  | wake uri generation =>
      have woken : Tidy { p with debouncer := p.debouncer.wake uri generation } :=
        ⟨h.distinct, h.bounded, h.live, h.starts⟩
      simp only [Pipeline.perform_wake, Pipeline.wake]
      split
      · exact woken.push uri
      · exact woken
  | ask uri ticket =>
      rw [perform_ask]
      exact (h.begin uri (.pull ticket)).execute outside world (h.begin_new uri _)
        (Nat.le_refl _) (by intro pushed; cases pushed)
  | start run =>
      obtain ⟨apart, bounded, live⟩ := own run rfl
      exact h.execute outside world apart bounded live
  | finish run document result =>
      rw [perform_finish]
      exact h.finished (own run rfl).1

end Tidy

end Pipeline

/-- The aborts of a prompt move come in time: no task is performed that was taken off the agenda. -/
def Move.IsPrompt : Move τ ω → Prop
  | .late _ => False
  | _ => True

instance : (move : Move τ ω) → Decidable move.IsPrompt
  | .late _ => inferInstanceAs (Decidable False)
  | .change .. | .close _ | .push _ | .pull .. | .shutdown | .wait _ | .alter _ | .perform _ =>
      inferInstanceAs (Decidable True)

theorem Move.IsTimely.isPrompt {s : Scene τ ω} {move : Move τ ω} (timely : move.IsTimely s) :
    move.IsPrompt := by
  cases move with
  | late place => exact timely
  | _ => trivial

/-- What every prompt move keeps holds at the end of a prompt story if it holds at its start. -/
theorem Scene.prompt_keeps (outside : Outside ω) (Keeps : List (Happening τ) → Scene τ ω → Prop)
    (step : ∀ history s (move : Move τ ω), move.IsPrompt → Keeps history s →
      Keeps (history ++ (s.move outside move).1) (s.move outside move).2)
    (history : List (Happening τ)) {s : Scene τ ω} (h : Keeps history s) {moves : List (Move τ ω)}
    (prompt : ∀ move ∈ moves, move.IsPrompt) :
    Keeps (history ++ (s.play outside moves).1) (s.play outside moves).2 := by
  induction moves generalizing history s with
  | nil => simpa using h
  | cons move moves ih =>
      rw [List.forall_mem_cons] at prompt
      have kept := ih _ (step history s move prompt.1 h) prompt.2
      rw [List.append_assoc] at kept
      exact kept

/-! ## Taking a task off the agenda -/

namespace Scene

variable {s : Scene τ ω} {place : Nat} {entry : Planned (Task τ)}

theorem perm_without (found : s.pipeline.agenda[place]? = some entry) :
    s.pipeline.agenda.Perm (entry :: (s.without place).agenda) := by
  obtain ⟨inside, rfl⟩ := List.getElem?_eq_some_iff.mp found
  exact (List.getElem_cons_eraseIdx_perm inside).symm

theorem without_tidy (h : s.pipeline.Tidy) (place : Nat) : (s.without place).Tidy :=
  h.of_sublist (List.eraseIdx_sublist _ place) (Nat.le_refl _)
    fun _ _ _ _ _ current => current

/-- What the task of a run knows when it is performed: no other task carries the run on. -/
theorem apart_without (h : s.pipeline.Tidy) (found : s.pipeline.agenda[place]? = some entry)
    {run : Run τ} (own : entry.action.run? = some run) :
    (∀ other ∈ (s.without place).carried, other.generation ≠ run.generation) ∧
      run ∈ s.pipeline.carried := by
  have perm : s.pipeline.carried.Perm (run :: (s.without place).carried) := by
    refine ((perm_without found).filterMap _).trans (List.Perm.of_eq ?_)
    exact List.filterMap_cons_some own
  have nodup := (perm.map Run.generation).nodup_iff.mp h.distinct
  refine ⟨?_, perm.symm.subset List.mem_cons_self⟩
  intro other member same
  exact (List.nodup_cons.mp nodup).1 (List.mem_map.mpr ⟨other, member, same⟩)

/-- No other entry of the agenda carries the run on. -/
theorem only_entry (h : s.pipeline.Tidy) (found : s.pipeline.agenda[place]? = some entry)
    {run : Run τ} (own : entry.action.run? = some run) {other : Planned (Task τ)}
    (member : other ∈ s.pipeline.agenda) (same : other.action.run? = some run) : other = entry := by
  rcases List.mem_cons.mp ((perm_without found).subset member) with equal | waits
  · exact equal
  · exact absurd rfl ((apart_without h found own).1 run
      (Pipeline.mem_carried.mpr ⟨other, waits, same⟩))

/-- Entries that do not carry on the run of the performed task stay as they are. -/
theorem mem_without (found : s.pipeline.agenda[place]? = some entry) {run : Run τ}
    (own : entry.action.run? ≠ some run) {other : Planned (Task τ)}
    (carries : other.action.run? = some run) :
    other ∈ (s.without place).agenda ↔ other ∈ s.pipeline.agenda := by
  rw [(perm_without found).mem_iff, List.mem_cons]
  refine (or_iff_right ?_).symm
  rintro rfl
  exact own carries

/-- Every move but a late one keeps the agenda tidy. -/
theorem tidy_move (outside : Outside ω) {move : Move τ ω} (h : s.pipeline.Tidy)
    (prompt : move.IsPrompt) : (s.move outside move).2.pipeline.Tidy := by
  cases move with
  | change uri version => exact h.change uri version
  | close uri => exact h.close uri
  | push uri => exact h.push uri
  | pull uri ticket => exact h.plan_other 0 rfl
  | shutdown => exact h.shutdown
  | wait millis => exact ⟨h.distinct, h.bounded, h.live, h.starts⟩
  | alter world => exact h
  | perform place =>
      rcases move_perform outside s place with nothing | ⟨entry, found, performed⟩
      · rw [nothing]
        exact h
      · rw [performed]
        apply (without_tidy h place).perform outside s.world
        intro run own
        have apart := apart_without h found own
        have member := List.mem_of_getElem? found
        exact ⟨apart.1, h.bounded run apart.2, h.live run apart.2⟩
  | late place => exact prompt.elim

end Scene

end AsmDiagnostics
