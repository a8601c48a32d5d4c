import AsmDiagnostics.Proofs.Debouncer
import AsmDiagnostics.Proofs.Pipeline.Settling

/-!
# A document rests

After a change nothing else is called for a document.  In a timely story the change is held back
until its window is over; at that very time a push begins, and it stands for the document from then
on.
-/

namespace AsmDiagnostics

variable {τ ω : Type}

/-- The document whose timer or whose question a task is. -/
def Task.calls? : Task τ → Option Uri
  | .wake uri _ => some uri
  | .ask uri _ => some uri
  | _ => none

/-- A call for a document, or the end of the session. -/
def Move.Concerns (uri : Uri) : Move τ ω → Prop
  | .change other _ => other = uri
  | .close other => other = uri
  | .push other => other = uri
  | .pull other _ => other = uri
  | .shutdown => True
  | _ => False

theorem Task.run?_of_calls? {task : Task τ} {uri : Uri} (h : task.calls? = some uri) :
    task.run? = none := by
  cases task with
  | wake other generation => rfl
  | ask other ticket => rfl
  | _ => simp [calls?] at h

namespace Pipeline

/-- The timers and questions of a document, in the order of the agenda. -/
def callsFor (uri : Uri) (p : Pipeline τ) : Agenda (Task τ) :=
  p.agenda.filter fun entry => decide (entry.action.calls? = some uri)

theorem mem_callsFor {uri : Uri} {p : Pipeline τ} {entry : Planned (Task τ)} :
    entry ∈ p.callsFor uri ↔ entry ∈ p.agenda ∧ entry.action.calls? = some uri := by
  unfold callsFor
  rw [List.mem_filter, decide_eq_true_iff]

/-- No question for a document waits behind its timer of a generation. -/
def AsksFirst (uri : Uri) (generation : Nat) (p : Pipeline τ) : Prop :=
  (p.callsFor uri).Pairwise fun first second =>
    first.action = .wake uri generation → ∀ ticket, second.action ≠ .ask uri ticket

/-- The timers and questions of a document, and what is held back for it, are the same. -/
def SameCalls (uri : Uri) (p rest : Pipeline τ) : Prop :=
  rest.callsFor uri = p.callsFor uri ∧ rest.debouncer.find? uri = p.debouncer.find? uri

namespace SameCalls

variable {uri : Uri} {p middle rest : Pipeline τ}

theorem mem (h : SameCalls uri p rest) {entry : Planned (Task τ)}
    (call : entry.action.calls? = some uri) : entry ∈ rest.agenda ↔ entry ∈ p.agenda := by
  have same : entry ∈ rest.callsFor uri ↔ entry ∈ p.callsFor uri := by rw [h.1]
  rw [mem_callsFor, mem_callsFor] at same
  simpa [call] using same

theorem trans (first : SameCalls uri p middle) (second : SameCalls uri middle rest) :
    SameCalls uri p rest :=
  ⟨second.1.trans first.1, second.2.trans first.2⟩

theorem of_agenda (agenda : rest.agenda = p.agenda) (debouncer : rest.debouncer = p.debouncer) :
    SameCalls uri p rest := by
  refine ⟨?_, by rw [debouncer]⟩
  unfold callsFor
  rw [agenda]

theorem abortPush (uri other : Uri) (p : Pipeline τ) : SameCalls uri p (p.abortPush other) := by
  refine ⟨?_, by rw [abortPush_debouncer]⟩
  unfold callsFor Pipeline.abortPush
  split
  · rename_i generation current
    rw [List.filter_filter]
    refine List.filter_congr fun entry _ => Bool.and_eq_left_iff_imp.mpr fun call => ?_
    have own := Task.run?_of_calls? (of_decide_eq_true call)
    have kept := (Task.isPushOf_iff entry.action other generation).not
    simpa [own] using kept
  · rfl

theorem plan (p : Pipeline τ) (delay : Nat) {task : Task τ} (other : task.calls? ≠ some uri) :
    SameCalls uri p (p.plan delay task) :=
  ⟨Agenda.filter_add _ (decide_eq_false other) p.agenda, rfl⟩

theorem begin (uri other : Uri) (trigger : Trigger τ) (p : Pipeline τ) :
    SameCalls uri p (p.begin other trigger).2 := abortPush uri other p

theorem push (uri other : Uri) (p : Pipeline τ) : SameCalls uri p (p.push other) :=
  (begin uri other .push p).trans (plan _ 0 (by intro call; cases call))

theorem execute (uri : Uri) (outside : Outside ω) (world : ω) (p : Pipeline τ) (run : Run τ) :
    SameCalls uri p (p.execute outside world run).pipeline := by
  rcases execute_cases outside world p run with ⟨-, executed⟩ |
    ⟨_, document, _, result, delay, _, -, -, -, ⟨-, executed⟩ | ⟨-, executed⟩⟩
  · rw [executed]
    exact of_agenda rfl rfl
  · rw [executed]
    exact of_agenda rfl rfl
  · rw [executed]
    exact plan p delay (by intro call; cases call)

/-- Only a timer of the document itself changes what is held back for it. -/
theorem perform (outside : Outside ω) (world : ω) (p : Pipeline τ) {task : Task τ}
    (other : ∀ generation, task ≠ .wake uri generation) :
    SameCalls uri p (p.perform outside world task).pipeline := by
  cases task with
  | wake own generation =>
      have different : uri ≠ own := fun same => other generation (same ▸ rfl)
      have woken : SameCalls uri p { p with debouncer := p.debouncer.wake own generation } :=
        ⟨rfl, Debouncer.find?_wake_other _ different generation⟩
      simp only [Pipeline.perform_wake, Pipeline.wake]
      split
      · exact woken.trans (push uri own _)
      · exact woken
  | ask own ticket =>
      rw [perform_ask_pipeline]
      exact (begin uri own (.pull ticket) p).trans (execute uri outside world _ _)
  | start run => exact execute uri outside world p run
  | finish run document result =>
      rw [perform_finish]
      exact of_agenda rfl rfl

end SameCalls

/-- Timers are numbered like the events that they deliver, and questions wait for nothing. -/
structure Prompt (p : Pipeline τ) : Prop where
  timers : ∀ entry ∈ p.agenda, ∀ uri generation, entry.action = .wake uri generation →
    generation ≤ p.debouncer.lastGeneration
  questions : ∀ entry ∈ p.agenda, ∀ uri ticket, entry.action = .ask uri ticket → entry.due ≤ p.now

namespace Prompt

variable {p rest : Pipeline τ}

theorem start (workspace? : Option Workspace) (window : Nat) :
    (Pipeline.start workspace? window : Pipeline τ).Prompt :=
  ⟨(fun _ member => nomatch member), (fun _ member => nomatch member)⟩

/-- Only tasks of runs come to the agenda. -/
theorem of_runs (h : p.Prompt) (last : p.debouncer.lastGeneration ≤ rest.debouncer.lastGeneration)
    (now : p.now ≤ rest.now)
    (runs : ∀ entry ∈ rest.agenda, entry ∈ p.agenda ∨ ∃ run, entry.action.run? = some run) :
    rest.Prompt := by
  constructor
  · intro entry member uri generation task
    rcases runs entry member with old | ⟨run, own⟩
    · exact Nat.le_trans (h.timers entry old uri generation task) last
    · rw [task] at own
      cases own
  · intro entry member uri ticket task
    rcases runs entry member with old | ⟨run, own⟩
    · exact Nat.le_trans (h.questions entry old uri ticket task) now
    · rw [task] at own
      cases own

theorem change (h : p.Prompt) (uri : Uri) (version : Int) : (p.change uri version).Prompt := by
  constructor
  · intro entry member other generation task
    rcases (mem_plan _ p.window _ entry).mp member with rfl | old
    · injection task with _ same
      exact Nat.le_of_eq same.symm
    · exact Nat.le_succ_of_le (h.timers entry old other generation task)
  · intro entry member other ticket task
    rcases (mem_plan _ p.window _ entry).mp member with rfl | old
    · cases task
    · exact h.questions entry old other ticket task

theorem pull (h : p.Prompt) (uri : Uri) (ticket : τ) : (p.pull uri ticket).Prompt := by
  constructor
  · intro entry member other generation task
    rcases (mem_plan p 0 _ entry).mp member with rfl | old
    · cases task
    · exact h.timers entry old other generation task
  · intro entry member other number task
    rcases (mem_plan p 0 _ entry).mp member with rfl | old
    · exact Nat.le_of_eq (Agenda.after_zero p.now)
    · exact h.questions entry old other number task

end Prompt

theorem wake_idle {p : Pipeline τ} {uri : Uri} {generation : Nat}
    (h : ¬ (p.debouncer.due? uri generation).isSome) : p.wake uri generation = p := by
  unfold wake
  rw [if_neg h, Debouncer.wake_of_not_due p.debouncer uri h]

theorem perform_lastGeneration (outside : Outside ω) (world : ω) (p : Pipeline τ) (task : Task τ) :
    (p.perform outside world task).pipeline.debouncer.lastGeneration =
      p.debouncer.lastGeneration := by
  cases task with
  | wake uri generation =>
      simp only [perform_wake, wake]
      split
      · exact (congrArg Debouncer.lastGeneration (begin_debouncer _ uri .push)).trans
          (Debouncer.lastGeneration_wake p.debouncer uri generation)
      · exact Debouncer.lastGeneration_wake p.debouncer uri generation
  | ask uri ticket =>
      rw [perform_ask_pipeline]
      exact congrArg Debouncer.lastGeneration
        ((execute_debouncer outside world _ _).trans (begin_debouncer p uri (.pull ticket)))
  | start run => exact congrArg Debouncer.lastGeneration (execute_debouncer outside world p run)
  | finish run document result =>
      rw [perform_finish]
      rfl

/-- Only a call for a document disturbs it. -/
theorem perform_undisturbed (outside : Outside ω) (world : ω) (p : Pipeline τ) {task : Task τ}
    {uri : Uri} (other : task.calls? ≠ some uri) :
    ∀ happening ∈ (p.perform outside world task).told, ¬ happening.Disturbs uri := by
  intro happening member
  have quietly : ∀ (rest : Pipeline τ) (run : Run τ),
      happening ∈ (rest.execute outside world run).told → ¬ happening.Disturbs uri :=
    fun rest run told =>
      Happening.not_disturbs_of_quiet (execute_quiet outside world rest run happening told) uri
  cases task with
  | wake own generation =>
      simp only [perform_wake] at member
      split at member
      · rw [List.mem_singleton.mp member]
        exact fun same => other (congrArg some same)
      · cases member
  | ask own ticket =>
      rw [perform_ask] at member
      rcases List.mem_cons.mp member with rfl | told
      · exact fun same => other (congrArg some same)
      · exact quietly _ _ told
  | start run => exact quietly p run member
  | finish run document result =>
      rw [perform_finish] at member
      exact Happening.not_disturbs_of_quiet (seen_quiet _ happening member) uri

end Pipeline

namespace Scene

variable (outside : Outside ω) {s : Scene τ ω} {place : Nat} {entry : Planned (Task τ)}

/-- Every move leaves timers numbered, and questions waiting for nothing. -/
theorem prompt_move (h : s.pipeline.Prompt) (move : Move τ ω) :
    (s.move outside move).2.pipeline.Prompt := by
  have performed : ∀ (p : Pipeline τ) (task : Task τ), p.Prompt →
      (p.perform outside s.world task).pipeline.Prompt := by
    intro p task prompt
    refine prompt.of_runs (Nat.le_of_eq (Pipeline.perform_lastGeneration _ _ p task).symm)
      (Nat.le_of_eq (Pipeline.perform_now _ _ p task).symm) fun entry member => ?_
    rcases Pipeline.mem_perform outside s.world p member with old | ⟨run, own, -⟩
    · exact .inl old
    · exact .inr ⟨run, own⟩
  cases move with
  | change uri version => exact h.change uri version
  | close uri =>
      exact h.of_runs (Nat.le_refl _) (Nat.le_of_eq (Pipeline.abortPush_now _ uri).symm)
        fun entry member => .inl ((Pipeline.abortPush_sublist _ uri).subset member)
  | push uri =>
      refine h.of_runs (Nat.le_of_eq ?_) (Nat.le_of_eq ?_) fun entry member => ?_
      · exact (congrArg Debouncer.lastGeneration (Pipeline.begin_debouncer _ uri .push)).symm
      · exact (Pipeline.begin_now _ uri .push).symm
      · rcases Pipeline.mem_push _ member with old | own
        · exact .inl old
        · exact .inr ⟨_, own⟩
  | pull uri ticket => exact h.pull uri ticket
  | shutdown =>
      exact h.of_runs (Nat.le_refl _) (Nat.le_of_eq (Pipeline.shutdown_now _).symm)
        fun entry member => .inl ((Pipeline.shutdown_sublist _).subset member)
  | wait millis =>
      exact h.of_runs (Nat.le_refl _) (Nat.le_add_right _ _) fun entry member => .inl member
  | alter world => exact h
  | perform place =>
      rcases move_perform outside s place with nothing | ⟨entry, -, moved⟩
      · rw [nothing]
        exact h
      · rw [moved]
        have taken : (s.without place).Prompt :=
          h.of_runs (Nat.le_refl _) (Nat.le_refl _)
            fun entry member => .inl ((List.eraseIdx_sublist _ _).subset member)
        exact performed _ _ taken
  | late place =>
      rcases move_late outside s place with nothing | ⟨task, -, moved⟩
      · rw [nothing]
        exact h
      · rw [moved]
        exact performed _ _ h

end Scene

/-! ## From a change to its push -/

/-- A change is held back: the timer of its generation waits.  Every question waits before that
timer, and is due before it unless the tasks are performed in order. -/
structure Awaits (inOrder : Prop) (uri : Uri) (due generation : Nat) (p : Pipeline τ) : Prop where
  waits : ⟨due, .wake uri generation⟩ ∈ p.agenda
  alone : ∀ entry ∈ p.agenda, entry.action = .wake uri generation → entry.due = due
  questions : p.AsksFirst uri generation
  early : inOrder ∨ ∀ entry ∈ p.agenda, ∀ ticket, entry.action = .ask uri ticket → entry.due < due
  pending : ∃ event, p.debouncer.find? uri = some event ∧ event.generation = generation

/-- The push of a change began at a time and stands for the document, and nothing else will begin
for it. -/
structure Pushed (uri : Uri) (time : Nat) (history : List (Happening τ)) (p : Pipeline τ) :
    Prop where
  stands : ∃ run, standing uri history = some run ∧ run.trigger = .push ∧
    .begun time run ∈ history
  questions : ∀ entry ∈ p.agenda, ∀ ticket, entry.action ≠ .ask uri ticket
  pending : p.debouncer.find? uri = none

section Change

variable {inOrder : Prop} {uri : Uri} {due generation time : Nat} {p rest : Pipeline τ}
  {history others : List (Happening τ)}

theorem Awaits.of_sameCalls (h : Awaits inOrder uri due generation p)
    (same : p.SameCalls uri rest) : Awaits inOrder uri due generation rest := by
  refine ⟨(same.mem rfl).mpr h.waits, ?_, ?_, h.early.imp_right ?_, same.2.symm ▸ h.pending⟩
  · intro entry member task
    exact h.alone entry ((same.mem (by rw [task]; rfl)).mp member) task
  · unfold Pipeline.AsksFirst
    rw [same.1]
    exact h.questions
  · intro before entry member ticket task
    exact before entry ((same.mem (by rw [task]; rfl)).mp member) ticket task

theorem Pushed.of_sameCalls (h : Pushed uri time history p) (same : p.SameCalls uri rest)
    (undisturbed : ∀ happening ∈ others, ¬ happening.Disturbs uri) :
    Pushed uri time (history ++ others) rest := by
  obtain ⟨run, stands, pushed, begun⟩ := h.stands
  refine ⟨⟨run, ?_, pushed, List.mem_append_left _ begun⟩, ?_, same.2.trans h.pending⟩
  · rw [standing_append_of_undisturbed undisturbed]
    exact stands
  · intro entry member ticket task
    exact h.questions entry ((same.mem (by rw [task]; rfl)).mp member) ticket task

/-- The timer of a change waits behind every question: questions are due at once. -/
theorem asksFirst_change (prompt : p.Prompt) (onTime : p.OnTime) (version : Int) :
    (p.change uri version).AsksFirst uri p.debouncer.nextGeneration := by
  refine List.Pairwise.filter _ (Agenda.pairwise_add onTime.ordered ?_ ?_ ?_)
  · refine List.pairwise_of_forall_mem_list fun first member second _ task => ?_
    have bounded := prompt.timers first member uri _ task
    unfold Debouncer.nextGeneration at bounded
    omega
  · intro entry _ _ _ ticket task
    cases task
  · intro entry member late _ ticket task
    have asked := prompt.questions entry member uri ticket task
    exact absurd (Nat.le_trans asked (Agenda.le_after p.now p.window)) (Nat.not_le_of_lt late)

/-- After a change that no waiting question of the document can outlast, the change is held back. -/
theorem awaits_change (prompt : p.Prompt) (onTime : p.OnTime) (version : Int)
    (last : inOrder ∨ 0 < p.window ∨
      ∀ entry ∈ p.agenda, ∀ ticket, entry.action ≠ .ask uri ticket) :
    Awaits inOrder uri (Agenda.after p.now p.window) p.debouncer.nextGeneration
      (p.change uri version) := by
  have entries := fun entry => Pipeline.mem_plan { p with debouncer := p.debouncer.schedule uri version }
    p.window (.wake uri p.debouncer.nextGeneration) entry
  refine ⟨(entries _).mpr (.inl rfl), ?_, asksFirst_change prompt onTime version,
    last.imp_right ?_, ?_⟩
  · intro entry member task
    rcases (entries entry).mp member with rfl | old
    · rfl
    · have bounded := prompt.timers entry old uri _ task
      unfold Debouncer.nextGeneration at bounded
      omega
  · intro last entry member ticket task
    rcases (entries entry).mp member with rfl | old
    · cases task
    · rcases last with window | silent
      · have asked := prompt.questions entry old uri ticket task
        unfold Agenda.after Agenda.longestWait
        omega
      · exact absurd task (silent entry old ticket)
  · refine ⟨⟨uri, p.debouncer.nextGeneration, version⟩, ?_, rfl⟩
    exact (Debouncer.find?_schedule p.debouncer uri uri version).trans (if_pos rfl)

end Change

section Moves

variable (outside : Outside ω) {inOrder : Prop} {uri : Uri} {due generation time place : Nat}
  {history : List (Happening τ)} {s : Scene τ ω} {entry : Planned (Task τ)}

theorem Scene.callsFor_without (s : Scene τ ω) (place : Nat) (uri : Uri) :
    ((s.without place).callsFor uri).Sublist (s.pipeline.callsFor uri) :=
  (List.eraseIdx_sublist s.pipeline.agenda place).filter _

theorem Scene.callsFor_first (found : s.pipeline.agenda[0]? = some entry)
    (call : entry.action.calls? = some uri) :
    s.pipeline.callsFor uri = entry :: (s.without 0).callsFor uri := by
  unfold Pipeline.callsFor Scene.without
  cases waiting : s.pipeline.agenda with
  | nil =>
      rw [waiting] at found
      cases found
  | cons first rest =>
      rw [waiting] at found
      obtain rfl : first = entry := Option.some.inj found
      exact List.filter_cons_of_pos (decide_eq_true call)

/-- A task other than the timer of the change is performed. -/
theorem Awaits.perform (h : Awaits inOrder uri due generation s.pipeline)
    (found : s.pipeline.agenda[place]? = some entry)
    (other : entry.action ≠ .wake uri generation) :
    Awaits inOrder uri due generation
      ((s.without place).perform outside s.world entry.action).pipeline := by
  have fewer : (s.without place).agenda.Sublist s.pipeline.agenda := List.eraseIdx_sublist _ place
  have taken : Awaits inOrder uri due generation (s.without place) := by
    refine ⟨?_, ?_, h.questions.sublist (s.callsFor_without place uri), h.early.imp_right ?_,
      h.pending⟩
    · rcases List.mem_cons.mp ((Scene.perm_without found).subset h.waits) with same | waits
      · rw [← same] at other
        exact absurd rfl other
      · exact waits
    · exact fun entry member => h.alone entry (fewer.subset member)
    · exact fun early entry member => early entry (fewer.subset member)
  by_cases own : ∃ number, entry.action = .wake uri number
  · -- a timer of an older change finds that its event was replaced
    obtain ⟨number, task⟩ := own
    have replaced : ¬ ((s.without place).debouncer.due? uri number).isSome := by
      rw [Debouncer.due?_isSome_iff]
      rintro ⟨event, pending, rfl⟩
      obtain ⟨held, same, numbered⟩ := taken.pending
      obtain rfl := Option.some.inj (same.symm.trans pending)
      exact other (numbered ▸ task)
    rw [task]
    simp only [Pipeline.perform_wake, Pipeline.wake_idle replaced]
    exact taken
  · exact taken.of_sameCalls (Pipeline.SameCalls.perform outside s.world _
      fun number task => own ⟨number, task⟩)

/-- When the timer of the change is performed, no question is left for the document. -/
theorem Awaits.silent (h : Awaits inOrder uri due generation s.pipeline)
    (onTime : s.pipeline.OnTime) (now : s.pipeline.now = due) (first : inOrder → place = 0)
    (found : s.pipeline.agenda[place]? = some entry)
    (task : entry.action = .wake uri generation) :
    ∀ other ∈ (s.without place).agenda, ∀ ticket, other.action ≠ .ask uri ticket := by
  intro other waits ticket asks
  rcases h.early with ordered | early
  · obtain rfl := first ordered
    have questions := h.questions
    unfold Pipeline.AsksFirst at questions
    rw [Scene.callsFor_first found (by rw [task]; rfl), List.pairwise_cons] at questions
    exact questions.1 other (Pipeline.mem_callsFor.mpr ⟨waits, by rw [asks]; rfl⟩) task ticket asks
  · have before := (List.eraseIdx_sublist _ place).subset waits
    have late := onTime.ahead other before
    have soon := early other before ticket asks
    omega

/-- The timer of the change is performed at its time: the push of the change begins. -/
theorem Awaits.fire (h : Awaits inOrder uri due generation s.pipeline) (onTime : s.pipeline.OnTime)
    (first : inOrder → place = 0) (found : s.pipeline.agenda[place]? = some entry)
    (task : entry.action = .wake uri generation) (reached : entry.due ≤ s.pipeline.now) :
    Pushed uri due (history ++ ((s.without place).perform outside s.world entry.action).told)
      ((s.without place).perform outside s.world entry.action).pipeline := by
  have member := List.mem_of_getElem? found
  have now : s.pipeline.now = due :=
    Nat.le_antisymm (h.alone entry member task ▸ onTime.ahead entry member)
      (h.alone entry member task ▸ reached)
  have silent := h.silent onTime now first found task
  have fires : ((s.without place).debouncer.due? uri generation).isSome :=
    (Debouncer.due?_isSome_iff _ uri generation).mpr h.pending
  have same := Pipeline.SameCalls.push uri uri
    { s.without place with debouncer := (s.without place).debouncer.wake uri generation }
  rw [task]
  simp only [Pipeline.perform_wake, Pipeline.wake]
  rw [if_pos fires, if_pos fires]
  refine ⟨⟨_, (standing_concat_begun uri history _ _).trans (if_pos rfl), rfl, ?_⟩, ?_, ?_⟩
  · rw [← now]
    exact List.mem_append_right _ (List.mem_singleton_self _)
  · intro other waits ticket asks
    exact silent other ((same.mem (by rw [asks]; rfl)).mp waits) ticket asks
  · exact same.2.trans (Debouncer.find?_wake_self _ uri fires)

theorem Pushed.perform (h : Pushed uri time history s.pipeline)
    (found : s.pipeline.agenda[place]? = some entry) :
    Pushed uri time (history ++ ((s.without place).perform outside s.world entry.action).told)
      ((s.without place).perform outside s.world entry.action).pipeline := by
  have taken : Pushed uri time history (s.without place) :=
    ⟨h.stands, (fun other member => h.questions other
      ((List.eraseIdx_sublist _ place).subset member)), h.pending⟩
  have nothing : ∀ number, ¬ ((s.without place).debouncer.due? uri number).isSome := by
    intro number
    rw [Debouncer.due?_isSome_iff, taken.pending]
    simp
  by_cases own : ∃ number, entry.action = .wake uri number
  · obtain ⟨number, task⟩ := own
    rw [task]
    simp only [Pipeline.perform_wake, Pipeline.wake_idle (nothing number)]
    rw [if_neg (nothing number), List.append_nil]
    exact taken
  · refine taken.of_sameCalls (Pipeline.SameCalls.perform outside s.world _
      fun number task => own ⟨number, task⟩) (Pipeline.perform_undisturbed outside s.world _ ?_)
    cases task : entry.action with
    | wake other number =>
        intro same
        exact own ⟨number, by rw [task, Option.some.inj same]⟩
    | ask other ticket =>
        intro same
        obtain rfl := Option.some.inj same
        exact h.questions entry (List.mem_of_getElem? found) ticket task
    | start run =>
        intro same
        cases same
    | finish run document result =>
        intro same
        cases same

/-- A move that neither concerns a document nor performs a task leaves the document alone. -/
theorem sameCalls_move {move : Move τ ω} (other : ¬ move.Concerns uri)
    (call : ∀ place, move ≠ .perform place ∧ move ≠ .late place) :
    s.pipeline.SameCalls uri (s.move outside move).2.pipeline ∧
      ∀ happening ∈ (s.move outside move).1, ¬ happening.Disturbs uri := by
  cases move with
  | change own version =>
      refine ⟨?_, fun _ member => nomatch member⟩
      have held : s.pipeline.SameCalls uri
          { s.pipeline with debouncer := s.pipeline.debouncer.schedule own version } := by
        refine ⟨rfl, ?_⟩
        exact (Debouncer.find?_schedule _ own uri version).trans (if_neg (Ne.symm other))
      exact held.trans (Pipeline.SameCalls.plan _ _ fun same => other (Option.some.inj same))
  | close own =>
      refine ⟨?_, fun happening member => List.mem_singleton.mp member ▸ other⟩
      have aborted := Pipeline.SameCalls.abortPush uri own s.pipeline
      refine ⟨aborted.1, ?_⟩
      exact (Debouncer.find?_cancel _ own uri).trans (if_neg (Ne.symm other))
  | push own =>
      exact ⟨Pipeline.SameCalls.push uri own s.pipeline,
        fun happening member => List.mem_singleton.mp member ▸ other⟩
  | pull own ticket =>
      exact ⟨Pipeline.SameCalls.plan _ _ fun same => other (Option.some.inj same),
        fun _ member => nomatch member⟩
  | shutdown => exact absurd trivial other
  | wait millis => exact ⟨.of_agenda rfl rfl, fun _ member => nomatch member⟩
  | alter world => exact ⟨.of_agenda rfl rfl, fun _ member => nomatch member⟩
  | perform place => exact absurd rfl (call place).1
  | late place => exact absurd rfl (call place).2

/-- A change is held back until its push begins, and that push stands as long as nothing else is
called for the document. -/
theorem awaits_or_pushed_move {move : Move τ ω} (other : ¬ move.Concerns uri)
    (timely : move.IsTimely s) (first : inOrder → move.IsInOrder) (onTime : s.pipeline.OnTime)
    (h : Awaits inOrder uri due generation s.pipeline ∨ Pushed uri due history s.pipeline) :
    Awaits inOrder uri due generation (s.move outside move).2.pipeline ∨
      Pushed uri due (history ++ (s.move outside move).1) (s.move outside move).2.pipeline := by
  by_cases performs : ∃ place, move = .perform place
  · obtain ⟨place, rfl⟩ := performs
    rcases Scene.move_perform outside s place with nothing | ⟨entry, found, performed⟩
    · rw [nothing, List.append_nil]
      exact h
    · rw [performed]
      rcases h with awaits | pushed
      · by_cases own : entry.action = .wake uri generation
        · exact .inr (awaits.fire outside onTime first found own (timely entry found))
        · exact .inl (awaits.perform outside found own)
      · exact .inr (pushed.perform outside found)
  · have call : ∀ place, move ≠ .perform place ∧ move ≠ .late place := by
      intro place
      refine ⟨fun same => performs ⟨place, same⟩, ?_⟩
      rintro rfl
      exact timely.elim
    obtain ⟨same, undisturbed⟩ := sameCalls_move outside other call
    rcases h with awaits | pushed
    · exact .inl (awaits.of_sameCalls same)
    · exact .inr (pushed.of_sameCalls same undisturbed)

end Moves

end AsmDiagnostics
