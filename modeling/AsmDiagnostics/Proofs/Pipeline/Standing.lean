import Mathlib.Data.List.Induction
import AsmDiagnostics.Proofs.Pipeline.Story

/-!
# The run that stands for a document

The run of the last trigger of a document stands for it until the document is closed or the session
ends.  In every story, whether aborts come in time or late, generations grow from trigger to
trigger, and the generation that is current for a document is the one of the run that stands for it.
-/

namespace AsmDiagnostics

variable {τ ω : Type}

namespace Happening

def standsAfter (uri : Uri) (before : Option (Run τ)) : Happening τ → Option (Run τ)
  | .begun _ run => if run.uri = uri then some run else before
  | .closed other => if other = uri then none else before
  | .stopped => none
  | .started .. => before
  | .seen _ => before

/-- Neither a trigger nor a close, nor the end of the session. -/
def IsQuiet : Happening τ → Prop
  | .started .. => True
  | .seen _ => True
  | _ => False

theorem standsAfter_of_undisturbed {uri : Uri} {happening : Happening τ}
    (h : ¬ happening.Disturbs uri) (before : Option (Run τ)) :
    happening.standsAfter uri before = before := by
  cases happening with
  | begun time run => exact if_neg h
  | closed other => exact if_neg h
  | stopped => exact absurd trivial h
  | started run result => rfl
  | seen event => rfl

theorem not_disturbs_of_quiet {happening : Happening τ} (h : happening.IsQuiet) (uri : Uri) :
    ¬ happening.Disturbs uri := by
  cases happening with
  | started run result => exact id
  | seen event => exact id
  | _ => exact h.elim

theorem generation?_of_quiet {happening : Happening τ} (h : happening.IsQuiet) :
    happening.generation? = none := by
  cases happening with
  | started run result => rfl
  | seen event => rfl
  | _ => exact h.elim

end Happening

/-- The run that stands for a document at the end of a history. -/
def standing (uri : Uri) (history : List (Happening τ)) : Option (Run τ) :=
  history.foldl (Happening.standsAfter uri) none

def generations (history : List (Happening τ)) : List Nat :=
  history.filterMap Happening.generation?

/-! ## Histories -/

theorem standing_concat (uri : Uri) (history : List (Happening τ)) (happening : Happening τ) :
    standing uri (history ++ [happening]) = happening.standsAfter uri (standing uri history) := by
  simp [standing, List.foldl_append]

theorem standing_append_of_undisturbed {uri : Uri} {others : List (Happening τ)}
    (h : ∀ happening ∈ others, ¬ happening.Disturbs uri) (history : List (Happening τ)) :
    standing uri (history ++ others) = standing uri history := by
  induction others generalizing history with
  | nil => rw [List.append_nil]
  | cons happening others ih =>
      rw [List.forall_mem_cons] at h
      rw [List.append_cons, ih h.2, standing_concat,
        Happening.standsAfter_of_undisturbed h.1]

theorem standing_append_of_quiet {others : List (Happening τ)}
    (h : ∀ happening ∈ others, happening.IsQuiet) (uri : Uri) (history : List (Happening τ)) :
    standing uri (history ++ others) = standing uri history :=
  standing_append_of_undisturbed
    (fun happening member => Happening.not_disturbs_of_quiet (h happening member) uri) history

/-- The run that stands for a document has begun, and nothing has disturbed the document since. -/
theorem standing_eq_some {uri : Uri} {history : List (Happening τ)} {run : Run τ}
    (h : standing uri history = some run) :
    ∃ front time back, history = front ++ .begun time run :: back ∧ run.uri = uri ∧
      ∀ happening ∈ back, ¬ happening.Disturbs uri := by
  induction history using List.reverseRecOn with
  | nil => simp [standing] at h
  | append_singleton history happening ih =>
      rw [standing_concat] at h
      by_cases disturbed : happening.Disturbs uri
      · cases happening with
        | begun time other =>
            obtain rfl : other = run := by
              simpa [Happening.standsAfter, show other.uri = uri from disturbed] using h
            exact ⟨history, time, [], rfl, disturbed, fun _ member => nomatch member⟩
        | closed other =>
            simp [Happening.standsAfter, show other = uri from disturbed] at h
        | stopped => simp [Happening.standsAfter] at h
        | started other result => exact disturbed.elim
        | seen event => exact disturbed.elim
      · rw [Happening.standsAfter_of_undisturbed disturbed] at h
        obtain ⟨front, time, back, rfl, same, quiet⟩ := ih h
        refine ⟨front, time, back ++ [happening], by simp, same, ?_⟩
        intro other member
        rcases List.mem_append.mp member with earlier | last
        · exact quiet other earlier
        · exact List.mem_singleton.mp last ▸ disturbed

theorem standing_of_begun {front back : List (Happening τ)} {time : Nat} {run : Run τ}
    (h : ∀ happening ∈ back, ¬ happening.Disturbs run.uri) :
    standing run.uri (front ++ .begun time run :: back) = some run := by
  rw [List.append_cons, standing_append_of_undisturbed h, standing_concat]
  exact if_pos rfl

theorem begun_of_standing {uri : Uri} {history : List (Happening τ)} {run : Run τ}
    (h : standing uri history = some run) : run.uri = uri ∧ ∃ time, .begun time run ∈ history := by
  obtain ⟨front, time, back, rfl, same, -⟩ := standing_eq_some h
  exact ⟨same, time, by simp⟩

theorem generations_append (history others : List (Happening τ)) :
    generations (history ++ others) = generations history ++ generations others :=
  List.filterMap_append

theorem generations_of_quiet {others : List (Happening τ)}
    (h : ∀ happening ∈ others, happening.IsQuiet) : generations others = [] := by
  rw [generations, List.filterMap_eq_nil_iff]
  intro happening member
  exact Happening.generation?_of_quiet (h happening member)

theorem generation_mem {history : List (Happening τ)} {time : Nat} {run : Run τ}
    (h : .begun time run ∈ history) : run.generation ∈ generations history :=
  List.mem_filterMap.mpr ⟨_, h, rfl⟩

/-- Generations tell triggers apart when they grow. -/
theorem begun_unique {history : List (Happening τ)}
    (increasing : (generations history).Pairwise (· < ·)) {time later : Nat} {run other : Run τ}
    (first : .begun time run ∈ history) (second : .begun later other ∈ history)
    (same : run.generation = other.generation) : run = other := by
  induction history with
  | nil => nomatch first
  | cons happening rest ih =>
      have tail : (generations rest).Pairwise (· < ·) :=
        increasing.sublist ((List.sublist_cons_self happening rest).filterMap _)
      rcases List.mem_cons.mp first with rfl | firstBehind
      · rcases List.mem_cons.mp second with equal | secondBehind
        · injection equal with _ equal
          exact equal.symm
        · have less := (List.pairwise_cons.mp increasing).1 _ (generation_mem secondBehind)
          omega
      · rcases List.mem_cons.mp second with rfl | secondBehind
        · have less := (List.pairwise_cons.mp increasing).1 _ (generation_mem firstBehind)
          omega
        · exact ih tail firstBehind secondBehind

/-! ## The numbering of runs -/

/-- Generations grow, and the current generation of a document belongs to the run that stands for
it. -/
structure Numbered (history : List (Happening τ)) (f : InFlight) : Prop where
  increasing : (generations history).Pairwise (· < ·)
  bounded : ∀ generation ∈ generations history, generation ≤ f.lastGeneration
  current : ∀ uri generation, f.current? uri = some generation →
    ∃ run, standing uri history = some run ∧ run.generation = generation

namespace Numbered

variable {history : List (Happening τ)} {f : InFlight}

theorem nil : Numbered ([] : List (Happening τ)) InFlight.empty :=
  ⟨List.Pairwise.nil, fun _ member => (nomatch member), fun _ _ h => by
    simp [InFlight.current?, InFlight.empty] at h⟩

theorem begun (h : Numbered history f) (time : Nat) (uri : Uri) (trigger : Trigger τ) :
    Numbered (history ++ [.begun time ⟨uri, f.nextGeneration, trigger⟩]) (f.begin uri) := by
  have last : ∀ generation ∈ generations history, generation < f.nextGeneration :=
    fun generation member => Nat.lt_succ_of_le (h.bounded generation member)
  refine ⟨?_, ?_, ?_⟩
  · rw [generations_append, List.pairwise_append]
    refine ⟨h.increasing, List.pairwise_singleton _ _, ?_⟩
    intro generation member other new
    obtain rfl : other = f.nextGeneration := by simpa [generations, Happening.generation?] using new
    exact last generation member
  · intro generation member
    rw [generations_append, List.mem_append] at member
    rcases member with old | new
    · exact Nat.le_of_lt (last generation old)
    · obtain rfl : generation = f.nextGeneration := by
        simpa [generations, Happening.generation?] using new
      exact Nat.le_refl _
  · intro other generation current
    rw [InFlight.current?_begin] at current
    rw [standing_concat]
    split at current
    · rename_i same
      exact ⟨_, if_pos same.symm, Option.some.inj current⟩
    · rename_i different
      obtain ⟨run, stands, number⟩ := h.current other generation current
      exact ⟨run, (if_neg (Ne.symm different)).trans stands, number⟩

theorem closed (h : Numbered history f) (uri : Uri) :
    Numbered (history ++ [.closed uri]) (f.drop uri) := by
  have same : generations (history ++ [.closed uri]) = generations history := by
    rw [generations_append]
    exact List.append_nil _
  refine ⟨?_, ?_, ?_⟩
  · rw [same]
    exact h.increasing
  · rw [same]
    exact h.bounded
  · intro other generation current
    rw [InFlight.current?_drop] at current
    split at current
    · simp at current
    · rename_i different
      obtain ⟨run, stands, number⟩ := h.current other generation current
      rw [standing_concat]
      exact ⟨run, (if_neg (Ne.symm different)).trans stands, number⟩

theorem stopped (h : Numbered history f) : Numbered (history ++ [.stopped]) f.dropAll := by
  have same : generations (history ++ [.stopped]) = generations history := by
    rw [generations_append]
    exact List.append_nil _
  refine ⟨?_, ?_, ?_⟩
  · rw [same]
    exact h.increasing
  · rw [same]
    exact h.bounded
  · intro uri generation current
    simp [InFlight.current?_dropAll] at current

theorem idle (h : Numbered history f) : Numbered (history ++ []) f := by
  rw [List.append_nil]
  exact h

theorem quiet (h : Numbered history f) {others : List (Happening τ)}
    (silent : ∀ happening ∈ others, happening.IsQuiet) : Numbered (history ++ others) f := by
  refine ⟨?_, ?_, ?_⟩
  · rw [generations_append, generations_of_quiet silent, List.append_nil]
    exact h.increasing
  · rw [generations_append, generations_of_quiet silent, List.append_nil]
    exact h.bounded
  · intro uri generation current
    rw [standing_append_of_quiet silent]
    exact h.current uri generation current

theorem finish (h : Numbered history f) (uri : Uri) (generation : Nat) :
    Numbered history (f.finish uri generation) := by
  refine ⟨h.increasing, ?_, ?_⟩
  · rw [InFlight.lastGeneration_finish]
    exact h.bounded
  · intro other number current
    rw [InFlight.current?_finish] at current
    split at current
    · simp at current
    · exact h.current other number current

/-- A run that is current stands for its document. -/
theorem standing_of_current (h : Numbered history f) {run : Run τ} {time : Nat}
    (begun : .begun time run ∈ history) (current : f.current? run.uri = some run.generation) :
    standing run.uri history = some run := by
  obtain ⟨other, stands, number⟩ := h.current _ _ current
  obtain ⟨-, _, otherBegun⟩ := begun_of_standing stands
  rw [stands, begun_unique h.increasing otherBegun begun number]

end Numbered

/-! ## Moves keep the numbering -/

namespace Pipeline

variable (outside : Outside ω) (world : ω) (p : Pipeline τ)

theorem seen_quiet (events : List (Event τ)) :
    ∀ happening ∈ events.map Happening.seen, happening.IsQuiet := by
  intro happening member
  obtain ⟨event, -, rfl⟩ := List.mem_map.mp member
  trivial

theorem opening_quiet (run : Run τ) (command : Build.Command) (result : Build.Result) :
    ∀ happening ∈ [.seen (p.eventOf run .clear), .started run result,
      .seen (p.eventOf run (.build command))], Happening.IsQuiet happening := by
  simp [Happening.IsQuiet]

theorem execute_quiet (run : Run τ) :
    ∀ happening ∈ (p.execute outside world run).told, happening.IsQuiet := by
  rcases execute_cases outside world p run with ⟨-, executed⟩ |
    ⟨_, _, command, result, _, _, -, -, -, ⟨-, executed⟩ | ⟨-, executed⟩⟩
  · rw [executed]
    exact seen_quiet _
  · rw [executed]
    exact List.forall_mem_append.mpr ⟨opening_quiet p run command result, seen_quiet _⟩
  · rw [executed]
    exact opening_quiet p run command result

theorem execute_inFlight (run : Run τ) :
    (p.execute outside world run).pipeline.inFlight = p.inFlight ∨
      (p.execute outside world run).pipeline.inFlight =
        p.inFlight.finish run.uri run.generation := by
  rcases execute_cases outside world p run with ⟨-, executed⟩ |
    ⟨_, _, _, _, _, _, -, -, -, ⟨-, executed⟩ | ⟨-, executed⟩⟩
  · exact .inr (congrArg (fun progress => progress.pipeline.inFlight) executed)
  · exact .inr (congrArg (fun progress => progress.pipeline.inFlight) executed)
  · exact .inl (congrArg (fun progress => progress.pipeline.inFlight) executed)

end Pipeline

namespace Numbered

variable {history : List (Happening τ)} {p : Pipeline τ} (outside : Outside ω) (world : ω)

theorem execute (h : Numbered history p.inFlight) (run : Run τ) :
    Numbered (history ++ (p.execute outside world run).told)
      (p.execute outside world run).pipeline.inFlight := by
  have told := h.quiet (Pipeline.execute_quiet outside world p run)
  rcases Pipeline.execute_inFlight outside world p run with same | finished
  · rw [same]
    exact told
  · rw [finished]
    exact told.finish run.uri run.generation

theorem perform (h : Numbered history p.inFlight) (task : Task τ) :
    Numbered (history ++ (p.perform outside world task).told)
      (p.perform outside world task).pipeline.inFlight := by
  cases task with
  | wake uri generation =>
      simp only [Pipeline.perform_wake, Pipeline.wake]
      split
      · exact h.begun p.now uri .push
      · exact h.idle
  | ask uri ticket =>
      have begun := (h.begun p.now uri (.pull ticket)).execute outside world
        (p := (p.begin uri (.pull ticket)).2) (p.begin uri (.pull ticket)).1
      rw [List.append_assoc] at begun
      rw [Pipeline.perform_ask]
      exact begun
  | start run => exact h.execute outside world run
  | finish run document result =>
      rw [Pipeline.perform_finish]
      exact (h.quiet (Pipeline.seen_quiet _)).finish run.uri run.generation

theorem move {s : Scene τ ω} (h : Numbered history s.pipeline.inFlight) (move : Move τ ω) :
    Numbered (history ++ (s.move outside move).1) (s.move outside move).2.pipeline.inFlight := by
  cases move with
  | change uri version => exact h.idle
  | close uri => exact h.closed uri
  | push uri => exact h.begun s.pipeline.now uri .push
  | pull uri ticket => exact h.idle
  | shutdown => exact h.stopped
  | wait millis => exact h.idle
  | alter world => exact h.idle
  | perform place =>
      rcases Scene.move_perform outside s place with nothing | ⟨entry, -, performed⟩
      · rw [nothing]
        exact h.idle
      · rw [performed]
        exact perform (p := s.without place) outside s.world h entry.action
  | late place =>
      rcases Scene.move_late outside s place with nothing | ⟨task, -, performed⟩
      · rw [nothing]
        exact h.idle
      · rw [performed]
        exact h.perform outside s.world task

end Numbered

/-! ## Tasks belong to runs that have begun -/

/-- A scene is traced by a history when runs are numbered, and every task that was ever entered
belongs to a run of the history. -/
structure Traced (history : List (Happening τ)) (s : Scene τ ω) : Prop where
  numbered : Numbered history s.pipeline.inFlight
  known : ∀ task ∈ s.entered, ∀ run, task.run? = some run → ∃ time, .begun time run ∈ history
  waiting : ∀ entry ∈ s.pipeline.agenda, entry.action ∈ s.entered

namespace Pipeline

variable (outside : Outside ω) (world : ω) (p : Pipeline τ)

theorem mem_execute {run : Run τ} {entry : Planned (Task τ)}
    (member : entry ∈ (p.execute outside world run).pipeline.agenda) :
    entry ∈ p.agenda ∨ entry.action.run? = some run := by
  rcases execute_cases outside world p run with ⟨-, executed⟩ |
    ⟨_, document, _, result, delay, _, -, -, -, ⟨-, executed⟩ | ⟨-, executed⟩⟩
  · rw [executed] at member
    exact .inl member
  · rw [executed] at member
    exact .inl member
  · rw [executed] at member
    rcases (mem_plan p delay _ entry).mp member with rfl | old
    · exact .inr rfl
    · exact .inl old

theorem mem_push {uri : Uri} {entry : Planned (Task τ)} (member : entry ∈ (p.push uri).agenda) :
    entry ∈ p.agenda ∨ entry.action.run? = some (p.begin uri .push).1 := by
  rw [push_eq] at member
  rcases (mem_plan _ 0 _ entry).mp member with rfl | old
  · exact .inr rfl
  · exact .inl ((abortPush_sublist p uri).subset old)

/-- What a task adds to the agenda belongs to the run of the task, or to one that it begins. -/
theorem mem_perform {task : Task τ} {entry : Planned (Task τ)}
    (member : entry ∈ (p.perform outside world task).pipeline.agenda) :
    entry ∈ p.agenda ∨ ∃ run, entry.action.run? = some run ∧
      (task.run? = some run ∨ ∃ time, .begun time run ∈ (p.perform outside world task).told) := by
  cases task with
  | wake uri generation =>
      simp only [perform_wake, wake] at member ⊢
      split at member
      · rename_i due
        rcases mem_push _ member with old | new
        · exact .inl old
        · refine .inr ⟨_, new, .inr ⟨p.now, ?_⟩⟩
          rw [if_pos due]
          exact List.mem_singleton_self _
      · exact .inl member
  | ask uri ticket =>
      rw [perform_ask] at member ⊢
      rcases mem_execute outside world _ member with old | new
      · exact .inl ((abortPush_sublist p uri).subset old)
      · exact .inr ⟨_, new, .inr ⟨p.now, List.mem_cons_self⟩⟩
  | start run =>
      rcases mem_execute outside world p member with old | new
      · exact .inl old
      · exact .inr ⟨run, new, .inl rfl⟩
  | finish run document result =>
      rw [perform_finish] at member
      exact .inl member

end Pipeline

namespace Traced

variable {history : List (Happening τ)} {s : Scene τ ω} (outside : Outside ω)

theorem start (workspace? : Option Workspace) (window : Nat) (world : ω) :
    Traced [] (Scene.start workspace? window world : Scene τ ω) :=
  ⟨Numbered.nil, fun _ member => (nomatch member), fun _ member => (nomatch member)⟩

theorem become (h : Traced history s) {others : List (Happening τ)} {world : ω} {p : Pipeline τ}
    (numbered : Numbered (history ++ others) p.inFlight)
    (new : ∀ entry ∈ p.agenda, entry ∈ s.pipeline.agenda ∨
      ∀ run, entry.action.run? = some run → ∃ time, .begun time run ∈ history ++ others) :
    Traced (history ++ others) (s.become world p) := by
  refine ⟨numbered, ?_, ?_⟩
  · intro task member run carried
    have old : task ∈ s.entered → ∃ time, .begun time run ∈ history ++ others := by
      intro before
      obtain ⟨time, begun⟩ := h.known task before run carried
      exact ⟨time, List.mem_append_left _ begun⟩
    rcases List.mem_append.mp member with before | now
    · exact old before
    · obtain ⟨entry, waits, rfl⟩ := List.mem_map.mp now
      rcases new entry waits with same | begun
      · exact old (h.waiting entry same)
      · exact begun run carried
  · intro entry member
    exact List.mem_append_right _ (List.mem_map_of_mem member)

theorem idle (h : Traced history s) : Traced (history ++ []) s := by
  rw [List.append_nil]
  exact h

theorem performed (h : Traced history s) {rest : Pipeline τ}
    (inFlight : rest.inFlight = s.pipeline.inFlight)
    (fewer : rest.agenda.Sublist s.pipeline.agenda) {task : Task τ} (entered : task ∈ s.entered) :
    Traced (history ++ (s.performed outside rest task).1) (s.performed outside rest task).2 := by
  apply h.become (Numbered.perform outside s.world (inFlight ▸ h.numbered) task)
  intro entry member
  rcases Pipeline.mem_perform outside s.world rest member with old | new
  · exact .inl (fewer.subset old)
  · refine .inr fun run carried => ?_
    obtain ⟨carrier, carries, source⟩ := new
    obtain rfl := Option.some.inj (carries.symm.trans carried)
    rcases source with own | ⟨time, begun⟩
    · obtain ⟨time, begun⟩ := h.known task entered carrier own
      exact ⟨time, List.mem_append_left _ begun⟩
    · exact ⟨time, List.mem_append_right _ begun⟩

/-- Every move keeps a scene traced, whether a task is performed in time or late. -/
theorem move (h : Traced history s) (move : Move τ ω) :
    Traced (history ++ (s.move outside move).1) (s.move outside move).2 := by
  have numbered := h.numbered.move outside move
  cases move with
  | change uri version =>
      refine h.become numbered fun entry member => ?_
      rcases (Pipeline.mem_plan _ _ _ entry).mp member with rfl | old
      · exact .inr fun run carried => nomatch carried
      · exact .inl old
  | close uri =>
      exact h.become numbered fun entry member =>
        .inl ((Pipeline.abortPush_sublist s.pipeline uri).subset member)
  | push uri =>
      refine h.become numbered fun entry member => ?_
      rcases Pipeline.mem_push s.pipeline member with old | new
      · exact .inl old
      · refine .inr fun run carried => ⟨s.pipeline.now, List.mem_append_right _ ?_⟩
        obtain rfl := Option.some.inj (new.symm.trans carried)
        exact List.mem_singleton_self _
  | pull uri ticket =>
      refine h.become numbered fun entry member => ?_
      rcases (Pipeline.mem_plan _ _ _ entry).mp member with rfl | old
      · exact .inr fun run carried => nomatch carried
      · exact .inl old
  | shutdown =>
      exact h.become numbered fun entry member =>
        .inl ((Pipeline.shutdown_sublist s.pipeline).subset member)
  | wait millis => exact ⟨numbered, h.idle.known, h.waiting⟩
  | alter world => exact ⟨numbered, h.idle.known, h.waiting⟩
  | perform place =>
      rcases Scene.move_perform outside s place with nothing | ⟨entry, found, performed⟩
      · rw [nothing]
        exact h.idle
      · rw [performed]
        have same : (s.without place).inFlight = s.pipeline.inFlight := rfl
        exact h.performed outside same (List.eraseIdx_sublist _ place)
          (h.waiting entry (List.mem_of_getElem? found))
  | late place =>
      rcases Scene.move_late outside s place with nothing | ⟨task, entered, performed⟩
      · rw [nothing]
        exact h.idle
      · rw [performed]
        exact h.performed outside rfl (List.Sublist.refl _) entered

end Traced

end AsmDiagnostics
