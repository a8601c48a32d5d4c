import AsmDiagnostics.Proofs.Pipeline.Standing

/-!
# Results are fresh

A push publishes its result only while its run stands for the document: between the beginning of the
run and its result there is no other trigger for the document, no close of it, and no end of the
session.  This holds by the comparison of generations alone, and so also in stories in which a task
that was aborted is performed nevertheless, at any time and any number of times.
-/

namespace AsmDiagnostics

variable {τ ω : Type}

namespace Happening

/-- The run whose result is published; the result of a pull is an answer and is not published. -/
def published? : Happening τ → Option (Run τ)
  | .seen ⟨_, run, .deliver _⟩ => if run.trigger.isPush then some run else none
  | _ => none

def IsOpening (happening : Happening τ) : Prop :=
  happening.IsQuiet ∧ happening.published? = none

end Happening

/-- The runs whose results are published for a document, in the order of their results. -/
def published (uri : Uri) (history : List (Happening τ)) : List (Run τ) :=
  (history.filterMap Happening.published?).filter fun run => run.uri = uri

theorem published_append (uri : Uri) (history others : List (Happening τ)) :
    published uri (history ++ others) = published uri history ++ published uri others := by
  simp [published]

theorem published_of_none {others : List (Happening τ)}
    (h : ∀ happening ∈ others, happening.published? = none) (uri : Uri) :
    published uri others = [] := by
  have nothing : others.filterMap Happening.published? = [] := List.filterMap_eq_nil_iff.mpr h
  simp [published, nothing]

theorem published_concat {history : List (Happening τ)} {result : Happening τ} {run : Run τ}
    (own : result.published? = some run) (uri : Uri) :
    published uri (history ++ [result]) =
      published uri history ++ if run.uri = uri then [run] else [] := by
  rw [published_append]
  by_cases same : run.uri = uri <;> simp [published, own, same]

/-- Each result that is published among some happenings is the one of the run that stands for its
document; the argument in front is what happened before. -/
def FreshAfter (before : List (Happening τ)) : List (Happening τ) → Prop
  | [] => True
  | happening :: others =>
      (∀ run, happening.published? = some run → standing run.uri before = some run) ∧
        FreshAfter (before ++ [happening]) others

theorem freshAfter_append (before front back : List (Happening τ)) :
    FreshAfter before (front ++ back) ↔
      FreshAfter before front ∧ FreshAfter (before ++ front) back := by
  induction front generalizing before with
  | nil => simp [FreshAfter]
  | cons happening front ih => simp [FreshAfter, ih, and_assoc]

theorem freshAfter_of_none {others : List (Happening τ)}
    (h : ∀ happening ∈ others, happening.published? = none) (before : List (Happening τ)) :
    FreshAfter before others := by
  induction others generalizing before with
  | nil => trivial
  | cons happening others ih =>
      rw [List.forall_mem_cons] at h
      refine ⟨?_, ih h.2 _⟩
      intro run result
      rw [h.1] at result
      simp at result

/-! ## One run -/

namespace Pipeline

variable (outside : Outside ω) (world : ω) (p : Pipeline τ) (run : Run τ)

theorem opening_complain (document : DocumentRef) (result : Build.Result) :
    ∀ happening ∈ (p.complain run document result).map Happening.seen,
      Happening.IsOpening happening := by
  intro happening member
  obtain ⟨event, complained, rfl⟩ := List.mem_map.mp member
  obtain ⟨fault, -, rfl⟩ := List.mem_map.mp complained
  exact ⟨trivial, rfl⟩

theorem isOpening_opening (command : Build.Command) (result : Build.Result) :
    ∀ happening ∈ [.seen (p.eventOf run .clear), .started run result,
      .seen (p.eventOf run (.build command))], Happening.IsOpening happening := by
  simp [Happening.IsOpening, Happening.IsQuiet, Happening.published?, eventOf]

/-- A run opens with happenings that publish no result, and then either delivers or goes on
waiting. -/
theorem execute_told :
    ∃ opening, (∀ happening ∈ opening, Happening.IsOpening happening) ∧
      (((p.execute outside world run).told = opening ∧
          (p.execute outside world run).pipeline.inFlight = p.inFlight) ∨
        ∃ diagnostics, (p.execute outside world run).told =
            opening ++ (p.deliver run diagnostics).1.map .seen ∧
          (p.execute outside world run).pipeline.inFlight =
            p.inFlight.finish run.uri run.generation) := by
  rcases execute_cases outside world p run with ⟨-, executed⟩ |
    ⟨_, document, command, result, delay, _, -, -, -, ⟨-, executed⟩ | ⟨-, executed⟩⟩
  · rw [executed]
    exact ⟨[], (fun _ member => nomatch member), .inr ⟨[], rfl, rfl⟩⟩
  · rw [executed]
    refine ⟨_ ++ (p.complain run document result).map Happening.seen,
      List.forall_mem_append.mpr
        ⟨isOpening_opening p run command result, opening_complain p run document result⟩,
      .inr ⟨document.diagnostics result.output, ?_, rfl⟩⟩
    simp only [lastEvents, List.map_append, List.append_assoc]
  · rw [executed]
    exact ⟨_, isOpening_opening p run command result, .inl ⟨rfl, rfl⟩⟩

/-- The end of a build may bring a complaint, and then brings the delivery. -/
theorem perform_finish_told (document : DocumentRef) (result : Build.Result) :
    (p.perform outside world (.finish run document result)).told =
      (p.complain run document result).map .seen ++
        (p.deliver run (document.diagnostics result.output)).1.map .seen := by
  rw [perform_finish, lastEvents, List.map_append]

/-- A delivery is the result of the run, unless the run is a push that is not current any more. -/
theorem deliver_cases (diagnostics : List Diagnostic) :
    ((p.deliver run diagnostics).1.map Happening.seen = [] ∧ run.trigger = .push ∧
        p.inFlight.current? run.uri ≠ some run.generation) ∨
      ((p.deliver run diagnostics).1.map Happening.seen =
          [.seen (p.eventOf run (.deliver diagnostics))] ∧
        (run.trigger = .push → p.inFlight.current? run.uri = some run.generation)) := by
  cases trigger : run.trigger with
  | push =>
      by_cases current : p.inFlight.current? run.uri = some run.generation
      · rw [deliver_events_of_current p run diagnostics current]
        exact .inr ⟨rfl, fun _ => current⟩
      · rw [deliver_events_of_superseded p run trigger current diagnostics]
        exact .inl ⟨rfl, rfl, current⟩
  | pull ticket =>
      rw [deliver_events_of_pull p run trigger diagnostics]
      exact .inr ⟨rfl, nofun⟩

end Pipeline

/-! ## What every move keeps -/

/-- The results that were published are fresh, and come in the order of their generations. -/
structure Fresh (history : List (Happening τ)) (f : InFlight) : Prop where
  results : FreshAfter [] history
  increasing : ∀ uri, (published uri history).Pairwise fun a b => a.generation < b.generation
  bounded : ∀ uri, ∀ run ∈ published uri history, run.generation ≤ f.lastGeneration
  behind : ∀ uri generation, f.current? uri = some generation →
    ∀ run ∈ published uri history, run.generation < generation

namespace Fresh

variable {history : List (Happening τ)} {f : InFlight}

theorem nil : Fresh ([] : List (Happening τ)) InFlight.empty :=
  ⟨trivial, fun _ => List.Pairwise.nil, fun _ _ member => (nomatch member), fun _ _ current => by
    simp [InFlight.current?, InFlight.empty] at current⟩

/-- Happenings that publish no result keep what was published fresh. -/
theorem unpublished (h : Fresh history f) {others : List (Happening τ)} {g : InFlight}
    (nothing : ∀ happening ∈ others, happening.published? = none)
    (last : f.lastGeneration ≤ g.lastGeneration)
    (current : ∀ uri generation, g.current? uri = some generation →
      f.current? uri = some generation ∨ f.lastGeneration < generation) :
    Fresh (history ++ others) g := by
  have same : ∀ uri, published uri (history ++ others) = published uri history := fun uri => by
    rw [published_append, published_of_none nothing, List.append_nil]
  refine ⟨(freshAfter_append [] history others).mpr ⟨h.results, freshAfter_of_none nothing _⟩,
    ?_, ?_, ?_⟩
  · intro uri
    rw [same]
    exact h.increasing uri
  · intro uri run member
    rw [same] at member
    exact Nat.le_trans (h.bounded uri run member) last
  · intro uri generation now run member
    rw [same] at member
    rcases current uri generation now with before | new
    · exact h.behind uri generation before run member
    · exact Nat.lt_of_le_of_lt (h.bounded uri run member) new

theorem begun (h : Fresh history f) (time : Nat) (uri : Uri) (trigger : Trigger τ) :
    Fresh (history ++ [.begun time ⟨uri, f.nextGeneration, trigger⟩]) (f.begin uri) := by
  apply h.unpublished (by simp [Happening.published?]) (Nat.le_succ _)
  intro other generation current
  rw [InFlight.current?_begin] at current
  split at current
  · exact .inr (Nat.lt_of_lt_of_eq (Nat.lt_succ_self _) (Option.some.inj current))
  · exact .inl current

theorem opening (h : Fresh history f) {others : List (Happening τ)}
    (opens : ∀ happening ∈ others, Happening.IsOpening happening) : Fresh (history ++ others) f :=
  h.unpublished (fun happening member => (opens happening member).2) (Nat.le_refl _)
    fun _ _ current => .inl current

theorem idle (h : Fresh history f) : Fresh (history ++ []) f := by
  rw [List.append_nil]
  exact h

theorem closed (h : Fresh history f) (uri : Uri) :
    Fresh (history ++ [.closed uri]) (f.drop uri) := by
  refine h.unpublished (by simp [Happening.published?]) (Nat.le_refl _) ?_
  intro other generation current
  rw [InFlight.current?_drop] at current
  split at current
  · simp at current
  · exact .inl current

theorem stopped (h : Fresh history f) : Fresh (history ++ [.stopped]) f.dropAll := by
  refine h.unpublished (by simp [Happening.published?]) (Nat.le_refl _) ?_
  intro uri generation current
  simp [InFlight.current?_dropAll] at current

theorem finish (h : Fresh history f) (uri : Uri) (generation : Nat) :
    Fresh history (f.finish uri generation) := by
  refine ⟨h.results, h.increasing, ?_, ?_⟩
  · rw [InFlight.lastGeneration_finish]
    exact h.bounded
  · intro other number current
    rw [InFlight.current?_finish] at current
    split at current
    · simp at current
    · exact h.behind other number current

/-- A run that is current publishes its result. It is not current any more afterwards, so there is
no second result. -/
theorem publish (h : Fresh history f) (numbered : Numbered history f) {time : Nat} {run : Run τ}
    (begun : .begun time run ∈ history) (current : f.current? run.uri = some run.generation)
    {result : Happening τ} (own : result.published? = some run) :
    Fresh (history ++ [result]) (f.finish run.uri run.generation) where
  results := by
    rw [freshAfter_append]
    refine ⟨h.results, fun published same => ?_, trivial⟩
    obtain rfl := Option.some.inj (own.symm.trans same)
    exact numbered.standing_of_current begun current
  increasing uri := by
    rw [published_concat own]
    split
    · rename_i same
      subst same
      refine List.pairwise_append.mpr ⟨h.increasing _, List.pairwise_singleton _ _, ?_⟩
      intro earlier member last new
      rw [List.mem_singleton.mp new]
      exact h.behind run.uri run.generation current earlier member
    · rw [List.append_nil]
      exact h.increasing uri
  bounded uri earlier member := by
    rw [InFlight.lastGeneration_finish]
    rw [published_concat own] at member
    rcases List.mem_append.mp member with old | new
    · exact h.bounded uri earlier old
    · obtain ⟨-, new⟩ := List.mem_ite_nil_right.mp new
      rw [List.mem_singleton.mp new]
      exact numbered.bounded _ (generation_mem begun)
  behind uri generation now := by
    rw [InFlight.current?_finish] at now
    split at now
    · cases now
    · rename_i apart
      have different : run.uri ≠ uri := fun same => apart ⟨same.symm, current⟩
      rw [published_concat own, if_neg different, List.append_nil]
      exact h.behind uri generation now

/-- The result of a push is published only while the run is current. -/
theorem deliver {p : Pipeline τ} (h : Fresh history p.inFlight)
    (numbered : Numbered history p.inFlight) {time : Nat} {run : Run τ}
    (begun : .begun time run ∈ history) (diagnostics : List Diagnostic) :
    Fresh (history ++ (p.deliver run diagnostics).1.map .seen)
      (p.inFlight.finish run.uri run.generation) := by
  rcases p.deliver_cases run diagnostics with ⟨nothing, -⟩ | ⟨told, whenPushed⟩
  · rw [nothing]
    exact (h.finish _ _).idle
  rw [told]
  cases trigger : run.trigger with
  | pull ticket =>
      apply (h.finish _ _).opening
      simp [Happening.IsOpening, Happening.IsQuiet, Happening.published?, Pipeline.eventOf, trigger,
        Trigger.isPush]
  | push =>
      refine h.publish numbered begun (whenPushed trigger) ?_
      simp [Happening.published?, Pipeline.eventOf, trigger, Trigger.isPush]

theorem execute {p : Pipeline τ} (h : Fresh history p.inFlight)
    (numbered : Numbered history p.inFlight) {time : Nat} {run : Run τ}
    (begun : .begun time run ∈ history) (outside : Outside ω) (world : ω) :
    Fresh (history ++ (p.execute outside world run).told)
      (p.execute outside world run).pipeline.inFlight := by
  obtain ⟨opening, opens, ⟨told, same⟩ | ⟨diagnostics, told, finished⟩⟩ :=
    p.execute_told outside world run
  · rw [told, same]
    exact h.opening opens
  · rw [told, finished, ← List.append_assoc]
    exact (h.opening opens).deliver (numbered.quiet fun happening member => (opens _ member).1)
      (List.mem_append_left _ begun) diagnostics

theorem perform {p : Pipeline τ} (h : Fresh history p.inFlight)
    (numbered : Numbered history p.inFlight) {task : Task τ}
    (known : ∀ run, task.run? = some run → ∃ time, .begun time run ∈ history)
    (outside : Outside ω) (world : ω) :
    Fresh (history ++ (p.perform outside world task).told)
      (p.perform outside world task).pipeline.inFlight := by
  cases task with
  | wake uri generation =>
      simp only [Pipeline.perform_wake, Pipeline.wake]
      split
      · exact h.begun p.now uri .push
      · exact h.idle
  | ask uri ticket =>
      have begun := h.begun p.now uri (.pull ticket)
      have asked := execute (p := (p.begin uri (.pull ticket)).2) begun
        (numbered.begun p.now uri (.pull ticket)) (List.mem_append_right _
          (List.mem_singleton_self _)) outside world
      rw [List.append_assoc] at asked
      rw [Pipeline.perform_ask]
      exact asked
  | start run =>
      obtain ⟨time, begun⟩ := known run rfl
      exact h.execute numbered begun outside world
  | finish run document result =>
      obtain ⟨time, begun⟩ := known run rfl
      have opens := p.opening_complain run document result
      rw [Pipeline.perform_finish_told, Pipeline.perform_finish, ← List.append_assoc]
      exact (h.opening opens).deliver (numbered.quiet fun happening member => (opens _ member).1)
        (List.mem_append_left _ begun) _

/-- Every move keeps what was published fresh, whether a task is performed in time or late. -/
theorem move {s : Scene τ ω} (h : Fresh history s.pipeline.inFlight) (traced : Traced history s)
    (outside : Outside ω) (move : Move τ ω) :
    Fresh (history ++ (s.move outside move).1) (s.move outside move).2.pipeline.inFlight := by
  cases move with
  | change uri version => exact h.idle
  | close uri => exact h.closed uri
  | push uri => exact h.begun s.pipeline.now uri .push
  | pull uri ticket => exact h.idle
  | shutdown => exact h.stopped
  | wait millis => exact h.idle
  | alter world => exact h.idle
  | perform place =>
      rcases Scene.move_perform outside s place with nothing | ⟨entry, found, performed⟩
      · rw [nothing]
        exact h.idle
      · rw [performed]
        exact perform (p := s.without place) h traced.numbered
          (traced.known entry.action (traced.waiting entry (List.mem_of_getElem? found)))
          outside s.world
  | late place =>
      rcases Scene.move_late outside s place with nothing | ⟨task, entered, performed⟩
      · rw [nothing]
        exact h.idle
      · rw [performed]
        exact h.perform traced.numbered (traced.known task entered) outside s.world

end Fresh

/-- At the end of every story, all results that were published are fresh. -/
theorem fresh_play (outside : Outside ω) (workspace? : Option Workspace) (window : Nat) (world : ω)
    (moves : List (Move τ ω)) :
    Fresh ((Scene.start workspace? window world).play outside moves).1
      ((Scene.start workspace? window world).play outside moves).2.pipeline.inFlight := by
  have kept := Scene.play_keeps outside
    (fun history s => Traced history s ∧ Fresh history s.pipeline.inFlight)
    (fun history s move h => ⟨h.1.move outside move, h.2.move h.1 outside move⟩)
    [] ⟨Traced.start workspace? window world, Fresh.nil⟩ moves
  exact kept.2

/-- A result of a push that is published was triggered last: nothing disturbed its document between
the beginning of its run and the result. -/
theorem begun_before_published {front back : List (Happening τ)} {result : Happening τ}
    {run : Run τ} (fresh : FreshAfter [] (front ++ result :: back))
    (published : result.published? = some run) :
    ∃ before began between, front = before ++ .begun began run :: between ∧
      ∀ happening ∈ between, ¬ happening.Disturbs run.uri := by
  have stands := ((freshAfter_append [] front (result :: back)).mp fresh).2.1 run published
  obtain ⟨before, began, between, parted, -, quiet⟩ := standing_eq_some stands
  exact ⟨before, began, between, parted, quiet⟩

/-- No result is published twice. -/
theorem not_published_twice {front middle back : List (Happening τ)} {first second : Happening τ}
    {run : Run τ} (increasing : (published run.uri
      (front ++ first :: middle ++ second :: back)).Pairwise fun a b => a.generation < b.generation)
    (once : first.published? = some run) : second.published? ≠ some run := by
  intro twice
  have both : [run, run].Sublist (published run.uri
      (front ++ first :: middle ++ second :: back)) := by
    simp [published, once, twice]
  have less := increasing.sublist both
  simp at less

/-- In every story, whether aborts come in time or late, the result of a push is published only if
nothing else was triggered for its document, the document was not closed and the session did not end
since the run began.  So the results for a document come in the order of their generations, and no
push publishes its result twice. -/
theorem results_never_stale (outside : Outside ω) (workspace? : Option Workspace) (window : Nat)
    (world : ω) (moves : List (Move τ ω)) :
    let history := ((Scene.start workspace? window world).play outside moves).1
    (∀ front time run diagnostics back,
      history = front ++ .seen ⟨time, run, .deliver diagnostics⟩ :: back → run.trigger = .push →
        ∃ before began between, front = before ++ .begun began run :: between ∧
          ∀ happening ∈ between, ¬ happening.Disturbs run.uri) ∧
    (∀ uri, (published uri history).Pairwise fun a b => a.generation < b.generation) ∧
    (∀ front time run diagnostics middle later others back, run.trigger = .push →
      history ≠ front ++ .seen ⟨time, run, .deliver diagnostics⟩ :: middle ++
        .seen ⟨later, run, .deliver others⟩ :: back) := by
  intro history
  have fresh := fresh_play (τ := τ) outside workspace? window world moves
  refine ⟨?_, fresh.increasing, ?_⟩
  · intro front time run diagnostics back parted pushed
    have results : FreshAfter [] history := fresh.results
    rw [parted] at results
    exact begun_before_published results (by simp [Happening.published?, pushed, Trigger.isPush])
  · intro front time run diagnostics middle later others back pushed parted
    have increasing : (published run.uri history).Pairwise _ := fresh.increasing run.uri
    rw [parted] at increasing
    refine not_published_twice increasing ?_ ?_ <;>
      simp [Happening.published?, pushed, Trigger.isPush]

/-- A push is superseded, and the abort of its task comes too late: both builds run to their ends,
and the result of the second push alone is published. -/
theorem superseded_result_kept_back :
    let run : Run Unit := ⟨Sample.uri, 2, .push⟩
    let history := (Sample.story 500 [.push Sample.uri, .push Sample.uri, .late 0, .perform 0,
      .wait 5, .perform 1, .perform 0]).1
    published Sample.uri history = [run] ∧
      ∃ before began between, history.dropLast = before ++ .begun began run :: between ∧
        ∀ happening ∈ between, ¬ happening.Disturbs Sample.uri := by
  intro run history
  have last : history = history.dropLast ++ .seen ⟨5, run, .deliver []⟩ :: [] := by decide +kernel
  refine ⟨by decide +kernel, ?_⟩
  exact (results_never_stale Sample.outside (some Sample.workspace) 500 () _).1
    history.dropLast 5 run [] [] last rfl

end AsmDiagnostics
