import AsmDiagnostics.Proofs.Pipeline.Resting

/-!
# The last trigger decides

Time can always pass until nothing waits any more.  Then the run that began last for a document
decides what is shown for it: the result of the one build that it started if it is a push, nothing
if it is a pull.  A change after which nothing is called for its document ends with such a push,
which begins when the window is over.  A window of more than thirty years counts as thirty years.
-/

namespace AsmDiagnostics

variable {τ ω : Type} (outside : Outside ω)

namespace Scene

theorem prompt_play {s : Scene τ ω} (h : s.pipeline.Prompt) (moves : List (Move τ ω)) :
    (s.play outside moves).2.pipeline.Prompt :=
  play_keeps outside (fun _ s => s.pipeline.Prompt)
    (fun _ _ move h => prompt_move outside h move) [] h moves

end Scene

/-- A run stands for its document if it has the greatest generation of all that began for it, and
neither a close nor the end of the session has come since. -/
theorem standing_of_last {front back : List (Happening τ)} {time : Nat} {run : Run τ}
    (increasing : (generations (front ++ .begun time run :: back)).Pairwise (· < ·))
    (open? : .closed run.uri ∉ back) (running : .stopped ∉ back)
    (last : ∀ later other, .begun later other ∈ front ++ .begun time run :: back →
      other.uri = run.uri → other.generation ≤ run.generation) :
    standing run.uri (front ++ .begun time run :: back) = some run := by
  refine standing_of_begun fun happening member disturbs => ?_
  cases happening with
  | begun later other =>
      have begun : .begun later other ∈ front ++ .begun time run :: back :=
        List.mem_append_right _ (List.mem_cons_of_mem _ member)
      have atMost := last later other begun disturbs
      rw [generations_append] at increasing
      have behind := (List.pairwise_append.mp increasing).2.1
      have less := (List.pairwise_cons.mp behind).1 _ (generation_mem member)
      omega
  | closed uri =>
      obtain rfl : uri = run.uri := disturbs
      exact open? member
  | stopped => exact running member
  | started other result => exact disturbs
  | seen event => exact disturbs

/-- As long as nothing else is called for the document, a change is held back or its push stands. -/
theorem awaits_or_pushed_play {inOrder : Prop} {uri : Uri} {due generation : Nat}
    {history : List (Happening τ)} {s : Scene τ ω} {moves : List (Move τ ω)}
    (others : ∀ move ∈ moves, ¬ move.Concerns uri) (timely : s.Timely outside moves)
    (first : inOrder → ∀ move ∈ moves, move.IsInOrder) (onTime : s.pipeline.OnTime)
    (h : Awaits inOrder uri due generation s.pipeline ∨ Pushed uri due history s.pipeline) :
    Awaits inOrder uri due generation (s.play outside moves).2.pipeline ∨
      Pushed uri due (history ++ (s.play outside moves).1)
        (s.play outside moves).2.pipeline := by
  induction moves generalizing history s with
  | nil => simpa using h
  | cons move moves ih =>
      rw [List.forall_mem_cons] at others
      have ordered : inOrder → move.IsInOrder ∧ ∀ move ∈ moves, move.IsInOrder := by
        rw [← List.forall_mem_cons]
        exact first
      have next := ih others.2 timely.2 (fun held => (ordered held).2)
        (Scene.onTime_move outside timely.1 onTime)
        (awaits_or_pushed_move outside others.1 timely.1 (fun held => (ordered held).1) onTime h)
      rw [List.append_assoc] at next
      exact next

/-- When nothing waits after the last call for a document, and that call was a change, the push that
began when the window was over stands for the document. -/
theorem pushed_at_rest {s : Scene τ ω} (prompt : s.pipeline.Prompt) (onTime : s.pipeline.OnTime)
    (history : List (Happening τ)) {uri : Uri} {version : Int} {moves : List (Move τ ω)}
    (others : ∀ move ∈ moves, ¬ move.Concerns uri)
    (timely : s.Timely outside (.change uri version :: moves))
    (last : (∀ move ∈ moves, move.IsInOrder) ∨ 0 < s.pipeline.window ∨
      ∀ entry ∈ s.pipeline.agenda, ∀ ticket, entry.action ≠ .ask uri ticket)
    (idle : (s.play outside (.change uri version :: moves)).2.pipeline.agenda = []) :
    ∃ run, standing uri (history ++ (s.play outside (.change uri version :: moves)).1) = some run ∧
      run.trigger = .push ∧ .begun (Agenda.after s.pipeline.now s.pipeline.window) run ∈
        history ++ (s.play outside (.change uri version :: moves)).1 := by
  let changed := (s.move outside (.change uri version)).2
  have held : Awaits (∀ move ∈ moves, move.IsInOrder) uri _ s.pipeline.debouncer.nextGeneration
      changed.pipeline := awaits_change prompt onTime version last
  have either : _ ∨ Pushed uri (Agenda.after s.pipeline.now s.pipeline.window) history
      changed.pipeline := .inl held
  rcases awaits_or_pushed_play outside others timely.2 id
    (Scene.onTime_move outside timely.1 onTime) either with awaits | pushed
  · have waits := awaits.waits
    rw [Scene.play_cons] at idle
    rw [idle] at waits
    cases waits
  · exact pushed.stands

section Story

variable (workspace : Workspace) (window : Nat) (world : ω) {moves : List (Move τ ω)}

/-- At every point of a timely story its pipeline is settling, on time and prompt. -/
theorem settling_play (timely : (Scene.start (some workspace) window world).Timely outside moves) :
    Settling ((Scene.start (some workspace) window world).play outside moves).1
      ((Scene.start (some workspace) window world).play outside moves).2 :=
  (Settling.start (some workspace) window world).play outside timely

theorem document?_play (moves : List (Move τ ω)) {uri : Uri} {document : DocumentRef}
    (resolved : workspace.document? uri = some document) :
    ((Scene.start (some workspace) window world).play outside moves).2.pipeline.document? uri =
      some (workspace, document) := by
  have root := (Scene.frame_play outside (Scene.start (some workspace) window world) moves).1
  rw [Pipeline.document?_congr root]
  exact congrArg (Option.map fun document => (workspace, document)) resolved

theorem push_of_last_change {before after : List (Move τ ω)} {uri : Uri} {version : Int}
    (timely : (Scene.start (some workspace) window world).Timely outside
      (before ++ .change uri version :: after))
    (others : ∀ move ∈ after, ¬ move.Concerns uri)
    (last : (∀ move ∈ after, move.IsInOrder) ∨ 0 < window ∨ ∀ entry ∈
      ((Scene.start (some workspace) window world).play outside before).2.pipeline.agenda,
        ∀ ticket, entry.action ≠ .ask uri ticket)
    (idle : ((Scene.start (some workspace) window world).play outside
      (before ++ .change uri version :: after)).2.pipeline.agenda = []) :
    ∃ run, standing uri ((Scene.start (some workspace) window world).play outside
        (before ++ .change uri version :: after)).1 = some run ∧ run.trigger = .push ∧
      .begun (Agenda.after
          ((Scene.start (some workspace) window world).play outside before).2.pipeline.now window)
        run ∈ ((Scene.start (some workspace) window world).play outside
          (before ++ .change uri version :: after)).1 := by
  have startOnTime := Scene.start_onTime (τ := τ) (some workspace) window world
  have frame := Scene.frame_play outside (Scene.start (some workspace) window world) before
  have calledWindow : ((Scene.start (some workspace) window world).play outside
    before).2.pipeline.window = window := frame.2
  rw [Scene.timely_append] at timely
  rw [Scene.play_append] at idle ⊢
  have pushed := pushed_at_rest outside
    (Scene.prompt_play outside (Pipeline.Prompt.start (some workspace) window) before)
    (Scene.onTime_play outside startOnTime timely.1)
    ((Scene.start (some workspace) window world).play outside before).1 others timely.2
    (calledWindow.symm ▸ last) idle
  rw [calledWindow] at pushed
  exact pushed

/-- Every timely story can go on by time alone until nothing waits.  When nothing waits, the run
with the greatest generation of a document that has not been closed since decides: the last
publication is the result of the one build of that run if it is a push, and its clear if it is a
pull.  When the last call for a document was a change, a push began when the window was over, which
is thirty years at most, and its result is the last publication.  Only without a window could a
question that waited at the change be performed after the timer, and never if tasks are performed
in order. -/
theorem last_trigger_decides
    (timely : (Scene.start (some workspace) window world).Timely outside moves) :
    let story := (Scene.start (some workspace) window world).play outside moves
    (∃ rest : List (Move τ ω), (∀ move ∈ rest, move.IsPassing ∧ move.IsInOrder) ∧
      (Scene.start (some workspace) window world).Timely outside (moves ++ rest) ∧
      ((Scene.start (some workspace) window world).play outside
        (moves ++ rest)).2.pipeline.agenda = []) ∧
    (story.2.pipeline.agenda = [] →
      (∀ front time run back document, story.1 = front ++ .begun time run :: back →
        .closed run.uri ∉ back → .stopped ∉ back →
        (∀ later other, .begun later other ∈ story.1 → other.uri = run.uri →
          other.generation ≤ run.generation) →
        workspace.document? run.uri = some document →
        (run.trigger = .push → ∃ result shown, builds run.generation story.1 = [result] ∧
          lastPublication run.uri story.1 =
            some ⟨shown, run, .deliver (document.diagnostics result.output)⟩) ∧
        (run.trigger ≠ .push → ∃ shown,
          lastPublication run.uri story.1 = some ⟨shown, run, .clear⟩)) ∧
      (∀ before uri version after document, moves = before ++ .change uri version :: after →
        (∀ move ∈ after, ¬ move.Concerns uri) →
        let called := ((Scene.start (some workspace) window world).play outside before).2.pipeline
        ((∀ move ∈ after, move.IsInOrder) ∨ 0 < window ∨
          ∀ entry ∈ called.agenda, ∀ ticket, entry.action ≠ .ask uri ticket) →
        workspace.document? uri = some document →
        ∃ run result shown, run.uri = uri ∧ run.trigger = .push ∧
          .begun (Agenda.after called.now window) run ∈ story.1 ∧
          builds run.generation story.1 = [result] ∧
          lastPublication uri story.1 =
            some ⟨shown, run, .deliver (document.diagnostics result.output)⟩)) := by
  intro story
  have settling : Settling story.1 story.2 := settling_play outside workspace window world timely
  have startOnTime := Scene.start_onTime (τ := τ) (some workspace) window world
  refine ⟨?_, fun idle => ⟨?_, ?_⟩⟩
  · obtain ⟨rest, passing, restTimely, idle⟩ :=
      Scene.exists_rest outside story.2 (Scene.onTime_play outside startOnTime timely)
    refine ⟨rest, passing, (Scene.timely_append outside _ moves rest).mpr ⟨timely, restTimely⟩, ?_⟩
    rw [Scene.play_append]
    exact idle
  · intro front time run back document parted open? running last resolved
    have increasing := settling.traced.numbered.increasing
    rw [parted] at increasing last
    have stands := standing_of_last increasing open? running last
    rw [← parted] at stands
    have found := document?_play outside workspace window world moves resolved
    exact ⟨fun pushed => settling.push_at_rest idle stands pushed found,
      fun pulled => settling.pull_cleared stands pulled found⟩
  · intro before uri version after document parted others called last resolved
    subst parted
    obtain ⟨run, stands, pushed, begun⟩ := push_of_last_change outside workspace window world timely
      others last idle
    obtain ⟨rfl, -⟩ := begun_of_standing stands
    obtain ⟨result, shown, built, published⟩ := settling.push_at_rest idle stands pushed
      (document?_play outside workspace window world _ resolved)
    exact ⟨run, result, shown, rfl, pushed, begun, built, published⟩

end Story

/-- A change supersedes a push whose build still runs: the result of its own push is shown. -/
theorem change_supersedes_running_push :
    let moves : List (Move Unit Unit) := [.push Sample.uri, .perform 0, .change Sample.uri 1,
      .wait 3, .perform 0, .perform 0, .wait 5, .perform 0]
    (Scene.start (some Sample.workspace) 3 ()).Timely Sample.outside moves ∧
      ∃ run result shown, run.uri = Sample.uri ∧ run.trigger = .push ∧
        .begun 3 run ∈ (Sample.story 3 moves).1 ∧
        builds run.generation (Sample.story 3 moves).1 = [result] ∧
        lastPublication Sample.uri (Sample.story 3 moves).1 = some ⟨shown, run, .deliver []⟩ := by
  intro moves
  have timely : (Scene.start (some Sample.workspace) 3 ()).Timely Sample.outside moves := by
    decide +kernel
  obtain ⟨document, resolved⟩ : ∃ document, Sample.workspace.document? Sample.uri = some document :=
    Option.isSome_iff_exists.mp (by decide +kernel)
  have rest : (Sample.story 3 moves).2.pipeline.agenda = [] := by decide +kernel
  obtain ⟨run, result, shown, uri, pushed, begun, built, published⟩ :=
    ((last_trigger_decides Sample.outside Sample.workspace 3 () timely).2 rest).2
      [.push Sample.uri, .perform 0] Sample.uri 1 _ document rfl (by simp [Move.Concerns])
      (.inr (.inl (by decide))) resolved
  refine ⟨timely, run, result, shown, uri, pushed, begun, built, ?_⟩
  have last : lastPublication Sample.uri (Sample.story 3 moves).1 =
      some ⟨8, ⟨Sample.uri, 2, .push⟩, .deliver []⟩ := by decide +kernel
  have same := published.symm.trans last
  rw [last]
  injection same with same
  injection same with same own
  rw [same, own]

/-- A window of sixty years is over after thirty: no push begins when it should be over. -/
theorem long_window_cut_short :
    let window := 60 * 365 * 86400000
    let moves : List (Move Unit Unit) := [.change Sample.uri 1, .wait (30 * 365 * 86400000),
      .perform 0, .perform 0, .wait 5, .perform 0]
    (Scene.start (some Sample.workspace) window ()).Timely Sample.outside moves ∧
      (Sample.story window moves).2.pipeline.agenda = [] ∧
      ∀ run, .begun (0 + window) run ∉ (Sample.story window moves).1 := by
  intro window moves
  refine ⟨by decide +kernel, by decide +kernel, fun run member => ?_⟩
  have numbers : generations (Sample.story window moves).1 = [1] := by decide +kernel
  have early : .begun (30 * 365 * 86400000) ⟨Sample.uri, 1, .push⟩ ∈ (Sample.story window moves).1 := by
    decide +kernel
  have number : run.generation = 1 := by simpa [numbers] using generation_mem member
  have increasing : (generations (Sample.story window moves).1).Pairwise (· < ·) := by
    rw [numbers]
    exact List.pairwise_singleton _ _
  obtain rfl := begun_unique increasing early member number.symm
  exact absurd member (by decide +kernel)

end AsmDiagnostics
