import AsmDiagnostics.Proofs.Pipeline.Standing
import AsmDiagnostics.Proofs.Pipeline.Tidy

/-!
# What the run that stands comes to

In a timely story the run that stands for a document is on its way: a push waits for its start,
waits for its build, or has published the result of its one build; a pull has cleared what is shown
for the document.  No other run publishes anything for that document any more.
-/

namespace AsmDiagnostics

variable {τ ω : Type}

namespace Happening

/-- An event that changes what is shown for a document; the result of a pull does not. -/
def publication? : Happening τ → Option (Event τ)
  | .seen event =>
      match event.deed with
      | .clear => some event
      | .deliver _ => if event.run.trigger.isPush then some event else none
      | _ => none
  | _ => none

def buildOf? (generation : Nat) : Happening τ → Option Build.Result
  | .started run result => if run.generation = generation then some result else none
  | _ => none

/-- A build that a run starts, or an event of the run. -/
def IsOf (run : Run τ) : Happening τ → Prop
  | .started own _ => own = run
  | .seen event => event.run = run
  | _ => False

/-- Neither a publication for the document of a run nor a build of the run. -/
def IsAside (run : Run τ) (happening : Happening τ) : Prop :=
  happening.buildOf? run.generation = none ∧
    ∀ event, happening.publication? = some event → event.run.uri ≠ run.uri

theorem publication?_seen {event found : Event τ}
    (h : (Happening.seen event).publication? = some found) : found = event := by
  unfold publication? at h
  dsimp only at h
  split at h
  · exact (Option.some.inj h).symm
  · split at h
    · exact (Option.some.inj h).symm
    · simp at h
  · simp at h

theorem isAside_of_silent {run : Run τ} {happening : Happening τ}
    (build : happening.buildOf? run.generation = none) (silent : happening.publication? = none) :
    happening.IsAside run := by
  refine ⟨build, fun event told => ?_⟩
  rw [silent] at told
  cases told

/-- A run leaves the documents of other runs alone. -/
theorem isAside_of_isOf {run other : Run τ} {happening : Happening τ} (own : happening.IsOf other)
    (uri : other.uri ≠ run.uri) (generation : other.generation ≠ run.generation) :
    happening.IsAside run := by
  cases happening with
  | started one result =>
      obtain rfl : one = other := own
      exact isAside_of_silent (if_neg generation) rfl
  | seen event =>
      obtain rfl : event.run = other := own
      refine ⟨rfl, ?_⟩
      intro found told
      rw [publication?_seen told]
      exact uri
  | _ => exact own.elim

end Happening

/-- The events that changed what is shown for a document, in order. -/
def publications (uri : Uri) (history : List (Happening τ)) : List (Event τ) :=
  (history.filterMap Happening.publication?).filter fun event => event.run.uri = uri

/-- The event that decides what is shown for a document. -/
def lastPublication (uri : Uri) (history : List (Happening τ)) : Option (Event τ) :=
  (publications uri history).getLast?

/-- What the builds come to that the run of a generation starts, in order. -/
def builds (generation : Nat) (history : List (Happening τ)) : List Build.Result :=
  history.filterMap (Happening.buildOf? generation)

/-! ## Histories that go on -/

section Histories

variable {history others : List (Happening τ)} {run : Run τ}

theorem standing_concat_begun (uri : Uri) (history : List (Happening τ)) (time : Nat) (run : Run τ) :
    standing uri (history ++ [.begun time run]) =
      if run.uri = uri then some run else standing uri history := standing_concat uri history _

theorem builds_append (generation : Nat) (history others : List (Happening τ)) :
    builds generation (history ++ others) = builds generation history ++ builds generation others :=
  List.filterMap_append

theorem publications_append (uri : Uri) (history others : List (Happening τ)) :
    publications uri (history ++ others) = publications uri history ++ publications uri others := by
  simp [publications]

theorem builds_of_aside (aside : ∀ happening ∈ others, happening.IsAside run) :
    builds run.generation others = [] :=
  List.filterMap_eq_nil_iff.mpr fun happening member => (aside happening member).1

theorem publications_of_aside (aside : ∀ happening ∈ others, happening.IsAside run) :
    publications run.uri others = [] := by
  rw [publications, List.filter_eq_nil_iff]
  intro event member
  obtain ⟨happening, told, found⟩ := List.mem_filterMap.mp member
  simpa using (aside happening told).2 event found

theorem builds_append_of_aside (aside : ∀ happening ∈ others, happening.IsAside run) :
    builds run.generation (history ++ others) = builds run.generation history := by
  rw [builds_append, builds_of_aside aside, List.append_nil]

theorem lastPublication_append_of_aside (aside : ∀ happening ∈ others, happening.IsAside run) :
    lastPublication run.uri (history ++ others) = lastPublication run.uri history := by
  rw [lastPublication, publications_append, publications_of_aside aside, List.append_nil]
  rfl

theorem lastPublication_append_of_none (uri : Uri) (history : List (Happening τ))
    (silent : ∀ happening ∈ others, happening.publication? = none) :
    lastPublication uri (history ++ others) = lastPublication uri history := by
  have nothing : others.filterMap Happening.publication? = [] := List.filterMap_eq_nil_iff.mpr silent
  simp [lastPublication, publications, nothing]

theorem lastPublication_append_of_some {uri : Uri} {event : Event τ}
    (h : lastPublication uri others = some event) :
    lastPublication uri (history ++ others) = some event := by
  unfold lastPublication at h ⊢
  rw [publications_append, List.getLast?_append, h]
  rfl

theorem lastPublication_concat (history : List (Happening τ)) (event : Event τ)
    (told : (Happening.seen event).publication? = some event) :
    lastPublication event.run.uri (history ++ [.seen event]) = some event := by
  apply lastPublication_append_of_some
  simp [lastPublication, publications, told]

end Histories

/-! ## Happenings of one run -/

namespace Pipeline

variable (outside : Outside ω) (world : ω) (p : Pipeline τ) (run : Run τ)

theorem deliver_isOf (diagnostics : List Diagnostic) :
    ∀ event ∈ (p.deliver run diagnostics).1, event.run = run := by
  intro event member
  unfold deliver at member
  dsimp only at member
  split at member
  · cases member
  · rw [List.mem_singleton.mp member]
    rfl

theorem lastEvents_isOf (document : DocumentRef) (result : Build.Result) :
    ∀ event ∈ p.lastEvents run document result, event.run = run := by
  intro event member
  rcases List.mem_append.mp member with complained | delivered
  · obtain ⟨fault, -, rfl⟩ := List.mem_map.mp complained
    rfl
  · exact deliver_isOf p run _ event delivered

theorem seen_isOf {events : List (Event τ)} (own : ∀ event ∈ events, event.run = run) :
    ∀ happening ∈ events.map Happening.seen, happening.IsOf run := by
  intro happening member
  obtain ⟨event, told, rfl⟩ := List.mem_map.mp member
  exact own event told

theorem execute_isOf : ∀ happening ∈ (p.execute outside world run).told, happening.IsOf run := by
  have opens (command : Build.Command) (result : Build.Result) :
      ∀ happening ∈ [.seen (p.eventOf run .clear), .started run result,
        .seen (p.eventOf run (.build command))], Happening.IsOf run happening := by
    simp [Happening.IsOf, eventOf]
  rcases execute_cases outside world p run with ⟨-, executed⟩ |
    ⟨_, document, command, result, _, _, -, -, -, ⟨-, executed⟩ | ⟨-, executed⟩⟩
  · rw [executed]
    exact seen_isOf run (deliver_isOf p run _)
  · rw [executed]
    exact List.forall_mem_append.mpr
      ⟨opens command result, seen_isOf run (lastEvents_isOf p run document result)⟩
  · rw [executed]
    exact opens command result

/-- The tasks of other runs stay as they are when a run is executed. -/
theorem mem_execute_of_other {entry : Planned (Task τ)} (other : entry.action.run? ≠ some run) :
    entry ∈ (p.execute outside world run).pipeline.agenda ↔ entry ∈ p.agenda := by
  rcases execute_cases outside world p run with ⟨-, executed⟩ |
    ⟨_, document, _, result, delay, _, -, -, -, ⟨-, executed⟩ | ⟨-, executed⟩⟩
  · rw [executed]
    exact Iff.rfl
  · rw [executed]
    exact Iff.rfl
  · rw [executed]
    refine (mem_plan p delay _ entry).trans (or_iff_right ?_)
    rintro rfl
    exact other rfl

theorem document?_congr {p rest : Pipeline τ} (same : rest.workspace? = p.workspace?) (uri : Uri) :
    rest.document? uri = p.document? uri := by
  unfold document?
  rw [same]

end Pipeline

/-! ## The outcome of a run -/

/-- How far the run that stands for a document has come. -/
inductive Outcome (history : List (Happening τ)) (p : Pipeline τ) (document : DocumentRef)
    (run : Run τ) : Prop where
  /-- A push waits for its start. -/
  | waiting (entry : Planned (Task τ)) (member : entry ∈ p.agenda) (task : entry.action = .start run)
      (pushed : run.trigger = .push) (built : builds run.generation history = [])
  /-- A push waits for its build. -/
  | building (entry : Planned (Task τ)) (result : Build.Result) (member : entry ∈ p.agenda)
      (task : entry.action = .finish run document result) (pushed : run.trigger = .push)
      (built : builds run.generation history = [result])
  /-- A push has published the result of its build. -/
  | delivered (result : Build.Result) (time : Nat) (free : run ∉ p.carried)
      (pushed : run.trigger = .push) (built : builds run.generation history = [result])
      (shown : lastPublication run.uri history =
        some ⟨time, run, .deliver (document.diagnostics result.output)⟩)
  /-- A pull has cleared what was shown. -/
  | cleared (time : Nat) (pulled : run.trigger ≠ .push)
      (shown : lastPublication run.uri history = some ⟨time, run, .clear⟩)

/-- The outcome stays when others do something and the tasks of a push stay as they are. -/
theorem Outcome.aside {history others : List (Happening τ)} {p rest : Pipeline τ}
    {document : DocumentRef} {run : Run τ} (h : Outcome history p document run)
    (aside : ∀ happening ∈ others, happening.IsAside run)
    (same : run.trigger = .push → ∀ entry, entry.action.run? = some run →
      (entry ∈ rest.agenda ↔ entry ∈ p.agenda)) : Outcome (history ++ others) rest document run := by
  cases h with
  | waiting entry member task pushed built =>
      refine .waiting entry ((same pushed entry ?_).mpr member) task pushed ?_
      · rw [task]
        rfl
      · rw [builds_append_of_aside aside, built]
  | building entry result member task pushed built =>
      refine .building entry result ((same pushed entry ?_).mpr member) task pushed ?_
      · rw [task]
        rfl
      · rw [builds_append_of_aside aside, built]
  | delivered result time free pushed built shown =>
      refine .delivered result time ?_ pushed ?_ ?_
      · intro carries
        obtain ⟨entry, waits, own⟩ := Pipeline.mem_carried.mp carries
        exact free (Pipeline.mem_carried.mpr ⟨entry, (same pushed entry own).mp waits, own⟩)
      · rw [builds_append_of_aside aside, built]
      · rw [lastPublication_append_of_aside aside, shown]
  | cleared time pulled shown =>
      refine .cleared time pulled ?_
      rw [lastPublication_append_of_aside aside, shown]

theorem Outcome.still {history : List (Happening τ)} {p rest : Pipeline τ} {document : DocumentRef}
    {run : Run τ} (h : Outcome history p document run)
    (same : run.trigger = .push → ∀ entry, entry.action.run? = some run →
      (entry ∈ rest.agenda ↔ entry ∈ p.agenda)) : Outcome history rest document run := by
  have kept : Outcome (history ++ []) rest document run :=
    h.aside (fun _ member => nomatch member) same
  rw [List.append_nil] at kept
  exact kept

/-! ## One run -/

namespace Outcome

variable (outside : Outside ω) (world : ω) {history : List (Happening τ)} {p : Pipeline τ}
  {run : Run τ} {workspace : Workspace} {document : DocumentRef}

theorem builds_seen (generation : Nat) (events : List (Event τ)) :
    builds generation (events.map Happening.seen) = [] := by
  refine List.filterMap_eq_nil_iff.mpr fun happening member => ?_
  obtain ⟨event, -, rfl⟩ := List.mem_map.mp member
  rfl

/-- The build of a push is over, and the push is current: its result is published. -/
theorem lastEvents_push {result : Build.Result} (pushed : run.trigger = .push) (free : run ∉ p.carried)
    (current : p.inFlight.current? run.uri = some run.generation)
    (built : builds run.generation history = [result]) :
    Outcome (history ++ (p.lastEvents run document result).map .seen) (p.finished run)
      document run := by
  refine .delivered result p.now free pushed ?_ ?_
  · rw [builds_append, built, builds_seen]
    rfl
  · rw [Pipeline.lastEvents, Pipeline.deliver_events_of_current p run _ current,
      List.map_append, ← List.append_assoc]
    apply lastPublication_concat _ (p.eventOf run (.deliver (document.diagnostics result.output)))
    simp [Happening.publication?, Pipeline.eventOf, pushed, Trigger.isPush]

/-- A push that is current starts: it waits for its one build, or publishes the result at once. -/
theorem execute_push (pushed : run.trigger = .push) (free : run ∉ p.carried)
    (current : p.inFlight.current? run.uri = some run.generation)
    (unbuilt : builds run.generation history = [])
    (resolved : p.document? run.uri = some (workspace, document)) :
    Outcome (history ++ (p.execute outside world run).told) (p.execute outside world run).pipeline
      document run := by
  rcases Pipeline.execute_cases outside world p run with ⟨none, -⟩ |
    ⟨root, own, command, result, delay, _, found, chosen, ran, executed⟩
  · rw [resolved] at none
    simp at none
  · rw [resolved] at found
    obtain ⟨rfl, rfl⟩ : workspace = root ∧ document = own := by simpa using found
    have started : builds run.generation (history ++ [.seen (p.eventOf run .clear),
        .started run result, .seen (p.eventOf run (.build command))]) = [result] := by
      rw [builds_append, unbuilt]
      simp [builds, Happening.buildOf?, List.filterMap_cons]
    rcases executed with ⟨-, executed⟩ | ⟨-, executed⟩
    · rw [executed, ← List.append_assoc]
      exact lastEvents_push pushed free current started
    · rw [executed]
      exact .building _ result ((Pipeline.mem_plan p delay _ _).mpr (.inl rfl)) rfl pushed started

/-- Neither a complaint nor the answer of a pull is a publication. -/
theorem silent_of_pull {ticket : τ} (pulled : run.trigger = .pull ticket)
    (document : DocumentRef) (result : Build.Result) :
    ∀ event ∈ p.lastEvents run document result, (Happening.seen event).publication? = none := by
  rw [Pipeline.lastEvents, Pipeline.deliver_events_of_pull p run pulled]
  intro event member
  rcases List.mem_append.mp member with complained | answered
  · obtain ⟨fault, -, rfl⟩ := List.mem_map.mp complained
    rfl
  · rw [List.mem_singleton.mp answered]
    simp [Happening.publication?, Pipeline.eventOf, pulled, Trigger.isPush]

theorem clear_shown {others : List (Happening τ)}
    (silent : ∀ happening ∈ others, happening.publication? = none) :
    lastPublication run.uri (history ++ .seen (p.eventOf run .clear) :: others) =
      some (p.eventOf run .clear) := by
  rw [List.append_cons, lastPublication_append_of_none run.uri _ silent]
  exact lastPublication_concat history (p.eventOf run .clear) rfl

/-- A pull clears what is shown, and its answer shows nothing. -/
theorem execute_pull {ticket : τ} (pulled : run.trigger = .pull ticket)
    (resolved : p.document? run.uri = some (workspace, document)) :
    Outcome (history ++ (p.execute outside world run).told) (p.execute outside world run).pipeline
      document run := by
  refine .cleared p.now (by simp [pulled]) ?_
  rcases Pipeline.execute_cases outside world p run with ⟨none, -⟩ |
    ⟨_, own, command, result, _, _, -, -, -, ⟨-, executed⟩ | ⟨-, executed⟩⟩
  · rw [resolved] at none
    simp at none
  · rw [executed]
    refine clear_shown (List.forall_mem_cons.mpr ⟨rfl, List.forall_mem_cons.mpr ⟨rfl, ?_⟩⟩)
    intro happening member
    obtain ⟨event, told, rfl⟩ := List.mem_map.mp member
    exact silent_of_pull pulled own result event told
  · rw [executed]
    exact clear_shown (by simp [Happening.publication?, Pipeline.eventOf])

end Outcome

/-- Every run that stands for a document that can be built has its outcome. -/
def Outcomes (history : List (Happening τ)) (p : Pipeline τ) : Prop :=
  ∀ run workspace document, standing run.uri history = some run →
    p.document? run.uri = some (workspace, document) → Outcome history p document run

def BuildsBegun (history : List (Happening τ)) : Prop :=
  ∀ run result, .started run result ∈ history → ∃ time, .begun time run ∈ history

namespace Outcomes

variable {history : List (Happening τ)} {p rest : Pipeline τ}

theorem start (workspace? : Option Workspace) (window : Nat) :
    Outcomes [] (Pipeline.start workspace? window : Pipeline τ) := by
  intro run workspace document stands
  simp [standing] at stands

/-- No task of a run comes or goes. -/
theorem still (h : Outcomes history p) (workspace : rest.workspace? = p.workspace?)
    (same : ∀ entry run, entry.action.run? = some run → (entry ∈ rest.agenda ↔ entry ∈ p.agenda)) :
    Outcomes history rest := by
  intro run root document stands resolved
  rw [Pipeline.document?_congr workspace] at resolved
  exact (h run root document stands resolved).still fun _ entry own => same entry run own

theorem plan_other (h : Outcomes history p) (delay : Nat) {task : Task τ}
    (none : task.run? = none) : Outcomes history (p.plan delay task) := by
  refine h.still rfl fun entry run own => ?_
  rw [Pipeline.mem_plan]
  apply or_iff_right
  rintro rfl
  rw [none] at own
  simp at own

theorem close (h : Outcomes history p) (uri : Uri) :
    Outcomes (history ++ [.closed uri]) (p.close uri) := by
  intro run workspace document stands resolved
  rw [standing_concat] at stands
  simp only [Happening.standsAfter] at stands
  split at stands
  · simp at stands
  · rename_i other
    have root : (p.close uri).document? run.uri = p.document? run.uri :=
      Pipeline.document?_congr (Pipeline.abortPush_workspace? p uri) run.uri
    refine (h run workspace document stands (root ▸ resolved)).aside ?_ ?_
    · intro happening member
      rw [List.mem_singleton.mp member]
      exact Happening.isAside_of_silent rfl rfl
    · exact fun _ entry own => Pipeline.mem_abortPush_of_other own (Ne.symm other)

theorem shutdown (_ : Outcomes history p) : Outcomes (history ++ [.stopped]) p.shutdown := by
  intro run workspace document stands
  rw [standing_concat] at stands
  simp [Happening.standsAfter] at stands

/-- A run begins for one document; those that stand for other documents keep their outcomes. -/
theorem begin_other (h : Outcomes history p) {uri : Uri} {trigger : Trigger τ} {run : Run τ}
    {workspace : Workspace} {document : DocumentRef} (other : run.uri ≠ uri)
    (stands : standing run.uri (history ++ [.begun p.now (p.begin uri trigger).1]) = some run)
    (resolved : p.document? run.uri = some (workspace, document)) :
    Outcome (history ++ [.begun p.now (p.begin uri trigger).1]) (p.begin uri trigger).2
      document run := by
  rw [standing_concat_begun, if_neg (fun same => other same.symm)] at stands
  refine (h run workspace document stands resolved).aside ?_ ?_
  · intro happening member
    rw [List.mem_singleton.mp member]
    exact Happening.isAside_of_silent rfl rfl
  · exact fun _ entry own => Pipeline.mem_abortPush_of_other own other

/-- The new push waits for its start. -/
theorem push (h : Outcomes history p) (unbuilt : builds p.inFlight.nextGeneration history = [])
    (uri : Uri) : Outcomes (history ++ [.begun p.now (p.begin uri .push).1]) (p.push uri) := by
  intro run workspace document stands resolved
  have root : (p.push uri).document? run.uri = p.document? run.uri :=
    Pipeline.document?_congr (Pipeline.begin_workspace? p uri .push) run.uri
  rw [root] at resolved
  rw [Pipeline.push_eq]
  by_cases same : run.uri = uri
  · rw [standing_concat_begun, if_pos (show (p.begin uri .push).1.uri = run.uri from same.symm)]
      at stands
    obtain rfl := Option.some.inj stands
    refine .waiting _ ((Pipeline.mem_plan _ 0 _ _).mpr (.inl rfl)) rfl rfl ?_
    exact (builds_append _ history _).trans (List.append_eq_nil_iff.mpr ⟨unbuilt, rfl⟩)
  · have kept := h.begin_other same stands resolved
    refine kept.still fun _ entry own => ?_
    refine (Pipeline.mem_plan _ 0 _ entry).trans (or_iff_right ?_)
    rintro rfl
    exact same (congrArg Run.uri (Option.some.inj own)).symm

/-- A question gets its run, which clears what is shown. -/
theorem ask (h : Outcomes history p) (outside : Outside ω) (world : ω) (uri : Uri) (ticket : τ)
    (bounded : ∀ run, standing run.uri history = some run →
      run.generation ≤ p.inFlight.lastGeneration) :
    Outcomes (history ++ (p.perform outside world (.ask uri ticket)).told)
      (p.perform outside world (.ask uri ticket)).pipeline := by
  have told : (p.perform outside world (.ask uri ticket)).told =
      [.begun p.now (p.begin uri (.pull ticket)).1] ++ ((p.begin uri (.pull ticket)).2.execute
        outside world (p.begin uri (.pull ticket)).1).told := by
    rw [Pipeline.perform_ask]
    rfl
  intro run workspace document stands resolved
  have root : (p.perform outside world (.ask uri ticket)).pipeline.document? run.uri =
      p.document? run.uri :=
    Pipeline.document?_congr (Pipeline.perform_frame outside world p (.ask uri ticket)).2.1 run.uri
  rw [root] at resolved
  have begun : (p.begin uri (.pull ticket)).2.document? run.uri = some (workspace, document) :=
    (Pipeline.document?_congr (Pipeline.begin_workspace? p uri _) run.uri).trans resolved
  rw [told, ← List.append_assoc] at stands ⊢
  rw [Pipeline.perform_ask_pipeline]
  rw [standing_append_of_quiet (Pipeline.execute_quiet outside world _ _)] at stands
  by_cases same : run.uri = uri
  · rw [standing_concat_begun,
      if_pos (show (p.begin uri (.pull ticket)).1.uri = run.uri from same.symm)] at stands
    obtain rfl := Option.some.inj stands
    exact Outcome.execute_pull outside world rfl begun
  · have before : standing run.uri history = some run := by
      rw [standing_concat_begun, if_neg (fun equal => same equal.symm)] at stands
      exact stands
    refine (h.begin_other same stands resolved).aside ?_ ?_
    · intro happening member
      refine Happening.isAside_of_isOf (Pipeline.execute_isOf outside world _ _ happening member)
        (Ne.symm same) ?_
      exact Nat.ne_of_gt (Nat.lt_succ_of_le (bounded run before))
    · intro _ entry own
      apply Pipeline.mem_execute_of_other outside world _ _
      rw [own]
      intro equal
      exact same (congrArg Run.uri (Option.some.inj equal))

variable {s : Scene τ ω} {place : Nat} {entry : Planned (Task τ)}

theorem without_other (h : Outcomes history s.pipeline)
    (found : s.pipeline.agenda[place]? = some entry) (none : entry.action.run? = none) :
    Outcomes history (s.without place) := by
  refine h.still rfl fun other run own => Scene.mem_without found ?_ own
  rw [none]
  intro carries
  cases carries

/-- The run of the performed task stands: it goes on, and all others keep their outcomes. -/
theorem of_own (h : Outcomes history s.pipeline) (numbered : Numbered history s.pipeline.inFlight)
    (found : s.pipeline.agenda[place]? = some entry) {run : Run τ}
    (own : entry.action.run? = some run) (stands : standing run.uri history = some run)
    {others : List (Happening τ)} (quiet : ∀ happening ∈ others, happening.IsQuiet)
    (isOf : ∀ happening ∈ others, happening.IsOf run)
    (workspace : rest.workspace? = s.pipeline.workspace?)
    (same : ∀ other : Planned (Task τ), other.action.run? ≠ some run →
      (other ∈ rest.agenda ↔ other ∈ (s.without place).agenda))
    (next : ∀ root document, s.pipeline.document? run.uri = some (root, document) →
      Outcome history s.pipeline document run → Outcome (history ++ others) rest document run) :
    Outcomes (history ++ others) rest := by
  intro other root document otherStands resolved
  rw [standing_append_of_quiet quiet] at otherStands
  rw [Pipeline.document?_congr workspace] at resolved
  have outcome := h other root document otherStands resolved
  by_cases equal : other.uri = run.uri
  · obtain rfl : other = run := by
      rw [equal] at otherStands
      exact Option.some.inj (otherStands.symm.trans stands)
    exact next root document resolved outcome
  · have apart : run.generation ≠ other.generation := by
      intro number
      obtain ⟨-, _, begun⟩ := begun_of_standing stands
      obtain ⟨-, _, otherBegun⟩ := begun_of_standing otherStands
      exact equal (congrArg Run.uri
        (begun_unique numbered.increasing otherBegun begun number.symm))
    refine outcome.aside ?_ ?_
    · intro happening member
      exact Happening.isAside_of_isOf (isOf happening member) (Ne.symm equal) apart
    · intro _ waits carries
      have different : some run ≠ some other := by
        intro all
        exact equal (congrArg Run.uri (Option.some.inj all)).symm
      rw [same waits (by rw [carries]; exact Ne.symm different)]
      exact Scene.mem_without found (by rw [own]; exact different) carries

end Outcomes

end AsmDiagnostics
