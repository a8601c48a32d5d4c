import Mathlib.Data.List.Perm.Lattice
import AsmDiagnostics.Proofs.Pipeline.Journeys
import AsmDiagnostics.Proofs.Pipeline.Passing
import AsmDiagnostics.Proofs.Message.Answers
import AsmDiagnostics.Session

/-!
# Every question is answered with its own result

A pull shares the flights and the way of its run with pushes, and it loses its flight when it is
superseded, closed or shut down.  None of that keeps it from its end: each question that is asked gets
one run, and each such run answers once, with the diagnostics of the one build that it has started
itself.
-/

namespace AsmDiagnostics

variable {τ ω : Type}

/-- The document and the ticket of a question. -/
abbrev Question (τ : Type) := Uri × τ

def Run.question? (run : Run τ) : Option (Question τ) :=
  match run.trigger with
  | .push => none
  | .pull ticket => some (run.uri, ticket)

/-- The event of a run whose ticket is the id of a request. -/
def Event.withId (idOf : τ → Json) (event : Event τ) : Event Json :=
  let trigger := match event.run.trigger with
    | .push => .push
    | .pull ticket => .pull (idOf ticket)
  ⟨event.time, ⟨event.run.uri, event.run.generation, trigger⟩, event.deed⟩

namespace Happening

def answering? : Happening τ → Option (Run τ)
  | .seen ⟨_, run, .deliver _⟩ => if run.trigger.isPush then none else some run
  | _ => none

def asking? : Happening τ → Option (Run τ)
  | .begun _ run => if run.trigger.isPush then none else some run
  | _ => none

end Happening

def answering (history : List (Happening τ)) : List (Run τ) :=
  history.filterMap Happening.answering?

def asking (history : List (Happening τ)) : List (Run τ) := history.filterMap Happening.asking?

def questionsOf (runs : List (Run τ)) : List (Question τ) := runs.filterMap Run.question?

def Act.question? : Act τ ω → Option (Question τ)
  | .call (.pull uri ticket) => some (uri, ticket)
  | _ => none

def questions (acts : List (Act τ ω)) : List (Question τ) := acts.filterMap Act.question?

def Task.question? : Task τ → Option (Question τ)
  | .ask uri ticket => some (uri, ticket)
  | _ => none

def Pipeline.unasked (p : Pipeline τ) : List (Question τ) :=
  p.agenda.filterMap fun entry => entry.action.question?

def Stage.waiting (s : Stage τ ω) : List (Run τ) :=
  (s.posts.map Post.run).filter fun run => !run.trigger.isPush

/-! ## Each question gets a run -/

section Lists

variable {history others : List (Happening τ)}

theorem answering_append (history others : List (Happening τ)) :
    answering (history ++ others) = answering history ++ answering others := List.filterMap_append

theorem asking_append (history others : List (Happening τ)) :
    asking (history ++ others) = asking history ++ asking others := List.filterMap_append

theorem questionsOf_append (first second : List (Run τ)) :
    questionsOf (first ++ second) = questionsOf first ++ questionsOf second := List.filterMap_append

theorem asking_of_quiet (quiet : ∀ happening ∈ others, happening.IsQuiet) : asking others = [] :=
  List.filterMap_eq_nil_iff.mpr fun happening member => by
    have silent := quiet happening member
    cases happening <;> first | rfl | exact silent.elim

theorem mem_asking {run : Run τ} : run ∈ asking history ↔
    (∃ time, .begun time run ∈ history) ∧ run.trigger.isPush = false := by
  constructor
  · intro asks
    obtain ⟨happening, member, asked⟩ := List.mem_filterMap.mp asks
    unfold Happening.asking? at asked
    split at asked
    · rename_i time own
      split at asked
      · cases asked
      · rename_i pulled
        obtain rfl := Option.some.inj asked
        exact ⟨⟨time, member⟩, Bool.eq_false_iff.mpr pulled⟩
    · cases asked
  · rintro ⟨⟨time, begun⟩, pulled⟩
    exact List.mem_filterMap.mpr ⟨_, begun, by simp [Happening.asking?, pulled]⟩

theorem asking_generations (history : List (Happening τ)) :
    ((asking history).map Run.generation).Sublist (generations history) := by
  induction history with
  | nil => exact List.Sublist.refl _
  | cons happening history ih =>
      cases happening with
      | begun time run =>
          have first : generations (.begun time run :: history) =
              run.generation :: generations history := rfl
          rw [first]
          cases pushed : run.trigger.isPush with
          | true =>
              have none : asking (.begun time run :: history) = asking history := by
                simp [asking, Happening.asking?, pushed]
              rw [none]
              exact ih.cons _
          | false =>
              have some : asking (.begun time run :: history) = run :: asking history := by
                simp [asking, Happening.asking?, pushed]
              rw [some]
              exact ih.cons_cons _
      | _ => exact ih

end Lists

namespace Pipeline

variable (p : Pipeline τ)

theorem unasked_plan (delay : Nat) (task : Task τ) :
    (p.plan delay task).unasked.Perm (task.question?.toList ++ p.unasked) := by
  have moved := (Agenda.perm_add (Agenda.after p.now delay) task p.agenda).filterMap
    fun entry => entry.action.question?
  refine moved.trans (List.Perm.of_eq ?_)
  cases own : task.question? <;> simp [unasked, own]

/-- A question waits for its run whatever is aborted. -/
theorem unasked_filter {rest : Pipeline τ} (keep : Planned (Task τ) → Bool)
    (same : rest.agenda = p.agenda.filter keep)
    (keeps : ∀ entry ∈ p.agenda, entry.action.question?.isSome → keep entry = true) :
    rest.unasked = p.unasked := by
  unfold unasked
  rw [same, List.filterMap_filter]
  refine List.filterMap_congr fun entry member => ?_
  cases asks : entry.action.question? with
  | none => simp
  | some question => simp [keeps entry member (by simp [asks])]

theorem unasked_abortPush (uri : Uri) : (p.abortPush uri).unasked = p.unasked := by
  unfold abortPush
  split
  · rename_i generation current
    refine unasked_filter p _ rfl fun entry _ asks => ?_
    cases task : entry.action <;> simp [task, Task.question?, Task.isPushOf] at asks ⊢
  · rfl

theorem unasked_begin (uri : Uri) (trigger : Trigger τ) :
    (p.begin uri trigger).2.unasked = p.unasked := unasked_abortPush p uri

theorem unasked_shutdown : p.shutdown.unasked = p.unasked := by
  have all (flights : List Flight) (p : Pipeline τ) :
      (flights.foldl (fun rest flight => rest.abortPush flight.uri) p).unasked = p.unasked := by
    induction flights generalizing p with
    | nil => rfl
    | cons flight flights ih => exact (ih _).trans (unasked_abortPush p flight.uri)
  exact all p.inFlight.flights p

theorem unasked_push (uri : Uri) : (p.push uri).unasked.Perm p.unasked := by
  rw [push_eq, ← unasked_begin p uri .push]
  exact unasked_plan _ 0 _

/-- No run that has begun asks anything. -/
theorem leg_unasked (outside : Outside ω) (world : ω) (post : Post τ) :
    (post.leg outside world p).pipeline.unasked.Perm p.unasked := by
  cases leg_leaves outside world p post with
  | ended pipeline =>
      rw [pipeline]
      exact List.Perm.refl _
  | paused _ _ pipeline => rw [pipeline]
  | building delay document result pipeline =>
      rw [pipeline]
      exact unasked_plan p delay _

theorem leg_asking (outside : Outside ω) (world : ω) (post : Post τ) :
    asking (post.leg outside world p).told = [] :=
  asking_of_quiet fun happening member => (leg_isOf outside world p post happening member).isQuiet

/-- A task that is a question begins its run. -/
theorem legOf_questions (outside : Outside ω) (world : ω) (task : Task τ) :
    (questionsOf (asking (p.legOf world task).told) ++ (p.legOf world task).pipeline.unasked).Perm
      (task.question?.toList ++ p.unasked) := by
  cases task with
  | wake uri generation =>
      simp only [legOf, wake]
      split
      · exact unasked_push { p with debouncer := p.debouncer.wake uri generation } uri
      · exact List.Perm.refl _
  | ask uri ticket =>
      have left := leg_unasked (p.begin uri (.pull ticket)).2 outside world
        (.start (p.begin uri (.pull ticket)).1)
      have told : asking (p.legOf world (.ask uri ticket)).told =
          [(p.begin uri (.pull ticket)).1] :=
        congrArg (_ :: ·) (leg_asking _ outside world (.start (p.begin uri (.pull ticket)).1))
      rw [told]
      exact (left.trans (List.Perm.of_eq (unasked_begin p uri _))).cons (uri, ticket)
  | start run =>
      rw [show p.legOf world (.start run) = (Post.start run).leg outside world p from rfl,
        leg_asking]
      exact leg_unasked p outside world (.start run)
  | finish run document result =>
      rw [show p.legOf world (.finish run document result) =
        (Post.finish run document result).leg outside world p from rfl, leg_asking]
      exact leg_unasked p outside world (.finish run document result)

end Pipeline

namespace Stage

variable (outside : Outside ω) (s : Stage τ ω)

/-- Each question waits for its run, or its run begins. -/
theorem act_questions (act : Act τ ω) :
    (questionsOf (asking (s.act outside act).1) ++ (s.act outside act).2.pipeline.unasked).Perm
      (act.question?.toList ++ s.pipeline.unasked) := by
  cases act with
  | call call =>
      cases call with
      | change uri version => exact Pipeline.unasked_plan _ _ _
      | close uri => exact List.Perm.of_eq (Pipeline.unasked_abortPush _ uri)
      | push uri => exact Pipeline.unasked_push _ uri
      | pull uri ticket => exact Pipeline.unasked_plan _ _ _
      | shutdown => exact List.Perm.of_eq (Pipeline.unasked_shutdown _)
  | wait millis => exact List.Perm.refl _
  | alter world => exact List.Perm.refl _
  | perform place =>
      rcases act_perform outside s place with nothing | ⟨entry, found, performed⟩
      · rw [nothing]
        exact List.Perm.refl _
      · rw [performed]
        refine ((s.without place).legOf_questions outside s.world entry.action).trans ?_
        have taken := (Scene.perm_without (s := ⟨s.world, s.pipeline, []⟩) found).filterMap
          fun entry => entry.action.question?
        refine (taken.trans (List.Perm.of_eq ?_)).symm
        cases own : entry.action.question? <;>
          simp [own, Pipeline.unasked, without, Scene.without]
  | resume place =>
      rcases act_resume outside s place with nothing | ⟨pause, -, resumed⟩
      · rw [nothing]
        exact List.Perm.refl _
      · rw [resumed]
        have told : asking (s.pipeline.goOn outside s.world pause).told = [] :=
          Pipeline.leg_asking _ outside s.world (.pause pause)
        simp only [walk, told]
        exact Pipeline.leg_unasked _ outside s.world (.pause pause)

theorem play_questions (acts : List (Act τ ω)) :
    (questionsOf (asking (s.play outside acts).1) ++
      (s.play outside acts).2.pipeline.unasked).Perm (questions acts ++ s.pipeline.unasked) := by
  induction acts generalizing s with
  | nil => exact List.Perm.refl _
  | cons act acts ih =>
      have first := s.act_questions outside act
      have rest := ih (s.act outside act).2
      have split : questions (act :: acts) = act.question?.toList ++ questions acts := by
        cases own : act.question? <;> simp [questions, own]
      rw [split, List.append_assoc]
      simp only [play_cons, asking_append, questionsOf_append, List.append_assoc]
      calc
        List.Perm _ _ := rest.append_left _
        List.Perm _ _ := List.perm_append_comm_assoc _ _ _
        List.Perm _ _ := first.append_left _
        List.Perm _ _ := List.perm_append_comm_assoc _ _ _

end Stage

/-! ## Each run for a question answers once -/

section Trails

variable {documented : Documented} {history : List (Happening τ)} {run : Run τ}

theorem Happening.isOf_of_answering? {happening : Happening τ}
    (answers : happening.answering? = some run) :
    ∃ time diagnostics, happening = .seen ⟨time, run, .deliver diagnostics⟩ ∧
      run.trigger.isPush = false := by
  unfold answering? at answers
  split at answers
  · rename_i time own diagnostics
    split at answers
    · cases answers
    · rename_i pulled
      obtain rfl := Option.some.inj answers
      exact ⟨time, diagnostics, rfl, Bool.eq_false_iff.mpr pulled⟩
  · cases answers

/-- What answers in a trail is what answers at all under that generation. -/
theorem answering_trail (generation : Nat) (history : List (Happening τ)) :
    answering (trail generation history) =
      (answering history).filter fun run => run.generation = generation := by
  unfold answering trail
  rw [List.filterMap_filter, List.filter_filterMap]
  congr 1
  funext happening
  cases answers : happening.answering? with
  | none => simp
  | some run =>
      obtain ⟨time, diagnostics, rfl, -⟩ := Happening.isOf_of_answering? answers
      simp [Happening.isOfGeneration, Option.filter]

/-- The whole journey of a pull answers once; that of a push answers nothing. -/
theorem Journey.answering {trail : List (Happening τ)} (journey : Journey documented run trail) :
    answering trail = if run.trigger.isPush then [] else [run] := by
  cases journey with
  | unfounded time nothing =>
      simp only [AsmDiagnostics.answering, List.filterMap_cons, Happening.answering?]
      cases run.trigger.isPush <;> rfl
  | built found cleared began told ended command result =>
      have last (diagnostics : List Diagnostic) :
          AsmDiagnostics.answering [Happening.seen ⟨ended, run, .deliver diagnostics⟩] =
            if run.trigger.isPush then [] else [run] := by
        simp only [AsmDiagnostics.answering, List.filterMap_cons, Happening.answering?]
        cases run.trigger.isPush <;> rfl
      rw [answering_append, answering_append, last]
      cases result.fault? <;> rfl

/-- A run that waits has not answered. -/
theorem Post.Fits.answering {post : Post τ} {trail : List (Happening τ)}
    (fits : post.Fits documented trail) : answering trail = [] := by
  cases fits <;> rfl

/-- What the build comes to that the run of a generation starts stands in its trail. -/
theorem builds_trail (generation : Nat) (history : List (Happening τ)) :
    builds generation (trail generation history) = builds generation history := by
  unfold builds trail
  rw [List.filterMap_filter]
  congr 1
  funext happening
  cases happening with
  | started run result => simp [Happening.isOfGeneration, Happening.buildOf?]
  | seen event => simp [Happening.buildOf?]
  | _ => rfl

end Trails

namespace Followed

variable {documented : Documented} {history : List (Happening τ)} {s : Stage τ ω}
  (h : Followed.On documented history s)

include h

/-- A pull that waits nowhere has come to its end. -/
theorem journey_of_pull {time : Nat} {run : Run τ} (begun : .begun time run ∈ history)
    (pulled : run.trigger.isPush = false) (free : run ∉ s.posts.map Post.run) :
    Journey documented run (trail run.generation history) := by
  rcases h.away time run begun free with whole | ⟨pushed, -⟩
  · exact whole
  · rw [pushed] at pulled
    cases pulled

theorem answering_of_waiting {post : Post τ} (member : post ∈ s.posts) :
    answering (trail post.run.generation history) = [] := (h.fits post member).answering

theorem mem_answering {run : Run τ} :
    run ∈ answering history ↔ run ∈ asking history ∧ run ∉ s.posts.map Post.run := by
  constructor
  · intro answers
    obtain ⟨happening, member, told⟩ := List.mem_filterMap.mp answers
    obtain ⟨time, diagnostics, rfl, pulled⟩ := Happening.isOf_of_answering? told
    refine ⟨mem_asking.mpr ⟨h.own _ member run rfl, pulled⟩, fun waits => ?_⟩
    obtain ⟨post, there, rfl⟩ := List.mem_map.mp waits
    have silent := h.answering_of_waiting there
    rw [answering_trail, List.filter_eq_nil_iff] at silent
    exact silent post.run answers (decide_eq_true rfl)
  · rintro ⟨asks, free⟩
    obtain ⟨⟨time, begun⟩, pulled⟩ := mem_asking.mp asks
    have last : run ∈ answering (trail run.generation history) := by
      rw [(h.journey_of_pull begun pulled free).answering, pulled]
      exact List.mem_singleton_self run
    rw [answering_trail] at last
    exact (List.mem_filter.mp last).1

/-- No run answers twice. -/
theorem answering_nodup : (answering history).Nodup := by
  refine List.nodup_iff_sublist.mpr fun run twice => ?_
  obtain ⟨asks, free⟩ := h.mem_answering.mp (twice.subset List.mem_cons_self)
  obtain ⟨⟨time, begun⟩, pulled⟩ := mem_asking.mp asks
  have once : answering (trail run.generation history) = [run] := by
    rw [(h.journey_of_pull begun pulled free).answering, pulled]
    rfl
  have both := twice.filter fun other => decide (other.generation = run.generation)
  rw [← answering_trail, once] at both
  simpa using both.length_le

theorem asking_nodup : (asking history).Nodup := by
  have apart : (generations history).Nodup :=
    h.numbered.increasing.imp fun less => Nat.ne_of_lt less
  exact .of_map _ (apart.sublist (asking_generations history))

/-- Every run for a question is on its way or has answered. -/
theorem answering_waiting : (answering history ++ s.waiting).Perm (asking history) := by
  have waiting : s.waiting.Nodup := by
    have apart : ((s.posts.map Post.run).map Run.generation).Nodup := by
      rw [List.map_map]
      exact h.distinct
    exact (List.Nodup.of_map _ apart).filter _
  have mem_waiting {run : Run τ} :
      run ∈ s.waiting ↔ run ∈ s.posts.map Post.run ∧ run.trigger.isPush = false := by
    simp [Stage.waiting]
  refine (List.perm_ext_iff_of_nodup ?_ h.asking_nodup).mpr fun run => ?_
  · refine h.answering_nodup.append waiting fun run answers waits => ?_
    exact (h.mem_answering.mp answers).2 (mem_waiting.mp waits).1
  · rw [List.mem_append, h.mem_answering, mem_waiting]
    constructor
    · rintro (⟨asks, -⟩ | ⟨waits, pulled⟩)
      · exact asks
      · obtain ⟨post, there, rfl⟩ := List.mem_map.mp waits
        exact mem_asking.mpr ⟨h.known post there, pulled⟩
    · intro asks
      by_cases waits : run ∈ s.posts.map Post.run
      · exact .inr ⟨waits, (mem_asking.mp asks).2⟩
      · exact .inl ⟨asks, waits⟩

/-- An answer is the result of the one build that its own run has started. -/
theorem own_result {time : Nat} {run : Run τ} {diagnostics : List Diagnostic}
    (told : .seen ⟨time, run, .deliver diagnostics⟩ ∈ history)
    (pulled : run.trigger.isPush = false) :
    (documented run.uri = none ∧ diagnostics = [] ∧ builds run.generation history = []) ∨
      ∃ workspace document result, documented run.uri = some (workspace, document) ∧
        builds run.generation history = [result] ∧
        diagnostics = document.diagnostics result.output := by
  have answers : run ∈ answering history :=
    List.mem_filterMap.mpr ⟨_, told, by simp [Happening.answering?, pulled]⟩
  obtain ⟨asks, free⟩ := h.mem_answering.mp answers
  obtain ⟨⟨start, begun⟩, -⟩ := mem_asking.mp asks
  have journey := h.journey_of_pull begun pulled free
  have there : .seen ⟨time, run, .deliver diagnostics⟩ ∈ trail run.generation history :=
    List.mem_filter.mpr ⟨told, by simp [Happening.isOfGeneration]⟩
  rw [← builds_trail]
  generalize trail run.generation history = whole at journey there
  cases journey with
  | unfounded other nothing =>
      have same : time = other ∧ diagnostics = [] := by simpa using there
      exact .inl ⟨nothing, same.2, rfl⟩
  | @built workspace document found cleared began told ended command result =>
      have one : builds run.generation (opening run cleared began command result) = [result] := by
        simp [builds, opening, List.filterMap_cons, Happening.buildOf?]
      refine .inr ⟨workspace, document, result, found, ?_, ?_⟩
      · rw [builds_append, builds_append, one]
        cases result.fault? <;> rfl
      · have same : time = ended ∧ diagnostics = document.diagnostics result.output := by
          cases faulty : result.fault? <;> simpa [opening, faulty] using there
        exact same.2

end Followed

/-- What the session sends for a pull shows nothing, or it is no publication at all. -/
theorem publication_of_pull {idOf : τ → Json} {event : Event τ} {message : Json}
    (pulled : event.run.trigger.isPush = false)
    (sent : Session.messageOf? (event.withId idOf) = some message)
    (published : Message.isPublication message = true) :
    message = Message.publishDiagnostics event.run.uri [] := by
  obtain ⟨time, ⟨uri, generation, trigger⟩, deed⟩ := event
  cases trigger with
  | push => cases pulled
  | pull ticket =>
      cases deed with
      | clear => exact (Option.some.inj sent).symm
      | build command => cases sent
      | complain text =>
          obtain rfl := Option.some.inj sent
          rw [Message.logError_not_publication] at published
          cases published
      | deliver diagnostics =>
          obtain rfl := Option.some.inj sent
          rw [Message.answer_not_publication (Message.answer_isAnswer _ _)] at published
          cases published

theorem questions_append (first second : List (Act τ ω)) :
    questions (first ++ second) = questions first ++ questions second := List.filterMap_append

/-- Nothing is asked while time passes. -/
theorem questions_of_passing {acts : List (Act τ ω)} (passing : ∀ act ∈ acts, act.IsPassing) :
    questions acts = [] :=
  List.filterMap_eq_nil_iff.mpr fun act member => by
    have passes := passing act member
    cases act <;> first | rfl | exact passes.elim

/-- Whatever calls come in and in whatever order the legs of all runs follow each other: each question
that has been asked waits for its run, or its run is on its way, or it has been answered, and no run
answers twice.  An answer is the result of the one build that this very run has started.  If the
session publishes anything for a pull, it is the empty list.  When time passes and the editor takes
what it is told, each question has been answered once in the end. -/
theorem questions_answered_once (outside : Outside ω) (workspace? : Option Workspace)
    (window : Nat) (world : ω) (acts : List (Act τ ω)) :
    let stage : Stage τ ω := .start workspace? window world
    let history := (stage.play outside acts).1
    let last := (stage.play outside acts).2
    (questionsOf (answering history ++ last.waiting) ++ last.pipeline.unasked).Perm
        (questions acts) ∧
      (answering history).Nodup ∧
      (∀ time run diagnostics, .seen ⟨time, run, .deliver diagnostics⟩ ∈ history →
        run.trigger.isPush = false →
        (documentedIn workspace? run.uri = none ∧ diagnostics = [] ∧
            builds run.generation history = []) ∨
          ∃ workspace document result,
            documentedIn workspace? run.uri = some (workspace, document) ∧
            builds run.generation history = [result] ∧
            diagnostics = document.diagnostics result.output) ∧
      (∀ event, .seen event ∈ history → event.run.trigger.isPush = false →
        ∀ (idOf : τ → Json) (message : Json),
          Session.messageOf? (event.withId idOf) = some message →
          Message.isPublication message = true →
          message = Message.publishDiagnostics event.run.uri []) ∧
      ∃ more : List (Act τ ω), (∀ act ∈ more, act.IsPassing) ∧ last.Due outside more ∧
        (questionsOf (answering (stage.play outside (acts ++ more)).1)).Perm (questions acts) := by
  intro stage history last
  have all (acts : List (Act τ ω)) :
      let played := stage.play outside acts
      (questionsOf (answering played.1 ++ played.2.waiting) ++ played.2.pipeline.unasked).Perm
        (questions acts) := by
    obtain ⟨-, followed⟩ := Stage.followed outside workspace? window world acts
    have asked := stage.play_questions outside acts
    have none : stage.pipeline.unasked = [] := rfl
    rw [none, List.append_nil] at asked
    exact ((followed.answering_waiting.filterMap _).append_right _).trans asked
  obtain ⟨-, followed⟩ := Stage.followed outside workspace? window world acts
  refine ⟨all acts, followed.answering_nodup, fun _ _ _ => followed.own_result,
    fun event _ pulled _ message => publication_of_pull pulled, ?_⟩
  · obtain ⟨more, passing, due, agenda, pauses⟩ := Stage.exists_rest outside last
    refine ⟨more, passing, due, ?_⟩
    have answered := all (acts ++ more)
    have rest : (stage.play outside (acts ++ more)).2 = (last.play outside more).2 := by
      rw [Stage.play_append]
    have waiting : (last.play outside more).2.waiting = [] := by
      rw [Stage.waiting, Stage.posts_at_rest agenda pauses]
      rfl
    have unasked : (last.play outside more).2.pipeline.unasked = [] := by
      simp [Pipeline.unasked, agenda]
    dsimp only at answered
    rw [rest, waiting, unasked, List.append_nil, List.append_nil, questions_append,
      questions_of_passing passing, List.append_nil] at answered
    exact answered

end AsmDiagnostics
