import AsmDiagnostics.Machine.Process
import Mathlib.Algebra.Ring.Nat

/-!
# How long a build takes

A build waits for each step that runs, and for none of them longer than the limit. So the whole of
it may take the limit once for each of its steps, and it can take as long as that.
-/

namespace AsmDiagnostics.Build

variable {World : Type}

/-- A step that was started, and what came of it. -/
structure Attempt (World : Type) where
  step : Step
  launched : Launch World

namespace Attempt

/-- How long the step is waited for. -/
def waiting (limit : Number.Duration) (a : Attempt World) : Nat := a.launched.waiting limit

def outcome (limit : Number.Duration) (a : Attempt World) : StepOutcome :=
  a.launched.outcome limit a.step.program

/-- The step is still going when its time is up. -/
def Outlasts (limit : Number.Duration) (a : Attempt World) : Prop :=
  ∃ course : Course World, a.launched = .started course ∧ course.outlasts limit = true

end Attempt

def attempts (launch : World → Step → Launch World) (limit : Number.Duration) :
    World → List Step → List (Attempt World)
  | _, [] => []
  | world, step :: rest =>
      let launched := launch world step
      let others :=
        if (launched.outcome limit step.program).succeeded then
          attempts launch limit (launched.after limit world) rest
        else []
      ⟨step, launched⟩ :: others

/-- How long steps are waited for together. -/
def waited (limit : Number.Duration) (all : List (Attempt World)) : Nat :=
  (all.map (Attempt.waiting limit)).sum

theorem Course.waiting_le (limit : Number.Duration) (c : Course World) :
    c.waiting limit ≤ limit.nanos := by
  unfold Course.waiting
  split
  · exact Nat.min_le_right _ _
  · exact Nat.le_refl _

theorem Course.waiting_of_outlasts {limit : Number.Duration} {c : Course World}
    (long : c.outlasts limit = true) : c.waiting limit = limit.nanos := by
  unfold Course.outlasts at long
  unfold Course.waiting
  split at long
  · exact Nat.min_eq_right (Nat.le_of_lt (of_decide_eq_true long))
  · rfl

theorem Course.outcome_of_outlasts {limit : Number.Duration} {c : Course World}
    (long : c.outlasts limit = true) (program : String) :
    c.outcome limit program = ⟨false, c.stdout limit.nanos, c.stderr limit.nanos,
      some (.timedOut program limit)⟩ := by
  simp only [Course.outcome, long, c.waiting_of_outlasts long, if_true]

theorem Attempt.waiting_le (limit : Number.Duration) (a : Attempt World) :
    a.waiting limit ≤ limit.nanos := by
  rcases a with ⟨step, _ | _ | course⟩
  · exact Nat.zero_le _
  · exact Nat.zero_le _
  · exact course.waiting_le limit

/-- Only a step that is still going at the limit is reported as too slow. -/
theorem Attempt.outlasts_of_timedOut {limit : Number.Duration} {a : Attempt World}
    {program : String} (slow : (a.outcome limit).fault? = some (.timedOut program limit)) :
    a.Outlasts limit := by
  rcases a with ⟨step, _ | _ | course⟩
  · exact absurd slow (by simp [Attempt.outcome, Launch.outcome, StepOutcome.failed])
  · exact absurd slow (by simp [Attempt.outcome, Launch.outcome, StepOutcome.failed])
  · refine ⟨course, rfl, ?_⟩
    simp only [Attempt.outcome, Launch.outcome, Course.outcome] at slow
    split at slow
    · assumption
    · split at slow
      · simp at slow
      · simp at slow

theorem outcomes_waitFor (launch : World → Step → Launch World) (limit : Number.Duration)
    (now : Timed World) (steps : List Step) :
    (outcomes (waitFor launch limit) now steps).1 =
        (attempts launch limit now.world steps).map (Attempt.outcome limit) ∧
      (outcomes (waitFor launch limit) now steps).2.elapsed =
        now.elapsed + waited limit (attempts launch limit now.world steps) := by
  induction steps generalizing now with
  | nil => exact ⟨rfl, rfl⟩
  | cons step rest ih =>
      have later := ih (waitFor launch limit now step).2
      simp only [outcomes, attempts]
      by_cases good : ((waitFor launch limit now step).1).succeeded = true
      · simp only [if_pos good]
        have same : ((launch now.world step).outcome limit step.program).succeeded = true := good
        rw [if_pos same]
        refine ⟨congrArg _ later.1, later.2.trans ?_⟩
        simp only [waited, List.map_cons, List.sum_cons, waitFor, Attempt.waiting, Nat.add_assoc]
      · simp only [if_neg good]
        have same : ¬ ((launch now.world step).outcome limit step.program).succeeded = true := good
        rw [if_neg same]
        exact ⟨rfl, rfl⟩

theorem steps_of_attempts (launch : World → Step → Launch World) (limit : Number.Duration)
    (world : World) (steps : List Step) :
    (attempts launch limit world steps).map Attempt.step <+: steps := by
  induction steps generalizing world with
  | nil => exact List.prefix_refl _
  | cons step rest ih =>
      simp only [attempts, List.map_cons]
      refine (List.prefix_cons_inj step).mpr ?_
      split
      · exact ih _
      · exact List.nil_prefix

/-- Nothing is started behind a step that does not succeed. -/
theorem failed_is_last {launch : World → Step → Launch World} {limit : Number.Duration}
    {world : World} {steps : List Step} {front back : List (Attempt World)} {a : Attempt World}
    (split : attempts launch limit world steps = front ++ a :: back)
    (failed : (a.outcome limit).succeeded = false) : back = [] := by
  induction steps generalizing world front with
  | nil => simp [attempts] at split
  | cons step rest ih =>
      simp only [attempts] at split
      cases front with
      | nil =>
          rw [List.nil_append, List.cons.injEq] at split
          obtain ⟨rfl, others⟩ := split
          have bad : ((launch world step).outcome limit step.program).succeeded = false := failed
          rw [if_neg (Bool.eq_false_iff.mp bad)] at others
          exact others.symm
      | cons first front =>
          rw [List.cons_append, List.cons.injEq] at split
          have others := split.2
          split at others
          · exact ih others
          · exact absurd others (by simp)

theorem waited_le (limit : Number.Duration) (all : List (Attempt World)) :
    waited limit all ≤ all.length * limit.nanos := by
  induction all with
  | nil => exact Nat.zero_le _
  | cons a rest ih =>
      have own := a.waiting_le limit
      simp only [waited, List.map_cons, List.sum_cons, List.length_cons, Nat.succ_mul] at ih ⊢
      omega

theorem run_waitFor (launch : World → Step → Launch World) (limit : Number.Duration)
    (now : Timed World) (c : Command) :
    (c.run (waitFor launch limit) now).1 =
        .ofOutcomes ((attempts launch limit now.world c.steps).map (Attempt.outcome limit)) ∧
      (c.run (waitFor launch limit) now).2.elapsed =
        now.elapsed + waited limit (attempts launch limit now.world c.steps) := by
  obtain ⟨left, spent⟩ := outcomes_waitFor launch limit now c.steps
  exact ⟨congrArg Result.ofOutcomes left, spent⟩

def Course.cutOff (limit : Number.Duration) (program : String) (c : Course World) : StepOutcome :=
  ⟨false, c.stdout limit.nanos, c.stderr limit.nanos, some (.timedOut program limit)⟩

/-- A step that goes on longer than the limit is the last one, and its output until then is kept. -/
theorem cut_at_the_limit {launch : World → Step → Launch World} {limit : Number.Duration}
    {world : World} {steps : List Step} {front back : List (Attempt World)} {step : Step}
    {course : Course World} (long : course.outlasts limit = true)
    (split : attempts launch limit world steps = front ++ ⟨step, .started course⟩ :: back) :
    back = [] ∧ (attempts launch limit world steps).map (Attempt.outcome limit) =
      front.map (Attempt.outcome limit) ++ [course.cutOff limit step.program] := by
  have own : Attempt.outcome limit ⟨step, .started course⟩ = course.cutOff limit step.program :=
    Course.outcome_of_outlasts long step.program
  obtain rfl := failed_is_last split (by rw [own]; rfl)
  exact ⟨rfl, by rw [split, List.map_append, List.map_singleton, own]⟩

theorem fault?_ofOutcomes_append (front : List StepOutcome) (last : StepOutcome) :
    (Result.ofOutcomes (front ++ [last])).fault? = last.fault? := by
  simp [Result.ofOutcomes]

theorem timedOut_iff_outlasts (launch : World → Step → Launch World) (limit : Number.Duration)
    (world : World) (steps : List Step) :
    (∃ program, (Result.ofOutcomes ((attempts launch limit world steps).map
        (Attempt.outcome limit))).fault? = some (.timedOut program limit)) ↔
      ∃ a ∈ attempts launch limit world steps, a.Outlasts limit := by
  constructor
  · rintro ⟨program, slow⟩
    rcases List.eq_nil_or_concat (attempts launch limit world steps) with empty | ⟨front, a, ends⟩
    · rw [empty] at slow
      simp [Result.ofOutcomes] at slow
    · rw [ends, List.concat_eq_append, List.map_append, List.map_singleton,
        fault?_ofOutcomes_append] at slow
      refine ⟨a, ?_, Attempt.outlasts_of_timedOut slow⟩
      rw [ends, List.concat_eq_append]
      exact List.mem_append_right front List.mem_cons_self
  · rintro ⟨⟨step, launched⟩, member, course, same, long⟩
    subst same
    obtain ⟨front, back, split⟩ := List.append_of_mem member
    rw [(cut_at_the_limit long split).2, fault?_ofOutcomes_append]
    exact ⟨step.program, rfl⟩

/-- A build waits for each step that runs until the limit, counted from the start of that step, so
that all of it may take the limit as often as it has steps. A step that goes on longer is cut off
there with what it has printed, and the build ends with it. -/
theorem each_step_has_the_whole_limit (launch : World → Step → Launch World)
    (limit : Number.Duration) (now : Timed World) (c : Command) :
    let tried := attempts launch limit now.world c.steps
    let ended := c.run (waitFor launch limit) now
    tried.map Attempt.step <+: c.steps ∧
      ended.2.elapsed = now.elapsed + (tried.map (Attempt.waiting limit)).sum ∧
      (∀ a ∈ tried, a.waiting limit ≤ limit.nanos) ∧
      ended.2.elapsed ≤ now.elapsed + tried.length * limit.nanos ∧
      (∀ front back step course, tried = front ++ ⟨step, .started course⟩ :: back →
        course.outlasts limit = true →
          back = [] ∧ course.waiting limit = limit.nanos ∧
            ended.1 = ⟨false,
              combinedOutput (front.map (Attempt.outcome limit) ++
                [course.cutOff limit step.program]),
              some (.timedOut step.program limit)⟩) ∧
      ((∃ program, ended.1.fault? = some (.timedOut program limit)) ↔
        ∃ a ∈ tried, a.Outlasts limit) := by
  intro tried ended
  obtain ⟨result, spent⟩ := run_waitFor launch limit now c
  refine ⟨steps_of_attempts launch limit now.world c.steps, spent, fun a _ => a.waiting_le limit,
    ?_, ?_, ?_⟩
  · exact Nat.le_trans (Nat.le_of_eq spent) (Nat.add_le_add_left (waited_le limit tried) _)
  · intro front back step course split long
    obtain ⟨last, kept⟩ := cut_at_the_limit long split
    refine ⟨last, course.waiting_of_outlasts long, result.trans ?_⟩
    rw [kept]
    simp [Result.ofOutcomes, Course.cutOff]
  · rw [result]
    exact timedOut_iff_outlasts launch limit now.world c.steps

/-- A process that takes as long as the limit allows, and ends well. -/
def Course.patient (limit : Number.Duration) (world : World) : Course World where
  duration? := some limit.nanos
  ending := .exited true
  stdout := fun _ => []
  stderr := fun _ => []
  world := fun _ => world

theorem Course.outcome_patient (limit : Number.Duration) (world : World) (program : String) :
    (Course.patient limit world).outcome limit program = ⟨true, [], [], none⟩ := by
  simp [Course.outcome, Course.patient, Course.outlasts]

theorem Course.waiting_patient (limit : Number.Duration) (world : World) :
    (Course.patient limit world).waiting limit = limit.nanos := Nat.min_self _

theorem attempts_patient (limit : Number.Duration) (world : World) (steps : List Step) :
    attempts (fun world _ => .started (.patient limit world)) limit world steps =
      steps.map fun step => ⟨step, .started (.patient limit world)⟩ := by
  induction steps with
  | nil => rfl
  | cons step rest ih =>
      simp only [attempts, Launch.outcome, Course.outcome_patient, if_true, List.map_cons]
      exact congrArg _ ih

/-- A build of any number of steps can take the limit for each of them and yet succeed. -/
theorem whole_limit_for_all_steps (limit : Number.Duration) (now : Timed World) (c : Command) :
    ∃ launch : World → Step → Launch World,
      (c.run (waitFor launch limit) now).1.succeeded = true ∧
        (c.run (waitFor launch limit) now).2.elapsed =
          now.elapsed + c.steps.length * limit.nanos := by
  refine ⟨fun world _ => .started (.patient limit world), ?_⟩
  obtain ⟨result, spent⟩ := run_waitFor (fun world _ => .started (.patient limit world)) limit now c
  rw [attempts_patient, List.map_map] at result
  rw [attempts_patient, waited, List.map_map] at spent
  constructor
  · rw [result]
    simp [Result.ofOutcomes, Attempt.outcome, Launch.outcome, Course.outcome_patient]
  · rw [spent]
    have same : (Attempt.waiting limit ∘ fun step => ⟨step, .started (.patient limit now.world)⟩) =
        fun _ : Step => limit.nanos := funext fun _ => Course.waiting_patient limit now.world
    rw [same, List.map_const', List.sum_replicate_nat]

/-- A process of 600 milliseconds that prints a letter at its end. -/
def Course.brief : Course Unit where
  duration? := some 600000000
  ending := .exited true
  stdout := fun time => if 600000000 ≤ time then Text.bytesOf "a\n" else []
  stderr := fun _ => []
  world := fun _ => ()

/-- Two steps of 600 milliseconds each run to their end under a limit of 950. -/
theorem build_outlasts_the_limit :
    let build : Command := ⟨.project, .empty, [⟨"first", []⟩, ⟨"second", []⟩]⟩
    let limit := Number.Duration.ofMillis 950
    let ended := build.run (waitFor (fun _ _ => .started .brief) limit) ⟨(), 0⟩
    limit.nanos < ended.2.elapsed ∧ ended.1 = ⟨true, "a\na\n\n", none⟩ := by
  decide +kernel

end AsmDiagnostics.Build
