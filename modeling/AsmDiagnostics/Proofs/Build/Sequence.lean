import AsmDiagnostics.Proofs.Build.Waiting

/-!
# Which steps of a build run

The steps of a build stand in a row like commands with `&&` between them: each runs when the one
before it has succeeded. What the steps that ran have printed is kept in full, also when the last of
them could not be started or was cut off.
-/

namespace AsmDiagnostics.Build

variable {World : Type}

section Results

variable (runStep : World → Step → StepOutcome × World)

/-- The outcomes that steps have one after another, if each of them is run whatever came of those
before it. -/
def given : World → List Step → List StepOutcome
  | _, [] => []
  | world, step :: rest => (runStep world step).1 :: given (runStep world step).2 rest

def FaultsFail : Prop :=
  ∀ world step, (runStep world step).1.fault? ≠ none → (runStep world step).1.succeeded = false

end Results

/-- So many steps run: up to the first that does not succeed, and with it. A number beyond the last
step stands for all of them. -/
def reach (all : List StepOutcome) : Nat := all.findIdx (fun outcome => !outcome.succeeded) + 1

theorem reach_of_succeeded {outcome : StepOutcome} (good : outcome.succeeded = true)
    (rest : List StepOutcome) : reach (outcome :: rest) = reach rest + 1 := by
  simp [reach, List.findIdx_cons, good]

theorem reach_of_failed {outcome : StepOutcome} (bad : outcome.succeeded = false)
    (rest : List StepOutcome) : reach (outcome :: rest) = 1 := by
  simp [reach, List.findIdx_cons, bad]

theorem mem_given {runStep : World → Step → StepOutcome × World} {world : World}
    {steps : List Step} {outcome : StepOutcome} (member : outcome ∈ given runStep world steps) :
    ∃ before step, outcome = (runStep before step).1 := by
  induction steps generalizing world with
  | nil => cases member
  | cons step rest ih =>
      rcases List.mem_cons.mp member with rfl | later
      · exact ⟨world, step, rfl⟩
      · exact ih later

theorem length_given (runStep : World → Step → StepOutcome × World) (world : World)
    (steps : List Step) : (given runStep world steps).length = steps.length := by
  induction steps generalizing world with
  | nil => rfl
  | cons step rest ih => exact congrArg Nat.succ (ih _)

/-- The outcomes of the steps that run are the first ones of those that all steps would have. -/
theorem outcomes_eq_take_given (runStep : World → Step → StepOutcome × World) (world : World)
    (steps : List Step) :
    (outcomes runStep world steps).1 =
      (given runStep world steps).take (reach (given runStep world steps)) := by
  induction steps generalizing world with
  | nil => rfl
  | cons step rest ih =>
      simp only [outcomes, given]
      cases good : (runStep world step).1.succeeded with
      | true =>
          rw [reach_of_succeeded good, List.take_succ_cons, ← ih]
          rfl
      | false =>
          rw [reach_of_failed good, List.take_succ_cons]
          rfl

/-! ## The record of a build -/

/-- The outside world, and the steps that were run in it. -/
structure Recorded (World : Type) where
  world : World
  ran : List Step

def record (runStep : World → Step → StepOutcome × World) (now : Recorded World) (step : Step) :
    StepOutcome × Recorded World :=
  ((runStep now.world step).1, ⟨(runStep now.world step).2, now.ran ++ [step]⟩)

/-- Writing the steps down changes nothing about them; there is one for each outcome. -/
theorem outcomes_record (runStep : World → Step → StepOutcome × World) (now : Recorded World)
    (steps : List Step) :
    outcomes (record runStep) now steps =
      ((outcomes runStep now.world steps).1,
        ⟨(outcomes runStep now.world steps).2,
          now.ran ++ steps.take (outcomes runStep now.world steps).1.length⟩) := by
  induction steps generalizing now with
  | nil => simp [outcomes]
  | cons step rest ih =>
      have later := ih ⟨(runStep now.world step).2, now.ran ++ [step]⟩
      cases good : (runStep now.world step).1.succeeded with
      | true => simp [outcomes, record, good, later]
      | false => simp [outcomes, record, good]

theorem take_length_take_given (runStep : World → Step → StepOutcome × World) (world : World)
    (steps : List Step) (count : Nat) :
    steps.take ((given runStep world steps).take count).length = steps.take count := by
  rw [List.length_take, length_given, ← List.take_take, List.take_length]

/-! ## What is left behind -/

/-- All steps run and succeed, or of those that run all but the last succeed. -/
theorem take_reach_cases (all : List StepOutcome) :
    (∀ outcome ∈ all, outcome.succeeded = true) ∧ all.length ≤ reach all ∨
      ∃ front last, all.take (reach all) = front ++ [last] ∧ last.succeeded = false ∧
        ∀ outcome ∈ front, outcome.succeeded = true := by
  induction all with
  | nil => exact .inl ⟨List.forall_mem_nil _, Nat.zero_le _⟩
  | cons outcome rest ih =>
      cases good : outcome.succeeded with
      | false =>
          rw [reach_of_failed good]
          exact .inr ⟨[], outcome, rfl, good, List.forall_mem_nil _⟩
      | true =>
          rw [reach_of_succeeded good]
          rcases ih with ⟨others, whole⟩ | ⟨front, last, cut, bad, others⟩
          · exact .inl ⟨List.forall_mem_cons.mpr ⟨good, others⟩, Nat.succ_le_succ whole⟩
          · exact .inr ⟨outcome :: front, last, congrArg (outcome :: ·) cut, bad,
              List.forall_mem_cons.mpr ⟨good, others⟩⟩

/-- The steps that run succeed only if all steps would. -/
theorem all_take_reach (all : List StepOutcome) :
    (all.take (reach all)).all StepOutcome.succeeded = true ↔
      ∀ outcome ∈ all, outcome.succeeded = true := by
  rw [List.all_eq_true]
  constructor
  · intro good
    rcases take_reach_cases all with ⟨others, -⟩ | ⟨front, last, cut, bad, -⟩
    · exact others
    · have last' := good last (cut ▸ List.mem_append_right front List.mem_cons_self)
      rw [bad] at last'
      cases last'
  · exact fun good outcome member => good outcome (List.mem_of_mem_take member)

theorem combinedOutput_concat (front : List StepOutcome) (last : StepOutcome) :
    combinedOutput (front ++ [last]) =
      Text.lossy (front.flatMap StepOutcome.stdout ++ last.stdout) ++ "\n" ++
        Text.lossy (front.flatMap StepOutcome.stderr ++ last.stderr) := by
  simp [combinedOutput]

/-- A step that never started adds nothing to the output and takes nothing away. -/
theorem ofOutcomes_concat_failed (front : List StepOutcome) (fault : StepFault) :
    Result.ofOutcomes (front ++ [.failed fault]) = ⟨false, combinedOutput front, some fault⟩ := by
  simp [Result.ofOutcomes, combinedOutput, StepOutcome.failed]

theorem Course.failed_of_fault {limit : Number.Duration} {program : String} {c : Course World}
    (fault : (c.outcome limit program).fault? ≠ none) :
    (c.outcome limit program).succeeded = false := by
  cases long : c.outlasts limit with
  | true => rw [Course.outcome_of_outlasts long]
  | false =>
      cases ending : c.ending with
      | exited succeeded => exact absurd (by simp [Course.outcome, long, ending]) fault
      | lost => simp [Course.outcome, long, ending]

/-- A step that is waited for has a fault only without success. -/
theorem waitFor_faultsFail (launch : World → Step → Launch World) (limit : Number.Duration) :
    FaultsFail (waitFor launch limit) := by
  intro now step fault
  unfold waitFor at fault ⊢
  cases launched : launch now.world step with
  | missing => rfl
  | unspawnable workingDir => rfl
  | started course =>
      rw [launched] at fault
      exact Course.failed_of_fault fault

/-- What comes of a build whose steps have the given outcomes as far as they run. -/
structure Conjoined (steps : List Step) (all : List StepOutcome) (ran : List Step)
    (result : Result) : Prop where
  reached : ran = steps.take (reach all)
  stops : (∀ outcome ∈ all, outcome.succeeded = true) ∧ ran = steps ∨
    ∃ front last, all.take (reach all) = front ++ [last] ∧ last.succeeded = false ∧
      ∀ outcome ∈ front, outcome.succeeded = true
  output : result.output =
    Text.lossy ((all.take (reach all)).flatMap StepOutcome.stdout) ++ "\n" ++
      Text.lossy ((all.take (reach all)).flatMap StepOutcome.stderr)
  succeeded : result.succeeded = true ↔ ∀ outcome ∈ all, outcome.succeeded = true
  fault : result.fault? = (all.take (reach all)).getLast?.bind StepOutcome.fault?
  failed : result.fault? ≠ none → result.succeeded = false
  /-- The output of the last step that ran stands behind that of the steps before. -/
  kept : ∀ front last, all.take (reach all) = front ++ [last] → result.output =
    Text.lossy (front.flatMap StepOutcome.stdout ++ last.stdout) ++ "\n" ++
      Text.lossy (front.flatMap StepOutcome.stderr ++ last.stderr)
  /-- A step that never started leaves the output of the steps before. -/
  unstarted : ∀ front fault, all.take (reach all) = front ++ [.failed fault] →
    result = ⟨false, combinedOutput front, some fault⟩

theorem failed_of_fault_ofOutcomes {all : List StepOutcome}
    (faulty : ∀ outcome ∈ all, outcome.fault? ≠ none → outcome.succeeded = false)
    (fault : (Result.ofOutcomes all).fault? ≠ none) : (Result.ofOutcomes all).succeeded = false := by
  rcases List.eq_nil_or_concat all with rfl | ⟨front, last, rfl⟩
  · exact absurd rfl fault
  · rw [List.concat_eq_append] at faulty fault ⊢
    rw [fault?_ofOutcomes_append] at fault
    have bad := faulty last (List.mem_append_right front List.mem_cons_self) fault
    simp [Result.ofOutcomes, bad]

theorem conjoined {steps : List Step} {all : List StepOutcome}
    (length : all.length = steps.length)
    (faulty : ∀ outcome ∈ all, outcome.fault? ≠ none → outcome.succeeded = false) :
    Conjoined steps all (steps.take (reach all)) (.ofOutcomes (all.take (reach all))) := by
  constructor
  case reached => rfl
  case stops =>
    exact (take_reach_cases all).imp_left fun ⟨good, whole⟩ =>
      ⟨good, List.take_of_length_le (length ▸ whole)⟩
  case output => rfl
  case succeeded => exact all_take_reach all
  case fault => rfl
  case failed =>
    exact failed_of_fault_ofOutcomes fun outcome member =>
      faulty outcome (List.mem_of_mem_take member)
  case kept =>
    intro front last ends
    rw [ends]
    exact combinedOutput_concat front last
  case unstarted =>
    intro front fault ends
    rw [ends, ofOutcomes_concat_failed]

/-- The steps of a build are run up to and including the first that does not succeed, whatever they
do to the outside world. All that these steps have printed is followed by a newline and all that they
have complained about. The build succeeds when all its steps would, and it has the fault of the last
step that ran; what the steps before have left is there all the same. -/
theorem steps_stop_at_first_failure (runStep : World → Step → StepOutcome × World)
    (faulty : FaultsFail runStep) (world : World) (c : Command) :
    let recorded := c.run (record runStep) ⟨world, []⟩
    c.run runStep world = (recorded.1, recorded.2.world) ∧
      Conjoined c.steps (given runStep world c.steps) recorded.2.ran recorded.1 := by
  intro recorded
  have left := outcomes_eq_take_given runStep world c.steps
  have written := outcomes_record runStep ⟨world, []⟩ c.steps
  rw [left, take_length_take_given, List.nil_append] at written
  have same : recorded =
      (.ofOutcomes ((given runStep world c.steps).take (reach (given runStep world c.steps))),
        ⟨(outcomes runStep world c.steps).2,
          c.steps.take (reach (given runStep world c.steps))⟩) := by
    simp only [recorded, Command.run, written]
  rw [same]
  refine ⟨?_, conjoined (length_given runStep world c.steps) fun outcome member => ?_⟩
  · simp only [Command.run, left]
  · obtain ⟨before, step, rfl⟩ := mem_given member
    exact faulty before step

/-- What the steps print while they last: the first half of a character, and then the other half
before the time is up. -/
def Course.halves : Step → Launch Unit
  | ⟨"first", _⟩ => .started ⟨some 5, .exited true, fun _ => [0xC3], fun _ => [], fun _ => ()⟩
  | ⟨"second", _⟩ => .started ⟨none, .lost, fun time => if 7 ≤ time then [0xA9] else [],
      fun _ => [0x21], fun _ => ()⟩
  | _ => .missing

/-- A step that is cut off ends the build; a character that two steps have printed half of is read
whole. -/
theorem halves_read_whole :
    let build : Command := ⟨.project, .empty, [⟨"first", []⟩, ⟨"second", []⟩, ⟨"third", []⟩]⟩
    let limit := Number.Duration.ofMillis 1
    let runStep := waitFor (fun _ => Course.halves) limit
    FaultsFail runStep ∧
      (build.run (record runStep) ⟨⟨(), 0⟩, []⟩).2.ran = [⟨"first", []⟩, ⟨"second", []⟩] ∧
      (build.run (record runStep) ⟨⟨(), 0⟩, []⟩).1 = ⟨false, "é\n!", some (.timedOut "second" limit)⟩ := by
  intro build limit runStep
  have faulty : FaultsFail runStep := waitFor_faultsFail _ limit
  have conjoined := (steps_stop_at_first_failure runStep faulty ⟨(), 0⟩ build).2
  have all : given runStep ⟨(), 0⟩ build.steps = [⟨true, [0xC3], [], none⟩,
      ⟨false, [0xA9], [0x21], some (.timedOut "second" limit)⟩,
      .failed (.toolNotFound "third")] := by decide
  rw [all] at conjoined
  have fault := conjoined.fault
  have bad := conjoined.failed (by rw [fault]; decide)
  have output := conjoined.output
  refine ⟨faulty, conjoined.reached, ?_⟩
  generalize (build.run (record runStep) ⟨⟨(), 0⟩, []⟩).1 = result at fault bad output ⊢
  obtain ⟨succeeded, text, fault?⟩ := result
  dsimp only at fault bad output
  rw [fault, bad, output]
  decide +kernel

end AsmDiagnostics.Build
