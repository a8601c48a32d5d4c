import AsmDiagnostics.Cost
import AsmDiagnostics.Proofs.Pipeline.Legs

/-!
# Every run comes to its end

Nobody calls any more and the world stays as it is: time passes, tasks are performed when they are
due, and the editor takes what it is told.  Each leg leaves less to be done than there was before
it, so that in the end nothing waits any more.
-/

namespace AsmDiagnostics

variable {τ ω : Type}

/-- A bound of the legs that are still to come. -/
def Stage.weight (s : Stage τ ω) : Nat :=
  3 * Pipeline.weightOf s.pipeline.agenda + totalCost Pause.weight s.pauses

/-- Nobody calls and the world stays as it is: time passes, and runs go on. -/
def Act.IsPassing : Act τ ω → Prop
  | .wait _ => True
  | .perform _ => True
  | .resume _ => True
  | _ => False

/-- No task is performed before its time. -/
def Act.IsDue (s : Stage τ ω) : Act τ ω → Prop
  | .perform place =>
      ∀ entry, s.pipeline.agenda[place]? = some entry → entry.due ≤ s.pipeline.now
  | _ => True

namespace Stage

variable (outside : Outside ω)

/-- No task is performed before its time in some acts. -/
def Due (s : Stage τ ω) : List (Act τ ω) → Prop
  | [] => True
  | act :: acts => act.IsDue s ∧ (s.act outside act).2.Due acts

theorem due_append (s : Stage τ ω) (before after : List (Act τ ω)) :
    s.Due outside (before ++ after) ↔
      s.Due outside before ∧ (s.play outside before).2.Due outside after := by
  induction before generalizing s with
  | nil => simp [Due]
  | cons act before ih => simp [Due, ih, and_assoc]

theorem walk_weight_le (pauses : List (Pause τ)) (leg : Leg τ ω) :
    (walk pauses leg).2.weight ≤ leg.weight + totalCost Pause.weight pauses := by
  have fewer : totalCost Pause.weight (walk pauses leg).2.pauses ≤
      totalCost Pause.weight (pauses ++ leg.pause?.toList) :=
    totalCost_filter_le _ _ _
  have last : totalCost Pause.weight leg.pause?.toList =
      (leg.pause?.map Pause.weight).getD 0 := by
    cases leg.pause? <;> rfl
  have both := totalCost_append Pause.weight pauses leg.pause?.toList
  have agenda : (walk pauses leg).2.pipeline = leg.pipeline := rfl
  unfold weight Leg.weight
  rw [agenda]
  omega

variable {s : Stage τ ω}

/-- The first task is performed when it is due, and less is to come. -/
theorem perform_first {entry : Planned (Task τ)} {rest : Agenda (Task τ)}
    (agenda : s.pipeline.agenda = entry :: rest) :
    let acts : List (Act τ ω) := [.wait (entry.due - s.pipeline.now), .perform 0]
    s.Due outside acts ∧ (s.play outside acts).2.weight < s.weight := by
  intro acts
  refine ⟨⟨trivial, fun other found => ?_, trivial⟩, ?_⟩
  · obtain rfl : entry = other := by simpa [act, agenda] using found
    simp only [act]
    omega
  · let p : Pipeline τ :=
      { s.pipeline with now := s.pipeline.now + (entry.due - s.pipeline.now), agenda := rest }
    have played : (s.play outside acts).2 = (walk s.pauses (p.legOf s.world entry.action)).2 := by
      simp [acts, act, agenda, without, p]
    have less := p.legOf_weight_lt s.world entry.action
    have most := walk_weight_le s.pauses (p.legOf s.world entry.action)
    have whole : Pipeline.weightOf s.pipeline.agenda =
        entry.action.weight + Pipeline.weightOf p.agenda := by rw [agenda, Pipeline.weightOf]
    rw [played]
    refine Nat.lt_of_le_of_lt most ?_
    unfold Stage.weight
    omega

/-- The first pause is over, and less is to come. -/
theorem resume_first {pause : Pause τ} {rest : List (Pause τ)} (pauses : s.pauses = pause :: rest) :
    (s.act outside (.resume 0)).2.weight < s.weight := by
  have resumed : s.act outside (.resume 0) =
      walk rest (s.pipeline.goOn outside s.world pause) := by simp [act, pauses]
  have less := s.pipeline.goOn_weight_lt outside s.world pause
  have most := walk_weight_le rest (s.pipeline.goOn outside s.world pause)
  have whole : totalCost Pause.weight s.pauses = pause.weight + totalCost Pause.weight rest := by
    rw [pauses]
    rfl
  rw [resumed]
  refine Nat.lt_of_le_of_lt most ?_
  unfold Stage.weight
  omega

/-- If time passes and the editor takes what it is told, all runs come to their end. -/
theorem exists_rest (s : Stage τ ω) :
    ∃ more : List (Act τ ω), (∀ act ∈ more, act.IsPassing) ∧ s.Due outside more ∧
      (s.play outside more).2.pipeline.agenda = [] ∧ (s.play outside more).2.pauses = [] := by
  -- each task and each pause that is over lessens the weight
  induction bound : s.weight using Nat.strongRecOn generalizing s with
  | _ weight ih =>
      have onward (acts : List (Act τ ω)) (passing : ∀ act ∈ acts, act.IsPassing)
          (due : s.Due outside acts) (less : (s.play outside acts).2.weight < s.weight) :
          ∃ more : List (Act τ ω), (∀ act ∈ more, act.IsPassing) ∧ s.Due outside more ∧
            (s.play outside more).2.pipeline.agenda = [] ∧
            (s.play outside more).2.pauses = [] := by
        obtain ⟨more, others, later, rest⟩ := ih _ (bound ▸ less) _ rfl
        refine ⟨acts ++ more, fun act member => ?_, (due_append ..).mpr ⟨due, later⟩, ?_⟩
        · exact (List.mem_append.mp member).elim (passing act) (others act)
        · rw [play_append]
          exact rest
      cases agenda : s.pipeline.agenda with
      | cons entry rest =>
          obtain ⟨due, less⟩ := perform_first outside agenda
          exact onward _ (by simp [Act.IsPassing]) due less
      | nil =>
          cases pauses : s.pauses with
          | cons pause rest =>
              have less := resume_first outside pauses
              exact onward [.resume 0] (by simp [Act.IsPassing]) ⟨trivial, trivial⟩ less
          | nil => exact ⟨[], nofun, trivial, agenda, pauses⟩

end Stage

end AsmDiagnostics
