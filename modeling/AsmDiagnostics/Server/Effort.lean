import AsmDiagnostics.Cost
import AsmDiagnostics.Pipeline.Clock
import AsmDiagnostics.Server.Basic

/-!
# The work before a server

Every job, letter and task leads to a limited amount of work, and only bytes that are read bring
new work. `Server.effort` is a bound of it: a turn lessens the bytes that are unread, or it leaves
them as they are and lessens the effort. So a server that receives nothing more comes to rest.
-/

namespace AsmDiagnostics

namespace Server

variable {ω : Type}

def letterCost : Nat := 4

def legCost : Nat := 9

def taskCost : Nat := 3 * legCost

/-- What a sender may cost when its letter has found a place. -/
def sequelCost : Sequel → Nat
  | .read => 7
  | .resume pause => legCost * pause.weight
  | .nothing => 0

def lineCost (entry : Letter × Sequel) : Nat := 7 + sequelCost entry.2

def jobCost : Job → Nat
  | .read => 8
  | .write => 1
  | .task task => taskCost * task.weight - 1
  | .place _ sequel => 6 + sequelCost sequel

def agendaCost (s : Server ω) : Nat :=
  (s.session.pipeline?.map fun pipeline => taskCost * Pipeline.weightOf pipeline.agenda).getD 0

def restCost (w : Writer) : Nat := 2 * w.isResting.toNat

/-- A bound of the work that is left when no more bytes are read. -/
def effort (s : Server ω) : Nat :=
  totalCost jobCost s.jobs + letterCost * s.mailbox.letters.length +
    totalCost lineCost s.mailbox.waiting + restCost s.writer + s.agendaCost

def Within (cost : Nat) (s after : Server ω) : Prop :=
  after.unread = s.unread ∧ after.effort ≤ s.effort + cost

theorem Within.trans {first second : Nat} {s middle after : Server ω}
    (h : Within first s middle) (h' : Within second middle after) :
    Within (first + second) s after :=
  ⟨h'.1.trans h.1, by have := h.2; have := h'.2; omega⟩

theorem Within.le {cost more : Nat} {s after : Server ω} (h : Within cost s after)
    (le : cost ≤ more) : Within more s after :=
  ⟨h.1, by have := h.2; omega⟩

theorem weight_pos {τ : Type} (task : Task τ) : 1 ≤ task.weight := by
  cases task <;> simp [Task.weight]

theorem due_cost_le (isDue : Planned (Task Json) → Bool) (agenda : Agenda (Task Json)) :
    totalCost jobCost ((agenda.takeWhile isDue).map fun entry => Job.task entry.action) +
        taskCost * Pipeline.weightOf (agenda.dropWhile isDue) +
        (agenda.takeWhile isDue).length ≤
      taskCost * Pipeline.weightOf agenda := by
  induction agenda with
  | nil => simp [totalCost, Pipeline.weightOf]
  | cons entry rest ih =>
      have positive := weight_pos entry.action
      by_cases due : isDue entry
      · rw [List.takeWhile_cons_of_pos due, List.dropWhile_cons_of_pos due]
        simp only [List.map_cons, totalCost, jobCost, taskCost, legCost, Pipeline.weightOf,
          List.length_cons] at ih ⊢
        omega
      · rw [List.takeWhile_cons_of_neg due, List.dropWhile_cons_of_neg due]
        simp [totalCost]

theorem enlist_within (s : Server ω) : Within 0 s s.enlist := by
  refine ⟨enlist_unread s, ?_⟩
  unfold enlist
  split
  · omega
  · rename_i pipeline same
    have cost := due_cost_le (fun entry => decide (entry.due ≤ pipeline.now)) pipeline.agenda
    simp only [effort, agendaCost, withPipeline, same, totalCost_append, Option.map_some,
      Option.getD_some]
    omega

theorem wakeWriter_within (s : Server ω) : Within 1 s s.wakeWriter := by
  refine ⟨wakeWriter_unread s, ?_⟩
  unfold wakeWriter
  split
  · simp only [effort, agendaCost, ask, totalCost_append, totalCost, jobCost, restCost]
    omega
  · omega

theorem send?_within {s sent : Server ω} {letter : Letter} (h : s.send? letter = some sent) :
    Within 5 s sent := by
  obtain ⟨mailbox, offered, rfl⟩ := Option.map_eq_some_iff.mp h
  have woken := wakeWriter_within { s with mailbox := mailbox }
  refine ⟨woken.1, Nat.le_trans woken.2 ?_⟩
  unfold Mailbox.offer? at offered
  split at offered
  · simp at offered
  · obtain rfl := Option.some.inj offered
    simp only [effort, agendaCost, letterCost, List.length_append, List.length_cons,
      List.length_nil]
    omega

theorem putPromised_within (s : Server ω) (letter : Letter) :
    Within 5 s (s.putPromised letter) := by
  have woken := wakeWriter_within { s with mailbox := s.mailbox.put letter }
  refine ⟨woken.1, Nat.le_trans woken.2 ?_⟩
  simp only [effort, agendaCost, letterCost, Mailbox.put, List.length_append, List.length_cons,
    List.length_nil]
  omega

theorem awaitPlace_within (s : Server ω) (letter : Letter) (sequel : Sequel) :
    Within (7 + sequelCost sequel) s (s.awaitPlace letter sequel) := by
  refine ⟨rfl, ?_⟩
  simp only [effort, agendaCost, awaitPlace, Mailbox.await, totalCost_append, totalCost, lineCost]
  omega

theorem sendThen_within (s : Server ω) (letter : Letter) (sequel : Sequel)
    {goOn : Server ω → Server ω} (h : ∀ sent, Within (sequelCost sequel) sent (goOn sent)) :
    Within (7 + sequelCost sequel) s (s.sendThen letter sequel goOn) := by
  unfold sendThen
  split
  · rename_i sent same
    exact ((send?_within same).trans (h sent)).le (by omega)
  · exact awaitPlace_within s letter sequel

theorem id_within (s : Server ω) : Within 0 s (id s) := ⟨rfl, Nat.le_refl _⟩

/-- A leg costs a letter, the tasks that it enters and what follows it. -/
theorem walk_within {s : Server ω} {pipeline : Pipeline Json} {leg : Leg Json ω} (weight : Nat)
    {goOn : Server ω → Pause Json → Server ω} (same : s.session.pipeline? = some pipeline)
    (weighs : leg.weight < weight + 3 * Pipeline.weightOf pipeline.agenda)
    (h : ∀ pause sent, Within (sequelCost (.resume pause)) sent (goOn sent pause)) :
    Within (legCost * weight - 2) s (s.walk leg goOn) := by
  have goes (sent : Server ω) : Within (sequelCost (leg.pause?.elim .nothing .resume)) sent
      (leg.pause?.elim sent (goOn sent)) := by
    cases leg.pause? with
    | none => exact id_within sent
    | some pause => exact h pause sent
  have next : sequelCost (leg.pause?.elim .nothing .resume) =
      legCost * (leg.pause?.map Pause.weight).getD 0 := by cases leg.pause? <;> rfl
  have moved : (s.afterLeg leg).unread = s.unread ∧ (s.afterLeg leg).effort +
      taskCost * Pipeline.weightOf pipeline.agenda =
        s.effort + taskCost * Pipeline.weightOf leg.pipeline.agenda := by
    refine ⟨rfl, ?_⟩
    simp only [effort, agendaCost, afterLeg, withPipeline, same, Option.map_some, Option.getD_some]
    omega
  have cost : 7 + sequelCost (leg.pause?.elim .nothing .resume) +
        taskCost * Pipeline.weightOf leg.pipeline.agenda ≤
      legCost * weight - 2 + taskCost * Pipeline.weightOf pipeline.agenda := by
    unfold Leg.weight at weighs
    rw [next]
    unfold taskCost legCost
    omega
  unfold walk
  dsimp only
  split
  · have gone := goes (s.afterLeg leg)
    exact ⟨gone.1.trans moved.1, by have := gone.2; have := moved.2; omega⟩
  · have sent := sendThen_within (s.afterLeg leg) (.message ‹_›) _ goes
    exact ⟨sent.1.trans moved.1, by have := sent.2; have := moved.2; omega⟩

theorem resumeThen_within (outside : Outside ω) {goOn : Server ω → Pause Json → Server ω}
    (s : Server ω) (pause : Pause Json)
    (h : ∀ next sent, Within (sequelCost (.resume next)) sent (goOn sent next)) :
    Within (sequelCost (.resume pause)) s (s.resumeThen outside goOn pause) := by
  unfold resumeThen
  split
  · exact ⟨rfl, Nat.le_add_right _ _⟩
  · rename_i pipeline same
    have less := Pipeline.goOn_weight_lt outside s.world pipeline pause
    exact (walk_within pause.weight same (by omega) h).le (Nat.sub_le _ _)

theorem resume_within (outside : Outside ω) (s : Server ω) (pause : Pause Json) :
    Within (sequelCost (.resume pause)) s (s.resume outside pause) :=
  resumeThen_within outside s pause fun next sent =>
    resumeThen_within outside sent next fun _ last => (id_within last).le (Nat.zero_le _)

theorem performTask_within (outside : Outside ω) (s : Server ω) (task : Task Json) :
    Within (taskCost * task.weight - 2) s (s.performTask outside task) := by
  unfold performTask
  split
  · exact ⟨rfl, Nat.le_add_right _ _⟩
  · rename_i pipeline same
    split
    · exact ⟨rfl, Nat.le_add_right _ _⟩
    · have less := Pipeline.legOf_weight_lt s.world pipeline task
      have walked : Within (taskCost * task.weight - 2) s
          (s.walk (pipeline.legOf s.world task) (resume outside)) :=
        (walk_within (3 * task.weight) same (by omega) fun pause sent =>
          resume_within outside sent pause).le (by unfold taskCost legCost; omega)
      dsimp only
      split
      · exact walked.trans (enlist_within _)
      · exact walked

theorem weightOf_shutdown_le {τ : Type} (p : Pipeline τ) :
    Pipeline.weightOf p.shutdown.agenda ≤ Pipeline.weightOf p.agenda := by
  have kept : ∀ (flights : List Flight) (p : Pipeline τ),
      Pipeline.weightOf (flights.foldl (fun rest flight => rest.abortPush flight.uri) p).agenda ≤
        Pipeline.weightOf p.agenda := by
    intro flights
    induction flights with
    | nil => exact fun p => Nat.le_refl _
    | cons flight flights ih =>
        exact fun p => Nat.le_trans (ih _) (Pipeline.weightOf_abortPush_le p flight.uri)
  exact kept p.inFlight.flights p

theorem finish_within (s : Server ω) (ending : Ending) : Within 7 s (s.finish ending) := by
  have ended : Within 0 s { s with
      session := s.session.withPipeline Pipeline.shutdown, closing? := some ending } := by
    refine ⟨rfl, ?_⟩
    simp only [effort, agendaCost, Session.withPipeline, Option.map_map]
    cases same : s.session.pipeline? with
    | none => simp
    | some pipeline =>
        have shut := weightOf_shutdown_le pipeline
        simp only [Option.map_some, Function.comp, Option.getD_some, taskCost, legCost]
        omega
  exact (ended.trans (sendThen_within _ .close .nothing id_within)).le (by simp [sequelCost])

theorem freePlaces_within (s : Server ω) (count : Nat) : Within 0 s (s.freePlaces count) := by
  refine ⟨rfl, ?_⟩
  have wanted := totalCost_filter_le lineCost (fun entry => !s.isStale entry.2) s.mailbox.waiting
  have parted := totalCost_append lineCost
    ((s.mailbox.line fun sequel => !s.isStale sequel).take count)
    ((s.mailbox.line fun sequel => !s.isStale sequel).drop count)
  have served := totalCost_map_le lineCost jobCost
    (fun entry : Letter × Sequel => Job.place entry.1 entry.2)
    (fun entry => by simp only [jobCost, lineCost]; omega)
    ((s.mailbox.line fun sequel => !s.isStale sequel).take count)
  rw [List.take_append_drop] at parted
  have line : (s.mailbox.line fun sequel => !s.isStale sequel) =
      s.mailbox.waiting.filter fun entry => !s.isStale entry.2 := rfl
  rw [← line] at wanted
  simp only [effort, agendaCost, freePlaces, Mailbox.free, totalCost_append]
  omega

theorem write_within (s : Server ω) : Within 0 s s.write := by
  have taken := Mailbox.takeFirst_length s.writer.lettersInTurn s.mailbox.letters
  have some : 1 ≤ s.writer.lettersInTurn := Nat.le_max_left _ _
  have rested : restCost (s.writer.after
      (Mailbox.takeFirst s.writer.lettersInTurn s.mailbox.letters).1.length) ≤
        2 * (Mailbox.takeFirst s.writer.lettersInTurn s.mailbox.letters).1.length := by
    unfold Writer.after
    split
    · simp only [restCost, Bool.toNat_true]
      omega
    · simp [restCost, Writer.idle]
  unfold write
  dsimp only
  split
  · refine ⟨rfl, ?_⟩
    simp only [effort, agendaCost, letterCost]
    omega
  · refine ⟨(freePlaces_within _ _).1, Nat.le_trans (freePlaces_within _ _).2 ?_⟩
    simp only [effort, agendaCost, letterCost]
    omega

def Nearer (cost : Nat) (s after : Server ω) : Prop :=
  after.unread.length < s.unread.length ∨
    after.unread.length = s.unread.length ∧ after.effort ≤ s.effort + cost

theorem Within.nearer {cost : Nat} {s after : Server ω} (h : Within cost s after) :
    Nearer cost s after :=
  .inr ⟨congrArg List.length h.1, h.2⟩

theorem readFrames_unread_le (s : Server ω) : s.readFrames.unread.length ≤ s.unread.length := by
  fun_induction readFrames s with
  | case1 => exact Nat.le_refl _
  | case2 s => exact Nat.le_of_eq (congrArg List.length (finish_within s _).1)
  | case3 s fault => exact Nat.le_of_eq (congrArg List.length (finish_within s _).1)
  | case4 s body rest found turn next ends =>
      rw [(finish_within next _).1, afterFrame_unread]
      exact Nat.le_of_lt (Frame.next_rest_length found)
  | case5 s body rest found turn next ends silent ih =>
      rw [afterFrame_unread] at ih
      exact Nat.le_trans ih (Nat.le_of_lt (Frame.next_rest_length found))
  | case6 s body rest found turn next ends answer replying sent sending ih =>
      rw [send?_unread sending, afterFrame_unread] at ih
      exact Nat.le_trans ih (Nat.le_of_lt (Frame.next_rest_length found))
  | case7 s body rest found turn next ends answer replying full =>
      change next.unread.length ≤ _
      rw [afterFrame_unread]
      exact Nat.le_of_lt (Frame.next_rest_length found)

theorem readFrames_nearer (s : Server ω) : Nearer 7 s s.readFrames := by
  unfold readFrames
  split
  · exact .inr ⟨rfl, Nat.le_add_right _ _⟩
  · exact (finish_within s _).nearer
  · exact (finish_within s _).nearer
  · rename_i body rest found
    have shorter := Frame.next_rest_length found
    refine .inl ?_
    dsimp only
    split
    · rw [(finish_within _ _).1, afterFrame_unread]
      exact shorter
    · split
      · refine Nat.lt_of_le_of_lt (readFrames_unread_le _) ?_
        rw [afterFrame_unread]
        exact shorter
      · split
        · rename_i sending
          refine Nat.lt_of_le_of_lt (readFrames_unread_le _) ?_
          rw [send?_unread sending, afterFrame_unread]
          exact shorter
        · change (afterFrame s _ rest).unread.length < _
          rw [afterFrame_unread]
          exact shorter

theorem read_nearer (s : Server ω) : Nearer 7 s s.read := by
  unfold read
  split
  · exact .inr ⟨rfl, Nat.le_add_right _ _⟩
  · exact readFrames_nearer s

theorem Within.then_nearer {first second : Nat} {s middle after : Server ω}
    (h : Within first s middle) (h' : Nearer second middle after) :
    Nearer (first + second) s after := by
  have same := congrArg List.length h.1
  have cost := h.2
  rcases h' with shorter | ⟨equal, less⟩
  · exact .inl (by omega)
  · exact .inr ⟨by omega, by omega⟩

theorem pursue_nearer (outside : Outside ω) (s : Server ω) (sequel : Sequel) :
    Nearer (sequelCost sequel) s (s.pursue outside sequel) := by
  cases sequel with
  | read => exact read_nearer s
  | resume pause => exact (resume_within outside s pause).nearer
  | nothing => exact .inr ⟨rfl, Nat.le_refl _⟩

/-- A job costs less than what it was entered with. -/
theorem perform_nearer (outside : Outside ω) (s : Server ω) (job : Job) :
    Nearer (jobCost job - 1) s (s.perform outside job) := by
  cases job with
  | read => exact read_nearer s
  | write => exact (write_within s).nearer
  | task task => exact (performTask_within outside s task).nearer
  | place letter sequel =>
      simp only [perform]
      split
      · exact ((freePlaces_within s 1).le (Nat.zero_le _)).nearer
      · have both := (putPromised_within s letter).then_nearer
          (pursue_nearer outside (s.putPromised letter) sequel)
        have equal : jobCost (.place letter sequel) - 1 = 5 + sequelCost sequel := by
          simp only [jobCost]
          omega
        rw [equal]
        exact both

theorem afterRest_within (s : Server ω) : Within 0 s s.afterRest := by
  unfold afterRest
  split
  · rename_i resting
    refine ⟨rfl, ?_⟩
    simp only [effort, agendaCost, ask, totalCost_append, totalCost, jobCost, restCost, resting,
      Bool.toNat_true, Bool.toNat_false]
    omega
  · exact ⟨rfl, Nat.le_refl _⟩

theorem turn_nearer (outside : Outside ω) (s : Server ω) (job : Job) :
    Nearer (jobCost job - 1) s (s.turn outside job) := by
  have performed : Nearer (jobCost job - 1) s (s.counted.perform outside job) :=
    perform_nearer outside s.counted job
  unfold turn
  dsimp only
  split
  · have rested := afterRest_within (s.counted.perform outside job)
    have same := congrArg List.length rested.1
    have cost := rested.2
    rcases performed with shorter | ⟨equal, less⟩
    · exact .inl (by omega)
    · exact .inr ⟨by omega, by omega⟩
  · exact performed

theorem jobCost_pos (job : Job) : 1 ≤ jobCost job := by
  cases job with
  | read => simp [jobCost]
  | write => simp [jobCost]
  | task task =>
      have positive := weight_pos task
      simp only [jobCost, taskCost, legCost]
      omega
  | place letter sequel =>
      simp only [jobCost]
      omega

/-- A job that gets its turn is paid for by what it cost before. -/
theorem next?_effort {s rest : Server ω} {job : Job} (h : s.next? = some (job, rest)) :
    rest.unread = s.unread ∧ rest.effort + jobCost job ≤ s.effort := by
  unfold next? at h
  split at h
  · simp at h
  · split at h
    · rename_i first others same
      simp only [Option.some.injEq, Prod.mk.injEq] at h
      obtain ⟨rfl, rfl⟩ := h
      refine ⟨rfl, ?_⟩
      simp only [effort, agendaCost, same, totalCost]
      omega
    · split at h
      · rename_i none resting
        simp only [Option.some.injEq, Prod.mk.injEq] at h
        obtain ⟨rfl, rfl⟩ := h
        refine ⟨rfl, ?_⟩
        simp only [effort, agendaCost, jobCost, restCost, resting, Bool.toNat_true,
          Bool.toNat_false]
        omega
      · simp at h

/-- A turn lessens the bytes that are unread, or leaves them and lessens the effort. -/
theorem turn_lessens (outside : Outside ω) {s rest : Server ω} {job : Job}
    (h : s.next? = some (job, rest)) :
    Prod.Lex (· < ·) (· < ·)
      ((rest.turn outside job).unread.length, (rest.turn outside job).effort)
      (s.unread.length, s.effort) := by
  obtain ⟨same, paid⟩ := next?_effort h
  have positive := jobCost_pos job
  have same := congrArg List.length same
  rcases turn_nearer outside rest job with shorter | ⟨equal, less⟩
  · exact Prod.Lex.left _ _ (by omega)
  · have equal : (rest.turn outside job).unread.length = s.unread.length := by omega
    rw [equal]
    exact Prod.Lex.right _ (by omega)

end Server

end AsmDiagnostics
