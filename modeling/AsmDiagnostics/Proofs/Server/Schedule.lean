import AsmDiagnostics.Proofs.Server.Mail

/-!
# A server tells a story

A server gives turns in one order: first come, first served, and the writer rests now and then.  That
is one of the orders of a story, so whatever holds at the end of every story holds of a server that
receives bytes, lets time pass, or comes to the end of its input.
-/

namespace AsmDiagnostics.Server

variable {ω : Type} {outside : Outside ω}

/-- One server comes from another in a story in which nothing comes in. -/
def Follows (outside : Outside ω) (s after : Server ω) : Prop :=
  ∃ moves : List (Move ω), s.play outside moves = after ∧ s.input outside moves = []

namespace Follows

variable {s middle after : Server ω}

theorem refl (s : Server ω) : Follows outside s s := ⟨[], rfl, rfl⟩

theorem trans (h : Follows outside s middle) (h' : Follows outside middle after) :
    Follows outside s after := by
  obtain ⟨first, rfl, none⟩ := h
  obtain ⟨second, rfl, nothing⟩ := h'
  refine ⟨first ++ second, play_append s first second, ?_⟩
  rw [input_append, none, nothing]
  rfl

/-- A single move. -/
theorem once (m : Move ω) (silent : s.heard m = []) (is : s.move outside m = after) :
    Follows outside s after :=
  ⟨[m], is, by rw [input, silent]; rfl⟩

end Follows

/-- The last letter is not the last of those that the writer may take in a turn. -/
theorem takeFirst_last {count : Nat} {letters : List Letter}
    (last : (Mailbox.takeFirst count letters).2.2 = true) :
    (Mailbox.takeFirst count letters).1.length < count := by
  have taken := Mailbox.takeFirst_taken count letters
  generalize Mailbox.takeFirst count letters = parts at taken last ⊢
  cases taken with
  | messages contents rest => cases last
  | last contents rest fewer => exact fewer

/-- A writer that has taken the last letter does not rest. -/
theorem write_over {s : Server ω} (goes : s.ending? = none) (past : s.write.ending?.isSome) :
    s.write.writer.isResting = false := by
  unfold write at past ⊢
  dsimp only at past ⊢
  split
  · rename_i last
    have fewer := takeFirst_last last
    unfold Writer.after
    rw [if_neg (Nat.ne_of_lt fewer)]
    rfl
  · rename_i more
    rw [if_neg more] at past
    change s.ending?.isSome = true at past
    simp [goes] at past

/-- Nothing but a turn of the writer ends a server, and the writer has no turn within one of
another. -/
theorem Step.goesOn {hand next : Hand} {s after : Server ω} (step : Step outside hand s next after)
    (other : hand ≠ .job .write) (goes : s.ending? = none) :
    next ≠ .job .write ∧ after.ending? = none := by
  cases step with
  | work w =>
      refine ⟨?_, w.untouched.2.2.2.2.trans goes⟩
      cases w <;> simp
  | write => exact absurd rfl other
  | exit reading frame ends => exact ⟨by simp, (afterFrame_ending? s _ _).trans goes⟩
  | pass reading frame goesOn silent => exact ⟨by simp, (afterFrame_ending? s _ _).trans goes⟩
  | answer reading frame goesOn replies => exact ⟨by simp, (afterFrame_ending? s _ _).trans goes⟩
  | _ => exact ⟨by simp, goes⟩

/-- A server that a turn has ended has no writer that rests. -/
theorem perform_over {s : Server ω} {job : Job} (goes : s.ending? = none)
    (past : (s.perform outside job).ending?.isSome) :
    (s.perform outside job).writer.isResting = false := by
  by_cases writes : job = .write
  · subst writes
    exact write_over goes past
  · have steps : Steps outside (.job job) s .free (s.perform outside job) := perform_steps s job
    have kept := steps.keeps (fun step kept => step.goesOn kept.1 kept.2)
      ⟨fun same => writes (Hand.job.inj same), goes⟩
    simp [kept.2] at past

/-- The writer has rested enough. -/
theorem afterRest_follows {s : Server ω} (awake : s.ending?.isSome → s.writer.isResting = false) :
    Follows outside s s.afterRest := by
  have counted : Follows outside s { s with turns := 0 } := .once (.count 0) rfl rfl
  unfold afterRest
  split
  · rename_i resting
    refine counted.trans (.once .rest rfl ?_)
    have goes : s.ending? = none := Option.not_isSome_iff_eq_none.mp fun past =>
      nomatch (awake past).symm.trans resting
    have goes : Server.ending? { s with turns := 0 } = none := goes
    simp only [move, unlessEnded_of_goes goes, resting, if_true]
    rfl
  · exact counted

/-- The next job is the first of those that have asked, or that of a writer that rests. -/
theorem next?_cases {s rest : Server ω} {job : Job} (h : s.next? = some (job, rest)) :
    s.ending? = none ∧
      ((∃ others, s.jobs = job :: others ∧ rest = { s with jobs := others }) ∨
        s.jobs = [] ∧ s.writer.isResting = true ∧ job = .write ∧
          rest = { s with turns := 0, writer := { s.writer with isResting := false } }) := by
  unfold next? at h
  split at h
  · exact nomatch h
  · rename_i goes
    refine ⟨Option.not_isSome_iff_eq_none.mp goes, ?_⟩
    split at h
    · rename_i first others jobs
      obtain ⟨rfl, rfl⟩ := Prod.mk.inj (Option.some.inj h)
      exact .inl ⟨others, jobs, rfl⟩
    · rename_i jobs
      split at h
      · rename_i resting
        obtain ⟨rfl, rfl⟩ := Prod.mk.inj (Option.some.inj h)
        exact .inr ⟨jobs, resting, rfl, rfl⟩
      · exact nomatch h

theorem turn_follows {s : Server ω} {place : Nat} {job : Job} (goes : s.ending? = none)
    (found : s.jobs[place]? = some job) :
    Follows outside s ((s.without place).perform outside job) := by
  refine .once (.turn place) rfl ?_
  simp only [move, unlessEnded_of_goes goes, found]

/-- The next job in line has its turn. -/
theorem next?_follows {s rest : Server ω} {job : Job} (h : s.next? = some (job, rest)) :
    Follows outside s (rest.turn outside job) := by
  obtain ⟨goes, which⟩ := next?_cases h
  have performed : Follows outside s (rest.counted.perform outside job) := by
    rcases which with ⟨others, jobs, rfl⟩ | ⟨jobs, resting, rfl, rfl⟩
    · have counted : Follows outside s s.counted := .once (.count (s.turns + 1)) rfl rfl
      have found : s.counted.jobs[0]? = some job := by simp [Server.counted, jobs]
      have left : s.counted.without 0 = Server.counted { s with jobs := others } := by
        simp [Server.counted, without, jobs]
      have turned : Follows outside s.counted ((s.counted.without 0).perform outside job) :=
        turn_follows goes found
      rw [left] at turned
      exact counted.trans turned
    · have awake : Follows outside s s.rested := by
        refine .once .rest rfl ?_
        simp only [move, unlessEnded_of_goes goes, resting, if_true]
      have counted : Follows outside s.rested { s.rested with turns := 1 } :=
        .once (.count 1) rfl rfl
      have found : (Server.jobs { s.rested with turns := 1 })[0]? = some .write := by
        simp [rested, ask, jobs]
      have turned : Follows outside { s.rested with turns := 1 }
          ((Server.without { s.rested with turns := 1 } 0).perform outside .write) :=
        turn_follows goes found
      have left : Server.without { s.rested with turns := 1 } 0 = Server.counted { s with
          turns := 0, writer := { s.writer with isResting := false } } := by
        simp [Server.counted, without, rested, ask, jobs]
      rw [left] at turned
      exact (awake.trans counted).trans turned
  have goes : rest.counted.ending? = none := by
    rcases which with ⟨others, -, rfl⟩ | ⟨-, -, -, rfl⟩ <;> exact goes
  unfold turn
  dsimp only
  split
  · exact performed.trans (afterRest_follows (perform_over goes))
  · exact performed

/-- The next time comes at which something is due. -/
theorem atTime_follows {s : Server ω} {due : Nat} (h : s.nextDue? = some due) :
    Follows outside s (s.atTime due) := by
  have counted : Follows outside s { s with turns := 0 } := .once (.count 0) rfl rfl
  refine counted.trans (.once (.clock due) rfl ?_)
  unfold nextDue? at h
  split at h
  · exact nomatch h
  · rename_i goes
    obtain ⟨entry, found, -⟩ := Option.map_eq_some_iff.mp h
    obtain ⟨pipeline, same, -⟩ := Option.bind_eq_some_iff.mp found
    have goes : Server.hasEnded { s with turns := 0 } = false := Bool.eq_false_iff.mpr goes
    simp only [move, goes, atTime, same]
    simp only [withTime, Session.withPipeline, withPipeline, same, Option.map_some]
    rfl

/-- A server that goes on until nobody asks for a turn tells a story. -/
theorem proceed_follows (waits : Server ω → Nat → Bool) (s : Server ω) :
    Follows outside s (s.proceed outside waits) := by
  fun_induction proceed outside waits s with
  | case1 s job rest next ih => exact (next?_follows next).trans ih
  | case2 s idle nothing => exact .refl s
  | case3 s idle due some wanted ih => exact (atTime_follows some).trans ih
  | case4 s idle due some unwanted => exact .refl s

/-- In the end nobody asks for a turn. -/
theorem proceed_rests (waits : Server ω → Nat → Bool) (s : Server ω) :
    (s.proceed outside waits).next?.isNone := by
  fun_induction proceed outside waits s with
  | case1 s job rest next ih => exact ih
  | case2 s idle nothing => simp [idle]
  | case3 s idle due some wanted ih => exact ih
  | case4 s idle due some unwanted => simp [idle]

theorem settle_next {s rest : Server ω} {job : Job} (h : s.next? = some (job, rest)) :
    s.settle outside = (rest.turn outside job).settle outside := by
  unfold settle
  fun_cases proceed outside (fun _ _ => false) s with
  | case1 other behind found =>
      obtain ⟨rfl, rfl⟩ := Prod.mk.inj (Option.some.inj (found.symm.trans h))
      rfl
  | case2 nobody => exact nomatch nobody.symm.trans h
  | case3 nobody => exact nomatch nobody.symm.trans h
  | case4 nobody => exact nomatch nobody.symm.trans h

theorem settle_rest {s : Server ω} (h : s.next? = none) : s.settle outside = s := by
  unfold settle
  fun_cases proceed outside (fun _ _ => false) s with
  | case1 job rest found => exact nomatch found.symm.trans h
  | case2 => rfl
  | case3 nobody due some wanted => cases wanted
  | case4 => rfl

/-- The server after so many turns; there may be nobody who asks for the last of them. -/
def takeTurns (outside : Outside ω) (s : Server ω) : Nat → Server ω
  | 0 => s
  | count + 1 => s.next?.elim s fun next => (next.2.turn outside next.1).takeTurns outside count

/-- Settling takes turns, and it is known how many if nobody asks for one after them. -/
theorem settle_eq_takeTurns {s : Server ω} {count : Nat}
    (rests : (s.takeTurns outside count).next?.isNone) :
    s.settle outside = s.takeTurns outside count := by
  induction count generalizing s with
  | zero => exact settle_rest (Option.isNone_iff_eq_none.mp rests)
  | succ count ih =>
      cases next : s.next? with
      | none =>
          rw [takeTurns, next]
          exact settle_rest next
      | some found =>
          rw [takeTurns, next, Option.elim_some] at rests ⊢
          rw [settle_next next, ih rests]

/-- A session over an input is over when some turns have brought it to its end. -/
theorem run_eq_takeTurns {settings : Settings} {world : ω} {input : List UInt8} (count : Nat)
    (ended : ((ask { start settings world with unread := input } .read).takeTurns outside
      count).ending?.isSome) :
    run outside settings world input =
      (ask { start settings world with unread := input } .read).takeTurns outside count := by
  have rests : ((ask { start settings world with unread := input } .read).takeTurns outside
      count).next?.isNone := by
    rw [next?, hasEnded, if_pos ended]
    rfl
  have received : receive outside input (start settings world) =
      (ask { start settings world with unread := input } .read).takeTurns outside count :=
    settle_eq_takeTurns rests
  rw [run, received, endInput, unlessEnded_of_over ended]

/-- Bytes come in that the reader waits for. -/
theorem receive_story {s : Server ω} (isOpen : s.isClosed = false) (ready : s.readerWaits = false)
    (goes : s.ending? = none) (bytes : List UInt8) :
    ∃ moves, s.play outside moves = s.receive outside bytes ∧ s.input outside moves = bytes := by
  have heard : s.heard (.hear bytes) = bytes := by simp [heard, hasEnded, goes, isOpen]
  have came : s.move outside (.hear bytes) = Server.ask { s with unread := s.unread ++ bytes } .read := by
    have waits : readerWaits { s with unread := s.unread ++ bytes } = false := ready
    have open? : s.move outside (.hear bytes) = s.hear bytes := by
      rw [move, unlessEnded_of_goes goes]
      simp only [isOpen, Bool.false_eq_true, if_false]
    rw [open?, hear, wakeReader, waits]
    rfl
  have counted : Follows outside (Server.ask { s with unread := s.unread ++ bytes } .read)
      (Server.ask { s with unread := s.unread ++ bytes, turns := 0 } .read) :=
    .once (.count 0) rfl rfl
  obtain ⟨moves, settled, nothing⟩ := counted.trans (proceed_follows (fun _ _ => false) _)
  refine ⟨.hear bytes :: moves, ?_, ?_⟩
  · rw [play, came, settled, receive, unlessEnded_of_goes goes]
    rfl
  · rw [input, came, nothing, heard, List.append_nil]

/-- The editor closes its side while the reader waits. -/
theorem endInput_follows {s : Server ω} (ready : s.ending? = none → s.readerWaits = false) :
    Follows outside s (s.endInput outside) := by
  cases ending : s.ending? with
  | some how =>
      rw [endInput, unlessEnded_of_over (by simp [ending])]
      exact .refl s
  | none =>
      rw [endInput, unlessEnded_of_goes ending]
      have closed : Follows outside s (Server.ask { s with isClosed := true } .read) := by
        have waits : readerWaits { s with isClosed := true } = false := ready ending
        refine .once .hangUp rfl ?_
        rw [move, unlessEnded_of_goes ending, hangUp, wakeReader, waits]
        rfl
      have counted : Follows outside (Server.ask { s with isClosed := true } .read)
          (Server.ask { s with isClosed := true, turns := 0 } .read) :=
        .once (.count 0) rfl rfl
      exact (closed.trans counted).trans (proceed_follows _ _)

end AsmDiagnostics.Server
