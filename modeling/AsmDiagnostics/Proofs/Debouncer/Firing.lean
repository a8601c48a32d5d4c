import AsmDiagnostics.Proofs.Debouncer.Held

/-!
# When events fire

Of all the events that are scheduled in a sequence of steps, exactly those are delivered whose key
nothing disturbs while time passes for the whole window, each of them once and when its window is
over.  Those whose window is not over yet are the ones that are pending.  A window of more than
thirty years counts as thirty years.
-/

namespace AsmDiagnostics

variable {κ π : Type}

namespace DebounceStep

/-- The time by which a step moves the clock. -/
def millis : DebounceStep κ π → Nat
  | .advance millis => min millis Agenda.longestWait
  | _ => 0

/-- A step that takes back what was scheduled for a key. -/
def Disturbs (key : κ) : DebounceStep κ π → Prop
  | .schedule other _ => other = key
  | .cancel other => other = key
  | .cancelAll => True
  | .drop => True
  | .advance _ => False

instance [DecidableEq κ] (key : κ) : (step : DebounceStep κ π) → Decidable (step.Disturbs key)
  | .schedule other _ => inferInstanceAs (Decidable (other = key))
  | .cancel other => inferInstanceAs (Decidable (other = key))
  | .cancelAll => inferInstanceAs (Decidable True)
  | .drop => inferInstanceAs (Decidable True)
  | .advance _ => inferInstanceAs (Decidable False)

def elapsed : List (DebounceStep κ π) → Nat
  | [] => 0
  | step :: later => step.millis + elapsed later

/-- Time passes for the rest of a window, and nothing disturbs the key before it is over. -/
def Fires (left : Nat) (key : κ) (later : List (DebounceStep κ π)) : Prop :=
  ∃ front, front <+: later ∧ left ≤ elapsed front ∧ ∀ step ∈ front, ¬ step.Disturbs key

/-- The rest of a window is not over yet, and nothing has disturbed the key. -/
def Waits (left : Nat) (key : κ) (later : List (DebounceStep κ π)) : Prop :=
  elapsed later < left ∧ ∀ step ∈ later, ¬ step.Disturbs key

/-- An event that some steps scheduled for a key is still to fire. -/
def Live (delay : Nat) (key : κ) (steps : List (DebounceStep κ π)) : Prop :=
  ∃ before payload after, steps = before ++ .schedule key payload :: after ∧ Waits delay key after

theorem fires_nil {left : Nat} {key : κ} :
    Fires left key ([] : List (DebounceStep κ π)) ↔ left = 0 := by
  constructor
  · rintro ⟨front, inside, past, -⟩
    obtain rfl := List.prefix_nil.mp inside
    exact Nat.le_zero.mp past
  · rintro rfl
    exact ⟨[], List.nil_prefix, Nat.le_refl _, fun _ member => nomatch member⟩

theorem fires_cons {left : Nat} {key : κ} {step : DebounceStep κ π}
    {later : List (DebounceStep κ π)} :
    Fires left key (step :: later) ↔
      left = 0 ∨ ¬ step.Disturbs key ∧ Fires (left - step.millis) key later := by
  constructor
  · rintro ⟨front, inside, past, quiet⟩
    cases front with
    | nil => exact .inl (Nat.le_zero.mp past)
    | cons first front =>
        obtain ⟨rfl, within⟩ := List.cons_prefix_cons.mp inside
        rw [List.forall_mem_cons] at quiet
        refine .inr ⟨quiet.1, front, within, ?_, quiet.2⟩
        simp only [elapsed] at past ⊢
        omega
  · rintro (rfl | ⟨quiet, front, inside, past, others⟩)
    · exact ⟨[], List.nil_prefix, Nat.zero_le _, fun _ member => nomatch member⟩
    · refine ⟨step :: front, List.cons_prefix_cons.mpr ⟨rfl, inside⟩, ?_,
        List.forall_mem_cons.mpr ⟨quiet, others⟩⟩
      simp only [elapsed] at past ⊢
      omega

theorem waits_cons {left : Nat} {key : κ} {step : DebounceStep κ π}
    {later : List (DebounceStep κ π)} :
    Waits left key (step :: later) ↔ ¬ step.Disturbs key ∧ Waits (left - step.millis) key later := by
  unfold Waits
  rw [List.forall_mem_cons]
  simp only [elapsed]
  constructor
  · rintro ⟨early, quiet, others⟩
    exact ⟨quiet, by omega, others⟩
  · rintro ⟨quiet, early, others⟩
    exact ⟨by omega, quiet, others⟩

theorem live_cons {delay : Nat} {key : κ} {step : DebounceStep κ π}
    {later : List (DebounceStep κ π)} :
    Live delay key (step :: later) ↔
      (∃ payload, step = .schedule key payload ∧ Waits delay key later) ∨ Live delay key later := by
  constructor
  · rintro ⟨before, payload, after, parted, waits⟩
    cases before with
    | nil =>
        obtain ⟨rfl, rfl⟩ := List.cons.inj parted
        exact .inl ⟨payload, rfl, waits⟩
    | cons first before =>
        obtain ⟨rfl, rfl⟩ := List.cons.inj parted
        exact .inr ⟨before, payload, after, rfl, waits⟩
  · rintro (⟨payload, rfl, waits⟩ | ⟨before, payload, after, rfl, waits⟩)
    · exact ⟨[], payload, later, rfl, waits⟩
    · exact ⟨step :: before, payload, after, rfl, waits⟩

variable [DecidableEq κ]

instance decidableFires (key : κ) :
    (left : Nat) → (later : List (DebounceStep κ π)) → Decidable (Fires left key later)
  | left, [] => decidable_of_iff (left = 0) fires_nil.symm
  | left, step :: later =>
      have := decidableFires key (left - step.millis) later
      decidable_of_iff (left = 0 ∨ ¬ step.Disturbs key ∧ Fires (left - step.millis) key later)
        fires_cons.symm

instance (left : Nat) (key : κ) (later : List (DebounceStep κ π)) :
    Decidable (Waits left key later) :=
  inferInstanceAs (Decidable (_ ∧ _))

/-- What is to be delivered in some steps that start at a time, of all that they schedule. -/
def owed (delay : Nat) : Nat → List (DebounceStep κ π) → List (Delivery κ π)
  | now, .schedule key payload :: later =>
      if Fires delay key later then ⟨key, payload, now + delay⟩ :: owed delay now later
      else owed delay now later
  | now, step :: later => owed delay (now + step.millis) later
  | _, [] => []

end DebounceStep

namespace DebounceClock

open Debouncer DebounceStep

variable [DecidableEq κ]

/-- The bookkeeping is sound, and every timer sleeps. -/
structure Good (c : DebounceClock κ π) : Prop where
  sound : Sound c.debouncer c.sleepers
  ahead : ∀ entry ∈ c.sleepers, c.now < entry.due

/-- How long an event is held back. -/
def delay (c : DebounceClock κ π) : Nat := min c.window Agenda.longestWait

def fresh (c : DebounceClock κ π) : DebounceStep κ π → List (Delivery κ π)
  | .schedule key payload => [⟨key, payload, c.now + c.delay⟩]
  | _ => []

/-- What may be delivered after a step: the event that it schedules, and those that it does not
disturb. -/
def offered (c : DebounceClock κ π) (step : DebounceStep κ π) : List (Delivery κ π) :=
  c.fresh step ++ c.held.filter fun delivery => ¬ step.Disturbs delivery.key

theorem start_good (window : Nat) : (start window : DebounceClock κ π).Good :=
  ⟨Sound.empty, fun _ member => nomatch member⟩

theorem Good.held_ahead {c : DebounceClock κ π} (h : c.Good) :
    ∀ delivery ∈ c.held, c.now < delivery.time := by
  intro delivery member
  obtain ⟨entry, waits, delivers⟩ := List.mem_filterMap.mp member
  rw [(delivery?_key delivers).2]
  exact h.ahead entry waits

structure Taken (c : DebounceClock κ π) (step : DebounceStep κ π) (turn : DebounceTurn κ π) :
    Prop where
  delivered : turn.deliveries.Perm
    ((c.offered step).filter fun delivery => delivery.time ≤ c.now + step.millis)
  left : turn.clock.held.Perm
    ((c.offered step).filter fun delivery => c.now + step.millis < delivery.time)
  good : turn.clock.Good
  now : turn.clock.now = c.now + step.millis
  window : turn.clock.window = c.window

/-- A step that only drops events delivers nothing. -/
theorem taken_of_dropped {c : DebounceClock κ π} (h : c.Good) {step : DebounceStep κ π}
    {debouncer : Debouncer κ π} (answer : Option Bool) (sound : Sound debouncer c.sleepers)
    (still : step.millis = 0) (none : c.fresh step = [])
    (held : heldBy debouncer c.sleepers =
      c.held.filter fun delivery => ¬ step.Disturbs delivery.key) :
    Taken c step ⟨answer, [], { c with debouncer := debouncer }⟩ := by
  have ahead : ∀ delivery ∈ c.offered step, c.now < delivery.time := by
    intro delivery member
    rw [offered, none, List.nil_append] at member
    exact h.held_ahead delivery (List.mem_filter.mp member).1
  refine ⟨?_, ?_, ⟨sound, h.ahead⟩, by rw [still]; rfl, rfl⟩
  · rw [still, Nat.add_zero]
    refine List.Perm.of_eq (List.filter_eq_nil_iff.mpr fun delivery member => ?_).symm
    simpa using ahead delivery member
  · rw [still, Nat.add_zero]
    refine List.Perm.of_eq (Eq.trans ?_ (List.filter_eq_self.mpr fun delivery member => ?_).symm)
    · rw [offered, none, List.nil_append]
      exact held
    · simpa using ahead delivery member

/-- Moving the clock on delivers what has come due. -/
theorem taken_of_advance {c next : DebounceClock κ π} {step : DebounceStep κ π} (millis : Nat)
    (sound : Sound next.debouncer next.sleepers) (offers : next.held.Perm (c.offered step))
    (window : next.window = c.window)
    (time : Agenda.after next.now millis = c.now + step.millis) :
    Taken c step ⟨none, (next.advance millis).1, (next.advance millis).2⟩ := by
  obtain ⟨delivered, left, kept, later⟩ := wakeAll_spec (c.now + step.millis) sound
  have waking : next.advance millis =
      ((wakeAll (c.now + step.millis) next.debouncer next.sleepers).1,
        { next with
          now := c.now + step.millis
          debouncer := (wakeAll (c.now + step.millis) next.debouncer next.sleepers).2.1
          sleepers := (wakeAll (c.now + step.millis) next.debouncer next.sleepers).2.2 }) := by
    rw [advance, time]
  rw [waking]
  refine ⟨?_, ?_, ⟨kept, later⟩, rfl, window⟩
  · rw [delivered]
    exact offers.filter _
  · exact (List.Perm.of_eq left).trans (offers.filter _)

theorem take_spec {c : DebounceClock κ π} (h : c.Good) (step : DebounceStep κ π) :
    Taken c step (c.take step) := by
  cases step with
  | schedule key payload =>
      refine taken_of_advance 0 (h.sound.schedule key payload _) ?_ rfl ?_
      · refine (h.sound.heldBy_schedule key payload _).trans (List.Perm.of_eq ?_)
        refine congrArg _ (List.filter_congr fun delivery _ => decide_eq_decide.mpr ?_)
        exact not_congr eq_comm
      · exact Agenda.after_zero c.now
  | cancel key =>
      refine taken_of_dropped h _ (h.sound.cancel key) rfl rfl ?_
      refine (Sound.heldBy_cancel key).trans (List.filter_congr fun delivery _ => ?_)
      exact decide_eq_decide.mpr (not_congr eq_comm)
  | cancelAll =>
      refine taken_of_dropped h _ h.sound.cancelAll rfl rfl ?_
      exact Sound.heldBy_cancelAll.trans
        (List.filter_eq_nil_iff.mpr fun delivery _ => by simp [Disturbs]).symm
  | drop =>
      refine taken_of_dropped h _ h.sound.cancelAll rfl rfl ?_
      exact Sound.heldBy_cancelAll.trans
        (List.filter_eq_nil_iff.mpr fun delivery _ => by simp [Disturbs]).symm
  | advance millis =>
      refine taken_of_advance millis h.sound (List.Perm.of_eq ?_) rfl rfl
      exact (List.filter_eq_self.mpr fun delivery _ => by simp [Disturbs]).symm

/-! ## Runs -/

theorem owed_cons (c : DebounceClock κ π) (step : DebounceStep κ π)
    (later : List (DebounceStep κ π)) :
    owed c.delay c.now (step :: later) =
      ((c.fresh step).filter fun delivery =>
        Fires (delivery.time - (c.now + step.millis)) delivery.key later) ++
      owed c.delay (c.now + step.millis) later := by
  cases step with
  | schedule key payload =>
      have left : c.now + c.delay - (c.now + 0) = c.delay := by omega
      simp only [owed, fresh, millis, List.filter_cons, List.filter_nil, Nat.add_zero]
      split
      · rename_i fires
        simp [fires]
      · rename_i fails
        simp [fails]
  | cancel key => rfl
  | cancelAll => rfl
  | drop => rfl
  | advance millis => rfl

/-- What a step offers and later steps do not disturb is delivered at once or later. -/
theorem offered_fires {c : DebounceClock κ π} (h : c.Good) (step : DebounceStep κ π)
    (later : List (DebounceStep κ π)) :
    ((c.offered step).filter fun delivery =>
        Fires (delivery.time - (c.now + step.millis)) delivery.key later) =
      ((c.fresh step).filter fun delivery =>
        Fires (delivery.time - (c.now + step.millis)) delivery.key later) ++
      c.held.filter fun delivery => Fires (delivery.time - c.now) delivery.key (step :: later) := by
  rw [offered, List.filter_append, List.filter_filter]
  refine congrArg _ (List.filter_congr fun delivery member => ?_)
  have ahead := h.held_ahead delivery member
  have left : delivery.time - c.now - step.millis = delivery.time - (c.now + step.millis) := by
    omega
  have some : delivery.time - c.now ≠ 0 := by omega
  rw [← Bool.decide_and, decide_eq_decide, fires_cons, left]
  tauto

/-- In a run those events are delivered that are held back and fire, and those that are owed for the
steps of the run. -/
theorem play_deliveries {c : DebounceClock κ π} (h : c.Good) (steps : List (DebounceStep κ π)) :
    (c.play steps).1.Perm
      (owed c.delay c.now steps ++
        c.held.filter fun delivery => Fires (delivery.time - c.now) delivery.key steps) := by
  induction steps generalizing c with
  | nil =>
      refine List.Perm.of_eq (List.filter_eq_nil_iff.mpr fun delivery member => ?_).symm
      have ahead := h.held_ahead delivery member
      rw [decide_eq_true_eq, fires_nil]
      omega
  | cons step later ih =>
      have taken := take_spec h step
      have rest := ih taken.good
      rw [delay, taken.window, taken.now] at rest
      let fires (delivery : Delivery κ π) : Bool :=
        decide (Fires (delivery.time - (c.now + step.millis)) delivery.key later)
      -- what comes due in the step itself fires whatever comes later
      have atOnce : ((c.offered step).filter fun delivery => delivery.time ≤ c.now + step.millis) =
          ((c.offered step).filter fires).filter
            fun delivery => delivery.time ≤ c.now + step.millis := by
        rw [List.filter_filter]
        refine List.filter_congr fun delivery _ => ?_
        rw [← Bool.decide_and, decide_eq_decide]
        refine ⟨fun due => ⟨due, [], List.nil_prefix, ?_, fun _ member => nomatch member⟩, And.left⟩
        exact Nat.le_of_eq (Nat.sub_eq_zero_of_le due)
      have afterwards : ((c.take step).clock.held.filter fires).Perm
          (((c.offered step).filter fires).filter
            fun delivery => !decide (delivery.time ≤ c.now + step.millis)) := by
        refine (taken.left.filter fires).trans (List.Perm.of_eq ?_)
        rw [List.filter_filter, List.filter_filter]
        refine List.filter_congr fun delivery _ => ?_
        rw [Bool.and_comm, ← decide_not, decide_eq_decide.mpr Nat.not_le]
      have both := (taken.delivered.trans (List.Perm.of_eq atOnce)).append afterwards
      have all := both.trans (List.filter_append_perm _ _)
      rw [offered_fires h] at all
      rw [owed_cons]
      have whole : (c.play (step :: later)).1.Perm
          (((c.take step).deliveries ++ (c.take step).clock.held.filter fires) ++
            owed c.delay (c.now + step.millis) later) := by
        rw [List.append_assoc]
        exact (rest.trans List.perm_append_comm).append_left _
      refine whole.trans ((all.append_right _).trans ?_)
      rw [List.append_assoc, List.append_assoc]
      exact List.perm_append_comm.append_left _

theorem play_good {c : DebounceClock κ π} (h : c.Good) (steps : List (DebounceStep κ π)) :
    (c.play steps).2.Good := by
  induction steps generalizing c with
  | nil => exact h
  | cons step later ih => exact ih (take_spec h step).good

omit [DecidableEq κ] in
theorem mem_fresh {c : DebounceClock κ π} {step : DebounceStep κ π} {delivery : Delivery κ π} :
    delivery ∈ c.fresh step ↔
      ∃ key payload, step = .schedule key payload ∧ delivery = ⟨key, payload, c.now + c.delay⟩ := by
  cases step with
  | schedule key payload => simp [fresh]
  | cancel key => simp [fresh]
  | cancelAll => simp [fresh]
  | drop => simp [fresh]
  | advance millis => simp [fresh]

/-- An event that waits after a step was waiting before it, or the step scheduled it. -/
theorem Taken.waiting {c : DebounceClock κ π} {step : DebounceStep κ π} {turn : DebounceTurn κ π}
    (taken : Taken c step turn) (key : κ) (later : List (DebounceStep κ π)) :
    (∃ delivery ∈ turn.clock.held,
        delivery.key = key ∧ Waits (delivery.time - turn.clock.now) key later) ↔
      (∃ delivery ∈ c.held, delivery.key = key ∧ Waits (delivery.time - c.now) key (step :: later)) ∨
        ∃ payload, step = .schedule key payload ∧ Waits c.delay key later := by
  rw [taken.now]
  constructor
  · rintro ⟨delivery, member, rfl, waits⟩
    obtain ⟨among, -⟩ := List.mem_filter.mp (taken.left.mem_iff.mp member)
    rcases List.mem_append.mp among with new | old
    · obtain ⟨key, payload, rfl, rfl⟩ := mem_fresh.mp new
      refine .inr ⟨payload, rfl, ?_⟩
      simpa [millis] using waits
    · obtain ⟨back, quiet⟩ := List.mem_filter.mp old
      refine .inl ⟨delivery, back, rfl, waits_cons.mpr ⟨of_decide_eq_true quiet, ?_⟩⟩
      rwa [Nat.sub_sub]
  · rintro (⟨delivery, back, rfl, waits⟩ | ⟨payload, rfl, waits⟩)
    · obtain ⟨quiet, waits⟩ := waits_cons.mp waits
      rw [Nat.sub_sub] at waits
      refine ⟨delivery, taken.left.mem_iff.mpr (List.mem_filter.mpr ⟨?_, ?_⟩), rfl, waits⟩
      · exact List.mem_append_right _ (List.mem_filter.mpr ⟨back, decide_eq_true quiet⟩)
      · exact decide_eq_true (Nat.lt_of_sub_pos (Nat.zero_lt_of_lt waits.1))
    · have some : 0 < c.delay := Nat.zero_lt_of_lt waits.1
      refine ⟨⟨key, payload, c.now + c.delay⟩,
        taken.left.mem_iff.mpr (List.mem_filter.mpr ⟨?_, ?_⟩), rfl, ?_⟩
      · exact List.mem_append_left _ (mem_fresh.mpr ⟨key, payload, rfl, rfl⟩)
      · simpa [millis] using some
      · simpa [millis] using waits

/-- Those events are pending after a run that were held back and were left alone, and those that the
run scheduled last. -/
theorem play_held {c : DebounceClock κ π} (h : c.Good) (steps : List (DebounceStep κ π)) (key : κ) :
    (∃ delivery ∈ (c.play steps).2.held, delivery.key = key) ↔
      (∃ delivery ∈ c.held, delivery.key = key ∧ Waits (delivery.time - c.now) key steps) ∨
        Live c.delay key steps := by
  induction steps generalizing c with
  | nil =>
      have nothing : ¬ Live c.delay key ([] : List (DebounceStep κ π)) := by
        rintro ⟨before, payload, after, parted, -⟩
        simp at parted
      rw [or_iff_left nothing]
      refine exists_congr fun delivery => and_congr_right fun member => ?_
      have ahead := h.held_ahead delivery member
      refine (and_iff_left ⟨?_, fun _ member => nomatch member⟩).symm
      exact Nat.sub_pos_of_lt ahead
  | cons step later ih =>
      have taken := take_spec h step
      have rest := ih taken.good
      rw [delay, taken.window] at rest
      rw [live_cons, ← or_assoc, ← taken.waiting key later]
      exact rest

/-- The keys with an event that is held back are the keys of the pending events. -/
theorem Good.mem_pending {c : DebounceClock κ π} (h : c.Good) (key : κ) :
    key ∈ c.debouncer.pending.map PendingEvent.key ↔ ∃ delivery ∈ c.held, delivery.key = key := by
  rw [← h.sound.keys.mem_iff, List.mem_map]
  rfl

/-- Those calls are delivered for which time passes for the whole window before the key is disturbed,
each once and when its window is over.  At the end of the steps the pending keys are those with a
call that is still to fire, and those are the keys that can be cancelled. -/
theorem deliveries_exactly_due (window : Nat) (steps : List (DebounceStep κ π)) :
    let run := (start window : DebounceClock κ π).play steps
    let delay := min window Agenda.longestWait
    run.1.Perm (owed delay 0 steps) ∧
      (∃ keys : List κ, keys.Nodup ∧ (∀ key, key ∈ keys ↔ Live delay key steps) ∧
        run.2.debouncer.pendingCount = keys.length) ∧
      ∀ key, (run.2.take (.cancel key)).cancelled? = some true ↔ Live delay key steps := by
  intro run delay
  have good : run.2.Good := play_good (start_good window) steps
  have live (key : κ) : key ∈ run.2.debouncer.pending.map PendingEvent.key ↔
      Live delay key steps := by
    rw [good.mem_pending]
    refine (play_held (start_good window) steps key).trans (or_iff_right ?_)
    rintro ⟨delivery, member, -⟩
    exact nomatch member
  refine ⟨?_, ⟨_, good.sound.once, live, (List.length_map _).symm⟩, fun key => ?_⟩
  · have run := play_deliveries (start_good window) steps
    rwa [show (start window : DebounceClock κ π).held = [] from rfl, List.filter_nil,
      List.append_nil] at run
  · rw [← live, ← isPending_iff]
    exact Option.some_inj

/-- An event with a window of sixty years is delivered after thirty. -/
theorem sixty_year_window_cut_short :
    let window := 60 * 365 * 86400000
    let steps := [.schedule 0 "a", .advance (30 * 365 * 86400000)]
    ¬ ((start window : DebounceClock Nat String).play steps).1.Perm (owed window 0 steps) := by
  decide

end DebounceClock

end AsmDiagnostics
