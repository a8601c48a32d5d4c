import Mathlib.Data.List.Induction
import AsmDiagnostics.Proofs.Debouncer

/-!
# Timers that wake up late

A timer cannot always be stopped in time: it may look at the pending events long after its event was
replaced, cancelled or dropped with all others, and any number of such timers may be about. Here the
timers that were ever started take their looks in any order, at any moment and any number of times.
A timer finds its event pending exactly when nothing has disturbed the key since the event was
scheduled and the timer has not found it before; otherwise its look changes nothing.
-/

namespace AsmDiagnostics

/-- What is done with a debouncer, and the looks of its timers. -/
inductive LateStep (κ π : Type) where
  | schedule (key : κ) (payload : π)
  | cancel (key : κ)
  | cancelAll
  /-- The timer that was started as the given one, counted from zero, looks for its event. -/
  | look (timer : Nat)
  deriving DecidableEq, Repr

namespace LateStep

variable {κ π : Type}

/-- A step that takes back what was scheduled for a key. -/
def Disturbs (key : κ) : LateStep κ π → Prop
  | .schedule other _ => other = key
  | .cancel other => other = key
  | .cancelAll => True
  | .look _ => False

instance [DecidableEq κ] (key : κ) : (step : LateStep κ π) → Decidable (step.Disturbs key)
  | .schedule other _ => inferInstanceAs (Decidable (other = key))
  | .cancel other => inferInstanceAs (Decidable (other = key))
  | .cancelAll => inferInstanceAs (Decidable True)
  | .look _ => inferInstanceAs (Decidable False)

def starts : LateStep κ π → Nat
  | .schedule _ _ => 1
  | _ => 0

def started : List (LateStep κ π) → Nat
  | [] => 0
  | step :: rest => step.starts + started rest

def Started (steps : List (LateStep κ π)) (timer : Nat) (key : κ) (payload : π) : Prop :=
  ∃ before after, steps = before ++ .schedule key payload :: after ∧ started before = timer

/-- The event of a timer is still to be found: since it was scheduled nothing has disturbed its key,
and the timer has not looked for it. -/
def Live (steps : List (LateStep κ π)) (timer : Nat) (key : κ) (payload : π) : Prop :=
  ∃ before after, steps = before ++ .schedule key payload :: after ∧ started before = timer ∧
    ∀ step ∈ after, ¬ step.Disturbs key ∧ step ≠ .look timer

theorem started_append (steps others : List (LateStep κ π)) :
    started (steps ++ others) = started steps + started others := by
  induction steps with
  | nil => exact (Nat.zero_add _).symm
  | cons first rest ih => rw [List.cons_append, started, started, ih, Nat.add_assoc]

theorem started_concat (steps : List (LateStep κ π)) (step : LateStep κ π) :
    started (steps ++ [step]) = started steps + step.starts := started_append steps [step]

/-- A list that ends in a step is parted at a schedule: at that step, or before it. -/
theorem parted_concat {steps before after : List (LateStep κ π)} {step first : LateStep κ π} :
    steps ++ [step] = before ++ first :: after ↔
      (after = [] ∧ step = first ∧ steps = before) ∨
        ∃ others, after = others ++ [step] ∧ steps = before ++ first :: others := by
  constructor
  · intro parted
    rcases List.eq_nil_or_concat after with rfl | ⟨others, last, rfl⟩
    · obtain ⟨same, ends⟩ := List.append_inj' parted rfl
      exact .inl ⟨rfl, List.head_eq_of_cons_eq ends, same⟩
    · rw [List.concat_eq_append, ← List.cons_append, ← List.append_assoc] at parted
      obtain ⟨same, ends⟩ := List.append_inj' parted rfl
      obtain rfl := List.head_eq_of_cons_eq ends
      exact .inr ⟨others, List.concat_eq_append, same⟩
  · rintro (⟨rfl, rfl, rfl⟩ | ⟨others, rfl, rfl⟩)
    · rfl
    · simp

theorem started_concat_iff {steps : List (LateStep κ π)} {step : LateStep κ π} {timer : Nat}
    {key : κ} {payload : π} :
    Started (steps ++ [step]) timer key payload ↔
      (step = .schedule key payload ∧ started steps = timer) ∨ Started steps timer key payload := by
  unfold Started
  simp only [parted_concat]
  constructor
  · rintro ⟨before, after, ⟨-, rfl, rfl⟩ | ⟨others, -, rfl⟩, number⟩
    · exact .inl ⟨rfl, number⟩
    · exact .inr ⟨before, others, rfl, number⟩
  · rintro (⟨rfl, number⟩ | ⟨before, others, rfl, number⟩)
    · exact ⟨steps, [], .inl ⟨rfl, rfl, rfl⟩, number⟩
    · exact ⟨before, others ++ [step], .inr ⟨others, rfl, rfl⟩, number⟩

theorem live_concat_iff {steps : List (LateStep κ π)} {step : LateStep κ π} {timer : Nat}
    {key : κ} {payload : π} :
    Live (steps ++ [step]) timer key payload ↔
      (step = .schedule key payload ∧ started steps = timer) ∨
        (Live steps timer key payload ∧ ¬ step.Disturbs key ∧ step ≠ .look timer) := by
  unfold Live
  simp only [parted_concat]
  constructor
  · rintro ⟨before, after, ⟨-, rfl, rfl⟩ | ⟨others, rfl, rfl⟩, number, quiet⟩
    · exact .inl ⟨rfl, number⟩
    · rw [List.forall_mem_append] at quiet
      exact .inr ⟨⟨before, others, rfl, number, quiet.1⟩, quiet.2 step (List.mem_singleton_self _)⟩
  · rintro (⟨rfl, number⟩ | ⟨⟨before, others, rfl, number, quiet⟩, last⟩)
    · exact ⟨steps, [], .inl ⟨rfl, rfl, rfl⟩, number, fun _ member => nomatch member⟩
    · refine ⟨before, others ++ [step], .inr ⟨others, rfl, rfl⟩, number, ?_⟩
      rw [List.forall_mem_append]
      exact ⟨quiet, fun other member => List.mem_singleton.mp member ▸ last⟩

theorem Live.started {steps : List (LateStep κ π)} {timer : Nat} {key : κ} {payload : π}
    (h : Live steps timer key payload) : Started steps timer key payload := by
  obtain ⟨before, after, parted, number, -⟩ := h
  exact ⟨before, after, parted, number⟩

theorem Started.lt {steps : List (LateStep κ π)} {timer : Nat} {key : κ} {payload : π}
    (h : Started steps timer key payload) : timer < started steps := by
  obtain ⟨before, after, rfl, rfl⟩ := h
  simp only [started_append, LateStep.started, starts]
  omega

end LateStep

/-- A debouncer and all timers that it has started, with the events that they were started for. -/
structure Alarms (κ π : Type) where
  debouncer : Debouncer κ π
  timers : List (PendingEvent κ π)

/-- The handler is called by a timer. -/
structure AlarmCall (κ π : Type) where
  timer : Nat
  key : κ
  payload : π
  deriving DecidableEq, Repr

namespace Alarms

open LateStep

variable {κ π : Type} [DecidableEq κ]

def start : Alarms κ π := ⟨Debouncer.empty, []⟩

/-- A timer looks for its event, and calls the handler if it finds it. -/
def look (a : Alarms κ π) (timer : Nat) : Option (AlarmCall κ π) × Alarms κ π :=
  match a.timers[timer]? with
  | none => (none, a)
  | some own =>
      ((a.debouncer.due? own.key own.generation).map fun payload => ⟨timer, own.key, payload⟩,
        { a with debouncer := a.debouncer.wake own.key own.generation })

/-- Takes a step: the call of the handler that it leads to, and what is left. -/
def take (a : Alarms κ π) : LateStep κ π → Option (AlarmCall κ π) × Alarms κ π
  | .schedule key payload =>
      (none, ⟨a.debouncer.schedule key payload,
        a.timers ++ [⟨key, a.debouncer.nextGeneration, payload⟩]⟩)
  | .cancel key => (none, { a with debouncer := a.debouncer.cancel key })
  | .cancelAll => (none, { a with debouncer := a.debouncer.cancelAll })
  | .look timer => a.look timer

/-- Takes one step after another: all calls of the handler, and what is left at the end. -/
def play (a : Alarms κ π) : List (LateStep κ π) → List (AlarmCall κ π) × Alarms κ π
  | [] => ([], a)
  | step :: later =>
      let (call?, next) := a.take step
      let (calls, last) := next.play later
      (call?.toList ++ calls, last)

def calls (steps : List (LateStep κ π)) : List (AlarmCall κ π) := (start.play steps).1

def after (steps : List (LateStep κ π)) : Alarms κ π := (start.play steps).2

theorem play_concat (a : Alarms κ π) (steps : List (LateStep κ π)) (step : LateStep κ π) :
    a.play (steps ++ [step]) =
      ((a.play steps).1 ++ ((a.play steps).2.take step).1.toList,
        ((a.play steps).2.take step).2) := by
  induction steps generalizing a with
  | nil => simp [play]
  | cons first later ih => simp [play, ih]

theorem calls_concat (steps : List (LateStep κ π)) (step : LateStep κ π) :
    calls (steps ++ [step]) = calls steps ++ ((after steps).take step).1.toList :=
  congrArg Prod.fst (play_concat start steps step)

theorem after_concat (steps : List (LateStep κ π)) (step : LateStep κ π) :
    after (steps ++ [step]) = ((after steps).take step).2 :=
  congrArg Prod.snd (play_concat start steps step)

/-- The timers and the pending events after some steps: a timer for every event that was scheduled,
with its number for its generation, and those events that are still to be found. -/
structure Keeps (steps : List (LateStep κ π)) (a : Alarms κ π) : Prop where
  number : a.debouncer.lastGeneration = started steps
  length : a.timers.length = started steps
  timers : ∀ timer own, a.timers[timer]? = some own ↔
    own.generation = timer + 1 ∧ Started steps timer own.key own.payload
  pending : ∀ key event, a.debouncer.find? key = some event ↔
    event.key = key ∧ ∃ timer, event.generation = timer + 1 ∧ Live steps timer key event.payload

namespace Keeps

variable {steps : List (LateStep κ π)} {a : Alarms κ π}

theorem start : Keeps ([] : List (LateStep κ π)) Alarms.start := by
  refine ⟨rfl, rfl, fun timer own => iff_of_false nofun ?_, fun key event => iff_of_false nofun ?_⟩
  · rintro ⟨-, begun⟩
    exact Nat.not_lt_zero _ begun.lt
  · rintro ⟨-, timer, -, live⟩
    exact Nat.not_lt_zero _ live.started.lt

theorem timer_of_started (h : Keeps steps a) {timer : Nat} {key : κ} {payload : π}
    (begun : Started steps timer key payload) :
    a.timers[timer]? = some ⟨key, timer + 1, payload⟩ :=
  (h.timers timer ⟨key, timer + 1, payload⟩).mpr ⟨rfl, begun⟩

/-- A timer was started for one event. -/
theorem started_unique (h : Keeps steps a) {timer : Nat} {key other : κ} {payload second : π}
    (begun : Started steps timer key payload) (again : Started steps timer other second) :
    key = other := by
  have same := Option.some.inj ((h.timer_of_started begun).symm.trans (h.timer_of_started again))
  exact congrArg PendingEvent.key same

theorem find?_of_live (h : Keeps steps a) {timer : Nat} {key : κ} {payload : π}
    (live : Live steps timer key payload) :
    a.debouncer.find? key = some ⟨key, timer + 1, payload⟩ :=
  (h.pending key ⟨key, timer + 1, payload⟩).mpr ⟨rfl, timer, rfl, live⟩

/-- No two timers have an event to be found for one key. -/
theorem live_unique (h : Keeps steps a) {timer other : Nat} {key : κ} {payload second : π}
    (live : Live steps timer key payload) (again : Live steps other key second) :
    timer = other := by
  have same := Option.some.inj ((h.find?_of_live live).symm.trans (h.find?_of_live again))
  exact Nat.succ.inj (congrArg PendingEvent.generation same)

/-- A timer that finds its event calls the handler, and the event is no longer pending. -/
theorem look_of_live (h : Keeps steps a) {timer : Nat} {key : κ} {payload : π}
    (live : Live steps timer key payload) :
    a.look timer =
      (some ⟨timer, key, payload⟩, { a with debouncer := a.debouncer.cancel key }) := by
  have due : a.debouncer.due? key (timer + 1) = some payload := by
    rw [Debouncer.due?, h.find?_of_live live]
    exact if_pos rfl
  simp only [look, h.timer_of_started live.started, due, Debouncer.wake, Option.map_some,
    Option.isSome_some, if_true]

/-- A timer that does not find its event leaves everything as it is. -/
theorem look_of_not_live (h : Keeps steps a) {timer : Nat}
    (stale : ∀ key payload, ¬ Live steps timer key payload) : a.look timer = (none, a) := by
  unfold look
  cases found : a.timers[timer]? with
  | none => rfl
  | some own =>
      have number := ((h.timers timer own).mp found).1
      have silent : a.debouncer.due? own.key own.generation = none := by
        refine Option.not_isSome_iff_eq_none.mp fun due => ?_
        obtain ⟨event, pending, same⟩ := (Debouncer.due?_isSome_iff _ _ _).mp due
        obtain ⟨-, other, generation, live⟩ := (h.pending own.key event).mp pending
        obtain rfl : other = timer := by omega
        exact stale own.key event.payload live
      simp only [silent, Option.map_none, Debouncer.wake_of_stale silent]

theorem schedule (h : Keeps steps a) (key : κ) (payload : π) :
    Keeps (steps ++ [.schedule key payload]) (a.take (.schedule key payload)).2 := by
  have next : a.debouncer.nextGeneration = LateStep.started steps + 1 := congrArg (· + 1) h.number
  constructor
  case number =>
    rw [started_concat]
    exact next
  case length =>
    rw [started_concat, ← h.length]
    exact List.length_append
  case timers =>
    intro timer own
    rw [started_concat_iff]
    simp only [take, List.getElem?_append]
    split
    · rename_i old
      rw [h.timers]
      have apart : LateStep.started steps ≠ timer := h.length ▸ Nat.ne_of_gt old
      simp [apart]
    · rename_i new
      have behind : LateStep.started steps ≤ timer := h.length ▸ Nat.le_of_not_lt new
      have unknown : ¬ Started steps timer own.key own.payload := fun begun =>
        Nat.not_lt_of_le behind begun.lt
      rw [List.getElem?_singleton, h.length]
      obtain ⟨other, generation, second⟩ := own
      simp only [unknown, or_false, LateStep.schedule.injEq, next]
      split
      · simp only [Option.some.injEq, PendingEvent.mk.injEq]
        constructor
        · rintro ⟨rfl, rfl, rfl⟩
          exact ⟨by omega, ⟨rfl, rfl⟩, by omega⟩
        · rintro ⟨rfl, ⟨rfl, rfl⟩, rfl⟩
          exact ⟨rfl, rfl, rfl⟩
      · refine iff_of_false nofun ?_
        rintro ⟨-, -, rfl⟩
        omega
  case pending =>
    intro other event
    simp only [take, Debouncer.find?_schedule, live_concat_iff]
    split
    · rename_i same
      subst same
      simp only [Option.some.injEq, next, LateStep.schedule.injEq, Disturbs, true_and,
        not_true_eq_false, false_and, and_false, or_false]
      constructor
      · rintro rfl
        exact ⟨rfl, _, rfl, rfl, rfl⟩
      · rintro ⟨key, timer, generation, payload, number⟩
        cases event
        simp_all
    · rename_i different
      rw [h.pending]
      simp [Disturbs, Ne.symm different]

/-- A step that starts no timer. -/
theorem idle (h : Keeps steps a) {step : LateStep κ π} {debouncer : Debouncer κ π}
    (none : step.starts = 0) (number : debouncer.lastGeneration = a.debouncer.lastGeneration)
    (pending : ∀ key event, debouncer.find? key = some event ↔ event.key = key ∧ ∃ timer,
      event.generation = timer + 1 ∧ Live steps timer key event.payload ∧
        ¬ step.Disturbs key ∧ step ≠ .look timer) :
    Keeps (steps ++ [step]) ⟨debouncer, a.timers⟩ := by
  have same : LateStep.started (steps ++ [step]) = LateStep.started steps := by
    rw [started_concat, none, Nat.add_zero]
  have other (key : κ) (payload : π) : step ≠ .schedule key payload := by
    rintro rfl
    exact nomatch none
  constructor
  case number => exact (number.trans h.number).trans same.symm
  case length => exact h.length.trans same.symm
  case timers =>
    intro timer own
    simp only [started_concat_iff, other, false_and, false_or]
    exact h.timers timer own
  case pending =>
    intro key event
    simp only [live_concat_iff, other, false_and, false_or]
    exact pending key event

theorem cancel (h : Keeps steps a) (key : κ) :
    Keeps (steps ++ [.cancel key]) (a.take (.cancel key)).2 := by
  refine h.idle rfl rfl fun other event => ?_
  rw [Debouncer.find?_cancel]
  split
  · rename_i same
    simp [same, Disturbs]
  · rename_i different
    rw [h.pending]
    simp [Disturbs, Ne.symm different]

theorem cancelAll (h : Keeps steps a) :
    Keeps (steps ++ [.cancelAll]) (a.take .cancelAll).2 := by
  refine h.idle rfl rfl fun key event => ?_
  simp [Debouncer.find?, Debouncer.cancelAll_pending, Disturbs]

theorem look (h : Keeps steps a) (timer : Nat) :
    Keeps (steps ++ [.look timer]) (a.take (.look timer)).2 := by
  by_cases found : ∃ own payload, Live steps timer own payload
  · obtain ⟨own, payload, live⟩ := found
    rw [Alarms.take, h.look_of_live live]
    refine h.idle rfl rfl fun key event => ?_
    rw [Debouncer.find?_cancel]
    split
    · rename_i same
      subst same
      refine iff_of_false nofun ?_
      rintro ⟨-, other, -, again, -, apart⟩
      exact apart (congrArg _ (h.live_unique live again))
    · rename_i different
      rw [h.pending]
      refine and_congr_right fun _ => exists_congr fun other => and_congr_right fun _ => ?_
      refine (and_iff_left_of_imp fun again => ⟨id, ?_⟩).symm
      rintro ⟨⟩
      exact different (h.started_unique again.started live.started)
  · have stale : ∀ own payload, ¬ Live steps timer own payload :=
      fun own payload live => found ⟨own, payload, live⟩
    rw [Alarms.take, h.look_of_not_live stale]
    refine h.idle rfl rfl fun key event => ?_
    rw [h.pending]
    refine and_congr_right fun _ => exists_congr fun other => and_congr_right fun _ => ?_
    refine (and_iff_left_of_imp fun again => ⟨id, ?_⟩).symm
    rintro ⟨⟩
    exact stale key event.payload again

theorem take (h : Keeps steps a) (step : LateStep κ π) :
    Keeps (steps ++ [step]) (a.take step).2 := by
  cases step with
  | schedule key payload => exact h.schedule key payload
  | cancel key => exact h.cancel key
  | cancelAll => exact h.cancelAll
  | look timer => exact h.look timer

end Keeps

theorem keeps_after (steps : List (LateStep κ π)) : Keeps steps (after steps) := by
  induction steps using List.reverseRecOn with
  | nil => exact Keeps.start
  | append_singleton steps step ih =>
      rw [after_concat]
      exact ih.take step

/-- Only a timer that finds its event calls the handler. -/
theorem take_eq_some_iff {steps : List (LateStep κ π)} {step : LateStep κ π}
    {call : AlarmCall κ π} :
    ((after steps).take step).1 = some call ↔
      step = .look call.timer ∧ Live steps call.timer call.key call.payload := by
  have kept := keeps_after steps
  constructor
  · intro called
    cases step with
    | look timer =>
        by_cases found : ∃ key payload, Live steps timer key payload
        · obtain ⟨key, payload, live⟩ := found
          rw [take, kept.look_of_live live] at called
          obtain rfl := Option.some.inj called
          exact ⟨rfl, live⟩
        · have silent := kept.look_of_not_live fun key payload live => found ⟨key, payload, live⟩
          rw [take, silent] at called
          exact nomatch called
    | _ => exact nomatch called
  · rintro ⟨rfl, live⟩
    rw [take, kept.look_of_live live]

/-- Whatever the handler is called for is not to be found any more. -/
theorem not_live_of_called {steps : List (LateStep κ π)} {call : AlarmCall κ π}
    (called : call ∈ calls steps) :
    call.timer < started steps ∧ ∀ key payload, ¬ Live steps call.timer key payload := by
  induction steps using List.reverseRecOn with
  | nil => exact nomatch called
  | append_singleton steps step ih =>
      rw [calls_concat, List.mem_append, Option.mem_toList] at called
      rw [started_concat]
      simp only [live_concat_iff]
      rcases called with old | new
      · obtain ⟨known, stale⟩ := ih old
        refine ⟨Nat.lt_add_right _ known, fun key payload again => ?_⟩
        rcases again with ⟨-, number⟩ | ⟨live, -⟩
        · exact Nat.ne_of_gt known number
        · exact stale key payload live
      · obtain ⟨rfl, live⟩ := take_eq_some_iff.mp new
        refine ⟨Nat.lt_add_right _ live.started.lt, fun key payload again => ?_⟩
        rcases again with ⟨other, -⟩ | ⟨-, -, other⟩
        · exact nomatch other
        · exact other rfl

/-- Every call of the handler is made by a timer that looks for its event when nothing has disturbed
the key since the event was scheduled. -/
theorem looked_of_called {steps : List (LateStep κ π)} {call : AlarmCall κ π}
    (called : call ∈ calls steps) :
    ∃ before later, steps = before ++ .look call.timer :: later ∧
      Live before call.timer call.key call.payload := by
  induction steps using List.reverseRecOn with
  | nil => exact nomatch called
  | append_singleton steps step ih =>
      rw [calls_concat, List.mem_append, Option.mem_toList] at called
      rcases called with old | new
      · obtain ⟨before, later, rfl, live⟩ := ih old
        exact ⟨before, later ++ [step], by simp, live⟩
      · obtain ⟨rfl, live⟩ := take_eq_some_iff.mp new
        exact ⟨steps, [], rfl, live⟩

theorem calls_nodup (steps : List (LateStep κ π)) :
    ((calls steps).map AlarmCall.timer).Nodup := by
  induction steps using List.reverseRecOn with
  | nil => exact List.nodup_nil
  | append_singleton steps step ih =>
      rw [calls_concat]
      cases new : ((after steps).take step).1 with
      | none =>
          rw [Option.toList_none, List.append_nil]
          exact ih
      | some call =>
          obtain ⟨-, live⟩ := take_eq_some_iff.mp new
          rw [Option.toList_some, List.map_append, List.nodup_append]
          refine ⟨ih, List.pairwise_singleton _ _, ?_⟩
          rintro timer old other last rfl
          obtain rfl := List.mem_singleton.mp last
          obtain ⟨earlier, called, same⟩ := List.mem_map.mp old
          rw [← same] at live
          exact (not_live_of_called called).2 _ _ live

/-- In whatever order timers look for their events, the handler is called for an event only if
nothing has disturbed its key between its schedule and the look, and at most once. A timer whose
event is not to be found any more changes nothing, and none removes the event of another. -/
theorem late_timers_change_nothing (steps : List (LateStep κ π)) :
    (∀ call ∈ calls steps, ∃ before later, steps = before ++ .look call.timer :: later ∧
      Live before call.timer call.key call.payload) ∧
    ((calls steps).map AlarmCall.timer).Nodup ∧
    ∀ timer,
      (∀ key payload, Live steps timer key payload →
        ((after steps).take (.look timer)).1 = some ⟨timer, key, payload⟩) ∧
      ((∀ key payload, ¬ Live steps timer key payload) →
        (after steps).take (.look timer) = (none, after steps)) ∧
      ∀ other key payload, other ≠ timer → Live steps other key payload →
        ((after steps).take (.look timer)).2.debouncer.find? key =
          some ⟨key, other + 1, payload⟩ := by
  refine ⟨fun call => looked_of_called, calls_nodup steps, fun timer => ⟨?_, ?_, ?_⟩⟩
  · intro key payload live
    exact take_eq_some_iff.mpr ⟨rfl, live⟩
  · intro stale
    exact (keeps_after steps).look_of_not_live stale
  · intro other key payload apart live
    have still : Live (steps ++ [.look timer]) other key payload := by
      refine live_concat_iff.mpr (.inr ⟨live, not_false, ?_⟩)
      rintro ⟨⟩
      exact apart rfl
    exact ((keeps_after steps).look timer).find?_of_live still

/-- Two timers that were replaced and cancelled look before and after the third, whose event alone
is delivered. -/
theorem third_timer_alone_delivers :
    let steps : List (LateStep Nat String) :=
      [.schedule 7 "a", .schedule 7 "b", .look 0, .cancel 7, .schedule 7 "c"]
    (∀ key payload, ¬ Live steps 1 key payload) ∧
      (after steps).take (.look 1) = (none, after steps) ∧
      calls (steps ++ [.look 1, .look 2, .look 0, .look 2]) = [⟨2, 7, "c"⟩] := by
  intro steps
  have stale : ∀ key payload, ¬ Live steps 1 key payload := by
    rintro key payload ⟨before, later, parted, number, quiet⟩
    rcases before with _ | ⟨first, _ | ⟨second, before⟩⟩
    · exact absurd number Nat.zero_ne_one
    · -- the event was scheduled by the second step, and the fourth cancelled it
      obtain ⟨-, ⟨rfl, rfl⟩, rfl⟩ : first = _ ∧ _ ∧ _ = later := by
        simpa [steps, eq_comm] using parted
      exact (quiet (.cancel 7) (by simp)).1 rfl
    · obtain ⟨rfl, rfl, -⟩ : first = _ ∧ second = _ ∧ _ := by
        simpa [steps, eq_comm] using parted
      simp [started, starts] at number
  exact ⟨stale, ((late_timers_change_nothing steps).2.2 1).2.1 stale, by decide⟩

end Alarms

end AsmDiagnostics
