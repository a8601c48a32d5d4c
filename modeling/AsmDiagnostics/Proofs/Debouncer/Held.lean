import Mathlib.Data.List.Perm.Basic
import AsmDiagnostics.Proofs.Agenda
import AsmDiagnostics.Proofs.Debouncer

/-!
# Events that are held back

The events that the sleeping timers will deliver, with the times at which they will.  One step of a
debouncer drops those that it disturbs, adds the event that it schedules, and delivers what has come
due; `Sound` is what every step keeps of the bookkeeping for that.
-/

namespace AsmDiagnostics

variable {κ π : Type} [DecidableEq κ]

namespace Debouncer

variable (d : Debouncer κ π)

/-- A timer that delivers nothing keeps silent, and one that delivers is the one pending. -/
theorem due?_eq (key : κ) (generation : Nat) :
    d.due? key generation =
      ((d.find? key).filter fun event => event.generation = generation).map
        PendingEvent.payload := by
  unfold due?
  cases d.find? key with
  | none => rfl
  | some event =>
      by_cases same : event.generation = generation
      · simp [Option.filter, same]
      · simp [Option.filter, same]

theorem due?_congr {d other : Debouncer κ π} {key : κ} (h : d.find? key = other.find? key)
    (generation : Nat) : d.due? key generation = other.due? key generation := by
  rw [due?_eq, due?_eq, h]

theorem due?_of_none {key : κ} (h : d.find? key = none) (generation : Nat) :
    d.due? key generation = none := by
  rw [due?_eq, h]
  rfl

/-- A timer that wakes up makes no difference to any other timer. -/
theorem due?_wake {generation other : Nat} (apart : other ≠ generation) (key second : κ) :
    (d.wake key generation).due? second other = d.due? second other := by
  by_cases due : (d.due? key generation).isSome
  · by_cases same : second = key
    · subst same
      obtain ⟨event, found, own⟩ := (due?_isSome_iff d second generation).mp due
      rw [due?_of_none _ (find?_wake_self d second due), due?, found]
      simp [own, Ne.symm apart]
    · exact due?_congr (find?_wake_other d same generation) other
  · rw [wake_of_not_due d key due]

theorem due?_cancel (key second : κ) (generation : Nat) :
    (d.cancel key).due? second generation =
      if second = key then none else d.due? second generation := by
  split
  · rename_i same
    exact due?_of_none _ ((find?_cancel d key second).trans (if_pos same)) generation
  · rename_i other
    exact due?_congr ((find?_cancel d key second).trans (if_neg other)) generation

theorem due?_schedule_self (key : κ) (payload : π) :
    (d.schedule key payload).due? key d.nextGeneration = some payload := by
  rw [due?, find?_schedule, if_pos rfl]
  simp

theorem due?_schedule_old (key second : κ) (payload : π) {generation : Nat}
    (old : generation ≤ d.lastGeneration) :
    (d.schedule key payload).due? second generation =
      if second = key then none else d.due? second generation := by
  have newer : d.nextGeneration ≠ generation := Nat.ne_of_gt (Nat.lt_succ_of_le old)
  split
  · rename_i same
    rw [due?, find?_schedule, if_pos same]
    simp [newer]
  · rename_i other
    exact due?_congr ((find?_schedule d key second payload).trans (if_neg other)) generation

end Debouncer

namespace DebounceClock

open Debouncer

def delivery? (d : Debouncer κ π) (entry : Planned (Sleeper κ)) : Option (Delivery κ π) :=
  (d.due? entry.action.key entry.action.generation).map fun payload =>
    ⟨entry.action.key, payload, entry.due⟩

def heldBy (d : Debouncer κ π) (sleepers : Agenda (Sleeper κ)) : List (Delivery κ π) :=
  sleepers.filterMap (delivery? d)

def held (c : DebounceClock κ π) : List (Delivery κ π) := heldBy c.debouncer c.sleepers

theorem delivery?_key {d : Debouncer κ π} {entry : Planned (Sleeper κ)} {delivery : Delivery κ π}
    (h : delivery? d entry = some delivery) :
    delivery.key = entry.action.key ∧ delivery.time = entry.due := by
  obtain ⟨payload, -, rfl⟩ := Option.map_eq_some_iff.mp h
  exact ⟨rfl, rfl⟩

theorem heldBy_congr {d other : Debouncer κ π} {sleepers : Agenda (Sleeper κ)}
    (h : ∀ entry ∈ sleepers, d.due? entry.action.key entry.action.generation =
      other.due? entry.action.key entry.action.generation) :
    heldBy d sleepers = heldBy other sleepers :=
  List.filterMap_congr fun entry member => by rw [delivery?, delivery?, h entry member]

/-- A debouncer that has dropped the event of a key holds the others back as before. -/
theorem heldBy_without {d after : Debouncer κ π} {key : κ} {sleepers : Agenda (Sleeper κ)}
    (h : ∀ entry ∈ sleepers, after.due? entry.action.key entry.action.generation =
      if entry.action.key = key then none
      else d.due? entry.action.key entry.action.generation) :
    heldBy after sleepers = (heldBy d sleepers).filter fun delivery => delivery.key ≠ key := by
  unfold heldBy
  rw [List.filter_filterMap]
  refine List.filterMap_congr fun entry member => ?_
  rw [delivery?, h entry member]
  by_cases same : entry.action.key = key
  · rw [if_pos same]
    cases delivered : delivery? d entry with
    | none => rfl
    | some delivery =>
        have own := (delivery?_key delivered).1.trans same
        simp [Option.filter, own]
  · rw [if_neg same]
    cases delivered : delivery? d entry with
    | none => exact delivered
    | some delivery =>
        have own : delivery.key ≠ key := (delivery?_key delivered).1 ▸ same
        simp only [Option.filter, own, ne_eq, not_false_eq_true, decide_true, if_true]
        exact delivered

/-! ## Sound bookkeeping -/

/-- Timers are in order and have numbers of their own, and each event that is pending is held back by
one of them. -/
structure Sound (d : Debouncer κ π) (sleepers : Agenda (Sleeper κ)) : Prop where
  ordered : Agenda.Ordered sleepers
  distinct : (sleepers.map fun entry => entry.action.generation).Nodup
  bounded : ∀ entry ∈ sleepers, entry.action.generation ≤ d.lastGeneration
  keys : ((heldBy d sleepers).map Delivery.key).Perm (d.pending.map PendingEvent.key)
  once : (d.pending.map PendingEvent.key).Nodup

theorem filter_keys (key : κ) (deliveries : List (Delivery κ π)) :
    (deliveries.filter fun delivery => delivery.key ≠ key).map Delivery.key =
      (deliveries.map Delivery.key).filter fun other => other ≠ key := by
  rw [List.filter_map]
  rfl

theorem heldBy_cons (d : Debouncer κ π) (first : Planned (Sleeper κ))
    (rest : Agenda (Sleeper κ)) :
    heldBy d (first :: rest) = (delivery? d first).toList ++ heldBy d rest := by
  unfold heldBy
  cases delivered : delivery? d first with
  | none => rw [List.filterMap_cons_none delivered]; rfl
  | some delivery => rw [List.filterMap_cons_some delivered]; rfl

namespace Sound

variable {d : Debouncer κ π} {sleepers : Agenda (Sleeper κ)}

theorem empty : Sound (Debouncer.empty : Debouncer κ π) [] :=
  ⟨List.Pairwise.nil, List.nodup_nil, fun _ member => (nomatch member), List.Perm.refl _,
    List.nodup_nil⟩

/-- The event of a key is dropped. -/
theorem without (h : Sound d sleepers) {after : Debouncer κ π} {key : κ}
    (pending : after.pending = Keyed.without PendingEvent.key key d.pending)
    (generation : after.lastGeneration = d.lastGeneration)
    (due : ∀ entry ∈ sleepers, after.due? entry.action.key entry.action.generation =
      if entry.action.key = key then none
      else d.due? entry.action.key entry.action.generation) : Sound after sleepers := by
  refine ⟨h.ordered, h.distinct, generation ▸ h.bounded, ?_, ?_⟩
  · rw [heldBy_without due, filter_keys, pending, Keyed.keys_without]
    exact h.keys.filter _
  · rw [pending]
    exact Keyed.nodup_without h.once key

theorem cancel (h : Sound d sleepers) (key : κ) : Sound (d.cancel key) sleepers :=
  h.without rfl rfl fun entry _ => due?_cancel d key entry.action.key entry.action.generation

theorem heldBy_cancel (key : κ) : heldBy (d.cancel key) sleepers =
    (heldBy d sleepers).filter fun delivery => delivery.key ≠ key :=
  heldBy_without fun entry _ => due?_cancel d key entry.action.key entry.action.generation

theorem heldBy_cancelAll : heldBy d.cancelAll sleepers = [] :=
  List.filterMap_eq_nil_iff.mpr fun _ _ => rfl

theorem cancelAll (h : Sound d sleepers) : Sound d.cancelAll sleepers :=
  ⟨h.ordered, h.distinct, h.bounded, by rw [heldBy_cancelAll]; exact List.Perm.refl _,
    List.nodup_nil⟩

/-- A scheduled event is held back in the place of the one with the same key. -/
theorem heldBy_schedule (h : Sound d sleepers) (key : κ) (payload : π) (due : Nat) :
    (heldBy (d.schedule key payload) (sleepers.add due ⟨key, d.nextGeneration⟩)).Perm
      (⟨key, payload, due⟩ :: (heldBy d sleepers).filter fun delivery => delivery.key ≠ key) := by
  have own : delivery? (d.schedule key payload) ⟨due, ⟨key, d.nextGeneration⟩⟩ =
      some ⟨key, payload, due⟩ := by
    rw [delivery?, due?_schedule_self]
    rfl
  have others : heldBy (d.schedule key payload) sleepers =
      (heldBy d sleepers).filter fun delivery => delivery.key ≠ key :=
    heldBy_without fun entry member =>
      due?_schedule_old d key entry.action.key payload (h.bounded entry member)
  refine ((Agenda.perm_add due ⟨key, d.nextGeneration⟩ sleepers).filterMap _).trans ?_
  rw [List.filterMap_cons_some own]
  exact (List.Perm.of_eq others).cons _

theorem schedule (h : Sound d sleepers) (key : κ) (payload : π) (due : Nat) :
    Sound (d.schedule key payload) (sleepers.add due ⟨key, d.nextGeneration⟩) := by
  have perm := Agenda.perm_add due (Sleeper.mk key d.nextGeneration) sleepers
  refine ⟨Agenda.add_ordered h.ordered, ?_, ?_, ?_, ?_⟩
  · rw [(perm.map _).nodup_iff, List.map_cons, List.nodup_cons]
    refine ⟨?_, h.distinct⟩
    intro member
    obtain ⟨entry, waits, same⟩ := List.mem_map.mp member
    have old := h.bounded entry waits
    rw [same] at old
    exact Nat.not_succ_le_self _ old
  · intro entry member
    rcases Agenda.mem_add.mp member with rfl | old
    · exact Nat.le_refl _
    · exact Nat.le_succ_of_le (h.bounded entry old)
  · refine ((h.heldBy_schedule key payload due).map _).trans ?_
    rw [List.map_cons, filter_keys]
    refine ((h.keys.filter _).cons key).trans ?_
    rw [Debouncer.schedule, Keyed.keys_put]
    exact (List.perm_append_singleton _ _).symm
  · exact Keyed.nodup_put h.once _

/-- A timer that wakes up delivers what it held back, and is gone. -/
theorem tail {first : Planned (Sleeper κ)} {rest : Agenda (Sleeper κ)}
    (h : Sound d (first :: rest)) :
    Sound (d.wake first.action.key first.action.generation) rest ∧
      heldBy (d.wake first.action.key first.action.generation) rest = heldBy d rest := by
  have distinct := List.nodup_cons.mp h.distinct
  have bounded := List.forall_mem_cons.mp h.bounded
  have same : heldBy (d.wake first.action.key first.action.generation) rest = heldBy d rest := by
    refine heldBy_congr fun entry member => due?_wake d ?_ first.action.key entry.action.key
    intro equal
    exact distinct.1 (List.mem_map.mpr ⟨entry, member, equal⟩)
  refine ⟨⟨(List.pairwise_cons.mp h.ordered).2, distinct.2, ?_, ?_, ?_⟩, same⟩
  · rw [lastGeneration_wake]
    exact bounded.2
  · have keys := h.keys
    rw [heldBy_cons, delivery?] at keys
    rw [same]
    unfold wake
    cases due : d.due? first.action.key first.action.generation with
    | none =>
        rw [due] at keys
        exact keys
    | some payload =>
        rw [due] at keys
        -- the key of the first timer occurs once, so that dropping it leaves the others
        have nodup := keys.nodup_iff.mpr h.once
        have others : first.action.key ∉ (heldBy d rest).map Delivery.key :=
          (List.nodup_cons.mp nodup).1
        have dropped := keys.filter fun other => decide (other ≠ first.action.key)
        rw [Option.isSome_some, if_pos rfl]
        simp only [Debouncer.cancel, Keyed.keys_without]
        refine List.Perm.trans (List.Perm.of_eq ?_) dropped
        simp only [Option.map_some, Option.toList_some, List.cons_append, List.nil_append,
          List.map_cons]
        rw [List.filter_cons_of_neg (by simp)]
        refine (List.filter_eq_self.mpr fun other member => decide_eq_true ?_).symm
        rintro rfl
        exact others member
  · unfold wake
    split
    · exact Keyed.nodup_without h.once _
    · exact h.once

end Sound

/-- Waking the timers that are due delivers what they hold back in the order of their times, and
nothing else. -/
theorem wakeAll_spec (time : Nat) {d : Debouncer κ π} {sleepers : Agenda (Sleeper κ)}
    (h : Sound d sleepers) :
    (wakeAll time d sleepers).1 = (heldBy d sleepers).filter (fun delivery => delivery.time ≤ time) ∧
      heldBy (wakeAll time d sleepers).2.1 (wakeAll time d sleepers).2.2 =
        (heldBy d sleepers).filter (fun delivery => time < delivery.time) ∧
      Sound (wakeAll time d sleepers).2.1 (wakeAll time d sleepers).2.2 ∧
      ∀ entry ∈ (wakeAll time d sleepers).2.2, time < entry.due := by
  induction sleepers generalizing d with
  | nil => exact ⟨rfl, rfl, h, fun _ member => nomatch member⟩
  | cons first rest ih =>
      unfold wakeAll
      split
      · rename_i due
        obtain ⟨sound, same⟩ := h.tail
        obtain ⟨delivered, left, kept, later⟩ := ih sound
        have late : ¬ time < first.due := Nat.not_lt.mpr due
        rw [same] at delivered left
        rw [heldBy_cons, delivery?]
        cases payload : d.due? first.action.key first.action.generation with
        | none => exact ⟨delivered, left, kept, later⟩
        | some payload =>
            refine ⟨?_, ?_, kept, later⟩
            · simp only [Option.map_some, Option.toList_some, List.cons_append, List.nil_append]
              rw [List.filter_cons_of_pos (by simpa using due), ← delivered]
            · simp only [Option.map_some, Option.toList_some, List.cons_append, List.nil_append]
              rw [List.filter_cons_of_neg (by simpa using due), ← left]
      · rename_i early
        have ahead : ∀ entry ∈ first :: rest, time < entry.due := by
          intro entry member
          rcases List.mem_cons.mp member with rfl | behind
          · exact Nat.lt_of_not_le early
          · exact Nat.lt_of_lt_of_le (Nat.lt_of_not_le early)
              ((List.pairwise_cons.mp h.ordered).1 entry behind)
        have times : ∀ delivery ∈ heldBy d (first :: rest), time < delivery.time := by
          intro delivery member
          obtain ⟨entry, waits, delivers⟩ := List.mem_filterMap.mp member
          rw [(delivery?_key delivers).2]
          exact ahead entry waits
        refine ⟨?_, ?_, h, ahead⟩
        · refine (List.filter_eq_nil_iff.mpr fun delivery member => ?_).symm
          simpa using times delivery member
        · refine (List.filter_eq_self.mpr fun delivery member => ?_).symm
          simpa using times delivery member

end DebounceClock

end AsmDiagnostics
