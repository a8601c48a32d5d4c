import AsmDiagnostics.Debouncer

/-!
# What is held back

For each operation of the debouncer, the event that is pending for every key afterwards.
-/

namespace AsmDiagnostics

namespace Debouncer

variable {κ π : Type} [DecidableEq κ] (d : Debouncer κ π) (key other : κ)

theorem find?_schedule (payload : π) :
    (d.schedule key payload).find? other =
      if other = key then some ⟨key, d.nextGeneration, payload⟩ else d.find? other :=
  Keyed.find?_put _ other d.pending

theorem find?_cancel :
    (d.cancel key).find? other = if other = key then none else d.find? other :=
  Keyed.find?_without key other d.pending

omit other in
theorem isPending_iff : d.isPending key = true ↔ key ∈ d.pending.map PendingEvent.key := by
  simp [isPending, find?, Keyed.find?, List.find?_isSome]

theorem due?_isSome_iff (generation : Nat) :
    (d.due? key generation).isSome ↔
      ∃ event, d.find? key = some event ∧ event.generation = generation := by
  unfold due?
  cases found : d.find? key with
  | none => simp
  | some event =>
      by_cases same : event.generation = generation
      · simp [same]
      · simp [same]

theorem find?_wake_other {key other : κ} (h : other ≠ key) (generation : Nat) :
    (d.wake key generation).find? other = d.find? other := by
  unfold wake
  split
  · rw [find?_cancel, if_neg h]
  · rfl

theorem find?_wake_self {generation : Nat} (due : (d.due? key generation).isSome) :
    (d.wake key generation).find? key = none := by
  unfold wake
  rw [if_pos due, find?_cancel, if_pos rfl]

theorem wake_of_not_due {generation : Nat} (h : ¬ (d.due? key generation).isSome) :
    d.wake key generation = d := wake_of_stale (Option.not_isSome_iff_eq_none.mp h)

theorem lastGeneration_wake (generation : Nat) :
    (d.wake key generation).lastGeneration = d.lastGeneration := by
  unfold wake
  split <;> rfl

end Debouncer

end AsmDiagnostics
