import AsmDiagnostics.Agenda

/-!
# Entering actions

An agenda with a new action holds what it held before and that action.
-/

namespace AsmDiagnostics

namespace Agenda

variable {α : Type}

theorem perm_add (due : Nat) (action : α) (agenda : Agenda α) :
    (add due action agenda).Perm (⟨due, action⟩ :: agenda) := by
  induction agenda with
  | nil => exact List.Perm.refl _
  | cons first rest ih =>
      unfold add
      split
      · exact List.Perm.refl _
      · exact (ih.cons first).trans (List.Perm.swap _ _ _)

theorem filter_add (keep : Planned α → Bool) {due : Nat} {action : α}
    (drops : keep ⟨due, action⟩ = false) (agenda : Agenda α) :
    (add due action agenda).filter keep = agenda.filter keep := by
  induction agenda with
  | nil => simp [add, drops]
  | cons first rest ih =>
      unfold add
      split
      · simp [drops]
      · rw [List.filter_cons, List.filter_cons, ih]

theorem le_after (now millis : Nat) : now ≤ after now millis := Nat.le_add_right _ _

theorem after_zero (now : Nat) : after now 0 = now := by simp [after]

end Agenda

end AsmDiagnostics
