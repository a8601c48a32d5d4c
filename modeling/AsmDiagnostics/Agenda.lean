/-!
# Agendas

Actions that wait for their time, in the order in which they will happen: by time, and of two
actions for one time the one that was entered first.
-/

namespace AsmDiagnostics

/-- An action and the time from which it may happen. -/
structure Planned (α : Type) where
  due : Nat
  action : α
  deriving DecidableEq, Repr

/-- Planned actions in the order in which they will happen. -/
abbrev Agenda (α : Type) := List (Planned α)

namespace Agenda

variable {α : Type}

/-- The longest wait in milliseconds: thirty years of 365 days. -/
def longestWait : Nat := 30 * 365 * 86400000

/-- A time after a wait, which is cut to the longest one. -/
def after (now millis : Nat) : Nat := now + min millis longestWait

def add (due : Nat) (action : α) : Agenda α → Agenda α
  | [] => [⟨due, action⟩]
  | first :: rest =>
      if due < first.due then ⟨due, action⟩ :: first :: rest
      else first :: add due action rest

def next? (time : Nat) : Agenda α → Option (Planned α × Agenda α)
  | [] => none
  | first :: rest => if first.due ≤ time then some (first, rest) else none

def Ordered (agenda : Agenda α) : Prop := agenda.Pairwise fun a b => a.due ≤ b.due

theorem mem_add {due : Nat} {action : α} {agenda : Agenda α} {entry : Planned α} :
    entry ∈ add due action agenda ↔ entry = ⟨due, action⟩ ∨ entry ∈ agenda := by
  induction agenda with
  | nil => simp [add]
  | cons first rest ih =>
      unfold add
      split
      · simp
      · simp only [List.mem_cons, ih]
        constructor
        · rintro (h | h | h)
          · exact .inr (.inl h)
          · exact .inl h
          · exact .inr (.inr h)
        · rintro (h | h | h)
          · exact .inr (.inl h)
          · exact .inl h
          · exact .inr (.inr h)

/-- An action that is entered in order keeps what holds between earlier and later actions. -/
theorem pairwise_add {R : Planned α → Planned α → Prop} {due : Nat} {action : α}
    {agenda : Agenda α} (ordered : Ordered agenda) (h : agenda.Pairwise R)
    (behind : ∀ entry ∈ agenda, entry.due ≤ due → R entry ⟨due, action⟩)
    (ahead : ∀ entry ∈ agenda, due < entry.due → R ⟨due, action⟩ entry) :
    (add due action agenda).Pairwise R := by
  induction agenda with
  | nil => exact List.pairwise_singleton R _
  | cons first rest ih =>
      unfold Ordered at ordered ih
      rw [List.pairwise_cons] at ordered h
      rw [List.forall_mem_cons] at behind ahead
      unfold add
      split
      · rename_i early
        refine List.pairwise_cons.mpr ⟨?_, List.pairwise_cons.mpr h⟩
        intro entry member
        rcases List.mem_cons.mp member with same | later
        · subst same
          exact ahead.1 early
        · exact ahead.2 entry later (Nat.lt_of_lt_of_le early (ordered.1 entry later))
      · rename_i late
        refine List.pairwise_cons.mpr ⟨?_, ih ordered.2 h.2 behind.2 ahead.2⟩
        intro entry member
        rcases mem_add.mp member with same | later
        · subst same
          exact behind.1 (Nat.le_of_not_lt late)
        · exact h.1 entry later

theorem add_ordered {due : Nat} {action : α} {agenda : Agenda α} (h : Ordered agenda) :
    Ordered (add due action agenda) :=
  pairwise_add h h (fun _ _ earlier => earlier) (fun _ _ later => Nat.le_of_lt later)

end Agenda

end AsmDiagnostics
