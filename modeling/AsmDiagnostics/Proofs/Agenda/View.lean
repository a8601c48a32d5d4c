import Mathlib.Data.List.Basic
import AsmDiagnostics.Proofs.Agenda

/-!
# Seeing a part of a list

An observer sees some elements of a list, as something else perhaps.  What is seen of an agenda is an
agenda again: an action that is entered, or taken off, is entered or taken off there too if it is
seen, and otherwise nothing is seen of that.
-/

namespace AsmDiagnostics

section Places

variable {α β : Type}

def rank (seen : α → Bool) (xs : List α) (place : Nat) : Nat := (xs.take place).countP seen

theorem rank_le (seen : α → Bool) (xs : List α) (place : Nat) : rank seen xs place ≤ place :=
  Nat.le_trans List.countP_le_length (List.length_take_le place xs)

/-- Where everything is seen, an element has the place that it has. -/
theorem rank_of_all {see : α → Option β} {seen : α → Bool} {xs : List α} {place : Nat} {y : β}
    (all : ∀ x ∈ xs, seen x = true) (there : (xs.filterMap see)[place]? = some y) :
    ∃ x, xs[place]? = some x ∧ rank seen xs place = place := by
  obtain ⟨inside, -⟩ := List.getElem?_eq_some_iff.mp there
  have within := Nat.lt_of_lt_of_le inside (List.length_filterMap_le ..)
  have every : (xs.take place).countP seen = (xs.take place).length :=
    List.countP_eq_length.mpr fun x member => all x (List.mem_of_mem_take member)
  refine ⟨xs[place], List.getElem?_eq_getElem within, ?_⟩
  rw [rank, every, List.length_take, Nat.min_eq_left (Nat.le_of_lt within)]

theorem exists_split {xs : List α} {place : Nat} {x : α} (found : xs[place]? = some x) :
    ∃ front back, xs = front ++ x :: back ∧ front.length = place := by
  obtain ⟨inside, rfl⟩ := List.getElem?_eq_some_iff.mp found
  exact ⟨xs.take place, xs.drop (place + 1), by simp, by simp; omega⟩

variable {see : α → Option β} {seen : α → Bool} {xs : List α} {place : Nat} {x : α} {y : β}

theorem rank_append {front back : List α} (same : ∀ x, seen x = (see x).isSome) :
    rank seen (front ++ x :: back) front.length = (front.filterMap see).length := by
  rw [rank, List.take_left, List.length_filterMap_eq_countP]
  exact congrArg (List.countP · front) (funext same)

theorem getElem?_rank (same : ∀ x, seen x = (see x).isSome) (found : xs[place]? = some x)
    (sees : see x = some y) : (xs.filterMap see)[rank seen xs place]? = some y := by
  obtain ⟨front, back, rfl, rfl⟩ := exists_split found
  rw [rank_append same, List.filterMap_append, List.filterMap_cons_some sees,
    List.getElem?_append_right (Nat.le_refl _), Nat.sub_self]
  rfl

/-- What is seen is taken out of what is seen. -/
theorem filterMap_eraseIdx_of_some (same : ∀ x, seen x = (see x).isSome)
    (found : xs[place]? = some x) (sees : see x = some y) :
    (xs.eraseIdx place).filterMap see = (xs.filterMap see).eraseIdx (rank seen xs place) := by
  obtain ⟨front, back, rfl, rfl⟩ := exists_split found
  rw [rank_append same, List.eraseIdx_append_of_length_le (Nat.le_refl _), Nat.sub_self,
    List.eraseIdx_cons_zero, List.filterMap_append, List.filterMap_append,
    List.filterMap_cons_some sees, List.eraseIdx_append_of_length_le (Nat.le_refl _), Nat.sub_self,
    List.eraseIdx_cons_zero]

theorem filterMap_eraseIdx_of_none (found : xs[place]? = some x) (unseen : see x = none) :
    (xs.eraseIdx place).filterMap see = xs.filterMap see := by
  obtain ⟨front, back, rfl, rfl⟩ := exists_split found
  rw [List.eraseIdx_append_of_length_le (Nat.le_refl _), Nat.sub_self, List.eraseIdx_cons_zero,
    List.filterMap_append, List.filterMap_append, List.filterMap_cons_none unseen]

/-- What is taken away by what is seen of it. -/
theorem filterMap_filter_seen {keep : α → Bool} {keeps : β → Bool}
    (same : ∀ x ∈ xs, ∀ y, see x = some y → keep x = keeps y) :
    (xs.filter keep).filterMap see = (xs.filterMap see).filter keeps := by
  rw [List.filterMap_filter, List.filter_filterMap]
  refine List.filterMap_congr fun x member => ?_
  cases sees : see x with
  | none => simp
  | some y => cases kept : keep x <;> simp [Option.filter, ← same x member y sees, kept]

/-- Two observers who see the same elements. -/
theorem filterMap_map_seen {sees : α → Option β} {change : β → β}
    (same : ∀ x ∈ xs, sees x = (see x).map change) :
    xs.filterMap sees = (xs.filterMap see).map change := by
  rw [List.map_filterMap]
  exact List.filterMap_congr same

end Places

def Planned.map {α β : Type} (f : α → β) (entry : Planned α) : Planned β :=
  ⟨entry.due, f entry.action⟩

/-- A planned action to an observer of some actions. -/
def Planned.seen? {α β : Type} (see : α → Option β) (entry : Planned α) : Option (Planned β) :=
  (see entry.action).map (Planned.mk entry.due)

namespace Agenda

variable {α β : Type}

def view (see : α → Option β) (agenda : Agenda α) : Agenda β :=
  agenda.filterMap (Planned.seen? see)

theorem mem_view {see : α → Option β} {agenda : Agenda α} {entry : Planned β} :
    entry ∈ agenda.view see ↔
      ∃ own ∈ agenda, see own.action = some entry.action ∧ own.due = entry.due := by
  obtain ⟨due, action⟩ := entry
  simp only [view, Planned.seen?, List.mem_filterMap, Option.map_eq_some_iff, Planned.mk.injEq]
  constructor
  · rintro ⟨own, member, seen, sees, same, rfl⟩
    exact ⟨own, member, sees, same⟩
  · rintro ⟨own, member, sees, same⟩
    exact ⟨own, member, action, sees, same, rfl⟩

/-- An action that is due before all others comes first. -/
theorem add_ahead {due : Nat} {action : α} {agenda : Agenda α}
    (ahead : ∀ entry ∈ agenda, due < entry.due) :
    add due action agenda = ⟨due, action⟩ :: agenda := by
  cases agenda with
  | nil => rfl
  | cons first rest => simp [add, ahead first List.mem_cons_self]

variable {see : α → Option β} {due : Nat} {action : α}

theorem view_add_of_none (unseen : see action = none) (agenda : Agenda α) :
    (add due action agenda).view see = agenda.view see := by
  have nothing : Planned.seen? see ⟨due, action⟩ = none := by simp [Planned.seen?, unseen]
  induction agenda with
  | nil => simp [add, view, nothing]
  | cons first rest ih =>
      unfold add
      split
      · exact List.filterMap_cons_none nothing
      · unfold view at ih ⊢
        rw [List.filterMap_cons, List.filterMap_cons, ih]

/-- An action that is seen takes its place among those that are seen. -/
theorem view_add_of_some {seen : β} (sees : see action = some seen) {agenda : Agenda α}
    (ordered : Ordered agenda) :
    (add due action agenda).view see = (agenda.view see).add due seen := by
  have new : Planned.seen? see ⟨due, action⟩ = some ⟨due, seen⟩ := by simp [Planned.seen?, sees]
  induction agenda with
  | nil => simp [add, view, new]
  | cons first rest ih =>
      unfold Ordered at ordered ih
      rw [List.pairwise_cons] at ordered
      rw [add]
      split
      · rename_i early
        have ahead : ∀ entry ∈ Agenda.view see (first :: rest), due < entry.due := by
          intro entry member
          obtain ⟨own, there, -, same⟩ := mem_view.mp member
          rw [← same]
          rcases List.mem_cons.mp there with rfl | later
          · exact early
          · exact Nat.lt_of_lt_of_le early (ordered.1 own later)
        rw [add_ahead ahead]
        exact List.filterMap_cons_some new
      · rename_i late
        have behind := ih ordered.2
        unfold view at behind ⊢
        rw [List.filterMap_cons, List.filterMap_cons, behind]
        cases first? : Planned.seen? see first with
        | none => rfl
        | some other =>
            obtain ⟨action, -, rfl⟩ := Option.map_eq_some_iff.mp first?
            simp [add, late]

theorem view_map {sees : α → Option β} {change : β → β} {agenda : Agenda α}
    (same : ∀ entry ∈ agenda, sees entry.action = (see entry.action).map change) :
    agenda.view sees = (agenda.view see).map (Planned.map change) := by
  refine filterMap_map_seen fun entry member => ?_
  unfold Planned.seen?
  rw [same entry member]
  cases see entry.action <;> rfl

end Agenda

end AsmDiagnostics
