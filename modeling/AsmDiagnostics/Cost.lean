/-!
# What lists cost

Each thing of a list costs something, and the list costs as much as its things together.  Costs bound
the work that is to come, and with costs of one and zero they count.
-/

namespace AsmDiagnostics

def totalCost {α : Type} (cost : α → Nat) : List α → Nat
  | [] => 0
  | a :: rest => cost a + totalCost cost rest

variable {α β : Type}

theorem totalCost_append (cost : α → Nat) (front back : List α) :
    totalCost cost (front ++ back) = totalCost cost front + totalCost cost back := by
  induction front with
  | nil => simp [totalCost]
  | cons a front ih =>
      simp only [List.cons_append, totalCost, ih]
      omega

theorem totalCost_sublist (cost : α → Nat) {first second : List α} (h : first.Sublist second) :
    totalCost cost first ≤ totalCost cost second := by
  induction h with
  | slnil => exact Nat.le_refl _
  | cons a _ ih => exact Nat.le_trans ih (Nat.le_add_left _ _)
  | cons_cons a _ ih => exact Nat.add_le_add_left ih _

theorem totalCost_mem (cost : α → Nat) {all : List α} {a : α} (member : a ∈ all) :
    cost a ≤ totalCost cost all := by
  have one := totalCost_sublist cost (List.singleton_sublist.mpr member)
  simpa [totalCost] using one

theorem totalCost_eq_zero (cost : α → Nat) {all : List α} :
    totalCost cost all = 0 ↔ ∀ a ∈ all, cost a = 0 := by
  induction all with
  | nil => simp [totalCost]
  | cons a rest ih => simp [totalCost, ih]

theorem totalCost_one (all : List α) : totalCost (fun _ => 1) all = all.length := by
  induction all with
  | nil => rfl
  | cons a rest ih =>
      simp only [totalCost, ih, List.length_cons]
      omega

theorem totalCost_perm (cost : α → Nat) {first second : List α} (h : first.Perm second) :
    totalCost cost first = totalCost cost second := by
  induction h with
  | nil => rfl
  | cons a h ih => simp only [totalCost, ih]
  | swap a b rest => simp only [totalCost, Nat.add_left_comm]
  | trans h h' ih ih' => exact ih.trans ih'

/-- What costs nothing may be left out. -/
theorem totalCost_filter (cost : α → Nat) {keep : α → Bool} {all : List α}
    (free : ∀ a ∈ all, keep a = false → cost a = 0) :
    totalCost cost (all.filter keep) = totalCost cost all := by
  induction all with
  | nil => rfl
  | cons a rest ih =>
      rw [List.forall_mem_cons] at free
      rw [List.filter_cons]
      split
      · simp only [totalCost, ih free.2]
      · rename_i dropped
        simp only [totalCost, ih free.2, free.1 (Bool.eq_false_iff.mpr dropped), Nat.zero_add]

theorem totalCost_filter_le (cost : α → Nat) (keep : α → Bool) (all : List α) :
    totalCost cost (all.filter keep) ≤ totalCost cost all :=
  totalCost_sublist cost List.filter_sublist

theorem totalCost_map (cost : β → Nat) (f : α → β) (all : List α) :
    totalCost cost (all.map f) = totalCost (fun a => cost (f a)) all := by
  induction all with
  | nil => rfl
  | cons a rest ih => simp only [List.map_cons, totalCost, ih]

theorem totalCost_le {cost other : α → Nat} (h : ∀ a, other a ≤ cost a) (all : List α) :
    totalCost other all ≤ totalCost cost all := by
  induction all with
  | nil => exact Nat.le_refl _
  | cons a rest ih => exact Nat.add_le_add (h a) ih

theorem totalCost_map_le (cost : α → Nat) (other : β → Nat) (f : α → β)
    (h : ∀ a, other (f a) ≤ cost a) (all : List α) :
    totalCost other (all.map f) ≤ totalCost cost all :=
  totalCost_map other f all ▸ totalCost_le h all

theorem totalCost_filterMap (cost : β → Nat) (f : α → Option β) (all : List α) :
    totalCost cost (all.filterMap f) = totalCost (fun a => (f a).elim 0 cost) all := by
  induction all with
  | nil => rfl
  | cons a rest ih =>
      cases given : f a with
      | none => simp [given, totalCost, ih]
      | some b => simp [given, totalCost, ih]

theorem totalCost_count [DecidableEq α] (a : α) (all : List α) :
    totalCost (fun b => if b = a then 1 else 0) all = all.count a := by
  induction all with
  | nil => rfl
  | cons b rest ih =>
      simp only [totalCost, ih, List.count_cons, beq_iff_eq]
      omega

end AsmDiagnostics
