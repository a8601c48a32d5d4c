/-!
# Lists with keys

Each entry of a list has a key.  An entry that is put into the list takes the place of the one with
the same key, so that no key has two entries.
-/

namespace AsmDiagnostics.Keyed

variable {α κ : Type} [DecidableEq κ] (keyOf : α → κ)

def find? (key : κ) (entries : List α) : Option α := entries.find? fun entry => keyOf entry = key

def without (key : κ) (entries : List α) : List α := entries.filter fun entry => keyOf entry ≠ key

def put (entry : α) (entries : List α) : List α := without keyOf (keyOf entry) entries ++ [entry]

@[simp] theorem find?_nil (key : κ) : find? keyOf key [] = none := rfl

@[simp] theorem without_nil (key : κ) : without keyOf key [] = [] := rfl

variable {keyOf}

theorem mem_without {key : κ} {entries : List α} {entry : α} :
    entry ∈ without keyOf key entries ↔ entry ∈ entries ∧ keyOf entry ≠ key := by
  simp [without]

theorem mem_put {new entry : α} {entries : List α} :
    entry ∈ put keyOf new entries ↔ (entry ∈ entries ∧ keyOf entry ≠ keyOf new) ∨ entry = new := by
  simp [put, mem_without]

theorem find?_without (key other : κ) (entries : List α) :
    find? keyOf other (without keyOf key entries) =
      if other = key then none else find? keyOf other entries := by
  unfold find?
  split
  · rename_i same
    rw [List.find?_eq_none]
    intro entry member
    simpa [same] using (mem_without.mp member).2
  · rename_i different
    rw [without, List.find?_filter]
    congr 1
    funext entry
    by_cases same : keyOf entry = other
    · simp [same, different]
    · simp [same]

theorem find?_put (entry : α) (other : κ) (entries : List α) :
    find? keyOf other (put keyOf entry entries) =
      if other = keyOf entry then some entry else find? keyOf other entries := by
  have behind : find? keyOf other (without keyOf (keyOf entry) entries) =
      if other = keyOf entry then none else find? keyOf other entries := find?_without ..
  unfold find? at behind ⊢
  rw [put, List.find?_append, behind]
  by_cases same : other = keyOf entry
  · simp [same]
  · simp [same, Ne.symm same]

theorem keys_without (key : κ) (entries : List α) :
    (without keyOf key entries).map keyOf = (entries.map keyOf).filter fun other => other ≠ key := by
  rw [List.filter_map]
  rfl

theorem keys_put (entry : α) (entries : List α) :
    (put keyOf entry entries).map keyOf =
      ((entries.map keyOf).filter fun other => other ≠ keyOf entry) ++ [keyOf entry] := by
  rw [put, List.map_append, keys_without, List.map_singleton]

theorem nodup_without {entries : List α} (h : (entries.map keyOf).Nodup) (key : κ) :
    ((without keyOf key entries).map keyOf).Nodup :=
  h.sublist (List.filter_sublist.map keyOf)

theorem nodup_put {entries : List α} (h : (entries.map keyOf).Nodup) (entry : α) :
    ((put keyOf entry entries).map keyOf).Nodup := by
  rw [keys_put, List.nodup_append]
  refine ⟨h.filter _, List.pairwise_singleton _ _, fun other member own new => ?_⟩
  rw [List.mem_singleton.mp new]
  exact of_decide_eq_true (List.mem_filter.mp member).2

end AsmDiagnostics.Keyed
