import Mathlib.Data.String.Basic
import AsmDiagnostics.Documents

/-!
# The entries of the open documents

For each operation, the document that is open for every URI afterwards.  The entries stay in order,
with one entry for each URI, so that going through them meets every open document once.
-/

namespace AsmDiagnostics.Documents

variable {uri other : Uri} {document : TextDocument} {entries : List (Uri × TextDocument)}

/-! ## Looking up -/

theorem find?_put_other (different : other ≠ uri) :
    find? other (put uri document entries) = find? other entries := by
  induction entries with
  | nil => simp [put, find?, Ne.symm different]
  | cons entry rest ih =>
      obtain ⟨key, old⟩ := entry
      unfold put
      split
      · rename_i same
        subst same
        simp [find?, Ne.symm different]
      · split
        · simp [find?, Ne.symm different]
        · simp [find?, ih]

theorem find?_close (uri other : Uri) (entries : List (Uri × TextDocument)) :
    find? other (entries.filter fun entry => entry.1 ≠ uri) =
      if other = uri then Option.none else find? other entries := by
  induction entries with
  | nil => simp [find?]
  | cons entry rest ih =>
      obtain ⟨key, old⟩ := entry
      by_cases kept : key = uri
      · subst kept
        rw [List.filter_cons_of_neg (by simp), ih]
        by_cases same : other = key
        · simp [same]
        · simp [find?, same, Ne.symm same]
      · rw [List.filter_cons_of_pos (by simpa using kept), find?, find?, ih]
        by_cases found : key = other
        · subst found
          simp [kept]
        · simp [found]

theorem mem_of_find? (found : find? uri entries = some document) : (uri, document) ∈ entries := by
  induction entries with
  | nil => simp [find?] at found
  | cons entry rest ih =>
      obtain ⟨key, old⟩ := entry
      unfold find? at found
      split at found
      · rename_i same
        obtain rfl := Option.some.inj found
        exact same ▸ List.mem_cons_self
      · exact List.mem_cons_of_mem _ (ih found)

theorem find?_isSome_iff : (find? uri entries).isSome ↔ uri ∈ entries.map Prod.fst := by
  induction entries with
  | nil => simp [find?]
  | cons entry rest ih =>
      obtain ⟨key, old⟩ := entry
      unfold find?
      split
      · rename_i same
        simp [same]
      · rename_i different
        simp [ih, Ne.symm different]

section Operations

variable (d : Documents) (uri other : Uri) (version : Int)

theorem get?_openAt (text : String) :
    (d.openAt uri version text).get? other =
      if other = uri then some ⟨version, text⟩ else d.get? other := by
  split
  · rename_i same
    rw [same]
    exact get?_openAt_self d uri version text
  · rename_i different
    exact find?_put_other different

theorem get?_close : (d.close uri).get? other = if other = uri then Option.none else d.get? other :=
  find?_close uri other d.entries

theorem contains_openAt (text : String) :
    (d.openAt uri version text).contains other = (decide (other = uri) || d.contains other) := by
  unfold contains
  rw [get?_openAt]
  split
  · rename_i same
    simp [same]
  · rename_i different
    simp [different]

theorem contains_close :
    (d.close uri).contains other = (!decide (other = uri) && d.contains other) := by
  unfold contains
  rw [get?_close]
  split
  · rename_i same
    simp [same]
  · rename_i different
    simp [different]

theorem change?_eq_none_iff (edits : List Edit) :
    d.change? uri version edits = Option.none ↔ d.get? uri = Option.none := by
  simp [change?]

variable {d uri version}

theorem get?_change? {edits : List Edit} {document : TextDocument} {edited : Documents}
    (isOpen : d.get? uri = some document) (changed : d.change? uri version edits = some edited) :
    edited.get? other =
      if other = uri then some (document.change version edits) else d.get? other := by
  obtain ⟨old, found, rfl⟩ := Option.map_eq_some_iff.mp changed
  obtain rfl := Option.some.inj (found.symm.trans isOpen)
  split
  · rename_i same
    rw [same]
    exact find?_put_self uri _ d.entries
  · rename_i different
    exact find?_put_other different

theorem contains_change? {edits : List Edit} {edited : Documents}
    (changed : d.change? uri version edits = some edited) :
    edited.contains other = d.contains other := by
  obtain ⟨document, isOpen, -⟩ := Option.map_eq_some_iff.mp changed
  unfold contains
  rw [get?_change? other isOpen changed]
  split
  · rename_i same
    rw [same, isOpen]
    rfl
  · rfl

end Operations

/-! ## Order -/

/-- The entries are in the order of the texts of their URIs, and no two have the same URI. -/
structure InOrder (entries : List (Uri × TextDocument)) : Prop where
  ordered : entries.Pairwise fun a b => a.1.text ≤ b.1.text
  distinct : (entries.map Prod.fst).Nodup

namespace InOrder

theorem nil : InOrder [] := ⟨List.Pairwise.nil, List.nodup_nil⟩

theorem mem_put {entry : Uri × TextDocument} (member : entry ∈ put uri document entries) :
    entry = (uri, document) ∨ entry ∈ entries := by
  induction entries with
  | nil => exact .inl (List.mem_singleton.mp member)
  | cons first rest ih =>
      obtain ⟨key, old⟩ := first
      unfold put at member
      split at member
      · rcases List.mem_cons.mp member with new | behind
        · exact .inl new
        · exact .inr (List.mem_cons_of_mem _ behind)
      · split at member
        · exact List.mem_cons.mp member
        · rcases List.mem_cons.mp member with first | behind
          · exact .inr (first ▸ List.mem_cons_self)
          · exact (ih behind).imp_right (List.mem_cons_of_mem _)

theorem put (h : InOrder entries) (uri : Uri) (document : TextDocument) :
    InOrder (Documents.put uri document entries) := by
  induction entries with
  | nil => exact ⟨List.pairwise_singleton _ _, List.pairwise_singleton _ _⟩
  | cons first rest ih =>
      obtain ⟨key, old⟩ := first
      obtain ⟨ahead, ordered⟩ := List.pairwise_cons.mp h.ordered
      obtain ⟨new, distinct⟩ := List.nodup_cons.mp h.distinct
      unfold Documents.put
      split
      · rename_i same
        subst same
        exact ⟨List.pairwise_cons.mpr ⟨ahead, ordered⟩, List.nodup_cons.mpr ⟨new, distinct⟩⟩
      · rename_i different
        split
        · rename_i before
          -- All entries are behind the new one, and so none of them has its URI.
          have behind : ∀ entry ∈ (key, old) :: rest, uri.text < entry.1.text := by
            intro entry member
            rcases List.mem_cons.mp member with first | later
            · exact first ▸ before
            · exact lt_of_lt_of_le before (ahead entry later)
          refine ⟨List.pairwise_cons.mpr ⟨fun entry member => le_of_lt (behind entry member),
            h.ordered⟩, List.nodup_cons.mpr ⟨fun member => ?_, h.distinct⟩⟩
          obtain ⟨entry, inside, same⟩ := List.mem_map.mp member
          have less := behind entry inside
          rw [same] at less
          exact lt_irrefl _ less
        · rename_i notBefore
          have rest := ih ⟨ordered, distinct⟩
          refine ⟨List.pairwise_cons.mpr ⟨fun entry member => ?_, rest.ordered⟩,
            List.nodup_cons.mpr ⟨fun member => ?_, rest.distinct⟩⟩
          · rcases mem_put member with rfl | later
            · exact le_of_not_gt notBefore
            · exact ahead entry later
          · obtain ⟨entry, inside, same⟩ := List.mem_map.mp member
            rcases mem_put inside with rfl | later
            · exact different same.symm
            · exact new (List.mem_map.mpr ⟨entry, later, same⟩)

theorem filter (h : InOrder entries) (keep : Uri × TextDocument → Bool) :
    InOrder (entries.filter keep) :=
  ⟨h.ordered.sublist List.filter_sublist,
    h.distinct.sublist (List.filter_sublist.map Prod.fst)⟩

/-- Every entry is the one that is found for its URI. -/
theorem find?_of_mem (h : InOrder entries) (member : (uri, document) ∈ entries) :
    find? uri entries = some document := by
  induction entries with
  | nil => exact nomatch member
  | cons first rest ih =>
      obtain ⟨key, old⟩ := first
      obtain ⟨new, distinct⟩ := List.nodup_cons.mp h.distinct
      unfold find?
      rcases List.mem_cons.mp member with same | behind
      · obtain ⟨rfl, rfl⟩ := Prod.mk.inj same
        exact if_pos rfl
      · have apart : key ≠ uri := by
          rintro rfl
          exact new (List.mem_map.mpr ⟨_, behind, rfl⟩)
        rw [if_neg apart]
        exact ih ⟨(List.pairwise_cons.mp h.ordered).2, distinct⟩ behind

end InOrder

theorem mem_uris_iff (d : Documents) (uri : Uri) : uri ∈ d.uris ↔ (d.get? uri).isSome :=
  find?_isSome_iff.symm

end AsmDiagnostics.Documents
